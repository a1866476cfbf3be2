import Switchboard.Proofs.NullFree
import Switchboard.Proofs.StableOrder

/-!
# Leaves of settings

A leaf is a setting of its own, or the filter of a module. It stands at a path of the document that
settings are read from, and its value depends on nothing but what is found there:

    found v          the leaf is read from `v`
    missing          the leaf has its default
    blocked          the leaf is read from what stands in its way
                                                  (Leaf.readsAt)

This holds of every record field by field (`Reads`) and goes on along the path (`Reads.cons`).
-/

namespace Switchboard

inductive Leaf where
  | level
  | format
  | output
  | newSpans
  | enteredSpans
  | exitedSpans
  | closedSpans
  | threadIds
  | fileLocation
  | filePath
  | rotation
  | maxFiles
  /-- The level of a module, if there is a filter for it. -/
  | filter (module : String)
  | defaultPriority
  | resolvePolicy
deriving DecidableEq, Repr

namespace Leaf

abbrev Value : Leaf → Type
  | level => Level
  | format => LogFormat
  | output => LogOutput
  | newSpans | enteredSpans | exitedSpans | closedSpans | threadIds | fileLocation => Bool
  | filePath => Option LogPath
  | rotation => Rotation
  | maxFiles => Nat
  | filter _ => Option Level
  | defaultPriority => Int
  | resolvePolicy => ResolvePolicy

/-- The keys that lead to a leaf. -/
def path : Leaf → List String
  | level => ["logging", "level"]
  | format => ["logging", "format"]
  | output => ["logging", "output"]
  | newSpans => ["logging", "span_events", "new"]
  | enteredSpans => ["logging", "span_events", "enter"]
  | exitedSpans => ["logging", "span_events", "exit"]
  | closedSpans => ["logging", "span_events", "close"]
  | threadIds => ["logging", "thread_ids"]
  | fileLocation => ["logging", "file_location"]
  | filePath => ["logging", "file_path"]
  | rotation => ["logging", "rotation"]
  | maxFiles => ["logging", "max_files"]
  | filter module => ["logging", "filters", module]
  | defaultPriority => ["dispatch", "default_priority"]
  | resolvePolicy => ["dispatch", "resolve_policy"]

/-- The value of a leaf under settings. -/
def get : (leaf : Leaf) → Settings → leaf.Value
  | level, s => s.logging.level
  | format, s => s.logging.format
  | output, s => s.logging.output
  | newSpans, s => s.logging.spanEvents.new
  | enteredSpans, s => s.logging.spanEvents.enter
  | exitedSpans, s => s.logging.spanEvents.exit
  | closedSpans, s => s.logging.spanEvents.close
  | threadIds, s => s.logging.threadIds
  | fileLocation, s => s.logging.fileLocation
  | filePath, s => s.logging.filePath?
  | rotation, s => s.logging.rotation
  | maxFiles, s => s.logging.maxFiles
  | filter module, s => s.logging.filters.lookup module
  | defaultPriority, s => s.dispatch.defaultPriority
  | resolvePolicy, s => s.dispatch.resolvePolicy

open Settings in
/-- The value that a document spells which stands at the leaf. -/
def read : (leaf : Leaf) → Json → Option leaf.Value
  | level, v => level? v
  | format, v => choice? LogFormat.all LogFormat.name v
  | output, v => choice? LogOutput.all LogOutput.name v
  | newSpans, v | enteredSpans, v | exitedSpans, v | closedSpans, v => bool? v
  | threadIds, v | fileLocation, v => bool? v
  | filePath, v => path? v
  | rotation, v => choice? Rotation.all Rotation.name v
  | maxFiles, v => (integer? .u32 v).map Int.toNat
  | filter _, v => (level? v).map some
  | defaultPriority, v => integer? .i64 v
  | resolvePolicy, v => choice? ResolvePolicy.all ResolvePolicy.name v

/-- The value that a document gives which stands at a place, with nothing else around it. -/
def given (leaf : Leaf) (place : List String) (v : Json) : Option leaf.Value :=
  (Settings.ofJson? true (Variables.nest place v)).map leaf.get

end Leaf

/-! ## Reading along a path -/

/-- A component of a table is read from the member of a key. -/
structure Reads {α β : Type} (table : Json → Option α) (key : String) (item : Json → Option β)
    (get : α → β) (default : α) : Prop where
  present : ∀ {members a v}, table (.object members) = some a →
    Json.member? key members = some v → item v = some (get a)
  absent : ∀ {members a}, table (.object members) = some a →
    Json.member? key members = none → get a = get default
  alone : ∀ {v b}, item v = some b → ∃ a, table (.object [(key, v)]) = some a ∧ get a = b

/-- A component of a table is read from what is found at a path. -/
structure ReadsAt {α β : Type} (table : Json → Option α) (path : List String)
    (item : Json → Option β) (get : α → β) (default : α) : Prop where
  found : ∀ {d a v}, table d = some a → Json.find path d = .found v → item v = some (get a)
  blocked : ∀ {d a depth v}, table d = some a → Json.find path d = .blocked depth v →
    ∃ b, table (Variables.nest (path.take depth) v) = some b ∧ get b = get a
  missing : ∀ {d a depth}, table d = some a → Json.find path d = .missing depth →
    get a = get default
  alone : ∀ {v b}, item v = some b → ∃ a, table (Variables.nest path v) = some a ∧ get a = b

namespace Reads
variable {α β γ : Type} {table : Json → Option α} {key : String}

theorem nil (item : Json → Option β) (default : β) : ReadsAt item [] item id default where
  found h hf := by
    cases hf
    exact h
  blocked _ hf := by cases hf
  missing _ hf := by cases hf
  alone h := ⟨_, h, rfl⟩

/-- From the member of a key on, the path is followed in the component. -/
theorem cons {middle : Json → Option β} {item : Json → Option γ} {get : α → β} {next : β → γ}
    {default : α} {path : List String} (h : Reads table key middle get default)
    (hpath : ReadsAt middle path item next (get default)) :
    ReadsAt table (key :: path) item (next ∘ get) default := by
  constructor
  · intro d a v ha hv
    rcases Json.find_cons_cases key path d with hd | ⟨members, rfl, ⟨-, hd⟩ | ⟨w, hm, hd⟩⟩
    · rw [hd] at hv
      cases hv
    · rw [hd] at hv
      cases hv
    · rw [hd] at hv
      exact hpath.found (h.present ha hm) (Json.Finding.below_eq_found hv)
  · intro d a depth v ha hv
    rcases Json.find_cons_cases key path d with hd | ⟨members, rfl, ⟨-, hd⟩ | ⟨w, hm, hd⟩⟩
    · rw [hd] at hv
      cases hv
      exact ⟨a, ha, rfl⟩
    · rw [hd] at hv
      cases hv
    · rw [hd] at hv
      obtain ⟨c, rfl, hw⟩ := Json.Finding.below_eq_blocked hv
      obtain ⟨b, hb, hget⟩ := hpath.blocked (h.present ha hm) hw
      obtain ⟨e, he, rfl⟩ := h.alone hb
      exact ⟨e, he, hget⟩
  · intro d a depth ha hv
    rcases Json.find_cons_cases key path d with hd | ⟨members, rfl, ⟨hm, -⟩ | ⟨w, hm, hd⟩⟩
    · rw [hd] at hv
      cases hv
    · exact congrArg next (h.absent ha hm)
    · rw [hd] at hv
      obtain ⟨c, hw⟩ := Json.Finding.below_eq_missing hv
      exact hpath.missing (h.present ha hm) hw
  · intro v b hb
    obtain ⟨m, hm, rfl⟩ := hpath.alone hb
    obtain ⟨a, ha, rfl⟩ := h.alone hm
    exact ⟨a, ha, rfl⟩

/-- The path ends at the member of the key. -/
theorem last {item : Json → Option β} {get : α → β} {default : α}
    (h : Reads table key item get default) : ReadsAt table [key] item get default :=
  h.cons (nil item (get default))

/-- Record fields with a default: what a document says that has nothing but the field is `put` in
the record. -/
theorem ofField {item : Json → Option β} {get : α → β} {default : α} (put : β → α)
    (hfield : ∀ {members a}, table (.object members) = some a →
      Settings.field? members key (get default) item = some (get a))
    (hput : ∀ b, get (put b) = b)
    (halone : ∀ v, table (.object [(key, v)]) = (item v).bind fun b => some (put b)) :
    Reads table key item get default where
  present h hm := by
    have hf := hfield h
    rw [Settings.field?, hm] at hf
    exact hf
  absent h hm := by
    have hf := hfield h
    rw [Settings.field?, hm] at hf
    exact (Option.some.inj hf).symm
  alone {v b} h := ⟨put b, by rw [halone, h, Option.bind_some], hput b⟩

end Reads

/-! ## The records of settings -/

namespace Settings

theorem ofJson?_object {members : List (String × Json)} {s : Settings}
    (h : ofJson? true (.object members) = some s) :
    field? members "logging" {} (logging? true) = some s.logging ∧
      field? members "dispatch" {} (dispatch? true) = some s.dispatch := by
  simp only [ofJson?, fields?, Option.bind_eq_bind, Option.bind_some, Option.bind_eq_some_iff,
    Option.some.injEq] at h
  obtain ⟨logging, hlogging, dispatch, hdispatch, rfl⟩ := h
  exact ⟨hlogging, hdispatch⟩

theorem dispatch?_object {members : List (String × Json)} {s : DispatchSettings}
    (h : dispatch? true (.object members) = some s) :
    field? members "default_priority" 500 (integer? .i64) = some s.defaultPriority ∧
      field? members "resolve_policy" .warn (choice? ResolvePolicy.all ResolvePolicy.name) =
        some s.resolvePolicy := by
  simp only [dispatch?, fields?, Option.bind_eq_bind, Option.bind_some, Option.bind_eq_some_iff,
    Option.some.injEq] at h
  obtain ⟨priority, hpriority, policy, hpolicy, rfl⟩ := h
  exact ⟨hpriority, hpolicy⟩

theorem spanEvents?_object {members : List (String × Json)} {s : SpanEvents}
    (h : spanEvents? true (.object members) = some s) :
    field? members "new" false bool? = some s.new ∧
      field? members "enter" false bool? = some s.enter ∧
      field? members "exit" false bool? = some s.exit ∧
      field? members "close" false bool? = some s.close := by
  simp only [spanEvents?, fields?, Option.bind_eq_bind, Option.bind_some,
    Option.bind_eq_some_iff, Option.some.injEq] at h
  obtain ⟨new, hnew, enter, henter, exit, hexit, close, hclose, rfl⟩ := h
  exact ⟨hnew, henter, hexit, hclose⟩

/-- What the fields of the logging settings are read from. -/
structure LoggingFields (members : List (String × Json)) (s : LoggingSettings) : Prop where
  level : field? members "level" .info level? = some s.level
  format : field? members "format" .compact (choice? LogFormat.all LogFormat.name) = some s.format
  output : field? members "output" .stdout (choice? LogOutput.all LogOutput.name) = some s.output
  spanEvents : field? members "span_events" {} (spanEvents? true) = some s.spanEvents
  threadIds : field? members "thread_ids" false bool? = some s.threadIds
  fileLocation : field? members "file_location" false bool? = some s.fileLocation
  filePath : field? members "file_path" none path? = some s.filePath?
  rotation : field? members "rotation" .never (choice? Rotation.all Rotation.name) =
    some s.rotation
  maxFiles : field? members "max_files" 5 (fun v => (integer? .u32 v).map Int.toNat) =
    some s.maxFiles
  filters : field? members "filters" [] filters? = some s.filters

theorem field?_map {α β : Type} {members : List (String × Json)} {name : String} {default : α}
    {read : Json → Option α} {a : α} (h : field? members name default read = some a) (f : α → β) :
    field? members name (f default) (fun v => (read v).map f) = some (f a) := by
  unfold field? at h ⊢
  cases hm : Json.member? name members with
  | none =>
    rw [hm] at h
    cases h
    rfl
  | some v =>
    rw [hm] at h
    dsimp only at h ⊢
    rw [h]
    rfl

theorem logging?_object {members : List (String × Json)} {s : LoggingSettings}
    (h : logging? true (.object members) = some s) : LoggingFields members s := by
  simp only [logging?, fields?, Option.bind_eq_bind, Option.bind_some, Option.bind_eq_some_iff,
    Option.some.injEq] at h
  obtain ⟨maxFiles, hmax, level, hlevel, format, hformat, output, houtput, spans, hspans, ids, hids,
    location, hlocation, path, hpath, rotation, hrotation, filters, hfilters, rfl⟩ := h
  exact ⟨hlevel, hformat, houtput, hspans, hids, hlocation, hpath, hrotation,
    field?_map hmax Int.toNat, hfilters⟩

/-! ### Filters -/

/-- A filter is what the first member of its module says. -/
theorem lookup_filters {members : List (String × Json)} {filters : List (String × Level)}
    (h : members.mapM filter? = some filters) (module : String) :
    (∀ v, Json.member? module members = some v →
      (level? v).map some = some (filters.lookup module)) ∧
        (Json.member? module members = none → filters.lookup module = none) := by
  induction members generalizing filters with
  | nil =>
    rw [List.mapM_nil] at h
    cases h
    refine ⟨fun v hv => ?_, fun _ => rfl⟩
    cases hv
  | cons m members ih =>
    obtain ⟨k, w⟩ := m
    rw [List.mapM_cons] at h
    simp only [Option.bind_eq_bind, Option.bind_eq_some_iff, Option.pure_def,
      Option.some.injEq] at h
    obtain ⟨f, hf, rest, hrest, rfl⟩ := h
    obtain ⟨level, hlevel, rfl⟩ := Option.map_eq_some_iff.1 hf
    rw [Json.member?, List.lookup_cons]
    by_cases hk : k = module
    · subst hk
      simp [hlevel]
    · have hne : (module == k) = false := beq_false_of_ne (Ne.symm hk)
      rw [hne, if_neg (by simpa using hk)]
      exact ih hrest

theorem lookup_eq_filter (filters : List (String × Level)) (module : String) :
    filters.lookup module = ((filters.filter (·.1 == module)).head?).map (·.2) := by
  induction filters with
  | nil => rfl
  | cons f filters ih =>
    obtain ⟨k, level⟩ := f
    rw [List.lookup_cons]
    by_cases hk : module = k
    · subst hk
      simp
    · have hne : (module == k) = false := beq_false_of_ne hk
      have hne' : (k == module) = false := beq_false_of_ne (Ne.symm hk)
      simp [hne, hne', ih]

/-- Sorting keeps filters of one module in their order. -/
theorem lookup_mergeSort (filters : List (String × Level)) (module : String) :
    (filters.mergeSort fun a b => a.1 ≤ b.1).lookup module = filters.lookup module := by
  rw [lookup_eq_filter, lookup_eq_filter, filter_mergeSort]
  · exact fun a b c hab hbc => decide_eq_true
      (String.le_trans (of_decide_eq_true hab) (of_decide_eq_true hbc))
  · intro a b
    rcases String.le_total a.1 b.1 with h | h <;> simp [h]
  · intro a b ha hb
    rw [eq_of_beq ha, eq_of_beq hb]
    exact decide_eq_true (String.le_refl module)

theorem reads_filters (module : String) :
    Reads filters? module (fun v => (level? v).map some) (·.lookup module) [] where
  present h hm := by
    obtain ⟨filters, hfilters, rfl⟩ := Option.map_eq_some_iff.1 h
    rw [lookup_mergeSort]
    exact (lookup_filters hfilters module).1 _ hm
  absent h hm := by
    obtain ⟨filters, hfilters, rfl⟩ := Option.map_eq_some_iff.1 h
    rw [lookup_mergeSort]
    exact (lookup_filters hfilters module).2 hm
  alone {v b} h := by
    obtain ⟨level, hlevel, rfl⟩ := Option.map_eq_some_iff.1 h
    exact ⟨[(module, level)], by simp [filters?, filter?, hlevel], by simp⟩

/-! ### Tables -/

theorem reads_logging : Reads (ofJson? true) "logging" (logging? true) Settings.logging {} :=
  .ofField (fun b => { logging := b }) (fun h => (ofJson?_object h).1) (fun _ => rfl) fun _ => rfl

theorem reads_dispatch : Reads (ofJson? true) "dispatch" (dispatch? true) Settings.dispatch {} :=
  .ofField (fun b => { dispatch := b }) (fun h => (ofJson?_object h).2) (fun _ => rfl) fun _ => rfl

theorem reads_spanEvents :
    Reads (logging? true) "span_events" (spanEvents? true) LoggingSettings.spanEvents {} :=
  .ofField (fun b => { spanEvents := b }) (fun h => (logging?_object h).spanEvents) (fun _ => rfl)
    fun _ => rfl

theorem reads_filtersTable :
    Reads (logging? true) "filters" filters? LoggingSettings.filters {} :=
  .ofField (fun b => { filters := b }) (fun h => (logging?_object h).filters) (fun _ => rfl)
    fun _ => rfl

/-! ### Paths -/

theorem readsAt_logging {β : Type} {key : String} {item : Json → Option β}
    (get : LoggingSettings → β) (put : β → LoggingSettings)
    (hfield : ∀ {members s}, LoggingFields members s →
      field? members key (get {}) item = some (get s))
    (hput : ∀ b, get (put b) = b)
    (halone : ∀ v, logging? true (.object [(key, v)]) = (item v).bind fun b => some (put b)) :
    ReadsAt (ofJson? true) ["logging", key] item (fun s => get s.logging) {} :=
  reads_logging.cons (Reads.last (.ofField put (fun h => hfield (logging?_object h)) hput halone))

theorem readsAt_spanEvents {key : String} (get : SpanEvents → Bool) (put : Bool → SpanEvents)
    (hfield : ∀ {members s}, spanEvents? true (.object members) = some s →
      field? members key (get {}) bool? = some (get s))
    (hput : ∀ b, get (put b) = b)
    (halone : ∀ v, spanEvents? true (.object [(key, v)]) = (bool? v).bind fun b => some (put b)) :
    ReadsAt (ofJson? true) ["logging", "span_events", key] bool?
      (fun s => get s.logging.spanEvents) {} :=
  reads_logging.cons (reads_spanEvents.cons (Reads.last (.ofField put hfield hput halone)))

theorem readsAt_dispatch {β : Type} {key : String} {item : Json → Option β}
    (get : DispatchSettings → β) (put : β → DispatchSettings)
    (hfield : ∀ {members s}, dispatch? true (.object members) = some s →
      field? members key (get {}) item = some (get s))
    (hput : ∀ b, get (put b) = b)
    (halone : ∀ v, dispatch? true (.object [(key, v)]) = (item v).bind fun b => some (put b)) :
    ReadsAt (ofJson? true) ["dispatch", key] item (fun s => get s.dispatch) {} :=
  reads_dispatch.cons (Reads.last (.ofField put hfield hput halone))

end Settings

open Settings

/-- Every leaf is read from what is found at its path. -/
theorem Leaf.readsAt (leaf : Leaf) : ReadsAt (ofJson? true) leaf.path leaf.read leaf.get {} := by
  cases leaf with
  | level =>
    exact readsAt_logging LoggingSettings.level (fun b => { level := b }) LoggingFields.level
      (fun _ => rfl) fun _ => rfl
  | format =>
    exact readsAt_logging LoggingSettings.format (fun b => { format := b }) LoggingFields.format
      (fun _ => rfl) fun _ => rfl
  | output =>
    exact readsAt_logging LoggingSettings.output (fun b => { output := b }) LoggingFields.output
      (fun _ => rfl) fun _ => rfl
  | newSpans =>
    exact readsAt_spanEvents SpanEvents.new (fun b => { new := b })
      (fun h => (spanEvents?_object h).1) (fun _ => rfl) fun _ => rfl
  | enteredSpans =>
    exact readsAt_spanEvents SpanEvents.enter (fun b => { enter := b })
      (fun h => (spanEvents?_object h).2.1) (fun _ => rfl) fun _ => rfl
  | exitedSpans =>
    exact readsAt_spanEvents SpanEvents.exit (fun b => { exit := b })
      (fun h => (spanEvents?_object h).2.2.1) (fun _ => rfl) fun _ => rfl
  | closedSpans =>
    exact readsAt_spanEvents SpanEvents.close (fun b => { close := b })
      (fun h => (spanEvents?_object h).2.2.2) (fun _ => rfl) fun _ => rfl
  | threadIds =>
    exact readsAt_logging LoggingSettings.threadIds (fun b => { threadIds := b })
      LoggingFields.threadIds (fun _ => rfl) fun _ => rfl
  | fileLocation =>
    exact readsAt_logging LoggingSettings.fileLocation (fun b => { fileLocation := b })
      LoggingFields.fileLocation (fun _ => rfl) fun _ => rfl
  | filePath =>
    exact readsAt_logging LoggingSettings.filePath? (fun b => { filePath? := b })
      LoggingFields.filePath (fun _ => rfl) fun _ => rfl
  | rotation =>
    exact readsAt_logging LoggingSettings.rotation (fun b => { rotation := b })
      LoggingFields.rotation (fun _ => rfl) fun _ => rfl
  | maxFiles =>
    refine readsAt_logging LoggingSettings.maxFiles (fun b => { maxFiles := b })
      LoggingFields.maxFiles (fun _ => rfl) fun v => ?_
    rw [show Leaf.maxFiles.read v = (integer? .u32 v).map Int.toNat from rfl, Option.bind_map]
    rfl
  | filter module => exact reads_logging.cons (reads_filtersTable.cons (reads_filters module).last)
  | defaultPriority =>
    exact readsAt_dispatch DispatchSettings.defaultPriority (fun b => { defaultPriority := b })
      (fun h => (dispatch?_object h).1) (fun _ => rfl) fun _ => rfl
  | resolvePolicy =>
    exact readsAt_dispatch DispatchSettings.resolvePolicy (fun b => { resolvePolicy := b })
      (fun h => (dispatch?_object h).2) (fun _ => rfl) fun _ => rfl

namespace Leaf

theorem null_of_choice? {α : Type} {all : List α} {name : α → String}
    {members : List (String × Json)} {a : α} (h : choice? all name (.object members) = some a) :
    ∃ m ∈ members, m.2 = .null := by
  obtain ⟨s, hs, -⟩ := Option.bind_eq_some_iff.1 h
  unfold Json.variant? at hs
  split at hs
  · next he => cases he
  · next he =>
    cases he
    exact ⟨_, List.mem_singleton_self _, rfl⟩
  · cases hs

/-- No leaf is read from an object, unless something in it is null. -/
theorem null_of_read {leaf : Leaf} {members : List (String × Json)} {x : leaf.Value}
    (h : leaf.read (.object members) = some x) : ∃ m ∈ members, m.2 = .null := by
  cases leaf with
  | level | format | output | rotation | resolvePolicy => exact null_of_choice? h
  | filter module =>
    obtain ⟨level, hlevel, -⟩ := Option.map_eq_some_iff.1 h
    exact null_of_choice? hlevel
  | _ => cases h

/-- What is read at the leaf is what it gives on its own. -/
theorem given_of_read {leaf : Leaf} {v : Json} {x : leaf.Value} (h : leaf.read v = some x) :
    leaf.given leaf.path v = some x := by
  obtain ⟨s, hs, rfl⟩ := leaf.readsAt.alone h
  exact Option.map_eq_some_iff.2 ⟨s, hs, rfl⟩

end Leaf

end Switchboard
