import Switchboard.Proofs.Leaves

/-!
# Overrides

What settings lay over other sources is what differs from the defaults: at a leaf the document of
the changed fields finds the value of the settings, or nothing if that is the default. Settings that
cannot be written lay nothing over other sources.

    ¬leaf.DefinedBy c    find leaf.path (changedFields c) is missing
    leaf.DefinedBy c     find leaf.path (changedFields c) = found v, and `v` spells the value
                                                                        (Leaf.exists_toldBy)

Overrides block nothing and no object is found in them, so that several can be joined before they
are laid over anything (`Sources.find_overrides`).
-/

namespace Switchboard

namespace Json

/-! ## Changes -/

/-- What is found is just this, or nothing is found. -/
def Finding.Tells (f : Finding) : Option Json → Prop
  | none => f.isMissing
  | some v => f = .found v

theorem Finding.Tells.below {f : Finding} {o : Option Json} (h : f.Tells o) : f.below.Tells o := by
  cases o with
  | some v =>
    have hf : f = .found v := h
    rw [hf]
    rfl
  | none =>
    obtain ⟨depth, rfl⟩ := Finding.isMissing_iff.1 h
    rfl

theorem member?_eq_none {key : String} {members : List (String × Json)}
    (h : key ∉ members.map (·.1)) : member? key members = none := by
  induction members with
  | nil => rfl
  | cons m members ih =>
    obtain ⟨k, v⟩ := m
    rw [List.map_cons, List.mem_cons, not_or] at h
    rw [member?, if_neg (by simpa using Ne.symm h.1)]
    exact ih h.2

theorem keys_changedMembers (members base : List (String × Json)) :
    ((changedMembers members base).map (·.1)).Sublist (members.map (·.1)) := by
  induction members with
  | nil => exact List.Sublist.refl _
  | cons m members ih =>
    obtain ⟨k, v⟩ := m
    rw [changedMembers]
    split
    · exact ih.cons_cons k
    · exact ih.cons k

theorem member?_changedMembers {members : List (String × Json)} (h : (members.map (·.1)).Nodup)
    (key : String) (base : List (String × Json)) :
    member? key (changedMembers members base) =
      (member? key members).bind fun v => change? v (member? key base) := by
  induction members with
  | nil => rfl
  | cons m members ih =>
    obtain ⟨k, v⟩ := m
    obtain ⟨hk, hrest⟩ := List.nodup_cons.1 h
    rw [changedMembers, member?]
    by_cases hkey : k = key
    · subst hkey
      rw [if_pos (by simp), Option.bind_some]
      cases hc : change? v (member? k base) with
      | some w => simp [member?]
      | none => exact member?_eq_none fun hm => hk ((keys_changedMembers members base).subset hm)
    · rw [if_neg (by simpa using hkey), ← ih hrest]
      cases change? v (member? k base) with
      | some w => simp [member?, hkey]
      | none => rfl

theorem change?_object (members base : List (String × Json)) :
    change? (.object members) (some (.object base)) =
      if (changedMembers members base).isEmpty then none
      else some (.object (changedMembers members base)) := by
  rw [change?]

theorem change?_of_ne {v : Json} (hv : ∀ members, v ≠ .object members) (b : Json) :
    change? v (some b) = if v.same b then none else some v := by
  cases v with
  | object members => exact absurd rfl (hv members)
  | _ => rfl

theorem changes_object (members base : List (String × Json)) :
    changes (.object members) (.object base) = .object (changedMembers members base) := by
  rw [changes, change?_object]
  split
  · next h =>
    rw [List.isEmpty_iff.1 h]
    rfl
  · rfl

/-- Without a base everything has changed. -/
theorem changedMembers_nil (members : List (String × Json)) :
    changedMembers members [] = members := by
  induction members with
  | nil => rfl
  | cons m members ih =>
    obtain ⟨k, v⟩ := m
    have hv : change? v none = some v := by cases v <;> rfl
    rw [changedMembers, member?, hv]
    exact congrArg _ ih

theorem tells_member (key : String) (members : List (String × Json)) :
    (find [key] (.object members)).Tells (member? key members) := by
  rw [find_object]
  cases member? key members <;> rfl

section Tells
variable {key : String} {members base : List (String × Json)}

/-- Scalars are told where they differ. -/
theorem tells_changed {v b : Json} (h : (members.map (·.1)).Nodup)
    (hv : member? key members = some v) (hb : member? key base = some b)
    (hscalar : ∀ ms, v ≠ .object ms) :
    (find [key] (.object (changedMembers members base))).Tells
      (if v.same b then none else some v) := by
  rw [find_object, member?_changedMembers h, hv, hb, Option.bind_some, change?_of_ne hscalar]
  by_cases hsame : v.same b <;> simp only [hsame, if_true] <;> rfl

/-- Below a key with objects on both sides their changes are told. -/
theorem tells_changed_below {path : List String} {o : Option Json} {vs bs : List (String × Json)}
    (h : (members.map (·.1)).Nodup) (hv : member? key members = some (.object vs))
    (hb : member? key base = some (.object bs)) (hpath : path ≠ [])
    (ho : (find path (.object (changedMembers vs bs))).Tells o) :
    (find (key :: path) (.object (changedMembers members base))).Tells o := by
  rw [find_object, member?_changedMembers h, hv, hb, Option.bind_some, change?_object]
  by_cases hempty : (changedMembers vs bs).isEmpty
  · -- Without any change the key itself is left out.
    rw [if_pos hempty]
    rw [List.isEmpty_iff.1 hempty] at ho
    cases path with
    | nil => exact absurd rfl hpath
    | cons next path =>
      cases o with
      | none => rfl
      | some v => cases ho
  · rw [if_neg hempty]
    exact ho.below

end Tells

end Json

/-! ## The changed fields of settings -/

namespace Json

/-- The members of an object. -/
def members : Json → List (String × Json)
  | .object ms => ms
  | _ => []

theorem same_ofInt {i j : Int} (hj : Number.fits j) : (ofInt i).same (.ofInt j) = (i == j) := by
  unfold ofInt Number.ofInt
  rw [if_pos hj]
  by_cases hi : Number.fits i
  · rw [if_pos hi]
    rfl
  · rw [if_neg hi]
    have hne : i ≠ j := fun h => hi (by rw [h]; exact hj)
    simp [same, Number.sameAs, hne]

theorem null_ne_object (ms : List (String × Json)) : Json.null ≠ .object ms := nofun

theorem bool_ne_object (b : Bool) (ms : List (String × Json)) : Json.bool b ≠ .object ms := nofun

theorem string_ne_object (s : String) (ms : List (String × Json)) : string s ≠ .object ms := nofun

theorem ofInt_ne_object (i : Int) (ms : List (String × Json)) : ofInt i ≠ .object ms := nofun

end Json

namespace Settings

theorem eq_of_integer? {type : IntegerType} {i j : Int}
    (h : integer? type (Json.ofInt i) = some j) : j = i := by
  unfold Json.ofInt Number.ofInt at h
  split at h
  · rw [integer?] at h
    split at h
    · exact (Option.some.inj h).symm
    · cases h
  · cases h

section Names
variable {α : Type} {all : List α} {name : α → String}

theorem name_injective (h : ∀ a, ofName? all name (name a) = some a) : Function.Injective name := by
  intro a b hab
  have ha := h a
  rw [hab, h b] at ha
  exact (Option.some.inj ha).symm

theorem same_name (h : ∀ a, ofName? all name (name a) = some a) (a b : α) :
    (Json.string (name a)).same (.string (name b)) = true ↔ a = b := by
  simp [Json.same, (name_injective h).eq_iff]

theorem eq_of_choice? (h : ∀ a, ofName? all name (name a) = some a) {a b : α}
    (hb : choice? all name (.string (name a)) = some b) : b = a :=
  Option.some.inj (hb.symm.trans (h a))

theorem ofName?_level (a : Level) : ofName? Level.all Level.name a.name = some a := by
  cases a <;> rfl

theorem ofName?_format (a : LogFormat) : ofName? LogFormat.all LogFormat.name a.name = some a := by
  cases a <;> rfl

theorem ofName?_output (a : LogOutput) : ofName? LogOutput.all LogOutput.name a.name = some a := by
  cases a <;> rfl

theorem ofName?_rotation (a : Rotation) : ofName? Rotation.all Rotation.name a.name = some a := by
  cases a <;> rfl

theorem ofName?_policy (a : ResolvePolicy) :
    ofName? ResolvePolicy.all ResolvePolicy.name a.name = some a := by
  cases a <;> rfl

end Names

theorem member?_filters (filters : List (String × Level)) (module : String) :
    Json.member? module (filters.map fun (module, level) => (module, Json.string level.name)) =
      (filters.lookup module).map fun level => .string level.name := by
  induction filters with
  | nil => rfl
  | cons f filters ih =>
    obtain ⟨k, level⟩ := f
    rw [List.map_cons, Json.member?, List.lookup_cons]
    by_cases hk : module = k
    · subst hk
      simp
    · have hne : (module == k) = false := beq_false_of_ne hk
      rw [hne, if_neg (by simpa using Ne.symm hk)]
      exact ih

end Settings

namespace Sources

open Json

theorem changedFields_of_isWritable {s : Settings} (h : s.isWritable = true) :
    changedFields s = s.toJson.changes ({} : Settings).toJson := by
  rw [changedFields, Settings.toJson?, if_pos h]
  rfl

/-- Settings that cannot be written change nothing. -/
theorem changedFields_of_not_isWritable {s : Settings} (h : s.isWritable = false) :
    changedFields s = .object [] := by
  rw [changedFields, Settings.toJson?, h]
  rfl

section Tables
variable {key : String} {s : Settings} {v b : Json} (hs : s.isWritable = true)
include hs

theorem tells_logging_below {path : List String} {o : Option Json} (hpath : path ≠ [])
    (ho : (find path (.object (changedMembers s.logging.toJson.members
      ({} : LoggingSettings).toJson.members))).Tells o) :
    (find ("logging" :: path) (changedFields s)).Tells o := by
  rw [changedFields_of_isWritable hs, Settings.toJson, Settings.toJson, changes_object]
  exact tells_changed_below (by simp) rfl rfl hpath ho

theorem tells_logging (hv : member? key s.logging.toJson.members = some v)
    (hb : member? key ({} : LoggingSettings).toJson.members = some b)
    (hscalar : ∀ ms, v ≠ .object ms) :
    (find ["logging", key] (changedFields s)).Tells (if v.same b then none else some v) :=
  tells_logging_below hs (by simp)
    (tells_changed (by simp [members, LoggingSettings.toJson]) hv hb hscalar)

theorem tells_spanEvents (hv : member? key s.logging.spanEvents.toJson.members = some v)
    (hb : member? key ({} : SpanEvents).toJson.members = some b)
    (hscalar : ∀ ms, v ≠ .object ms) :
    (find ["logging", "span_events", key] (changedFields s)).Tells
      (if v.same b then none else some v) := by
  refine tells_logging_below hs (by simp) (tells_changed_below
    (by simp [members, LoggingSettings.toJson]) rfl rfl (by simp) ?_)
  exact tells_changed (by simp) hv hb hscalar

theorem tells_filter (module : String) :
    (find ["logging", "filters", module] (changedFields s)).Tells
      ((s.logging.filters.lookup module).map fun level => .string level.name) := by
  refine tells_logging_below hs (by simp) (tells_changed_below
    (by simp [members, LoggingSettings.toJson]) rfl rfl (by simp) ?_)
  show (find [module] (.object (changedMembers _ []))).Tells _
  rw [changedMembers_nil, ← Settings.member?_filters]
  exact tells_member module _

theorem tells_dispatch (hv : member? key s.dispatch.toJson.members = some v)
    (hb : member? key ({} : DispatchSettings).toJson.members = some b)
    (hscalar : ∀ ms, v ≠ .object ms) :
    (find ["dispatch", key] (changedFields s)).Tells (if v.same b then none else some v) := by
  rw [changedFields_of_isWritable hs, Settings.toJson, Settings.toJson, changes_object]
  refine tells_changed_below (by simp) rfl rfl (by simp) ?_
  exact tells_changed (by simp) hv hb hscalar

end Tables

end Sources

/-! ## Leaves -/

namespace Leaf

open Json Sources Settings

/-- Whether settings define a leaf where they are merged: they differ from the default there, and
can be written. -/
def DefinedBy (leaf : Leaf) (s : Settings) : Prop := s.isWritable = true ∧ leaf.get s ≠ leaf.get {}

/-- What the changed fields of settings say about a leaf. -/
structure ToldBy (leaf : Leaf) (s : Settings) (o : Option Json) : Prop where
  tells : (find leaf.path (changedFields s)).Tells o
  none_iff : o = none ↔ leaf.get s = leaf.get {}
  scalar : ∀ ms, o ≠ some (.object ms)
  value : ∀ v x, o = some v → leaf.read v = some x → x = leaf.get s

theorem toldBy_scalar {leaf : Leaf} {s : Settings} {v b : Json}
    (htells : (find leaf.path (changedFields s)).Tells (if v.same b then none else some v))
    (hsame : v.same b = true ↔ leaf.get s = leaf.get {}) (hscalar : ∀ ms, v ≠ .object ms)
    (hread : ∀ x, leaf.read v = some x → x = leaf.get s) :
    leaf.ToldBy s (if v.same b then none else some v) := by
  refine ⟨htells, ?_, ?_, ?_⟩
  · rw [← hsame]
    by_cases h : v.same b <;> simp [h]
  · intro ms h
    split at h
    · cases h
    · exact hscalar ms (Option.some.inj h)
  · intro w x hw hx
    split at hw
    · cases hw
    · cases hw
      exact hread x hx

theorem same_bool (a b : Bool) : (Json.bool a).same (.bool b) = true ↔ a = b := by
  simp [same]

theorem exists_toldBy (leaf : Leaf) {s : Settings} (hs : s.isWritable = true) :
    ∃ o, leaf.ToldBy s o := by
  cases leaf with
  | level =>
    exact ⟨_, toldBy_scalar (tells_logging hs rfl rfl (string_ne_object _))
      (same_name ofName?_level _ _) (string_ne_object _)
      fun x => eq_of_choice? ofName?_level⟩
  | format =>
    exact ⟨_, toldBy_scalar (tells_logging hs rfl rfl (string_ne_object _))
      (same_name ofName?_format _ _) (string_ne_object _)
      fun x => eq_of_choice? ofName?_format⟩
  | output =>
    exact ⟨_, toldBy_scalar (tells_logging hs rfl rfl (string_ne_object _))
      (same_name ofName?_output _ _) (string_ne_object _)
      fun x => eq_of_choice? ofName?_output⟩
  | newSpans | enteredSpans | exitedSpans | closedSpans =>
    exact ⟨_, toldBy_scalar (tells_spanEvents hs rfl rfl (bool_ne_object _)) (same_bool _ _)
      (bool_ne_object _) fun x hx => (Option.some.inj hx).symm⟩
  | threadIds | fileLocation =>
    exact ⟨_, toldBy_scalar (tells_logging hs rfl rfl (bool_ne_object _)) (same_bool _ _)
      (bool_ne_object _) fun x hx => (Option.some.inj hx).symm⟩
  | filePath =>
    cases hpath : s.logging.filePath? with
    | none =>
      have hnone : member? "file_path" s.logging.toJson.members = some .null := by
        simp [LoggingSettings.toJson, members, member?, hpath]
      exact ⟨_, toldBy_scalar (tells_logging hs hnone rfl null_ne_object)
        ⟨fun _ => hpath, fun _ => rfl⟩ null_ne_object
        fun x hx => (Option.some.inj hx).symm.trans hpath.symm⟩
    | some path =>
      obtain ⟨path, rfl⟩ : ∃ text, path = .text text := by
        rw [isWritable, hpath] at hs
        cases path with
        | text path => exact ⟨path, rfl⟩
        | foreign => cases hs
      have hdiffers : Leaf.get .filePath s ≠ none := by
        rw [Leaf.get, hpath]
        exact Option.some_ne_none _
      have hsome : member? "file_path" s.logging.toJson.members = some (string path) := by
        simp [LoggingSettings.toJson, members, member?, hpath, LogPath.shown]
      exact ⟨_, toldBy_scalar (tells_logging hs hsome rfl (string_ne_object path))
        ⟨fun h => absurd h Bool.false_ne_true, fun h => absurd h hdiffers⟩ (string_ne_object path)
        fun x hx => (Option.some.inj hx).symm.trans hpath.symm⟩
  | rotation =>
    exact ⟨_, toldBy_scalar (tells_logging hs rfl rfl (string_ne_object _))
      (same_name ofName?_rotation _ _) (string_ne_object _)
      fun x => eq_of_choice? ofName?_rotation⟩
  | maxFiles =>
    refine ⟨_, toldBy_scalar (tells_logging hs rfl rfl (ofInt_ne_object _)) ?_
      (ofInt_ne_object _) ?_⟩
    · show (ofInt s.logging.maxFiles).same (.ofInt 5) = true ↔ s.logging.maxFiles = 5
      rw [same_ofInt (by decide), beq_iff_eq]
      omega
    · intro x hx
      obtain ⟨i, hi, rfl⟩ := Option.map_eq_some_iff.1 hx
      rw [eq_of_integer? hi]
      rfl
  | filter module =>
    refine ⟨_, tells_filter hs module, ?_, ?_, ?_⟩
    · exact Option.map_eq_none_iff
    · intro ms h
      obtain ⟨level, -, hlevel⟩ := Option.map_eq_some_iff.1 h
      cases hlevel
    · intro v x hv hx
      obtain ⟨level, hlevel, rfl⟩ := Option.map_eq_some_iff.1 hv
      obtain ⟨y, hy, rfl⟩ := Option.map_eq_some_iff.1 hx
      rw [eq_of_choice? ofName?_level hy]
      exact hlevel.symm
  | defaultPriority =>
    refine ⟨_, toldBy_scalar (tells_dispatch hs rfl rfl (ofInt_ne_object _)) ?_ (ofInt_ne_object _)
      fun x => eq_of_integer?⟩
    show (ofInt s.dispatch.defaultPriority).same (.ofInt 500) = true ↔
      s.dispatch.defaultPriority = 500
    rw [same_ofInt (by decide), beq_iff_eq]
  | resolvePolicy =>
    exact ⟨_, toldBy_scalar (tells_dispatch hs rfl rfl (string_ne_object _))
      (same_name ofName?_policy _ _) (string_ne_object _)
      fun x => eq_of_choice? ofName?_policy⟩

/-- Of a leaf that settings do not define, their changed fields say nothing. -/
theorem isMissing_changedFields {leaf : Leaf} {s : Settings} (h : ¬leaf.DefinedBy s) :
    (find leaf.path (changedFields s)).isMissing := by
  cases hs : s.isWritable with
  | true =>
    obtain ⟨o, ho⟩ := leaf.exists_toldBy hs
    have hdefault : leaf.get s = leaf.get {} := not_not.1 fun hne => h ⟨hs, hne⟩
    have htells := ho.tells
    rw [ho.none_iff.2 hdefault] at htells
    exact htells
  | false =>
    rw [changedFields_of_not_isWritable hs]
    cases leaf <;> rfl

/-- Of one that they define, a value is found, and no other value is read from it than theirs. -/
theorem exists_found_changedFields {leaf : Leaf} {s : Settings} (h : leaf.DefinedBy s) :
    ∃ v, find leaf.path (changedFields s) = .found v ∧ (∀ members, v ≠ .object members) ∧
      ∀ x, leaf.read v = some x → x = leaf.get s := by
  obtain ⟨o, ho⟩ := leaf.exists_toldBy h.1
  cases o with
  | none => exact absurd (ho.none_iff.1 rfl) h.2
  | some v =>
    exact ⟨v, ho.tells, fun members hv => ho.scalar members (congrArg some hv),
      fun x => ho.value v x rfl⟩

/-- Changed fields block nothing, and no object is found in them. -/
theorem simple_changedFields (leaf : Leaf) (s : Settings) :
    (find leaf.path (changedFields s)).Simple := by
  by_cases h : leaf.DefinedBy s
  case neg =>
    obtain ⟨depth, hd⟩ := Finding.isMissing_iff.1 (isMissing_changedFields h)
    rw [hd]
    exact ⟨nofun, nofun⟩
  case pos =>
    obtain ⟨v, hv, hscalar, -⟩ := exists_found_changedFields h
    rw [hv]
    refine ⟨nofun, fun members hf => ?_⟩
    cases hf
    exact hscalar members rfl

end Leaf

/-! ## Several overrides -/

namespace Sources

open Json

/-- Overrides may be joined before they are laid over an object. -/
theorem find_overrides (leaf : Leaf) (overrides : List Settings) (members : List (String × Json)) :
    find leaf.path
        ((Json.object members).overlay ((overrides.map changedFields).foldl overlay (.object []))) =
      find leaf.path ((overrides.map changedFields).foldl overlay (.object members)) := by
  have hstart : ∀ v, find leaf.path (.object members) ≠ .blocked 0 v := by
    cases leaf <;> exact find_object_ne_blocked members
  have hempty : find leaf.path (.object []) = .missing 0 := by
    cases leaf <;> rfl
  have hsimple : ∀ f ∈ (overrides.map changedFields).map (find leaf.path), f.Simple := by
    intro f hf
    obtain ⟨d, hd, rfl⟩ := List.mem_map.1 hf
    obtain ⟨s, -, rfl⟩ := List.mem_map.1 hd
    exact leaf.simple_changedFields s
  have hunblocked : ∀ depth v, Finding.missing 0 ≠ .blocked depth v := nofun
  rw [find_overlay, find_foldl_overlay, find_foldl_overlay, hempty,
    Finding.overlay_foldl hunblocked hsimple, Finding.overlay_missing_zero hstart]

end Sources

end Switchboard
