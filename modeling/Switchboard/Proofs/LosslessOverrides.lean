import Mathlib.Data.List.Forall2
import Switchboard.Proofs.Precedence

/-!
# Overrides lose nothing

Settings are laid over other sources as the document of what differs from the defaults. Nothing is
lost by that: the settings are read back from this document alone, and from the one that it makes
over the defaults. For a value `a` in the place of `default`, written as `v` and as `b`:

    read v = some a
    (change? v (some b)).elim (some default) read = some a      without a change, `a` is the default
    (change? v (some b)).elim b b.overlay = v                                               (Kept)

This holds of a scalar that is written in one way only, and of a table if it holds of each of its
members.
-/

namespace Switchboard

namespace Json

/-! ## Scalars -/

section Kept
variable {α : Type} {read : Json → Option α} {a default : α} {v b : Json}

/-- A value is read from what it is written as, and from what that changes in the default; and what
it changes, laid over the default, is what it is written as. -/
structure Kept (read : Json → Option α) (a default : α) (v b : Json) : Prop where
  whole : read v = some a
  changed : (change? v (some b)).elim (some default) read = some a
  restored : (change? v (some b)).elim b b.overlay = v

theorem Kept.scalar (hscalar : ∀ ms, v ≠ .object ms) (hread : read v = some a)
    (hdefault : read b = some default) (hsame : v.same b = true → v = b) :
    Kept read a default v b := by
  by_cases h : v.same b = true
  · obtain rfl := hsame h
    have hchange : change? v (some v) = none := by rw [change?_of_ne hscalar, if_pos h]
    exact ⟨hread, by rw [hchange, Option.elim_none, ← hdefault, hread],
      by rw [hchange, Option.elim_none]⟩
  · have hchange : change? v (some b) = some v := by rw [change?_of_ne hscalar, if_neg h]
    exact ⟨hread, by rw [hchange, Option.elim_some, hread],
      by rw [hchange, Option.elim_some, overlay_of_ne hscalar]⟩

end Kept

/-! ## Tables -/

/-- Two members of one key, of which the one on the left is restored over the other. -/
def Restored (m n : String × Json) : Prop :=
  n.1 = m.1 ∧ (change? m.2 (some n.2)).elim n.2 n.2.overlay = m.2

theorem Kept.member {α : Type} {read : Json → Option α} {a default : α} {v b : Json}
    (h : Kept read a default v b) (key : String) : Restored (key, v) (key, b) :=
  ⟨rfl, h.restored⟩

section Table
variable {vs bs ms upper : List (String × Json)}

theorem keys_eq (h : List.Forall₂ Restored vs bs) : bs.map (·.1) = vs.map (·.1) := by
  induction h with
  | nil => rfl
  | cons hm _ ih => rw [List.map_cons, List.map_cons, hm.1, ih]

theorem overlayMembers_eq (h : List.Forall₂
    (fun m n => n.1 = m.1 ∧ (member? n.1 upper).elim n.2 n.2.overlay = m.2) vs bs) :
    overlayMembers bs upper = vs := by
  induction h with
  | nil => rfl
  | @cons m n vs bs hm _ ih =>
    obtain ⟨key, v⟩ := m
    obtain ⟨k, b⟩ := n
    obtain ⟨rfl, rfl⟩ := hm
    rw [overlayMembers, ih]
    dsimp only
    cases member? k upper <;> rfl

theorem lacking_eq_nil (h : ∀ key ∈ upper.map (·.1), (member? key bs).isSome) :
    lacking upper bs = [] := by
  refine List.filter_eq_nil_iff.2 fun m hm => ?_
  simp [Option.isSome_iff_ne_none.1 (h m.1 (List.mem_map_of_mem hm))]

/-- A table is restored if each of its members is. -/
theorem overlay_changedMembers (hkeys : (vs.map (·.1)).Nodup)
    (h : List.Forall₂ Restored vs bs) :
    (object bs).overlay (.object (changedMembers vs bs)) = .object vs := by
  have hbase : bs.map (·.1) = vs.map (·.1) := keys_eq h
  have hmember : ∀ n ∈ bs, member? n.1 bs = some n.2 :=
    fun n hn => member?_of_mem (by rw [hbase]; exact hkeys) hn
  have hlower : overlayMembers bs (changedMembers vs bs) = vs := by
    obtain ⟨hlength, hpairs⟩ := List.forall₂_iff_zip.1 h
    refine overlayMembers_eq (List.forall₂_iff_zip.2 ⟨hlength, fun {m n} hmn => ?_⟩)
    obtain ⟨hm, hn⟩ := List.of_mem_zip hmn
    obtain ⟨hkey, hrestored⟩ := hpairs hmn
    refine ⟨hkey, ?_⟩
    rw [member?_changedMembers hkeys, hmember n hn, hkey, member?_of_mem hkeys hm,
      Option.bind_some, hrestored]
  have hupper : lacking (changedMembers vs bs) bs = [] := by
    refine lacking_eq_nil fun key hkey => ?_
    obtain ⟨n, hn, rfl⟩ := List.mem_map.1 (hbase ▸ (keys_changedMembers vs bs).subset hkey)
    rw [hmember n hn]
    rfl
  rw [overlay, hlower, hupper, List.append_nil]

theorem overlay_nil (bs : List (String × Json)) :
    (object bs).overlay (.object []) = .object bs := by
  have h : overlayMembers bs [] = bs :=
    overlayMembers_eq (List.forall₂_same.2 fun m _ => ⟨rfl, rfl⟩)
  rw [overlay, h, lacking, List.filter_nil, List.append_nil]

theorem nil_overlay (vs : List (String × Json)) :
    (object []).overlay (.object vs) = .object vs := by
  have h : lacking vs [] = vs := List.filter_eq_self.2 fun m _ => rfl
  rw [overlay, h, overlayMembers, List.nil_append]

/-- The members that a table is read from: all of them, or those that have changed. -/
inductive Told (vs bs : List (String × Json)) : List (String × Json) → Prop
  | whole : Told vs bs vs
  | changed : Told vs bs (changedMembers vs bs)

theorem Told.field? {α : Type} {read : Json → Option α} {a default : α} {key : String} {v b : Json}
    (htold : Told vs bs ms) (hkeys : (vs.map (·.1)).Nodup) (hv : member? key vs = some v)
    (hb : member? key bs = some b) (hkept : Kept read a default v b) :
    Settings.field? ms key default read = some a := by
  cases htold with
  | whole =>
    rw [Settings.field?, hv]
    exact hkept.whole
  | changed =>
    have hchanged := hkept.changed
    rw [Settings.field?, member?_changedMembers hkeys, hv, hb, Option.bind_some]
    cases hc : change? v (some b) <;> rw [hc] at hchanged <;> exact hchanged

section Record
variable {α : Type} {read : Json → Option α} {a default : α}

/-- Where nothing has changed in a table, it is the one that is read from no members at all. -/
theorem Kept.table (hkeys : (vs.map (·.1)).Nodup) (hempty : read (.object []) = some default)
    (hmembers : List.Forall₂ Restored vs bs)
    (hread : ∀ ms, Told vs bs ms → read (.object ms) = some a) :
    Kept read a default (.object vs) (.object bs) := by
  have hchanged := hread _ .changed
  have hrestored := overlay_changedMembers hkeys hmembers
  by_cases hnone : changedMembers vs bs = []
  · -- Then no table is written at all, not one without members.
    have hchange : change? (.object vs) (some (.object bs)) = none := by
      rw [change?_object, hnone]
      rfl
    rw [hnone] at hchanged hrestored
    exact ⟨hread vs .whole, by rw [hchange, Option.elim_none, ← hempty, hchanged],
      by rw [hchange, Option.elim_none, ← overlay_nil bs, hrestored]⟩
  · have hchange : change? (.object vs) (some (.object bs)) =
        some (.object (changedMembers vs bs)) := by
      rw [change?_object, if_neg (by simpa using hnone)]
    exact ⟨hread vs .whole, by rw [hchange, Option.elim_some, hchanged],
      by rw [hchange, Option.elim_some, hrestored]⟩

/-- Over a table without members all members have changed. -/
theorem Kept.additions (hread : read (.object vs) = some a)
    (hempty : read (.object []) = some default) :
    Kept read a default (.object vs) (.object []) := by
  have hchange : change? (.object vs) (some (.object [])) =
      if vs.isEmpty then none else some (.object vs) := by
    rw [change?_object, changedMembers_nil]
  cases vs with
  | nil => exact ⟨hread, by rw [hchange, ← hread, hempty]; rfl, by rw [hchange]; rfl⟩
  | cons m vs => exact ⟨hread, by rw [hchange]; exact hread, by rw [hchange]; exact nil_overlay _⟩

/-- The same of the changes that stand for themselves. -/
theorem Kept.changes {v : Json} (h : Kept read a default v (.object bs))
    (hempty : read (.object []) = some default) :
    read (v.changes (.object bs)) = some a ∧
      (object bs).overlay (v.changes (.object bs)) = v := by
  have hchanged := h.changed
  have hrestored := h.restored
  rw [Json.changes]
  cases hc : change? v (some (.object bs)) with
  | none =>
    rw [hc] at hchanged hrestored
    exact ⟨hempty.trans hchanged, (overlay_nil bs).trans hrestored⟩
  | some w =>
    rw [hc] at hchanged hrestored
    exact ⟨hchanged, hrestored⟩

end Record

end Table

end Json

/-! ## Settings -/

namespace Settings

open Json

/-- What the types of the settings hold: integers in range, and filters of distinct modules, sorted
by module. -/
structure Representable (s : Settings) : Prop where
  maxFiles : IntegerType.u32.holds s.logging.maxFiles
  filters : (s.logging.filters.map (·.1)).Pairwise (· < ·)
  defaultPriority : IntegerType.i64.holds s.dispatch.defaultPriority

theorem kept_bool (x default : Bool) : Kept bool? x default (.bool x) (.bool default) :=
  .scalar (bool_ne_object x) rfl rfl fun h => by rw [(Leaf.same_bool x default).1 h]

theorem kept_choice {α : Type} {all : List α} {name : α → String}
    (h : ∀ a, ofName? all name (name a) = some a) (x default : α) :
    Kept (choice? all name) x default (.string (name x)) (.string (name default)) :=
  .scalar (string_ne_object _) (h x) (h default) fun hsame => by
    rw [(same_name h x default).1 hsame]

theorem fits_of_holds {type : IntegerType} {i : Int} (h : type.holds i) : Number.fits i := by
  simp only [IntegerType.holds, Number.fits, Bool.and_eq_true, decide_eq_true_eq] at h ⊢
  cases type <;>
    simp only [IntegerType.low, IntegerType.high, Number.minSigned, Number.maxSigned,
      Number.maxUnsigned] at h ⊢ <;> omega

theorem integer?_ofInt {type : IntegerType} {i : Int} (h : type.holds i) :
    integer? type (.ofInt i) = some i := by
  rw [Json.ofInt, Number.ofInt, if_pos (fits_of_holds h), integer?, if_pos h]

theorem kept_integer {type : IntegerType} {i default : Int} (hi : type.holds i)
    (hdefault : type.holds default) :
    Kept (integer? type) i default (.ofInt i) (.ofInt default) :=
  .scalar (ofInt_ne_object i) (integer?_ofInt hi) (integer?_ofInt hdefault) fun hsame => by
    rw [same_ofInt (fits_of_holds hdefault), beq_iff_eq] at hsame
    rw [hsame]

theorem kept_path (path : Option LogPath) : path.all LogPath.isText = true →
    Kept path? path none
      (match path with | some path => .string path.shown | none => .null) .null := by
  intro htext
  cases path with
  | none => exact .scalar null_ne_object rfl rfl fun _ => rfl
  | some path =>
    cases path with
    | text path => exact .scalar (string_ne_object path) rfl rfl nofun
    | foreign => cases htext

theorem mapM_filter? (filters : List (String × Level)) :
    (filters.map fun (module, level) => (module, Json.string level.name)).mapM filter? =
      some filters := by
  induction filters with
  | nil => rfl
  | cons f filters ih =>
    obtain ⟨module, level⟩ := f
    have hlevel : filter? (module, .string level.name) = some (module, level) := by
      rw [filter?, show level? (.string level.name) = some level from ofName?_level level]
      rfl
    rw [List.map_cons, List.mapM_cons, hlevel, ih]
    rfl

theorem kept_filters {filters : List (String × Level)}
    (hsorted : (filters.map (·.1)).Pairwise (· < ·)) :
    Kept filters? filters [] (.object (filters.map fun (module, level) =>
      (module, .string level.name))) (.object []) := by
  refine .additions ?_ (by simp [filters?])
  have hpairs : filters.Pairwise fun a b => decide (a.1 ≤ b.1) = true :=
    (List.pairwise_map.1 hsorted).imp fun h => decide_eq_true (Std.le_of_lt h)
  rw [filters?, mapM_filter?, Option.map_some, List.mergeSort_of_pairwise hpairs]

theorem kept_spanEvents (spare : Bool) (s : SpanEvents) :
    Kept (spanEvents? spare) s {} s.toJson ({} : SpanEvents).toJson := by
  have hnew := kept_bool s.new false
  have henter := kept_bool s.enter false
  have hexit := kept_bool s.exit false
  have hclose := kept_bool s.close false
  have hkeys : (s.toJson.members.map (·.1)).Nodup := by simp [SpanEvents.toJson, members]
  refine .table hkeys rfl (.cons (hnew.member _) <| .cons (henter.member _) <|
    .cons (hexit.member _) <| .cons (hclose.member _) .nil) fun ms hms => ?_
  have new : field? ms "new" false bool? = some s.new := hms.field? hkeys rfl rfl hnew
  have enter : field? ms "enter" false bool? = some s.enter := hms.field? hkeys rfl rfl henter
  have exit : field? ms "exit" false bool? = some s.exit := hms.field? hkeys rfl rfl hexit
  have close : field? ms "close" false bool? = some s.close := hms.field? hkeys rfl rfl hclose
  simp only [spanEvents?, fields?, new, enter, exit, close, Option.bind_eq_bind, Option.bind_some]

theorem kept_logging (spare : Bool) {s : LoggingSettings}
    (htext : s.filePath?.all LogPath.isText = true) (hfiles : IntegerType.u32.holds s.maxFiles)
    (hsorted : (s.filters.map (·.1)).Pairwise (· < ·)) :
    Kept (logging? spare) s {} s.toJson ({} : LoggingSettings).toJson := by
  have hlevel := kept_choice ofName?_level s.level .info
  have hformat := kept_choice ofName?_format s.format .compact
  have houtput := kept_choice ofName?_output s.output .stdout
  have hspans := kept_spanEvents spare s.spanEvents
  have hids := kept_bool s.threadIds false
  have hlocation := kept_bool s.fileLocation false
  have hpath := kept_path s.filePath? htext
  have hrotation := kept_choice ofName?_rotation s.rotation .never
  have hmaxFiles := kept_integer hfiles (show IntegerType.u32.holds 5 by decide)
  have hfilters := kept_filters hsorted
  have hkeys : (s.toJson.members.map (·.1)).Nodup := by simp [LoggingSettings.toJson, members]
  refine .table hkeys rfl (.cons (hlevel.member _) <| .cons (hformat.member _) <|
    .cons (houtput.member _) <| .cons (hspans.member _) <| .cons (hids.member _) <|
    .cons (hlocation.member _) <| .cons (hpath.member _) <| .cons (hrotation.member _) <|
    .cons (hmaxFiles.member _) <| .cons (hfilters.member _) .nil) fun ms hms => ?_
  have level : field? ms "level" .info level? = some s.level := hms.field? hkeys rfl rfl hlevel
  have format : field? ms "format" .compact (choice? LogFormat.all LogFormat.name) =
      some s.format := hms.field? hkeys rfl rfl hformat
  have output : field? ms "output" .stdout (choice? LogOutput.all LogOutput.name) =
      some s.output := hms.field? hkeys rfl rfl houtput
  have spans : field? ms "span_events" {} (spanEvents? spare) = some s.spanEvents :=
    hms.field? hkeys rfl rfl hspans
  have ids : field? ms "thread_ids" false bool? = some s.threadIds :=
    hms.field? hkeys rfl rfl hids
  have location : field? ms "file_location" false bool? = some s.fileLocation :=
    hms.field? hkeys rfl rfl hlocation
  have path : field? ms "file_path" none path? = some s.filePath? :=
    hms.field? hkeys rfl rfl hpath
  have rotation : field? ms "rotation" .never (choice? Rotation.all Rotation.name) =
      some s.rotation := hms.field? hkeys rfl rfl hrotation
  have maxFiles : field? ms "max_files" 5 (integer? .u32) = some (s.maxFiles : Int) :=
    hms.field? hkeys rfl rfl hmaxFiles
  have filters : field? ms "filters" [] filters? = some s.filters :=
    hms.field? hkeys rfl rfl hfilters
  simp only [logging?, fields?, level, format, output, spans, ids, location, path, rotation,
    maxFiles, filters, Option.bind_eq_bind, Option.bind_some, Int.toNat_natCast]

theorem kept_dispatch (spare : Bool) {s : DispatchSettings}
    (hheld : IntegerType.i64.holds s.defaultPriority) :
    Kept (dispatch? spare) s {} s.toJson ({} : DispatchSettings).toJson := by
  have hpriority := kept_integer hheld (show IntegerType.i64.holds 500 by decide)
  have hpolicy := kept_choice ofName?_policy s.resolvePolicy .warn
  have hkeys : (s.toJson.members.map (·.1)).Nodup := by simp [DispatchSettings.toJson, members]
  refine .table hkeys rfl (.cons (hpriority.member _) <| .cons (hpolicy.member _) .nil)
    fun ms hms => ?_
  have priority : field? ms "default_priority" 500 (integer? .i64) = some s.defaultPriority :=
    hms.field? hkeys rfl rfl hpriority
  have policy : field? ms "resolve_policy" .warn (choice? ResolvePolicy.all ResolvePolicy.name) =
      some s.resolvePolicy := hms.field? hkeys rfl rfl hpolicy
  simp only [dispatch?, fields?, priority, policy, Option.bind_eq_bind, Option.bind_some]

theorem kept_settings (spare : Bool) {s : Settings} (hs : s.Representable)
    (hwritable : s.isWritable = true) :
    Kept (ofJson? spare) s {} s.toJson ({} : Settings).toJson := by
  have hlogging := kept_logging spare hwritable hs.maxFiles hs.filters
  have hdispatch := kept_dispatch spare hs.defaultPriority
  have hkeys : (s.toJson.members.map (·.1)).Nodup := by simp [Settings.toJson, members]
  refine .table hkeys rfl (.cons (hlogging.member _) <| .cons (hdispatch.member _) .nil)
    fun ms hms => ?_
  have logging : field? ms "logging" {} (logging? spare) = some s.logging :=
    hms.field? hkeys rfl rfl hlogging
  have dispatch : field? ms "dispatch" {} (dispatch? spare) = some s.dispatch :=
    hms.field? hkeys rfl rfl hdispatch
  simp only [ofJson?, fields?, logging, dispatch, Option.bind_eq_bind, Option.bind_some]

end Settings

/-! ## Loading -/

namespace Sources

open Json

theorem exists_changedFields_eq_object (c : Settings) :
    ∃ members, changedFields c = .object members := by
  cases hc : c.isWritable with
  | true =>
    rw [changedFields_of_isWritable hc]
    exact ⟨_, changes_object _ _⟩
  | false => exact ⟨[], changedFields_of_not_isWritable hc⟩

theorem found_eq_nil {disk : Disk} {candidates : List (String × String)}
    (h : ∀ p ∈ candidates, disk p.1 = none ∧ disk p.2 = none) : found disk candidates = [] := by
  induction candidates with
  | nil => rfl
  | cons p candidates ih =>
    obtain ⟨variant, main⟩ := p
    obtain ⟨hvariant, hmain⟩ := h _ List.mem_cons_self
    rw [found, hvariant, hmain, ih fun p hp => h p (List.mem_cons_of_mem _ hp)]
    rfl

/-- Without files and variables, what is merged first lies right over the defaults. -/
theorem layers_of_no_files {around : Surroundings} (c : Settings)
    (hnone : ∀ p ∈ (standard around).candidates around,
      around.disk p.1 = none ∧ around.disk p.2 = none) :
    (ofSteps around [.variables false, .merge c]).layers around = .ok [changedFields c] := by
  have hfiles : (ofSteps around [.variables false, .merge c]).files around = .ok [] :=
    congrArg Except.ok (found_eq_nil hnone)
  have hoverrides :
      (ofSteps around [.variables false, .merge c]).overrides = changedFields c := by
    obtain ⟨members, hmembers⟩ := exists_changedFields_eq_object c
    show (object []).overlay (changedFields c) = changedFields c
    rw [hmembers, nil_overlay]
  rw [layers, hfiles, hoverrides]
  rfl

end Sources

/-- **Overrides lose nothing.** Settings that can be written are read back from their changed
fields; these, laid over the defaults, are all that the settings are written as; and so the settings
are what is loaded where there is nothing else than they. -/
theorem overrides_lose_nothing {c : Settings} (hc : c.Representable)
    (hwritable : c.isWritable = true) :
    (∀ spare, Settings.ofJson? spare (Sources.changedFields c) = some c) ∧
      ({} : Settings).toJson.overlay (Sources.changedFields c) = c.toJson ∧
      ∀ around : Surroundings,
        (∀ p ∈ (Sources.standard around).candidates around,
          around.disk p.1 = none ∧ around.disk p.2 = none) →
        (Sources.ofSteps around [.variables false, .merge c]).load around = .ok c := by
  have hchanges : ∀ spare, Settings.ofJson? spare (Sources.changedFields c) = some c ∧
      ({} : Settings).toJson.overlay (Sources.changedFields c) = c.toJson :=
    fun spare => Sources.changedFields_of_isWritable hwritable ▸
      (Settings.kept_settings spare hc hwritable).changes rfl
  refine ⟨fun spare => (hchanges spare).1, (hchanges true).2, fun around hnone => ?_⟩
  rw [Sources.load, Sources.layers_of_no_files c hnone]
  dsimp only [bind, Except.bind]
  rw [Sources.document, List.foldl_cons, List.foldl_nil, (hchanges true).2,
    (Settings.kept_settings true hc hwritable).whole]

/-- Settings at the ends of their ranges, with filters. -/
def farFromDefault : Settings where
  logging := {
    level := .trace, output := .file, spanEvents := { enter := true, close := true },
    filePath? := some (.text "logs/app.log"), rotation := .hourly, maxFiles := 0xFFFFFFFF,
    filters := [("", .error), ("core::matcher", .debug), ("level", .info)] }
  dispatch := { defaultPriority := -0x8000000000000000 }

/-- A variable and files that no search comes by. -/
def elsewhere : Surroundings where
  assignments := [("BEACON_LOGGING__LEVEL", "error")]
  disk path := if path = "beacon.staging.toml" then some (.file "[logging]\nlevel = 3\n") else none
  userDirectory? := some "/home/user/.config/beacon"

theorem farFromDefault_loses_nothing :
    Settings.ofJson? false (Sources.changedFields farFromDefault) = some farFromDefault ∧
      ({} : Settings).toJson.overlay (Sources.changedFields farFromDefault) =
        farFromDefault.toJson ∧
      (Sources.ofSteps elsewhere [.variables false, .merge farFromDefault]).load elsewhere =
        .ok farFromDefault := by
  have hrepresentable : farFromDefault.Representable :=
    ⟨by decide, by decide +kernel, by decide⟩
  obtain ⟨hread, hrestored, hload⟩ := overrides_lose_nothing hrepresentable rfl
  exact ⟨hread false, hrestored, hload elsewhere (by decide +kernel)⟩

end Switchboard
