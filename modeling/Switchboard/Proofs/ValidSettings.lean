import Mathlib.Tactic.Common
import Switchboard.Exchange
import Switchboard.Logging.Plan

/-!
# Valid settings

Validation is a check of three conditions (`validate_eq_ok_iff`), and they are the ones under which
a plan of logging does what it says:

    a log file has a name              destination is that file, not the error stream
    at least one rotated file is kept  max 1 maxFiles = maxFiles
    every filter is a directive        ignored directives = []

Every exchange holds valid settings, however it was built (`valid_settings_never_fall_back`).
-/

namespace Switchboard

variable {ω : Type}

/-! ## What validation checks -/

namespace Settings

/-- Settings that logging can follow. -/
structure Valid (s : Settings) : Prop where
  named : s.logging.output = .file →
    ∃ path name, s.logging.filePath? = some path ∧ FilePath.fileName? path.shown = some name
  kept : s.logging.rotation ≠ .never → 1 ≤ s.logging.maxFiles
  filters : ∀ filter ∈ s.logging.filters, checkFilter filter = .ok ()

theorem checkOutput_eq_ok_iff (s : LoggingSettings) :
    checkOutput s = .ok () ↔ (s.output = .file →
      ∃ path name, s.filePath? = some path ∧ FilePath.fileName? path.shown = some name) := by
  unfold checkOutput
  cases s.output with
  | stdout => simp
  | stderr => simp
  | file =>
    cases s.filePath? with
    | none => simp
    | some path => cases hname : FilePath.fileName? path.shown <;> simp [hname]

theorem checkRotation_eq_ok_iff (s : LoggingSettings) :
    checkRotation s = .ok () ↔ (s.rotation ≠ .never → 1 ≤ s.maxFiles) := by
  unfold checkRotation
  by_cases hr : s.rotation = .never
  · simp [hr]
  · by_cases hm : s.maxFiles = 0
    · simp [hr, hm]
    · simp [hr, hm, Nat.one_le_iff_ne_zero]

theorem checkFilters_eq_ok_iff (filters : List (String × Level)) :
    checkFilters filters = .ok () ↔ ∀ filter ∈ filters, checkFilter filter = .ok () := by
  induction filters with
  | nil => simp [checkFilters]
  | cons filter rest ih =>
    rw [checkFilters, List.forall_mem_cons]
    cases hf : checkFilter filter with
    | ok u => exact ih.trans (by simp)
    | error e => simp

theorem validate_eq_ok_iff (s : Settings) : s.validate = .ok () ↔ s.Valid := by
  have hparts : s.validate = .ok () ↔ checkOutput s.logging = .ok () ∧
      checkRotation s.logging = .ok () ∧ checkFilters s.logging.filters = .ok () := by
    unfold validate
    cases checkOutput s.logging with
    | error e => simp [bind, Except.bind]
    | ok u =>
      cases checkRotation s.logging with
      | error e => simp [bind, Except.bind]
      | ok u => simp [bind, Except.bind]
  rw [hparts, checkOutput_eq_ok_iff, checkRotation_eq_ok_iff, checkFilters_eq_ok_iff]
  exact ⟨fun ⟨named, kept, filters⟩ => ⟨named, kept, filters⟩,
    fun h => ⟨h.named, h.kept, h.filters⟩⟩

/-- A filter that passes is a directive in the text that logging reads. -/
theorem check_of_checkFilter {filter : String × Level} (h : checkFilter filter = .ok ()) :
    Directive.check (filterText filter) = .ok () := by
  unfold checkFilter at h
  dsimp only at h
  split at h
  · cases h
  · split at h
    · cases h
    · cases hc : Directive.check (filterText filter) with
      | ok u => rfl
      | error e =>
        rw [hc] at h
        cases h

theorem valid_default : ({} : Settings).Valid :=
  ⟨LogOutput.noConfusion, fun h => absurd rfl h, List.forall_mem_nil _⟩

end Settings

/-! ## What logging does -/

namespace LoggingPlan

theorem ignored_eq_nil {directives : List String}
    (h : ∀ d ∈ directives, Directive.check d = .ok ()) : ignored directives = [] := by
  refine List.filterMap_eq_nil_iff.2 fun d hd => ?_
  rw [h d hd]

theorem destination_of_named {p : LoggingPlan} {path : LogPath} {name : String}
    (houtput : p.output = .file) (hpath : p.filePath? = some path)
    (hname : FilePath.fileName? path.shown = some name) :
    p.destination =
      .file (FilePath.directory path.shown) (name ++ rotationSuffix p.rotation) p.kept? := by
  unfold destination fileName
  rw [houtput, hpath]
  dsimp only
  rw [hname]
  rfl

theorem kept?_of_rotates {p : LoggingPlan} (hrotates : p.rotation ≠ .never)
    (hkept : 1 ≤ p.maxFiles) : p.kept? = some p.maxFiles := by
  rw [kept?, if_neg hrotates, Nat.max_eq_right hkept]

end LoggingPlan

/-! ## Exchanges -/

namespace Exchange

/-- How exchanges come about. -/
inductive Obtained : Exchange ω → Prop
  | standard (around : Surroundings) : Obtained (.standard around)
  | ofSettings {settings : Settings} {x : Exchange ω}
      (built : Exchange.ofSettings settings = .ok x) : Obtained x
  | ofSources {sources : Sources} {around : Surroundings} {x : Exchange ω}
      (built : Exchange.ofSources sources around = .ok x) : Obtained x
  | register {x : Exchange ω} (obtained : Obtained x) (name : String) (handler : Handler ω) :
      Obtained (x.register name handler)

theorem valid_of_ofSettings {settings : Settings} {x : Exchange ω}
    (h : ofSettings settings = .ok x) : x.settings.Valid := by
  unfold ofSettings at h
  cases hv : settings.validate with
  | error e =>
    rw [hv] at h
    cases h
  | ok u =>
    rw [hv] at h
    cases h
    exact (Settings.validate_eq_ok_iff settings).1 hv

theorem valid_of_ofSources {sources : Sources} {around : Surroundings} {x : Exchange ω}
    (h : ofSources sources around = .ok x) : x.settings.Valid := by
  unfold ofSources at h
  cases hl : sources.load around with
  | error e =>
    rw [hl] at h
    cases h
  | ok settings =>
    rw [hl] at h
    exact valid_of_ofSettings h

theorem valid_standard (around : Surroundings) :
    (standard around : Exchange ω).settings.Valid := by
  unfold standard
  split
  · next x hx => exact valid_of_ofSources hx
  · exact Settings.valid_default

/-- Every exchange holds valid settings. -/
theorem Obtained.valid {x : Exchange ω} (h : Obtained x) : x.settings.Valid := by
  induction h with
  | standard around => exact valid_standard around
  | ofSettings built => exact valid_of_ofSettings built
  | ofSources built => exact valid_of_ofSources built
  | register obtained name handler ih => exact ih

end Exchange

/-- **Validation rules out that logging falls back.** An exchange holds valid settings only,
however it was built. And the plan of logging of valid settings ignores no directive, writes to the
file that the settings name if it should write to a file, and keeps as many rotated files as they
ask for. -/
theorem valid_settings_never_fall_back :
    (∀ x : Exchange ω, x.Obtained → x.settings.validate = .ok ()) ∧
      ∀ s : Settings, s.validate = .ok () →
        let p := LoggingPlan.ofSettings s.logging
        (∀ d ∈ p.directives, Directive.check d = .ok ()) ∧
          LoggingPlan.ignored p.directives = [] ∧
          (p.output = .file → ∃ path name, p.filePath? = some path ∧
            FilePath.fileName? path.shown = some name ∧
            p.destination = .file (FilePath.directory path.shown)
              (name ++ LoggingPlan.rotationSuffix p.rotation) p.kept?) ∧
          (p.rotation ≠ .never → 1 ≤ p.maxFiles ∧ p.kept? = some p.maxFiles) := by
  refine ⟨fun x h => (Settings.validate_eq_ok_iff _).2 h.valid, fun s hs => ?_⟩
  intro p
  have hvalid := (Settings.validate_eq_ok_iff s).1 hs
  have hdirectives : ∀ d ∈ p.directives, Directive.check d = .ok () := by
    intro d hd
    obtain ⟨filter, hfilter, rfl⟩ := List.mem_map.1 hd
    exact Settings.check_of_checkFilter (hvalid.filters filter hfilter)
  refine ⟨hdirectives, LoggingPlan.ignored_eq_nil hdirectives, fun houtput => ?_,
    fun hrotates => ?_⟩
  · obtain ⟨path, name, hpath, hname⟩ := hvalid.named houtput
    exact ⟨path, name, hpath, hname, LoggingPlan.destination_of_named houtput hpath hname⟩
  · have hkept : 1 ≤ p.maxFiles := hvalid.kept hrotates
    exact ⟨hkept, LoggingPlan.kept?_of_rotates hrotates hkept⟩

/-- Settings that log to a file which is begun anew every day. -/
def dailyLog : Settings :=
  { logging :=
    { output := .file, filePath? := some (.text "logs/app.log"), rotation := .daily,
      filters := [("core", .trace)] } }

theorem dailyLog_never_falls_back :
    let x : Exchange Unit := { settings := dailyLog }
    let p := LoggingPlan.ofSettings dailyLog.logging
    x.settings.validate = .ok () ∧ p.directives = ["core=trace"] ∧
      LoggingPlan.ignored p.directives = [] ∧
      (∃ path name, p.filePath? = some path ∧ p.destination = .file (FilePath.directory path.shown)
        (name ++ LoggingPlan.rotationSuffix p.rotation) p.kept?) ∧ p.kept? = some 5 := by
  intro x p
  have hvalid : dailyLog.validate = .ok () := rfl
  have hbuilt : Exchange.ofSettings dailyLog = .ok x := by
    rw [Exchange.ofSettings, hvalid]
    rfl
  obtain ⟨hexchange, hplan⟩ := valid_settings_never_fall_back (ω := Unit)
  obtain ⟨-, hignored, hfile, hkept⟩ := hplan dailyLog hvalid
  obtain ⟨path, name, hpath, -, hdestination⟩ := hfile rfl
  exact ⟨hexchange x (.ofSettings hbuilt), rfl, hignored, ⟨path, name, hpath, hdestination⟩,
    (hkept (by decide)).2⟩

end Switchboard
