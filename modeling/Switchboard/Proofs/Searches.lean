import Switchboard.Proofs.Precedence

/-!
# Searches

A search goes through candidates, directory by directory and in each through `beacon` and `config`.
It visits them up to the first whose main file is there:

    visited    earlier ++ [c]                                  if `c` is the first with a main file
    read       the variants of `earlier` and of `c` that are there, then the main file of `c`

What lies behind the last candidate visited is of no account (`Visits.congr`), and the main file is
laid over the variants.
-/

namespace Switchboard.Sources

open Json (find Finding)

/-! ## Visits -/

/-- How a search on a disk goes through candidates: those that it visits, and the main file at which
it stops. -/
inductive Visits (disk : Disk) :
    List (String × String) → List (String × String) → Option String → Prop
  | stop {earlier later : List (String × String)} {c : String × String}
      (habsent : ∀ b ∈ earlier, disk b.2 = none) (hpresent : (disk c.2).isSome) :
      Visits disk (earlier ++ c :: later) (earlier ++ [c]) (some c.2)
  | exhaust {candidates : List (String × String)} (habsent : ∀ b ∈ candidates, disk b.2 = none) :
      Visits disk candidates candidates none

section Visits
variable {disk disk' : Disk} {candidates visited : List (String × String)} {main? : Option String}

theorem Visits.cons {b : String × String} (h : Visits disk candidates visited main?)
    (hb : disk b.2 = none) : Visits disk (b :: candidates) (b :: visited) main? := by
  cases h with
  | stop habsent hpresent => exact .stop (List.forall_mem_cons.2 ⟨hb, habsent⟩) hpresent
  | exhaust habsent => exact .exhaust (List.forall_mem_cons.2 ⟨hb, habsent⟩)

theorem exists_visits (disk : Disk) (candidates : List (String × String)) :
    ∃ visited main?, Visits disk candidates visited main? := by
  induction candidates with
  | nil => exact ⟨[], none, .exhaust nofun⟩
  | cons c candidates ih =>
    obtain ⟨visited, main?, h⟩ := ih
    cases hc : disk c.2 with
    | none => exact ⟨_, _, h.cons hc⟩
    | some entry =>
      have hstop : Visits disk ([] ++ c :: candidates) ([] ++ [c]) (some c.2) :=
        .stop nofun (by simp [hc])
      exact ⟨_, _, hstop⟩

/-- The candidates visited are the front up to the first main file. -/
theorem Visits.eq (h : Visits disk candidates visited main?) :
    throughFirst (fun c => (disk c.2).isSome) candidates = visited ∧
      (candidates.find? fun c => (disk c.2).isSome).map (·.2) = main? := by
  cases h with
  | @stop earlier later c habsent hpresent =>
    have hnone : ∀ b ∈ earlier, (disk b.2).isSome = false := fun b hb => by simp [habsent b hb]
    refine ⟨throughFirst_append_cons hnone hpresent _, ?_⟩
    have hfirst : (c :: later).find? (fun b => (disk b.2).isSome) = some c :=
      List.find?_cons_of_pos hpresent
    rw [List.find?_append, List.find?_eq_none.2 (by simpa using habsent), hfirst]
    rfl
  | exhaust habsent =>
    refine ⟨throughFirst_eq_self fun b hb => by simp [habsent b hb], ?_⟩
    rw [List.find?_eq_none.2 (by simpa using habsent)]
    rfl

/-- What is read are the variants that are there, and the main file behind them. -/
theorem Visits.found (h : Visits disk candidates visited main?) :
    Sources.found disk candidates =
      (visited.map (·.1)).filter (fun path => (disk path).isSome) ++ main?.toList := by
  rw [found_eq, h.eq.1, h.eq.2]

/-- The disk matters only where candidates are visited. -/
theorem Visits.congr (h : Visits disk candidates visited main?)
    (hsame : ∀ c ∈ visited, disk' c.2 = disk c.2) : Visits disk' candidates visited main? := by
  cases h with
  | stop habsent hpresent =>
    refine .stop (fun b hb => ?_) ?_
    · rw [hsame b (List.mem_append_left _ hb), habsent b hb]
    · rwa [hsame _ List.mem_concat_self]
  | exhaust habsent => exact .exhaust fun b hb => by rw [hsame b hb, habsent b hb]

theorem Visits.mem_of_main (h : Visits disk candidates visited main?) {main : String}
    (hmain : main ∈ main?) : ∃ c ∈ visited, main = c.2 := by
  cases h with
  | stop => exact ⟨_, List.mem_concat_self, (Option.some.inj hmain).symm⟩
  | exhaust => cases hmain

/-- What is read are variants and main files of candidates that are visited. -/
theorem Visits.mem_found (h : Visits disk candidates visited main?) {path : String}
    (hpath : path ∈ Sources.found disk candidates) : ∃ c ∈ visited, path = c.1 ∨ path = c.2 := by
  rw [h.found] at hpath
  rcases List.mem_append.1 hpath with hpath | hpath
  · obtain ⟨c, hc, rfl⟩ := List.mem_map.1 (List.mem_filter.1 hpath).1
    exact ⟨c, hc, .inl rfl⟩
  · obtain ⟨c, hc, hmain⟩ := h.mem_of_main (Option.mem_toList.1 hpath)
    exact ⟨c, hc, .inr hmain⟩

end Visits

/-! ## Reading -/

theorem mapM_congr {α β : Type} {f g : α → Option β} {as : List α} (h : ∀ a ∈ as, f a = g a) :
    as.mapM f = as.mapM g := by
  induction as with
  | nil => rfl
  | cons a as ih =>
    rw [List.mapM_cons, List.mapM_cons, h a List.mem_cons_self,
      ih fun b hb => h b (List.mem_cons_of_mem _ hb)]

theorem readFile?_congr {disk disk' : Disk} {path : String} (h : disk' path = disk path) :
    readFile? disk' path = readFile? disk path := by
  rw [readFile?, readFile?, h]

section Search
variable {s : Sources} {around : Surroundings} {visited : List (String × String)}
  {main? : Option String}

theorem files_of_visits (hfile : s.file? = none)
    (h : Visits around.disk (s.candidates around) visited main?) :
    s.files around = .ok ((visited.map (·.1)).filter (fun path => (around.disk path).isSome) ++
      main?.toList) := by
  rw [files, hfile, ← h.found]

/-- What the disk holds of the candidates that are not visited makes no difference. -/
theorem load_congr (hfile : s.file? = none)
    (h : Visits around.disk (s.candidates around) visited main?) {disk' : Disk}
    (hsame : ∀ c ∈ visited, disk' c.1 = around.disk c.1 ∧ disk' c.2 = around.disk c.2) :
    s.load { around with disk := disk' } = s.load around := by
  have hvisits : Visits disk' (s.candidates around) visited main? :=
    h.congr fun c hc => (hsame c hc).2
  have hfound : found disk' (s.candidates around) = found around.disk (s.candidates around) := by
    rw [hvisits.found, h.found]
    congr 1
    refine List.filter_congr fun path hpath => ?_
    obtain ⟨c, hc, rfl⟩ := List.mem_map.1 hpath
    rw [(hsame c hc).1]
  have hread : (found around.disk (s.candidates around)).mapM (readFile? disk') =
      (found around.disk (s.candidates around)).mapM (readFile? around.disk) := by
    refine mapM_congr fun path hpath => readFile?_congr ?_
    obtain ⟨c, hc, rfl | rfl⟩ := h.mem_found hpath
    · exact (hsame c hc).1
    · exact (hsame c hc).2
  have hfiles : s.files around = .ok (found around.disk (s.candidates around)) := by
    rw [files, hfile]
  have hfiles' : s.files { around with disk := disk' } =
      .ok (found around.disk (s.candidates around)) := by
    rw [files, hfile]
    exact congrArg Except.ok hfound
  have hlayers : s.layers { around with disk := disk' } = s.layers around := by
    unfold layers
    rw [hfiles, hfiles']
    dsimp only [bind, Except.bind]
    rw [hread]
  rw [load, load, hlayers]

/-- The layers are the documents of the variants, the document of the main file, and others. -/
theorem layers_of_visits (hfile : s.file? = none)
    (h : Visits around.disk (s.candidates around) visited main?) {main : String}
    (hmain : main ∈ main?) {layers : List Json} (hlayers : s.layers around = .ok layers) :
    ∃ lower d upper, layers = lower ++ d :: upper ∧ readFile? around.disk main = some d ∧
      ((visited.map (·.1)).filter fun path => (around.disk path).isSome).mapM
        (readFile? around.disk) = some lower := by
  rw [Option.mem_def.1 hmain] at h
  rw [Sources.layers, files_of_visits hfile h] at hlayers
  dsimp only [bind, Except.bind] at hlayers
  split at hlayers
  · cases hlayers
  · next documents hdocuments =>
    cases hlayers
    rw [List.mapM_append] at hdocuments
    obtain ⟨lower, hlower, hdocuments⟩ := Option.bind_eq_some_iff.1 hdocuments
    obtain ⟨upper, hupper, hdocuments⟩ := Option.bind_eq_some_iff.1 hdocuments
    obtain ⟨d, hd, hupper⟩ := Option.bind_eq_some_iff.1 (List.mapM_cons.symm.trans hupper)
    cases hupper
    cases hdocuments
    refine ⟨lower, d, (if s.useVariables then [Variables.document around.assignments] else []) ++
      [s.overrides], ?_, hd, hlower⟩
    simp

end Search

/-- What a document has at a path, unless it is a table, hides what lower documents have there. -/
theorem find_document_concat {path : List String} {d v : Json} (lower : List Json)
    (hv : find path d = .found v) (hscalar : ∀ members, v ≠ .object members) :
    find path (document (lower ++ [d])) = .found v := by
  rw [document, List.foldl_append, List.foldl_cons, List.foldl_nil, Json.find_overlay, hv,
    Finding.overlay_found hscalar]

/-- **The order of a search.** Without a file that is named, a search goes through its candidates,
directory by directory and in each through `beacon` and `config`, up to the first whose main file is
there. It reads the variants of these candidates that are there, each in its turn, and then the main
file, which is laid over the variants. Nothing that the disk holds of later candidates is of any
account. -/
theorem search_reads_in_order (s : Sources) (around : Surroundings) (hfile : s.file? = none) :
    let candidates := (s.directories around).flatMap fun directory =>
      ["beacon", "config"].map fun stem =>
        (FilePath.join directory (stem ++ "." ++ s.profile.name ++ ".toml"),
          FilePath.join directory (stem ++ ".toml"))
    ∃ visited main?, Visits around.disk candidates visited main? ∧
      let variants := (visited.map (·.1)).filter fun path => (around.disk path).isSome
      s.files around = .ok (variants ++ main?.toList) ∧
      (∀ main ∈ main?, ∀ layers, s.layers around = .ok layers →
        ∃ lower d upper, layers = lower ++ d :: upper ∧ readFile? around.disk main = some d ∧
          variants.mapM (readFile? around.disk) = some lower ∧
          ∀ path v, find path d = .found v → (∀ members, v ≠ .object members) →
            find path (document (lower ++ [d])) = .found v) ∧
      ∀ disk' : Disk,
        (∀ c ∈ visited, disk' c.1 = around.disk c.1 ∧ disk' c.2 = around.disk c.2) →
          s.load { around with disk := disk' } = s.load around := by
  intro candidates
  obtain ⟨visited, main?, h⟩ := exists_visits around.disk candidates
  refine ⟨visited, main?, h, files_of_visits hfile h, ?_,
    fun disk' hsame => load_congr hfile h hsame⟩
  intro main hmain layers hlayers
  obtain ⟨lower, d, upper, hsplit, hd, hlower⟩ := layers_of_visits hfile h hmain hlayers
  exact ⟨lower, d, upper, hsplit, hd, hlower,
    fun path v hv hscalar => find_document_concat lower hv hscalar⟩

/-- Two directories to search: the first one has variants and a second main file, and the other one
has a first main file, which comes too late. -/
def twoDirectories : Surroundings where
  assignments := []
  disk path :=
    if path = "conf/beacon.production.toml" then
      some (.file "[dispatch]\ndefault_priority = 1\n[logging]\nlevel = \"warn\"\n")
    else if path = "conf/config.production.toml" then
      some (.file "[dispatch]\ndefault_priority = 2\n")
    else if path = "conf/config.toml" then some (.file "[dispatch]\ndefault_priority = 3\n")
    else if path = "etc/beacon.toml" then some (.file "not read")
    else none
  userDirectory? := none

theorem search_ends_at_config :
    let s : Sources := { profile := .production, searchPaths := ["conf", "etc"] }
    let without : Disk := fun path =>
      if path = "etc/beacon.toml" then none else twoDirectories.disk path
    s.file? = none ∧
      s.files twoDirectories = .ok
        ["conf/beacon.production.toml", "conf/config.production.toml", "conf/config.toml"] ∧
      s.load twoDirectories =
        .ok { dispatch := { defaultPriority := 3 }, logging := { level := .warn } } ∧
      s.load { twoDirectories with disk := without } = s.load twoDirectories := by
  intro s without
  obtain ⟨visited, main?, hvisits, hfiles, -, hlater⟩ := search_reads_in_order s twoDirectories rfl
  have hvisited : visited = [("conf/beacon.production.toml", "conf/beacon.toml"),
      ("conf/config.production.toml", "conf/config.toml")] :=
    hvisits.eq.1.symm.trans (by decide +kernel)
  have hmain : main? = some "conf/config.toml" := hvisits.eq.2.symm.trans (by decide +kernel)
  subst hvisited hmain
  refine ⟨rfl, hfiles.trans (by decide +kernel), by decide +kernel, hlater without ?_⟩
  decide +kernel

end Switchboard.Sources
