import Switchboard.Proofs.Precedence

/-!
# The directory of the user

Without directories that are named, a search goes through the directory at work in and the one of
the user. Asking for the latter names it, so that it is the only one:

                         searched before    searched afterwards
    `ds` are named       ds                 ds ++ [user]
    none is named        ["", user]         [user]

So nothing is hidden if directories were named before. If none was, the directory at work in is no
longer searched, and the settings files in it are lost (`exists_main_lost`).
-/

namespace Switchboard

namespace FilePath

/-- A name is shorter than the path that leads to it through a directory. -/
theorem length_lt_length_join {directory : String} (h : directory ≠ "") (name : String) :
    name.length < (join directory name).length := by
  have hpos : 0 < directory.length := by
    rw [Nat.pos_iff_ne_zero, Ne, String.length_eq_zero_iff]
    exact h
  rw [join, if_neg h]
  split
  · rw [String.length_append]
    omega
  · rw [String.length_append, String.length_append]
    omega

end FilePath

namespace Sources

variable {s : Sources} {around : Surroundings}

theorem directories_addUserDirectory_of_named (h : s.searchPaths ≠ []) :
    (s.addUserDirectory around).directories around =
      s.directories around ++ around.userDirectory?.toList := by
  unfold addUserDirectory
  cases hd : around.userDirectory? with
  | none => simp
  | some user => simp [directories, addSearchPath, h]

theorem directories_addUserDirectory_of_none_named (h : s.searchPaths = []) {user : String}
    (huser : user ∈ around.userDirectory?) :
    s.directories around = ["", user] ∧
      (s.addUserDirectory around).directories around = [user] := by
  rw [Option.mem_def] at huser
  constructor
  · simp [directories, h, huser]
  · simp [addUserDirectory, huser, directories, addSearchPath, h]

theorem mem_mains_iff {main : String} :
    main ∈ (s.candidates around).map (·.2) ↔
      ∃ d ∈ s.directories around, ∃ stem ∈ stems, FilePath.join d (stem ++ ".toml") = main := by
  simp [candidates]

/-- Both names of settings files are equally long, so neither is another one in a directory. -/
theorem join_ne_stem {directory stem stem' : String} (h : directory ≠ "") (hstem : stem ∈ stems)
    (hstem' : stem' ∈ stems) : FilePath.join directory (stem ++ ".toml") ≠ stem' ++ ".toml" := by
  have hlength : ∀ stem ∈ stems, (stem ++ ".toml").length = 11 := by decide +kernel
  intro heq
  have hlt := FilePath.length_lt_length_join h (stem ++ ".toml")
  rw [heq, hlength stem hstem, hlength stem' hstem'] at hlt
  omega

/-- What is searched is still searched if directories were named, or if the directory of the user is
the one at work in. -/
theorem mem_directories_addUserDirectory
    (h : s.searchPaths ≠ [] ∨ ∀ user ∈ around.userDirectory?, user = "") {d : String}
    (hd : d ∈ s.directories around) : d ∈ (s.addUserDirectory around).directories around := by
  by_cases hnone : s.searchPaths = []
  · have hsame := h.resolve_left (not_not.2 hnone)
    cases huser : around.userDirectory? with
    | none => simpa [addUserDirectory, huser] using hd
    | some user =>
      obtain ⟨hbefore, hafter⟩ :=
        directories_addUserDirectory_of_none_named hnone (Option.mem_def.2 huser)
      rw [hsame user (Option.mem_def.2 huser)] at hbefore hafter
      rw [hafter]
      simpa [hbefore] using hd
  · rw [directories_addUserDirectory_of_named hnone]
    exact List.mem_append_left _ hd

/-- The main files are those of the directories, so they stay if the directories do. -/
theorem mains_subset {s' : Sources}
    (h : ∀ d ∈ s.directories around, d ∈ s'.directories around) :
    ∀ main ∈ (s.candidates around).map (·.2), main ∈ (s'.candidates around).map (·.2) := by
  intro main hmain
  obtain ⟨d, hd, stem, hstem, rfl⟩ := mem_mains_iff.1 hmain
  exact mem_mains_iff.2 ⟨d, h d hd, stem, hstem, rfl⟩

/-- Otherwise the first main file of the directory at work in is no longer a candidate. -/
theorem exists_main_lost (hnone : s.searchPaths = []) {user : String}
    (huser : user ∈ around.userDirectory?) (hne : user ≠ "") :
    ∃ main ∈ (s.candidates around).map (·.2),
      main ∉ ((s.addUserDirectory around).candidates around).map (·.2) := by
  obtain ⟨hbefore, hafter⟩ := directories_addUserDirectory_of_none_named hnone huser
  have hfirst : "beacon" ++ ".toml" ∈ (s.candidates around).map (·.2) :=
    mem_mains_iff.2 ⟨"", by simp [hbefore], "beacon", by decide, rfl⟩
  refine ⟨_, hfirst, fun hkept => ?_⟩
  obtain ⟨d, hd, stem, hstem, hjoin⟩ := mem_mains_iff.1 hkept
  rw [hafter, List.mem_singleton] at hd
  exact join_ne_stem (hd ▸ hne) hstem (by decide) hjoin

/-- Candidates behind one with a main file are of no account. -/
theorem found_append {disk : Disk} {candidates : List (String × String)}
    (h : ∃ c ∈ candidates, (disk c.2).isSome) (more : List (String × String)) :
    found disk (candidates ++ more) = found disk candidates := by
  induction candidates with
  | nil => simp at h
  | cons c candidates ih =>
    obtain ⟨variant, main⟩ := c
    rw [List.cons_append, found, found]
    by_cases hmain : (disk main).isSome
    · rw [if_pos hmain, if_pos hmain]
    · have hrest : ∃ c ∈ candidates, (disk c.2).isSome := by
        simpa [hmain] using h
      rw [if_neg hmain, if_neg hmain, ih hrest]

theorem files_addUserDirectory (hnamed : s.searchPaths ≠ [])
    (hmain : ∃ c ∈ s.candidates around, (around.disk c.2).isSome) :
    (s.addUserDirectory around).files around = s.files around := by
  have hprofile : (s.addUserDirectory around).profile = s.profile := by
    unfold addUserDirectory
    split <;> rfl
  have hfile : (s.addUserDirectory around).file? = s.file? := by
    unfold addUserDirectory
    split <;> rfl
  have hcandidates : found around.disk ((s.addUserDirectory around).candidates around) =
      found around.disk (s.candidates around) := by
    rw [candidates, directories_addUserDirectory_of_named hnamed, hprofile, List.flatMap_append]
    exact found_append hmain _
  rw [files, files, hfile, hcandidates]

end Sources

/-- **Asking for the directory of the user.** Every directory that is searched without it is
searched with it, and every main file stays a candidate, exactly if directories were named before,
or there is no directory of the user but the one at work in. With directories that are named the one
of the user comes last, and a main file that is found is found as before; without them it is the
only one. -/
theorem user_directory_keeps_iff (s : Sources) (around : Surroundings) :
    let asked := s.addUserDirectory around
    let keeps := s.searchPaths ≠ [] ∨ ∀ user ∈ around.userDirectory?, user = ""
    ((∀ d ∈ s.directories around, d ∈ asked.directories around) ↔ keeps) ∧
    ((∀ main ∈ (s.candidates around).map (·.2), main ∈ (asked.candidates around).map (·.2)) ↔
      keeps) ∧
    (s.searchPaths ≠ [] →
      asked.directories around = s.directories around ++ around.userDirectory?.toList ∧
      ((∃ c ∈ s.candidates around, (around.disk c.2).isSome) →
        asked.files around = s.files around)) ∧
    (s.searchPaths = [] → ∀ user ∈ around.userDirectory?, asked.directories around = [user]) := by
  intro asked keeps
  have hkept : keeps → ∀ d ∈ s.directories around, d ∈ asked.directories around :=
    fun h _ hd => Sources.mem_directories_addUserDirectory h hd
  have hkeeps : (∀ main ∈ (s.candidates around).map (·.2),
      main ∈ (asked.candidates around).map (·.2)) → keeps := by
    intro hall
    by_contra hnot
    obtain ⟨hnone, user, huser, hne⟩ :
        s.searchPaths = [] ∧ ∃ user ∈ around.userDirectory?, user ≠ "" := by
      simpa [keeps] using hnot
    obtain ⟨main, hmain, hlost⟩ := Sources.exists_main_lost hnone huser hne
    exact hlost (hall main hmain)
  refine ⟨⟨fun h => hkeeps (Sources.mains_subset h), hkept⟩,
    ⟨hkeeps, fun h => Sources.mains_subset (hkept h)⟩,
    fun hnamed => ⟨Sources.directories_addUserDirectory_of_named hnamed,
      Sources.files_addUserDirectory hnamed⟩,
    fun hnone user huser => (Sources.directories_addUserDirectory_of_none_named hnone huser).2⟩

/-- A settings file in the directory at work in, and a directory of the user without one. -/
def besideProgram : Surroundings where
  assignments := []
  disk path :=
    if path = "beacon.toml" ∨ path = "./beacon.toml" then
      some (.file "[dispatch]\ndefault_priority = 7\n")
    else none
  userDirectory? := some "xdg/beacon"

/-- A directory that is named is searched before the one of the user. -/
theorem named_directory_kept :
    let s := (Sources.standard besideProgram).addSearchPath "."
    let asked := s.addUserDirectory besideProgram
    s.searchPaths ≠ [] ∧ asked.directories besideProgram = [".", "xdg/beacon"] ∧
      asked.files besideProgram = s.files besideProgram ∧
      s.load besideProgram = .ok { dispatch := { defaultPriority := 7 } } := by
  intro s asked
  have hnamed : s.searchPaths ≠ [] := by decide
  obtain ⟨-, -, hkept, -⟩ := user_directory_keeps_iff s besideProgram
  obtain ⟨hdirectories, hfiles⟩ := hkept hnamed
  exact ⟨hnamed, hdirectories.trans rfl, hfiles (by decide +kernel), by decide +kernel⟩

/-- Where no directory is named, asking for the one of the user hides the settings in the directory
at work in. -/
theorem current_directory_hidden :
    let s := Sources.standard besideProgram
    let asked := s.addUserDirectory besideProgram
    "" ∈ s.directories besideProgram ∧ "" ∉ asked.directories besideProgram ∧
      s.load besideProgram = .ok { dispatch := { defaultPriority := 7 } } ∧
      asked.load besideProgram = .ok {} := by
  intro s asked
  exact ⟨by decide, by decide, by decide +kernel, by decide +kernel⟩

end Switchboard
