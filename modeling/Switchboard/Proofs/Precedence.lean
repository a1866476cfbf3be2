import Switchboard.Proofs.Front
import Switchboard.Proofs.Overrides

/-!
# Precedence of sources

Sources rank, from the highest: the overrides, later ones first; the variables; the file that is
named, or else the main file of a search; the variants for the profile, those read later first; the
defaults. Leaf by leaf the highest one decides that is not just missing the leaf
(`leaf_precedence`):

    an override that differs    the leaf has the value of the override, if that can be written
    a document that finds v     the leaf has the value that `v` spells
    a document that blocks      the leaf is read from what stands in its way, or has its default
                                where objects above lead as deep
    none                        the leaf has its default

A document blocks where it has something else in the place of a table. It hides what all sources
below it say of the leaf, though it has no value for the leaf itself (`lower_output_hidden`).
-/

namespace Switchboard

open Json (find told Finding)

namespace Sources

/-! ## Building sources -/

/-- What can be done with sources before they are loaded. -/
inductive Step where
  | profile (profile : Profile)
  | searchPath (path : String)
  | userDirectory
  | file (path : String)
  | variables (use : Bool)
  | merge (settings : Settings)

def take (around : Surroundings) (s : Sources) : Step → Sources
  | .profile profile => { s with profile }
  | .searchPath path => s.addSearchPath path
  | .userDirectory => s.addUserDirectory around
  | .file path => { s with file? := some path }
  | .variables use => { s with useVariables := use }
  | .merge settings => s.merge settings

/-- The sources after some steps. -/
def ofSteps (around : Surroundings) (steps : List Step) : Sources :=
  steps.foldl (take around) (standard around)

def Step.merged? : Step → Option Settings
  | .merge settings => some settings
  | _ => none

/-- The settings that are merged, in their order. -/
def merged (steps : List Step) : List Settings := steps.filterMap Step.merged?

theorem overrides_foldl (around : Surroundings) (steps : List Step) (s : Sources) :
    (steps.foldl (take around) s).overrides =
      (merged steps).foldl (fun d c => d.overlay (changedFields c)) s.overrides := by
  induction steps generalizing s with
  | nil => rfl
  | cons step steps ih =>
    rw [List.foldl_cons, ih]
    cases step with
    | userDirectory =>
      have h : (s.addUserDirectory around).overrides = s.overrides := by
        unfold addUserDirectory
        split <;> rfl
      show List.foldl _ (s.addUserDirectory around).overrides _ = _
      rw [h]
      rfl
    | _ => rfl

/-! ## Ranks -/

/-- The file that is named, or the first main file of a search. -/
def mainFile? (s : Sources) (around : Surroundings) : Option String :=
  match s.file? with
  | some path => some path
  | none => ((s.candidates around).find? fun c => (around.disk c.2).isSome).map (·.2)

/-- The variants that a search reads: those of the candidates up to the main file. -/
def variants (s : Sources) (around : Surroundings) : List String :=
  match s.file? with
  | some _ => []
  | none =>
    ((throughFirst (fun c => (around.disk c.2).isSome) (s.candidates around)).map (·.1)).filter
      fun path => (around.disk path).isSome

/-- The documents below the overrides and above the defaults, the highest one first. -/
def ranked? (around : Surroundings) (steps : List Step) : Option (List Json) :=
  let s := ofSteps around steps
  let assigned := if s.useVariables then [Variables.document around.assignments] else []
  ((s.variants around ++ (s.mainFile? around).toList).mapM (readFile? around.disk)).map fun files =>
    assigned ++ files.reverse

theorem found_eq (disk : Disk) (candidates : List (String × String)) :
    found disk candidates =
      ((throughFirst (fun c => (disk c.2).isSome) candidates).map (·.1)).filter
          (fun path => (disk path).isSome) ++
        ((candidates.find? fun c => (disk c.2).isSome).map (·.2)).toList := by
  induction candidates with
  | nil => rfl
  | cons c candidates ih =>
    obtain ⟨variant, main⟩ := c
    rw [found]
    by_cases hmain : (disk main).isSome
    · by_cases hvariant : (disk variant).isSome <;> simp [throughFirst, hmain, hvariant]
    · by_cases hvariant : (disk variant).isSome <;> simp [throughFirst, hmain, hvariant, ih]

/-- The files that are read are the variants and then the main file. -/
theorem files_eq {s : Sources} {around : Surroundings} {paths : List String}
    (h : s.files around = .ok paths) :
    paths = s.variants around ++ (s.mainFile? around).toList := by
  unfold files at h
  unfold variants mainFile?
  cases hfile : s.file? with
  | none =>
    rw [hfile] at h
    cases h
    exact found_eq _ _
  | some path =>
    rw [hfile] at h
    dsimp only at h
    split at h
    · cases h
    · split at h
      · cases h
        rfl
      · cases h

theorem layers_eq {around : Surroundings} {steps : List Step} {layers : List Json}
    (h : (ofSteps around steps).layers around = .ok layers) :
    ∃ ranked, ranked? around steps = some ranked ∧
      layers = ranked.reverse ++ [(ofSteps around steps).overrides] := by
  unfold Sources.layers at h
  cases hfiles : (ofSteps around steps).files around with
  | error e =>
    rw [hfiles] at h
    cases h
  | ok paths =>
    rw [hfiles] at h
    dsimp only [bind, Except.bind] at h
    unfold ranked?
    dsimp only
    rw [← files_eq hfiles]
    cases hread : paths.mapM (readFile? around.disk) with
    | none =>
      rw [hread] at h
      cases h
    | some documents =>
      rw [hread] at h
      cases h
      refine ⟨_, rfl, ?_⟩
      split <;> simp

/-! ## Documents -/

theorem exists_of_mem_mapM {α β : Type} {f : α → Option β} {as : List α} {bs : List β}
    (h : as.mapM f = some bs) {b : β} (hb : b ∈ bs) : ∃ a ∈ as, f a = some b := by
  induction as generalizing bs with
  | nil =>
    rw [List.mapM_nil] at h
    cases h
    cases hb
  | cons a as ih =>
    rw [List.mapM_cons] at h
    obtain ⟨c, hc, h⟩ := Option.bind_eq_some_iff.1 h
    obtain ⟨cs, hcs, h⟩ := Option.bind_eq_some_iff.1 h
    cases h
    rcases List.mem_cons.1 hb with rfl | hb
    · exact ⟨a, List.mem_cons_self, hc⟩
    · obtain ⟨d, hd, hfd⟩ := ih hcs hb
      exact ⟨d, List.mem_cons_of_mem _ hd, hfd⟩

/-- Every ranked document is read from the variables or from a file. -/
theorem mem_ranked {around : Surroundings} {steps : List Step} {ranked : List Json}
    (h : ranked? around steps = some ranked) {d : Json} (hd : d ∈ ranked) :
    d = Variables.document around.assignments ∨ ∃ path, readFile? around.disk path = some d := by
  obtain ⟨files, hfiles, rfl⟩ := Option.map_eq_some_iff.1 h
  rcases List.mem_append.1 hd with hd | hd
  · split at hd
    · exact .inl (List.mem_singleton.1 hd)
    · cases hd
  · obtain ⟨path, -, hpath⟩ := exists_of_mem_mapM hfiles (List.mem_reverse.1 hd)
    exact .inr ⟨path, hpath⟩

theorem keysFrom_ne_nil (current cs : List Char) : Variables.keysFrom current cs ≠ [] := by
  fun_induction Variables.keysFrom current cs with
  | case4 current c cs _ _ ih => exact ih
  | _ => exact List.cons_ne_nil _ _

theorem exists_setting_eq_object (name value : String) :
    ∃ members, Variables.setting name value = .object members := by
  unfold Variables.setting
  split
  · next keys hkeys =>
    cases keys with
    | nil =>
      unfold Variables.keys? at hkeys
      dsimp only at hkeys
      split at hkeys
      · split at hkeys
        · cases hkeys
        · exact absurd (List.map_eq_nil_iff.1 (Option.some.inj hkeys)) (keysFrom_ne_nil _ _)
      · cases hkeys
    | cons key keys => exact ⟨_, rfl⟩
  · exact ⟨_, rfl⟩

/-- Objects over an object make an object. -/
theorem exists_foldl_overlay_eq_object {base : Json} {layers : List Json}
    (hbase : ∃ members, base = .object members) (h : ∀ d ∈ layers, ∃ members, d = .object members) :
    ∃ members, layers.foldl Json.overlay base = .object members := by
  induction layers generalizing base with
  | nil => exact hbase
  | cons d layers ih =>
    obtain ⟨lower, rfl⟩ := hbase
    obtain ⟨upper, rfl⟩ := h d List.mem_cons_self
    rw [List.foldl_cons]
    exact ih ⟨_, by rw [Json.overlay]⟩ fun e he => h e (List.mem_cons_of_mem _ he)

theorem exists_document_eq_object (assignments : List (String × String)) :
    ∃ members, Variables.document assignments = .object members := by
  rw [Variables.document_eq_foldl]
  refine exists_foldl_overlay_eq_object ⟨[], rfl⟩ fun d hd => ?_
  obtain ⟨a, -, rfl⟩ := List.mem_map.1 hd
  exact exists_setting_eq_object a.1 a.2

theorem exists_readFile_eq_object {disk : Disk} {path : String} {d : Json}
    (h : readFile? disk path = some d) : ∃ members, d = .object members := by
  unfold readFile? at h
  split at h
  · obtain ⟨sheet, -, rfl⟩ := Option.map_eq_some_iff.1 h
    exact ⟨_, rfl⟩
  · cases h
    exact ⟨[], rfl⟩

section Ranked
variable {around : Surroundings} {steps : List Step} {ranked : List Json}

theorem exists_eq_object (h : ranked? around steps = some ranked) {d : Json} (hd : d ∈ ranked) :
    ∃ members, d = .object members := by
  rcases mem_ranked h hd with rfl | ⟨path, hpath⟩
  · exact exists_document_eq_object _
  · exact exists_readFile_eq_object hpath

theorem plain_find_of_mem (h : ranked? around steps = some ranked) {d : Json} (hd : d ∈ ranked)
    (path : List String) : (find path d).Plain := by
  rcases mem_ranked h hd with rfl | ⟨file, hfile⟩
  · exact Variables.plain_find_document path _
  · exact (nullFree_readFile hfile).plain_find path

end Ranked

/-- What sources tell of a path: the overrides, later ones first, then the ranked documents, and the
defaults. -/
def sources (steps : List Step) (ranked : List Json) : List Json :=
  (merged steps).reverse.map changedFields ++ ranked ++ [({} : Settings).toJson]

theorem sources_eq {steps : List Step} {ranked above below : List Json} {source : Json}
    (h : ranked = above ++ source :: below) :
    sources steps ranked =
      ((merged steps).reverse.map changedFields ++ above) ++ source ::
        (below ++ [({} : Settings).toJson]) := by
  simp [sources, h]

/-- What is loaded is read from a document that has what the sources tell of each leaf. -/
theorem exists_document {around : Surroundings} {steps : List Step} {settings : Settings}
    (h : (ofSteps around steps).load around = .ok settings) :
    ∃ ranked d, ranked? around steps = some ranked ∧ Settings.ofJson? true d = some settings ∧
      ∀ leaf : Leaf, find leaf.path d = told leaf.path (sources steps ranked) := by
  unfold load at h
  cases hlayers : (ofSteps around steps).layers around with
  | error e =>
    rw [hlayers] at h
    cases h
  | ok layers =>
    rw [hlayers] at h
    dsimp only [bind, Except.bind] at h
    cases hread : Settings.ofJson? true (document layers) with
    | none =>
      rw [hread] at h
      cases h
    | some s =>
      rw [hread] at h
      cases h
      obtain ⟨ranked, hranked, rfl⟩ := layers_eq hlayers
      refine ⟨ranked, _, hranked, hread, fun leaf => ?_⟩
      have hlower : ∃ members,
          ranked.reverse.foldl Json.overlay ({} : Settings).toJson = .object members :=
        exists_foldl_overlay_eq_object ⟨_, rfl⟩
          fun d hd => exists_eq_object hranked (List.mem_reverse.1 hd)
      obtain ⟨members, hmembers⟩ := hlower
      have hoverrides : (ofSteps around steps).overrides =
          ((merged steps).map changedFields).foldl Json.overlay (.object []) := by
        rw [List.foldl_map]
        exact overrides_foldl around steps (standard around)
      calc find leaf.path (document (ranked.reverse ++ [(ofSteps around steps).overrides]))
        _ = find leaf.path ((Json.object members).overlay
              (((merged steps).map changedFields).foldl Json.overlay (.object []))) := by
            rw [document, List.foldl_append, hmembers, hoverrides, List.foldl_cons, List.foldl_nil]
        _ = find leaf.path ((ranked.reverse ++ (merged steps).map changedFields).foldl
              Json.overlay ({} : Settings).toJson) := by
            rw [find_overrides, List.foldl_append, hmembers]
        _ = told leaf.path (sources steps ranked) := by
            rw [Json.find_layers, sources, List.reverse_append, List.reverse_reverse,
              List.map_reverse]

end Sources

/-! ## Leaves -/

namespace Leaf

open Sources

/-- Documents in which objects lead to a leaf for at least so many keys. -/
def Covered (leaf : Leaf) (depth : Nat) (documents : List Json) : Prop :=
  ∃ d ∈ documents, ∃ c, depth ≤ c ∧ find leaf.path d = .missing c

/-- A leaf has what the highest source makes of it, out of overrides in their order, documents below
them with the highest one first, and the defaults. -/
structure Precedence (leaf : Leaf) (overrides : List Settings) (documents : List Json)
    (settings : Settings) : Prop where
  /-- The latest override that defines the leaf counts. -/
  override : ∀ before c after, overrides = before ++ c :: after →
    (∀ d ∈ after, ¬leaf.DefinedBy d) → leaf.DefinedBy c → leaf.get settings = leaf.get c
  /-- Below overrides that do not define it, the highest document with a value counts. -/
  document : (∀ c ∈ overrides, ¬leaf.DefinedBy c) →
    ∀ above source below v, documents = above ++ source :: below →
      (∀ d ∈ above, (find leaf.path d).isMissing) → find leaf.path source = .found v →
        leaf.given leaf.path v = some (leaf.get settings)
  /-- Something else than a table hides what is below it, and is hidden by tables above it. -/
  inTheWay : (∀ c ∈ overrides, ¬leaf.DefinedBy c) →
    ∀ above source below depth v, documents = above ++ source :: below →
      (∀ d ∈ above, (find leaf.path d).isMissing) → find leaf.path source = .blocked depth v →
        (leaf.Covered depth (overrides.map changedFields ++ above) →
          leaf.get settings = leaf.get {}) ∧
        (¬leaf.Covered depth (overrides.map changedFields ++ above) →
          leaf.given (leaf.path.take depth) v = some (leaf.get settings))
  default : (∀ c ∈ overrides, ¬leaf.DefinedBy c) →
    (∀ d ∈ documents, (find leaf.path d).isMissing) → leaf.get settings = leaf.get {}

theorem ofJson?_defaults : Settings.ofJson? true ({} : Settings).toJson = some {} := by
  decide +kernel

/-- The defaults have a scalar or nothing at a leaf. -/
theorem simple_defaults (leaf : Leaf) : (find leaf.path ({} : Settings).toJson).Simple := by
  cases leaf <;> exact ⟨nofun, nofun⟩

section Told
variable {leaf : Leaf} {steps : List Step} {ranked : List Json} {settings : Settings} {d : Json}

theorem missing_of_undefined {overrides : List Settings}
    (h : ∀ c ∈ overrides, ¬leaf.DefinedBy c) :
    ∀ d ∈ overrides.reverse.map changedFields, (find leaf.path d).isMissing := by
  intro d hd
  obtain ⟨c, hc, rfl⟩ := List.mem_map.1 hd
  exact isMissing_changedFields (h c (List.mem_reverse.1 hc))

theorem missing_append {overrides : List Settings} {above : List Json}
    (hoverrides : ∀ c ∈ overrides, ¬leaf.DefinedBy c)
    (habove : ∀ d ∈ above, (find leaf.path d).isMissing) :
    ∀ d ∈ overrides.reverse.map changedFields ++ above, (find leaf.path d).isMissing := by
  intro d hd
  rcases List.mem_append.1 hd with hd | hd
  · exact missing_of_undefined hoverrides d hd
  · exact habove d hd

/-- The order of the overrides does not matter for what they lead to. -/
theorem covered_reverse_iff {depth : Nat} {overrides : List Settings} {above : List Json} :
    leaf.Covered depth (overrides.reverse.map changedFields ++ above) ↔
      leaf.Covered depth (overrides.map changedFields ++ above) := by
  simp [Covered]

/-- The value that is told is the one that is read. -/
theorem read_of_told (hread : Settings.ofJson? true d = some settings)
    (hd : find leaf.path d = told leaf.path (sources steps ranked)) {v : Json}
    (hv : told leaf.path (sources steps ranked) = .found v) :
    leaf.read v = some (leaf.get settings) :=
  leaf.readsAt.found hread (hd.trans hv)

theorem plain_told_sources (hplain : ∀ d ∈ ranked, ∀ path, (find path d).Plain) :
    (told leaf.path (sources steps ranked)).Plain := by
  refine Json.plain_told fun d hd => ?_
  rcases List.mem_append.1 hd with hd | hd
  · rcases List.mem_append.1 hd with hd | hd
    · obtain ⟨c, -, rfl⟩ := List.mem_map.1 hd
      exact fun members hf => absurd hf ((leaf.simple_changedFields c).scalar members)
    · exact hplain d hd leaf.path
  · rw [List.mem_singleton.1 hd]
    exact fun members hf => absurd hf (leaf.simple_defaults.scalar members)

/-- Where sources are only missing a leaf, it has its default. -/
theorem get_of_all_missing (hread : Settings.ofJson? true d = some settings)
    (hd : find leaf.path d = told leaf.path (sources steps ranked))
    (hsources : ∀ e ∈ (merged steps).reverse.map changedFields ++ ranked,
      (find leaf.path e).isMissing) :
    leaf.get settings = leaf.get {} := by
  have hbase : told leaf.path [({} : Settings).toJson] = find leaf.path ({} : Settings).toJson :=
    Json.Finding.missing_zero_overlay _
  cases hf : find leaf.path ({} : Settings).toJson with
  | found v =>
    have htold := Json.told_append_found hsources (hbase.trans hf)
    have hv := read_of_told hread hd htold
    exact Option.some.inj (hv.symm.trans (leaf.readsAt.found ofJson?_defaults hf))
  | missing depth =>
    have htold := Json.told_append_missing hsources (hbase.trans hf)
    obtain ⟨c, hc⟩ := Finding.isMissing_iff.1 htold
    exact leaf.readsAt.missing hread (hd.trans hc)
  | blocked depth v => exact absurd hf (leaf.simple_defaults.unblocked depth v)

/-- The value that the highest source defines is read, as no leaf is read from an object. -/
theorem read_of_highest (hplain : ∀ d ∈ ranked, ∀ path, (find path d).Plain)
    (hread : Settings.ofJson? true d = some settings)
    (hd : find leaf.path d = told leaf.path (sources steps ranked)) {above below : List Json}
    {source v : Json} (hsources : sources steps ranked = above ++ source :: below)
    (habove : ∀ e ∈ above, (find leaf.path e).isMissing) (hv : find leaf.path source = .found v) :
    leaf.read v = some (leaf.get settings) := by
  have hlift : ∀ w, told leaf.path (source :: below) = .found w →
      told leaf.path (sources steps ranked) = .found w := by
    intro w hw
    rw [hsources]
    exact Json.told_append_found habove hw
  rcases Json.told_cons_found hv with htold | ⟨_, others, rfl, htold⟩
  · exact read_of_told hread hd (hlift v htold)
  · -- It was joined with a lower object, but from an object no leaf is read.
    have hobject := hlift _ htold
    obtain ⟨m, hm, hnull⟩ := null_of_read (read_of_told hread hd hobject)
    exact absurd hnull (plain_told_sources hplain others hobject m hm)

end Told

end Leaf

/-- **The highest source decides, leaf by leaf.** Whatever is done with sources and whatever is
around them: what is loaded has at each leaf what the highest source makes of it that is not just
missing it. Settings that cannot be written miss every leaf. -/
theorem leaf_precedence {around : Surroundings} {steps : List Sources.Step} {settings : Settings}
    (h : (Sources.ofSteps around steps).load around = .ok settings) :
    ∃ documents, Sources.ranked? around steps = some documents ∧
      ∀ leaf : Leaf, leaf.Precedence (Sources.merged steps) documents settings := by
  obtain ⟨ranked, d, hranked, hread, htold⟩ := Sources.exists_document h
  have hplain : ∀ d ∈ ranked, ∀ path, (find path d).Plain :=
    fun d hd => Sources.plain_find_of_mem hranked hd
  refine ⟨ranked, hranked, fun leaf => ?_⟩
  have hd := htold leaf
  constructor
  case override =>
    intro before c after hmerged hafter hc
    obtain ⟨v, hv, -, hvalue⟩ := Leaf.exists_found_changedFields hc
    have hsources : Sources.sources steps ranked =
        after.reverse.map Sources.changedFields ++ Sources.changedFields c ::
          (before.reverse.map Sources.changedFields ++ ranked ++ [({} : Settings).toJson]) := by
      simp [Sources.sources, hmerged]
    exact hvalue _ (Leaf.read_of_highest hplain hread hd hsources
      (Leaf.missing_of_undefined hafter) hv)
  case document =>
    intro hoverrides above source below v hdocuments habove hv
    exact Leaf.given_of_read (Leaf.read_of_highest hplain hread hd (Sources.sources_eq hdocuments)
      (Leaf.missing_append hoverrides habove) hv)
  case inTheWay =>
    intro hoverrides above source below depth v hdocuments habove hv
    have habove := Leaf.missing_append hoverrides habove
    have hblocks : told leaf.path (source :: (below ++ [({} : Settings).toJson])) =
        .blocked depth v := Json.told_cons_blocked hv
    have hsource := Json.told_append_blocked habove hblocks
    rw [← Sources.sources_eq hdocuments, ← hd] at hsource
    rw [← Leaf.covered_reverse_iff]
    rcases hsource with ⟨hcovered, hmissing⟩ | ⟨huncovered, hblocked⟩
    · refine ⟨fun _ => ?_, fun huncovered => absurd hcovered huncovered⟩
      obtain ⟨c, hc⟩ := Finding.isMissing_iff.1 hmissing
      exact leaf.readsAt.missing hread hc
    · refine ⟨fun hcovered => absurd hcovered huncovered, fun _ => ?_⟩
      obtain ⟨s, hs, hget⟩ := leaf.readsAt.blocked hread hblocked
      exact Option.map_eq_some_iff.2 ⟨s, hs, hget⟩
  case default =>
    intro hoverrides hdocuments
    exact Leaf.get_of_all_missing hread hd (Leaf.missing_append hoverrides hdocuments)

/-- A variable for the level, a variant that turns the output, and a main file. -/
def layered (main : String) : Surroundings where
  assignments := [("BEACON_LOGGING__LEVEL", "debug")]
  disk path :=
    if path = "./beacon.development.toml" then
      some (.file "[logging]\noutput = \"stderr\"\nlevel = \"warn\"\n")
    else if path = "./beacon.toml" then some (.file main)
    else none
  userDirectory? := none

/-- Settings whose path is no text. -/
def foreign : Settings :=
  { logging := { level := .error, filePath? := some (.foreign "logs/\uFFFD" "\"logs/\\xFF\"") } }

theorem layered_precedence :
    let around := layered "[dispatch]\ndefault_priority = 7\n"
    let steps := [.searchPath ".", .merge { logging := { format := .pretty } },
      .merge { dispatch := { defaultPriority := 9 } }, .merge foreign]
    let settings : Settings :=
      { logging := { level := .debug, format := .pretty, output := .stderr },
        dispatch := { defaultPriority := 9 } }
    (Sources.ofSteps around steps).load around = .ok settings ∧
      ∃ documents, Sources.ranked? around steps = some documents ∧
        ∀ leaf : Leaf, leaf.Precedence (Sources.merged steps) documents settings := by
  intro around steps settings
  have h : (Sources.ofSteps around steps).load around = .ok settings := by decide +kernel
  exact ⟨h, leaf_precedence h⟩

/-- Settings that cannot be written are lost, although nothing is merged over them. -/
theorem foreign_override_lost : ¬∀ (around : Surroundings) (steps : List Sources.Step)
    (settings c : Settings) (leaf : Leaf),
    (Sources.ofSteps around steps).load around = .ok settings →
      (Sources.merged steps).getLast? = some c → leaf.get c ≠ leaf.get {} →
        leaf.get settings = leaf.get c := by
  intro h
  let around := layered ""
  have hload : (Sources.ofSteps around [.searchPath ".", .merge foreign]).load around =
      .ok { logging := { level := .debug, output := .stderr } } := by decide +kernel
  have herror : Level.debug = Level.error :=
    h around _ _ foreign .level hload rfl (by decide : Level.error ≠ Level.info)
  cases herror

/-- It is not always the highest source with a value that decides: here the main file has a number
in the place of the table of logging, and the output of the variant below it does not count. -/
theorem lower_output_hidden : ¬∀ (around : Surroundings) (steps : List Sources.Step)
    (settings : Settings) (documents : List Json) (leaf : Leaf) (v : Json),
    (Sources.ofSteps around steps).load around = .ok settings →
      Sources.ranked? around steps = some documents →
        (∀ c ∈ Sources.merged steps, leaf.get c = leaf.get {}) →
          (documents.findSome? fun d => (find leaf.path d).value?) = some v →
            leaf.given leaf.path v = some (leaf.get settings) := by
  intro h
  let around := layered "logging = 5\n"
  let steps := [Sources.Step.searchPath "."]
  have hload : (Sources.ofSteps around steps).load around =
      .ok { logging := { level := .debug } } := by decide +kernel
  have hfirst : (Sources.ranked? around steps).map (fun documents =>
      (documents.findSome? fun d => (find Leaf.output.path d).value?).bind Leaf.output.read) =
        some (some LogOutput.stderr) := by decide +kernel
  obtain ⟨documents, hdocuments, hread⟩ := Option.map_eq_some_iff.1 hfirst
  obtain ⟨v, hv, hstderr⟩ := Option.bind_eq_some_iff.1 hread
  have hmerged : Sources.merged steps = [] := rfl
  have hstdout : Leaf.given .output Leaf.output.path v = some .stdout :=
    h around steps _ documents .output v hload hdocuments (by simp [hmerged]) hv
  rw [Leaf.given_of_read hstderr] at hstdout
  cases hstdout

end Switchboard
