import Switchboard.Proofs.Findings
import Switchboard.Settings.Sources

/-!
# Sources without null

Neither settings files nor variables have a way to write null, so the documents that are read from
them are free of it:

    Toml.read? text = some d    d.NullFree
    Inline.read text            (Inline.read text).NullFree

What every step of a reader preserves is that what has been read so far is free of null. Layers
keep what matters of this for what is found in them (`Finding.Plain`).
-/

namespace Switchboard

namespace Json

/-! ## Documents -/

/-- Documents with no null in them. -/
inductive NullFree : Json → Prop
  | bool (b : Bool) : NullFree (.bool b)
  | number (n : Number) : NullFree (.number n)
  | string (s : String) : NullFree (.string s)
  | array {items : List Json} (each : ∀ v ∈ items, NullFree v) : NullFree (.array items)
  | object {members : List (String × Json)} (each : ∀ m ∈ members, NullFree m.2) :
      NullFree (.object members)

theorem NullFree.ne_null {v : Json} (h : NullFree v) : v ≠ .null := by
  rintro rfl
  cases h

theorem NullFree.of_mem {members : List (String × Json)} (h : NullFree (.object members))
    {m : String × Json} (hm : m ∈ members) : NullFree m.2 := by
  cases h with
  | object each => exact each m hm

/-! ## Findings -/

/-- No member of an object that is found is null. -/
def Finding.Plain (f : Finding) : Prop :=
  ∀ members, f = .found (.object members) → ∀ m ∈ members, m.2 ≠ .null

theorem Finding.Plain.below {f : Finding} (h : f.Plain) : f.below.Plain := by
  cases f with
  | found v => exact h
  | _ =>
    intro members hf
    cases hf

theorem NullFree.plain_find {v : Json} (h : NullFree v) (path : List String) :
    (find path v).Plain := by
  induction path generalizing v with
  | nil =>
    intro members hf m hm
    cases hf
    exact (h.of_mem hm).ne_null
  | cons key path ih =>
    by_cases hv : ∃ members, v = .object members
    · obtain ⟨members, rfl⟩ := hv
      rw [find_object]
      cases hm : member? key members with
      | none =>
        intro members hf
        cases hf
      | some w => exact (ih (h.of_mem (mem_of_member? hm))).below
    · rw [find_cons_of_ne fun members e => hv ⟨members, e⟩]
      intro members hf
      cases hf

theorem overlay_ne_null {w : Json} (hw : w ≠ .null) (v : Json) : v.overlay w ≠ .null := by
  cases w with
  | null => exact absurd rfl hw
  | object members => cases v <;> simp [overlay]
  | _ => cases v <;> simp [overlay]

theorem mem_overlayMembers {lower upper : List (String × Json)} {m : String × Json}
    (h : m ∈ overlayMembers lower upper) :
    m ∈ lower ∨ ∃ v w : Json, member? m.1 upper = some w ∧ m.2 = v.overlay w := by
  induction lower with
  | nil => cases h
  | cons n lower ih =>
    obtain ⟨k, v⟩ := n
    rw [overlayMembers] at h
    rcases List.mem_cons.1 h with rfl | h
    · cases hu : member? k upper with
      | none => exact .inl (by simp)
      | some w => exact .inr ⟨v, w, by simp [hu], rfl⟩
    · exact (ih h).imp_left (List.mem_cons_of_mem _)

/-- Layers bring no null into an object. -/
theorem Finding.Plain.overlay {f g : Finding} (hf : f.Plain) (hg : g.Plain) :
    (f.overlay g).Plain := by
  intro members h m hm
  cases g with
  | missing d =>
    cases f with
    | missing c => cases h
    | found v => exact hf members h m hm
    | blocked c v =>
      rw [Finding.overlay] at h
      split at h <;> cases h
  | blocked d w => cases f <;> cases h
  | found w =>
    cases f with
    | found v =>
      rw [Finding.overlay] at h
      by_cases hv : ∃ ls, v = .object ls
      · by_cases hw : ∃ us, w = .object us
        · obtain ⟨ls, rfl⟩ := hv
          obtain ⟨us, rfl⟩ := hw
          rw [Json.overlay] at h
          cases h
          rcases List.mem_append.1 hm with hm | hm
          · rcases mem_overlayMembers hm with hm | ⟨v, w, hw, hv⟩
            · exact hf ls rfl m hm
            · rw [hv]
              exact overlay_ne_null (hg us rfl _ (mem_of_member? hw)) v
          · exact hg us rfl m (List.mem_filter.1 hm).1
        · rw [overlay_of_ne fun us e => hw ⟨us, e⟩] at h
          exact hg members h m hm
      · rw [overlay_of_lower_ne fun ls e => hv ⟨ls, e⟩] at h
        exact hg members h m hm
    | _ => exact hg members h m hm

theorem plain_told {path : List String} {ranked : List Json}
    (h : ∀ d ∈ ranked, (find path d).Plain) : (told path ranked).Plain := by
  induction ranked with
  | nil =>
    intro members hf
    cases hf
  | cons d ranked ih =>
    exact (ih fun e he => h e (by simp [he])).overlay (h d (by simp))

end Json

/-! ## Variables -/

namespace Inline

open Json (NullFree)

theorem nullFree_scalar (cs : List Char) : (scalar cs).NullFree := by
  unfold scalar
  dsimp only
  split
  · exact .number _
  · exact .number _
  · exact .string _

/-- With any fuel, a reader adds nothing that is null. -/
theorem nullFree_readers (fuel : Nat) :
    (∀ cs v rest, readValue fuel cs = some (v, rest) → v.NullFree) ∧
      (∀ seen cs v rest, (∀ w ∈ seen, w.NullFree) → readItems fuel seen cs = some (v, rest) →
        v.NullFree) ∧
      ∀ seen cs v rest, (∀ m ∈ seen, m.2.NullFree) → readPairs fuel seen cs = some (v, rest) →
        v.NullFree := by
  induction fuel with
  | zero =>
    refine ⟨fun cs v rest h => ?_, fun seen cs v rest _ h => ?_, fun seen cs v rest _ h => ?_⟩
    · simp [readValue] at h
    · simp [readItems] at h
    · simp [readPairs] at h
  | succ fuel ih =>
    obtain ⟨hvalue, hitems, hpairs⟩ := ih
    refine ⟨fun cs v rest h => ?_, fun seen cs v rest hseen h => ?_,
      fun seen cs v rest hseen h => ?_⟩
    · rw [readValue] at h
      obtain ⟨⟨w, more⟩, hread, hw⟩ := Option.map_eq_some_iff.1 h
      cases hw
      split at hread
      · cases hread
        exact .bool _
      · cases hread
        exact .bool _
      · exact hpairs [] _ _ _ (by simp) hread
      · exact hitems [] _ _ _ (by simp) hread
      · obtain ⟨⟨s, rest⟩, -, hs⟩ := Option.map_eq_some_iff.1 hread
        cases hs
        exact .string _
      · cases hread
        exact .string _
      · cases hread
      · cases hread
        exact nullFree_scalar _
    · unfold readItems at h
      split at h
      · cases h
        exact .array fun w hw => hseen w (List.mem_reverse.1 hw)
      · split at h
        · next w more hw =>
          refine hitems _ _ _ _ (fun x hx => ?_) h
          rcases List.mem_cons.1 hx with rfl | hx
          · exact hvalue _ _ _ hw
          · exact hseen x hx
        · next w more hw =>
          cases h
          refine .array fun x hx => ?_
          rcases List.mem_cons.1 (List.mem_reverse.1 hx) with rfl | hx
          · exact hvalue _ _ _ hw
          · exact hseen x hx
        · cases h
    · unfold readPairs at h
      have hset : ∀ {cs key w rest}, readValue fuel cs = some (w, rest) →
          ∀ m ∈ Json.setMember key w seen, m.2.NullFree := by
        intro cs key w rest hw m hm
        rcases Json.eq_or_mem_of_mem_setMember hm with he | hm
        · rw [he]
          exact hvalue _ _ _ hw
        · exact hseen m hm
      split at h
      · cases h
        exact .object hseen
      · split at h
        · cases h
        · split at h
          · next hw => exact hpairs _ _ _ _ (hset hw) h
          · next hw =>
            cases h
            exact .object (hset hw)
          · cases h

theorem nullFree_read (text : String) : (read text).NullFree := by
  unfold read
  dsimp only
  split
  · next v hv => exact (nullFree_readers _).1 _ _ _ hv
  · exact .string _

end Inline

namespace Variables

theorem nullFree_nest {v : Json} (h : v.NullFree) (keys : List String) :
    (nest keys v).NullFree := by
  induction keys with
  | nil => exact h
  | cons key keys ih =>
    refine .object fun m hm => ?_
    rw [List.mem_singleton.1 hm]
    exact ih

theorem nullFree_setting (name value : String) : (setting name value).NullFree := by
  unfold setting
  split
  · exact nullFree_nest (Inline.nullFree_read value) _
  · exact .object (by simp)

theorem document_eq_foldl (assignments : List (String × String)) :
    document assignments =
      (assignments.map fun a => setting a.1 a.2).foldl Json.overlay (.object []) := by
  rw [List.foldl_map]
  rfl

theorem plain_find_document (path : List String) (assignments : List (String × String)) :
    (Json.find path (document assignments)).Plain := by
  have hempty : (Json.object []).NullFree := .object (by simp)
  rw [document_eq_foldl, Json.find_layers]
  refine Json.plain_told fun d hd => ?_
  rcases List.mem_append.1 hd with hd | hd
  · obtain ⟨a, -, rfl⟩ := List.mem_map.1 (List.mem_reverse.1 hd)
    exact (nullFree_setting a.1 a.2).plain_find path
  · rw [List.mem_singleton.1 hd]
    exact hempty.plain_find path

end Variables

/-! ## Settings files -/

namespace Toml

theorem membersOf_eq (entries : Entries) :
    membersOf entries = entries.map fun e => (e.1, e.2.toJson) := by
  induction entries with
  | nil => rfl
  | cons e entries ih => rw [membersOf, ih, List.map_cons]

theorem itemsOf_eq (tables : List Entries) :
    itemsOf tables = tables.map fun entries => .object (membersOf entries) := by
  induction tables with
  | nil => rfl
  | cons entries tables ih => rw [itemsOf, ih, List.map_cons]

/-- Nodes with no null in them. -/
def Node.NullFree (node : Node) : Prop := node.toJson.NullFree

namespace Entries

/-- Entries with no null in them. -/
def NullFree (entries : Entries) : Prop := ∀ e ∈ entries, e.2.NullFree

theorem nullFree_object_iff (entries : Entries) :
    (Json.object (membersOf entries)).NullFree ↔ NullFree entries := by
  constructor
  · intro h e he
    refine h.of_mem (m := (e.1, e.2.toJson)) ?_
    rw [membersOf_eq]
    exact List.mem_map_of_mem he
  · intro h
    refine .object fun m hm => ?_
    rw [membersOf_eq] at hm
    obtain ⟨e, he, rfl⟩ := List.mem_map.1 hm
    exact h e he

theorem nullFree_table_iff (kind : TableKind) (entries : Entries) :
    (Node.table kind entries).NullFree ↔ NullFree entries := by
  rw [Node.NullFree, Node.toJson, nullFree_object_iff]

theorem nullFree_tables_iff (done : List Entries) (last : Entries) :
    (Node.tables done last).NullFree ↔ (∀ entries ∈ done, NullFree entries) ∧ NullFree last := by
  rw [Node.NullFree, Node.toJson, itemsOf_eq]
  constructor
  · intro h
    cases h with
    | array each =>
      refine ⟨fun entries he => (nullFree_object_iff entries).1 (each _ ?_),
        (nullFree_object_iff last).1 (each _ (by simp))⟩
      exact List.mem_append_left _ (List.mem_map_of_mem he)
  · rintro ⟨hdone, hlast⟩
    refine .array fun v hv => ?_
    rcases List.mem_append.1 hv with hv | hv
    · obtain ⟨entries, he, rfl⟩ := List.mem_map.1 hv
      exact (nullFree_object_iff entries).2 (hdone entries he)
    · rw [List.mem_singleton.1 hv]
      exact (nullFree_object_iff last).2 hlast

/-- A change of a node that brings in no null. -/
def Safe (change : Option Node → Option Node) : Prop :=
  ∀ n? node, (∀ n, n? = some n → n.NullFree) → change n? = some node → node.NullFree

theorem nullFree_alter {key : String} {change : Option Node → Option Node} (hc : Safe change)
    {entries changed : Entries} (h : NullFree entries)
    (ha : entries.alter key change = some changed) : NullFree changed := by
  induction entries generalizing changed with
  | nil =>
    obtain ⟨node, hnode, rfl⟩ := Option.map_eq_some_iff.1 ha
    intro e he
    rw [List.mem_singleton.1 he]
    exact hc none node (fun n hn => by cases hn) hnode
  | cons e entries ih =>
    obtain ⟨k, n⟩ := e
    have hrest : NullFree entries := fun e he => h e (List.mem_cons_of_mem _ he)
    have hn : n.NullFree := h (k, n) List.mem_cons_self
    rw [alter] at ha
    split at ha
    · obtain ⟨node, hnode, rfl⟩ := Option.map_eq_some_iff.1 ha
      intro e he
      rcases List.mem_cons.1 he with rfl | he
      · refine hc (some n) node (fun m hm => ?_) hnode
        cases hm
        exact hn
      · exact hrest e he
    · obtain ⟨others, hothers, rfl⟩ := Option.map_eq_some_iff.1 ha
      intro e he
      rcases List.mem_cons.1 he with rfl | he
      · exact hn
      · exact ih hrest hothers e he

theorem nullFree_set {key : String} {v : Json} (hv : v.NullFree) {entries changed : Entries}
    (h : NullFree entries) (hset : set key v entries = some changed) : NullFree changed := by
  refine nullFree_alter (fun n? node _ hnode => ?_) h hset
  cases n? with
  | some n => cases hnode
  | none =>
    cases hnode
    exact hv

/-- A change of the entries of a table changes the table safely. -/
theorem nullFree_map_table {entries? : Option Entries} {node : Node} (kind : TableKind)
    (h : ∀ entries, entries? = some entries → NullFree entries)
    (hnode : entries?.map (.table kind) = some node) : node.NullFree := by
  obtain ⟨entries, he, rfl⟩ := Option.map_eq_some_iff.1 hnode
  exact (nullFree_table_iff kind entries).2 (h entries he)

theorem nullFree_map_tables {entries? : Option Entries} {node : Node} {done : List Entries}
    (hdone : ∀ entries ∈ done, NullFree entries)
    (h : ∀ entries, entries? = some entries → NullFree entries)
    (hnode : entries?.map (.tables done) = some node) : node.NullFree := by
  obtain ⟨entries, he, rfl⟩ := Option.map_eq_some_iff.1 hnode
  exact (nullFree_tables_iff done entries).2 ⟨hdone, h entries he⟩

theorem nullFree_setDotted {key : String} {v : Json} (hv : v.NullFree) (path : List String)
    {entries changed : Entries} (h : NullFree entries)
    (hset : setDotted path key v entries = some changed) : NullFree changed := by
  induction path generalizing entries changed with
  | nil => exact nullFree_set hv h hset
  | cons segment path ih =>
    rw [setDotted] at hset
    refine nullFree_alter (fun n? node hn hnode => ?_) h hset
    split at hnode
    · refine nullFree_map_table _ (fun es he => ih (fun e he => ?_) he) hnode
      cases he
    · next inner =>
      have hinner := (nullFree_table_iff _ inner).1 (hn _ rfl)
      exact nullFree_map_table _ (fun es he => ih hinner he) hnode
    · next inner =>
      have hinner := (nullFree_table_iff _ inner).1 (hn _ rfl)
      split at hnode
      · cases hnode
      · exact nullFree_map_table _ (fun es he => ih hinner he) hnode
    · next done last =>
      obtain ⟨hdone, hlast⟩ := (nullFree_tables_iff done last).1 (hn _ rfl)
      split at hnode
      · cases hnode
      · exact nullFree_map_tables hdone (fun es he => ih hlast he) hnode
    · cases hnode
    · cases hnode

theorem nullFree_alterAt {key : String} {change : Option Node → Option Node} (hc : Safe change)
    (path : List String) {entries changed : Entries} (h : NullFree entries)
    (ha : alterAt path key change entries = some changed) : NullFree changed := by
  induction path generalizing entries changed with
  | nil => exact nullFree_alter hc h ha
  | cons segment path ih =>
    rw [alterAt] at ha
    refine nullFree_alter (fun n? node hn hnode => ?_) h ha
    split at hnode
    · refine nullFree_map_table _ (fun es he => ih (fun e he => ?_) he) hnode
      cases he
    · next kind inner =>
      have hinner := (nullFree_table_iff kind inner).1 (hn _ rfl)
      exact nullFree_map_table _ (fun es he => ih hinner he) hnode
    · next done last =>
      obtain ⟨hdone, hlast⟩ := (nullFree_tables_iff done last).1 (hn _ rfl)
      exact nullFree_map_tables hdone (fun es he => ih hlast he) hnode
    · cases hnode

theorem safe_openTable : Safe openTable := by
  intro n? node hn hnode
  unfold openTable at hnode
  split at hnode
  · cases hnode
    exact (nullFree_table_iff _ _).2 fun e he => by cases he
  · next entries =>
    cases hnode
    exact (nullFree_table_iff _ _).2 ((nullFree_table_iff _ entries).1 (hn _ rfl))
  · cases hnode

theorem safe_openNext : Safe openNext := by
  intro n? node hn hnode
  unfold openNext at hnode
  split at hnode
  · cases hnode
    exact (nullFree_tables_iff _ _).2 ⟨by simp, fun e he => by cases he⟩
  · next done last =>
    obtain ⟨hdone, hlast⟩ := (nullFree_tables_iff done last).1 (hn _ rfl)
    cases hnode
    refine (nullFree_tables_iff _ _).2 ⟨fun entries he => ?_, fun e he => by cases he⟩
    rcases List.mem_append.1 he with he | he
    · exact hdone entries he
    · rw [List.mem_singleton.1 he]
      exact hlast
  · cases hnode

theorem safe_inside {change : Entries → Option Entries}
    (hc : ∀ entries changed, NullFree entries → change entries = some changed → NullFree changed) :
    Safe (inside change) := by
  intro n? node hn hnode
  unfold inside at hnode
  split at hnode
  · next kind entries =>
    have he := (nullFree_table_iff kind entries).1 (hn _ rfl)
    exact nullFree_map_table kind (fun changed hch => hc entries changed he hch) hnode
  · next done last =>
    obtain ⟨hdone, hlast⟩ := (nullFree_tables_iff done last).1 (hn _ rfl)
    exact nullFree_map_tables hdone (fun changed hch => hc last changed hlast hch) hnode
  · cases hnode

end Entries

namespace Reader

theorem nullFree_moment (cs : List Char) : (moment cs).NullFree := by
  refine .object fun m hm => ?_
  rw [List.mem_singleton.1 hm]
  exact .string _

theorem nullFree_word {cs : List Char} {v : Json} (h : word? cs = some v) : v.NullFree := by
  unfold word? at h
  split at h
  · cases h
    exact .bool _
  · split at h
    · cases h
      exact .bool _
    · split at h
      · cases h
        exact nullFree_moment _
      · rcases Option.or_eq_some_iff.1 h with h | ⟨-, h⟩
        · obtain ⟨b, -, rfl⟩ := Option.map_eq_some_iff.1 h
          exact .number _
        · obtain ⟨i, -, rfl⟩ := Option.map_eq_some_iff.1 h
          exact .number _

theorem nullFree_readWord {cs rest : List Char} {v : Json} (h : readWord cs = some (v, rest)) :
    v.NullFree := by
  unfold readWord at h
  dsimp only at h
  split at h
  · cases h
    exact nullFree_moment _
  · obtain ⟨w, hw, he⟩ := Option.map_eq_some_iff.1 h
    cases he
    exact nullFree_word hw

/-- With any fuel, a reader adds nothing that is null. -/
theorem nullFree_readers (fuel : Nat) :
    (∀ cs v rest, readValue fuel cs = some (v, rest) → v.NullFree) ∧
      (∀ seen cs v rest, (∀ w ∈ seen, w.NullFree) → readItems fuel seen cs = some (v, rest) →
        v.NullFree) ∧
      ∀ seen cs v rest, Entries.NullFree seen → readPairs fuel seen cs = some (v, rest) →
        v.NullFree := by
  induction fuel with
  | zero =>
    refine ⟨fun cs v rest h => ?_, fun seen cs v rest _ h => ?_, fun seen cs v rest _ h => ?_⟩
    · simp [readValue] at h
    · simp [readItems] at h
    · simp [readPairs] at h
  | succ fuel ih =>
    obtain ⟨hvalue, hitems, hpairs⟩ := ih
    refine ⟨fun cs v rest h => ?_, fun seen cs v rest hseen h => ?_,
      fun seen cs v rest hseen h => ?_⟩
    · unfold readValue at h
      split at h
      · obtain ⟨⟨s, rest⟩, -, hs⟩ := Option.map_eq_some_iff.1 h
        cases hs
        exact .string _
      · obtain ⟨⟨s, rest⟩, -, hs⟩ := Option.map_eq_some_iff.1 h
        cases hs
        exact .string _
      · exact hitems [] _ _ _ (by simp) h
      · split at h
        · cases h
          exact .object (by simp)
        · exact hpairs [] _ _ _ (fun e he => by cases he) h
      · exact nullFree_readWord h
    · unfold readItems at h
      split at h
      · cases h
        exact .array fun w hw => hseen w (List.mem_reverse.1 hw)
      · split at h
        · cases h
        · next w more hw =>
          have hmore : ∀ x ∈ w :: seen, x.NullFree := fun x hx => by
            rcases List.mem_cons.1 hx with rfl | hx
            · exact hvalue _ _ _ hw
            · exact hseen x hx
          split at h
          · exact hitems _ _ _ _ hmore h
          · cases h
            exact .array fun x hx => hmore x (List.mem_reverse.1 hx)
          · cases h
    · unfold readPairs at h
      split at h
      · split at h
        · cases h
        · next w more hw =>
          split at h
          · cases h
          · next entries hset =>
            have hentries := Entries.nullFree_setDotted (hvalue _ _ _ hw) _ hseen hset
            split at h
            · exact hpairs _ _ _ _ hentries h
            · cases h
              exact (Entries.nullFree_object_iff entries).2 hentries
            · cases h
      · cases h

theorem nullFree_goUnder {s t : Sheet} {path : List String} {key : String}
    {change : Option Node → Option Node} (hc : Entries.Safe change)
    (h : Entries.NullFree s.entries) (ht : s.goUnder path key change = some t) :
    Entries.NullFree t.entries := by
  obtain ⟨entries, he, rfl⟩ := Option.map_eq_some_iff.1 ht
  exact Entries.nullFree_alterAt hc path h he

theorem nullFree_sheetSet {s t : Sheet} {path : List String} {key : String} {v : Json}
    (hv : v.NullFree) (h : Entries.NullFree s.entries) (ht : s.set path key v = some t) :
    Entries.NullFree t.entries := by
  obtain ⟨entries, he, rfl⟩ := Option.map_eq_some_iff.1 ht
  split at he
  · exact Entries.nullFree_setDotted hv path h he
  · exact Entries.nullFree_alterAt
      (Entries.safe_inside fun _ _ hes hch => Entries.nullFree_setDotted hv path hes hch) _ h he

/-- A line keeps a sheet free of null. -/
theorem nullFree_readLine {fuel : Nat} {s t : Sheet} {cs rest : List Char}
    (h : Entries.NullFree s.entries) (ht : readLine fuel s cs = some (t, rest)) :
    Entries.NullFree t.entries := by
  unfold readLine at ht
  split at ht
  · split at ht
    · obtain ⟨u, hu, he⟩ := Option.map_eq_some_iff.1 ht
      cases he
      exact nullFree_goUnder Entries.safe_openNext h hu
    · cases ht
  · split at ht
    · obtain ⟨u, hu, he⟩ := Option.map_eq_some_iff.1 ht
      cases he
      exact nullFree_goUnder Entries.safe_openTable h hu
    · cases ht
  · split at ht
    · split at ht
      · next v more hv =>
        obtain ⟨u, hu, he⟩ := Option.map_eq_some_iff.1 ht
        cases he
        exact nullFree_sheetSet ((nullFree_readers fuel).1 _ _ _ hv) h hu
      · cases ht
    · cases ht

theorem nullFree_readSheet (fuel : Nat) {s t : Sheet} {cs : List Char}
    (h : Entries.NullFree s.entries) (ht : readSheet fuel s cs = some t) :
    Entries.NullFree t.entries := by
  induction fuel generalizing s cs with
  | zero => cases ht
  | succ fuel ih =>
    unfold readSheet at ht
    split at ht
    · cases ht
      exact h
    · split at ht
      · cases ht
      · next u more hu =>
        split at ht
        · exact ih (nullFree_readLine h hu) ht
        · cases ht

end Reader

theorem nullFree_read {text : String} {v : Json} (h : read? text = some v) : v.NullFree := by
  obtain ⟨s, hs, rfl⟩ := Option.map_eq_some_iff.1 h
  exact (Entries.nullFree_object_iff _).2
    (Reader.nullFree_readSheet _ (fun e he => by cases he) hs)

end Toml

namespace Sources

theorem nullFree_readFile {disk : Disk} {path : String} {v : Json}
    (h : readFile? disk path = some v) : v.NullFree := by
  unfold readFile? at h
  split at h
  · exact Toml.nullFree_read h
  · cases h
    exact .object (by simp)

end Sources

end Switchboard
