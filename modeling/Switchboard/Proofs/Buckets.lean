import Switchboard.Proofs.StableOrder

/-!
# Buckets

A schedule that is filled and cleared in any order holds what was added since it was last cleared:

    ofHistory history = ofPairs (added history)        (ofHistory_eq)

Its buckets ascend and none of them is empty (`Occupied`), so the priorities can be read off the
buckets, and a schedule without buckets has no entries.
-/

namespace Switchboard.Schedule

variable {α : Type}

/-! ## Histories -/

/-- What can be done with a schedule. -/
inductive Operation (α : Type) where
  | add (priority : Int) (entry : α)
  /-- Drops every entry. -/
  | clear

def perform (s : Schedule α) : Operation α → Schedule α
  | .add priority entry => s.add priority entry
  | .clear => .empty

/-- The schedule after some operations, empty before the first. -/
def ofHistory (history : List (Operation α)) : Schedule α := history.foldl perform .empty

/-- The entries added since the last time the schedule was cleared, in order, each with its
priority, after one more operation. -/
def Operation.noted (added : List (Int × α)) : Operation α → List (Int × α)
  | .add priority entry => added ++ [(priority, entry)]
  | .clear => []

/-- The entries added since the last time the schedule was cleared, in order. -/
def added (history : List (Operation α)) : List (Int × α) := history.foldl Operation.noted []

/-- One operation does to the schedule what it does to the list of what was added. -/
theorem perform_ofPairs (l : List (Int × α)) (op : Operation α) :
    (ofPairs l).perform op = ofPairs (op.noted l) := by
  cases op with
  | add priority entry => exact (ofPairs_concat l (priority, entry)).symm
  | clear => rfl

theorem ofHistory_eq (history : List (Operation α)) :
    ofHistory history = ofPairs (added history) := by
  induction history using List.reverseRecOn with
  | nil => rfl
  | append_singleton history op ih =>
    have hlast : ofHistory (history ++ [op]) = (ofHistory history).perform op := by
      rw [ofHistory, List.foldl_append]
      rfl
    have hadded : added (history ++ [op]) = op.noted (added history) := by
      rw [added, List.foldl_append]
      rfl
    rw [hlast, hadded, ih, perform_ofPairs]

/-! ## Buckets -/

/-- No bucket is empty. -/
def Occupied (buckets : List (Int × List α)) : Prop := ∀ b ∈ buckets, b.2 ≠ []

theorem occupied_insert {p : Int} {a : α} {bs : List (Int × List α)} (h : Occupied bs) :
    Occupied (insert p a bs) := by
  induction bs with
  | nil => simp [insert, Occupied]
  | cons c bs ih =>
    obtain ⟨q, as⟩ := c
    obtain ⟨hc, hbs⟩ := List.forall_mem_cons.1 h
    unfold insert
    split
    · exact List.forall_mem_cons.2 ⟨by simp, h⟩
    · split
      · exact List.forall_mem_cons.2 ⟨by simp, hbs⟩
      · exact List.forall_mem_cons.2 ⟨hc, ih hbs⟩

theorem occupied_ofPairs (l : List (Int × α)) : Occupied (ofPairs l).buckets := by
  induction l using List.reverseRecOn with
  | nil => exact fun b hb => absurd hb List.not_mem_nil
  | append_singleton l e ih =>
    rw [ofPairs_concat]
    exact occupied_insert ih

theorem mem_tagged {bs : List (Int × List α)} {e : Int × α} :
    e ∈ tagged bs ↔ ∃ b ∈ bs, b.1 = e.1 ∧ e.2 ∈ b.2 := by
  simp only [tagged, List.mem_flatMap, List.mem_map]
  constructor
  · rintro ⟨b, hb, a, ha, rfl⟩
    exact ⟨b, hb, rfl, ha⟩
  · rintro ⟨b, hb, hp, ha⟩
    exact ⟨b, hb, e.2, ha, Prod.ext hp rfl⟩

/-- If no bucket is empty, the priorities of the buckets are those of the entries. -/
theorem mem_priorities_iff {s : Schedule α} (h : Occupied s.buckets) {p : Int} :
    p ∈ s.priorities ↔ p ∈ (tagged s.buckets).map (·.1) := by
  simp only [priorities, List.mem_map, mem_tagged]
  constructor
  · rintro ⟨b, hb, rfl⟩
    obtain ⟨a, ha⟩ := List.exists_mem_of_ne_nil _ (h b hb)
    exact ⟨(b.1, a), ⟨b, hb, rfl, ha⟩, rfl⟩
  · rintro ⟨e, ⟨b, hb, hbe, -⟩, rfl⟩
    exact ⟨b, hb, hbe⟩

/-- Adding leaves out no entry and makes up none. -/
theorem mem_tagged_ofPairs {l : List (Int × α)} {e : Int × α} :
    e ∈ tagged (ofPairs l).buckets ↔ e ∈ l := by
  have hmem : ∀ l : List (Int × α), e ∈ l ↔ e ∈ ofPriority (·.1) e.1 l := fun l => by
    simp [ofPriority]
  rw [hmem, (ofPairs_spec l).2, ← hmem]

theorem size_eq_length (s : Schedule α) : s.size = s.toList.length := by
  obtain ⟨bs⟩ := s
  induction bs with
  | nil => rfl
  | cons b bs ih =>
    show b.2.length + size ⟨bs⟩ = (b.2 ++ toList ⟨bs⟩).length
    rw [ih, List.length_append]

/-- **Buckets sort stably.** Whatever was added and cleared: a schedule lists the entries added
since it was last cleared, sorted by ascending priority, and those of one priority in the order in
which they were added. Its priorities are those of these entries, each once and ascending; its size
is their number, and it is empty if there are none. -/
theorem buckets_sort_stably (history : List (Operation α)) :
    let s := ofHistory history
    let entries := added history
    let sorted := byPriority (·.1) entries
    (s.toList = sorted.map (·.2) ∧ (sorted.Pairwise fun e e' => e.1 ≤ e'.1) ∧
      ∀ p, ofPriority (·.1) p sorted = ofPriority (·.1) p entries) ∧
    (s.priorities.Pairwise (· < ·) ∧ ∀ p, p ∈ s.priorities ↔ p ∈ entries.map (·.1)) ∧
    s.size = entries.length ∧
    (s.isEmpty = true ↔ entries = []) := by
  intro s entries sorted
  have hs : s = ofPairs entries := ofHistory_eq history
  have hlist : s.toList = sorted.map (·.2) := by
    rw [hs]
    exact toList_ofPairs entries
  have hpriorities : ∀ p, p ∈ s.priorities ↔ p ∈ entries.map (·.1) := by
    intro p
    rw [hs, mem_priorities_iff (occupied_ofPairs entries)]
    simp only [List.mem_map, mem_tagged_ofPairs]
  refine ⟨⟨hlist, byPriority_ascending _ _, fun p => ofPriority_byPriority _ p _⟩,
    ⟨?_, hpriorities⟩, ?_, ?_⟩
  · rw [hs]
    exact List.pairwise_map.2 (ofPairs_spec entries).1
  · rw [size_eq_length, hlist, List.length_map]
    exact (List.mergeSort_perm entries _).length_eq
  · -- `isEmpty` looks at the buckets only, so it is told by the priorities.
    have hbuckets : s.isEmpty = true ↔ s.priorities = [] := by
      rw [isEmpty, List.isEmpty_iff, priorities, List.map_eq_nil_iff]
    rw [hbuckets, List.eq_nil_iff_forall_not_mem]
    simp only [hpriorities, ← List.eq_nil_iff_forall_not_mem, List.map_eq_nil_iff]

example : (ofHistory [.add 2 'x', .clear, .add 5 'a', .add (-3) 'b', .add 5 'c']).toList =
    ['b', 'a', 'c'] := by decide

end Switchboard.Schedule
