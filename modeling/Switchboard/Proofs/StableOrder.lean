import Mathlib.Data.List.Induction
import Switchboard.Dispatch.Schedule

/-!
# Schedules are stable sorts

The entries of a schedule stand in the order of a stable sort by priority of all that was added:

    toList (ofPairs l) = (byPriority (·.1) l).map (·.2)      (toList_ofPairs)
    toList (ofList f l) = byPriority f l                     (toList_ofList)

A list in ascending order is determined by its elements of each priority (`eq_of_ascending`), and
adding an entry puts it behind those of its own priority and leaves the others alone.
-/

namespace Switchboard

variable {α β : Type}

/-! ## Sorting by priority -/

/-- The stable sort by ascending priority. -/
def byPriority (f : α → Int) (l : List α) : List α := l.mergeSort fun a b => f a ≤ f b

/-- Entries of one priority, in their order. -/
def ofPriority (f : α → Int) (p : Int) (l : List α) : List α := l.filter fun a => f a = p

theorem le_trans_decide (f : α → Int) (a b c : α) (hab : decide (f a ≤ f b) = true)
    (hbc : decide (f b ≤ f c) = true) : decide (f a ≤ f c) = true := by
  simp only [decide_eq_true_eq] at hab hbc ⊢
  omega

theorem le_total_decide (f : α → Int) (a b : α) :
    (decide (f a ≤ f b) || decide (f b ≤ f a)) = true := by
  simp only [Bool.or_eq_true, decide_eq_true_eq]
  omega

theorem byPriority_ascending (f : α → Int) (l : List α) :
    (byPriority f l).Pairwise fun a b => f a ≤ f b :=
  (List.pairwise_mergeSort (le_trans_decide f) (le_total_decide f) l).imp
    fun hab => of_decide_eq_true hab

/-- A stable sort keeps the order among entries that it does not tell apart. -/
theorem filter_mergeSort {le : α → α → Bool} (htrans : ∀ a b c, le a b → le b c → le a c)
    (htotal : ∀ a b, le a b || le b a) {p : α → Bool} (hp : ∀ a b, p a → p b → le a b)
    (l : List α) : (l.mergeSort le).filter p = l.filter p := by
  have hpairs : (l.filter p).Pairwise fun a b => le a b = true :=
    List.pairwise_of_forall_mem_list fun a ha b hb =>
      hp a b (List.mem_filter.1 ha).2 (List.mem_filter.1 hb).2
  have hs : (l.filter p).Sublist (l.mergeSort le) :=
    List.sublist_mergeSort htrans htotal hpairs List.filter_sublist
  have hs' := hs.filter p
  have hself : (l.filter p).filter p = l.filter p := by
    rw [List.filter_filter]
    simp
  rw [hself] at hs'
  refine (hs'.eq_of_length ?_).symm
  exact (((List.mergeSort_perm l _).filter _).length_eq).symm

/-- A sort by priority keeps the order among entries of one priority. -/
theorem ofPriority_byPriority (f : α → Int) (p : Int) (l : List α) :
    ofPriority f p (byPriority f l) = ofPriority f p l := by
  refine filter_mergeSort (le_trans_decide f) (le_total_decide f) (fun a b ha hb => ?_) l
  rw [of_decide_eq_true ha, of_decide_eq_true hb]
  exact decide_eq_true (Int.le_refl p)

/-- Ascending lists with the same entries of each priority are equal. -/
theorem eq_of_ascending (f : α → Int) {l l' : List α}
    (hl : l.Pairwise fun a b => f a ≤ f b) (hl' : l'.Pairwise fun a b => f a ≤ f b)
    (h : ∀ p, ofPriority f p l = ofPriority f p l') : l = l' := by
  induction l generalizing l' with
  | nil =>
    cases l' with
    | nil => rfl
    | cons b l' =>
      have := h (f b)
      simp [ofPriority] at this
  | cons a l ih =>
    cases l' with
    | nil =>
      have := h (f a)
      simp [ofPriority] at this
    | cons b l' =>
      have hmem : a ∈ b :: l' := by
        have ha : a ∈ ofPriority f (f a) (a :: l) := by simp [ofPriority]
        rw [h] at ha
        exact (List.mem_filter.1 ha).1
      have hmem' : b ∈ a :: l := by
        have hb : b ∈ ofPriority f (f b) (b :: l') := by simp [ofPriority]
        rw [← h] at hb
        exact (List.mem_filter.1 hb).1
      have hab : f a = f b := by
        have h1 : f b ≤ f a := by
          rcases List.mem_cons.1 hmem with rfl | hm
          · exact Int.le_refl _
          · exact (List.pairwise_cons.1 hl').1 a hm
        have h2 : f a ≤ f b := by
          rcases List.mem_cons.1 hmem' with rfl | hm
          · exact Int.le_refl _
          · exact (List.pairwise_cons.1 hl).1 b hm
        omega
      have hhead := h (f a)
      simp only [ofPriority, List.filter_cons, hab, decide_true, if_true, List.cons.injEq] at hhead
      obtain ⟨rfl, -⟩ := hhead
      congr 1
      refine ih (List.pairwise_cons.1 hl).2 (List.pairwise_cons.1 hl').2 fun p => ?_
      have hp := h p
      simp only [ofPriority, List.filter_cons] at hp ⊢
      split at hp
      · exact List.tail_eq_of_cons_eq hp
      · exact hp

/-- Two lists are sorted alike exactly if they agree within each priority. -/
theorem byPriority_eq_iff (f : α → Int) {l l' : List α} :
    byPriority f l = byPriority f l' ↔ ∀ p, ofPriority f p l = ofPriority f p l' := by
  constructor
  · intro h p
    rw [← ofPriority_byPriority f p l, h, ofPriority_byPriority]
  · intro h
    refine eq_of_ascending f (byPriority_ascending f l) (byPriority_ascending f l') fun p => ?_
    rw [ofPriority_byPriority, ofPriority_byPriority, h]

theorem byPriority_map (f : β → Int) (g : α → β) (l : List α) :
    byPriority f (l.map g) = (byPriority (f ∘ g) l).map g := by
  unfold byPriority
  rw [List.map_mergeSort]
  intro a _ b _
  rfl

/-! ## Schedules -/

namespace Schedule

/-- The schedule of entries with their priorities, added in this order. -/
def ofPairs (l : List (Int × α)) : Schedule α := l.foldl (fun s e => s.add e.1 e.2) .empty

/-- The schedule of entries that have a priority of their own. -/
def ofList (f : α → Int) (l : List α) : Schedule α := l.foldl (fun s a => s.add (f a) a) .empty

/-- The priorities of buckets ascend, so that each has only one bucket. -/
def Ascending (buckets : List (Int × List α)) : Prop := buckets.Pairwise fun b c => b.1 < c.1

/-- The entries of buckets, each with its priority. -/
def tagged (buckets : List (Int × List α)) : List (Int × α) :=
  buckets.flatMap fun b => b.2.map (b.1, ·)

@[simp] theorem tagged_nil : tagged ([] : List (Int × List α)) = [] := rfl

@[simp] theorem tagged_cons (b : Int × List α) (bs : List (Int × List α)) :
    tagged (b :: bs) = b.2.map (b.1, ·) ++ tagged bs := rfl

theorem toList_eq (s : Schedule α) : s.toList = (tagged s.buckets).map (·.2) := by
  rw [toList, tagged, List.map_flatMap]
  congr 1
  funext b
  simp [Function.comp_def]

theorem priority_mem_insert {p : Int} {a : α} {bs : List (Int × List α)} {b : Int × List α}
    (h : b ∈ insert p a bs) : b.1 = p ∨ ∃ c ∈ bs, c.1 = b.1 := by
  induction bs with
  | nil =>
    left
    simp only [insert, List.mem_singleton] at h
    rw [h]
  | cons c bs ih =>
    obtain ⟨q, as⟩ := c
    unfold insert at h
    split at h
    · rcases List.mem_cons.1 h with rfl | h
      · exact .inl rfl
      · exact .inr ⟨b, h, rfl⟩
    · split at h
      · rcases List.mem_cons.1 h with rfl | h
        · exact .inr ⟨(q, as), List.mem_cons_self, rfl⟩
        · exact .inr ⟨b, List.mem_cons_of_mem _ h, rfl⟩
      · rcases List.mem_cons.1 h with rfl | h
        · exact .inr ⟨(q, as), List.mem_cons_self, rfl⟩
        · rcases ih h with h | ⟨c, hc, hcb⟩
          · exact .inl h
          · exact .inr ⟨c, List.mem_cons_of_mem _ hc, hcb⟩

theorem ascending_insert {p : Int} {a : α} {bs : List (Int × List α)} (h : Ascending bs) :
    Ascending (insert p a bs) := by
  induction bs with
  | nil => exact List.pairwise_singleton _ _
  | cons c bs ih =>
    obtain ⟨q, as⟩ := c
    obtain ⟨hq, hbs⟩ := List.pairwise_cons.1 h
    unfold insert
    split
    · refine List.pairwise_cons.2 ⟨fun b hb => ?_, h⟩
      rcases List.mem_cons.1 hb with rfl | hb
      · assumption
      · exact Int.lt_trans ‹_› (hq b hb)
    · split
      · exact List.pairwise_cons.2 ⟨hq, hbs⟩
      · refine List.pairwise_cons.2 ⟨fun b hb => ?_, ih hbs⟩
        rcases priority_mem_insert hb with hp | ⟨c, hc, hcb⟩
        · show q < b.1
          omega
        · rw [← hcb]
          exact hq c hc

theorem ofPriority_tagged_of_lt {p : Int} {bs : List (Int × List α)} (h : ∀ b ∈ bs, p < b.1) :
    ofPriority (·.1) p (tagged bs) = [] := by
  rw [ofPriority, List.filter_eq_nil_iff]
  intro e he
  obtain ⟨b, hb, hbe⟩ := List.mem_flatMap.1 he
  obtain ⟨a, -, rfl⟩ := List.mem_map.1 hbe
  have := h b hb
  simp only [decide_eq_true_eq]
  omega

/-- A new entry comes behind those of its priority; the entries of other priorities stay. -/
theorem ofPriority_tagged_insert {p : Int} {a : α} {bs : List (Int × List α)} (h : Ascending bs)
    (q : Int) :
    ofPriority (·.1) q (tagged (insert p a bs)) =
      ofPriority (·.1) q (tagged bs) ++ ofPriority (·.1) q [(p, a)] := by
  induction bs with
  | nil => simp [insert, ofPriority]
  | cons c bs ih =>
    obtain ⟨r, as⟩ := c
    obtain ⟨hr, hbs⟩ := List.pairwise_cons.1 h
    unfold insert
    split
    · next hlt =>
      by_cases hqp : p = q
      · subst hqp
        have hnone : ofPriority (·.1) p (tagged ((r, as) :: bs)) = [] :=
          ofPriority_tagged_of_lt fun b hb => by
            rcases List.mem_cons.1 hb with rfl | hb
            · exact hlt
            · exact Int.lt_trans hlt (hr b hb)
        rw [hnone, tagged_cons]
        unfold ofPriority at hnone ⊢
        rw [List.filter_append, hnone]
        simp
      · simp [ofPriority, hqp]
    · split
      · next heq =>
        subst heq
        by_cases hqp : p = q
        · subst hqp
          have hnone := ofPriority_tagged_of_lt hr
          unfold ofPriority at hnone ⊢
          simp [hnone]
        · simp [ofPriority, hqp]
      · have := ih hbs
        unfold ofPriority at this ⊢
        rw [tagged_cons, tagged_cons, List.filter_append, List.filter_append, this,
          List.append_assoc]

theorem tagged_ascending {bs : List (Int × List α)} (h : Ascending bs) :
    (tagged bs).Pairwise fun e e' => e.1 ≤ e'.1 := by
  induction bs with
  | nil => exact List.Pairwise.nil
  | cons b bs ih =>
    obtain ⟨hb, hbs⟩ := List.pairwise_cons.1 h
    rw [tagged_cons, List.pairwise_append]
    refine ⟨?_, ih hbs, ?_⟩
    · rw [List.pairwise_map]
      exact List.pairwise_of_forall fun _ _ => Int.le_refl _
    · intro e he e' he'
      obtain ⟨a, -, rfl⟩ := List.mem_map.1 he
      obtain ⟨c, hc, hce⟩ := List.mem_flatMap.1 he'
      obtain ⟨a', -, rfl⟩ := List.mem_map.1 hce
      exact Int.le_of_lt (hb c hc)

theorem ofPairs_concat (l : List (Int × α)) (e : Int × α) :
    ofPairs (l ++ [e]) = (ofPairs l).add e.1 e.2 := by
  rw [ofPairs, List.foldl_append]
  rfl

/-- What adding entries one after the other preserves: the priorities ascend, and each has the
entries that were added under it. -/
theorem ofPairs_spec (l : List (Int × α)) :
    Ascending (ofPairs l).buckets ∧
      ∀ q, ofPriority (·.1) q (tagged (ofPairs l).buckets) = ofPriority (·.1) q l := by
  induction l using List.reverseRecOn with
  | nil => exact ⟨List.Pairwise.nil, fun q => rfl⟩
  | append_singleton l e ih =>
    rw [ofPairs_concat]
    refine ⟨ascending_insert ih.1, fun q => ?_⟩
    show ofPriority _ q (tagged (insert e.1 e.2 (ofPairs l).buckets)) = _
    rw [ofPriority_tagged_insert ih.1 q, ih.2 q]
    unfold ofPriority
    rw [List.filter_append]

/-- The entries of a schedule are the stable sort of those that were added. -/
theorem toList_ofPairs (l : List (Int × α)) :
    (ofPairs l).toList = (byPriority (·.1) l).map (·.2) := by
  obtain ⟨hasc, hsame⟩ := ofPairs_spec l
  rw [toList_eq]
  congr 1
  refine eq_of_ascending (·.1) (tagged_ascending hasc) (byPriority_ascending _ l) fun p => ?_
  rw [hsame, ofPriority_byPriority]

theorem ofList_eq_ofPairs (f : α → Int) (l : List α) :
    ofList f l = ofPairs (l.map fun a => (f a, a)) := by
  rw [ofList, ofPairs, List.foldl_map]

theorem toList_ofList (f : α → Int) (l : List α) : (ofList f l).toList = byPriority f l := by
  rw [ofList_eq_ofPairs, toList_ofPairs, byPriority_map, List.map_map]
  simp [Function.comp_def]

/-- Schedules of lists that agree within each priority have the same order. -/
theorem toList_ofList_congr {f : α → Int} {l l' : List α}
    (h : ∀ p, ofPriority f p l = ofPriority f p l') :
    (ofList f l).toList = (ofList f l').toList := by
  rw [toList_ofList, toList_ofList]
  exact (byPriority_eq_iff f).2 h

theorem ofList_concat (f : α → Int) (l : List α) (a : α) :
    ofList f (l ++ [a]) = (ofList f l).add (f a) a := by
  rw [ofList, List.foldl_append]
  rfl

end Schedule

end Switchboard
