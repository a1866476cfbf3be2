import Mathlib.Data.List.Basic

/-!
# Fronts of lists

The front of a list up to the first element that stops, that element included. So go the items of
a pattern up to the first that matches, and the events of a run up to the first that stops it.

    throughFirst p (xs ++ [x] ++ ys) = xs ++ [x]     if `p` holds of `x` and of none of `xs`
-/

namespace Switchboard

variable {α β : Type}

def throughFirst (p : α → Bool) : List α → List α
  | [] => []
  | a :: as => if p a then [a] else a :: throughFirst p as

/-! ## Lemmas -/

theorem throughFirst_cons_of_pos {p : α → Bool} {a : α} (as : List α) (h : p a = true) :
    throughFirst p (a :: as) = [a] := by
  rw [throughFirst, if_pos h]

theorem throughFirst_cons_of_neg {p : α → Bool} {a : α} (as : List α) (h : ¬ p a = true) :
    throughFirst p (a :: as) = a :: throughFirst p as := by
  rw [throughFirst, if_neg h]

/-- The front ends with the first element that stops. -/
theorem throughFirst_append_cons {p : α → Bool} {a : α} {earlier : List α}
    (h : ∀ b ∈ earlier, p b = false) (ha : p a = true) (later : List α) :
    throughFirst p (earlier ++ a :: later) = earlier ++ [a] := by
  induction earlier with
  | nil => exact throughFirst_cons_of_pos later ha
  | cons b earlier ih =>
    have hb : ¬ p b = true := by simp [h b List.mem_cons_self]
    rw [List.cons_append, throughFirst_cons_of_neg _ hb,
      ih fun c hc => h c (List.mem_cons_of_mem _ hc), List.cons_append]

/-- Without an element that stops, the front is the whole list. -/
theorem throughFirst_eq_self {p : α → Bool} {l : List α} (h : ∀ a ∈ l, p a = false) :
    throughFirst p l = l := by
  induction l with
  | nil => rfl
  | cons a l ih =>
    have ha : ¬ p a = true := by simp [h a List.mem_cons_self]
    rw [throughFirst_cons_of_neg l ha, ih fun b hb => h b (List.mem_cons_of_mem _ hb)]

/-- Only one of two reasons to stop counts if the front has no element of the other. -/
theorem throughFirst_or {p q : α → Bool} {l : List α}
    (h : ∀ a ∈ throughFirst (fun a => p a || q a) l, p a = false) :
    throughFirst (fun a => p a || q a) l = throughFirst q l := by
  induction l with
  | nil => rfl
  | cons a l ih =>
    have ha : p a = false := by
      apply h
      unfold throughFirst
      split <;> simp
    by_cases hq : q a = true
    · rw [throughFirst_cons_of_pos l (by simp [hq]), throughFirst_cons_of_pos l hq]
    · have hpq : ¬ (p a || q a) = true := by simp [ha, hq]
      rw [throughFirst_cons_of_neg l hpq] at h
      rw [throughFirst_cons_of_neg l hpq, throughFirst_cons_of_neg l hq,
        ih fun b hb => h b (List.mem_cons_of_mem _ hb)]

/-- What is left out never stops, so it may as well be left out first. -/
theorem filterMap_throughFirst {p : α → Bool} {q : β → Bool} {f : α → Option β}
    (h : ∀ a, p a = (f a).any q) (l : List α) :
    (throughFirst p l).filterMap f = throughFirst q (l.filterMap f) := by
  induction l with
  | nil => rfl
  | cons a l ih =>
    cases hf : f a with
    | none =>
      have hp : ¬ p a = true := by simp [h, hf]
      rw [throughFirst_cons_of_neg l hp, List.filterMap_cons_none hf, List.filterMap_cons_none hf,
        ih]
    | some b =>
      rw [List.filterMap_cons_some hf]
      by_cases hq : q b = true
      · have hp : p a = true := by simp [h, hf, hq]
        rw [throughFirst_cons_of_pos l hp, throughFirst_cons_of_pos _ hq,
          List.filterMap_cons_some hf, List.filterMap_nil]
      · have hp : ¬ p a = true := by simp [h, hf, hq]
        rw [throughFirst_cons_of_neg l hp, throughFirst_cons_of_neg _ hq,
          List.filterMap_cons_some hf, ih]

/-- Changed elements make the same front, changed, if the change spares what stops it. -/
theorem throughFirst_map {p : α → Bool} {q : β → Bool} {f : α → β} {l : List α}
    (h : ∀ a ∈ throughFirst p l, q (f a) = p a) :
    throughFirst q (l.map f) = (throughFirst p l).map f := by
  induction l with
  | nil => rfl
  | cons a l ih =>
    rw [List.map_cons]
    by_cases hp : p a = true
    · rw [throughFirst_cons_of_pos l hp] at h ⊢
      have hq : q (f a) = true := by rw [h a List.mem_cons_self, hp]
      rw [throughFirst_cons_of_pos _ hq, List.map_cons, List.map_nil]
    · rw [throughFirst_cons_of_neg l hp] at h ⊢
      have hq : ¬ q (f a) = true := by rw [h a List.mem_cons_self]; exact hp
      rw [throughFirst_cons_of_neg _ hq, ih fun b hb => h b (List.mem_cons_of_mem _ hb),
        List.map_cons]

theorem throughFirst_congr {p q : α → Bool} {l : List α} (h : ∀ a ∈ l, p a = q a) :
    throughFirst p l = throughFirst q l := by
  induction l with
  | nil => rfl
  | cons a l ih =>
    rw [throughFirst, throughFirst, h a List.mem_cons_self,
      ih fun b hb => h b (List.mem_cons_of_mem _ hb)]

theorem throughFirst_sublist (p : α → Bool) (l : List α) : (throughFirst p l).Sublist l := by
  induction l with
  | nil => exact List.Sublist.slnil
  | cons a l ih =>
    by_cases hp : p a = true
    · rw [throughFirst_cons_of_pos l hp]
      exact (List.nil_sublist l).cons_cons a
    · rw [throughFirst_cons_of_neg l hp]
      exact ih.cons_cons a

end Switchboard
