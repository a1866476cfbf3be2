import Switchboard.Proofs.Ways

/-!
# Searches find the preferred way

A search follows all ways side by side and enters no choice twice at a place. Still it finds what
trying the ways one after the other would find:

    search r text = firstFrom r none 0 text        (search_eq)

What a sweep has at a place is the preferred one of the ways of the threads that wait and of the
match it found (`Sweep.best`). Exploring frames appends their ways to it (`Explores`), and what was
entered before is passed over rightly because it leads nowhere, or to something that is preferred
(`Sweep.Settles`). A choice that is still under way is no such case: its load is greater than that
of all that is explored within it (`Sweep.SettledBelow`).
-/

namespace Switchboard

namespace Regex

/-! ## What frames and sweeps come to -/

/-- The marks of the preferred way of frames from a place. -/
def best (o : Head) (k : List Frame) (m : Marks) : Option Marks :=
  (runs k (o.withMarks m)).head?.map Head.finish

/-- The marks of the preferred way of a thread that waits. -/
def Waiting.best (o : Head) (t : Waiting) : Option Marks :=
  (((o.withMarks t.thread.marks).take t.set).flatMap (runs t.thread.rest)).head?.map Head.finish

/-- The marks of the preferred way of a sweep. -/
def Sweep.best (o : Head) (w : Sweep) : Option Marks :=
  (w.waiting.reverse.findSome? (Waiting.best o)).or (w.found.map ((1, o.position) :: ·))

theorem best_eq_none_iff (o : Head) (k : List Frame) (m : Marks) :
    best o k m = none ↔ runs k o = [] := by
  rw [best, Option.map_eq_none_iff, List.head?_eq_none_iff, runs_eq_nil_iff]

theorem best_congr {k k' : List Frame} (h : ∀ o, runs k' o = runs k o) (o : Head) (m : Marks) :
    best o k' m = best o k m := by
  rw [best, h, best]

theorem best_append {k k₁ k₂ : List Frame} (h : ∀ o, runs k o = runs k₁ o ++ runs k₂ o) (o : Head)
    (m : Marks) : best o k m = (best o k₁ m).or (best o k₂ m) := by
  simp only [best, h, List.head?_append, Option.map_or]

/-! ## Loads -/

/-- A bound on the choices and characters that an expression enters at a place, one within the
other. -/
def load : Regex → Nat
  | empty | look _ | mark _ => 0
  | one _ => 1
  | seq a b => load a + load b
  | alt a b => load a + load b + 1
  | loop r low high _ => (max low (high.getD 0) + 1) * (load r + 1)

/-- The load of frames. What follows a frame that takes something is not reached. -/
def loadAll : List Frame → Nat
  | [] => 0
  | f :: k => load f.regex + if canBeEmpty f.regex then loadAll k else 0

theorem loadAll_cons_le (f : Frame) (k : List Frame) :
    loadAll (f :: k) ≤ load f.regex + loadAll k := by
  simp only [loadAll]
  split <;> omega

theorem loadAll_cons_of_canBeEmpty {f : Frame} (hf : f.regex.canBeEmpty = true) (k : List Frame) :
    loadAll (f :: k) = load f.regex + loadAll k := by
  simp [loadAll, hf]

theorem loadAll_cons_of_not_canBeEmpty {f : Frame} (hf : f.regex.canBeEmpty = false)
    (k : List Frame) : loadAll (f :: k) = load f.regex := by
  simp [loadAll, hf]

/-! ## Steps of a sweep -/

/-- Whether frames lead nowhere, or something that is preferred is there. -/
def Sweep.Settles (o : Head) (w : Sweep) (k : List Frame) : Prop :=
  runs k o = [] ∨ (w.best o).isSome

/-- Whether all that was entered is settled, apart from what has a load of at least `n`. -/
def Sweep.SettledBelow (o : Head) (n : Nat) (w : Sweep) : Prop :=
  ∀ k ∈ w.seen, loadAll k < n → w.Settles o k

/-- Frames in which no unbounded loop may go round without a character. -/
def SteadyAll (k : List Frame) : Prop := ∀ f ∈ k, f.regex.steady = true

def Sweep.Steady (w : Sweep) : Prop := ∀ t ∈ w.waiting, SteadyAll t.thread.rest

/-- Whether a sweep goes on to another one and gains a way. -/
structure Leads (o : Head) (w w' : Sweep) (gain : Option Marks) : Prop where
  best : w'.best o = (w.best o).or gain
  seen : ∀ k ∈ w'.seen, k ∈ w.seen ∨ w'.Settles o k
  steady : w.Steady → w'.Steady

/-- Whether a way on explores frames. -/
def Explores (o : Head) (next : Next) (k : List Frame) : Prop :=
  ∀ n m w, loadAll k < n → w.SettledBelow o n → Leads o w (next m w) (best o k m)

section Steps

variable {o : Head} {w w' w₁ : Sweep} {gain gain' : Option Marks} {k k' : List Frame} {n : Nat}

theorem Leads.refl (o : Head) (w : Sweep) : Leads o w w none :=
  ⟨Option.or_none.symm, fun _ hk => .inl hk, id⟩

theorem Leads.settles (h : Leads o w w' gain) (hk : w.Settles o k) : w'.Settles o k := by
  rcases hk with hk | hk
  · exact .inl hk
  · right
    rw [h.best, Option.isSome_or, hk, Bool.true_or]

theorem Leads.settledBelow (h : Leads o w w' gain) (hw : w.SettledBelow o n) :
    w'.SettledBelow o n := by
  intro k hk hn
  rcases h.seen k hk with hk | hk
  · exact h.settles (hw k hk hn)
  · exact hk

theorem Leads.trans (h : Leads o w w₁ gain) (h' : Leads o w₁ w' gain') :
    Leads o w w' (gain.or gain') where
  best := by rw [h'.best, h.best, Option.or_assoc]
  seen := by
    intro k hk
    rcases h'.seen k hk with hk | hk
    · exact (h.seen k hk).imp_right h'.settles
    · exact .inr hk
  steady := h'.steady ∘ h.steady

/-- What gained the best of some frames has settled them. -/
theorem Leads.settles_gain {m : Marks} (h : Leads o w w' (Regex.best o k m)) : w'.Settles o k := by
  cases hb : Regex.best o k m with
  | none => exact .inl ((best_eq_none_iff o k m).1 hb)
  | some b =>
    right
    rw [h.best, hb, Option.isSome_or]
    exact Bool.or_true _

/-- Frames that are settled may be passed over. -/
theorem leads_skip (hk : w.Settles o k) (m : Marks) : Leads o w w (best o k m) := by
  refine ⟨?_, fun _ hk => .inl hk, id⟩
  rcases hk with hk | hb
  · rw [(best_eq_none_iff o k m).2 hk, Option.or_none]
  · rw [Option.or_of_isSome hb]

theorem settles_of_found (hf : w.found.isSome = true) : w.Settles o k := by
  right
  rw [Sweep.best, Option.isSome_or, Option.isSome_map, hf, Bool.or_true]

theorem Explores.congr {next : Next} (h : Explores o next k) (hruns : ∀ o, runs k' o = runs k o)
    (hload : loadAll k ≤ loadAll k') : Explores o next k' := by
  intro n m w hn hw
  rw [best_congr hruns]
  exact h n m w (Nat.lt_of_le_of_lt hload hn) hw

/-- Entering a choice is right if what is done within it is. -/
theorem leads_visit {m : Marks} (enter : Sweep → Sweep) (hn : loadAll k < n)
    (hw : w.SettledBelow o n)
    (henter : ∀ w₀ : Sweep, w₀.found = none → w₀.SettledBelow o (loadAll k) →
      Leads o w₀ (enter w₀) (best o k m)) :
    Leads o w (w.visit k enter) (best o k m) := by
  unfold Sweep.visit
  split
  · rename_i hskip
    refine leads_skip ?_ m
    rcases Bool.or_eq_true _ _ ▸ hskip with hf | hs
    · exact settles_of_found hf
    · exact hw k hs hn
  · rename_i hskip
    simp only [Bool.or_eq_true, not_or, Bool.not_eq_true, Option.isSome_eq_false_iff,
      Option.isNone_iff_eq_none] at hskip
    have hinsert : ∀ k', k' ∈ w.seen.insert k → k' = k ∨ k' ∈ w.seen := fun k' hk' =>
      (Std.HashSet.mem_insert.1 hk').imp_left fun heq => (eq_of_beq heq).symm
    -- the choice itself is not settled yet, but nothing within it has its load
    have hl := henter { w with seen := w.seen.insert k } hskip.1 fun k' hk' hlt => by
      rcases hinsert k' hk' with rfl | hk'
      · exact absurd hlt (Nat.lt_irrefl _)
      · exact hw k' hk' (Nat.lt_trans hlt hn)
    refine ⟨hl.best, fun k' hk' => ?_, hl.steady⟩
    rcases hl.seen k' hk' with hk' | hk'
    · rcases hinsert k' hk' with rfl | hk'
      · exact .inr hl.settles_gain
      · exact .inl hk'
    · exact .inr hk'

theorem leads_inOrder {round exit : Sweep → Sweep} (greedy : Bool) (hw : w.SettledBelow o n)
    (hround : ∀ w, w.SettledBelow o n → Leads o w (round w) gain)
    (hexit : ∀ w, w.SettledBelow o n → Leads o w (exit w) gain') :
    Leads o w (inOrder greedy round exit w) (if greedy then gain.or gain' else gain'.or gain) := by
  unfold inOrder
  cases greedy with
  | true => exact (hround w hw).trans (hexit _ ((hround w hw).settledBelow hw))
  | false => exact (hexit w hw).trans (hround _ ((hexit w hw).settledBelow hw))

theorem explores_accept (o : Head) : Explores o Sweep.accept [] := by
  intro n m w _ _
  have hb : best o [] m = some ((1, o.position) :: m) := rfl
  unfold Sweep.accept
  split
  · rename_i hf
    exact leads_skip (settles_of_found hf) m
  · rename_i hf
    rw [Bool.not_eq_true, Option.isSome_eq_false_iff, Option.isNone_iff_eq_none] at hf
    refine ⟨?_, fun _ hk => .inl hk, id⟩
    rw [hb, Sweep.best, Sweep.best, hf]
    simp

theorem leads_wait {s : CodePoints} {m : Marks} (site : Nat) (hf : w.found = none)
    (hk : SteadyAll k) : Leads o w (w.wait s k m) (best o (⟨site, one s⟩ :: k) m) where
  best := by
    have hb : best o (⟨site, one s⟩ :: k) m = Waiting.best o ⟨s, k, m⟩ := rfl
    rw [hb, Sweep.best, Sweep.best]
    simp [Sweep.wait, hf, List.findSome?_append]
  seen := fun _ hk => .inl hk
  steady := by
    intro hw t ht
    rcases List.mem_cons.1 ht with rfl | ht
    · exact hk
    · exact hw t ht

end Steps

/-! ## Loops -/

section Loops

variable {o : Head} {k : List Frame} {next : Next} {site : Nat} {r : Regex} {greedy : Bool}

/-- The frames of a sequence stand for the sequence. -/
theorem runs_seq (site site₁ site₂ : Nat) (a b : Regex) (k : List Frame) (o : Head) :
    runs (⟨site, seq a b⟩ :: k) o = runs (⟨site₁, a⟩ :: ⟨site₂, b⟩ :: k) o := by
  simp only [runs, ways, List.flatMap_assoc]

theorem runs_many_succ (site site' n : Nat) (o : Head) :
    runs (⟨site, loop r (n + 1) none greedy⟩ :: k) o =
      runs (⟨site', r⟩ :: ⟨site, loop r n none greedy⟩ :: k) o := by
  simp only [runs, ways, times, List.flatMap_assoc]

theorem runs_upTo_succ (site site' n d : Nat) (o : Head) :
    runs (⟨site, loop r (n + 1) (some (d + (n + 1))) greedy⟩ :: k) o =
      runs (⟨site', r⟩ :: ⟨site, loop r n (some (d + n)) greedy⟩ :: k) o := by
  simp only [runs, ways, times, List.flatMap_assoc, Nat.add_sub_cancel]

/-- Any number of rounds is another round, or the way out. -/
theorem best_many (hr : r.canBeEmpty = false) (site' : Nat) (m : Marks) :
    best o (⟨site, loop r 0 none greedy⟩ :: k) m =
      if greedy then
        (best o (⟨site', r⟩ :: ⟨site, loop r 0 none greedy⟩ :: k) m).or (best o k m)
      else (best o k m).or (best o (⟨site', r⟩ :: ⟨site, loop r 0 none greedy⟩ :: k) m) := by
  have hways : ∀ h, ways (loop r 0 none greedy) h = many (ways r) greedy h := by
    intro h
    simp [ways, times]
  cases greedy with
  | true =>
    refine best_append (fun o => ?_) o m
    simp only [runs, hways]
    rw [many_eq (takes_ways hr)]
    simp [List.flatMap_assoc]
  | false =>
    refine best_append (fun o => ?_) o m
    simp only [runs, hways]
    rw [many_eq (takes_ways hr)]
    simp [List.flatMap_assoc]

/-- At most so many rounds are another round, or the way out. -/
theorem best_upTo (site' n : Nat) (m : Marks) :
    best o (⟨site, loop r 0 (some (n + 1)) greedy⟩ :: k) m =
      if greedy then
        (best o (⟨site', r⟩ :: ⟨site, loop r 0 (some n) greedy⟩ :: k) m).or (best o k m)
      else (best o k m).or (best o (⟨site', r⟩ :: ⟨site, loop r 0 (some n) greedy⟩ :: k) m) := by
  have hways : ∀ n h, ways (loop r 0 (some n) greedy) h = upTo (ways r) greedy n h := by
    intro n h
    simp [ways, times]
  cases greedy <;>
  · refine best_append (fun o => ?_) o m
    simp [runs, hways, upTo, List.flatMap_assoc]

/-- What exploring the body of a loop has to do. -/
def ExploresBody (o : Head) (r : Regex) (site : Nat) (step : List Frame → Next → Next) : Prop :=
  ∀ k next, SteadyAll k → (r.canBeEmpty = true → Explores o next k) →
    Explores o (step k next) (⟨site, r⟩ :: k)

variable {step : List Frame → Next → Next}

theorem explores_many {site' : Nat} (hstep : ExploresBody o r site' step)
    (hs : (loop r 0 none greedy).steady = true) (hk : SteadyAll k) (hnext : Explores o next k) :
    Explores o (exploreMany step ⟨site, loop r 0 none greedy⟩ greedy k next)
      (⟨site, loop r 0 none greedy⟩ :: k) := by
  have hr : r.canBeEmpty = false := by
    simp only [steady, Option.isSome_none, Bool.false_or, Bool.and_eq_true, Bool.not_eq_true'] at hs
    exact hs.2
  have hload : loadAll (⟨site, loop r 0 none greedy⟩ :: k) = load r + 1 + loadAll k := by
    rw [loadAll_cons_of_canBeEmpty rfl]
    simp [load]
  -- a round takes a character, so the way on from it is never taken at this place
  have hround := hstep (⟨site, loop r 0 none greedy⟩ :: k) (fun _ w => w)
    (List.forall_mem_cons.2 ⟨hs, hk⟩) (by simp [hr])
  have hround' : loadAll (⟨site', r⟩ :: ⟨site, loop r 0 none greedy⟩ :: k) = load r :=
    loadAll_cons_of_not_canBeEmpty hr _
  intro n m w hn hw
  refine leads_visit _ hn hw fun w₀ _ hw₀ => ?_
  rw [best_many hr site']
  exact leads_inOrder greedy hw₀ (fun w hw => hround _ m w (by omega) hw)
    (fun w hw => hnext _ m w (by omega) hw)

theorem explores_upTo {site' : Nat} (hstep : ExploresBody o r site' step) (hr : r.steady = true)
    (hk : SteadyAll k) (hnext : Explores o next k) (n : Nat) :
    Explores o (exploreUpTo step (fun n => ⟨site, loop r 0 (some n) greedy⟩) greedy k next n)
      (⟨site, loop r 0 (some n) greedy⟩ :: k) := by
  have hload : ∀ n, loadAll (⟨site, loop r 0 (some n) greedy⟩ :: k) =
      (n + 1) * (load r + 1) + loadAll k := by
    intro n
    rw [loadAll_cons_of_canBeEmpty rfl]
    simp [load]
  induction n with
  | zero =>
    refine hnext.congr (fun o => ?_) ?_
    · simp [runs, ways, times, upTo]
    · rw [hload]
      omega
  | succ n ih =>
    have hs : (loop r 0 (some n) greedy).steady = true := by simp [steady, hr]
    have hround := hstep (⟨site, loop r 0 (some n) greedy⟩ :: k) _
      (List.forall_mem_cons.2 ⟨hs, hk⟩) fun _ => ih
    have hround' : loadAll (⟨site', r⟩ :: ⟨site, loop r 0 (some n) greedy⟩ :: k) ≤
        load r + ((n + 1) * (load r + 1) + loadAll k) := hload n ▸ loadAll_cons_le _ _
    have hn : loadAll (⟨site, loop r 0 (some (n + 1)) greedy⟩ :: k) =
        (n + 1) * (load r + 1) + (load r + 1) + loadAll k := by
      rw [hload, Nat.succ_mul]
    intro b m w hb hw
    refine leads_visit _ hb hw fun w₀ _ hw₀ => ?_
    rw [best_upTo site']
    exact leads_inOrder greedy hw₀ (fun w hw => hround _ m w (by simp only [hn]; omega) hw)
      (fun w hw => hnext _ m w (by simp only [hn]; omega) hw)

/-- So many rounds, and then others. The frames stand for what is left of the loop. -/
theorem explores_times {site' : Nat} (frame : Nat → Frame) {others : Next}
    (hstep : ExploresBody o r site' step)
    (hruns : ∀ n o, runs (frame (n + 1) :: k) o = runs (⟨site', r⟩ :: frame n :: k) o)
    (hload : ∀ n, loadAll (⟨site', r⟩ :: frame n :: k) ≤ loadAll (frame (n + 1) :: k))
    (hs : ∀ n, (frame n).regex.steady = true) (hk : SteadyAll k) (n : Nat)
    (hothers : n = 0 ∨ r.canBeEmpty = true → Explores o others (frame 0 :: k)) :
    Explores o (exploreTimes step frame k others n) (frame n :: k) := by
  induction n with
  | zero => exact hothers (.inl rfl)
  | succ n ih =>
    have hround := hstep (frame n :: k) (exploreTimes step frame k others n)
      (List.forall_mem_cons.2 ⟨hs n, hk⟩) fun hr => ih fun _ => hothers (.inr hr)
    exact hround.congr (hruns n) (hload n)

end Loops

/-! ## Exploring -/

/-- The step lemma of a search: exploring an expression appends its ways, if what comes after it
does so too. -/
theorem explores_explore (o : Head) (r : Regex) :
    ∀ (site : Nat) (k : List Frame) (next : Next), r.steady = true → SteadyAll k →
      (r.canBeEmpty = true → Explores o next k) →
      Explores o (explore o.place r site k next) (⟨site, r⟩ :: k) := by
  induction r with
  | empty =>
    intro site k next _ _ hnext
    refine (hnext rfl).congr (fun o => ?_) ?_
    · simp [runs, ways]
    · simp [loadAll, load, canBeEmpty]
  | one s =>
    intro site k next _ hk _ n m w hn hw
    exact leads_visit _ hn hw fun w₀ hf _ => leads_wait site hf hk
  | look l =>
    intro site k next _ _ hnext n m w hn hw
    have hload : loadAll (⟨site, look l⟩ :: k) = loadAll k := by simp [loadAll, load, canBeEmpty]
    simp only [explore]
    by_cases hl : o.place.satisfies l = true
    · have hb : best o (⟨site, look l⟩ :: k) m = best o k m := by
        have hp : (o.withMarks m).place = o.place := rfl
        simp [best, runs, ways, hp, hl]
      rw [if_pos hl, hb]
      exact hnext rfl n m w (hload ▸ hn) hw
    · have hb : best o (⟨site, look l⟩ :: k) m = none := by
        have hp : (o.withMarks m).place = o.place := rfl
        simp [best, runs, ways, hp, hl]
      rw [if_neg hl, hb]
      exact Leads.refl o w
  | mark slot =>
    intro site k next _ _ hnext n m w hn hw
    have hload : loadAll (⟨site, mark slot⟩ :: k) = loadAll k := by
      simp [loadAll, load, canBeEmpty]
    have hb : best o (⟨site, mark slot⟩ :: k) m = best o k ((slot, o.position) :: m) := by
      simp [best, runs, ways, Head.mark, Head.withMarks]
    rw [hb]
    exact hnext rfl n _ w (hload ▸ hn) hw
  | seq a b iha ihb =>
    intro site k next hs hk hnext
    simp only [steady, Bool.and_eq_true] at hs
    refine (iha (site + 1) (⟨site + 1 + a.size, b⟩ :: k) _ hs.1
      (List.forall_mem_cons.2 ⟨hs.2, hk⟩) fun ha => ?_).congr (runs_seq _ _ _ a b k) ?_
    · exact ihb _ k next hs.2 hk fun hb => hnext (by simp [canBeEmpty, ha, hb])
    · simp only [loadAll, load, canBeEmpty, Bool.and_eq_true]
      by_cases ha : a.canBeEmpty = true <;> by_cases hb : b.canBeEmpty = true <;>
        simp [ha, hb, Nat.add_assoc]
  | alt a b iha ihb =>
    intro site k next hs hk hnext n m w hn hw
    simp only [steady, Bool.and_eq_true] at hs
    have hload : loadAll (⟨site + 1, a⟩ :: k) < loadAll (⟨site, alt a b⟩ :: k) ∧
        loadAll (⟨site + 1 + a.size, b⟩ :: k) < loadAll (⟨site, alt a b⟩ :: k) := by
      by_cases ha : a.canBeEmpty = true <;> by_cases hb : b.canBeEmpty = true <;>
        simp [loadAll, load, canBeEmpty, ha, hb] <;> omega
    have ha := iha (site + 1) k next hs.1 hk fun ha => hnext (by simp [canBeEmpty, ha])
    have hb := ihb (site + 1 + a.size) k next hs.2 hk fun hb => hnext (by simp [canBeEmpty, hb])
    have hbest : best o (⟨site, alt a b⟩ :: k) m =
        (best o (⟨site + 1, a⟩ :: k) m).or (best o (⟨site + 1 + a.size, b⟩ :: k) m) :=
      best_append (fun o => by simp [runs, ways]) o m
    refine leads_visit (fun w => explore o.place b (site + 1 + a.size) k next m
      (explore o.place a (site + 1) k next m w)) hn hw fun w₀ _ hw₀ => ?_
    rw [hbest]
    have hl := ha _ m w₀ hload.1 hw₀
    exact hl.trans (hb _ m _ hload.2 (hl.settledBelow hw₀))
  | loop r low high greedy ih =>
    intro site k next hs hk hnext
    have hr : r.steady = true := (Bool.and_eq_true _ _ ▸ hs).1
    have hstep : ExploresBody o r (site + 1) (explore o.place r (site + 1)) :=
      fun k next hk hnext => ih (site + 1) k next hr hk hnext
    have hempty : low = 0 ∨ r.canBeEmpty = true → (loop r low high greedy).canBeEmpty = true := by
      rintro (h | h) <;> simp [canBeEmpty, h]
    cases high with
    | none =>
      refine explores_times (fun n => ⟨site, loop r n none greedy⟩) hstep
        (runs_many_succ site (site + 1)) (fun n => ?_) (fun n => hs) hk low fun h =>
          explores_many hstep hs hk (hnext (hempty h))
      by_cases hr : r.canBeEmpty = true <;> simp [loadAll, load, canBeEmpty, hr, Nat.add_mul] <;>
        omega
    | some high =>
      have hframes := explores_times
        (fun n => ⟨site, loop r n (some (high - low + n)) greedy⟩) hstep
        (fun n => runs_upTo_succ site (site + 1) n (high - low)) (fun n => ?_)
        (fun n => by simpa [steady] using hr) hk low fun h =>
          explores_upTo hstep hr hk (hnext (hempty h)) (high - low)
      · refine hframes.congr (fun o => ?_) ?_
        · simp [runs, ways]
        · have hmax : max low (high - low + low) ≤ max low high := by omega
          simp only [loadAll, load, canBeEmpty, Option.getD_some]
          exact Nat.add_le_add_right
            (Nat.mul_le_mul_right (load r + 1) (Nat.add_le_add_right hmax 1)) _
      · by_cases hr : r.canBeEmpty = true <;> simp [loadAll, load, canBeEmpty, hr, Nat.add_mul] <;>
          omega

theorem explores_exploreAll (o : Head) (k : List Frame) (hk : SteadyAll k) :
    Explores o (exploreAll o.place k) k := by
  induction k with
  | nil => exact explores_accept o
  | cons f k ih =>
    obtain ⟨hf, hk⟩ := List.forall_mem_cons.1 hk
    exact explores_explore o f.regex f.site k _ hf hk fun _ => ih hk

/-! ## Running -/

/-- What threads come to at a place. -/
def bestOf (o : Head) (ts : List Thread) : Option Marks :=
  ts.findSome? fun t => best o t.rest t.marks

/-- The preferred one of the ways from the first place that has any. -/
def firstFrom (r : Regex) (before : Option Char) (position : Nat) : List Char → Option Marks
  | [] => first r ⟨position, before, [], [(0, position)]⟩
  | c :: cs =>
    (first r ⟨position, before, c :: cs, [(0, position)]⟩).or
      (firstFrom r (some c) (position + 1) cs)

theorem findSome?_cons_eq_or {α β : Type} (f : α → Option β) (a : α) (l : List α) :
    (a :: l).findSome? f = (f a).or (l.findSome? f) := by
  rw [List.findSome?_cons]
  cases f a <;> rfl

theorem bestOf_cons (o : Head) (t : Thread) (ts : List Thread) :
    bestOf o (t :: ts) = (best o t.rest t.marks).or (bestOf o ts) :=
  findSome?_cons_eq_or _ t ts

/-- The run lemma of a place: what all threads come to. -/
theorem leads_threads (o : Head) (ts : List Thread) (hts : ∀ t ∈ ts, SteadyAll t.rest) :
    ∀ w : Sweep, (∀ n, w.SettledBelow o n) →
      Leads o w (ts.foldl (fun w t => exploreAll o.place t.rest t.marks w) w) (bestOf o ts) := by
  induction ts with
  | nil => exact fun w _ => Leads.refl o w
  | cons t ts ih =>
    intro w hw
    obtain ⟨ht, hts⟩ := List.forall_mem_cons.1 hts
    have hl := explores_exploreAll o t.rest ht _ t.marks w (Nat.lt_succ_self _) (hw _)
    rw [bestOf_cons]
    exact hl.trans (ih hts _ fun n => hl.settledBelow (hw n))

/-- What waits at a place goes on at the next one if it takes the character between them. -/
theorem bestOf_advance (position : Nat) (before : Option Char) (c : Char) (cs : List Char)
    (m : Marks) (waiting : List Waiting) :
    bestOf ⟨position + 1, some c, cs, m⟩ (advance c waiting) =
      waiting.findSome? (Waiting.best ⟨position, before, c :: cs, m⟩) := by
  induction waiting with
  | nil => rfl
  | cons t ts ih =>
    rw [findSome?_cons_eq_or, ← ih]
    by_cases hc : t.set.contains c.toNat = true
    · have hb : best ⟨position + 1, some c, cs, m⟩ t.thread.rest t.thread.marks =
          Waiting.best ⟨position, before, c :: cs, m⟩ t := by
        simp [best, Waiting.best, Head.take, Head.withMarks, hc]
      rw [← hb, ← bestOf_cons]
      simp [advance, hc]
    · have hb : Waiting.best ⟨position, before, c :: cs, m⟩ t = none := by
        simp [Waiting.best, Head.take, Head.withMarks, hc]
      rw [hb, Option.none_or]
      simp [advance, hc]

/-- The threads of a place, with the one that starts there if nothing has matched. -/
def threadsAt (r : Regex) (position : Nat) (threads : List Thread) (b : Option Marks) :
    List Thread :=
  if b.isNone then threads ++ [⟨[⟨0, r⟩], [(0, position)]⟩] else threads

theorem bestOf_threadsAt (r : Regex) (o : Head) (threads : List Thread) (b : Option Marks) :
    (bestOf o (threadsAt r o.position threads b)).or b =
      (bestOf o threads).or (b.or (first r (o.withMarks [(0, o.position)]))) := by
  cases b with
  | none =>
    simp [threadsAt, bestOf, List.findSome?_append, best, first, runs]
  | some b => rfl

/-- The sweep of threads at a place. -/
def sweepOf (o : Head) (ts : List Thread) : Sweep :=
  ts.foldl (fun w t => exploreAll o.place t.rest t.marks w) .start

theorem leads_sweepOf (o : Head) {ts : List Thread} (hts : ∀ t ∈ ts, SteadyAll t.rest) :
    Leads o .start (sweepOf o ts) (bestOf o ts) :=
  leads_threads o ts hts .start fun _ _ hk => absurd hk Std.HashSet.not_mem_empty

theorem steady_threadsAt {r : Regex} (hr : r.steady = true) (position : Nat)
    {threads : List Thread} (b : Option Marks) (hts : ∀ t ∈ threads, SteadyAll t.rest) :
    ∀ t ∈ threadsAt r position threads b, SteadyAll t.rest := by
  intro t ht
  unfold threadsAt at ht
  split at ht
  · rcases List.mem_append.1 ht with ht | ht
    · exact hts t ht
    · rw [List.mem_singleton.1 ht]
      exact List.forall_mem_singleton.2 hr
  · exact hts t ht

theorem run_nil (r : Regex) (before : Option Char) (position : Nat) (threads : List Thread)
    (b : Option Marks) :
    run r before position threads b [] =
      ((sweepOf ⟨position, before, [], []⟩ (threadsAt r position threads b)).found.map
        ((1, position) :: ·)).or b := rfl

theorem run_cons (r : Regex) (before : Option Char) (position : Nat) (threads : List Thread)
    (b : Option Marks) (c : Char) (cs : List Char) :
    run r before position threads b (c :: cs) =
      let w := sweepOf ⟨position, before, c :: cs, []⟩ (threadsAt r position threads b)
      let b := (w.found.map ((1, position) :: ·)).or b
      let threads := advance c w.waiting.reverse
      if b.isSome && threads.isEmpty then b
      else run r (some c) (position + 1) threads b cs := rfl

/-- A run finds what its threads come to, or else what was found before, or else what starts at the
first place that has a match. -/
theorem run_eq {r : Regex} (hr : r.steady = true) (cs : List Char) :
    ∀ (before : Option Char) (position : Nat) (threads : List Thread) (b : Option Marks),
      (∀ t ∈ threads, SteadyAll t.rest) →
      run r before position threads b cs =
        (bestOf ⟨position, before, cs, []⟩ threads).or (b.or (firstFrom r before position cs)) := by
  induction cs with
  | nil =>
    intro before position threads b hts
    have hl := leads_sweepOf ⟨position, before, [], []⟩ (steady_threadsAt hr position b hts)
    have hwaiting : ∀ ts : List Waiting,
        ts.findSome? (Waiting.best ⟨position, before, [], []⟩) = none :=
      fun ts => List.findSome?_eq_none_iff.2 fun t _ => rfl
    have hb := hl.best
    rw [Sweep.best, hwaiting, Option.none_or] at hb
    rw [run_nil, hb]
    exact bestOf_threadsAt r ⟨position, before, [], []⟩ threads b
  | cons c cs ih =>
    intro before position threads b hts
    have hl := leads_sweepOf ⟨position, before, c :: cs, []⟩ (steady_threadsAt hr position b hts)
    have hthreads := bestOf_threadsAt r ⟨position, before, c :: cs, []⟩ threads b
    rw [run_cons]
    generalize sweepOf ⟨position, before, c :: cs, []⟩ (threadsAt r position threads b) = w
      at hl ⊢
    have hb : w.best ⟨position, before, c :: cs, []⟩ = _ := hl.best
    rw [Sweep.best, ← bestOf_advance] at hb
    -- the early exit finds nothing else, as nothing is left to go on
    have hgo : (let b := (w.found.map ((1, position) :: ·)).or b
        let threads := advance c w.waiting.reverse
        if b.isSome && threads.isEmpty then b
        else run r (some c) (position + 1) threads b cs) =
          (bestOf ⟨position + 1, some c, cs, []⟩ (advance c w.waiting.reverse)).or
            (((w.found.map ((1, position) :: ·)).or b).or
              (firstFrom r (some c) (position + 1) cs)) := by
      simp only
      split
      · rename_i hdone
        rw [Bool.and_eq_true, List.isEmpty_iff] at hdone
        rw [hdone.2, Option.or_of_isSome hdone.1]
        rfl
      · refine ih _ _ _ _ fun t ht => ?_
        obtain ⟨t', ht', rfl⟩ := List.mem_map.1 ht
        have hsteady : w.Steady := hl.steady fun t ht => absurd ht List.not_mem_nil
        exact hsteady t' (List.mem_reverse.1 (List.mem_filter.1 ht').1)
    calc _ = _ := hgo
      _ = (((bestOf ⟨position, before, c :: cs, []⟩ (threadsAt r position threads b))).or b).or
            (firstFrom r (some c) (position + 1) cs) := by
          rw [← Option.or_assoc, ← Option.or_assoc, hb]
          rfl
      _ = _ := by
          rw [hthreads, Option.or_assoc, Option.or_assoc]
          rfl

/-- A search finds the preferred one of the ways from the first place that has any. -/
theorem search_eq {r : Regex} (hr : r.steady = true) (text : List Char) :
    search r text = firstFrom r none 0 text := by
  rw [search, run_eq hr text none 0 [] none (fun t ht => absurd ht List.not_mem_nil)]
  rfl

/-! ## Anchors -/

theorem firstFrom_textStart (r : Regex) (c : Char) (position : Nat) (cs : List Char) :
    firstFrom (seq (look .textStart) r) (some c) position cs = none := by
  have hnone : ∀ position c cs m,
      first (seq (look .textStart) r) ⟨position, some c, cs, m⟩ = none := fun _ _ _ _ => rfl
  induction cs generalizing position c with
  | nil => exact hnone _ _ _ _
  | cons d cs ih => rw [firstFrom, hnone, ih, Option.none_or]

/-- An expression that is anchored at the start matches from there or not at all. -/
theorem search_textStart {r : Regex} (hr : r.steady = true) (text : List Char) :
    search (seq (look .textStart) r) text = first r ⟨0, none, text, [(0, 0)]⟩ := by
  have hsteady : (seq (look .textStart) r).steady = true := hr
  have hfirst : first (seq (look .textStart) r) ⟨0, none, text, [(0, 0)]⟩ =
      first r ⟨0, none, text, [(0, 0)]⟩ := by
    simp [first, ways, Head.place, Place.satisfies]
  rw [search_eq hsteady]
  cases text with
  | nil => exact hfirst
  | cons c cs => rw [firstFrom, firstFrom_textStart, Option.or_none, hfirst]

end Regex

end Switchboard
