import Switchboard.Proofs.Exploration

/-!
# Searches find only ways

Whatever a search finds is one of the ways of the expression, also if the rounds of a loop may take
nothing: passing over what was entered before loses ways, but it makes up none.

    Live goal k h         all ways of the frames `k` from `h` end in the goal
    Leaves goal o ...     what an expression may leave to do at a place
    sound_explore         exploring keeps everything that waits or was found on its way to the goal
    search_mem_ways       the marks that a search finds are those of a way

Which of the ways it is, `search_eq` tells of the expressions whose loops take something.
-/

namespace Switchboard

namespace Regex

/-! ## Rounds -/

section Rounds
variable {round : Head → List Head} {greedy : Bool} {h h₁ h' : Head}

theorem mem_upTo_mono {n n' : Nat} (hn : n ≤ n') (hm : h' ∈ upTo round greedy n h) :
    h' ∈ upTo round greedy n' h := by
  induction n generalizing h n' with
  | zero =>
    rcases List.mem_singleton.1 hm with rfl
    cases n' with
    | zero => exact hm
    | succ n' => exact mem_upTo_succ.2 (.inl rfl)
  | succ n ih =>
    obtain ⟨n', rfl⟩ : ∃ k, n' = k + 1 := ⟨n' - 1, by omega⟩
    refine mem_upTo_succ.2 ((mem_upTo_succ.1 hm).imp_right fun hm => ?_)
    obtain ⟨h₁, h₁m, hm⟩ := List.mem_flatMap.1 hm
    exact List.mem_flatMap.2 ⟨h₁, h₁m, ih (by omega) hm⟩

theorem self_mem_many : h ∈ many round greedy h := by
  unfold many
  cases h.rest.length with
  | zero => exact List.mem_singleton.2 rfl
  | succ n => exact mem_upTo_succ.2 (.inl rfl)

/-- A round that takes something may come before any number of rounds. -/
theorem mem_many_of_round (hr : h₁ ∈ round h) (hlt : h₁.rest.length < h.rest.length)
    (hm : h' ∈ many round greedy h₁) : h' ∈ many round greedy h := by
  unfold many at hm ⊢
  obtain ⟨n, hn⟩ : ∃ n, h.rest.length = n + 1 := ⟨h.rest.length - 1, by omega⟩
  rw [hn]
  exact mem_upTo_succ.2 (.inr (List.mem_flatMap.2 ⟨h₁, hr, mem_upTo_mono (by omega) hm⟩))

end Rounds

/-! ## Goals -/

/-- All ways of frames end in the goal. -/
def Live (goal : Head → Prop) (k : List Frame) (h : Head) : Prop := ∀ h' ∈ runs k h, goal h'

/-- What waits is on its way to the goal, and what was found has reached it. -/
structure Sweep.Sound (goal : Head → Prop) (o : Head) (w : Sweep) : Prop where
  waiting : ∀ t ∈ w.waiting, ∀ h ∈ (o.withMarks t.thread.marks).take t.set,
    Live goal t.thread.rest h
  found : ∀ m ∈ w.found, goal (o.withMarks m)

/-- Whether a step of a sweep is sound. -/
def KeepsSound (goal : Head → Prop) (o : Head) (step : Sweep → Sweep) : Prop :=
  ∀ w, w.Sound goal o → (step w).Sound goal o

/-- What may be left to do after ways from given marks: frames that are live behind the ways that
took something, and a sound way on for those that are still at their place. -/
structure Leaves (goal : Head → Prop) (o : Head) (round : Head → List Head) (k : List Frame)
    (next : Next) (m : Marks) : Prop where
  later : ∀ h ∈ round (o.withMarks m), h.rest.length < o.rest.length → Live goal k h
  here : ∀ m', o.withMarks m' ∈ round (o.withMarks m) → KeepsSound goal o (next m')

section Steps
variable {goal : Head → Prop} {o : Head} {round round' : Head → List Head} {k : List Frame}
  {next next' : Next} {m : Marks}

theorem KeepsSound.visit {enter : Sweep → Sweep} (h : KeepsSound goal o enter)
    (key : List Frame) : KeepsSound goal o fun w => w.visit key enter := by
  intro w hw
  dsimp only [Sweep.visit]
  split
  · exact hw
  · exact h _ ⟨hw.waiting, hw.found⟩

theorem KeepsSound.inOrder {first second : Sweep → Sweep} (h : KeepsSound goal o first)
    (h' : KeepsSound goal o second) (greedy : Bool) :
    KeepsSound goal o (inOrder greedy first second) := by
  intro w hw
  cases greedy with
  | true => exact h' _ (h w hw)
  | false => exact h _ (h' w hw)

theorem keepsSound_accept (h : goal (o.withMarks m)) : KeepsSound goal o (Sweep.accept m) := by
  intro w hw
  unfold Sweep.accept
  split
  · exact hw
  · refine ⟨hw.waiting, fun m' hm' => ?_⟩
    cases hm'
    exact h

theorem Leaves.mono (h : Leaves goal o round k next m)
    (hsub : ∀ h' ∈ round' (o.withMarks m), h' ∈ round (o.withMarks m)) :
    Leaves goal o round' k next m :=
  ⟨fun h' hm => h.later h' (hsub h' hm), fun m' hm => h.here m' (hsub _ hm)⟩

/-- The first of two parts leaves the second one to do. -/
theorem Leaves.first {f : Frame}
    (h : Leaves goal o (fun h => (round h).flatMap (ways f.regex)) k next m)
    (hnext : ∀ m', Leaves goal o (ways f.regex) k next m' → KeepsSound goal o (next' m')) :
    Leaves goal o round (f :: k) next' m where
  later := by
    intro h₁ hm₁ hlt h' hm'
    obtain ⟨h₂, hm₂, hm'⟩ := List.mem_flatMap.1 hm'
    have hle := keeps_ways f.regex h₁ h₂ hm₂
    exact h.later h₂ (List.mem_flatMap.2 ⟨h₁, hm₁, hm₂⟩) (by omega) h' hm'
  here := fun m' hm' => hnext m'
    ⟨fun h₂ hm₂ => h.later h₂ (List.mem_flatMap.2 ⟨_, hm', hm₂⟩),
      fun m₂ hm₂ => h.here m₂ (List.mem_flatMap.2 ⟨_, hm', hm₂⟩)⟩

/-! ## Loops -/

/-- Whether exploring something is sound if what it leaves to do is. -/
def ExploresSoundly (goal : Head → Prop) (o : Head) (round : Head → List Head)
    (step : List Frame → Next → Next) : Prop :=
  ∀ k next m, Leaves goal o round k next m → KeepsSound goal o (step k next m)

variable {step : List Frame → Next → Next} {greedy : Bool}

theorem sound_exploreMany (hstep : ExploresSoundly goal o round step) (hkeeps : Keeps round)
    {frame : Frame} (hframe : ∀ h, ways frame.regex h = many round greedy h)
    (h : Leaves goal o (many round greedy) k next m) :
    KeepsSound goal o (exploreMany step frame greedy k next m) := by
  refine KeepsSound.visit (.inOrder (hstep _ _ _ ⟨?_, fun _ _ w hw => hw⟩) ?_ greedy) _
  · intro h₁ hm₁ hlt h' hm'
    obtain ⟨h₂, hm₂, hm'⟩ := List.mem_flatMap.1 hm'
    rw [hframe] at hm₂
    have hle := hkeeps.many greedy h₁ h₂ hm₂
    exact h.later h₂ (mem_many_of_round hm₁ hlt hm₂) (by omega) h' hm'
  · exact h.here m self_mem_many

theorem sound_exploreUpTo (hstep : ExploresSoundly goal o round step) {frame : Nat → Frame}
    (hframe : ∀ n, ways (frame n).regex = upTo round greedy n) (n : Nat)
    (h : Leaves goal o (upTo round greedy n) k next m) :
    KeepsSound goal o (exploreUpTo step frame greedy k next n m) := by
  induction n generalizing m with
  | zero => exact h.here m (List.mem_singleton.2 rfl)
  | succ n ih =>
    refine KeepsSound.visit (.inOrder (hstep _ _ _ ?_) ?_ greedy) _
    · refine Leaves.first (h.mono fun h' hm' => mem_upTo_succ.2 (.inr ?_)) fun m' hm' => ?_
      · rwa [hframe] at hm'
      · exact ih (hframe n ▸ hm')
    · exact h.here m (mem_upTo_succ.2 (.inl rfl))

theorem sound_exploreTimes (hstep : ExploresSoundly goal o round step) {frame : Nat → Frame}
    (hframe : ∀ n h, ways (frame (n + 1)).regex h = (round h).flatMap (ways (frame n).regex))
    {others : Next}
    (hothers : ∀ m, Leaves goal o (ways (frame 0).regex) k next m → KeepsSound goal o (others m))
    (n : Nat) (h : Leaves goal o (ways (frame n).regex) k next m) :
    KeepsSound goal o (exploreTimes step frame k others n m) := by
  induction n generalizing m with
  | zero => exact hothers m h
  | succ n ih =>
    exact hstep _ _ _ (Leaves.first (h.mono fun h' hm' => by rwa [hframe]) fun m' hm' => ih hm')

end Steps

/-! ## Exploring -/

/-- The step lemma of soundness. -/
theorem sound_explore (goal : Head → Prop) (o : Head) (r : Regex) (site : Nat) :
    ExploresSoundly goal o (ways r) (explore o.place r site) := by
  induction r generalizing site with
  | empty =>
    intro k next m h
    exact h.here m (List.mem_singleton.2 rfl)
  | one s =>
    intro k next m h
    have hwait : KeepsSound goal o (·.wait s k m) := by
      intro w hw
      refine ⟨fun t ht => ?_, hw.found⟩
      rcases List.mem_cons.1 ht with rfl | ht
      · exact fun h' hm' => h.later h' hm' (takes_take s (o.withMarks m) h' hm')
      · exact hw.waiting t ht
    exact hwait.visit _
  | look l =>
    intro k next m h w hw
    simp only [explore]
    split
    · next hl =>
      have hm : o.withMarks m ∈ ways (look l) (o.withMarks m) := by
        rw [ways, if_pos]
        · exact List.mem_singleton.2 rfl
        · exact hl
      exact h.here m hm w hw
    · exact hw
  | mark slot =>
    intro k next m h
    exact h.here _ (List.mem_singleton.2 rfl)
  | seq a b iha ihb =>
    intro k next m h
    exact iha _ _ _ _ (Leaves.first h fun m' h' => ihb _ _ _ m' h')
  | alt a b iha ihb =>
    intro k next m h
    have ha : KeepsSound goal o (explore o.place a (site + 1) k next m) :=
      iha _ _ _ m (h.mono fun h' hm => List.mem_append_left _ hm)
    have hb : KeepsSound goal o (explore o.place b (site + 1 + a.size) k next m) :=
      ihb _ _ _ m (h.mono fun h' hm => List.mem_append_right _ hm)
    exact KeepsSound.visit (fun w hw => hb _ (ha w hw)) _
  | loop r low high greedy ih =>
    intro k next m h
    cases high with
    | none =>
      refine sound_exploreTimes (ih (site + 1)) (fun n h => ?_) (fun m h => ?_) low h
      · simp only [ways, times, List.flatMap_assoc]
      · have hzero : ∀ h, ways (loop r 0 none greedy) h = many (ways r) greedy h := fun h => by
          simp [ways, times]
        exact sound_exploreMany (ih (site + 1)) (keeps_ways r) hzero
          (h.mono fun h' hm => by rwa [hzero])
    | some high =>
      have hzero : ∀ n, ways (loop r 0 (some n) greedy) = upTo (ways r) greedy n := fun n => by
        funext h
        simp [ways, times]
      refine sound_exploreTimes (ih (site + 1))
        (fun n h => ?_) (fun m h => ?_) low (h.mono fun h' hm => ?_)
      · simp only [ways, times, List.flatMap_assoc, Nat.add_sub_cancel]
      · exact sound_exploreUpTo (ih (site + 1)) hzero (high - low) (hzero (high - low) ▸ h)
      · simpa only [ways, Nat.add_sub_cancel] using hm

theorem sound_exploreAll {goal : Head → Prop} {o : Head} (k : List Frame) {m : Marks}
    (h : Live goal k (o.withMarks m)) : KeepsSound goal o (exploreAll o.place k m) := by
  induction k generalizing m with
  | nil => exact keepsSound_accept (h _ (List.mem_singleton.2 rfl))
  | cons f k ih =>
    refine sound_explore goal o f.regex f.site k _ m ⟨?_, ?_⟩
    · exact fun h₁ hm₁ _ h' hm' => h h' (List.mem_flatMap.2 ⟨h₁, hm₁, hm'⟩)
    · exact fun m' hm' => ih fun h' hm => h h' (List.mem_flatMap.2 ⟨_, hm', hm⟩)

/-! ## Running -/

/-- The heads from which a match may start, the leftmost first. -/
def starts (before : Option Char) (position : Nat) : List Char → List Head
  | [] => [⟨position, before, [], [(0, position)]⟩]
  | c :: cs => ⟨position, before, c :: cs, [(0, position)]⟩ :: starts (some c) (position + 1) cs

section Run
variable {goal : Head → Prop}

/-- All threads are on their way to the goal. -/
def LiveAll (goal : Head → Prop) (o : Head) (ts : List Thread) : Prop :=
  ∀ t ∈ ts, Live goal t.rest (o.withMarks t.marks)

theorem sound_sweepOf {o : Head} {ts : List Thread} (h : LiveAll goal o ts) :
    (sweepOf o ts).Sound goal o := by
  have hfold : ∀ w : Sweep, w.Sound goal o →
      (ts.foldl (fun w t => exploreAll o.place t.rest t.marks w) w).Sound goal o := by
    induction ts with
    | nil => exact fun w hw => hw
    | cons t ts ih =>
      obtain ⟨ht, hts⟩ := List.forall_mem_cons.1 h
      exact fun w hw => ih hts _ (sound_exploreAll t.rest ht w hw)
  exact hfold _ ⟨fun t ht => absurd ht List.not_mem_nil, fun m hm => by cases hm⟩

theorem liveAll_threadsAt {r : Regex} {o : Head} {ts : List Thread} (b : Option Marks)
    (hts : LiveAll goal o ts)
    (hr : ∀ h ∈ ways r (o.withMarks [(0, o.position)]), goal h) :
    LiveAll goal o (threadsAt r o.position ts b) := by
  intro t ht
  unfold threadsAt at ht
  split at ht
  · rcases List.mem_append.1 ht with ht | ht
    · exact hts t ht
    · rw [List.mem_singleton.1 ht]
      intro h' hm'
      obtain ⟨h₁, hm₁, hm'⟩ := List.mem_flatMap.1 hm'
      rcases List.mem_singleton.1 hm' with rfl
      exact hr h' hm₁
  · exact hts t ht

/-- Threads that take the character between two places stay on their way. -/
theorem liveAll_advance {position : Nat} {before : Option Char} {c : Char} {cs : List Char}
    {w : Sweep} (hw : w.Sound goal ⟨position, before, c :: cs, []⟩) :
    LiveAll goal ⟨position + 1, some c, cs, []⟩ (advance c w.waiting.reverse) := by
  intro t ht
  obtain ⟨t', ht', rfl⟩ := List.mem_map.1 ht
  obtain ⟨hmem, hset⟩ := List.mem_filter.1 ht'
  refine hw.waiting t' (List.mem_reverse.1 hmem) _ ?_
  simp [Head.take, Head.withMarks, hset]

/-- Whether marks are those of a match that reached the goal. -/
def Reached (goal : Head → Prop) (m : Marks) : Prop := ∃ h, goal h ∧ h.finish = m

theorem reached_found {o : Head} {w : Sweep} {b : Option Marks} (hw : w.Sound goal o)
    (hb : ∀ m ∈ b, Reached goal m) :
    ∀ m ∈ (w.found.map ((1, o.position) :: ·)).or b, Reached goal m := by
  intro m hm
  rcases Option.or_eq_some_iff.1 hm with hm | ⟨-, hm⟩
  · obtain ⟨m', hm', rfl⟩ := Option.map_eq_some_iff.1 hm
    exact ⟨_, hw.found m' hm', rfl⟩
  · exact hb m hm

/-- The run lemma of soundness: what is found has reached the goal, if all threads and all matches
yet to start are on their way to it. -/
theorem reached_run {r : Regex} (cs : List Char) :
    ∀ (before : Option Char) (position : Nat) (threads : List Thread) (b : Option Marks),
      (∀ h ∈ starts before position cs, ∀ h' ∈ ways r h, goal h') →
      LiveAll goal ⟨position, before, cs, []⟩ threads → (∀ m ∈ b, Reached goal m) →
      ∀ m ∈ run r before position threads b cs, Reached goal m := by
  induction cs with
  | nil =>
    intro before position threads b hr hts hb
    have hthreads := liveAll_threadsAt (o := ⟨position, before, [], []⟩) b hts
      (hr _ (List.mem_singleton.2 rfl))
    rw [run_nil]
    exact reached_found (sound_sweepOf hthreads) hb
  | cons c cs ih =>
    intro before position threads b hr hts hb
    obtain ⟨hhere, hlater⟩ := List.forall_mem_cons.1 hr
    have hw := sound_sweepOf (liveAll_threadsAt (o := ⟨position, before, c :: cs, []⟩) b hts hhere)
    have hfound := reached_found hw hb
    rw [run_cons]
    dsimp only
    split
    · exact hfound
    · exact ih _ _ _ _ hlater (liveAll_advance hw) hfound

/-- The marks that a search finds are those of a way. -/
theorem search_mem_ways {r : Regex} {text : List Char} {m : Marks} (h : search r text = some m) :
    ∃ h₀ ∈ starts none 0 text, ∃ h' ∈ ways r h₀, h'.finish = m := by
  have hreached : Reached (fun h' => ∃ h₀ ∈ starts none 0 text, h' ∈ ways r h₀) m :=
    reached_run text none 0 [] none (fun h₀ hm₀ h' hm' => ⟨h₀, hm₀, hm'⟩)
      (fun t ht => absurd ht List.not_mem_nil) (fun m hm => by cases hm) m h
  obtain ⟨h', ⟨h₀, hm₀, hm'⟩, hfinish⟩ := hreached
  exact ⟨h₀, hm₀, h', hm', hfinish⟩

end Run

end Regex

end Switchboard
