import Switchboard.Proofs.FoundWays

/-!
# Searches lose no match

A search passes over what was entered before, so it loses ways. It loses no match: if an expression
has a way from anywhere in a text, a search of the text finds one.

    (search r text).isSome  ↔  ∃ h ∈ starts none 0 text, ways r h ≠ []      (isSome_search_iff)

A choice that was entered may still be under way when a search comes back to it. What counts is what
holds when all is done at a place: all that was entered is expanded (`Sweep.Expanded`), that is,
what it leads to was entered as well. From there a way is followed to a thread that waits
(`passes_or_waits`), because a round of a loop that takes nothing may be left out of a way
(`exists_mem_many`).
-/

namespace Switchboard

namespace Regex

/-! ## Rounds that take nothing -/

/-- Whether a way that takes nothing stays where it is. -/
def Stays (round : Head → List Head) : Prop :=
  ∀ h, ∀ h' ∈ round h, h'.rest.length < h.rest.length ∨ ∃ m, h' = h.withMarks m

section Rounds
variable {round round' : Head → List Head} {greedy : Bool} {h h' : Head}

theorem Stays.keeps (hs : Stays round) : Keeps round := by
  intro h h' hm
  rcases hs h h' hm with hlt | ⟨m, rfl⟩
  · exact Nat.le_of_lt hlt
  · exact Nat.le_refl _

theorem stays_self (h : Head) : ∃ m, h = h.withMarks m := ⟨h.marks, rfl⟩

theorem Stays.flatMap (hs : Stays round) (hs' : Stays round') :
    Stays fun h => (round h).flatMap round' := by
  intro h h' hm
  obtain ⟨h₁, hm₁, hm'⟩ := List.mem_flatMap.1 hm
  rcases hs h h₁ hm₁ with hlt | ⟨m, rfl⟩
  · exact .inl (Nat.lt_of_le_of_lt (hs'.keeps h₁ h' hm') hlt)
  · exact hs' (h.withMarks m) h' hm'

theorem Stays.times (hs : Stays round) (n : Nat) : Stays (times round n) := by
  induction n with
  | zero =>
    intro h h' hm
    rcases List.mem_singleton.1 hm with rfl
    exact .inr (stays_self _)
  | succ n ih => exact hs.flatMap ih

theorem Stays.upTo (hs : Stays round) (greedy : Bool) (n : Nat) : Stays (upTo round greedy n) := by
  induction n with
  | zero =>
    intro h h' hm
    rcases List.mem_singleton.1 hm with rfl
    exact .inr (stays_self _)
  | succ n ih =>
    intro h h' hm
    rcases mem_upTo_succ.1 hm with rfl | hm
    · exact .inr (stays_self _)
    · exact hs.flatMap ih h h' hm

theorem stays_ways (r : Regex) : Stays (ways r) := by
  induction r with
  | empty =>
    intro h h' hm
    rcases List.mem_singleton.1 hm with rfl
    exact .inr (stays_self _)
  | one s => exact fun h h' hm => .inl (takes_take s h h' hm)
  | look l =>
    intro h h' hm
    simp only [ways] at hm
    split at hm
    · rcases List.mem_singleton.1 hm with rfl
      exact .inr (stays_self _)
    · cases hm
  | mark slot =>
    intro h h' hm
    rcases List.mem_singleton.1 hm with rfl
    exact .inr ⟨_, rfl⟩
  | seq a b iha ihb => exact iha.flatMap ihb
  | alt a b iha ihb =>
    intro h h' hm
    rcases List.mem_append.1 hm with hm | hm
    · exact iha h h' hm
    · exact ihb h h' hm
  | loop r min max greedy ih =>
    cases max with
    | none => exact (ih.times min).flatMap fun h => ih.upTo greedy h.rest.length h
    | some max => exact (ih.times min).flatMap (ih.upTo greedy _)

/-- Where ways end does not depend on the marks before them. -/
theorem Carries.mem_withMarks (hc : Carries round) {m : Marks} (hm : h' ∈ round (h.withMarks m)) :
    ∃ m', h'.withMarks m' ∈ round h := by
  have hbare : ∀ h : Head, round h = (round (h.withMarks [])).map (·.on h.marks) :=
    fun h => hc (h.withMarks []) h.marks
  rw [hbare] at hm
  obtain ⟨h₀, hm₀, rfl⟩ := List.mem_map.1 hm
  refine ⟨h₀.marks ++ h.marks, ?_⟩
  rw [hbare]
  exact List.mem_map.2 ⟨h₀, hm₀, rfl⟩

/-- As many rounds as one likes come to no more than rounds that take something. -/
theorem exists_mem_many (hs : Stays round) (hc : Carries round) {n : Nat}
    (hm : h' ∈ upTo round greedy n h) : ∃ m, h'.withMarks m ∈ many round greedy h := by
  induction n generalizing h with
  | zero =>
    rcases List.mem_singleton.1 hm with rfl
    exact ⟨h'.marks, self_mem_many⟩
  | succ n ih =>
    rcases mem_upTo_succ.1 hm with rfl | hm
    · exact ⟨h'.marks, self_mem_many⟩
    · obtain ⟨h₁, hm₁, hm⟩ := List.mem_flatMap.1 hm
      obtain ⟨m, hm⟩ := ih hm
      rcases hs h h₁ hm₁ with hlt | ⟨m₁, rfl⟩
      · exact ⟨m, mem_many_of_round hm₁ hlt hm⟩
      · obtain ⟨m', hm'⟩ :=
          Carries.mem_withMarks (fun h m => hc.upTo greedy h.rest.length h m) hm
        exact ⟨m', hm'⟩

end Rounds

/-! ## What has been entered -/

/-- What so many rounds enter first, and then others. -/
def enteredTimes (step : List Frame → Prop → Prop) (frame : Nat → Frame) (k : List Frame)
    (others : Prop) : Nat → Prop
  | 0 => others
  | n + 1 => step (frame n :: k) (enteredTimes step frame k others n)

/-- Whether a sweep has entered the choices and characters that an expression comes to first at a
place, or else what comes after it. -/
def entered (p : Place) (w : Sweep) : Regex → Nat → List Frame → Prop → Prop
  | empty, _, _, next => next
  | one s, site, k, _ => ⟨site, one s⟩ :: k ∈ w.seen
  | look l, _, _, next => p.satisfies l = true → next
  | mark _, _, _, next => next
  | seq a b, site, k, next =>
    let second := site + 1 + a.size
    entered p w a (site + 1) (⟨second, b⟩ :: k) (entered p w b second k next)
  | alt a b, site, k, _ => ⟨site, alt a b⟩ :: k ∈ w.seen
  | loop r min max greedy, site, k, next =>
    let step := entered p w r (site + 1)
    match max with
    | none =>
      enteredTimes step (fun n => ⟨site, loop r n none greedy⟩) k
        (⟨site, loop r 0 none greedy⟩ :: k ∈ w.seen) min
    | some max =>
      enteredTimes step (fun n => ⟨site, loop r n (some (max - min + n)) greedy⟩) k
        (if max - min = 0 then next
        else ⟨site, loop r 0 (some (max - min)) greedy⟩ :: k ∈ w.seen) min

/-- The same for frames; at their end there would be a match. -/
def enteredAll (p : Place) (w : Sweep) : List Frame → Prop
  | [] => False
  | f :: k => entered p w f.regex f.site k (enteredAll p w k)

/-- Whether what a choice leads to has been entered, and what a character waits for waits. -/
def Sweep.Expanded (p : Place) (w : Sweep) : List Frame → Prop
  | ⟨_, one s⟩ :: k => ∃ t ∈ w.waiting, t.set = s ∧ t.thread.rest = k
  | ⟨site, alt a b⟩ :: k =>
    enteredAll p w (⟨site + 1, a⟩ :: k) ∧ enteredAll p w (⟨site + 1 + a.size, b⟩ :: k)
  | ⟨site, loop r 0 none greedy⟩ :: k =>
    enteredAll p w (⟨site + 1, r⟩ :: ⟨site, loop r 0 none greedy⟩ :: k) ∧ enteredAll p w k
  | ⟨site, loop r 0 (some (n + 1)) greedy⟩ :: k =>
    enteredAll p w (⟨site + 1, r⟩ :: ⟨site, loop r 0 (some n) greedy⟩ :: k) ∧ enteredAll p w k
  | _ => True

/-- Whether a sweep has gone on to another one. -/
structure Sweep.Grows (w w' : Sweep) : Prop where
  seen : ∀ key ∈ w.seen, key ∈ w'.seen
  waiting : ∀ t ∈ w.waiting, t ∈ w'.waiting
  found : w.found.isSome = true → w'.found.isSome = true

section Grows
variable {p : Place} {w w' w₁ : Sweep}

theorem Sweep.Grows.refl (w : Sweep) : w.Grows w := ⟨fun _ h => h, fun _ h => h, id⟩

theorem Sweep.Grows.trans (h : w.Grows w₁) (h' : w₁.Grows w') : w.Grows w' :=
  ⟨fun key hk => h'.seen key (h.seen key hk), fun t ht => h'.waiting t (h.waiting t ht),
    h'.found ∘ h.found⟩

theorem enteredTimes_mono {step step' : List Frame → Prop → Prop}
    (hstep : ∀ k {N N' : Prop}, (N → N') → step k N → step' k N') {frame : Nat → Frame}
    {k : List Frame} {N N' : Prop} (hN : N → N') (n : Nat) :
    enteredTimes step frame k N n → enteredTimes step' frame k N' n := by
  induction n with
  | zero => exact hN
  | succ n ih => exact hstep _ ih

theorem entered_mono (hw : w.Grows w') (r : Regex) :
    ∀ (site : Nat) (k : List Frame) {N N' : Prop}, (N → N') →
      entered p w r site k N → entered p w' r site k N' := by
  induction r with
  | empty | mark _ => exact fun _ _ _ _ hN h => hN h
  | one s | alt a b _ _ => exact fun _ _ _ _ _ h => hw.seen _ h
  | look l => exact fun _ _ _ _ hN h hl => hN (h hl)
  | seq a b iha ihb => exact fun site k _ _ hN => iha _ _ (ihb _ _ hN)
  | loop r min max greedy ih =>
    intro site k N N' hN
    cases max with
    | none => exact enteredTimes_mono (fun k _ _ => ih _ k) (hw.seen _) min
    | some max =>
      refine enteredTimes_mono (fun k _ _ => ih _ k) (fun h => ?_) min
      split
      · next hmax => exact hN (by rwa [if_pos hmax] at h)
      · next hmax => exact hw.seen _ (by rwa [if_neg hmax] at h)

theorem enteredAll_mono (hw : w.Grows w') (k : List Frame) :
    enteredAll p w k → enteredAll p w' k := by
  induction k with
  | nil => exact id
  | cons f k ih => exact entered_mono hw f.regex _ _ ih

theorem Sweep.Expanded.mono (hw : w.Grows w') {key : List Frame} (h : w.Expanded p key) :
    w'.Expanded p key := by
  unfold Sweep.Expanded at h ⊢
  split
  · obtain ⟨t, ht, heq⟩ := h
    exact ⟨t, hw.waiting t ht, heq⟩
  · exact ⟨enteredAll_mono hw _ h.1, enteredAll_mono hw _ h.2⟩
  · exact ⟨enteredAll_mono hw _ h.1, enteredAll_mono hw _ h.2⟩
  · exact ⟨enteredAll_mono hw _ h.1, enteredAll_mono hw _ h.2⟩
  · trivial

end Grows

section Loops
variable {p : Place} {w : Sweep} {r : Regex} {site : Nat} {greedy : Bool} {k : List Frame}
  {more : Nat}

/-- A loop is entered round by round, with so many more rounds open after those it must have. -/
theorem enteredAll_loop {n : Nat} :
    enteredAll p w (⟨site, loop r n (some (more + n)) greedy⟩ :: k) =
      enteredTimes (entered p w r (site + 1))
        (fun n => ⟨site, loop r n (some (more + n)) greedy⟩) k
        (if more = 0 then enteredAll p w k
        else ⟨site, loop r 0 (some more) greedy⟩ :: k ∈ w.seen) n := by
  simp only [enteredAll, entered, Nat.add_sub_cancel]

theorem enteredAll_loop_succ {n : Nat} :
    enteredAll p w (⟨site, loop r (n + 1) (some (more + (n + 1))) greedy⟩ :: k) =
      enteredAll p w (⟨site + 1, r⟩ :: ⟨site, loop r n (some (more + n)) greedy⟩ :: k) := by
  rw [enteredAll_loop, enteredTimes]
  simp only [enteredAll, entered, Nat.add_sub_cancel]

end Loops

/-! ## Exploring -/

/-- Whether a step, from any sweep that goes on from a given one, finds a match, or reaches a goal
and expands all that it enters. -/
def Covers (p : Place) (w₀ : Sweep) (goal : Sweep → Prop) (step : Sweep → Sweep) : Prop :=
  ∀ w, w₀.Grows w → w.Grows (step w) ∧ ((step w).found.isSome = true ∨
    goal (step w) ∧ ∀ key ∈ (step w).seen, key ∈ w.seen ∨ (step w).Expanded p key)

section Steps
variable {p : Place} {w₀ w₁ : Sweep} {goal goal' : Sweep → Prop} {step step' : Sweep → Sweep}

theorem Covers.later (h : Covers p w₀ goal step) (hlater : w₀.Grows w₁) :
    Covers p w₁ goal step := fun w hw => h w (hlater.trans hw)

theorem covers_id (h : ∀ w, w₀.Grows w → goal w) : Covers p w₀ goal id :=
  fun w hw => ⟨.refl w, .inr ⟨h w hw, fun _ hk => .inl hk⟩⟩

/-- One step after another reaches the goals of both. -/
theorem Covers.then (h : Covers p w₀ goal step) (h' : Covers p w₀ goal' step')
    (hgoal : ∀ {w w'}, Sweep.Grows w w' → goal w → goal w') :
    Covers p w₀ (fun w => goal w ∧ goal' w) fun w => step' (step w) := by
  intro w hw
  obtain ⟨hgrows, hdone⟩ := h w hw
  obtain ⟨hgrows', hdone'⟩ := h' (step w) (hw.trans hgrows)
  refine ⟨hgrows.trans hgrows', ?_⟩
  rcases hdone' with hfound | ⟨hgoal', hnew'⟩
  · exact .inl hfound
  · rcases hdone with hfound | ⟨hreached, hnew⟩
    · exact .inl (hgrows'.found hfound)
    · refine .inr ⟨⟨hgoal hgrows' hreached, hgoal'⟩, fun key hkey => ?_⟩
      rcases hnew' key hkey with hkey | hkey
      · exact (hnew key hkey).imp_right fun h => h.mono hgrows'
      · exact .inr hkey

theorem Covers.congr (h : Covers p w₀ goal step) (hgoal : ∀ w, goal w → goal' w) :
    Covers p w₀ goal' step :=
  fun w hw => ⟨(h w hw).1, (h w hw).2.imp_right fun hdone => ⟨hgoal _ hdone.1, hdone.2⟩⟩

theorem Covers.inOrder (h : Covers p w₀ goal step) (h' : Covers p w₀ goal' step')
    (hgoal : ∀ {w w'}, Sweep.Grows w w' → goal w → goal w')
    (hgoal' : ∀ {w w'}, Sweep.Grows w w' → goal' w → goal' w') (greedy : Bool) :
    Covers p w₀ (fun w => goal w ∧ goal' w) (inOrder greedy step step') := by
  cases greedy with
  | true => exact h.then h' hgoal
  | false => exact (h'.then h hgoal').congr fun w hw => hw.symm

/-- A choice is entered and, if what is done within it does so, expanded. -/
theorem covers_visit {key : List Frame} {enter : Sweep → Sweep}
    (henter : ∀ w₁, w₀.Grows w₁ → key ∈ w₁.seen →
      Covers p w₁ (fun w => w.Expanded p key) enter) :
    Covers p w₀ (fun w => key ∈ w.seen) fun w => w.visit key enter := by
  intro w hw
  dsimp only [Sweep.visit]
  split
  · next hskip =>
    refine ⟨.refl w, ?_⟩
    rcases Bool.or_eq_true _ _ ▸ hskip with hfound | hseen
    · exact .inl hfound
    · exact .inr ⟨Std.HashSet.contains_iff_mem.1 hseen, fun _ hk => .inl hk⟩
  · have hgrows : w.Grows { w with seen := w.seen.insert key } :=
      ⟨fun _ hk => Std.HashSet.mem_insert.2 (.inr hk), fun _ ht => ht, id⟩
    have hkey : key ∈ w.seen.insert key := Std.HashSet.mem_insert_self
    obtain ⟨hgrows', hdone⟩ := henter _ (hw.trans hgrows) hkey _ (.refl _)
    refine ⟨hgrows.trans hgrows', hdone.imp_right fun ⟨hexpanded, hnew⟩ => ?_⟩
    refine ⟨hgrows'.seen key hkey, fun key' hkey' => ?_⟩
    rcases hnew key' hkey' with hold | hnew
    · rcases Std.HashSet.mem_insert.1 hold with heq | hold
      · exact .inr (eq_of_beq heq ▸ hexpanded)
      · exact .inl hold
    · exact .inr hnew

theorem covers_accept (m : Marks) : Covers p w₀ (fun _ => False) (Sweep.accept m) := by
  intro w _
  unfold Sweep.accept
  split
  · next hfound => exact ⟨.refl w, .inl hfound⟩
  · exact ⟨⟨fun _ hk => hk, fun _ ht => ht, fun _ => rfl⟩, .inl rfl⟩

/-- Whether a way on enters frames. -/
def Enters (p : Place) (w₀ : Sweep) (next : Next) (k : List Frame) : Prop :=
  ∀ m, Covers p w₀ (fun w => enteredAll p w k) (next m)

theorem Enters.later {next : Next} {k : List Frame} (h : Enters p w₀ next k)
    (hlater : w₀.Grows w₁) : Enters p w₁ next k := fun m => (h m).later hlater

/-! ### Loops -/

/-- Whether exploring the body of a loop enters it. -/
def EntersBody (p : Place) (w₀ : Sweep) (r : Regex) (site : Nat)
    (step : List Frame → Next → Next) : Prop :=
  ∀ w₁, w₀.Grows w₁ → ∀ k next, Enters p w₁ next k →
    Enters p w₁ (step k next) (⟨site, r⟩ :: k)

variable {r : Regex} {site : Nat} {body : List Frame → Next → Next} {greedy : Bool}
  {k : List Frame} {next : Next}

theorem enters_many (hbody : EntersBody p w₀ r (site + 1) body) (hnext : Enters p w₀ next k) :
    Enters p w₀ (exploreMany body ⟨site, loop r 0 none greedy⟩ greedy k next)
      (⟨site, loop r 0 none greedy⟩ :: k) := by
  refine fun m => covers_visit fun w₁ hlater hkey => ?_
  -- a round that comes back here finds the loop entered
  have hback : Enters p w₁ (fun _ w => w) (⟨site, loop r 0 none greedy⟩ :: k) :=
    fun m => covers_id fun w hw => hw.seen _ hkey
  exact (hbody w₁ hlater _ _ hback m).inOrder (hnext.later hlater m)
    (fun hw => enteredAll_mono hw _) (fun hw => enteredAll_mono hw _) greedy

theorem enters_upTo (hbody : EntersBody p w₀ r (site + 1) body) (hnext : Enters p w₀ next k)
    (n : Nat) :
    Enters p w₀ (exploreUpTo body (fun n => ⟨site, loop r 0 (some n) greedy⟩) greedy k next n)
      (⟨site, loop r 0 (some n) greedy⟩ :: k) := by
  induction n with
  | zero => exact hnext
  | succ n ih =>
    refine fun m => covers_visit fun w₁ hlater _ => ?_
    exact (hbody w₁ hlater _ _ (ih.later hlater) m).inOrder (hnext.later hlater m)
      (fun hw => enteredAll_mono hw _) (fun hw => enteredAll_mono hw _) greedy

theorem enters_times (hbody : EntersBody p w₀ r (site + 1) body) (frame : Nat → Frame)
    (hframe : ∀ n w, enteredAll p w (frame (n + 1) :: k) =
      enteredAll p w (⟨site + 1, r⟩ :: frame n :: k)) {others : Next}
    (hothers : Enters p w₀ others (frame 0 :: k)) (n : Nat) :
    Enters p w₀ (exploreTimes body frame k others n) (frame n :: k) := by
  induction n with
  | zero => exact hothers
  | succ n ih =>
    intro m
    simp only [hframe]
    exact hbody w₀ (.refl w₀) _ _ ih m

end Steps

/-- The step lemma of coverage. -/
theorem enters_explore (p : Place) (r : Regex) :
    ∀ (w₀ : Sweep) (site : Nat), EntersBody p w₀ r site (explore p r site) := by
  induction r with
  | empty | mark _ => exact fun w₀ site w₁ _ k next hnext m => hnext _
  | one s =>
    intro w₀ site w₁ _ k next _ m
    show Covers p w₁ (fun w => ⟨site, one s⟩ :: k ∈ w.seen)
      fun w => w.visit (⟨site, one s⟩ :: k) (·.wait s k m)
    refine covers_visit fun w₂ _ _ w _ => ?_
    refine ⟨⟨fun _ hk => hk, fun _ ht => List.mem_cons_of_mem _ ht, id⟩, .inr ⟨?_, ?_⟩⟩
    · exact ⟨_, List.mem_cons_self, rfl, rfl⟩
    · exact fun _ hk => .inl hk
  | look l =>
    intro w₀ site w₁ _ k next hnext m
    by_cases hl : p.satisfies l = true
    · simp only [explore, hl, if_true]
      exact (hnext m).congr fun w hw _ => hw
    · simp only [explore, hl]
      exact covers_id fun w _ h => absurd h hl
  | seq a b iha ihb =>
    exact fun w₀ site w₁ _ k next hnext =>
      iha w₁ _ w₁ (.refl w₁) _ _ (ihb w₁ _ w₁ (.refl w₁) k next hnext)
  | alt a b iha ihb =>
    intro w₀ site w₁ _ k next hnext m
    show Covers p w₁ (fun w => ⟨site, alt a b⟩ :: k ∈ w.seen) fun w =>
      w.visit (⟨site, alt a b⟩ :: k) fun w =>
        explore p b (site + 1 + a.size) k next m (explore p a (site + 1) k next m w)
    refine covers_visit fun w₂ hlater _ => ?_
    have ha := iha w₂ (site + 1) w₂ (.refl w₂) k next (hnext.later hlater) m
    have hb := ihb w₂ (site + 1 + a.size) w₂ (.refl w₂) k next (hnext.later hlater) m
    exact ha.then hb fun hw => enteredAll_mono hw _
  | loop r low high greedy ih =>
    intro w₀ site w₁ _ k next hnext
    have hbody : EntersBody p w₁ r (site + 1) (explore p r (site + 1)) := ih w₁ (site + 1)
    cases high with
    | none =>
      exact enters_times hbody (fun n => ⟨site, loop r n none greedy⟩)
        (fun n w => rfl) (enters_many hbody hnext) low
    | some high =>
      have hupTo : Enters p w₁ _ (⟨site, loop r 0 (some (high - low)) greedy⟩ :: k) :=
        enters_upTo hbody hnext (high - low)
      have htimes := enters_times hbody
        (fun n => ⟨site, loop r n (some (high - low + n)) greedy⟩)
        (fun n w => enteredAll_loop_succ) (by simpa using hupTo) low
      refine fun m => (htimes m).congr fun w hw => ?_
      rw [enteredAll_loop] at hw
      simpa only [enteredAll, entered] using hw

theorem enters_exploreAll (p : Place) (w₀ : Sweep) (k : List Frame) :
    Enters p w₀ (exploreAll p k) k := by
  induction k with
  | nil => exact fun m => covers_accept m
  | cons f k ih => exact enters_explore p f.regex w₀ f.site w₀ (.refl w₀) k _ ih

/-- All threads of a place are entered, and all that is entered is expanded. -/
theorem covers_threads (p : Place) (ts : List Thread) (w₀ : Sweep) :
    Covers p w₀ (fun w => ∀ t ∈ ts, enteredAll p w t.rest)
      fun w => ts.foldl (fun w t => exploreAll p t.rest t.marks w) w := by
  induction ts with
  | nil => exact covers_id fun w _ t ht => absurd ht List.not_mem_nil
  | cons t ts ih =>
    have hfirst := enters_exploreAll p w₀ t.rest t.marks
    refine (hfirst.then ih fun hw => enteredAll_mono hw _).congr fun w hw => ?_
    exact List.forall_mem_cons.2 hw

/-! ## Following ways -/

/-- Whether some thread that waits has a way on. -/
def Sweep.Waits (o : Head) (w : Sweep) : Prop :=
  ∃ t ∈ w.waiting, ∃ h ∈ o.take t.set, runs t.thread.rest h ≠ []

/-- Whether all that was entered at a place is expanded. -/
def Sweep.IsExpanded (p : Place) (w : Sweep) : Prop := ∀ key ∈ w.seen, w.Expanded p key

/-- Whether the ways of frames that were entered either stay at their place, where what comes after
the first frame was entered, or are those of a thread that waits. -/
def PassesOrWaits (o : Head) (w : Sweep) (round : Head → List Head) (k : List Frame) : Prop :=
  ∀ m, ∀ h ∈ round (o.withMarks m),
    (∃ m', h = o.withMarks m' ∧ enteredAll o.place w k) ∨ (runs k h ≠ [] → w.Waits o)

section Following
variable {o : Head} {w : Sweep} {k : List Frame} {r : Regex} {site : Nat} {greedy : Bool}

theorem runs_cons_ne_nil {f : Frame} {h h' : Head} (hm : h' ∈ ways f.regex h)
    (hne : runs k h' ≠ []) : runs (f :: k) h ≠ [] := by
  obtain ⟨x, hx⟩ := List.exists_mem_of_ne_nil _ hne
  exact List.ne_nil_of_mem (List.mem_flatMap.2 ⟨h', hm, hx⟩)

theorem PassesOrWaits.flatMap {f : Frame} {round : Head → List Head}
    (h : PassesOrWaits o w round (f :: k))
    (h' : enteredAll o.place w (f :: k) → PassesOrWaits o w (ways f.regex) k) :
    PassesOrWaits o w (fun h => (round h).flatMap (ways f.regex)) k := by
  intro m h₂ hm₂
  obtain ⟨h₁, hm₁, hm₂⟩ := List.mem_flatMap.1 hm₂
  rcases h m h₁ hm₁ with ⟨m', rfl, hentered⟩ | hwaits
  · exact h' hentered m' h₂ hm₂
  · exact .inr fun hne => hwaits (runs_cons_ne_nil hm₂ hne)

/-- What holds of the body of a loop: it passes or waits wherever it was entered. -/
def BodyPasses (o : Head) (w : Sweep) (r : Regex) (site : Nat) : Prop :=
  ∀ k, enteredAll o.place w (⟨site, r⟩ :: k) → PassesOrWaits o w (ways r) k

theorem passes_many (hw : w.IsExpanded o.place) (hbody : BodyPasses o w r (site + 1))
    (hkey : ⟨site, loop r 0 none greedy⟩ :: k ∈ w.seen) :
    PassesOrWaits o w (ways (loop r 0 none greedy)) k := by
  obtain ⟨hround, hexit⟩ := hw _ hkey
  have hways : ∀ h, ways (loop r 0 none greedy) h = many (ways r) greedy h := fun h => by
    simp [ways, times]
  -- by induction on the rounds of a way, as long as they take nothing
  have hrounds : ∀ n, PassesOrWaits o w (upTo (ways r) greedy n) k := by
    intro n
    induction n with
    | zero =>
      intro m h hm
      exact .inl ⟨m, List.mem_singleton.1 hm, hexit⟩
    | succ n ih =>
      intro m h hm
      rcases mem_upTo_succ.1 hm with rfl | hm
      · exact .inl ⟨m, rfl, hexit⟩
      · obtain ⟨h₁, hm₁, hm⟩ := List.mem_flatMap.1 hm
        rcases hbody _ hround m h₁ hm₁ with ⟨m', rfl, -⟩ | hwaits
        · exact ih m' h hm
        · obtain ⟨m', hm'⟩ := exists_mem_many (stays_ways r) (carries_ways r) hm
          refine .inr fun hne => hwaits (runs_cons_ne_nil (hways h₁ ▸ hm') ?_)
          rwa [Ne, runs_eq_nil_iff]
  intro m h hm
  exact hrounds _ m h (hways _ ▸ hm)

theorem passes_upTo (hw : w.IsExpanded o.place) (hbody : BodyPasses o w r (site + 1)) (n : Nat)
    (hentered : enteredAll o.place w (⟨site, loop r 0 (some n) greedy⟩ :: k)) :
    PassesOrWaits o w (ways (loop r 0 (some n) greedy)) k := by
  have hways : ∀ n, ways (loop r 0 (some n) greedy) = upTo (ways r) greedy n := fun n => by
    funext h
    simp [ways, times]
  induction n with
  | zero =>
    intro m h hm
    rw [hways] at hm
    exact .inl ⟨m, List.mem_singleton.1 hm, hentered⟩
  | succ n ih =>
    obtain ⟨hround, hexit⟩ := hw _ hentered
    have hmore := (hbody _ hround).flatMap ih
    intro m h hm
    rw [hways] at hm
    rcases mem_upTo_succ.1 hm with rfl | hm
    · exact .inl ⟨m, rfl, hexit⟩
    · exact hmore m h (by rwa [← hways] at hm)

theorem passes_times (hbody : BodyPasses o w r (site + 1)) (frame : Nat → Frame)
    (hentered : ∀ n, enteredAll o.place w (frame (n + 1) :: k) →
      enteredAll o.place w (⟨site + 1, r⟩ :: frame n :: k))
    (hways : ∀ n h, ways (frame (n + 1)).regex h = (ways r h).flatMap (ways (frame n).regex))
    (hothers : enteredAll o.place w (frame 0 :: k) →
      PassesOrWaits o w (ways (frame 0).regex) k) (n : Nat)
    (hframe : enteredAll o.place w (frame n :: k)) :
    PassesOrWaits o w (ways (frame n).regex) k := by
  induction n with
  | zero => exact hothers hframe
  | succ n ih =>
    have hmore := (hbody _ (hentered n hframe)).flatMap ih
    intro m h hm
    rw [hways] at hm
    exact hmore m h hm

/-- The step lemma of following. -/
theorem passes_or_waits (hw : w.IsExpanded o.place) (r : Regex) :
    ∀ site, BodyPasses o w r site := by
  induction r with
  | empty =>
    intro site k hentered m h hm
    exact .inl ⟨m, List.mem_singleton.1 hm, hentered⟩
  | one s =>
    intro site k hentered m h hm
    obtain ⟨t, ht, rfl, rfl⟩ := hw _ hentered
    obtain ⟨m', hm'⟩ := Carries.mem_withMarks (carries_ways (one t.set)) hm
    refine .inr fun hne => ⟨t, ht, _, hm', ?_⟩
    rwa [Ne, runs_eq_nil_iff]
  | look l =>
    intro site k hentered m h hm
    rw [ways] at hm
    split at hm
    · next hl => exact .inl ⟨m, List.mem_singleton.1 hm, hentered hl⟩
    · cases hm
  | mark slot =>
    intro site k hentered m h hm
    exact .inl ⟨_, List.mem_singleton.1 hm, hentered⟩
  | seq a b iha ihb =>
    exact fun site k hentered => (iha _ _ hentered).flatMap fun hentered => ihb _ _ hentered
  | alt a b iha ihb =>
    intro site k hentered m h hm
    obtain ⟨ha, hb⟩ := hw _ hentered
    rcases List.mem_append.1 hm with hm | hm
    · exact iha _ _ ha m h hm
    · exact ihb _ _ hb m h hm
  | loop r low high greedy ih =>
    intro site k hentered
    cases high with
    | none =>
      refine passes_times (ih (site + 1)) (fun n => ⟨site, loop r n none greedy⟩)
        (fun n h => h) (fun n h => ?_) (passes_many hw (ih (site + 1))) low hentered
      simp only [ways, times, List.flatMap_assoc]
    | some high =>
      have hways : ways (loop r low (some high) greedy) =
          ways (loop r low (some (high - low + low)) greedy) := by
        funext h
        simp only [ways, Nat.add_sub_cancel]
      rw [hways]
      refine passes_times (ih (site + 1))
        (fun n => ⟨site, loop r n (some (high - low + n)) greedy⟩)
        (fun n h => enteredAll_loop_succ ▸ h) (fun n h => ?_)
        (passes_upTo hw (ih (site + 1)) (high - low)) low ?_
      · simp only [ways, times, List.flatMap_assoc, Nat.add_sub_cancel]
      · rw [enteredAll_loop]
        simpa only [enteredAll, entered] using hentered

/-- Frames that were entered and have a way are those of a match, or of a thread that waits. -/
theorem waits_of_runs (hw : w.IsExpanded o.place) (k : List Frame)
    (hentered : enteredAll o.place w k) {m : Marks} (hne : runs k (o.withMarks m) ≠ []) :
    w.Waits o := by
  induction k generalizing m with
  | nil => exact hentered.elim
  | cons f k ih =>
    obtain ⟨h', hm'⟩ := List.exists_mem_of_ne_nil _ hne
    obtain ⟨h, hm, hm'⟩ := List.mem_flatMap.1 hm'
    rcases passes_or_waits hw f.regex f.site k hentered m h hm with ⟨m', rfl, hrest⟩ | hwaits
    · exact ih hrest (List.ne_nil_of_mem hm')
    · exact hwaits (List.ne_nil_of_mem hm')

end Following

/-! ## Running -/

/-- Whether some thread has a way on. -/
def Alive (o : Head) (ts : List Thread) : Prop := ∃ t ∈ ts, runs t.rest o ≠ []

section Run
variable {o : Head} {ts : List Thread} {r : Regex} {before : Option Char} {position : Nat}

/-- Threads of which one has a way come to a match, or one of them waits. -/
theorem found_or_waits (h : Alive o ts) :
    (sweepOf o ts).found.isSome = true ∨ (sweepOf o ts).Waits o := by
  obtain ⟨t, ht, hne⟩ := h
  refine (covers_threads o.place ts .start .start (.refl _)).2.imp_right fun hdone => ?_
  obtain ⟨hentered, hexpanded⟩ := hdone
  have hw : (sweepOf o ts).IsExpanded o.place := fun key hkey =>
    (hexpanded key hkey).resolve_left Std.HashSet.not_mem_empty
  exact waits_of_runs hw t.rest (hentered t ht) (m := o.marks) hne

theorem alive_threadsAt {b : Option Marks} (h : Alive o ts) :
    Alive o (threadsAt r o.position ts b) := by
  obtain ⟨t, ht, hne⟩ := h
  refine ⟨t, ?_, hne⟩
  unfold threadsAt
  split
  · exact List.mem_append_left _ ht
  · exact ht

/-- As long as nothing has matched, a match that may start has a thread. -/
theorem alive_start {m : Marks} (h : ways r (o.withMarks m) ≠ []) :
    Alive o (threadsAt r o.position ts none) := by
  refine ⟨⟨[⟨0, r⟩], [(0, o.position)]⟩, List.mem_append_right _ (List.mem_singleton.2 rfl), ?_⟩
  have hruns : runs [⟨0, r⟩] (o.withMarks m) ≠ [] := by
    obtain ⟨h', hm'⟩ := List.exists_mem_of_ne_nil _ h
    exact runs_cons_ne_nil hm' (List.cons_ne_nil h' [])
  rwa [Ne, runs_eq_nil_iff] at hruns

/-- A thread that waits and has a way takes the next character. -/
theorem alive_advance {c : Char} {cs : List Char} {w : Sweep}
    (h : w.Waits ⟨position, before, c :: cs, []⟩) :
    Alive ⟨position + 1, some c, cs, []⟩ (advance c w.waiting.reverse) := by
  obtain ⟨t, ht, h', hm', hne⟩ := h
  simp only [Head.take] at hm'
  split at hm'
  · next hset =>
    rcases List.mem_singleton.1 hm' with rfl
    exact ⟨t.thread, List.mem_map.2 ⟨t, List.mem_filter.2 ⟨List.mem_reverse.2 ht, hset⟩, rfl⟩, hne⟩
  · cases hm'

/-- The run lemma of coverage: by induction on the text, as long as nothing has matched some thread
has a way, or one that is yet to start. -/
theorem isSome_run (cs : List Char) :
    ∀ (before : Option Char) (position : Nat) (ts : List Thread) (b : Option Marks),
      (b.isSome = true ∨ Alive ⟨position, before, cs, []⟩ ts ∨
        ∃ h ∈ starts before position cs, ways r h ≠ []) →
      (run r before position ts b cs).isSome = true := by
  have hfound : ∀ {w : Sweep} {position : Nat} {b : Option Marks},
      b.isSome = true ∨ w.found.isSome = true →
      ((w.found.map ((1, position) :: ·)).or b).isSome = true := by
    intro w position b h
    rw [Option.isSome_or, Option.isSome_map]
    exact Bool.or_eq_true _ _ ▸ h.symm
  induction cs with
  | nil =>
    intro before position ts b h
    have hhere : b.isSome = true ∨
        Alive ⟨position, before, [], []⟩ (threadsAt r position ts b) := by
      cases b with
      | some b => exact .inl rfl
      | none =>
        rcases h with h | h | ⟨h', hm', hne⟩
        · cases h
        · exact .inr (alive_threadsAt h)
        · rcases List.mem_singleton.1 hm' with rfl
          exact .inr (alive_start (o := ⟨position, before, [], []⟩) hne)
    rw [run_nil]
    rcases hhere with hb | halive
    · exact hfound (.inl hb)
    · rcases found_or_waits halive with hf | ⟨t, -, h', hm', -⟩
      · exact hfound (.inr hf)
      · cases hm'
  | cons c cs ih =>
    intro before position ts b h
    have hhere : b.isSome = true ∨
        Alive ⟨position, before, c :: cs, []⟩ (threadsAt r position ts b) ∨
        ∃ h ∈ starts (some c) (position + 1) cs, ways r h ≠ [] := by
      cases b with
      | some b => exact .inl rfl
      | none =>
        rcases h with h | h | ⟨h', hm', hne⟩
        · cases h
        · exact .inr (.inl (alive_threadsAt h))
        · rcases List.mem_cons.1 hm' with rfl | hm'
          · exact .inr (.inl (alive_start (o := ⟨position, before, c :: cs, []⟩) hne))
          · exact .inr (.inr ⟨h', hm', hne⟩)
    rw [run_cons]
    generalize hw : sweepOf ⟨position, before, c :: cs, []⟩ (threadsAt r position ts b) = w
    have hlater : ((w.found.map ((1, position) :: ·)).or b).isSome = true ∨
        Alive ⟨position + 1, some c, cs, []⟩ (advance c w.waiting.reverse) ∨
        ∃ h ∈ starts (some c) (position + 1) cs, ways r h ≠ [] := by
      rcases hhere with hb | halive | hstart
      · exact .inl (hfound (.inl hb))
      · rcases hw ▸ found_or_waits halive with hf | hwaits
        · exact .inl (hfound (.inr hf))
        · exact .inr (.inl (alive_advance hwaits))
      · exact .inr (.inr hstart)
    dsimp only
    split
    · next hdone => exact (Bool.and_eq_true_iff.1 hdone).1
    · exact ih _ _ _ _ hlater

/-- **Searches lose no match.** A search finds a match exactly if the expression has a way from
somewhere in the text. -/
theorem isSome_search_iff {text : List Char} :
    (search r text).isSome = true ↔ ∃ h ∈ starts none 0 text, ways r h ≠ [] := by
  constructor
  · intro h
    obtain ⟨m, hm⟩ := Option.isSome_iff_exists.1 h
    obtain ⟨h₀, hm₀, h', hm', -⟩ := search_mem_ways hm
    exact ⟨h₀, hm₀, List.ne_nil_of_mem hm'⟩
  · exact fun h => isSome_run text none 0 [] none (.inr (.inr h))

end Run

end Regex

end Switchboard
