import Switchboard.Proofs.Policies

/-!
# What a run calls

A run takes its turns up to the first that fails, and calls the handlers that it finds on the way:

    l.taken i       the turns that a run takes
    l.called i      the slots whose handlers it calls, with the arguments of each call

A run that succeeds takes all its turns. So a fallback is reported as soon as one has its turn, and
it is called if its callback leads to a handler; the strict policy alone makes the two the same
(`fallback_reported`).
-/

namespace Switchboard

variable {ω : Type}

section
variable [Regex.Capacity]

namespace Ledger

/-- The turns that a run takes: all up to the first that fails. -/
def taken (l : Ledger ω) (i : Invoker ω) : List (Turn ω) :=
  throughFirst (fun t => i.fails t.2) (l.turns i)

/-- The slots whose handlers a run calls, in order, and the arguments of each call. -/
def called (l : Ledger ω) (i : Invoker ω) : List (Slot × List Json) :=
  (l.taken i).filterMap fun t => t.2.call?.map fun c => (t.1, c.arguments)

end Ledger

/-- These calls are those of the callbacks in these slots, with these arguments. -/
def Ledger.Shows (l : Ledger ω) (calls : List (HandlerCall ω)) (called : List (Slot × List Json)) :
    Prop :=
  calls.map (fun c => (some c.callback, c.arguments)) =
    called.map fun s => (l.callback? s.1, s.2)

/-! ## Turns that are taken -/

namespace Course

omit [Regex.Capacity] in
theorem attempts_through (i : Invoker ω) (ts : List (Turn ω)) :
    (through i (ts.map (·.2))).attempts =
      (throughFirst (fun t => i.fails t.2) ts).map (·.2) := by
  show throughFirst (fun a => i.fails a || false) _ = _
  simp only [Bool.or_false]
  exact throughFirst_map fun _ _ => rfl

omit [Regex.Capacity] in
theorem failure?_through (i : Invoker ω) (ts : List (Turn ω)) :
    (through i (ts.map (·.2))).failure? =
      (throughFirst (fun t => i.fails t.2) ts).findSome? fun t => i.failure? t.2 := by
  show (through i (ts.map (·.2))).attempts.findSome? i.failure? = _
  rw [attempts_through, List.findSome?_map]
  rfl

end Course

namespace Ledger

variable {l : Ledger ω} {i : Invoker ω}

theorem mem_turns_of_mem_taken {t : Turn ω} (h : t ∈ l.taken i) : t ∈ l.turns i :=
  (throughFirst_sublist _ _).subset h

/-- Without a failure all turns are taken. -/
theorem taken_eq_turns (h : (Course.through i ((l.turns i).map (·.2))).failure? = none) :
    l.taken i = l.turns i := by
  rcases Course.through_cases i ((l.turns i).map (·.2)) with
    ⟨hall, -⟩ | ⟨_, _, _, _, -, -, -, hthrough⟩
  · refine throughFirst_eq_self fun t ht => ?_
    rw [Invoker.fails, hall t.2 (List.mem_map_of_mem ht)]
    rfl
  · rw [hthrough] at h
    cases h

/-- No slot is called twice. -/
theorem called_nodup (l : Ledger ω) (i : Invoker ω) : ((l.called i).map (·.1)).Nodup := by
  refine List.pairwise_map.2 (List.pairwise_filterMap.2 ?_)
  refine ((l.distinct_turns i).sublist (throughFirst_sublist _ _)).imp fun hne s hs s' hs' => ?_
  obtain ⟨c, -, rfl⟩ := Option.map_eq_some_iff.1 hs
  obtain ⟨c', -, rfl⟩ := Option.map_eq_some_iff.1 hs'
  exact hne

/-- The calls that are noted during a run are those of the callbacks in the slots called. -/
theorem shows_called (l : Ledger ω) (i : Invoker ω) :
    l.Shows (((l.taken i).map (·.2)).filterMap Attempt.call?) (l.called i) := by
  unfold Shows called
  rw [List.filterMap_map, List.map_filterMap, List.map_filterMap]
  refine List.filterMap_congr fun t ht => ?_
  obtain ⟨slot, a⟩ := t
  obtain ⟨hslot, -⟩ := callback?_of_mem (mem_turns_of_mem_taken ht)
  obtain ⟨callback, arguments, reply⟩ := a
  cases reply with
  | error e => rfl
  | ok reply =>
    show some (some callback, arguments) = some (l.callback? slot, arguments)
    rw [hslot]

end Ledger

/-- A run takes the turns of its ledger up to the first that fails, and reports on all of them if
none does. -/
theorem Represents.run_taken {plan : DispatcherPlan} {d : Dispatcher ω} {l : Ledger ω}
    (h : Represents plan d l) (directory : Directory ω) :
    let i := d.invoker directory
    (d.run directory).1 =
        (match (l.taken i).findSome? fun t => i.failure? t.2 with
          | some e => .error e
          | none => .ok (l.report i)) ∧
      (d.run directory).2.1.attempts = (l.taken i).map (·.2) ∧
      l.Shows (d.run directory).2.1.calls (l.called i) := by
  intro i
  obtain ⟨hanswer, hattempts⟩ := h.run_turns directory
  have htaken := hattempts.trans (Course.attempts_through i (l.turns i))
  refine ⟨?_, htaken, ?_⟩
  · rw [hanswer, Course.answer, Course.failure?_through]
    rfl
  · rw [Progress.calls, htaken]
    exact l.shows_called i

/-! ## Fallbacks -/

omit [Regex.Capacity] in
theorem Invoker.isSome_call?_iff {i : Invoker ω} {payload : Payload} {c : Callback ω}
    {arguments : List Json} :
    (i.call? payload c arguments).isSome ↔ ∃ handler, i.handler c = .ok handler := by
  unfold call?
  cases i.handler c <;> simp [Except.toOption]

/-- The fallback that has its turn: the first that fits, if no event matches. -/
def Ledger.fallback? (l : Ledger ω) : Option (Fallback ω) :=
  if someMatch l.payload l.events then none else fittingFallback? l.payload l.fallbacks

/-- Whether a run calls the handler of a fallback. -/
def Ledger.CallsFallback (l : Ledger ω) (i : Invoker ω) : Prop :=
  ∃ k arguments, (.fallback k, arguments) ∈ l.called i

namespace Ledger

variable {l : Ledger ω} {i : Invoker ω}

theorem fallbackFired_report (l : Ledger ω) (i : Invoker ω) :
    (l.report i).fallbackFired = l.fallback?.isSome :=
  Course.any_isFallback i l

/-- The attempts of fallbacks among the turns: one of the fallback that has its turn. -/
theorem fallback_attempts (l : Ledger ω) (i : Invoker ω) :
    ((l.turns i).filter fun t => t.1.isFallback).map (·.2) =
      l.fallback?.toList.map fun f => i.attempt l.payload f.callback [] := by
  rw [Course.filter_isFallback, Turn.map_snd_fallback]
  rfl

/-- If all turns are taken, the fallback is called that has its turn, if its callback leads to a
handler. -/
theorem callsFallback_iff (h : l.taken i = l.turns i) :
    l.CallsFallback i ↔ ∃ f handler, l.fallback? = some f ∧ i.handler f.callback = .ok handler := by
  have hattempts := l.fallback_attempts i
  constructor
  · rintro ⟨k, arguments, hmem⟩
    obtain ⟨⟨slot, a⟩, ht, hcall⟩ := List.mem_filterMap.1 hmem
    obtain ⟨c, hc, heq⟩ := Option.map_eq_some_iff.1 hcall
    obtain ⟨rfl, -⟩ := Prod.mk.inj heq
    have ha : a ∈ ((l.turns i).filter fun t => t.1.isFallback).map (·.2) :=
      List.mem_map.2 ⟨_, List.mem_filter.2 ⟨h ▸ ht, rfl⟩, rfl⟩
    rw [hattempts, List.mem_map] at ha
    obtain ⟨f, hf, rfl⟩ := ha
    rw [call?_attempt] at hc
    obtain ⟨handler, hhandler⟩ := Invoker.isSome_call?_iff.1 (Option.isSome_of_eq_some hc)
    exact ⟨f, handler, Option.mem_toList.1 hf, hhandler⟩
  · rintro ⟨f, handler, hf, hhandler⟩
    have ha : i.attempt l.payload f.callback [] ∈
        ((l.turns i).filter fun t => t.1.isFallback).map (·.2) := by
      rw [hattempts, hf]
      exact List.mem_singleton_self _
    obtain ⟨⟨slot, a⟩, ht, rfl⟩ := List.mem_map.1 ha
    obtain ⟨hmem, hslot⟩ := List.mem_filter.1 ht
    cases slot with
    | fallback k =>
      refine ⟨k, [], List.mem_filterMap.2 ⟨_, h.symm ▸ hmem, ?_⟩⟩
      rw [call?_attempt, Invoker.call?, hhandler]
      rfl
    | _ => cases hslot

end Ledger

/-- A fallback that has its turn is called, or its callback leads to no handler. -/
theorem Ledger.fallback?_cases (l : Ledger ω) (i : Invoker ω) :
    l.fallback? = none ∨
      (∃ f handler, l.fallback? = some f ∧ i.handler f.callback = .ok handler) ∨
      ∃ f e, l.fallback? = some f ∧ i.handler f.callback = .error e := by
  cases l.fallback? with
  | none => exact .inl rfl
  | some f =>
    right
    cases hf : i.handler f.callback with
    | ok handler => exact .inl ⟨f, handler, rfl, hf⟩
    | error e => exact .inr ⟨f, e, rfl, hf⟩

/-- Under the strict policy a turn without a handler is a failure. -/
theorem Ledger.handler_of_strict {l : Ledger ω} {i : Invoker ω} (hstrict : i.policy = .strict)
    (hnone : ∀ t ∈ l.turns i, i.failure? t.2 = none) {f : Fallback ω} (hf : l.fallback? = some f)
    (e : ResolveError) : i.handler f.callback ≠ .error e := by
  intro he
  have hmem : i.attempt l.payload f.callback [] ∈
      ((l.turns i).filter fun t => t.1.isFallback).map (·.2) := by
    rw [l.fallback_attempts i, hf]
    exact List.mem_singleton_self _
  obtain ⟨t, ht, heq⟩ := List.mem_map.1 hmem
  have hfails := hnone t (List.mem_filter.1 ht).1
  rw [heq, Invoker.failure?_of_unresolved (Invoker.reply_of_unresolved he []), if_pos hstrict]
    at hfails
  cases hfails

/-- **What a run reports of its fallback.** Whatever was done with a dispatcher before, a run that
succeeds reports a fallback exactly if one had its turn, and it has called one exactly if the
callback of that one leads to a handler. So the report is true to the calls unless that callback was
skipped, which the strict policy excludes. -/
theorem fallback_reported (plan : DispatcherPlan) (history : List (Dispatcher.Operation ω))
    (directory : Directory ω) (report : Report)
    (h : (((plan.build : Dispatcher ω).performAll history).run directory).1 = .ok report) :
    let d := (plan.build : Dispatcher ω).performAll history
    let l := Ledger.ofHistory plan history
    let i := d.invoker directory
    l.Shows (d.run directory).2.1.calls (l.called i) ∧
      (report.fallbackFired = true ↔ l.fallback?.isSome) ∧
      (l.CallsFallback i ↔
        ∃ f handler, l.fallback? = some f ∧ i.handler f.callback = .ok handler) ∧
      ((report.fallbackFired = true ↔ l.CallsFallback i) ↔
        ¬ ∃ f e, l.fallback? = some f ∧ i.handler f.callback = .error e) ∧
      (d.policy = .strict → (report.fallbackFired = true ↔ l.CallsFallback i)) := by
  intro d l i
  have hrep : Represents plan d l := (Represents.build plan).performAll history
  obtain ⟨hanswer, -, hshows⟩ := hrep.run_taken directory
  obtain ⟨hnone, rfl⟩ : ((l.taken i).findSome? fun t => i.failure? t.2) = none ∧
      l.report i = report := by
    have hok := hanswer.symm.trans h
    split at hok
    · cases hok
    · next hnone => exact ⟨hnone, Except.ok.inj hok⟩
  have hall : l.taken i = l.turns i := by
    apply Ledger.taken_eq_turns
    rw [Course.failure?_through]
    exact hnone
  rw [hall, List.findSome?_eq_none_iff] at hnone
  have hcalls := Ledger.callsFallback_iff hall
  have hfired : (l.report i).fallbackFired = true ↔ l.fallback?.isSome := by
    rw [l.fallbackFired_report i]
  have htrue : ((l.report i).fallbackFired = true ↔ l.CallsFallback i) ↔
      ¬ ∃ f e, l.fallback? = some f ∧ i.handler f.callback = .error e := by
    rw [hfired, hcalls]
    rcases l.fallback?_cases i with hf | ⟨f, handler, hf, hhandler⟩ | ⟨f, e, hf, he⟩
    · simp [hf]
    · simp [hf, hhandler]
    · simp [hf, he]
  refine ⟨hshows, hfired, hcalls, htrue, fun hpolicy => htrue.2 ?_⟩
  rintro ⟨f, e, hf, he⟩
  exact Ledger.handler_of_strict hpolicy hnone hf e he

end

/-- A fallback under a name that no directory has, and one for a key that the payload has not. -/
def lostFallback : List (Dispatcher.Operation Unit) :=
  [.setPayload (.ok ⟨.object [("message", .string "hi")]⟩),
    .fallback ["callback_query"] (.handler "query" (.constant .proceed)),
    .fallback ["edited_message", "message"] (.symbol "Help.show")]

/-- A fallback that is skipped is reported, and no handler at all is called. -/
theorem lost_fallback_fired :
    let d := (({} : DispatcherPlan).build : Dispatcher Unit).performAll lostFallback
    (d.run .empty).1 = .ok ⟨false, false, 0, true⟩ ∧ (d.run .empty).2.1.calls.length = 0 :=
  ⟨rfl, rfl⟩

/-- Where the name is found, the fallback is reported and called. -/
theorem found_fallback_called :
    let plan : DispatcherPlan := { resolves := true }
    let d := (plan.build : Dispatcher Unit).performAll lostFallback
    let directory : Directory Unit := Directory.empty.register "Help.show" (.constant .proceed)
    let l := Ledger.ofHistory plan lostFallback
    (d.run directory).1 = .ok ⟨false, false, 0, true⟩ ∧
      (d.run directory).2.1.calls.length = 1 ∧ l.CallsFallback (d.invoker directory) := by
  intro plan d directory l
  have hrun : (d.run directory).1 = .ok ⟨false, false, 0, true⟩ := rfl
  obtain ⟨-, -, hcalls, -⟩ := fallback_reported plan lostFallback directory _ hrun
  exact ⟨hrun, rfl, hcalls.2 ⟨_, _, rfl, rfl⟩⟩

end Switchboard
