import Switchboard.Proofs.Ledger

/-!
# The order of a successful run

A run that succeeds calls the handlers in this order, each with these arguments:

    hookCalls          the hooks before, in the order of their priorities
    eventCalls         the events that match, in that order, up to the first that stops; their
                       captures come first, then their extra arguments
    fallbackCalls      if no event matches, the first fallback that fits, without arguments
    hookCalls          the hooks after, also behind an event that stopped

A callback that leads to no handler is no call, and it stops nothing. The report counts the calls of
events (`run_order`).
-/

namespace Switchboard

variable {ω : Type}

/-! ## Calls -/

/-- A handler that was called: by which callback, with which arguments, and what came of it. -/
structure HandlerCall (ω : Type) where
  callback : Callback ω
  arguments : List Json
  reply : Reply ω

def HandlerCall.stops (c : HandlerCall ω) : Bool := c.reply.result.toOption == some .stop

/-- The call that an attempt came to. -/
def Attempt.call? (a : Attempt ω) : Option (HandlerCall ω) :=
  a.reply.toOption.map fun reply => ⟨a.callback, a.arguments, reply⟩

/-- The handlers that were called, in order. -/
def Progress.calls (p : Progress ω) : List (HandlerCall ω) := p.attempts.filterMap Attempt.call?

/-- The call of a callback with these arguments, if it leads to a handler. -/
def Invoker.call? (i : Invoker ω) (payload : Payload) (callback : Callback ω)
    (arguments : List Json) : Option (HandlerCall ω) :=
  (i.handler callback).toOption.map fun handler =>
    ⟨callback, arguments, handler (.ofArguments payload arguments)⟩

def hookCalls (i : Invoker ω) (payload : Payload) (hs : List (Hook ω)) : List (HandlerCall ω) :=
  hs.filterMap fun h => i.call? payload h.callback h.extra

/-- The calls of the events that match, up to the first that stops. -/
def eventCalls [Regex.Capacity] (i : Invoker ω) (payload : Payload) (es : List (Event ω)) :
    List (HandlerCall ω) :=
  throughFirst HandlerCall.stops <| es.filterMap fun e =>
    (e.pattern.match? payload).bind fun captures =>
      i.call? payload e.callback (captures.map .string ++ e.extra)

/-- The first fallback that the payload has a key of. -/
def fittingFallback? (payload : Payload) (fs : List (Fallback ω)) : Option (Fallback ω) :=
  fs.find? fun f => f.keys.any payload.has

def fallbackCalls (i : Invoker ω) (payload : Payload) (fs : List (Fallback ω)) :
    List (HandlerCall ω) :=
  ((fittingFallback? payload fs).bind fun f => i.call? payload f.callback []).toList

/-- Whether some event's pattern matches. -/
def someMatch [Regex.Capacity] (payload : Payload) (es : List (Event ω)) : Bool :=
  es.any fun e => (e.pattern.match? payload).isSome

/-! ## Lemmas -/

theorem call?_attempt (i : Invoker ω) (payload : Payload) (callback : Callback ω)
    (arguments : List Json) :
    (i.attempt payload callback arguments).call? = i.call? payload callback arguments := by
  unfold Attempt.call? Invoker.attempt Invoker.call?
  cases i.handler callback <;> rfl

theorem stops_eq_any (a : Attempt ω) : a.stops = a.call?.any HandlerCall.stops := by
  unfold Attempt.stops Attempt.outcome? Attempt.call?
  cases a.reply <;> rfl

theorem isCall_eq_isSome (a : Attempt ω) : a.isCall = a.call?.isSome := by
  unfold Attempt.isCall Attempt.call?
  cases a.reply <;> rfl

namespace Course

theorem andThen_failure?_eq_none {c d : Course ω} :
    (c.andThen d).failure? = none ↔ c.failure? = none ∧ d.failure? = none := by
  unfold andThen
  cases hc : c.failure? <;> simp [hc]

/-- Where nothing fails, only the end of a phase cuts it short. -/
theorem ofAttempts_attempts {i : Invoker ω} {ends : Attempt ω → Bool} {as : List (Attempt ω)}
    (h : (ofAttempts i ends as).failure? = none) :
    (ofAttempts i ends as).attempts = throughFirst ends as := by
  refine throughFirst_or fun a ha => ?_
  have hf := List.findSome?_eq_none_iff.1 h a ha
  rw [Invoker.fails, hf]
  rfl

theorem hooks_calls {i : Invoker ω} {payload : Payload} {hs : List (Hook ω)}
    (h : (hooks i payload hs).failure? = none) :
    (hooks i payload hs).attempts.filterMap Attempt.call? = hookCalls i payload hs := by
  unfold hooks at h ⊢
  rw [ofAttempts_attempts h, throughFirst_eq_self fun _ _ => rfl, List.filterMap_map, hookCalls]
  congr 1
  funext k
  exact call?_attempt i payload k.callback k.extra

theorem events_calls [Regex.Capacity] {i : Invoker ω} {payload : Payload} {es : List (Event ω)}
    (h : (events i payload es).failure? = none) :
    (events i payload es).attempts.filterMap Attempt.call? = eventCalls i payload es := by
  unfold events at h ⊢
  rw [ofAttempts_attempts h, filterMap_throughFirst stops_eq_any, matching,
    List.filterMap_filterMap, eventCalls]
  congr 2
  funext e
  unfold Invoker.eventAttempt?
  cases e.pattern.match? payload with
  | none => rfl
  | some captures => exact call?_attempt i payload _ _

theorem fallback_calls {i : Invoker ω} {payload : Payload} {f : Option (Fallback ω)}
    (h : (fallback i payload f).failure? = none) :
    (fallback i payload f).attempts.filterMap Attempt.call? =
      (f.bind fun f => i.call? payload f.callback []).toList := by
  unfold fallback at h ⊢
  rw [ofAttempts_attempts h, throughFirst_eq_self fun _ _ => rfl]
  cases f with
  | none => rfl
  | some f =>
    show [i.attempt payload f.callback []].filterMap Attempt.call? = _
    rw [← Option.toList_some, List.filterMap_eq_flatMap_toList]
    simp [call?_attempt]

theorem caught_eq [Regex.Capacity] (i : Invoker ω) (payload : Payload) (es : List (Event ω)) :
    (report i payload es).caught = someMatch payload es := by
  show (!(matching i payload es).isEmpty) = someMatch payload es
  induction es with
  | nil => rfl
  | cons e es ih =>
    have hcons : someMatch payload (e :: es) =
        ((e.pattern.match? payload).isSome || someMatch payload es) := rfl
    rw [hcons, ← ih]
    unfold matching
    rw [List.filterMap_cons]
    cases hm : e.pattern.match? payload <;> simp [Invoker.eventAttempt?, hm]

theorem answer_eq_ok {c : Course ω} {r report : Report} (h : c.answer r = .ok report) :
    c.failure? = none ∧ r = report := by
  unfold answer at h
  split at h
  · cases h
  · next hf =>
    cases h
    exact ⟨hf, rfl⟩

end Course

theorem someMatch_byPriority [Regex.Capacity] (payload : Payload) (es : List (Event ω)) :
    someMatch payload (byPriority Event.priority es) = someMatch payload es := by
  rw [Bool.eq_iff_iff, someMatch, someMatch, List.any_eq_true, List.any_eq_true]
  simp only [byPriority, List.mem_mergeSort]

/-! ## The order of calls -/

/-- What is called and reported, read off the entries of the schedules. -/
theorem Course.calls_of_ok [Regex.Capacity] {i : Invoker ω} {payload : Payload}
    {s : Subscriptions ω} {r : Report}
    (h : (all i payload s).answer (fullReport i payload s) = .ok r) :
    (all i payload s).attempts.filterMap Attempt.call? =
        hookCalls i payload s.before.toList ++ eventCalls i payload s.events.toList ++
          (if someMatch payload s.events.toList then []
            else fallbackCalls i payload s.fallbacks) ++
          hookCalls i payload s.after.toList ∧
      r = {
        caught := someMatch payload s.events.toList
        cancelled := (eventCalls i payload s.events.toList).any HandlerCall.stops
        invoked := (eventCalls i payload s.events.toList).length
        fallbackFired :=
          !someMatch payload s.events.toList &&
            (fittingFallback? payload s.fallbacks).isSome } := by
  obtain ⟨hf, rfl⟩ := answer_eq_ok h
  unfold all at hf
  obtain ⟨hbefore, hf⟩ := andThen_failure?_eq_none.1 hf
  obtain ⟨hevents, hf⟩ := andThen_failure?_eq_none.1 hf
  obtain ⟨hfallback, hafter⟩ := andThen_failure?_eq_none.1 hf
  have hcaught := caught_eq i payload s.events.toList
  have hcalls := events_calls hevents
  have hfits : s.fallbackFor? payload = fittingFallback? payload s.fallbacks := rfl
  constructor
  · unfold all
    rw [andThen_attempts hbefore, andThen_attempts hevents, andThen_attempts hfallback,
      List.filterMap_append, List.filterMap_append, List.filterMap_append, hooks_calls hbefore,
      hcalls, fallback_calls hfallback, hooks_calls hafter, fallbackOf, hcaught, hfits]
    cases someMatch payload s.events.toList <;> simp [fallbackCalls]
  · have hany : (events i payload s.events.toList).attempts.any Attempt.stops =
        (eventCalls i payload s.events.toList).any HandlerCall.stops := by
      rw [← hcalls, List.any_filterMap]
      congr 1
      funext a
      exact stops_eq_any a
    have hcount : (events i payload s.events.toList).attempts.countP Attempt.isCall =
        (eventCalls i payload s.events.toList).length := by
      rw [← hcalls, List.length_filterMap_eq_countP]
      congr 1
      funext a
      exact isCall_eq_isSome a
    show (⟨_, _, _, _⟩ : Report) = ⟨_, _, _, _⟩
    rw [Report.mk.injEq]
    refine ⟨hcaught, hany, hcount, ?_⟩
    rw [fallbackOf, hcaught, hfits]
    cases someMatch payload s.events.toList <;> rfl

/-- **The order of a successful run.** Whatever was done with a dispatcher before, a run that
succeeds calls the hooks before, the matching events up to the first that stops, a fallback if no
event matches, and the hooks after, each in the stable order of the registrations; and its report
counts those calls. -/
theorem run_order [Regex.Capacity] (plan : DispatcherPlan) (history : List (Dispatcher.Operation ω))
    (directory : Directory ω) (report : Report)
    (h : (((plan.build : Dispatcher ω).performAll history).run directory).1 = .ok report) :
    let d := (plan.build : Dispatcher ω).performAll history
    let l := Ledger.ofHistory plan history
    let i := d.invoker directory
    let called := eventCalls i l.payload (byPriority Event.priority l.events)
    let caught := someMatch l.payload l.events
    (d.run directory).2.1.calls =
        hookCalls i l.payload (byPriority Hook.priority l.before) ++ called ++
          (if caught then [] else fallbackCalls i l.payload l.fallbacks) ++
          hookCalls i l.payload (byPriority Hook.priority l.after) ∧
      report = {
        caught := caught
        cancelled := called.any HandlerCall.stops
        invoked := called.length
        fallbackFired := !caught && (fittingFallback? l.payload l.fallbacks).isSome } := by
  intro d l i called caught
  have hrep : Represents plan d l := (Represents.build plan).performAll history
  have hbefore : d.subscriptions.before.toList = byPriority Hook.priority l.before := by
    rw [hrep.subscriptions]
    exact Schedule.toList_ofList _ _
  have hevents : d.subscriptions.events.toList = byPriority Event.priority l.events := by
    rw [hrep.subscriptions]
    exact Schedule.toList_ofList _ _
  have hafter : d.subscriptions.after.toList = byPriority Hook.priority l.after := by
    rw [hrep.subscriptions]
    exact Schedule.toList_ofList _ _
  have hfallbacks : d.subscriptions.fallbacks = l.fallbacks := by
    rw [hrep.subscriptions]
    rfl
  obtain ⟨hanswer, hattempts, -⟩ := d.run_course directory hrep.cache
  have hok := Course.calls_of_ok (hanswer.symm.trans h)
  rw [← hattempts, hrep.payload, hbefore, hevents, hafter, hfallbacks, someMatch_byPriority] at hok
  exact hok

/-- Registrations in an order that is not that of their priorities: a name without a handler comes
first, then an event that stops, and then one that has no turn. -/
def stopping : List (Dispatcher.Operation Unit) :=
  [.after (.handler "after" (.constant .proceed)) none [],
    .on ⟨[.always]⟩ (.handler "late" (.constant .proceed)) (some 20) [],
    .on ⟨[.always]⟩ (.handler "stop" (.constant .stop)) (some 10) [],
    .on ⟨[.always]⟩ (.symbol "missing") (some 5) [],
    .before (.handler "before" (.constant .proceed)) none []]

theorem stopping_order :
    let d := (({} : DispatcherPlan).build : Dispatcher Unit).performAll stopping
    let l := Ledger.ofHistory {} stopping
    let i := d.invoker .empty
    let called := eventCalls i l.payload (byPriority Event.priority l.events)
    (d.run .empty).1 = .ok ⟨true, true, 1, false⟩ ∧
      (d.run .empty).2.1.calls.map (·.callback.label) = ["before", "stop", "after"] ∧
      (d.run .empty).2.1.calls =
        hookCalls i l.payload (byPriority Hook.priority l.before) ++ called ++ [] ++
          hookCalls i l.payload (byPriority Hook.priority l.after) ∧
      called.length = 1 := by
  intro d l i called
  have hrun : (d.run .empty).1 = .ok ⟨true, true, 1, false⟩ := rfl
  obtain ⟨hcalls, hreport⟩ := run_order {} stopping .empty ⟨true, true, 1, false⟩ hrun
  exact ⟨hrun, rfl, hcalls, (congrArg Report.invoked hreport).symm⟩

end Switchboard
