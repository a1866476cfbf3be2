import Switchboard.Dispatch.Dispatcher
import Switchboard.Proofs.Cache
import Switchboard.Proofs.Front

/-!
# The course of a run

What a run attempts and how it ends, read off the subscriptions without state and without a cache:

    Does step answer as       from every cache that holds what it should, `step` comes to `answer`
                              and attempts `as`
    hooks                     all hooks, up to the first that fails
    events                    all events that match, up to the first that fails or stops
    all                       hooks before, events, a fallback if nothing matched, hooks after;
                              nothing behind a failure                             (does_all)

The course depends on the order of the entries of the schedules, and on nothing else of them.
-/

namespace Switchboard

variable {ω : Type} [Regex.Capacity]

/-! ## Attempts -/

namespace Attempt

/-- What a callback that was called asked for. -/
def outcome? (a : Attempt ω) : Option Outcome :=
  match a.reply with
  | .ok reply => reply.result.toOption
  | .error _ => none

/-- Whether the handler was found, and so called. -/
def isCall (a : Attempt ω) : Bool := a.reply.toOption.isSome

/-- Whether the handler was called and asked to stop. -/
def stops (a : Attempt ω) : Bool := a.outcome? == some .stop

end Attempt

namespace Invoker

/-- The attempt of a callback with these arguments. -/
def attempt (i : Invoker ω) (payload : Payload) (callback : Callback ω) (arguments : List Json) :
    Attempt ω :=
  ⟨callback, arguments, (i.handler callback).map fun h => h (.ofArguments payload arguments)⟩

/-- Why an attempt ends the dispatch, if it does. -/
def failure? (i : Invoker ω) (a : Attempt ω) : Option DispatchError :=
  match a.reply with
  | .error e => if i.policy = .strict then some (.unresolved e) else none
  | .ok reply =>
    match reply.result with
    | .ok _ => none
    | .error e => some (.handler a.callback.label e)

def fails (i : Invoker ω) (a : Attempt ω) : Bool := (i.failure? a).isSome

def hookAttempt (i : Invoker ω) (payload : Payload) (h : Hook ω) : Attempt ω :=
  i.attempt payload h.callback h.extra

/-- The attempt of an event, if its pattern matches. -/
def eventAttempt? (i : Invoker ω) (payload : Payload) (e : Event ω) : Option (Attempt ω) :=
  (e.pattern.match? payload).map fun captures =>
    i.attempt payload e.callback (captures.map .string ++ e.extra)

end Invoker

/-! ## Courses -/

/-- What was attempted, and the failure that ended it. -/
structure Course (ω : Type) where
  attempts : List (Attempt ω)
  failure? : Option DispatchError

namespace Course

/-- One course and then another, unless the first failed. -/
def andThen (c d : Course ω) : Course ω :=
  match c.failure? with
  | some _ => c
  | none => ⟨c.attempts ++ d.attempts, d.failure?⟩

/-- A single attempt. -/
def ofAttempt (i : Invoker ω) (a : Attempt ω) : Course ω := ⟨[a], i.failure? a⟩

/-- These attempts up to the first that fails or ends the phase. -/
def ofAttempts (i : Invoker ω) (ends : Attempt ω → Bool) (as : List (Attempt ω)) : Course ω :=
  let tried := throughFirst (fun a => i.fails a || ends a) as
  ⟨tried, tried.findSome? i.failure?⟩

/-- How a step answers that has this course and comes to this value. -/
def answer {α : Type} (c : Course ω) (a : α) : Except DispatchError α :=
  match c.failure? with
  | some e => .error e
  | none => .ok a

def hooks (i : Invoker ω) (payload : Payload) (hs : List (Hook ω)) : Course ω :=
  ofAttempts i (fun _ => false) (hs.map (i.hookAttempt payload))

/-- The attempts of the events that match. -/
def matching (i : Invoker ω) (payload : Payload) (es : List (Event ω)) : List (Attempt ω) :=
  es.filterMap (i.eventAttempt? payload)

def events (i : Invoker ω) (payload : Payload) (es : List (Event ω)) : Course ω :=
  ofAttempts i Attempt.stops (matching i payload es)

def fallback (i : Invoker ω) (payload : Payload) (f : Option (Fallback ω)) : Course ω :=
  ofAttempts i (fun _ => false) (f.toList.map fun f => i.attempt payload f.callback [])

/-- The report on the events of a run. -/
def report (i : Invoker ω) (payload : Payload) (es : List (Event ω)) : Report where
  caught := !(matching i payload es).isEmpty
  cancelled := (events i payload es).attempts.any Attempt.stops
  invoked := (events i payload es).attempts.countP Attempt.isCall

/-- The fallback that has its turn: the first that fits, if no event matches. -/
def fallbackOf (i : Invoker ω) (payload : Payload) (s : Subscriptions ω) :
    Option (Fallback ω) :=
  if (report i payload s.events.toList).caught then none else s.fallbackFor? payload

/-- The course of a whole run. -/
def all (i : Invoker ω) (payload : Payload) (s : Subscriptions ω) : Course ω :=
  (hooks i payload s.before.toList).andThen <|
    (events i payload s.events.toList).andThen <|
      (fallback i payload (fallbackOf i payload s)).andThen <|
        hooks i payload s.after.toList

/-- The report of a whole run, should it succeed. -/
def fullReport (i : Invoker ω) (payload : Payload) (s : Subscriptions ω) : Report :=
  { report i payload s.events.toList with fallbackFired := (fallbackOf i payload s).isSome }

/-- Of the schedules only the order of their entries counts. -/
theorem all_congr (i : Invoker ω) (payload : Payload) (s s' : Subscriptions ω)
    (hevents : s.events.toList = s'.events.toList) (hbefore : s.before.toList = s'.before.toList)
    (hafter : s.after.toList = s'.after.toList) (hfallbacks : s.fallbacks = s'.fallbacks) :
    all i payload s = all i payload s' ∧ fullReport i payload s = fullReport i payload s' := by
  have hfor : s.fallbackFor? payload = s'.fallbackFor? payload := by
    rw [Subscriptions.fallbackFor?, hfallbacks, Subscriptions.fallbackFor?]
  have hof : fallbackOf i payload s = fallbackOf i payload s' := by
    rw [fallbackOf, fallbackOf, hevents, hfor]
  constructor
  · rw [all, all, hevents, hbefore, hafter, hof]
  · rw [fullReport, fullReport, hevents, hof]

end Course

/-! ## Steps -/

/-- The cache holds nothing but what texts give. -/
def Matcher.Sound (m : Matcher) : Prop := ∃ known, Matcher.Remembers m known

/-- A step that comes to an answer and makes these attempts, whatever is cached. -/
def Does {α : Type} (step : Dispatching ω α) (answer : Except DispatchError α)
    (as : List (Attempt ω)) : Prop :=
  ∀ p : Progress ω, p.toMatcher.Sound →
    (step.run p).1 = answer ∧ (step.run p).2.attempts = p.attempts ++ as ∧
      (step.run p).2.toMatcher.Sound

section Steps
variable {α β : Type}

theorem does_pure (a : α) : Does (pure a : Dispatching ω α) (.ok a) [] := by
  intro p h
  rw [List.append_nil]
  exact ⟨rfl, rfl, h⟩

theorem does_throw (e : DispatchError) : Does (throw e : Dispatching ω α) (.error e) [] := by
  intro p h
  rw [List.append_nil]
  exact ⟨rfl, rfl, h⟩

omit [Regex.Capacity] in
theorem run_bind_ok {step : Dispatching ω α} {next : α → Dispatching ω β} {p : Progress ω} {a : α}
    (h : (step.run p).1 = .ok a) : (step >>= next).run p = (next a).run (step.run p).2 := by
  rw [ExceptT.run_bind]
  show StateT.bind step.run _ p = _
  unfold StateT.bind
  cases hs : step.run p with
  | mk r q =>
    rw [hs] at h
    cases h
    rfl

omit [Regex.Capacity] in
theorem run_bind_error {step : Dispatching ω α} {next : α → Dispatching ω β} {p : Progress ω}
    {e : DispatchError} (h : (step.run p).1 = .error e) :
    (step >>= next).run p = (.error e, (step.run p).2) := by
  rw [ExceptT.run_bind]
  show StateT.bind step.run _ p = _
  unfold StateT.bind
  cases hs : step.run p with
  | mk r q =>
    rw [hs] at h
    cases h
    rfl

theorem Does.bind {step : Dispatching ω α} {next : α → Dispatching ω β} {a : α}
    {answer : Except DispatchError β} {as bs : List (Attempt ω)} (hs : Does step (.ok a) as)
    (hn : Does (next a) answer bs) : Does (step >>= next) answer (as ++ bs) := by
  intro p h
  obtain ⟨ha, has, hp⟩ := hs p h
  rw [run_bind_ok ha, ← List.append_assoc, ← has]
  exact hn _ hp

/-- A step that attempts nothing comes before others without a trace. -/
theorem Does.bind_silent {step : Dispatching ω α} {next : α → Dispatching ω β} {a : α}
    {answer : Except DispatchError β} {as : List (Attempt ω)} (hs : Does step (.ok a) [])
    (hn : Does (next a) answer as) : Does (step >>= next) answer as :=
  hs.bind hn

theorem Does.bind_error {step : Dispatching ω α} {next : α → Dispatching ω β} {e : DispatchError}
    {as : List (Attempt ω)} (hs : Does step (.error e) as) :
    Does (step >>= next) (.error e) as := by
  intro p h
  obtain ⟨ha, has, hp⟩ := hs p h
  rw [run_bind_error ha]
  exact ⟨rfl, has, hp⟩

theorem does_matching {step : Matching α} {a : α} {texts : List String}
    (hs : Matcher.Asks step a texts) :
    Does (Progress.matching step : Dispatching ω α) (.ok a) [] := by
  intro p ⟨known, h⟩
  obtain ⟨ha, hm⟩ := hs p.toMatcher known h
  rw [List.append_nil]
  exact ⟨congrArg Except.ok ha, rfl, _, hm⟩

theorem does_report (notice : Notice) :
    Does (Progress.report notice : Dispatching ω Unit) (.ok ()) [] :=
  does_matching (Matcher.asks_report notice)

end Steps

/-! ## Attempting callbacks -/

namespace Invoker

omit [Regex.Capacity] in
theorem answer_of_error (i : Invoker ω) (callback : Callback ω) (arguments : List Json)
    (e : ResolveError) :
    let a : Attempt ω := ⟨callback, arguments, .error e⟩
    (Course.ofAttempt i a).answer a.outcome? =
      if i.policy = .strict then .error (.unresolved e) else .ok none := by
  by_cases hp : i.policy = .strict <;>
    simp [Course.ofAttempt, Course.answer, failure?, Attempt.outcome?, hp]

omit [Regex.Capacity] in
theorem answer_of_reply (i : Invoker ω) (callback : Callback ω) (arguments : List Json)
    (reply : Reply ω) :
    let a : Attempt ω := ⟨callback, arguments, .ok reply⟩
    (Course.ofAttempt i a).answer a.outcome? =
      match reply.result with
      | .ok outcome => .ok (some outcome)
      | .error e => .error (.handler callback.label e) := by
  cases hr : reply.result <;>
    simp [Course.ofAttempt, Course.answer, failure?, Attempt.outcome?, hr, Except.toOption]

theorem does_skip (i : Invoker ω) (e : ResolveError) :
    Does (i.skip e) (if i.policy = .strict then .error (.unresolved e) else .ok none) [] := by
  unfold skip
  cases i.policy with
  | strict => exact does_throw _
  | silent => exact (does_report _).bind (does_pure none)
  | warn => exact (does_report _).bind (does_pure none)

/-- The step lemma of a run: one attempt, which goes on, is skipped, or fails. -/
theorem does_invoke (i : Invoker ω) (callback : Callback ω) (payload : Payload)
    (arguments : List Json) :
    let a := i.attempt payload callback arguments
    Does (i.invoke callback payload arguments) ((Course.ofAttempt i a).answer a.outcome?)
      (Course.ofAttempt i a).attempts := by
  have hlog : ∀ reply : Except ResolveError (Reply ω),
      Does (modify fun p => { p with attempts := p.attempts ++ [⟨callback, arguments, reply⟩] })
        (.ok ()) [⟨callback, arguments, reply⟩] := fun _ _ h => ⟨rfl, rfl, h⟩
  unfold invoke attempt
  cases i.handler callback with
  | error e =>
    simp only [Except.map, answer_of_error]
    exact (hlog (.error e)).bind (i.does_skip e)
  | ok handler =>
    simp only [Except.map, answer_of_reply]
    refine (does_report _).bind ((hlog (.ok (handler (.ofArguments payload arguments)))).bind ?_)
    cases (handler (.ofArguments payload arguments)).result with
    | ok outcome => exact does_pure (some outcome)
    | error e => exact does_throw _

end Invoker

namespace Course

omit [Regex.Capacity] in
theorem ofAttempts_nil (i : Invoker ω) (ends : Attempt ω → Bool) :
    ofAttempts i ends [] = ⟨[], none⟩ := rfl

omit [Regex.Capacity] in
/-- The first attempt, and the others unless it fails or ends the phase. -/
theorem ofAttempts_cons (i : Invoker ω) (ends : Attempt ω → Bool) (a : Attempt ω)
    (as : List (Attempt ω)) :
    ofAttempts i ends (a :: as) =
      (ofAttempt i a).andThen (if ends a then ⟨[], none⟩ else ofAttempts i ends as) := by
  cases hf : i.failure? a with
  | some e => simp [ofAttempts, ofAttempt, andThen, throughFirst, Invoker.fails, hf]
  | none =>
    by_cases he : ends a = true <;>
      simp [ofAttempts, ofAttempt, andThen, throughFirst, Invoker.fails, hf, he]

omit [Regex.Capacity] in
theorem andThen_attempts {c d : Course ω} (h : c.failure? = none) :
    (c.andThen d).attempts = c.attempts ++ d.attempts := by
  unfold andThen
  rw [h]

/-- The course of a step and what follows it, which is attempted only if nothing has failed. -/
theorem bind_course {α β : Type} {step : Dispatching ω α} {next : α → Dispatching ω β} {a : α}
    {b : β} {c d : Course ω} (hc : Does step (c.answer a) c.attempts)
    (hd : c.failure? = none → Does (next a) (d.answer b) d.attempts) :
    Does (step >>= next) ((c.andThen d).answer b) (c.andThen d).attempts := by
  unfold andThen
  cases hf : c.failure? with
  | some e =>
    rw [answer, hf] at hc
    rw [answer, hf]
    exact hc.bind_error
  | none =>
    rw [answer, hf] at hc
    exact hc.bind (hd hf)

/-- Behind the last phase nothing is attempted any more. -/
theorem bind_last {α β : Type} {step : Dispatching ω α} {next : α → Dispatching ω β} {a : α}
    {b : β} {c : Course ω} (hc : Does step (c.answer a) c.attempts)
    (hd : Does (next a) (.ok b) []) : Does (step >>= next) (c.answer b) c.attempts := by
  have hlast : c.andThen ⟨[], none⟩ = c := by
    obtain ⟨as, f⟩ := c
    cases f <;> simp [andThen]
  have hboth := bind_course (d := ⟨[], none⟩) hc fun _ => hd
  rwa [hlast] at hboth

end Course

/-! ## Phases -/

namespace Run

open Course

theorem does_hooks (i : Invoker ω) (payload : Payload) (hs : List (Hook ω)) :
    Does (Run.hooks i payload hs) ((Course.hooks i payload hs).answer ())
      (Course.hooks i payload hs).attempts := by
  induction hs with
  | nil => exact does_pure ()
  | cons h hs ih =>
    have hcourse : Course.hooks i payload (h :: hs) =
        (ofAttempt i (i.hookAttempt payload h)).andThen (Course.hooks i payload hs) :=
      ofAttempts_cons i _ _ _
    unfold Run.hooks
    rw [hcourse]
    exact bind_course (i.does_invoke h.callback payload h.extra) fun _ => ih

theorem does_fallback (i : Invoker ω) (payload : Payload) (s : Subscriptions ω) :
    Does (Run.fallback i payload s)
      ((Course.fallback i payload (s.fallbackFor? payload)).answer (s.fallbackFor? payload).isSome)
      (Course.fallback i payload (s.fallbackFor? payload)).attempts := by
  unfold Run.fallback
  cases s.fallbackFor? payload with
  | none => exact does_pure false
  | some f =>
    have hcourse : Course.fallback i payload (some f) =
        (ofAttempt i (i.attempt payload f.callback [])).andThen ⟨[], none⟩ :=
      ofAttempts_cons i _ _ _
    refine (does_report _).bind_silent ?_
    rw [hcourse]
    exact bind_course (i.does_invoke f.callback payload []) fun _ => does_pure true

/-- The report on events behind those already reported on. -/
def extend (r s : Report) : Report where
  caught := r.caught || s.caught
  cancelled := r.cancelled || s.cancelled
  invoked := r.invoked + s.invoked
  fallbackFired := r.fallbackFired || s.fallbackFired

omit [Regex.Capacity] in
theorem isCall_eq {i : Invoker ω} {a : Attempt ω} (h : i.failure? a = none) :
    a.isCall = a.outcome?.isSome := by
  unfold Invoker.failure? at h
  unfold Attempt.isCall Attempt.outcome?
  split at h
  · next hr => rw [hr]; rfl
  · next reply hr =>
    rw [hr]
    split at h
    · next hres => simp [hres, Except.toOption]
    · cases h

/-- The loop over the events: those that do not match leave no trace, the others are attempted up
to the first that fails or stops. -/
theorem does_events (i : Invoker ω) (payload : Payload) (es : List (Event ω)) (r : Report) :
    Does (Run.events i payload es r)
      ((Course.events i payload es).answer (extend r (report i payload es)))
      (Course.events i payload es).attempts := by
  induction es generalizing r with
  | nil =>
    have hr : extend r (report i payload []) = r := by
      simp [extend, report, matching, Course.events, ofAttempts_nil]
    show Does (pure r) (.ok (extend r (report i payload []))) []
    rw [hr]
    exact does_pure r
  | cons e es ih =>
    have hm : Does (Progress.matching (e.pattern.captures? payload) : Dispatching ω _)
        (.ok (e.pattern.match? payload)) [] :=
      does_matching (Pattern.asks_captures? e.pattern payload)
    unfold Run.events
    cases hc : e.pattern.match? payload with
    | none =>
      rw [hc] at hm
      have hmatch : matching i payload (e :: es) = matching i payload es := by
        simp [matching, Invoker.eventAttempt?, hc]
      have hev : Course.events i payload (e :: es) = Course.events i payload es := by
        rw [Course.events, hmatch, Course.events]
      have hrep : report i payload (e :: es) = report i payload es := by
        rw [report, hmatch, hev, report]
      rw [hev, hrep]
      exact hm.bind (ih r)
    | some captures =>
      rw [hc] at hm
      refine hm.bind_silent ?_
      have hi := i.does_invoke e.callback payload (captures.map .string ++ e.extra)
      generalize ha : i.attempt payload e.callback (captures.map .string ++ e.extra) = a at hi
      have hmatch : matching i payload (e :: es) = a :: matching i payload es := by
        simp [matching, Invoker.eventAttempt?, hc, ha]
      have hcourse : Course.events i payload (e :: es) = (ofAttempt i a).andThen
          (if a.stops then ⟨[], none⟩ else Course.events i payload es) := by
        rw [Course.events, hmatch, ofAttempts_cons, Course.events]
      rw [hcourse]
      refine bind_course hi fun hf => ?_
      have hattempts := congrArg Course.attempts hcourse
      rw [andThen_attempts hf] at hattempts
      have hcall := isCall_eq hf
      cases ho : a.outcome? with
      | none =>
        have hstops : a.stops = false := by rw [Attempt.stops, ho]; rfl
        have hrep : extend r (report i payload (e :: es)) =
            extend { r with caught := true } (report i payload es) := by
          simp [extend, report, hmatch, hattempts, ofAttempt, hstops, hcall, ho]
        rw [hstops, hrep]
        exact ih _
      | some o =>
        cases o with
        | proceed =>
          have hstops : a.stops = false := by rw [Attempt.stops, ho]; rfl
          have hrep : extend r (report i payload (e :: es)) =
              extend { r with caught := true, invoked := r.invoked + 1 }
                (report i payload es) := by
            simp [extend, report, hmatch, hattempts, ofAttempt, hstops, hcall, ho]
            omega
          rw [hstops, hrep]
          exact ih _
        | stop =>
          have hstops : a.stops = true := by rw [Attempt.stops, ho]; rfl
          have hrep : extend r (report i payload (e :: es)) =
              { r with caught := true, invoked := r.invoked + 1, cancelled := true } := by
            simp [extend, report, hmatch, hattempts, ofAttempt, hstops, hcall, ho]
          rw [hstops, hrep]
          exact (does_report _).bind_silent (does_pure _)

omit [Regex.Capacity] in
theorem extend_empty (r : Report) : extend {} r = r := by
  simp [extend]

/-- A run follows its course, whatever is cached when it begins. -/
theorem does_all (i : Invoker ω) (payload : Payload) (s : Subscriptions ω) :
    Does (Run.all i payload s) ((Course.all i payload s).answer (fullReport i payload s))
      (Course.all i payload s).attempts := by
  have hevents := does_events i payload s.events.toList {}
  have hhooks := does_hooks i payload s.after.toList
  have hfallback := does_fallback i payload s
  rw [extend_empty] at hevents
  unfold Run.all
  refine (does_report _).bind_silent ?_
  refine bind_course (does_hooks i payload _) fun _ => ?_
  refine (does_report _).bind_silent ?_
  refine bind_course hevents fun _ => ?_
  refine (does_report _).bind_silent ?_
  unfold fullReport fallbackOf
  by_cases hcaught : (report i payload s.events.toList).caught = true
  · simp only [hcaught, if_true]
    refine (does_pure false).bind_silent ?_
    refine bind_last hhooks ?_
    exact (does_report _).bind_silent (does_pure _)
  · simp only [hcaught]
    refine bind_course hfallback fun _ => ?_
    refine bind_last hhooks ?_
    exact (does_report _).bind_silent (does_pure _)

end Run

/-- A run of a dispatcher follows the course of its subscriptions. -/
theorem Dispatcher.run_course (d : Dispatcher ω) (directory : Directory ω)
    (h : Matcher.Sound ⟨d.cache, []⟩) :
    let c := Course.all (d.invoker directory) d.payload d.subscriptions
    (d.run directory).1 =
        c.answer (Course.fullReport (d.invoker directory) d.payload d.subscriptions) ∧
      (d.run directory).2.1.attempts = c.attempts ∧
      (d.run directory).2.1.toMatcher.Sound :=
  Run.does_all (d.invoker directory) d.payload d.subscriptions { cache := d.cache } h

end Switchboard
