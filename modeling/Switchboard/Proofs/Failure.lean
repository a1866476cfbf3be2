import Switchboard.Proofs.Turns

/-!
# Failing runs

A run that fails has attempted its turns up to the callback that failed, and nothing behind it. Had
that callback gone on instead, the same attempts would have come first:

    earlier ++ [failed]                    the attempts of the run that fails
    earlier ++ proceeded :: later          with another callback in the slot of the one that failed

Only callbacks fail. A run whose attempts all succeed comes to a report, whatever its patterns are
(`failing_run_stops`).
-/

namespace Switchboard

variable {ω : Type}

/-! ## Failures -/

/-- Why the attempt of a callback ends a run: its handler fails, or it is a symbol that leads to no
handler, which the strict policy forbids. -/
inductive Invoker.EndsWith (i : Invoker ω) (payload : Payload) (c : Callback ω)
    (arguments : List Json) : DispatchError → Prop
  | handler {h : Handler ω} {cause : HandlerError} (resolved : i.handler c = .ok h)
      (failed : (h (.ofArguments payload arguments)).result = .error cause) :
      EndsWith i payload c arguments (.handler c.label cause)
  | unresolved {cause : ResolveError} (strict : i.policy = .strict)
      (symbol : c = .symbol cause.name) (failed : i.handler c = .error cause) :
      EndsWith i payload c arguments (.unresolved cause)

/-- A directory names the reference that it does not resolve. -/
theorem Directory.name_of_resolve {d : Directory ω} {name : String} {e : ResolveError}
    (h : d.resolve name = .error e) : e.name = name := by
  unfold resolve Reference.parse at h
  split at h
  · next hparse =>
    cases h
    split at hparse
    · split at hparse <;> cases hparse
      rfl
    · cases hparse
      rfl
  · split at h <;> cases h <;> rfl

namespace Invoker

/-- Only symbols lead to no handler. -/
theorem symbol_of_handler {i : Invoker ω} {c : Callback ω} {e : ResolveError}
    (h : i.handler c = .error e) : c = .symbol e.name := by
  cases c with
  | handler label handler => cases h
  | symbol name =>
    rw [handler] at h
    cases hd : i.directory? with
    | some d =>
      rw [hd] at h
      rw [Directory.name_of_resolve h]
    | none =>
      rw [hd] at h
      cases h
      rfl

theorem endsWith_of_failure {i : Invoker ω} {payload : Payload} {c : Callback ω}
    {arguments : List Json} {e : DispatchError}
    (h : i.failure? (i.attempt payload c arguments) = some e) :
    i.EndsWith payload c arguments e := by
  unfold failure? attempt at h
  cases hc : i.handler c with
  | error cause =>
    simp only [hc, Except.map] at h
    split at h
    · next hp =>
      cases h
      exact .unresolved hp (symbol_of_handler hc) hc
    · cases h
  | ok handler =>
    simp only [hc, Except.map] at h
    split at h
    · cases h
    · next cause hr =>
      cases h
      exact .handler hc hr

/-- What fails asks for nothing, and so does not stop either. -/
theorem stops_of_failure {i : Invoker ω} {a : Attempt ω} {e : DispatchError}
    (h : i.failure? a = some e) : a.stops = false := by
  unfold failure? at h
  unfold Attempt.stops Attempt.outcome?
  split at h
  · next hr => rw [hr]; rfl
  · next reply hr =>
    rw [hr]
    split at h
    · cases h
    · next cause hres =>
      simp only [hres]
      rfl

theorem failure?_eq_none_of_outcome {i : Invoker ω} {a : Attempt ω} {o : Outcome}
    (h : a.outcome? = some o) : i.failure? a = none := by
  unfold Attempt.outcome? at h
  unfold failure?
  split at h
  · next reply hr =>
    cases hres : reply.result with
    | ok outcome => simp only [hr, hres]
    | error e =>
      rw [hres] at h
      cases h
  · cases h

/-- The attempt of a handler that goes on. -/
theorem outcome?_of_proceed (i : Invoker ω) {payload : Payload} (label : String)
    {handler : Handler ω} {arguments : List Json}
    (h : (handler (.ofArguments payload arguments)).result = .ok .proceed) :
    (i.attempt payload (.handler label handler) arguments).outcome? = some .proceed := by
  show (handler (.ofArguments payload arguments)).result.toOption = _
  rw [h]
  rfl

end Invoker

theorem Attempt.stops_of_proceed {a : Attempt ω} (h : a.outcome? = some .proceed) :
    a.stops = false := by
  rw [stops, h]
  rfl

/-! ## Runs -/

/-- **A failing run stops at the failing callback.** Whatever was done with a dispatcher before, a
run that fails does so at a callback that is registered: the last attempt is its attempt, and the
failure is that of its handler or, under the strict policy, that of its symbol. With a handler that
goes on in its place the same attempts come first. And a run whose attempts all succeed does not
fail. -/
theorem failing_run_stops [Regex.Capacity] (plan : DispatcherPlan)
    (history : List (Dispatcher.Operation ω))
    (directory : Directory ω) :
    let d := (plan.build : Dispatcher ω).performAll history
    let l := Ledger.ofHistory plan history
    let i := d.invoker directory
    (∀ e, (d.run directory).1 = .error e →
      ∃ slot c arguments earlier,
        l.callback? slot = some c ∧
        (d.run directory).2.1.attempts = earlier ++ [i.attempt l.payload c arguments] ∧
        i.EndsWith l.payload c arguments e ∧
        ∀ label handler, (handler (.ofArguments l.payload arguments)).result = .ok .proceed →
          ∃ later,
            (((l.withCallback (.handler label handler) slot).dispatcher plan).run
                directory).2.1.attempts =
              earlier ++ i.attempt l.payload (.handler label handler) arguments :: later) ∧
      ((∀ a ∈ (d.run directory).2.1.attempts, a.outcome?.isSome) →
        ∃ report, (d.run directory).1 = .ok report) := by
  intro d l i
  have hrep : Represents plan d l := (Represents.build plan).performAll history
  obtain ⟨hanswer, hattempts⟩ := hrep.run_turns directory
  constructor
  · intro e he
    rcases Course.through_cases i ((l.turns i).map (·.2)) with
      ⟨-, hthrough⟩ | ⟨earlier, a, later, e', hsplit, hearlier, ha, hthrough⟩
    · rw [hthrough, he] at hanswer
      cases hanswer
    · rw [hthrough, he] at hanswer
      cases hanswer
      rw [hthrough] at hattempts
      obtain ⟨slot, before, after, hturns, rfl, rfl⟩ := Ledger.exists_split hsplit
      have hmem : (slot, a) ∈ l.turns i := by simp [hturns]
      obtain ⟨hslot, hself⟩ := Ledger.callback?_of_mem hmem
      refine ⟨slot, a.callback, a.arguments, before.map (·.2), hslot, ?_, ?_, ?_⟩
      · rw [← hself]
        exact hattempts
      · rw [hself] at ha
        exact Invoker.endsWith_of_failure ha
      · intro label handler hproceed
        have hgoes := i.outcome?_of_proceed label hproceed
        have hrep' := Represents.dispatcher plan (l.withCallback (.handler label handler) slot)
        have hturns' := Ledger.turns_withCallback_of_split (c := .handler label handler) hturns
          ((Attempt.stops_of_proceed hgoes).trans (Invoker.stops_of_failure ha).symm)
        obtain ⟨-, hattempts'⟩ := hrep'.run_turns directory
        rw [hrep'.invoker_eq hrep, hturns', List.map_append, List.map_cons,
          Course.through_past hearlier (Invoker.failure?_eq_none_of_outcome hgoes)] at hattempts'
        exact ⟨_, hattempts'⟩
  · intro hall
    have hnone : ∀ a ∈ (d.run directory).2.1.attempts, i.failure? a = none := fun a ha => by
      obtain ⟨o, ho⟩ := Option.isSome_iff_exists.1 (hall a ha)
      exact Invoker.failure?_eq_none_of_outcome ho
    rcases Course.through_cases i ((l.turns i).map (·.2)) with
      ⟨-, hthrough⟩ | ⟨earlier, a, later, e, -, -, ha, hthrough⟩
    · rw [hthrough] at hanswer
      exact ⟨_, hanswer⟩
    · rw [hthrough] at hattempts
      rw [hattempts] at hnone
      rw [hnone a (by simp)] at ha
      cases ha

/-- A handler that fails whatever it is called with. -/
def Handler.failing (e : HandlerError) : Handler Unit := fun call => ⟨.error e, call, []⟩

/-- A hook, an event that fails, an event behind it and a hook afterwards. -/
def failing : List (Dispatcher.Operation Unit) :=
  [.before (.handler "hook" (.constant .proceed)) none [],
    .on ⟨[.always]⟩ (.handler "boom" (.failing (.failed "out of order"))) (some 10) [],
    registered "later" 20, .after (.handler "bye" (.constant .proceed)) none []]

/-- An event that fails is the last to be called; calmed down, it is followed by others. -/
theorem failing_event_stops :
    let run (history : List (Dispatcher.Operation Unit)) :=
      ((({} : DispatcherPlan).build : Dispatcher Unit).performAll history).run .empty
    let l := Ledger.ofHistory {} failing
    let calm : Callback Unit := .handler "calm" (.constant .proceed)
    (run failing).1 = .error (.handler "boom" (.failed "out of order")) ∧
      (run failing).2.1.attempts.map (·.callback.label) = ["hook", "boom"] ∧
      (∃ slot c arguments earlier later, l.callback? slot = some c ∧
        (run failing).2.1.attempts = earlier ++ [Invoker.attempt {} l.payload c arguments] ∧
        (((l.withCallback calm slot).dispatcher {}).run .empty).2.1.attempts =
          earlier ++ Invoker.attempt {} l.payload calm arguments :: later) ∧
      ∃ report, (run [registered "later" 20]).1 = .ok report := by
  intro run l calm
  have herror : (run failing).1 = .error (.handler "boom" (.failed "out of order")) := rfl
  obtain ⟨hstops, -⟩ := failing_run_stops {} failing .empty
  obtain ⟨-, hreports⟩ := failing_run_stops {} [registered "later" 20] .empty
  obtain ⟨slot, c, arguments, earlier, hslot, hattempts, -, hcalm⟩ := hstops _ herror
  obtain ⟨later, hlater⟩ := hcalm "calm" (.constant .proceed) rfl
  refine ⟨herror, rfl, ⟨slot, c, arguments, earlier, later, hslot, hattempts, hlater⟩,
    hreports ?_⟩
  intro a ha
  rw [List.mem_singleton.1 ha]
  rfl

end Switchboard
