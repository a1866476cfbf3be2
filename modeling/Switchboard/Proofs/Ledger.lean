import Switchboard.Proofs.Course
import Switchboard.Proofs.StableOrder
import Switchboard.Regex.Memory

/-!
# Dispatchers and ledgers

A ledger is a dispatcher without cache and buckets: the payload, and four flat lists of what was
registered since the last reset. A dispatcher shows its ledger, each kind sorted by priority, and
it answers every operation as its ledger does, which runs a dispatcher built afresh each time:

    Represents plan d l           what every operation preserves          (Represents.perform)
    Represents.run_observation    a run depends on what the ledger shows only
    dispatcher_refines_ledger     a whole history

So runs leave no trace, and only the order within each kind and priority counts.
-/

namespace Switchboard

variable {ω : Type}

section
variable [Regex.Capacity]

/-! ## Operations -/

namespace Dispatcher

/-- What can be done with a dispatcher. A registration may leave out its priority. -/
inductive Operation (ω : Type) where
  | setPayload (payload : Except PayloadError Payload)
  | on (pattern : Pattern) (callback : Callback ω) (priority? : Option Int) (extra : List Json)
  | before (callback : Callback ω) (priority? : Option Int) (extra : List Json)
  | after (callback : Callback ω) (priority? : Option Int) (extra : List Json)
  | fallback (keys : List String) (callback : Callback ω)
  | resetEvents
  | resetPayload
  | resetAll
  /-- A run while the directory stands as given. -/
  | run (directory : Directory ω)

/-- What an operation shows. -/
inductive Observation (ω : Type) where
  | done
  | payload (result : Except PayloadError Unit)
  | ran (answer : Except DispatchError Report) (attempts : List (Attempt ω))

def perform (d : Dispatcher ω) : Operation ω → Observation ω × Dispatcher ω
  | .setPayload p => (.payload (d.setPayload p).1, (d.setPayload p).2)
  | .on p c priority? extra => (.done, d.on p c (priority?.getD d.defaultPriority) extra)
  | .before c priority? extra => (.done, d.before c (priority?.getD d.defaultPriority) extra)
  | .after c priority? extra => (.done, d.after c (priority?.getD d.defaultPriority) extra)
  | .fallback keys c => (.done, d.fallback keys c)
  | .resetEvents => (.done, d.resetEvents)
  | .resetPayload => (.done, d.resetPayload)
  | .resetAll => (.done, d.resetAll)
  | .run directory =>
    (.ran (d.run directory).1 (d.run directory).2.1.attempts, (d.run directory).2.2)

/-- The dispatcher after some operations. -/
def performAll (d : Dispatcher ω) (history : List (Operation ω)) : Dispatcher ω :=
  history.foldl (fun d op => (d.perform op).2) d

/-- What some operations show, one after the other. -/
def observe (d : Dispatcher ω) : List (Operation ω) → List (Observation ω)
  | [] => []
  | op :: ops => (d.perform op).1 :: (d.perform op).2.observe ops

def Operation.isRun : Operation ω → Bool
  | .run _ => true
  | _ => false

end Dispatcher

/-! ## Ledgers -/

/-- A payload and what was registered, in the order of registration. -/
structure Ledger (ω : Type) where
  payload : Payload
  events : List (Event ω) := []
  before : List (Hook ω) := []
  after : List (Hook ω) := []
  fallbacks : List (Fallback ω) := []

/-- The priority of a registration under a plan. -/
def DispatcherPlan.priority (plan : DispatcherPlan) (priority? : Option Int) : Int :=
  priority?.getD (plan.defaultPriority?.getD 500)

namespace Ledger

open Dispatcher (Operation Observation)

/-- A dispatcher built afresh, with this payload and these registrations. -/
def dispatcher (plan : DispatcherPlan) (l : Ledger ω) : Dispatcher ω :=
  let d := (plan.build.setPayload (.ok l.payload)).2
  let d := l.events.foldl (fun d e => d.on e.pattern e.callback e.priority e.extra) d
  let d := l.before.foldl (fun d h => d.before h.callback h.priority h.extra) d
  let d := l.after.foldl (fun d h => d.after h.callback h.priority h.extra) d
  l.fallbacks.foldl (fun d f => d.fallback f.keys f.callback) d

def perform (plan : DispatcherPlan) (l : Ledger ω) : Operation ω → Observation ω × Ledger ω
  | .setPayload (.ok p) => (.payload (.ok ()), { l with payload := p })
  | .setPayload (.error e) => (.payload (.error e), l)
  | .on p c priority? extra =>
    (.done, { l with events := l.events ++ [⟨p, c, plan.priority priority?, extra⟩] })
  | .before c priority? extra =>
    (.done, { l with before := l.before ++ [⟨c, plan.priority priority?, extra⟩] })
  | .after c priority? extra =>
    (.done, { l with after := l.after ++ [⟨c, plan.priority priority?, extra⟩] })
  | .fallback keys c => (.done, { l with fallbacks := l.fallbacks ++ [⟨keys, c⟩] })
  | .resetEvents => (.done, { payload := l.payload })
  | .resetPayload => (.done, { l with payload := .empty })
  | .resetAll => (.done, { payload := .empty })
  | .run directory =>
    (.ran ((l.dispatcher plan).run directory).1 ((l.dispatcher plan).run directory).2.1.attempts, l)

/-- The ledger after some operations on a dispatcher of this plan. -/
def ofHistory (plan : DispatcherPlan) (history : List (Operation ω)) : Ledger ω :=
  history.foldl (fun l op => (l.perform plan op).2) { payload := plan.payload }

/-- Ledgers of the same payload that agree within each kind and priority. -/
structure Agree (l l' : Ledger ω) : Prop where
  payload : l.payload = l'.payload
  events : ∀ p, ofPriority Event.priority p l.events = ofPriority Event.priority p l'.events
  before : ∀ p, ofPriority Hook.priority p l.before = ofPriority Hook.priority p l'.before
  after : ∀ p, ofPriority Hook.priority p l.after = ofPriority Hook.priority p l'.after
  fallbacks : l.fallbacks = l'.fallbacks

omit [Regex.Capacity] in
theorem Agree.refl (l : Ledger ω) : Agree l l :=
  ⟨rfl, fun _ => rfl, fun _ => rfl, fun _ => rfl, rfl⟩

omit [Regex.Capacity] in
theorem ofPriority_append {α : Type} {f : α → Int} {l l' : List α}
    (h : ∀ p, ofPriority f p l = ofPriority f p l') (more : List α) (p : Int) :
    ofPriority f p (l ++ more) = ofPriority f p (l' ++ more) := by
  have hp := h p
  unfold ofPriority at hp ⊢
  rw [List.filter_append, List.filter_append, hp]

/-- Every operation keeps agreement. -/
theorem Agree.perform {plan : DispatcherPlan} {l l' : Ledger ω} (h : Agree l l')
    (op : Operation ω) : Agree (l.perform plan op).2 (l'.perform plan op).2 := by
  cases op with
  | setPayload p =>
    cases p with
    | ok p => exact { h with payload := rfl }
    | error e => exact h
  | on p c priority? extra => exact { h with events := ofPriority_append h.events _ }
  | before c priority? extra => exact { h with before := ofPriority_append h.before _ }
  | after c priority? extra => exact { h with after := ofPriority_append h.after _ }
  | fallback keys c => exact { h with fallbacks := congrArg (· ++ _) h.fallbacks }
  | resetEvents => exact ⟨h.payload, fun _ => rfl, fun _ => rfl, fun _ => rfl, rfl⟩
  | resetPayload => exact { h with payload := rfl }
  | resetAll => exact Agree.refl _
  | run directory => exact h

end Ledger

/-! ## Representation -/

/-- The subscriptions of a ledger. -/
def Ledger.subscriptions (l : Ledger ω) : Subscriptions ω where
  events := .ofList Event.priority l.events
  before := .ofList Hook.priority l.before
  after := .ofList Hook.priority l.after
  fallbacks := l.fallbacks

/-- A dispatcher of a plan holds what its ledger lists; its cache may hold anything true. -/
structure Represents (plan : DispatcherPlan) (d : Dispatcher ω) (l : Ledger ω) : Prop where
  payload : d.payload = l.payload
  subscriptions : d.subscriptions = l.subscriptions
  policy : d.policy = plan.policy
  resolves : d.resolves = plan.resolves
  defaultPriority : d.defaultPriority = plan.defaultPriority?.getD 500
  cache : Matcher.Sound ⟨d.cache, []⟩

namespace Represents

open Dispatcher (Operation Observation)

variable {plan : DispatcherPlan} {d d' : Dispatcher ω} {l l' : Ledger ω}

theorem build (plan : DispatcherPlan) :
    Represents plan (plan.build : Dispatcher ω) { payload := plan.payload } :=
  ⟨rfl, rfl, rfl, rfl, rfl, [], rfl⟩

theorem on (h : Represents plan d l) (e : Event ω) :
    Represents plan (d.on e.pattern e.callback e.priority e.extra)
      { l with events := l.events ++ [e] } := by
  refine { h with subscriptions := ?_ }
  rw [Ledger.subscriptions, Schedule.ofList_concat]
  exact congrArg (Subscriptions.addEvent · e) h.subscriptions

theorem before (h : Represents plan d l) (k : Hook ω) :
    Represents plan (d.before k.callback k.priority k.extra)
      { l with before := l.before ++ [k] } := by
  refine { h with subscriptions := ?_ }
  rw [Ledger.subscriptions, Schedule.ofList_concat]
  exact congrArg (Subscriptions.addBefore · k) h.subscriptions

theorem after (h : Represents plan d l) (k : Hook ω) :
    Represents plan (d.after k.callback k.priority k.extra)
      { l with after := l.after ++ [k] } := by
  refine { h with subscriptions := ?_ }
  rw [Ledger.subscriptions, Schedule.ofList_concat]
  exact congrArg (Subscriptions.addAfter · k) h.subscriptions

theorem fallback (h : Represents plan d l) (f : Fallback ω) :
    Represents plan (d.fallback f.keys f.callback)
      { l with fallbacks := l.fallbacks ++ [f] } :=
  { h with subscriptions := congrArg (Subscriptions.addFallback · f) h.subscriptions }

/-- Registering a list, one entry after the other. -/
theorem foldl {α : Type} {step : Dispatcher ω → α → Dispatcher ω}
    (note : Ledger ω → List α → Ledger ω) (hnil : ∀ l, note l [] = l)
    (hcons : ∀ l a as, note (note l [a]) as = note l (a :: as))
    (hstep : ∀ {d l} a, Represents plan d l → Represents plan (step d a) (note l [a]))
    (as : List α) (h : Represents plan d l) : Represents plan (as.foldl step d) (note l as) := by
  induction as generalizing d l with
  | nil => rwa [hnil]
  | cons a as ih =>
    rw [List.foldl_cons, ← hcons]
    exact ih (hstep a h)

/-- The dispatcher built afresh from a ledger. -/
theorem dispatcher (plan : DispatcherPlan) (l : Ledger ω) :
    Represents plan (l.dispatcher plan) l := by
  have h : Represents plan ((plan.build : Dispatcher ω).setPayload (.ok l.payload)).2
      { payload := l.payload } :=
    { build plan with payload := rfl }
  have h := foldl (fun l es => { l with events := l.events ++ es }) (by simp) (by simp)
    (fun e h => h.on e) l.events h
  have h := foldl (fun l ks => { l with before := l.before ++ ks }) (by simp) (by simp)
    (fun k h => h.before k) l.before h
  have h := foldl (fun l ks => { l with after := l.after ++ ks }) (by simp) (by simp)
    (fun k h => h.after k) l.after h
  exact foldl (fun l fs => { l with fallbacks := l.fallbacks ++ fs }) (by simp) (by simp)
    (fun f h => h.fallback f) l.fallbacks h

theorem invoker_eq (h : Represents plan d l) (h' : Represents plan d' l')
    (directory : Directory ω) : d.invoker directory = d'.invoker directory := by
  rw [Dispatcher.invoker, Dispatcher.invoker, h.resolves, h'.resolves, h.policy, h'.policy]

/-- What a run shows depends on the ledger only, up to the order between kinds and priorities. -/
theorem run_observation (h : Represents plan d l) (h' : Represents plan d' l')
    (ha : Ledger.Agree l l') (directory : Directory ω) :
    (d.run directory).1 = (d'.run directory).1 ∧
      (d.run directory).2.1.attempts = (d'.run directory).2.1.attempts := by
  have hpayload : d.payload = d'.payload := by
    rw [h.payload, h'.payload, ha.payload]
  obtain ⟨hcourse, hreport⟩ := Course.all_congr (d'.invoker directory) d'.payload
    l.subscriptions l'.subscriptions
    (Schedule.toList_ofList_congr ha.events) (Schedule.toList_ofList_congr ha.before)
    (Schedule.toList_ofList_congr ha.after) ha.fallbacks
  have hrun := d.run_course directory h.cache
  have hrun' := d'.run_course directory h'.cache
  rw [invoker_eq h h', hpayload, h.subscriptions] at hrun
  rw [h'.subscriptions] at hrun'
  dsimp only at hrun hrun'
  rw [hcourse, hreport] at hrun
  exact ⟨hrun.1.trans hrun'.1.symm, hrun.2.1.trans hrun'.2.1.symm⟩

/-- Every operation keeps a dispatcher and its ledger together. -/
theorem perform (h : Represents plan d l) (op : Operation ω) :
    Represents plan (d.perform op).2 (l.perform plan op).2 := by
  have hpriority : ∀ priority? : Option Int,
      priority?.getD d.defaultPriority = plan.priority priority? := fun priority? => by
    rw [h.defaultPriority, DispatcherPlan.priority]
  cases op with
  | setPayload p =>
    cases p with
    | ok p => exact { h with payload := rfl }
    | error e => exact h
  | on p c priority? extra =>
    rw [Dispatcher.perform, hpriority]
    exact h.on ⟨p, c, plan.priority priority?, extra⟩
  | before c priority? extra =>
    rw [Dispatcher.perform, hpriority]
    exact h.before ⟨c, plan.priority priority?, extra⟩
  | after c priority? extra =>
    rw [Dispatcher.perform, hpriority]
    exact h.after ⟨c, plan.priority priority?, extra⟩
  | fallback keys c => exact h.fallback ⟨keys, c⟩
  | resetEvents => exact { h with subscriptions := rfl }
  | resetPayload => exact { h with payload := rfl }
  | resetAll => exact { h with payload := rfl, subscriptions := rfl }
  | run directory =>
    obtain ⟨known, hk⟩ := (d.run_course directory h.cache).2.2
    exact { h with cache := ⟨known, hk⟩ }

theorem performAll (h : Represents plan d l) (history : List (Operation ω)) :
    Represents plan (d.performAll history)
      (history.foldl (fun l op => (l.perform plan op).2) l) := by
  induction history generalizing d l with
  | nil => exact h
  | cons op history ih => exact ih (h.perform op)

/-- Dispatchers whose ledgers agree show the same. -/
theorem perform_fst (h : Represents plan d l) (h' : Represents plan d' l')
    (ha : Ledger.Agree l l') (op : Operation ω) : (d.perform op).1 = (d'.perform op).1 := by
  cases op with
  | setPayload p => cases p <;> rfl
  | run directory =>
    obtain ⟨hanswer, hattempts⟩ := h.run_observation h' ha directory
    rw [Dispatcher.perform, Dispatcher.perform, hanswer, hattempts]
  | _ => rfl

theorem observe_eq (h : Represents plan d l) (h' : Represents plan d' l')
    (ha : Ledger.Agree l l') (ops : List (Operation ω)) : d.observe ops = d'.observe ops := by
  induction ops generalizing d d' l l' with
  | nil => rfl
  | cons op ops ih =>
    rw [Dispatcher.observe, Dispatcher.observe, h.perform_fst h' ha op,
      ih (h.perform op) (h'.perform op) (ha.perform op)]

/-- A ledger shows what its dispatcher shows. -/
theorem ledger_perform_fst (h : Represents plan d l) (op : Operation ω) :
    (d.perform op).1 = (l.perform plan op).1 := by
  cases op with
  | setPayload p => cases p <;> rfl
  | run directory =>
    exact h.perform_fst (Represents.dispatcher plan l) (Ledger.Agree.refl l) (.run directory)
  | _ => rfl

end Represents

/-- Runs leave no trace in a ledger. -/
theorem Ledger.ofHistory_filter (plan : DispatcherPlan) (history : List (Dispatcher.Operation ω)) :
    ofHistory plan (history.filter (!·.isRun)) = ofHistory plan history := by
  unfold ofHistory
  rw [List.foldl_filter]
  congr 1
  funext l op
  cases op <;> rfl

/-! ## Refinement -/

/-- After every history a dispatcher shows its ledger: the payload, the events and hooks in the
stable order of their priorities, the fallbacks in the order of registration. Every operation then
shows what the ledger says, which runs a dispatcher built afresh; past runs have left no trace; and
histories whose ledgers agree within each kind and priority cannot be told apart. -/
theorem dispatcher_refines_ledger (plan : DispatcherPlan)
    (history : List (Dispatcher.Operation ω)) :
    let d := (plan.build : Dispatcher ω).performAll history
    let l := Ledger.ofHistory plan history
    d.payload = l.payload ∧
      d.subscriptions.events.toList = byPriority Event.priority l.events ∧
      d.subscriptions.before.toList = byPriority Hook.priority l.before ∧
      d.subscriptions.after.toList = byPriority Hook.priority l.after ∧
      d.subscriptions.fallbacks = l.fallbacks ∧
      (∀ op, (d.perform op).1 = (l.perform plan op).1) ∧
      (∀ more, d.observe more =
        ((plan.build : Dispatcher ω).performAll (history.filter (!·.isRun))).observe more) ∧
      ∀ other, Ledger.Agree l (Ledger.ofHistory plan other) →
        ∀ more, d.observe more = ((plan.build : Dispatcher ω).performAll other).observe more := by
  intro d l
  have h : Represents plan d l := (Represents.build plan).performAll history
  have hother : ∀ other, Ledger.Agree l (Ledger.ofHistory plan other) →
      ∀ more, d.observe more = ((plan.build : Dispatcher ω).performAll other).observe more :=
    fun other ha more => h.observe_eq ((Represents.build plan).performAll other) ha more
  refine ⟨h.payload, ?_, ?_, ?_, ?_, h.ledger_perform_fst, ?_, hother⟩
  · rw [h.subscriptions]
    exact Schedule.toList_ofList _ _
  · rw [h.subscriptions]
    exact Schedule.toList_ofList _ _
  · rw [h.subscriptions]
    exact Schedule.toList_ofList _ _
  · rw [h.subscriptions]
    rfl
  · refine hother _ ?_
    rw [Ledger.ofHistory_filter]
    exact Ledger.Agree.refl l

/-- A handler that answers alike whatever it is called with. -/
def Handler.constant (outcome : Outcome) : Handler Unit := fun call => ⟨.ok outcome, call, []⟩

/-- The registration of an event that always matches. -/
def registered (label : String) (priority : Int) : Dispatcher.Operation Unit :=
  .on ⟨[.always]⟩ (.handler label (.constant .proceed)) (some priority) []

end

/-- Registrations in two orders, the second time around a run: nobody can tell. -/
theorem registered_alike :
    let hook : Dispatcher.Operation Unit := .before (.handler "hook" (.constant .proceed)) none []
    let history := [registered "first" 10, registered "second" 20, hook]
    let other := [hook, registered "second" 20, .run .empty, registered "first" 10]
    Ledger.Agree (Ledger.ofHistory {} history) (Ledger.ofHistory {} other) ∧
      ∀ more, ((({} : DispatcherPlan).build : Dispatcher Unit).performAll history).observe more =
        ((({} : DispatcherPlan).build : Dispatcher Unit).performAll other).observe more := by
  intro hook history other
  have hevents : ∀ p, ofPriority Event.priority p (Ledger.ofHistory {} history).events =
      ofPriority Event.priority p (Ledger.ofHistory {} other).events := by
    intro p
    by_cases h10 : 10 = p <;> by_cases h20 : 20 = p <;>
      simp [history, other, hook, registered, Ledger.ofHistory, Ledger.perform, ofPriority,
        DispatcherPlan.priority, h10, h20]
    omega
  have hagree : Ledger.Agree (Ledger.ofHistory {} history) (Ledger.ofHistory {} other) :=
    ⟨rfl, hevents, fun _ => rfl, fun _ => rfl, rfl⟩
  obtain ⟨-, -, -, -, -, -, -, hother⟩ := dispatcher_refines_ledger {} history
  exact ⟨hagree, hother other hagree⟩

end Switchboard
