import Mathlib.Data.List.Forall2
import Switchboard.Proofs.Called

/-!
# What hooks and fallbacks ask for

Two runs over the same registrations, whose handlers behave differently:

    AnswersLike     the handlers of events answer alike
    FailsLike       all other handlers fail alike, and may ask for anything otherwise

Slot by slot both runs then have the same turns (`Ledger.Alike.turns`), each with a call in both or
in none and with a failure in both or in none, and the events stop both at the same place. So the
calls and the result are the same (`only_events_stop`).
-/

namespace Switchboard

variable {ω : Type}

/-! ## Handlers that behave alike -/

namespace Handler

/-- Both answer every call with the same outcome or the same failure. -/
def AnswersLike (h h' : Handler ω) : Prop := ∀ call, (h call).result = (h' call).result

/-- Both fail at the same calls, for the same reason. What they ask for elsewhere may differ. -/
def FailsLike (h h' : Handler ω) : Prop :=
  ∀ call, (h call).result.map (fun _ => ()) = (h' call).result.map fun _ => ()

theorem AnswersLike.failsLike {h h' : Handler ω} (halike : AnswersLike h h') : FailsLike h h' :=
  fun call => congrArg (Except.map fun _ => ()) (halike call)

end Handler

/-- Callbacks of one label that lead two runs to related handlers, or for one reason to none. -/
inductive Callback.Alike (R : Handler ω → Handler ω → Prop) (i i' : Invoker ω) (c c' : Callback ω) :
    Prop
  | found {h h' : Handler ω} (label : c.label = c'.label) (left : i.handler c = .ok h)
      (right : i'.handler c' = .ok h') (related : R h h')
  | lost {e : ResolveError} (label : c.label = c'.label) (left : i.handler c = .error e)
      (right : i'.handler c' = .error e)

/-- Events of one pattern, one priority and the same arguments, whose handlers answer alike. -/
structure Event.Alike (i i' : Invoker ω) (e e' : Event ω) : Prop where
  pattern : e.pattern = e'.pattern
  priority : e.priority = e'.priority
  extra : e.extra = e'.extra
  callback : Callback.Alike Handler.AnswersLike i i' e.callback e'.callback

/-- Hooks of one priority and the same arguments, whose handlers fail alike. -/
structure Hook.Alike (i i' : Invoker ω) (h h' : Hook ω) : Prop where
  priority : h.priority = h'.priority
  extra : h.extra = h'.extra
  callback : Callback.Alike Handler.FailsLike i i' h.callback h'.callback

/-- Fallbacks for the same keys, whose handlers fail alike. -/
structure Fallback.Alike (i i' : Invoker ω) (f f' : Fallback ω) : Prop where
  keys : f.keys = f'.keys
  callback : Callback.Alike Handler.FailsLike i i' f.callback f'.callback

/-- The same payload and the same registrations, one by one, with handlers that may differ in what
hooks and fallbacks ask for. -/
structure Ledger.Alike (i i' : Invoker ω) (l l' : Ledger ω) : Prop where
  payload : l.payload = l'.payload
  events : List.Forall₂ (Event.Alike i i') l.events l'.events
  before : List.Forall₂ (Hook.Alike i i') l.before l'.before
  after : List.Forall₂ (Hook.Alike i i') l.after l'.after
  fallbacks : List.Forall₂ (Fallback.Alike i i') l.fallbacks l'.fallbacks

/-! ## Related lists -/

section Related

variable {α β γ δ : Type} {R : α → β → Prop} {as : List α} {bs : List β}

/-- Related lists are the two sides of a list of related pairs. -/
theorem exists_pairs (h : List.Forall₂ R as bs) :
    ∃ pairs : List {p : α × β // R p.1 p.2},
      as = pairs.map (fun p => p.1.1) ∧ bs = pairs.map (fun p => p.1.2) := by
  induction h with
  | nil => exact ⟨[], rfl, rfl⟩
  | @cons a b as bs hab _ ih =>
    obtain ⟨pairs, rfl, rfl⟩ := ih
    exact ⟨⟨(a, b), hab⟩ :: pairs, rfl, rfl⟩

/-- Both sides of a list of pairs. -/
theorem forall₂_sides {S : γ → δ → Prop} (l : List α) {f : α → γ} {g : α → δ}
    (h : ∀ a, S (f a) (g a)) : List.Forall₂ S (l.map f) (l.map g) := by
  rw [List.forall₂_map_left_iff, List.forall₂_map_right_iff, List.forall₂_same]
  exact fun a _ => h a

/-- Related entries keep their numbers, and of the same priorities they are sorted alike. -/
theorem forall₂_numbered {f : α → Int} {g : β → Int} (hR : ∀ a b, R a b → f a = g b)
    (h : List.Forall₂ R as bs) :
    List.Forall₂ (fun a b => R a.1 b.1 ∧ a.2 = b.2)
      (byPriority (fun e => f e.1) as.zipIdx) (byPriority (fun e => g e.1) bs.zipIdx) := by
  obtain ⟨pairs, rfl, rfl⟩ := exists_pairs h
  have hkeys : (fun e : {p : α × β // R p.1 p.2} × Nat => f e.1.1.1) = fun e => g e.1.1.2 :=
    funext fun e => hR _ _ e.1.2
  rw [List.zipIdx_map, List.zipIdx_map, byPriority_map, byPriority_map]
  show List.Forall₂ _ ((byPriority (fun e : {p : α × β // R p.1 p.2} × Nat => f e.1.1.1) _).map _) _
  rw [hkeys]
  exact forall₂_sides _ fun e => ⟨e.1.2, rfl⟩

theorem forall₂_throughFirst {p : α → Bool} {q : β → Bool} (hR : ∀ a b, R a b → p a = q b)
    (h : List.Forall₂ R as bs) : List.Forall₂ R (throughFirst p as) (throughFirst q bs) := by
  induction h with
  | nil => exact .nil
  | @cons a b as bs hab _ ih =>
    unfold throughFirst
    rw [hR a b hab]
    split
    · exact .cons hab .nil
    · exact .cons hab ih

end Related

/-! ## Turns -/

/-- Turns of one slot with the same arguments: both call a handler or none does, both fail for one
reason or none does, and events stop both or none. -/
structure Turn.Alike (i i' : Invoker ω) (t t' : Turn ω) : Prop where
  slot : t.1 = t'.1
  arguments : t.2.arguments = t'.2.arguments
  isCall : t.2.isCall = t'.2.isCall
  failure : i.failure? t.2 = i'.failure? t'.2
  stops : t.1.isEvent = true → t.2.stops = t'.2.stops

section Turns

variable {i i' : Invoker ω} {payload : Payload} {c c' : Callback ω}

theorem Callback.Alike.failsLike (h : Callback.Alike Handler.AnswersLike i i' c c') :
    Callback.Alike Handler.FailsLike i i' c c' := by
  cases h with
  | found label left right related => exact .found label left right related.failsLike
  | lost label left right => exact .lost label left right

theorem Callback.Alike.isCall (h : Callback.Alike Handler.FailsLike i i' c c')
    (arguments : List Json) :
    (i.attempt payload c arguments).isCall = (i'.attempt payload c' arguments).isCall := by
  unfold Attempt.isCall Invoker.attempt
  cases h with
  | found label left right related =>
    rw [left, right]
    rfl
  | lost label left right => rw [left, right]

theorem Callback.Alike.failure? (hpolicy : i.policy = i'.policy)
    (h : Callback.Alike Handler.FailsLike i i' c c') (arguments : List Json) :
    i.failure? (i.attempt payload c arguments) = i'.failure? (i'.attempt payload c' arguments) := by
  cases h with
  | lost label left right =>
    rw [Invoker.failure?_of_unresolved (Invoker.reply_of_unresolved left arguments),
      Invoker.failure?_of_unresolved (Invoker.reply_of_unresolved right arguments), hpolicy]
  | @found handler handler' label left right related =>
    have hfails := related (.ofArguments payload arguments)
    unfold Invoker.failure? Invoker.attempt
    rw [left, right]
    simp only [Except.map]
    cases hr : (handler (.ofArguments payload arguments)).result <;>
      cases hr' : (handler' (.ofArguments payload arguments)).result <;>
        rw [hr, hr'] at hfails
    · cases hfails
      rw [label]
    · cases hfails
    · cases hfails

theorem Callback.Alike.stops (h : Callback.Alike Handler.AnswersLike i i' c c')
    (arguments : List Json) :
    (i.attempt payload c arguments).stops = (i'.attempt payload c' arguments).stops := by
  unfold Attempt.stops Attempt.outcome? Invoker.attempt
  cases h with
  | lost label left right => rw [left, right]
  | found label left right related =>
    rw [left, right]
    simp only [Except.map, related (.ofArguments payload arguments)]

/-- The turn of a callback whose outcome does not count. -/
theorem Callback.Alike.turn (hpolicy : i.policy = i'.policy)
    (h : Callback.Alike Handler.FailsLike i i' c c') {slot : Slot} (hslot : slot.isEvent = false)
    (arguments : List Json) :
    Turn.Alike i i' (slot, i.attempt payload c arguments)
      (slot, i'.attempt payload c' arguments) where
  slot := rfl
  arguments := rfl
  isCall := h.isCall arguments
  failure := h.failure? hpolicy arguments
  stops hevent := absurd (hslot.symm.trans hevent) Bool.false_ne_true

theorem Turn.alike_hooks (hpolicy : i.policy = i'.policy) {slot : Nat → Slot}
    (hslot : ∀ k, (slot k).isEvent = false) {hs hs' : List (Hook ω)}
    (h : List.Forall₂ (Hook.Alike i i') hs hs') :
    List.Forall₂ (Turn.Alike i i') (Turn.hooks i payload slot hs)
      (Turn.hooks i' payload slot hs') := by
  unfold Turn.hooks
  rw [List.forall₂_map_left_iff, List.forall₂_map_right_iff]
  refine (forall₂_numbered (fun _ _ hhook => hhook.priority) h).imp ?_
  rintro ⟨k, n⟩ ⟨k', n'⟩ ⟨hhook, hn⟩
  obtain rfl : n = n' := hn
  unfold Invoker.hookAttempt
  rw [← hhook.extra]
  exact hhook.callback.turn hpolicy (hslot n) k.extra

theorem Turn.alike_matching [Regex.Capacity] (hpolicy : i.policy = i'.policy)
    {es es' : List (Event ω)}
    (h : List.Forall₂ (Event.Alike i i') es es') :
    List.Forall₂ (fun t t' => Turn.Alike i i' t t' ∧ t.1.isEvent = true)
      (Turn.matching i payload es) (Turn.matching i' payload es') := by
  refine List.rel_filterMap ?_ (forall₂_numbered (fun _ _ hevent => hevent.priority) h)
  rintro ⟨e, n⟩ ⟨e', n'⟩ ⟨hevent, hn⟩
  obtain rfl : n = n' := hn
  obtain ⟨hpattern, -, hextra, hcallback⟩ := hevent
  dsimp only at hpattern hextra hcallback
  unfold Invoker.eventAttempt?
  dsimp only
  rw [← hpattern, ← hextra]
  cases e.pattern.match? payload with
  | none => exact .none
  | some captures =>
    exact .some ⟨⟨rfl, rfl, hcallback.failsLike.isCall _, hcallback.failsLike.failure? hpolicy _,
      fun _ => hcallback.stops _⟩, rfl⟩

theorem Turn.alike_events [Regex.Capacity] (hpolicy : i.policy = i'.policy)
    {es es' : List (Event ω)}
    (h : List.Forall₂ (Event.Alike i i') es es') :
    List.Forall₂ (Turn.Alike i i') (Turn.events i payload es) (Turn.events i' payload es') :=
  (forall₂_throughFirst (fun _ _ ht => ht.1.stops ht.2) (Turn.alike_matching hpolicy h)).imp
    fun _ _ ht => ht.1

theorem Turn.alike_fallback (hpolicy : i.policy = i'.policy) (caught : Bool)
    {fs fs' : List (Fallback ω)} (h : List.Forall₂ (Fallback.Alike i i') fs fs') :
    List.Forall₂ (Turn.Alike i i') (Turn.fallback i payload caught fs)
      (Turn.fallback i' payload caught fs') := by
  obtain ⟨pairs, rfl, rfl⟩ := exists_pairs h
  have hkeys : ∀ p : {p : Fallback ω × Fallback ω // Fallback.Alike i i' p.1 p.2} × Nat,
      (p.1.1.2.keys.any payload.has) = p.1.1.1.keys.any payload.has := fun p => by
    rw [p.1.2.keys]
  unfold Turn.fallback
  split
  · exact .nil
  · rw [List.zipIdx_map, List.zipIdx_map, List.find?_map, List.find?_map]
    simp only [Function.comp_def, Prod.map, id, hkeys]
    cases pairs.zipIdx.find? fun p => p.1.1.1.keys.any payload.has with
    | none => exact .nil
    | some p => exact .cons (p.1.2.callback.turn hpolicy rfl []) .nil

end Turns

/-! ## Runs -/

theorem Turn.called_eq (t : Turn ω) : (t.2.call?.map fun c => (t.1, c.arguments)) =
    if t.2.isCall then some (t.1, t.2.arguments) else none := by
  obtain ⟨slot, callback, arguments, reply⟩ := t
  cases reply <;> rfl

namespace Ledger.Alike

variable {i i' : Invoker ω} {l l' : Ledger ω}

theorem someMatch_eq [Regex.Capacity] (h : Alike i i' l l') :
    someMatch l.payload l.events = someMatch l'.payload l'.events := by
  obtain ⟨pairs, hl, hr⟩ := exists_pairs h.events
  unfold someMatch
  rw [hl, hr, List.any_map, List.any_map, h.payload]
  congr 1
  funext p
  show (p.1.1.pattern.match? _).isSome = (p.1.2.pattern.match? _).isSome
  rw [p.2.pattern]

/-- Both runs have the same turns. -/
theorem turns [Regex.Capacity] (hpolicy : i.policy = i'.policy) (h : Alike i i' l l') :
    List.Forall₂ (Turn.Alike i i') (l.turns i) (l'.turns i') := by
  unfold Ledger.turns
  rw [← h.someMatch_eq, ← h.payload]
  refine List.rel_append (List.rel_append (List.rel_append ?_ ?_) ?_) ?_
  · exact Turn.alike_hooks hpolicy (fun _ => rfl) h.before
  · exact Turn.alike_events hpolicy h.events
  · exact Turn.alike_fallback hpolicy _ h.fallbacks
  · exact Turn.alike_hooks hpolicy (fun _ => rfl) h.after

theorem taken [Regex.Capacity] (hpolicy : i.policy = i'.policy) (h : Alike i i' l l') :
    List.Forall₂ (Turn.Alike i i') (l.taken i) (l'.taken i') :=
  forall₂_throughFirst (fun _ _ ht => congrArg Option.isSome ht.failure) (h.turns hpolicy)

theorem called_eq [Regex.Capacity] (hpolicy : i.policy = i'.policy) (h : Alike i i' l l') :
    l.called i = l'.called i' := by
  obtain ⟨pairs, hl, hr⟩ := exists_pairs (h.taken hpolicy)
  unfold called
  rw [hl, hr, List.filterMap_map, List.filterMap_map]
  congr 1
  funext p
  show (p.1.1.2.call?.map fun c => (p.1.1.1, c.arguments)) =
    p.1.2.2.call?.map fun c => (p.1.2.1, c.arguments)
  rw [Turn.called_eq, Turn.called_eq, p.2.isCall, p.2.slot, p.2.arguments]

theorem failure?_eq [Regex.Capacity] (hpolicy : i.policy = i'.policy) (h : Alike i i' l l') :
    ((l.taken i).findSome? fun t => i.failure? t.2) =
      (l'.taken i').findSome? fun t => i'.failure? t.2 := by
  obtain ⟨pairs, hl, hr⟩ := exists_pairs (h.taken hpolicy)
  rw [hl, hr, List.findSome?_map, List.findSome?_map]
  congr 1
  funext p
  exact p.2.failure

theorem report_eq [Regex.Capacity] (hpolicy : i.policy = i'.policy) (h : Alike i i' l l') :
    l.report i = l'.report i' := by
  obtain ⟨pairs, hl, hr⟩ := exists_pairs (h.turns hpolicy)
  unfold report
  rw [hl, hr, h.someMatch_eq]
  simp only [List.any_map, List.countP_map, Function.comp_def]
  have hstops : ∀ p : {p : Turn ω × Turn ω // Turn.Alike i i' p.1 p.2},
      (p.1.1.1.isEvent && p.1.1.2.stops) = (p.1.2.1.isEvent && p.1.2.2.stops) := fun p => by
    rw [← p.2.slot]
    cases hevent : p.1.1.1.isEvent with
    | false => rfl
    | true => rw [p.2.stops hevent]
  have hcalls : ∀ p : {p : Turn ω × Turn ω // Turn.Alike i i' p.1 p.2},
      (p.1.1.2.isCall && p.1.1.1.isEvent) = (p.1.2.2.isCall && p.1.2.1.isEvent) := fun p => by
    rw [p.2.isCall, p.2.slot]
  have hfallbacks : ∀ p : {p : Turn ω × Turn ω // Turn.Alike i i' p.1 p.2},
      p.1.1.1.isFallback = p.1.2.1.isFallback := fun p => by
    rw [p.2.slot]
  simp only [hstops, hcalls, hfallbacks]

end Ledger.Alike

/-- **Only events stop anything.** Two runs over the same payload and the same registrations, whose
events answer alike and whose hooks and fallbacks fail alike, call the same slots in the same order
with the same arguments, none of them twice, and come to the same result. What hooks and fallbacks
ask for makes no difference. -/
theorem only_events_stop [Regex.Capacity] (plan : DispatcherPlan)
    (history history' : List (Dispatcher.Operation ω))
    (directory directory' : Directory ω)
    (h : Ledger.Alike (plan.invoker directory) (plan.invoker directory')
      (Ledger.ofHistory plan history) (Ledger.ofHistory plan history')) :
    let run := ((plan.build : Dispatcher ω).performAll history).run directory
    let run' := ((plan.build : Dispatcher ω).performAll history').run directory'
    run.1 = run'.1 ∧
      ∃ called : List (Slot × List Json), (called.map (·.1)).Nodup ∧
        (Ledger.ofHistory plan history).Shows run.2.1.calls called ∧
        (Ledger.ofHistory plan history').Shows run'.2.1.calls called := by
  intro run run'
  have hrep : Represents plan ((plan.build : Dispatcher ω).performAll history)
      (.ofHistory plan history) := (Represents.build plan).performAll history
  have hrep' : Represents plan ((plan.build : Dispatcher ω).performAll history')
      (.ofHistory plan history') := (Represents.build plan).performAll history'
  obtain ⟨hanswer, -, hshows⟩ := hrep.run_taken directory
  obtain ⟨hanswer', -, hshows'⟩ := hrep'.run_taken directory'
  rw [hrep.invoker] at hanswer hshows
  rw [hrep'.invoker] at hanswer' hshows'
  have hpolicy : (plan.invoker directory).policy = (plan.invoker directory').policy := rfl
  rw [h.failure?_eq hpolicy, h.report_eq hpolicy] at hanswer
  rw [h.called_eq hpolicy] at hshows
  exact ⟨hanswer.trans hanswer'.symm, _, Ledger.called_nodup _ _, hshows, hshows'⟩

/-- A handler that asks for this outcome, and fails without arguments. -/
def Handler.needing (outcome : Outcome) : Handler Unit := fun call =>
  ⟨if call.pending.isEmpty then .error (.failed "nothing to do") else .ok outcome, call, []⟩

theorem Handler.needing_failsLike (o o' : Outcome) : FailsLike (needing o) (needing o') := by
  intro call
  unfold needing
  cases call.pending.isEmpty <;> rfl

/-- The directory that has this handler under a name. -/
def noting (outcome : Outcome) : Directory Unit :=
  Directory.empty.register "Audit.note" (.needing outcome)

/-- Hooks, an event that goes on, and a hook that fails. All hooks ask for the same. -/
def asking (outcome : Outcome) : List (Dispatcher.Operation Unit) :=
  [.before (.symbol "Audit.note") none [.null],
    .before (.handler "gate" (.needing outcome)) (some 1) [.null],
    .on ⟨[.always]⟩ (.handler "event" (.constant .proceed)) none [],
    .fallback ["message"] (.symbol "Audit.lost"),
    .after (.handler "end" (.needing outcome)) none []]

/-- Hooks that stop instead of going on change nothing. -/
theorem asking_alike :
    let plan : DispatcherPlan := { resolves := true }
    let run (o : Outcome) :=
      ((plan.build : Dispatcher Unit).performAll (asking o)).run (noting o)
    (run .proceed).1 = .error (.handler "end" (.failed "nothing to do")) ∧
      (run .stop).1 = (run .proceed).1 ∧
      (run .stop).2.1.calls.map (·.callback.label) = ["gate", "Audit.note", "event", "end"] ∧
      ∃ called : List (Slot × List Json), (called.map (·.1)).Nodup ∧
        (Ledger.ofHistory plan (asking .proceed)).Shows (run .proceed).2.1.calls called ∧
        (Ledger.ofHistory plan (asking .stop)).Shows (run .stop).2.1.calls called := by
  intro plan run
  have hneeding := Handler.needing_failsLike .proceed .stop
  have halike : Ledger.Alike (plan.invoker (noting .proceed)) (plan.invoker (noting .stop))
      (Ledger.ofHistory plan (asking .proceed)) (Ledger.ofHistory plan (asking .stop)) := {
    payload := rfl
    events := .cons ⟨rfl, rfl, rfl, .found rfl rfl rfl fun _ => rfl⟩ .nil
    before := .cons ⟨rfl, rfl, .found rfl rfl rfl hneeding⟩
      (.cons ⟨rfl, rfl, .found rfl rfl rfl hneeding⟩ .nil)
    after := .cons ⟨rfl, rfl, .found rfl rfl rfl hneeding⟩ .nil
    fallbacks := .cons ⟨rfl, .lost rfl rfl rfl⟩ .nil }
  obtain ⟨hanswer, hcalled⟩ := only_events_stop plan (asking .proceed) (asking .stop)
    (noting .proceed) (noting .stop) halike
  exact ⟨rfl, hanswer.symm, rfl, hcalled⟩

end Switchboard
