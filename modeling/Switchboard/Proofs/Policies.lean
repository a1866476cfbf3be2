import Switchboard.Proofs.Failure

/-!
# Policies for symbols that lead nowhere

The turns of a run do not depend on the policy, only where it ends does. Two policies that skip
cannot be told apart; under the strict policy a run is cut off at the first symbol that leads to no
handler:

    through strict turns = the attempts of a lenient run, up to the first that is no call

A symbol that is skipped is worth a handler that goes on: the other turns stay, and what is reported
as caught or cancelled stays too (`policies_differ_in_skips`).
-/

namespace Switchboard

variable {ω : Type}

/-! ## Plans that differ in their policy -/

/-- The same plan under another policy. -/
def DispatcherPlan.under (plan : DispatcherPlan) (policy : ResolvePolicy) : DispatcherPlan :=
  { plan with policy }

/-- How the dispatchers of a plan attempt callbacks. -/
def DispatcherPlan.invoker (plan : DispatcherPlan) (directory : Directory ω) : Invoker ω :=
  ⟨if plan.resolves then some directory else none, plan.policy⟩

theorem Represents.invoker [Regex.Capacity] {plan : DispatcherPlan} {d : Dispatcher ω}
    {l : Ledger ω}
    (h : Represents plan d l) (directory : Directory ω) :
    d.invoker directory = plan.invoker directory := by
  rw [Dispatcher.invoker, h.resolves, h.policy, DispatcherPlan.invoker]

/-- What is registered does not depend on the policy. -/
theorem Ledger.ofHistory_under [Regex.Capacity] (plan : DispatcherPlan) (policy : ResolvePolicy)
    (history : List (Dispatcher.Operation ω)) :
    ofHistory (plan.under policy) history = ofHistory plan history := by
  unfold ofHistory
  congr 1
  funext l op
  cases op with
  | setPayload p => cases p <;> rfl
  | _ => rfl

/-! ## The same turns -/

namespace Invoker

/-- Invokers that find the same handlers. -/
def Alike (i j : Invoker ω) : Prop := ∀ c, i.handler c = j.handler c

theorem alike_under (plan : DispatcherPlan) (policy : ResolvePolicy) (directory : Directory ω) :
    Alike ((plan.under policy).invoker directory) (plan.invoker directory) := by
  intro c
  cases c <;> rfl

variable {i j : Invoker ω}

theorem Alike.attempt (h : Alike i j) : i.attempt = j.attempt := by
  funext payload c arguments
  rw [Invoker.attempt, h c, Invoker.attempt]

theorem Alike.turns [Regex.Capacity] (h : Alike i j) (l : Ledger ω) : l.turns i = l.turns j := by
  unfold Ledger.turns Turn.hooks Turn.events Turn.matching Turn.fallback hookAttempt eventAttempt?
  rw [h.attempt]

theorem Alike.report [Regex.Capacity] (h : Alike i j) (l : Ledger ω) : l.report i = l.report j := by
  unfold Ledger.report
  rw [h.turns]

/-- A handler that was called fails under every policy or under none. -/
theorem failure?_of_isCall {a : Attempt ω} (h : a.isCall) : i.failure? a = j.failure? a := by
  unfold Attempt.isCall at h
  unfold failure?
  split
  · next e hr =>
    rw [hr] at h
    cases h
  · rfl

theorem failure?_of_unresolved {a : Attempt ω} {cause : ResolveError}
    (h : a.reply = .error cause) :
    i.failure? a = if i.policy = .strict then some (.unresolved cause) else none := by
  unfold failure?
  rw [h]

/-- Policies that skip agree on what fails. -/
theorem failure?_of_lenient (hi : i.policy ≠ .strict) (hj : j.policy ≠ .strict) (a : Attempt ω) :
    i.failure? a = j.failure? a := by
  cases hr : a.reply with
  | ok reply => exact failure?_of_isCall (by unfold Attempt.isCall; rw [hr]; rfl)
  | error cause =>
    rw [failure?_of_unresolved hr, failure?_of_unresolved hr, if_neg hi, if_neg hj]

theorem reply_of_unresolved {payload : Payload} {c : Callback ω} {cause : ResolveError}
    (h : i.handler c = .error cause) (arguments : List Json) :
    (i.attempt payload c arguments).reply = .error cause := by
  unfold Invoker.attempt
  rw [h]
  rfl

theorem handler_of_unresolved {payload : Payload} {c : Callback ω} {arguments : List Json}
    {cause : ResolveError} (h : (i.attempt payload c arguments).reply = .error cause) :
    i.handler c = .error cause := by
  unfold attempt at h
  cases hc : i.handler c with
  | ok handler =>
    rw [hc] at h
    cases h
  | error e =>
    rw [hc] at h
    cases h
    rfl

end Invoker

theorem Attempt.stops_of_unresolved {a : Attempt ω} {cause : ResolveError}
    (h : a.reply = .error cause) : a.stops = false := by
  unfold stops outcome?
  rw [h]
  rfl

theorem Attempt.call?_of_unresolved {a : Attempt ω} {cause : ResolveError}
    (h : a.reply = .error cause) : a.call? = none := by
  unfold call?
  rw [h]
  rfl

/-- Only symbols are attempted in vain. -/
theorem Ledger.symbol_of_unresolved [Regex.Capacity] {l : Ledger ω} {i : Invoker ω} {slot : Slot}
    {a : Attempt ω}
    {cause : ResolveError} (h : (slot, a) ∈ l.turns i) (ha : a.reply = .error cause) :
    a.callback = .symbol cause.name := by
  obtain ⟨-, hself⟩ := callback?_of_mem h
  rw [hself] at ha
  exact Invoker.symbol_of_handler (Invoker.handler_of_unresolved ha)

namespace Course

variable {i j : Invoker ω}

/-- A course is the same for invokers that agree on what it attempts. -/
theorem through_congr {as : List (Attempt ω)}
    (h : ∀ a ∈ (through i as).attempts, i.failure? a = j.failure? a) :
    through i as = through j as := by
  induction as with
  | nil => rfl
  | cons a as ih =>
    rw [through_cons, ofAttempt] at h
    rw [through_cons, through_cons, ofAttempt, ofAttempt]
    cases hf : i.failure? a with
    | some e =>
      rw [hf] at h
      rw [← h a (by simp [andThen]), hf]
      rfl
    | none =>
      rw [hf] at h
      rw [← h a (by simp [andThen]), hf, ih fun b hb => h b (by simp [andThen, hb])]

/-- What is attempted before something else has not failed. -/
theorem exists_rest {as : List (Attempt ω)} {earlier later : List (Attempt ω)} {a : Attempt ω}
    (h : (through i as).attempts = earlier ++ a :: later) :
    ∃ rest, as = earlier ++ a :: rest ∧ ∀ b ∈ earlier, i.failure? b = none := by
  rcases through_cases i as with ⟨hall, hthrough⟩ | ⟨before, b, after, e, rfl, hbefore, -, hthrough⟩
  · rw [hthrough] at h
    subst h
    exact ⟨later, rfl, fun b hb => hall b (by simp [hb])⟩
  · rw [hthrough] at h
    rcases List.append_eq_append_iff.1 h with ⟨more, rfl, hmore⟩ | ⟨more, rfl, hmore⟩
    · cases more with
      | nil =>
        cases hmore
        exact ⟨after, by simp, by simpa using hbefore⟩
      | cons c more => simp at hmore
    · cases more with
      | nil =>
        cases hmore
        exact ⟨after, by simp, fun c hc => hbefore c (by simp [hc])⟩
      | cons c more =>
        cases hmore
        exact ⟨more ++ b :: after, by simp, fun c hc => hbefore c (by simp [hc])⟩

/-- Attempts up to one that fails. -/
theorem through_failure {earlier : List (Attempt ω)} {a : Attempt ω} {e : DispatchError}
    (h : ∀ b ∈ earlier, i.failure? b = none) (ha : i.failure? a = some e)
    (later : List (Attempt ω)) :
    through i (earlier ++ a :: later) = ⟨earlier ++ [a], some e⟩ := by
  rw [through_append, through_of_forall h, through_cons, ofAttempt, ha]
  rfl

theorem answer_map_congr {α β : Type} {f : α → β} {a b : α} {c d : Course ω}
    (h : c.failure? = d.failure?) (hf : f a = f b) : (c.answer a).map f = (d.answer b).map f := by
  unfold answer
  rw [h]
  cases d.failure? with
  | none => exact congrArg Except.ok hf
  | some e => rfl

end Course

/-! ## A handler in the place of a symbol -/

namespace Ledger

variable {i : Invoker ω} {l : Ledger ω} {slot : Slot} {c c' : Callback ω} {cause : ResolveError}

theorem payload_withCallback (l : Ledger ω) (c : Callback ω) (slot : Slot) :
    (l.withCallback c slot).payload = l.payload := by
  cases slot <;> rfl

theorem someMatch_withCallback [Regex.Capacity] (l : Ledger ω) (c : Callback ω) (slot : Slot) :
    someMatch l.payload (l.withCallback c slot).events = someMatch l.payload l.events := by
  cases slot with
  | event k => exact Turn.someMatch_modify k l.events
  | _ => rfl

/-- Another callback in a slot either has no turn, or it has the turn of the one before. -/
theorem turns_withCallback_cases [Regex.Capacity] (hslot : l.callback? slot = some c)
    (hstops : ∀ arguments, (i.attempt l.payload c' arguments).stops =
      (i.attempt l.payload c arguments).stops) :
    (l.withCallback c' slot).turns i = l.turns i ∨
      ∃ earlier arguments later,
        l.turns i = earlier ++ (slot, i.attempt l.payload c arguments) :: later ∧
          (l.withCallback c' slot).turns i =
            earlier ++ (slot, i.attempt l.payload c' arguments) :: later := by
  by_cases h : ∃ a, (slot, a) ∈ l.turns i
  · obtain ⟨a, ha⟩ := h
    obtain ⟨hc, hself⟩ := callback?_of_mem ha
    rw [hslot, Option.some.injEq] at hc
    subst hc
    obtain ⟨earlier, later, hturns⟩ := List.append_of_mem ha
    have hsame := (hstops a.arguments).trans (congrArg Attempt.stops hself.symm)
    refine .inr ⟨earlier, a.arguments, later, ?_, turns_withCallback_of_split hturns hsame⟩
    rw [← hself]
    exact hturns
  · left
    rw [turns_withCallback fun a ha => absurd ⟨a, ha⟩ h]
    refine Turn.map_withCallback_of_ne fun t ht he => h ⟨t.2, ?_⟩
    rw [← he]
    exact ht

/-- What is caught and cancelled does not depend on callbacks that do not stop. -/
theorem report_withCallback [Regex.Capacity] (hslot : l.callback? slot = some c)
    (hstops : ∀ arguments, (i.attempt l.payload c' arguments).stops =
      (i.attempt l.payload c arguments).stops) :
    ((l.withCallback c' slot).report i).caught = (l.report i).caught ∧
      ((l.withCallback c' slot).report i).cancelled = (l.report i).cancelled := by
  unfold report
  dsimp only
  rw [payload_withCallback, someMatch_withCallback]
  refine ⟨rfl, ?_⟩
  rcases turns_withCallback_cases hslot hstops with h | ⟨earlier, arguments, later, h, h'⟩
  · rw [h]
  · rw [h, h', List.any_append, List.any_append, List.any_cons, List.any_cons, hstops]

end Ledger

/-- Around a symbol that is skipped a run takes the same course as around a handler that goes on. -/
theorem Course.through_withCallback [Regex.Capacity] {i : Invoker ω} {l : Ledger ω} {slot : Slot}
    {c c' : Callback ω} (hslot : l.callback? slot = some c)
    (hc : ∀ arguments, (i.attempt l.payload c arguments).stops = false ∧
      i.failure? (i.attempt l.payload c arguments) = none)
    (hc' : ∀ arguments, (i.attempt l.payload c' arguments).stops = false ∧
      i.failure? (i.attempt l.payload c' arguments) = none) :
    let course := through i ((l.turns i).map (·.2))
    let course' := through i (((l.withCallback c' slot).turns i).map (·.2))
    course'.failure? = course.failure? ∧
      (course'.attempts = course.attempts ∨
        ∃ arguments earlier later,
          course.attempts = earlier ++ i.attempt l.payload c arguments :: later ∧
            course'.attempts = earlier ++ i.attempt l.payload c' arguments :: later) := by
  intro course course'
  rcases Ledger.turns_withCallback_cases hslot
    (fun arguments => (hc' arguments).1.trans (hc arguments).1.symm) with
    h | ⟨before, arguments, after, h, h'⟩
  · have hsame : course' = course := by
      show through i _ = _
      rw [h]
    rw [hsame]
    exact ⟨rfl, .inl rfl⟩
  · have hcourse : course = through i
        (before.map (·.2) ++ i.attempt l.payload c arguments :: after.map (·.2)) := by
      show through i _ = _
      rw [h, List.map_append, List.map_cons]
    have hcourse' : course' = through i
        (before.map (·.2) ++ i.attempt l.payload c' arguments :: after.map (·.2)) := by
      show through i _ = _
      rw [h', List.map_append, List.map_cons]
    rcases through_cases i (before.map (·.2)) with
      ⟨hbefore, -⟩ | ⟨earlier, a, later, e, hsplit, hearlier, ha, -⟩
    · rw [through_past hbefore (hc arguments).2] at hcourse
      rw [through_past hbefore (hc' arguments).2] at hcourse'
      rw [hcourse, hcourse']
      exact ⟨rfl, .inr ⟨arguments, _, _, rfl, rfl⟩⟩
    · rw [hsplit, List.append_assoc, List.cons_append, through_failure hearlier ha] at hcourse
      rw [hsplit, List.append_assoc, List.cons_append, through_failure hearlier ha] at hcourse'
      rw [hcourse, hcourse']
      exact ⟨rfl, .inl rfl⟩

/-! ## Runs under different policies -/

/-- A run under a plan. -/
theorem Represents.run_plan [Regex.Capacity] {plan : DispatcherPlan} {d : Dispatcher ω}
    {l : Ledger ω}
    (h : Represents plan d l) (directory : Directory ω) :
    let i := plan.invoker directory
    let c := Course.through i ((l.turns i).map (·.2))
    (d.run directory).1 = c.answer (l.report i) ∧ (d.run directory).2.1.attempts = c.attempts := by
  rw [← h.invoker directory]
  exact h.run_turns directory

/-- A run under another policy, told by the turns under that of the plan. -/
theorem Represents.run_under [Regex.Capacity] {plan : DispatcherPlan} {policy : ResolvePolicy}
    {d : Dispatcher ω}
    {l : Ledger ω} (h : Represents (plan.under policy) d l) (directory : Directory ω) :
    let i := plan.invoker directory
    let c := Course.through ((plan.under policy).invoker directory) ((l.turns i).map (·.2))
    (d.run directory).1 = c.answer (l.report i) ∧ (d.run directory).2.1.attempts = c.attempts := by
  intro i c
  have halike := Invoker.alike_under plan policy directory
  obtain ⟨hanswer, hattempts⟩ := h.run_plan directory
  rw [halike.turns, halike.report] at hanswer
  rw [halike.turns] at hattempts
  exact ⟨hanswer, hattempts⟩

theorem Represents.performAll_under [Regex.Capacity] (plan : DispatcherPlan)
    (policy : ResolvePolicy)
    (history : List (Dispatcher.Operation ω)) :
    Represents (plan.under policy)
      (((plan.under policy).build : Dispatcher ω).performAll history)
      (Ledger.ofHistory plan history) := by
  rw [← Ledger.ofHistory_under plan policy]
  exact (Represents.build _).performAll history

/-- **Policies differ only in what they report.** Whatever was done with a dispatcher before: to
be silent or to warn makes no difference to a run. The strict policy makes none either if no symbol
that is attempted leads nowhere, and otherwise it ends the run at the first of them. And where
symbols are skipped, a handler that goes on in the place of one that leads nowhere changes nothing
around it. -/
theorem policies_differ_in_skips [Regex.Capacity] (plan : DispatcherPlan)
    (history : List (Dispatcher.Operation ω)) (directory : Directory ω) :
    let run (policy : ResolvePolicy) :=
      (((plan.under policy).build : Dispatcher ω).performAll history).run directory
    let l := Ledger.ofHistory plan history
    let i := plan.invoker directory
    ((run .silent).1 = (run .warn).1 ∧
      (run .silent).2.1.attempts = (run .warn).2.1.attempts) ∧
    ((∀ a ∈ (run .warn).2.1.attempts, a.isCall) →
      (run .strict).1 = (run .warn).1 ∧
        (run .strict).2.1.attempts = (run .warn).2.1.attempts) ∧
    (∀ earlier a later cause, (run .warn).2.1.attempts = earlier ++ a :: later →
      (∀ b ∈ earlier, b.isCall) → a.reply = .error cause →
      (run .strict).1 = .error (.unresolved cause) ∧ a.callback = .symbol cause.name ∧
        (run .strict).2.1.attempts = earlier ++ [a] ∧
        (run .strict).2.1.calls = earlier.filterMap Attempt.call?) ∧
    ∀ policy slot c cause label handler, policy ≠ .strict → l.callback? slot = some c →
      i.handler c = .error cause → (∀ call, (handler call).result = .ok .proceed) →
      let other := ((l.withCallback (.handler label handler) slot).dispatcher
        (plan.under policy)).run directory
      (other.1.map fun r => (r.caught, r.cancelled)) =
          ((run policy).1.map fun r => (r.caught, r.cancelled)) ∧
        (other.2.1.attempts = (run policy).2.1.attempts ∨
          ∃ arguments earlier later,
            (run policy).2.1.attempts = earlier ++ i.attempt l.payload c arguments :: later ∧
              other.2.1.attempts =
                earlier ++ i.attempt l.payload (.handler label handler) arguments :: later) := by
  intro run l i
  have hrep := fun policy => Represents.performAll_under plan policy history
  refine ⟨?_, fun hcalls => ?_, fun earlier a later cause hsplit hearlier ha => ?_, ?_⟩
  · obtain ⟨hsilent, hsilent'⟩ := (hrep .silent).run_under directory
    obtain ⟨hwarn, hwarn'⟩ := (hrep .warn).run_under directory
    have hcourse : Course.through ((plan.under .silent).invoker directory)
        ((l.turns i).map (·.2)) =
          Course.through ((plan.under .warn).invoker directory) ((l.turns i).map (·.2)) :=
      Course.through_congr fun a _ => Invoker.failure?_of_lenient ResolvePolicy.noConfusion
        ResolvePolicy.noConfusion a
    rw [hcourse] at hsilent hsilent'
    exact ⟨hsilent.trans hwarn.symm, hsilent'.trans hwarn'.symm⟩
  · obtain ⟨hwarn, hwarn'⟩ := (hrep .warn).run_under directory
    obtain ⟨hstrict, hstrict'⟩ := (hrep .strict).run_under directory
    rw [hwarn'] at hcalls
    have hcourse := Course.through_congr fun a ha =>
      Invoker.failure?_of_isCall (j := (plan.under .strict).invoker directory) (hcalls a ha)
    rw [← hcourse] at hstrict hstrict'
    exact ⟨hstrict.trans hwarn.symm, hstrict'.trans hwarn'.symm⟩
  · obtain ⟨-, hwarn'⟩ := (hrep .warn).run_under directory
    obtain ⟨hstrict, hstrict'⟩ := (hrep .strict).run_under directory
    rw [hwarn'] at hsplit
    obtain ⟨rest, hrest, hnone⟩ := Course.exists_rest hsplit
    obtain ⟨slot, before, after, hturns, -, -⟩ := Ledger.exists_split hrest
    have hmem : (slot, a) ∈ l.turns i := by
      rw [hturns]
      simp
    have hnone' : ∀ b ∈ earlier, ((plan.under .strict).invoker directory).failure? b = none :=
      fun b hb => (Invoker.failure?_of_isCall (hearlier b hb)).trans (hnone b hb)
    have hfailure : ((plan.under .strict).invoker directory).failure? a =
        some (.unresolved cause) := Invoker.failure?_of_unresolved ha
    rw [hrest, Course.through_failure hnone' hfailure] at hstrict hstrict'
    refine ⟨hstrict, Ledger.symbol_of_unresolved hmem ha, hstrict', ?_⟩
    rw [Progress.calls, hstrict', List.filterMap_append, List.filterMap_cons,
      Attempt.call?_of_unresolved ha]
    simp
  · intro policy slot c cause label handler hpolicy hslot hhandler hproceed other
    obtain ⟨hanswer, hattempts⟩ := (hrep policy).run_plan directory
    obtain ⟨hanswer', hattempts'⟩ := (Represents.dispatcher (plan.under policy)
      (l.withCallback (.handler label handler) slot)).run_plan directory
    have halike := Invoker.alike_under plan policy directory
    have hskipped : ∀ arguments, (((plan.under policy).invoker directory).attempt l.payload c
        arguments).reply = .error cause :=
      Invoker.reply_of_unresolved ((halike c).trans hhandler)
    have hgoes : ∀ arguments, (((plan.under policy).invoker directory).attempt l.payload
        (.handler label handler) arguments).outcome? = some .proceed :=
      fun _ => Invoker.outcome?_of_proceed _ label (hproceed _)
    obtain ⟨hfailure, hcourse⟩ := Course.through_withCallback hslot
      (fun arguments => ⟨Attempt.stops_of_unresolved (hskipped arguments),
        (Invoker.failure?_of_unresolved (hskipped arguments)).trans (if_neg hpolicy)⟩)
      fun arguments => ⟨Attempt.stops_of_proceed (hgoes arguments),
        Invoker.failure?_eq_none_of_outcome (hgoes arguments)⟩
    obtain ⟨hcaught, hcancelled⟩ := Ledger.report_withCallback hslot fun arguments =>
      (Attempt.stops_of_proceed (hgoes arguments)).trans
        (Attempt.stops_of_unresolved (hskipped arguments)).symm
    constructor
    · rw [show other.1 = _ from hanswer', show (run policy).1 = _ from hanswer]
      exact Course.answer_map_congr hfailure (Prod.ext hcaught hcancelled)
    · rw [show other.2.1.attempts = _ from hattempts',
        show (run policy).2.1.attempts = _ from hattempts, ← halike.attempt]
      exact hcourse

/-- A hook and three events, of which the second is a symbol that no directory holds. -/
def lostSymbol : List (Dispatcher.Operation Unit) :=
  [.before (.handler "hook" (.constant .proceed)) none [], registered "first" 10,
    .on ⟨[.always]⟩ (.symbol "lost") (some 20) [], registered "last" 30]

/-- Around a lost symbol: the policies that skip go on, the strict one stops before the last event,
and with a handler in the place of the symbol the report is the same. -/
theorem lostSymbol_policies :
    let run (policy : ResolvePolicy) (history : List (Dispatcher.Operation Unit)) :=
      (((({} : DispatcherPlan).under policy).build : Dispatcher Unit).performAll history).run .empty
    let l := Ledger.ofHistory {} lostSymbol
    let other := ((l.withCallback (.handler "found" (.constant .proceed)) (.event 1)).dispatcher
      (({} : DispatcherPlan).under .warn)).run .empty
    (run .warn lostSymbol).2.1.calls.map (·.callback.label) = ["hook", "first", "last"] ∧
      (run .silent lostSymbol).1 = (run .warn lostSymbol).1 ∧
      (run .strict [registered "first" 10]).1 = (run .warn [registered "first" 10]).1 ∧
      (run .strict lostSymbol).1 = .error (.unresolved (.noDirectory "lost")) ∧
      (run .strict lostSymbol).2.1.calls.map (·.callback.label) = ["hook", "first"] ∧
      (other.1.map fun r => (r.caught, r.cancelled)) =
        ((run .warn lostSymbol).1.map fun r => (r.caught, r.cancelled)) := by
  intro run l other
  obtain ⟨⟨hsilent, -⟩, -, hfirst, hother⟩ := policies_differ_in_skips {} lostSymbol .empty
  obtain ⟨-, hall, -⟩ := policies_differ_in_skips {} [registered "first" 10] .empty
  obtain ⟨hstrict, -, -, hcalls⟩ := hfirst [_, _] _ [_] (.noDirectory "lost") rfl
    (List.forall_mem_cons.2 ⟨rfl, List.forall_mem_cons.2 ⟨rfl, List.forall_mem_nil _⟩⟩) rfl
  obtain ⟨hreport, -⟩ := hother .warn (.event 1) (.symbol "lost") (.noDirectory "lost") "found"
    (.constant .proceed) ResolvePolicy.noConfusion rfl rfl fun _ => rfl
  refine ⟨rfl, hsilent, (hall ?_).1, hstrict, ?_, hreport⟩
  · intro a ha
    rw [List.mem_singleton.1 ha]
    rfl
  · rw [hcalls]
    rfl

end Switchboard
