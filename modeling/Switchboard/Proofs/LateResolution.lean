import Mathlib.Logic.Function.Basic
import Switchboard.Exchange
import Switchboard.Proofs.Turns

/-!
# Symbols are resolved when they are run

An exchange makes dispatchers, and all of them look their symbols up in its directory, which may
change at any time. A symbol leads to what its name has at the moment of the run:

    perform_comm              a change of the directory and what is done with a dispatcher, short of
                              a run, may change places
    Rearranged h h'           the same changes and runs in the same order, and in each dispatcher
                              the same steps in the same order
    symbols_resolve_at_run    then all runs show the same

So it does not matter whether a name got its handler before the dispatcher was there, before the
symbol was registered with it, or after both.
-/

namespace Switchboard

variable {κ ω : Type}

/-! ## Sessions -/

namespace Directory

/-- What can be done with a directory. -/
inductive Change (ω : Type) where
  | register (name : String) (handler : Handler ω)
  | declare (name : String)
  | remove (name : String)

def change (d : Directory ω) : Change ω → Directory ω
  | .register name handler => d.register name handler
  | .declare name => d.declare name
  | .remove name => (d.remove name).2

end Directory

/-- An exchange and the dispatchers it has made, each under a key. -/
structure Session (κ ω : Type) where
  exchange : Exchange ω
  dispatchers : κ → Option (Dispatcher ω) := fun _ => none

namespace Session

open Dispatcher (Operation Observation)

/-- One step with an exchange or with one of its dispatchers. -/
inductive Step (κ ω : Type) where
  /-- Changes the directory, which all dispatchers share. -/
  | change (c : Directory.Change ω)
  /-- Makes a new dispatcher. -/
  | create (key : κ)
  /-- Anything but a run: payloads, registrations and resets. -/
  | prepare (key : κ) (op : Operation ω) (noRun : op.isRun = false)
  | run (key : κ)

namespace Step

/-- The dispatcher that a step is done with. -/
def key? : Step κ ω → Option κ
  | change _ => none
  | create key | prepare key _ _ | run key => some key

/-- Whether a step changes the directory or looks something up in it. -/
def isShared : Step κ ω → Bool
  | change _ | run _ => true
  | create _ | prepare _ _ _ => false

def change? : Step κ ω → Option (Directory.Change ω)
  | change c => some c
  | create _ | prepare _ _ _ | run _ => none

/-- Neither do both steps share the directory, nor are both done with the same dispatcher. -/
structure Independent (a b : Step κ ω) : Prop where
  shared : ¬ (a.isShared = true ∧ b.isShared = true)
  key : ∀ key, ¬ (a.key? = some key ∧ b.key? = some key)

theorem Independent.symm {a b : Step κ ω} (h : a.Independent b) : b.Independent a :=
  ⟨fun hab => h.shared hab.symm, fun key hab => h.key key hab.symm⟩

theorem exists_key {a : Step κ ω} (h : a.isShared = false) : ∃ key, a.key? = some key := by
  cases a with
  | create key | prepare key => exact ⟨key, rfl⟩
  | change | run => cases h

end Step

/-- What stands behind none of its kind can be left out on both sides, for any kind. -/
theorem filter_eq_of_cons {α : Type} {p : α → Bool} {a : α} {as earlier later : List α}
    (hp : p a = true → ∀ b ∈ earlier, p b = false)
    (h : (a :: as).filter p = (earlier ++ a :: later).filter p) :
    as.filter p = (earlier ++ later).filter p := by
  rw [List.filter_append] at h ⊢
  by_cases ha : p a = true
  · have hnone : earlier.filter p = [] :=
      List.filter_eq_nil_iff.2 fun b hb => by simp [hp ha b hb]
    rw [hnone, List.filter_cons_of_pos ha, List.filter_cons_of_pos ha] at h
    rw [hnone]
    exact (List.cons.inj h).2
  · rwa [List.filter_cons_of_neg ha, List.filter_cons_of_neg ha] at h

variable [DecidableEq κ] [Regex.Capacity]

/-- Does something with one of the dispatchers. -/
def alter (s : Session κ ω) (key : κ) (f : Option (Dispatcher ω) → Option (Dispatcher ω)) :
    Session κ ω :=
  { s with dispatchers := Function.update s.dispatchers key (f (s.dispatchers key)) }

/-- What runs show, and the session after a step. A dispatcher that is not there does nothing. -/
def perform (s : Session κ ω) : Step κ ω → List (κ × Observation ω) × Session κ ω
  | .change c =>
    ([], { s with exchange := { s.exchange with directory := s.exchange.directory.change c } })
  | .create key => ([], s.alter key fun _ => some s.exchange.dispatcher)
  | .prepare key op _ => ([], s.alter key (·.map fun d => (d.perform op).2))
  | .run key =>
    let op := Operation.run s.exchange.directory
    ((s.dispatchers key).toList.map fun d => (key, (d.perform op).1),
      s.alter key (·.map fun d => (d.perform op).2))

/-- The session after some steps. -/
def after (s : Session κ ω) (history : List (Step κ ω)) : Session κ ω :=
  history.foldl (fun s a => (s.perform a).2) s

/-- What the runs among some steps show, one after the other. -/
def observe (s : Session κ ω) : List (Step κ ω) → List (κ × Observation ω)
  | [] => []
  | a :: as => (s.perform a).1 ++ (s.perform a).2.observe as

/-- The same changes and runs in the same order, and with each dispatcher the same steps in the
same order. Everything else may have changed places. -/
structure Rearranged (history history' : List (Step κ ω)) : Prop where
  shared : history.filter Step.isShared = history'.filter Step.isShared
  own : ∀ key, history.filter (fun a => a.key? = some key) =
    history'.filter (fun a => a.key? = some key)

/-! ## Independent steps -/

section Steps
variable (s : Session κ ω) {a b : Step κ ω}

omit [Regex.Capacity] in
@[simp] theorem dispatchers_alter_self (key : κ)
    (f : Option (Dispatcher ω) → Option (Dispatcher ω)) :
    (s.alter key f).dispatchers key = f (s.dispatchers key) :=
  Function.update_self key _ _

omit [Regex.Capacity] in
@[simp] theorem dispatchers_alter_of_ne {key key' : κ} (h : key' ≠ key)
    (f : Option (Dispatcher ω) → Option (Dispatcher ω)) :
    (s.alter key f).dispatchers key' = s.dispatchers key' :=
  Function.update_of_ne h _ _

omit [Regex.Capacity] in
theorem alter_comm {key key' : κ} (h : key ≠ key')
    (f g : Option (Dispatcher ω) → Option (Dispatcher ω)) :
    (s.alter key f).alter key' g = (s.alter key' g).alter key f := by
  simp only [alter, Function.update_of_ne h, Function.update_of_ne h.symm,
    Function.update_comm h.symm]

/-- What is done with one dispatcher is seen by no step with another one, and by no change. -/
theorem perform_alter {key : κ} (h : b.key? ≠ some key)
    (f : Option (Dispatcher ω) → Option (Dispatcher ω)) :
    (s.alter key f).perform b = ((s.perform b).1, (s.perform b).2.alter key f) := by
  cases b with
  | change c => rfl
  | create key' =>
    have hne : key ≠ key' := fun he => h (congrArg some he.symm)
    exact congrArg (Prod.mk []) (s.alter_comm hne _ _)
  | prepare key' op noRun =>
    have hne : key ≠ key' := fun he => h (congrArg some he.symm)
    exact congrArg (Prod.mk []) (s.alter_comm hne _ _)
  | run key' =>
    have hne : key ≠ key' := fun he => h (congrArg some he.symm)
    show (_, _) = (_, _)
    rw [s.dispatchers_alter_of_ne hne.symm]
    exact congrArg (Prod.mk _) (s.alter_comm hne _ _)

theorem settings_perform (b : Step κ ω) :
    (s.perform b).2.exchange.settings = s.exchange.settings := by
  cases b <;> rfl

/-- A step without the directory does something with its dispatcher, whatever there is besides. -/
theorem exists_alter (settings : Settings) (h : a.isShared = false) :
    ∃ key f, a.key? = some key ∧
      ∀ s : Session κ ω, s.exchange.settings = settings → s.perform a = ([], s.alter key f) := by
  cases a with
  | change c => cases h
  | create key =>
    refine ⟨key, fun _ => some settings.plan.build, rfl, fun s hs => ?_⟩
    rw [perform, Exchange.dispatcher, hs]
  | prepare key op noRun => exact ⟨key, _, rfl, fun s _ => rfl⟩
  | run key => cases h

/-- What a step without the directory does can as well be done behind an independent step. -/
theorem perform_comm_of_private (ha : a.isShared = false) (h : a.Independent b) :
    (s.perform a).1 ++ ((s.perform a).2.perform b).1 =
        (s.perform b).1 ++ ((s.perform b).2.perform a).1 ∧
      ((s.perform a).2.perform b).2 = ((s.perform b).2.perform a).2 := by
  obtain ⟨key, f, hkey, hf⟩ := exists_alter s.exchange.settings ha
  have hb : b.key? ≠ some key := fun hb => h.key key ⟨hkey, hb⟩
  rw [hf s rfl, hf _ (s.settings_perform b), s.perform_alter hb f]
  exact ⟨(List.append_nil _).symm, rfl⟩

/-- Independent steps may change places. -/
theorem perform_comm (h : a.Independent b) :
    (s.perform a).1 ++ ((s.perform a).2.perform b).1 =
        (s.perform b).1 ++ ((s.perform b).2.perform a).1 ∧
      ((s.perform a).2.perform b).2 = ((s.perform b).2.perform a).2 := by
  cases ha : a.isShared with
  | false => exact s.perform_comm_of_private ha h
  | true =>
    have hb : b.isShared = false := by
      rw [Bool.eq_false_iff]
      exact fun hb => h.shared ⟨ha, hb⟩
    obtain ⟨hshown, hs⟩ := s.perform_comm_of_private hb h.symm
    exact ⟨hshown.symm, hs.symm⟩

/-- A step may be done in front of steps that it is independent of. -/
theorem observe_moved {earlier : List (Step κ ω)} (h : ∀ b ∈ earlier, a.Independent b)
    (later : List (Step κ ω)) :
    s.observe (earlier ++ a :: later) = s.observe (a :: (earlier ++ later)) := by
  induction earlier generalizing s with
  | nil => rfl
  | cons b earlier ih =>
    obtain ⟨hb, hrest⟩ := List.forall_mem_cons.1 h
    obtain ⟨hshown, hs⟩ := s.perform_comm hb
    calc s.observe (b :: (earlier ++ a :: later))
        = (s.perform b).1 ++ (s.perform b).2.observe (a :: (earlier ++ later)) := by
          rw [observe, ih _ hrest]
      _ = (s.perform a).1 ++ ((s.perform a).2.perform b).1 ++
            ((s.perform a).2.perform b).2.observe (earlier ++ later) := by
          rw [observe, ← List.append_assoc, ← hshown, ← hs]
      _ = s.observe (a :: b :: (earlier ++ later)) := by
          rw [observe, observe, List.append_assoc]

end Steps

/-! ## Rearranged histories -/

section Rearranged
variable {a : Step κ ω} {history history' earlier later : List (Step κ ω)}

omit [Regex.Capacity] in
/-- The first step of a history stands in a rearranged one behind steps that it is independent
of. -/
theorem Rearranged.exists_front (h : Rearranged (a :: history) history') :
    ∃ earlier later, history' = earlier ++ a :: later ∧ ∀ b ∈ earlier, a.Independent b := by
  cases ha : a.isShared with
  | false =>
    obtain ⟨key, hkey⟩ := Step.exists_key ha
    have hown := (h.own key).symm
    rw [List.filter_cons_of_pos (by simp [hkey]), List.filter_eq_cons_iff] at hown
    obtain ⟨earlier, later, rfl, hnone, -⟩ := hown
    refine ⟨earlier, later, rfl, fun b hb => ⟨fun hab => ?_, fun key' hab => ?_⟩⟩
    · rw [ha] at hab
      cases hab.1
    · rw [hkey] at hab
      cases hab.1
      exact hnone b hb (by simp [hab.2])
  | true =>
    have hshared := h.shared.symm
    rw [List.filter_cons_of_pos ha, List.filter_eq_cons_iff] at hshared
    obtain ⟨earlier, later, rfl, hnone, -⟩ := hshared
    refine ⟨earlier, later, rfl, fun b hb => ⟨fun hab => hnone b hb hab.2, fun key hab => ?_⟩⟩
    -- the first step with its dispatcher is `a` itself, which does not stand so early
    have hown := (h.own key).symm
    rw [List.filter_cons_of_pos (by simp [hab.1]), List.filter_append] at hown
    cases hfilter : earlier.filter fun a => a.key? = some key with
    | nil =>
      have hne := List.filter_eq_nil_iff.1 hfilter b hb
      simp [hab.2] at hne
    | cons c cs =>
      rw [hfilter, List.cons_append] at hown
      have hc : c ∈ earlier := List.mem_of_mem_filter (hfilter ▸ List.mem_cons_self)
      rw [(List.cons.inj hown).1] at hc
      exact hnone a hc ha

omit [Regex.Capacity] in
theorem Rearranged.eq_nil (h : Rearranged [] history') : history' = [] := by
  rw [List.eq_nil_iff_forall_not_mem]
  intro a ha
  have hshared := List.filter_eq_nil_iff.1 h.shared.symm a ha
  obtain ⟨key, hkey⟩ := Step.exists_key (Bool.eq_false_iff.2 hshared)
  have hown := List.filter_eq_nil_iff.1 (h.own key).symm a ha
  simp [hkey] at hown

/-- Rearranged histories show the same. -/
theorem Rearranged.observe_eq (s : Session κ ω) (h : Rearranged history history') :
    s.observe history = s.observe history' := by
  induction history generalizing s history' with
  | nil => rw [h.eq_nil]
  | cons a history ih =>
    obtain ⟨earlier, later, rfl, hindependent⟩ := h.exists_front
    have hrest : Rearranged history (earlier ++ later) := by
      refine ⟨filter_eq_of_cons (fun ha b hb => ?_) h.shared,
        fun key => filter_eq_of_cons (fun ha b hb => ?_) (h.own key)⟩
      · rw [Bool.eq_false_iff]
        exact fun hb' => (hindependent b hb).shared ⟨ha, hb'⟩
      · rw [decide_eq_false_iff_not]
        exact fun hb' => (hindependent b hb).key key ⟨of_decide_eq_true ha, hb'⟩
    rw [s.observe_moved hindependent, observe, ih _ hrest, observe]

end Rearranged

/-! ## Runs -/

/-- Every dispatcher represents what was done with it. -/
def Valid (s : Session κ ω) : Prop :=
  ∀ key d, s.dispatchers key = some d → ∃ l, Represents s.exchange.settings.plan d l

section Runs
variable {s : Session κ ω}

theorem Valid.alter (h : s.Valid) {key : κ}
    {f : Option (Dispatcher ω) → Option (Dispatcher ω)}
    (hf : ∀ d, f (s.dispatchers key) = some d → ∃ l, Represents s.exchange.settings.plan d l) :
    (s.alter key f).Valid := by
  intro key' d hd
  by_cases hkey : key' = key
  · subst hkey
    rw [dispatchers_alter_self] at hd
    exact hf d hd
  · rw [s.dispatchers_alter_of_ne hkey] at hd
    exact h key' d hd

theorem Valid.alter_perform (h : s.Valid) (key : κ) (op : Operation ω) :
    (s.alter key (·.map fun d => (d.perform op).2)).Valid := by
  refine h.alter fun d hd => ?_
  obtain ⟨d₀, hd₀, rfl⟩ := Option.map_eq_some_iff.1 hd
  obtain ⟨l, hl⟩ := h key d₀ hd₀
  exact ⟨_, hl.perform op⟩

theorem Valid.perform (h : s.Valid) (a : Step κ ω) : (s.perform a).2.Valid := by
  cases a with
  | change c => exact h
  | create key =>
    refine Valid.alter (f := fun _ => some s.exchange.dispatcher) h fun d hd => ?_
    cases hd
    exact ⟨_, Represents.build _⟩
  | prepare key op noRun => exact h.alter_perform key op
  | run key => exact h.alter_perform key _

theorem Valid.after (h : s.Valid) (history : List (Step κ ω)) : (s.after history).Valid := by
  induction history generalizing s with
  | nil => exact h
  | cons a history ih => exact ih (h.perform a)

theorem directory_perform (a : Step κ ω) :
    (s.perform a).2.exchange.directory =
      a.change?.toList.foldl Directory.change s.exchange.directory := by
  cases a <;> rfl

/-- The directory is as the changes have left it. -/
theorem directory_after (history : List (Step κ ω)) :
    (s.after history).exchange.directory =
      (history.filterMap Step.change?).foldl Directory.change s.exchange.directory := by
  induction history generalizing s with
  | nil => rfl
  | cons a history ih =>
    refine ih.trans ?_
    rw [directory_perform a, ← List.foldl_append, List.filterMap_cons]
    cases a <;> rfl

end Runs

end Session

/-- A run attempts each symbol with what its name leads to in the directory. -/
theorem Represents.reply_of_symbol [Regex.Capacity] {plan : DispatcherPlan} {d : Dispatcher ω}
    {l : Ledger ω}
    (h : Represents plan d l) (hresolves : plan.resolves = true) {directory : Directory ω}
    {a : Attempt ω} (ha : a ∈ (d.run directory).2.1.attempts) {name : String}
    (hname : a.callback = .symbol name) :
    a.reply = (directory.resolve name).map fun handler =>
      handler (.ofArguments d.payload a.arguments) := by
  rw [(h.run_turns directory).2] at ha
  obtain ⟨⟨slot, a'⟩, ht, rfl⟩ := List.mem_map.1 ((throughFirst_sublist _ _).subset ha)
  have hattempt := (Ledger.callback?_of_mem ht).2
  rw [Invoker.attempt, hname, Invoker.handler, Dispatcher.invoker, h.resolves, hresolves,
    if_pos rfl, ← h.payload] at hattempt
  exact congrArg Attempt.reply hattempt

/-- The session in which nothing has been made yet. -/
def Exchange.session (x : Exchange ω) : Session κ ω := { exchange := x }

open Session in
/-- **Symbols are resolved when they are run.** Whatever was done before, a run is a run in the
directory as the changes so far have left it, and each symbol that it attempts leads to what its
name has there. So if only the making of dispatchers and what is done with them short of a run move
to earlier or later places among the changes, all runs show the same. -/
theorem symbols_resolve_at_run [DecidableEq κ] [Regex.Capacity] (x : Exchange ω) :
    (∀ (history : List (Step κ ω)) (key : κ) (d : Dispatcher ω),
      (x.session.after history).dispatchers key = some d →
        let directory := (history.filterMap Step.change?).foldl Directory.change x.directory
        let attempts := (d.run directory).2.1.attempts
        ((x.session.after history).perform (.run key)).1 =
            [(key, .ran (d.run directory).1 attempts)] ∧
          ∀ a ∈ attempts, ∀ name, a.callback = .symbol name →
            a.reply = (directory.resolve name).map fun handler =>
              handler (.ofArguments d.payload a.arguments)) ∧
      ∀ history history' : List (Step κ ω), Rearranged history history' →
        x.session.observe history = x.session.observe history' := by
  refine ⟨?_, fun history history' h => h.observe_eq x.session⟩
  intro history key d hd directory attempts
  have hvalid : (x.session : Session κ ω).Valid := fun _ _ h => by cases h
  have hdirectory : (x.session.after history).exchange.directory = directory :=
    directory_after history
  obtain ⟨l, hl⟩ := hvalid.after history key d hd
  refine ⟨?_, fun a ha name hname => hl.reply_of_symbol rfl ha hname⟩
  rw [perform, hd, hdirectory]
  rfl

section Greeter
open Session

/-- The exchange of the default settings, in which no name has a handler yet. -/
def freshExchange : Exchange Unit := { settings := {} }

/-- Gives the name of the greeter a handler that stops. -/
def greeterComes : Step Nat Unit := .change (.register "Greeter.hello" (.constant .stop))

/-- Registers the name of the greeter with the dispatcher. -/
def greeterCalled : Step Nat Unit :=
  .prepare 0 (.on ⟨[.always]⟩ (.symbol "Greeter.hello") none []) rfl

/-- The greeter comes once its name is registered, and leaves after the first run. -/
def greeterLast : List (Step Nat Unit) :=
  [.create 0, greeterCalled, greeterComes, .run 0, .change (.remove "Greeter.hello"), .run 0]

/-- The greeter is there before the dispatcher is. -/
def greeterFirst : List (Step Nat Unit) :=
  [greeterComes, .create 0, greeterCalled, .run 0, .change (.remove "Greeter.hello"), .run 0]

/-- How many events the runs among some steps have called. -/
def invokedBy [Regex.Capacity] (history : List (Step Nat Unit)) : List (Option Nat) :=
  (freshExchange.session.observe history).map fun o =>
    match o.2 with
    | .ran (.ok report) _ => some report.invoked
    | _ => none

theorem greeter_found_at_run :
    Rearranged greeterLast greeterFirst ∧
      freshExchange.session.observe greeterLast = freshExchange.session.observe greeterFirst ∧
      invokedBy greeterLast = [some 1, some 0] ∧
      ((freshExchange.session.after (greeterLast.take 3)).dispatchers 0).isSome := by
  have h : Rearranged greeterLast greeterFirst := by
    refine ⟨rfl, fun key => ?_⟩
    by_cases hkey : 0 = key <;>
      simp [greeterLast, greeterFirst, greeterComes, greeterCalled, Step.key?, hkey]
  exact ⟨h, (symbols_resolve_at_run freshExchange).2 _ _ h, rfl, rfl⟩

end Greeter

end Switchboard
