import Mathlib.Data.List.Basic
import Switchboard.Bot.CommandLine
import Switchboard.Proofs.Front
import Switchboard.Proofs.Ledger

/-!
# Lines of the bot

One dispatcher lives through all the input of the bot, yet no line notices the lines before it. The
dispatcher differs from the one of the start in its payload and its cache only (`Ready`); a line
that can be read brings a payload of its own, and one that cannot is not dispatched.

    observe_operations     a line shows what it shows to the first dispatcher
    answers_eq             the lines, up to the first that fails if the bot is to stop there
    lines_independent      the program prints what it prints for each line alone
-/

namespace Switchboard

variable {ω : Type}

/-! ## What operations show -/

namespace Dispatcher

variable [Regex.Capacity]

/-- What the handlers called by a run emitted. -/
def Observation.emitted : Observation ω → List ω
  | .ran _ attempts => { attempts : Progress ω }.emitted
  | .done | .payload _ => []

/-- Whether an operation ended in an error. -/
def Observation.isFailure : Observation ω → Bool
  | .payload (.error _) | .ran (.error _) _ => true
  | .done | .payload (.ok _) | .ran (.ok _) _ => false

/-- The payloads that the runs among some operations dispatch. -/
def dispatched (d : Dispatcher ω) : List (Operation ω) → List Payload
  | [] => []
  | op :: ops => (if op.isRun then [d.payload] else []) ++ (d.perform op).2.dispatched ops

variable (d : Dispatcher ω) (ops more : List (Operation ω))

theorem observe_append :
    d.observe (ops ++ more) = d.observe ops ++ (d.performAll ops).observe more := by
  induction ops generalizing d with
  | nil => rfl
  | cons op ops ih =>
    rw [List.cons_append, observe, ih, observe, List.cons_append]
    rfl

theorem dispatched_append :
    d.dispatched (ops ++ more) = d.dispatched ops ++ (d.performAll ops).dispatched more := by
  induction ops generalizing d with
  | nil => rfl
  | cons op ops ih =>
    rw [List.cons_append, dispatched, ih, dispatched, List.append_assoc]
    rfl

end Dispatcher

namespace Bot

open Dispatcher (Operation Observation)

/-! ## Lines of a text -/

theorem newline_notMem_splitLine (cs : List Char) : '\n' ∉ (splitLine cs).1 := by
  fun_induction splitLine cs with
  | case1 => exact List.not_mem_nil
  | case2 => exact List.not_mem_nil
  | case3 => exact List.not_mem_nil
  | case4 c cs hnewline _ line rest hsplit ih =>
    rw [hsplit] at ih
    rw [List.mem_cons, not_or]
    exact ⟨fun hc => hnewline hc.symm, ih⟩

theorem splitLine_of_notMem {cs : List Char} (h : '\n' ∉ cs) : splitLine cs = (cs, []) := by
  fun_induction splitLine cs with
  | case1 => rfl
  | case2 => simp at h
  | case3 => simp at h
  | case4 c cs _ _ line rest hsplit ih =>
    have hcs := ih fun hc => h (List.mem_cons_of_mem _ hc)
    rw [hsplit, Prod.mk.injEq] at hcs
    rw [hcs.1, hcs.2]

theorem newline_notMem_of_mem_lines {cs : List Char} {line : String} (h : line ∈ lines cs) :
    '\n' ∉ line.toList := by
  fun_induction lines cs with
  | case1 => cases h
  | case2 c cs ih =>
    rcases List.mem_cons.1 h with rfl | h
    · rw [String.toList_ofList]
      exact newline_notMem_splitLine _
    · exact ih h

/-- A line is the one line of its own text, if it is not empty. -/
theorem lines_of_line {line : String} (h : '\n' ∉ line.toList) :
    lines line.toList = if line = "" then [] else [line] := by
  cases hline : line.toList with
  | nil => rw [if_pos (String.toList_eq_nil_iff.1 hline), lines]
  | cons c cs =>
    have hne : line ≠ "" := by
      rintro rfl
      cases hline
    rw [hline] at h
    rw [lines, splitLine_of_notMem h, lines, ← hline, String.ofList_toList, if_neg hne]

/-! ## What is done for a line -/

/-- The payload that a line brings, unless it is blank or cannot be read. -/
def payload? (line : String) : Option Payload :=
  if line.toList.all isBlank then none else (Payload.ofText line).toOption

/-- What is done with the dispatcher for a line. -/
def operations (directory : Directory String) (line : String) : List (Operation String) :=
  if line.toList.all isBlank then []
  else
    match Payload.ofText line with
    | .ok p => [.setPayload (.ok p), .run directory]
    | .error e => [.setPayload (.error e)]

section Line
variable [Regex.Capacity] (x : Exchange String) (d : Dispatcher String) (line : String)

/-- What a line prints. -/
def printedBy : List String :=
  (d.observe (operations x.directory line)).flatMap Observation.emitted

/-- Whether a line fails. -/
def fails : Bool := (d.observe (operations x.directory line)).any Observation.isFailure

theorem answer_eq (h : line.toList.all isBlank = false) :
    answer x d line =
      (!fails x d line, printedBy x d line, d.performAll (operations x.directory line)) := by
  unfold answer fails printedBy operations
  rw [h]
  cases Payload.ofText line with
  | error e => rfl
  | ok p =>
    have hrun : d.observe [.setPayload (.ok p), .run x.directory] =
        [.payload (.ok ()), .ran ({ d with payload := p }.run x.directory).1
          ({ d with payload := p }.run x.directory).2.1.attempts] := rfl
    simp only [Bool.false_eq_true, if_false, hrun]
    cases hresult : ({ d with payload := p }.run x.directory).1 <;>
      simp [Dispatcher.setPayload, hresult, Dispatcher.performAll, Dispatcher.perform,
        Observation.isFailure, Observation.emitted] <;>
      rfl

/-- A line without a payload is not dispatched, any other is dispatched once. -/
theorem dispatched_operations :
    d.dispatched (operations x.directory line) = (payload? line).toList := by
  unfold operations payload?
  cases line.toList.all isBlank with
  | true => rfl
  | false => cases Payload.ofText line <;> rfl

/-- The first line has its turn, then the others have theirs unless the bot stops. -/
theorem answers_cons (failFast : Bool) (number : Nat) (rest : List String) :
    answers x failFast number d (line :: rest) =
      if failFast && fails x d line then (printedBy x d line, some number)
      else
        let later :=
          answers x failFast (number + 1) (d.performAll (operations x.directory line)) rest
        (printedBy x d line ++ later.1, later.2) := by
  cases hblank : line.toList.all isBlank with
  | true =>
    have hops : operations x.directory line = [] := by rw [operations, if_pos hblank]
    rw [answers, if_pos hblank, fails, printedBy, hops]
    simp [Dispatcher.observe, Dispatcher.performAll]
  | false =>
    rw [answers, hblank, answer_eq x d line hblank]
    simp

end Line

/-! ## The dispatcher between lines -/

/-- A dispatcher that has the registrations of a ledger, and any payload. -/
def Ready [Regex.Capacity] (plan : DispatcherPlan) (l : Ledger String) (d : Dispatcher String) :
    Prop :=
  ∃ p, Represents plan d { l with payload := p }

theorem ready_of_represents [Regex.Capacity] {plan : DispatcherPlan} {d : Dispatcher String}
    {l : Ledger String}
    (h : Represents plan d l) : Ready plan l d :=
  ⟨l.payload, h⟩

/-- What the bot registers before the first line. -/
def registrations : List (Operation String) := [
  .on (textPattern "/start") (callback start) none [],
  .on (textPattern "/ban {user} {:time?}") (.symbol banName) (some 100) [],
  .on (textPattern "/echo {text}") (callback echo) none [],
  .fallback ["message"] (callback unknown)]

theorem dispatcher_ready [Regex.Capacity] (x : Exchange String) :
    Ready x.settings.plan (.ofHistory x.settings.plan registrations) (dispatcher x) :=
  ready_of_represents ((Represents.build x.settings.plan).performAll registrations)

section Ready
variable [Regex.Capacity] {plan : DispatcherPlan} {l : Ledger String} {d d' : Dispatcher String}

/-- What is done for a line leaves the registrations alone. -/
theorem Ready.performAll (h : Ready plan l d) (directory : Directory String) (line : String) :
    Ready plan l (d.performAll (operations directory line)) := by
  obtain ⟨p, hp⟩ := h
  unfold operations
  split
  · exact ⟨p, hp⟩
  · split
    · next q _ => exact ⟨q, hp.performAll _⟩
    · exact ⟨p, hp.performAll _⟩

/-- A line shows the same to all dispatchers that have the same registrations. -/
theorem Ready.observe_operations (h : Ready plan l d) (h' : Ready plan l d')
    (directory : Directory String) (line : String) :
    d.observe (operations directory line) = d'.observe (operations directory line) := by
  obtain ⟨p, hp⟩ := h
  obtain ⟨p', hp'⟩ := h'
  unfold operations
  split
  · rfl
  · split
    · next q _ =>
      have hrun := (hp.perform (.setPayload (.ok q))).observe_eq (hp'.perform (.setPayload (.ok q)))
        (Ledger.Agree.refl _) [.run directory]
      exact congrArg (.payload (.ok ()) :: ·) hrun
    · rfl

theorem Ready.observe_flatMap (h : Ready plan l d) (h' : Ready plan l d')
    (directory : Directory String) (served : List String) :
    d.observe (served.flatMap (operations directory)) =
      served.flatMap fun line => d'.observe (operations directory line) := by
  induction served generalizing d with
  | nil => rfl
  | cons line served ih =>
    rw [List.flatMap_cons, List.flatMap_cons, Dispatcher.observe_append,
      ih (h.performAll directory line), h.observe_operations h']

end Ready

/-- The runs for some lines dispatch the payloads of those lines, each once. -/
theorem dispatched_flatMap [Regex.Capacity] (d : Dispatcher String) (x : Exchange String)
    (served : List String) :
    d.dispatched (served.flatMap (operations x.directory)) = served.filterMap payload? := by
  induction served generalizing d with
  | nil => rfl
  | cons line served ih =>
    rw [List.flatMap_cons, Dispatcher.dispatched_append, ih, dispatched_operations]
    cases hp : payload? line with
    | none => rw [List.filterMap_cons_none hp]; rfl
    | some p => rw [List.filterMap_cons_some hp]; rfl

/-! ## All lines -/

section Lines
variable [Regex.Capacity] (x : Exchange String) (failFast : Bool)

/-- What a line prints at the start. -/
def shown (line : String) : List String := printedBy x (dispatcher x) line

/-- Whether the bot stops at a line if it stands at the start. -/
def stops (line : String) : Bool := failFast && fails x (dispatcher x) line

/-- The lines, up to the first at which the bot stops, each print what they print at the start. -/
theorem answers_eq {d : Dispatcher String} {l : Ledger String} (h : Ready x.settings.plan l d)
    (h' : Ready x.settings.plan l (dispatcher x)) (number : Nat) (ls : List String) :
    answers x failFast number d ls =
      ((throughFirst (stops x failFast) ls).flatMap (shown x),
        (ls.findIdx? (stops x failFast)).map (number + ·)) := by
  induction ls generalizing d number with
  | nil => rfl
  | cons line ls ih =>
    have hseen := h.observe_operations h' x.directory line
    have hstops : (failFast && fails x d line) = stops x failFast line :=
      congrArg (fun seen => failFast && List.any seen _) hseen
    have hshown : printedBy x d line = shown x line := congrArg (List.flatMap _) hseen
    rw [answers_cons, hstops, hshown, List.findIdx?_cons]
    split
    · next hstop =>
      rw [throughFirst_cons_of_pos ls hstop, List.flatMap_singleton]
      rfl
    · next hstop =>
      rw [throughFirst_cons_of_neg ls hstop, ih (h.performAll x.directory line), List.flatMap_cons,
        Option.map_map]
      simp [Function.comp_def, Nat.add_comm, Nat.add_left_comm]

theorem runOn_eq (text : String) :
    let ls := lines text.toList
    (runOn x failFast text).printed = (throughFirst (stops x failFast) ls).flatMap (shown x) ∧
      (runOn x failFast text).error? =
        (ls.findIdx? (stops x failFast)).map fun k => "Error: line " ++ toString (1 + k) := by
  intro ls
  have h := dispatcher_ready x
  unfold runOn
  rw [answers_eq x failFast h h 1 (lines text.toList)]
  cases hk : (lines text.toList).findIdx? (stops x failFast) <;> exact ⟨rfl, rfl⟩

/-- The bot on one line alone. -/
theorem runOn_line {line : String} (h : '\n' ∉ line.toList) :
    (runOn x failFast line).printed = shown x line ∧
      (runOn x failFast line).error?.isSome = stops x failFast line := by
  obtain ⟨hprinted, herror⟩ := runOn_eq x failFast line
  rw [hprinted, herror, lines_of_line h]
  split
  · next hempty =>
    -- an empty text has no line, and an empty line does nothing
    subst hempty
    exact ⟨rfl, (Bool.and_false failFast).symm⟩
  · by_cases hstop : stops x failFast line = true
    · simp [throughFirst, List.findIdx?_cons, hstop]
    · simp [throughFirst, List.findIdx?_cons, hstop]

omit [Regex.Capacity] in
/-- A line that is blank, is not JSON or is null has no payload. -/
theorem payload?_eq_none {line : String}
    (h : line.toList.all isBlank ∨ Json.read? line = none ∨ Json.read? line = some .null) :
    payload? line = none := by
  unfold payload? Payload.ofText
  rcases h with h | h | h
  · rw [if_pos h]
  · rw [h]
    split <;> rfl
  · rw [h]
    split <;> rfl

/-- A line without a payload prints nothing. -/
theorem shown_eq_nil {line : String} (h : payload? line = none) : shown x line = [] := by
  unfold payload? at h
  unfold shown printedBy operations
  split at h
  · next hblank => rw [if_pos hblank]; rfl
  · next hblank =>
    rw [if_neg hblank]
    cases hp : Payload.ofText line with
    | error e => rfl
    | ok p =>
      rw [hp] at h
      cases h

end Lines

/-! ## The program -/

/-- The bot stops at a line of its input if it does so at this line alone. -/
theorem served_eq [Regex.Capacity] (x : Exchange String) (failFast : Bool) (cs : List Char) :
    (if failFast then throughFirst (fun line => (runOn x failFast line).error?.isSome) (lines cs)
      else lines cs) = throughFirst (stops x failFast) (lines cs) := by
  cases failFast with
  | false => exact (throughFirst_eq_self fun line _ => Bool.false_and _).symm
  | true => exact throughFirst_congr fun line hline =>
      (runOn_line x true (newline_notMem_of_mem_lines hline)).2

theorem runOptions_eq [Regex.Capacity] {o : Options} {around : Surroundings} {stdin text : String}
    {x : Exchange String} (hx : Exchange.ofSources (o.sources around) around = .ok x)
    (h : inputText o around stdin = .ok text) :
    runOptions o around stdin = runOn (withBans x) o.failFast text := by
  unfold runOptions
  rw [hx]
  dsimp only
  rw [h]

/-- **Lines are independent.** The program prints what it prints for each line alone, one after the
other, up to and including the first line at which it alone ends in an error if it is to stop there.
A line that is blank, is not JSON or is null prints nothing. What is printed comes from runs, one
for each other line, which dispatch the payload of that line; so no payload is dispatched again. -/
theorem lines_independent [Regex.Capacity] {o : Options} {around : Surroundings}
    {stdin text : String} (h : inputText o around stdin = .ok text) :
    let ls := lines text.toList
    let alone := runOptions { o with input? := none } around
    let served :=
      if o.failFast then throughFirst (fun line => (alone line).error?.isSome) ls else ls
    (runOptions o around stdin).printed = served.flatMap (fun line => (alone line).printed) ∧
      (∀ line ∈ ls, line.toList.all isBlank ∨ Json.read? line = none ∨
          Json.read? line = some .null →
        (alone line).printed = [] ∧ payload? line = none) ∧
      ∀ x, Exchange.ofSources (o.sources around) around = .ok x →
        let d := dispatcher (withBans x)
        let ops := served.flatMap (operations (withBans x).directory)
        (runOptions o around stdin).printed = (d.observe ops).flatMap Observation.emitted ∧
          d.dispatched ops = served.filterMap payload? := by
  intro ls alone served
  cases hx : Exchange.ofSources (o.sources around) around with
  | error e =>
    have hrun : ∀ o' stdin', o'.sources around = o.sources around →
        (runOptions o' around stdin').printed = [] := fun o' stdin' ho => by
      rw [runOptions, ho, hx]
      rfl
    have halone : ∀ line, (alone line).printed = [] := fun line => hrun _ line rfl
    refine ⟨?_, fun line _ hline => ⟨halone line, payload?_eq_none hline⟩, fun x h => by cases h⟩
    rw [hrun o stdin rfl]
    simp [halone]
  | ok x =>
    let y := withBans x
    have halone : ∀ line, alone line = runOn y o.failFast line := fun line =>
      runOptions_eq (o := { o with input? := none }) hx rfl
    have hserved : served = throughFirst (stops y o.failFast) ls := by
      rw [← served_eq]
      simp only [served, halone, ls]
    have hmem : ∀ line ∈ served, line ∈ ls := fun line hline =>
      (throughFirst_sublist _ ls).subset (hserved ▸ hline)
    have hshown : ∀ line ∈ ls, (alone line).printed = shown y line := fun line hline => by
      rw [halone]
      exact (runOn_line y o.failFast (newline_notMem_of_mem_lines hline)).1
    have hprinted : (runOptions o around stdin).printed = served.flatMap (shown y) := by
      rw [runOptions_eq hx h, hserved]
      exact (runOn_eq y o.failFast text).1
    refine ⟨?_, fun line hline hblank => ?_, fun x' hx' => ?_⟩
    · rw [hprinted]
      exact List.flatMap_congr fun line hline => (hshown line (hmem line hline)).symm
    · have hp := payload?_eq_none hblank
      exact ⟨(hshown line hline).trans (shown_eq_nil y hp), hp⟩
    · cases hx'
      have hready := dispatcher_ready y
      refine ⟨?_, dispatched_flatMap _ y served⟩
      rw [hprinted, hready.observe_flatMap hready, List.flatMap_assoc]
      rfl

section Echoes

/-- No files and no variables. -/
def nowhere : Surroundings := { assignments := [], disk := fun _ => none, userDirectory? := none }

/-- An update that asks for the echo of a word. -/
def echoLine (word : String) : String :=
  "\x7b\"message\": \x7b\"text\": \"/echo " ++ word ++ "\"\x7d\x7d"

/-- Two echoes around a blank line and a null. -/
def echoes : String := echoLine "a" ++ "\n \nnull\n" ++ echoLine "b"

theorem echoes_stop_at_null :
    let alone := runOptions { failFast := true } nowhere
    let served := throughFirst (fun line => (alone line).error?.isSome) (lines echoes.toList)
    inputText { failFast := true } nowhere echoes = .ok echoes ∧
      lines echoes.toList = [echoLine "a", " ", "null", echoLine "b"] ∧
      (alone echoes).printed = served.flatMap (fun line => (alone line).printed) ∧
      ∃ x, Exchange.ofSources (Options.sources {} nowhere) nowhere = .ok x ∧
        (dispatcher (withBans x)).dispatched
          (served.flatMap (operations (withBans x).directory)) = served.filterMap payload? := by
  intro alone served
  have h : inputText { failFast := true } nowhere echoes = .ok echoes := rfl
  obtain ⟨hprinted, -, hruns⟩ := lines_independent h
  refine ⟨h, ?_, hprinted, ?_⟩
  · decide +kernel
  · have hstarts :
        (Exchange.ofSources (ω := String) (Options.sources {} nowhere) nowhere).isOk := by
      decide +kernel
    cases hx : Exchange.ofSources (ω := String) (Options.sources {} nowhere) nowhere with
    | error e =>
      rw [hx] at hstarts
      cases hstarts
    | ok x => exact ⟨x, rfl, (hruns x hx).2⟩

end Echoes

end Bot

end Switchboard
