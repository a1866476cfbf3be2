import Switchboard.Proofs.Positions

/-!
# Taking arguments

Whatever is asked of a call, and in whatever order, its arguments leave it from the front, and each
of them once. A conversion is handed its argument before it accepts or rejects it:

    c.after requests     the call behind some requests
    c.handed requests    the arguments that were handed out for them, in order

    (ofArguments payload as).after requests  = behind payload as s
    (ofArguments payload as).handed requests = as.take s             with one and the same s

The step is `request_behind`: behind `s` arguments, what is handed out makes the first `s` arguments
the first `t` of them, and the call is left behind `t`.
-/

namespace Switchboard

namespace Call

/-! ## Requests -/

/-- What can be asked of a call. -/
inductive Request : Type 1 where
  | next
  | peek
  | rest
  | takeWith {α : Type} (expected : String) (convert : Json → Option α)

/-- The call that a request leaves. -/
def leave (c : Call) : Request → Call
  | .next => (Call.next.run c).2
  | .peek => c
  | .rest => (Call.rest.run c).2
  | .takeWith expected convert => ((Call.takeWith expected convert).run c).2

/-- The arguments that a request is given. What a conversion is handed is what a conversion that
keeps its argument gives. -/
def handOut (c : Call) : Request → List Json
  | .next => (Call.next.run c).1.toList
  | .peek => []
  | .rest => (Call.rest.run c).1
  | .takeWith expected _ => ((Call.takeWith expected some).run c).1.toOption.toList

/-- The call behind some requests. -/
def after (c : Call) : List Request → Call
  | [] => c
  | r :: rs => (c.leave r).after rs

/-- The arguments handed out for some requests, in order. -/
def handed (c : Call) : List Request → List Json
  | [] => []
  | r :: rs => c.handOut r ++ (c.leave r).handed rs

/-! ## Steps -/

section Steps

variable {payload : Payload} {arguments : List Json} {s : Nat}

/-- The next argument joins those handed out, if there is one. -/
theorem take_append_next (arguments : List Json) (s : Nat) :
    arguments.take s ++ arguments[s]?.toList = arguments.take (min (s + 1) arguments.length) := by
  rw [← List.take_eq_take_min, List.take_add_one]

theorem run_next (hs : s ≤ arguments.length) :
    Call.next.run (behind payload arguments s) =
      (arguments[s]?, behind payload arguments (min (s + 1) arguments.length)) := by
  cases hv : arguments[s]? with
  | none =>
    obtain rfl : s = arguments.length := by
      have hge := List.getElem?_eq_none_iff.1 hv
      omega
    rw [Nat.min_eq_right (Nat.le_succ _), Parameter.behind_length]
    rfl
  | some v =>
    obtain ⟨hlt, -⟩ := List.getElem?_eq_some_iff.1 hv
    rw [Nat.min_eq_left hlt, Parameter.behind_of_getElem? hv]
    rfl

/-- A conversion is handed the argument at the position. -/
theorem handOut_takeWith {α : Type} (payload : Payload) (hs : s ≤ arguments.length)
    (expected : String) (convert : Json → Option α) :
    (behind payload arguments s).handOut (.takeWith expected convert) = arguments[s]?.toList := by
  show ((Call.takeWith expected some).run _).1.toOption.toList = _
  rw [Parameter.run_takeWith hs, Parameter.convertedAt, Parameter.argumentAt]
  cases arguments[s]? <;> rfl

/-- Behind `s` arguments a request is given those from `s` up to some `t`, and leaves the call
behind `t`. -/
theorem request_behind (payload : Payload) (hs : s ≤ arguments.length) (r : Request) :
    ∃ t, t ≤ arguments.length ∧
      (behind payload arguments s).leave r = behind payload arguments t ∧
      arguments.take s ++ (behind payload arguments s).handOut r = arguments.take t := by
  have hone : min (s + 1) arguments.length ≤ arguments.length := Nat.min_le_right _ _
  cases r with
  | next =>
    refine ⟨_, hone, ?_, ?_⟩
    · rw [leave, run_next hs]
    · rw [handOut, run_next hs, take_append_next]
  | peek => exact ⟨s, hs, rfl, List.append_nil _⟩
  | rest =>
    refine ⟨_, Nat.le_refl _, ?_, ?_⟩
    · rw [leave, Parameter.run_rest hs]
    · rw [handOut, Parameter.run_rest hs, List.take_append_drop, List.take_length]
  | takeWith expected convert =>
    refine ⟨_, hone, ?_, ?_⟩
    · rw [leave, Parameter.run_takeWith hs]
    · rw [handOut_takeWith payload hs, take_append_next]

/-! ## Runs -/

/-- Requests are given the arguments from the position on, and leave the call behind them. -/
theorem requests_behind (payload : Payload) (hs : s ≤ arguments.length) (rs : List Request) :
    ∃ t, t ≤ arguments.length ∧
      (behind payload arguments s).after rs = behind payload arguments t ∧
      arguments.take s ++ (behind payload arguments s).handed rs = arguments.take t := by
  induction rs generalizing s with
  | nil => exact ⟨s, hs, rfl, List.append_nil _⟩
  | cons r rs ih =>
    obtain ⟨t, ht, hleave, hhandOut⟩ := request_behind payload hs r
    obtain ⟨u, hu, hafter, hhanded⟩ := ih ht
    refine ⟨u, hu, ?_, ?_⟩
    · rw [after, hleave, hafter]
    · rw [handed, hleave, ← List.append_assoc, hhandOut, hhanded]

end Steps

/-! ## Conversions -/

section Conversions

variable {α : Type} {payload : Payload} {arguments : List Json} {s : Nat} {expected : String}
  {convert : Json → Option α} {c : Call}

/-- What is converted is the argument at the position. -/
theorem takeWith_ok (hs : s ≤ arguments.length) {a : α}
    (h : (Call.takeWith expected convert).run (behind payload arguments s) = (.ok a, c)) :
    ∃ v, arguments[s]? = some v ∧ convert v = some a := by
  rw [Parameter.run_takeWith hs, Parameter.convertedAt, Parameter.argumentAt] at h
  cases hv : arguments[s]? with
  | none =>
    rw [hv] at h
    cases h
  | some v =>
    rw [hv] at h
    dsimp only at h
    cases hconvert : convert v with
    | none =>
      rw [hconvert] at h
      cases h
    | some b =>
      rw [hconvert] at h
      cases h
      exact ⟨v, rfl, hconvert⟩

/-- A conversion fails behind the last argument, or at the position of one that it rejects. -/
theorem takeWith_error (hs : s ≤ arguments.length) {e : BindError}
    (h : (Call.takeWith expected convert).run (behind payload arguments s) = (.error e, c)) :
    (e = .missing arguments.length expected ∧ s = arguments.length ∧
      c = behind payload arguments s) ∨
    ∃ v, arguments[s]? = some v ∧ convert v = none ∧ e = .invalid s expected v := by
  rw [Parameter.run_takeWith hs, Parameter.convertedAt, Parameter.argumentAt] at h
  cases hv : arguments[s]? with
  | none =>
    obtain rfl : s = arguments.length := by
      have hge := List.getElem?_eq_none_iff.1 hv
      omega
    rw [hv, Nat.min_eq_right (Nat.le_succ _)] at h
    cases h
    exact .inl ⟨rfl, rfl, rfl⟩
  | some v =>
    rw [hv] at h
    dsimp only at h
    cases hconvert : convert v with
    | none =>
      rw [hconvert] at h
      cases h
      exact .inr ⟨v, rfl, hconvert, rfl⟩
    | some b =>
      rw [hconvert] at h
      cases h

end Conversions

end Call

/-- **No argument is lost, repeated or misnumbered.** At every point the call holds the arguments
from its position on, and those in front of it are the ones handed out, in order. Looking at the
next argument changes nothing. An argument is converted at the position where it stands and with
the text that it has, whether the conversion accepts or rejects it, and one is missing only behind
the last. -/
theorem arguments_handed_once (payload : Payload) (arguments : List Json)
    (requests : List Call.Request) :
    let n := arguments.length
    let start := Call.ofArguments payload arguments
    let c := start.after requests
    c.position + c.remaining = n ∧
    c.pending = arguments.drop c.position ∧
    start.handed requests = arguments.take c.position ∧
    (c.peek = arguments[c.position]? ∧
      ∀ later, c.after (.peek :: later) = c.after later ∧
        c.handed (.peek :: later) = c.handed later) ∧
    ∀ {α : Type} (expected : String) (convert : Json → Option α),
      (∀ a c', (Call.takeWith expected convert).run c = (.ok a, c') →
        ∃ v, arguments[c.position]? = some v ∧ convert v = some a ∧
          c.handOut (.takeWith expected convert) = [v]) ∧
      (∀ e c', (Call.takeWith expected convert).run c = (.error e, c') →
        (e = .missing n expected ∧ c.position = n ∧ c' = c) ∨
        ∃ v, arguments[c.position]? = some v ∧ convert v = none ∧
          c.handOut (.takeWith expected convert) = [v] ∧ e = .invalid c.position expected v ∧
          e.message = "invalid argument #" ++ toString c.position ++ ": expected " ++ expected ++
            ", got " ++ v.text) := by
  intro n start c
  obtain ⟨s, hs, hafter, hhanded⟩ :=
    Call.requests_behind payload (Nat.zero_le n) requests
  have hc : c = .behind payload arguments s := hafter
  rw [hc]
  refine ⟨?_, rfl, hhanded, ⟨?_, fun later => ⟨rfl, rfl⟩⟩, ?_⟩
  · show s + (arguments.drop s).length = n
    rw [List.length_drop]
    omega
  · show (arguments.drop s).head? = arguments[s]?
    exact List.head?_drop
  · intro α expected convert
    have hhandOut := Call.handOut_takeWith payload hs expected convert
    constructor
    · intro a c' h
      obtain ⟨v, hv, hconvert⟩ := Call.takeWith_ok hs h
      rw [hv] at hhandOut
      exact ⟨v, hv, hconvert, hhandOut⟩
    · intro e c' h
      rcases Call.takeWith_error hs h with hmissing | ⟨v, hv, hconvert, rfl⟩
      · exact .inl hmissing
      · rw [hv] at hhandOut
        exact .inr ⟨v, hv, hconvert, hhandOut, rfl, rfl⟩

/-- A number that is none, and a text behind it that is looked at first: the second error speaks of
the second argument. -/
theorem second_argument_rejected :
    let start := Call.ofArguments .empty [.string "x", .string "soon"]
    let c := start.after [.takeWith "number" Parameter.number?, .peek]
    let c' := start.after [.rest]
    start.handed [.takeWith "number" Parameter.number?, .peek] = [.string "x"] ∧
      (Call.takeWith "i64" (Parameter.integerOf? .i64)).run c =
        (.error (.invalid 1 "i64" (.string "soon")), c') ∧
      (BindError.invalid 1 "i64" (.string "soon")).message =
        "invalid argument #1: expected i64, got \"soon\"" := by
  intro start c c'
  have hrun : (Call.takeWith "i64" (Parameter.integerOf? .i64)).run c =
      (.error (.invalid 1 "i64" (.string "soon")), c') := rfl
  obtain ⟨-, -, hhanded, -, hconverts⟩ := arguments_handed_once .empty
    [.string "x", .string "soon"] [.takeWith "number" Parameter.number?, .peek]
  obtain ⟨-, hfails⟩ := hconverts "i64" (Parameter.integerOf? .i64)
  refine ⟨hhanded, hrun, ?_⟩
  rcases hfails _ _ hrun with ⟨h, -, -⟩ | ⟨v, hv, -, -, -, hmessage⟩
  · cases h
  · cases hv
    exact hmessage

end Switchboard
