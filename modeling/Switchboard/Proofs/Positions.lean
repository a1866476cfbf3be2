import Switchboard.Call.Handler

/-!
# Positions of parameters

What the parameters of a handler are bound to, told by the positions of the arguments. A parameter
looks at the number `s` of arguments that those before it have taken:

    p.bound payload arguments s     what `p` is bound to, or why it is not
    p.taken n s                     how many of `n` arguments are taken when `p` had its turn
    bindings, takenAll              the same for all parameters, from left to right

A call of which `s` arguments are taken holds the arguments from `s` on, so a turn at such a call is
told by `s` (`run_bind`), and a run by the turns up to the first that fails. The body is run, and
once, exactly if every parameter is bound (`bound_by_position`).
-/

namespace Switchboard

/-- A call of which the first `s` arguments are taken. -/
def Call.behind (payload : Payload) (arguments : List Json) (s : Nat) : Call :=
  ⟨payload, arguments.drop s, s⟩

namespace Parameter

/-! ## Positions -/

section Positions

variable {α : Type} (payload : Payload) (arguments : List Json) (s : Nat)

/-- What is read from the argument at a position; without an argument there it is missing. -/
def argumentAt (expected : String) (read : Json → Except BindError α) : Except BindError α :=
  match arguments[s]? with
  | some v => read v
  | none => .error (.missing arguments.length expected)

/-- The argument at a position, converted. -/
def convertedAt (expected : String) (convert : Json → Option α) : Except BindError α :=
  argumentAt arguments s expected fun v =>
    match convert v with
    | some a => .ok a
    | none => .error (.invalid s expected v)

/-- What a parameter is bound to behind `s` arguments that are taken. -/
def bound : Parameter → Except BindError Argument
  | .string => (convertedAt arguments s "string" Json.subject?).map .string
  | .bool => (convertedAt arguments s "bool" fun v => some v.isTruthy).map .bool
  | .value => (convertedAt arguments s "value" some).map .value
  | .number => (convertedAt arguments s "number" number?).map .number
  | .integer type => (convertedAt arguments s type.name (integerOf? type)).map .integer
  | .json name convert =>
    argumentAt arguments s name fun v => ((convert v).map .value).mapError (.misshapen s)
  | .rest => .ok (.rest (arguments.drop s))
  | .payload => .ok (.payload payload)
  | .optional inner => if s = arguments.length then .ok .absent else inner.bound.map .present
  | .refused message => .error (.custom message)

/-- How many of `n` arguments are taken when a parameter had its turn behind `s` of them. A rejected
argument is taken as well. -/
def taken (n s : Nat) : Parameter → Nat
  | .string | .bool | .value | .number | .integer _ | .json _ _ => min (s + 1) n
  | .rest => n
  | .payload | .refused _ => s
  | .optional inner => if s = n then s else inner.taken n s

/-- How many of `n` arguments are taken when parameters had their turns behind `s` of them. -/
def takenAll (n s : Nat) (parameters : List Parameter) : Nat :=
  parameters.foldl (fun s p => p.taken n s) s

/-- What parameters are bound to behind `s` arguments that are taken. -/
def bindings (s : Nat) : List Parameter → List (Except BindError Argument)
  | [] => []
  | p :: ps => p.bound payload arguments s :: bindings (p.taken arguments.length s) ps

end Positions

/-! ## Steps -/

section Steps

variable {α β : Type} {c c' : Call}

theorem run_map (f : α → β) (step : Binding α) :
    (f <$> step).run c = ((step.run c).1.map f, (step.run c).2) := by
  rw [ExceptT.run_map]
  show StateT.map _ step.run c = _
  unfold StateT.map
  cases step.run c with
  | mk r c' => cases r <;> rfl

theorem run_bind_ok {step : Binding α} {next : α → Binding β} {a : α}
    (h : step.run c = (.ok a, c')) : (step >>= next).run c = (next a).run c' := by
  rw [ExceptT.run_bind]
  show StateT.bind step.run _ c = _
  unfold StateT.bind
  rw [h]
  rfl

theorem run_get_bind (next : Call → Binding β) (c : Call) :
    ((get : Binding Call) >>= next).run c = (next c).run c := rfl

theorem run_bind_error {step : Binding α} {next : α → Binding β} {e : BindError}
    (h : step.run c = (.error e, c')) : (step >>= next).run c = (.error e, c') := by
  rw [ExceptT.run_bind]
  show StateT.bind step.run _ c = _
  unfold StateT.bind
  rw [h]
  rfl

end Steps

/-! ## One parameter -/

section Turns

variable {α : Type} {payload : Payload} {arguments : List Json} {s : Nat}

theorem behind_of_getElem? {v : Json} (h : arguments[s]? = some v) :
    Call.behind payload arguments s = ⟨payload, v :: arguments.drop (s + 1), s⟩ := by
  obtain ⟨hlt, hv⟩ := List.getElem?_eq_some_iff.1 h
  rw [Call.behind, List.drop_eq_getElem_cons hlt, hv]

theorem behind_length : Call.behind payload arguments arguments.length =
    ⟨payload, [], arguments.length⟩ := by
  rw [Call.behind, List.drop_length]

theorem argumentAt_some {v : Json} (h : arguments[s]? = some v) (expected : String)
    (read : Json → Except BindError α) : argumentAt arguments s expected read = read v := by
  rw [argumentAt, h]

theorem argumentAt_none (h : arguments[s]? = none) (expected : String)
    (read : Json → Except BindError α) :
    argumentAt arguments s expected read = .error (.missing arguments.length expected) := by
  rw [argumentAt, h]

/-- An argument is taken, whether it converts or not. -/
theorem run_takeWith_cons (expected : String) (convert : Json → Option α) (v : Json)
    (rest : List Json) : (Call.takeWith expected convert).run ⟨payload, v :: rest, s⟩ =
      (match convert v with
        | some a => .ok a
        | none => .error (.invalid s expected v), ⟨payload, rest, s + 1⟩) := by
  have htaken : (Call.takeWith expected convert).run ⟨payload, v :: rest, s⟩ =
      (match convert v with
        | some a => (pure a : Binding α)
        | none => throw (BindError.invalid s expected v)).run ⟨payload, rest, s + 1⟩ := rfl
  rw [htaken]
  cases convert v <;> rfl

/-- A scalar is what an argument converts to. -/
theorem run_scalar (scalar : α → Argument) (expected : String) (convert : Json → Option α)
    (v : Json) (rest : List Json) :
    (scalar <$> Call.takeWith expected convert).run ⟨payload, v :: rest, s⟩ =
      (match convert v with
        | some a => .ok (scalar a)
        | none => .error (.invalid s expected v), ⟨payload, rest, s + 1⟩) := by
  rw [run_map, run_takeWith_cons]
  cases convert v <;> rfl

/-- One argument is taken unless there is none. -/
theorem run_takeWith (hs : s ≤ arguments.length) (expected : String) (convert : Json → Option α) :
    (Call.takeWith expected convert).run (.behind payload arguments s) =
      (convertedAt arguments s expected convert,
        .behind payload arguments (min (s + 1) arguments.length)) := by
  unfold convertedAt
  cases hv : arguments[s]? with
  | none =>
    obtain rfl : s = arguments.length := by
      have hge := List.getElem?_eq_none_iff.1 hv
      omega
    rw [argumentAt_none hv, Nat.min_eq_right (Nat.le_succ _), behind_length]
    rfl
  | some v =>
    obtain ⟨hlt, -⟩ := List.getElem?_eq_some_iff.1 hv
    rw [argumentAt_some hv, Nat.min_eq_left hlt, behind_of_getElem? hv, run_takeWith_cons]
    rfl

/-- All arguments that are left are taken. -/
theorem run_rest (hs : s ≤ arguments.length) :
    Call.rest.run (.behind payload arguments s) =
      (arguments.drop s, .behind payload arguments arguments.length) := by
  have hdone : s + (arguments.drop s).length = arguments.length := by
    rw [List.length_drop]
    omega
  show (arguments.drop s, Call.mk payload [] (s + (arguments.drop s).length)) = _
  rw [hdone, behind_length]

theorem run_json (hs : s ≤ arguments.length) (name : String)
    (convert : Json → Except String Json) :
    (Parameter.json name convert).bind.run (.behind payload arguments s) =
      ((Parameter.json name convert).bound payload arguments s,
        .behind payload arguments (min (s + 1) arguments.length)) := by
  have htake : (Call.takeWith name some).run (.behind payload arguments s) =
      (convertedAt arguments s name some, _) := run_takeWith hs name some
  unfold convertedAt at htake
  unfold Parameter.bind bound
  rw [run_get_bind]
  cases hv : arguments[s]? with
  | none =>
    rw [argumentAt_none hv] at htake ⊢
    exact run_bind_error htake
  | some v =>
    rw [argumentAt_some hv] at htake ⊢
    rw [run_bind_ok htake]
    cases convert v <;> rfl

/-- A turn at a call is told by the number of arguments taken before. -/
theorem run_bind (hs : s ≤ arguments.length) (p : Parameter) :
    p.bind.run (.behind payload arguments s) =
      (p.bound payload arguments s, .behind payload arguments (p.taken arguments.length s)) := by
  induction p with
  | string | bool | value | number | integer _ =>
    refine (run_map _ _).trans ?_
    rw [run_takeWith hs]
    rfl
  | json name convert => exact run_json hs name convert
  | rest =>
    show (Except.ok (Argument.rest (Call.rest.run (.behind payload arguments s)).1),
      (Call.rest.run (.behind payload arguments s)).2) = _
    rw [run_rest hs, bound, taken]
  | payload => rfl
  | optional inner ih =>
    have hempty : (Call.behind payload arguments s).pending.isEmpty = true ↔
        s = arguments.length := by
      rw [Call.behind, List.isEmpty_iff, List.drop_eq_nil_iff]
      omega
    unfold Parameter.bind bound taken
    rw [run_get_bind]
    by_cases hend : s = arguments.length
    · rw [if_pos hend, if_pos hend, if_pos (hempty.2 hend)]
      rfl
    · rw [if_neg hend, if_neg hend, if_neg (mt hempty.1 hend)]
      refine (run_map _ _).trans ?_
      rw [ih]
  | refused message => rfl

theorem taken_le (hs : s ≤ arguments.length) (p : Parameter) :
    p.taken arguments.length s ≤ arguments.length := by
  induction p with
  | optional inner ih =>
    unfold taken
    split
    · exact hs
    · exact ih
  | _ =>
    unfold taken
    omega

end Turns

/-! ## All parameters -/

section Runs

variable {payload : Payload} {arguments : List Json} {s : Nat}

/-- Parameters that are all bound take what they take one after the other. -/
theorem run_bindAll_of_ok {ps : List Parameter} {as : List Argument} (hs : s ≤ arguments.length)
    (h : bindings payload arguments s ps = as.map .ok) :
    (bindAll ps).run (.behind payload arguments s) =
      (.ok as, .behind payload arguments (takenAll arguments.length s ps)) := by
  induction ps generalizing s as with
  | nil =>
    obtain rfl := List.map_eq_nil_iff.1 h.symm
    rfl
  | cons p ps ih =>
    obtain ⟨a, as, rfl, ha, has⟩ := List.map_eq_cons_iff.1 h.symm
    unfold bindAll
    rw [List.mapM_cons, run_bind_ok ((run_bind hs p).trans (by rw [← ha]))]
    exact run_bind_ok (ih (taken_le hs p) has.symm)

/-- The first parameter that is not bound is the last that has its turn. -/
theorem run_bindAll_of_error {ps : List Parameter} {as : List Argument} {e : BindError}
    {later : List (Except BindError Argument)} (hs : s ≤ arguments.length)
    (h : bindings payload arguments s ps = as.map .ok ++ .error e :: later) :
    (bindAll ps).run (.behind payload arguments s) =
      (.error e,
        .behind payload arguments (takenAll arguments.length s (ps.take (as.length + 1)))) := by
  induction ps generalizing s as with
  | nil => simp [bindings] at h
  | cons p ps ih =>
    unfold bindAll
    rw [List.mapM_cons]
    cases as with
    | nil =>
      obtain ⟨he, -⟩ := List.cons.inj h
      exact run_bind_error ((run_bind hs p).trans (by rw [he]; rfl))
    | cons a as =>
      obtain ⟨ha, has⟩ := List.cons.inj h
      rw [run_bind_ok ((run_bind hs p).trans (by rw [ha]))]
      exact run_bind_error (ih (taken_le hs p) has)

end Runs

/-- Each parameter is bound by itself, behind what those before it take. -/
theorem getElem?_bindings (payload : Payload) (arguments : List Json) (s : Nat)
    (ps : List Parameter) (k : Nat) :
    (bindings payload arguments s ps)[k]? =
      ps[k]?.map (bound payload arguments (takenAll arguments.length s (ps.take k))) := by
  induction ps generalizing s k with
  | nil => rfl
  | cons p ps ih =>
    cases k with
    | zero => rfl
    | succ k => exact ih _ k

/-- Either every parameter is bound, or there is a first that is not. -/
theorem bindings_cases (bs : List (Except BindError Argument)) :
    (∃ as : List Argument, bs = as.map .ok) ∨
      ∃ (as : List Argument) (e : BindError) (later : List (Except BindError Argument)),
        bs = as.map .ok ++ .error e :: later := by
  induction bs with
  | nil => exact .inl ⟨[], rfl⟩
  | cons b bs ih =>
    cases b with
    | error e => exact .inr ⟨[], e, bs, rfl⟩
    | ok a =>
      rcases ih with ⟨as, rfl⟩ | ⟨as, e, later, rfl⟩
      · exact .inl ⟨a :: as, rfl⟩
      · exact .inr ⟨a :: as, e, later, rfl⟩

theorem map_ok_inj {as bs : List Argument} :
    as.map Except.ok = bs.map (Except.ok : Argument → Except BindError Argument) ↔ as = bs :=
  List.map_inj_right fun _ _ h => Except.ok.inj h

theorem error_notMem_map_ok (as : List Argument) (e : BindError) :
    (.error e : Except BindError Argument) ∉ as.map .ok := by
  simp

end Parameter

/-! ## Handlers -/

namespace Handler

open Parameter

variable {ω : Type} {parameters : List Parameter} {payload : Payload} {arguments : List Json}
variable {as : List Argument}

theorem ofParameters_of_ok (body : List Argument → Answer × List ω)
    (h : bindings payload arguments 0 parameters = as.map .ok) :
    ofParameters parameters body (.ofArguments payload arguments) =
      ⟨(body as).1.outcome?,
        .behind payload arguments (takenAll arguments.length 0 parameters), (body as).2⟩ := by
  have hrun := run_bindAll_of_ok (Nat.zero_le _) h
  unfold ofParameters
  rw [show Call.ofArguments payload arguments = .behind payload arguments 0 from rfl, hrun]

theorem ofParameters_of_error (body : List Argument → Answer × List ω) {e : BindError}
    {later : List (Except BindError Argument)}
    (h : bindings payload arguments 0 parameters = as.map .ok ++ .error e :: later) :
    ofParameters parameters body (.ofArguments payload arguments) =
      ⟨.error (.binding e), .behind payload arguments
        (takenAll arguments.length 0 (parameters.take (as.length + 1))), []⟩ := by
  have hrun := run_bindAll_of_error (Nat.zero_le _) h
  unfold ofParameters
  rw [show Call.ofArguments payload arguments = .behind payload arguments 0 from rfl, hrun]

/-- A body that notes what it is called with has one note if every parameter is bound, and none
otherwise. -/
theorem emitted_noted (answer : List Argument → Answer) :
    let noted := ofParameters parameters (fun as => (answer as, [as]))
      (.ofArguments payload arguments)
    (∀ as, noted.emitted = [as] ↔ bindings payload arguments 0 parameters = as.map .ok) ∧
      (noted.emitted = [] ↔ ∃ e, .error e ∈ bindings payload arguments 0 parameters) := by
  intro noted
  rcases bindings_cases (bindings payload arguments 0 parameters) with
    ⟨bs, h⟩ | ⟨bs, e, later, h⟩
  · have hnoted : noted.emitted = [bs] := by
      show (ofParameters parameters _ _).emitted = _
      rw [ofParameters_of_ok _ h]
    rw [hnoted, h]
    constructor
    · intro as
      rw [map_ok_inj, List.cons.injEq, and_iff_left rfl]
    · simp
  · have hnoted : noted.emitted = [] := by
      show (ofParameters parameters _ _).emitted = _
      rw [ofParameters_of_error _ h]
    rw [hnoted, h]
    constructor
    · intro as
      have hne : bs.map .ok ++ .error e :: later ≠ as.map .ok := fun heq =>
        error_notMem_map_ok as e (by rw [← heq]; simp)
      simp [hne]
    · simp

end Handler

/-- **Parameters are bound by position.** Each parameter is bound by itself, behind the arguments
that those before it take. If all are bound, the body is run with what they are bound to, and its
answer and what it emits are the reply. Otherwise the reply is the error of the first that is not
bound, whatever comes behind it. The body is run exactly in the first case, and once. In both cases
the call stands behind the arguments taken, a rejected one included. -/
theorem bound_by_position {ω : Type} (parameters : List Parameter)
    (body : List Argument → Answer × List ω) (payload : Payload) (arguments : List Json) :
    let n := arguments.length
    let bindings := Parameter.bindings payload arguments 0 parameters
    let reply := Handler.ofParameters parameters body (.ofArguments payload arguments)
    let noted := Handler.ofParameters parameters (fun as => ((body as).1, [as]))
      (.ofArguments payload arguments)
    (∀ k : Nat, bindings[k]? = parameters[k]?.map
      (Parameter.bound payload arguments (Parameter.takenAll n 0 (parameters.take k)))) ∧
    (∀ as : List Argument, bindings = as.map .ok →
      reply = ⟨(body as).1.outcome?,
        .behind payload arguments (Parameter.takenAll n 0 parameters), (body as).2⟩) ∧
    (∀ (as : List Argument) e later, bindings = as.map .ok ++ .error e :: later →
      reply = ⟨.error (.binding e), .behind payload arguments
        (Parameter.takenAll n 0 (parameters.take (as.length + 1))), []⟩) ∧
    (∀ as, noted.emitted = [as] ↔ bindings = as.map .ok) ∧
    (noted.emitted = [] ↔ ∃ e, .error e ∈ bindings) := by
  intro n bindings reply noted
  refine ⟨Parameter.getElem?_bindings payload arguments 0 parameters, ?_, ?_,
    Handler.emitted_noted _⟩
  · intro as h
    exact Handler.ofParameters_of_ok body h
  · intro as e later h
    exact Handler.ofParameters_of_error body h

/-- Why someone is banned: a text, and a rule if there is one. -/
def reason : Shape := .record "Reason" [("text", .string), ("rule", .option (.integer .u32))]

/-- Someone to ban, the reason, for how long, what else, and the payload. -/
def banParameters : List Parameter :=
  [.string, .shaped "Reason" reason, .optional (.integer .i64), .rest, .payload]

/-- Notes what it is called with, and stops. -/
def banning : Handler (List Argument) := .ofParameters banParameters fun as => (.bool false, [as])

def spam : Json := .object [("text", .string "spam")]

/-- With a reason and a number of minutes the body is run. Without a text in the reason, or with
another text in the place of the number, what is there is the last argument taken. -/
theorem ban_bound :
    banning (.ofArguments .empty [.string "bob", spam, .string " 5", .bool true, .null]) =
        ⟨.ok .stop, ⟨.empty, [], 5⟩,
          [[.string "bob", .value (.object [("text", .string "spam"), ("rule", .null)]),
            .present (.integer 5), .rest [.bool true, .null], .payload .empty]]⟩ ∧
      banning (.ofArguments .empty [.string "bob", .object [], .string " 5"]) =
        ⟨.error (.binding (.misshapen 1 "missing field `text`")),
          ⟨.empty, [.string " 5"], 2⟩, []⟩ ∧
      banning (.ofArguments .empty [.string "bob", spam, .string "soon", .bool true, .null]) =
        ⟨.error (.binding (.invalid 2 "i64" (.string "soon"))),
          ⟨.empty, [.bool true, .null], 3⟩, []⟩ := by
  have hposition := bound_by_position banParameters (fun as => (.bool false, [as])) .empty
  obtain ⟨-, hbound, -⟩ := hposition [.string "bob", spam, .string " 5", .bool true, .null]
  obtain ⟨-, -, hreason, -⟩ := hposition [.string "bob", .object [], .string " 5"]
  obtain ⟨-, -, htime, -⟩ := hposition [.string "bob", spam, .string "soon", .bool true, .null]
  refine ⟨?_, ?_, ?_⟩
  · exact hbound [.string "bob", .value (.object [("text", .string "spam"), ("rule", .null)]),
      .present (.integer 5), .rest [.bool true, .null], .payload .empty] rfl
  · exact hreason [.string "bob"] _ _ rfl
  · exact htime [.string "bob", .value (.object [("text", .string "spam"), ("rule", .null)])] _ _
      rfl

end Switchboard
