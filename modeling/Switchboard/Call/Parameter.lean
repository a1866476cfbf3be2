import Switchboard.Call.Basic

/-!
# Parameters

A handler says what it wants of a call by its parameters. Scalars are read as loosely as payloads
are compared: a text stands for the number it spells, and a number for its text.

    scalar, value, json   take one argument
    rest                  takes all arguments that are left
    payload               takes none
    optional p            takes none if none is left, and otherwise what p takes
-/

namespace Switchboard

/-- What a handler wants of a call. -/
inductive Parameter where
  | string
  /-- The truth of an argument. -/
  | bool
  /-- An argument as it stands. -/
  | value
  | number
  | integer (type : IntegerType)
  /-- An argument as a type of the handler's own, which a conversion makes of it or says why not.
  The name of the type stands in the message when the argument is missing. What there is of the type
  is told by documents. -/
  | json (name : String) (convert : Json → Except String Json)
  | rest
  | payload
  | optional (inner : Parameter)
  /-- A parameter that never binds. -/
  | refused (message : String)
deriving Inhabited

/-- An argument of a shape. -/
def Parameter.shaped (name : String) (shape : Shape) : Parameter :=
  .json name fun v => (shape.read v).mapError ShapeError.message

/-- What a parameter is bound to. -/
inductive Argument where
  | string (s : String)
  | bool (b : Bool)
  | value (v : Json)
  | number (x : Binary64)
  | integer (i : Int)
  | rest (vs : List Json)
  | payload (p : Payload)
  | absent
  | present (inner : Argument)

namespace Parameter

/-! ## Conversions -/

/-- The double that an argument stands for. -/
def number? : Json → Option Binary64
  | .number n => some n.toBinary64
  | .string s => Json.numericText? s
  | _ => none

/-- The integers of 128 bits, from `-2^127` to `2^127 - 1`: an argument becomes one of them before
its type is asked for. -/
def minWide : Int := -0x80000000000000000000000000000000

def maxWide : Int := 0x7FFFFFFFFFFFFFFFFFFFFFFFFFFFFFFF

/-- The integer of 128 bits nearest to an integer. -/
def saturate (i : Int) : Int := max minWide (min maxWide i)

/-- The integer that a double stands for, if it has no fraction. -/
def integral? (b : Binary64) : Option Int := b.toInt?.map saturate

/-- The integer that a text spells without point and exponent, blanks at its ends aside, if 128 bits
hold it. -/
def integerText? (s : String) : Option Int :=
  let (negative, digits) := Literal.readSign (Blank.trim isBlank s.toList)
  if digits.isEmpty || !digits.all Literal.isDigit then none
  else
    let n : Int := Literal.natOfDigits digits
    let i := if negative then -n else n
    if minWide ≤ i ∧ i ≤ maxWide then some i else none

/-- The integer that an argument stands for. A text that spells none of 128 bits counts as the
double it reads as. -/
def integer? : Json → Option Int
  | .number (.int i) => some i
  | .number (.float b) => integral? b
  | .string s => (integerText? s).or ((Json.numericText? s).bind integral?)
  | _ => none

/-- The integer of a type that an argument stands for. -/
def integerOf? (type : IntegerType) (v : Json) : Option Int := (integer? v).filter type.holds

/-! ## Binding -/

def bind : Parameter → Binding Argument
  | .string => .string <$> Call.takeWith "string" Json.subject?
  | .bool => .bool <$> Call.takeWith "bool" fun v => some v.isTruthy
  | .value => .value <$> Call.takeWith "value" some
  | .number => .number <$> Call.takeWith "number" number?
  | .integer type => .integer <$> Call.takeWith type.name (integerOf? type)
  | .json name convert => do
    let position := (← get).position
    let v ← Call.takeWith name some
    match convert v with
    | .ok v => pure (.value v)
    | .error message => throw (.misshapen position message)
  | .rest => .rest <$> Call.rest
  | .payload => do return .payload (← get).payload
  | .optional inner => do
    if (← get).pending.isEmpty then pure .absent else .present <$> inner.bind
  | .refused message => throw (.custom message)

/-- Binds parameters from left to right, up to the first that fails. -/
def bindAll (parameters : List Parameter) : Binding (List Argument) := parameters.mapM bind

end Parameter

/-- An argument as a document. -/
def Argument.toJson : Argument → Json
  | .string s => .string s
  | .bool b => .bool b
  | .value v => v
  | .number x => if x.isNaN || x.isInfinite then .null else .number (.float x)
  | .integer i => .ofInt i
  | .rest vs => .array vs
  | .payload p => p.root
  | .absent => .null
  | .present inner => inner.toJson

end Switchboard
