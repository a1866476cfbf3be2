import Switchboard.Json.Printer

/-!
# Shapes of documents

A shape says what a consumer takes a document for. `Shape.read` returns the document as the
consumer sees it, or the first thing that does not fit; integers must be integers in range, and a
record may also stand as an array of its fields in order. An optional field of a record may be
absent, but not from an array.
-/

namespace Switchboard

/-- The integer types of consumers. -/
inductive IntegerType where
  | u8
  | i32
  | u32
  | i64
  | u64
  | usize
deriving DecidableEq, Repr

namespace IntegerType

def name : IntegerType → String
  | u8 => "u8"
  | i32 => "i32"
  | u32 => "u32"
  | i64 => "i64"
  | u64 => "u64"
  | usize => "usize"

def low : IntegerType → Int
  | u8 | u32 | u64 | usize => 0
  | i32 => -0x80000000
  | i64 => Number.minSigned

def high : IntegerType → Int
  | u8 => 0xFF
  | i32 => 0x7FFFFFFF
  | u32 => 0xFFFFFFFF
  | i64 => Number.maxSigned
  | u64 | usize => Number.maxUnsigned

def holds (t : IntegerType) (i : Int) : Bool := t.low ≤ i && i ≤ t.high

end IntegerType

inductive Shape where
  | any
  | bool
  | integer (type : IntegerType)
  | float
  | string
  | list (items : Shape)
  | option (some : Shape)
  | record (name : String) (fields : List (String × Shape))

/-- Why a document does not fit a shape. -/
inductive ShapeError where
  | wrongType (found : Json) (expected : String)
  | wrongValue (found : Json) (expected : String)
  | missingField (name : String)
  /-- An array ends before the record's field of this index. -/
  | tooShort (length : Nat) (expected : String)
  /-- An array goes on after the record's last field. -/
  | tooLong (length : Nat)

namespace ShapeError

/-- How a document is named in a message. -/
def describe : Json → String
  | .null => "null"
  | .bool b => "boolean `" ++ (if b then "true" else "false") ++ "`"
  | .number (.int i) => "integer `" ++ toString i ++ "`"
  | .number (.float b) => "floating point `" ++ Layout.document.text b ++ "`"
  | .string s => "string " ++ Quoted.quoted s
  | .array _ => "sequence"
  | .object _ => "map"

def message : ShapeError → String
  | wrongType found expected => "invalid type: " ++ describe found ++ ", expected " ++ expected
  | wrongValue found expected => "invalid value: " ++ describe found ++ ", expected " ++ expected
  | missingField name => "missing field `" ++ name ++ "`"
  | tooShort length expected => "invalid length " ++ toString length ++ ", expected " ++ expected
  | tooLong length =>
    "invalid length " ++ toString length ++ ", expected fewer elements in array"

end ShapeError

namespace Shape

/-- A shape that takes exactly the integers of a type. -/
def readInteger (t : IntegerType) (v : Json) : Except ShapeError Json :=
  match v with
  | .number (.int i) => if t.holds i then .ok v else .error (.wrongValue v t.name)
  | _ => .error (.wrongType v t.name)

/-- Whether a field of this shape may be absent. -/
def isOption : Shape → Bool
  | option _ => true
  | _ => false

/-- The first field that may not be absent and has no member. -/
def missing? (fields : List (String × Shape)) (members : List (String × Json)) : Option String :=
  (fields.find? fun (k, s) => !s.isOption && (Json.member? k members).isNone).map (·.1)

/-- The error of a reading, if it failed. -/
def failure? {α : Type} : Except ShapeError α → Option ShapeError
  | .ok _ => none
  | .error e => some e

/-- How a record of so many fields is named when an array is too short for it. -/
def recordText (name : String) (count : Nat) : String :=
  "struct " ++ name ++ " with " ++ toString count ++ " element" ++ (if count = 1 then "" else "s")

mutual

/-- The document as a consumer of this shape sees it. The members of an object are read in their
order, and only then it is seen whether a field is missing. -/
def read : Shape → Json → Except ShapeError Json
  | .any, v => .ok v
  | .bool, .bool b => .ok (.bool b)
  | .bool, v => .error (.wrongType v "a boolean")
  | .integer t, v => readInteger t v
  | .float, .number n => .ok (.number (.float n.toBinary64))
  | .float, v => .error (.wrongType v "f64")
  | .string, .string s => .ok (.string s)
  | .string, v => .error (.wrongType v "a string")
  | .list items, .array vs => (vs.mapM (fun v => read items v)).map .array
  | .list _, v => .error (.wrongType v "a sequence")
  | .option _, .null => .ok .null
  | .option s, v => read s v
  | .record _ fields, .object members =>
    match members.findSome? (fun (k, v) => memberError? k v fields) with
    | some e => .error e
    | none =>
      match missing? fields members with
      | some k => .error (.missingField k)
      | none => (readMembers members fields).map .object
  | .record name fields, .array vs =>
    match readInOrder (recordText name fields.length) 0 vs fields with
    | .error e => .error e
    | .ok members =>
      if fields.length < vs.length then .error (.tooLong vs.length) else .ok (.object members)
  | .record name _, v => .error (.wrongType v ("struct " ++ name))

/-- The error of a member that does not fit the field of its key. -/
def memberError? (key : String) (v : Json) : List (String × Shape) → Option ShapeError
  | [] => none
  | (k, s) :: rest => if k == key then failure? (read s v) else memberError? key v rest

/-- The fields, each read from the member of its key. An absent optional field is null. -/
def readMembers (members : List (String × Json)) :
    List (String × Shape) → Except ShapeError (List (String × Json))
  | [] => .ok []
  | (k, s) :: rest =>
    match Json.member? k members with
    | none =>
      if s.isOption then (readMembers members rest).map ((k, .null) :: ·)
      else .error (.missingField k)
    | some v =>
      match read s v with
      | .error e => .error e
      | .ok v => (readMembers members rest).map ((k, v) :: ·)

/-- The fields, read from items one each. -/
def readInOrder (expected : String) (index : Nat) (vs : List Json) :
    List (String × Shape) → Except ShapeError (List (String × Json))
  | [] => .ok []
  | (k, s) :: rest =>
    match vs with
    | [] => .error (.tooShort index expected)
    | v :: vs =>
      match read s v with
      | .error e => .error e
      | .ok v => (readInOrder expected (index + 1) vs rest).map ((k, v) :: ·)

end

end Shape

end Switchboard
