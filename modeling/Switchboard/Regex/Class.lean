import Switchboard.Text.Age
import Switchboard.Text.CaseChange
import Switchboard.Text.ScriptExtension
import Switchboard.Text.Segment

/-!
# Named sets of characters

The sets that expressions name: ASCII classes such as `[:alpha:]`, the classes of digits, blanks
and word characters, and the properties, categories and scripts of `\p`.
-/

namespace Switchboard.Regex.Class

/-! ## ASCII classes -/

/-- The ASCII class of a name. -/
def ascii? : String → Option CodePoints
  | "alnum" => some (.parse "30-39 41-5A 61-7A")
  | "alpha" => some (.parse "41-5A 61-7A")
  | "ascii" => some (.parse "0-7F")
  | "blank" => some (.parse "9 20")
  | "cntrl" => some (.parse "0-1F 7F")
  | "digit" => some (.parse "30-39")
  | "graph" => some (.parse "21-7E")
  | "lower" => some (.parse "61-7A")
  | "print" => some (.parse "20-7E")
  | "punct" => some (.parse "21-2F 3A-40 5B-60 7B-7E")
  | "space" => some (.parse "9-D 20")
  | "upper" => some (.parse "41-5A")
  | "word" => some (.parse "30-39 41-5A 5F 61-7A")
  | "xdigit" => some (.parse "30-39 41-46 61-66")
  | _ => none

/-! ## Digits, blanks and word characters -/

inductive Shorthand where
  | digit
  | space
  | word

def Shorthand.set (unicode : Bool) : Shorthand → CodePoints
  | digit => if unicode then Category.decimalNumbers else .parse "30-39"
  | space => if unicode then Property.whiteSpace else .parse "9-D 20"
  | word => if unicode then Property.word else .parse "30-39 41-5A 5F 61-7A"

/-! ## Properties -/

/-- A name in lower case without blanks, separators and a leading `is`. -/
def normalized (name : String) : String :=
  let fold (cs : List Char) : String :=
    String.ofList
      ((cs.filter fun c => c ≠ ' ' ∧ c ≠ '_' ∧ c ≠ '-' ∧ c.toNat < 128).map Char.toLower)
  match name.toList with
  | a :: b :: rest =>
    if a.toLower = 'i' ∧ b.toLower = 's' then
      -- the short name of a category must not be mistaken for a name with `is` in front
      if fold rest = "c" then "isc" else fold rest
    else fold (a :: b :: rest)
  | cs => fold cs

/-- The categories, and the sets of all, of all assigned and of the ASCII code points. -/
def category? (name : String) : Option CodePoints :=
  match name with
  | "any" => some .all
  | "assigned" => some Category.assigned
  | "ascii" => some (.range 0 127)
  | _ => Category.find? name

/-- The set of a property, a category or a script. -/
def named? (name : String) : Option CodePoints :=
  let name := normalized name
  (((Property.find? name).or (CaseChange.find? name)).or (category? name)).or (Script.find? name)

/-- The set of a property with a value. -/
def valued? (name value : String) : Option CodePoints :=
  let value := normalized value
  match normalized name with
  | "generalcategory" | "gc" => category? value
  | "script" | "sc" => Script.find? value
  | "scriptextensions" | "scx" => Script.users? value
  | "age" => Age.find? value
  | "graphemeclusterbreak" | "gcb" => Segment.Grapheme.find? value
  | "wordbreak" | "wb" => Segment.Word.find? value
  | "sentencebreak" | "sb" => Segment.Sentence.find? value
  | _ => none

end Switchboard.Regex.Class
