import Switchboard.Text.CaseFold
import Switchboard.Text.Lowercase

/-!
# Characters that a change of case alters

A conversion alters a character if it gives another text for it. That text may have several
characters, so more characters change than have a variant of one character.
-/

namespace Switchboard.CaseChange

/-- Altered by a conversion to lower case. A capital I with a dot becomes two characters. -/
def lowered : CodePoints := .ofList (0x130 :: Lowercase.pairs.map (·.1))

/-- Lowercase characters that have only a capital of several characters, and the dotless i, whose
capital has another lower case. -/
def raisedAlone : CodePoints := .parse "
  131 149 1F0 587 1E96-1E9A 1F50 1F52 1F54 1F56 1FB2 1FB4 1FB6-1FB7 1FC2 1FC4 1FC6-1FC7 1FD2
  1FD6-1FD7 1FE2 1FE4 1FE6-1FE7 1FF2 1FF4 1FF6-1FF7 FB00-FB04 FB13-FB17"

/-- Altered by a conversion to upper case. -/
def raised : CodePoints :=
  .union [(CodePoints.ofList CaseFold.orbits.flatten).difference lowered, raisedAlone,
    Category.titlecaseLetters]

/-- Letters that stand for themselves at the start of a word, though they have a capital. -/
def unchangedInTitles : CodePoints :=
  .union [Category.titlecaseLetters, .parse "10D0-10FA 10FD-10FF"]

/-- Altered by a conversion to title case; the capital digraphs have a form for titles. -/
def titled : CodePoints := .union [raised.difference unchangedInTitles, .parse "1C4 1C7 1CA 1F1"]

/-- Characters that are folded although they have no lower case. -/
def foldedAlone : CodePoints := .parse "
  B5 DF 149 17F 345 3C2 3D0-3D1 3D5-3D6 3F0-3F1 3F5 587 13F8-13FD 1C80-1C88 1E9A-1E9B 1F80-1F87
  1F90-1F97 1FA0-1FA7 1FB2-1FB4 1FB7 1FC2-1FC4 1FC7 1FF2-1FF4 1FF7 AB70-ABBF FB00-FB06 FB13-FB17"

/-- Altered by case folding, which goes to lower case but for a script whose capitals are older. -/
def folded : CodePoints := .union [lowered.difference (.range 0x13A0 0x13F5), foldedAlone]

/-- Altered by a conversion to lower, upper or title case. -/
def mapped : CodePoints := .union [lowered, raised]

/-- Each property under its names, in lower case without separators. -/
def named : List (List String × CodePoints) := [
  (["changeswhencasefolded", "cwcf"], folded),
  (["changeswhencasemapped", "cwcm"], mapped),
  (["changeswhenlowercased", "cwl"], lowered),
  (["changeswhentitlecased", "cwt"], titled),
  (["changeswhenuppercased", "cwu"], raised)]

/-- The set of a property name in lower case without separators. -/
def find? (name : String) : Option CodePoints := CodePoints.lookUp named name

end Switchboard.CaseChange
