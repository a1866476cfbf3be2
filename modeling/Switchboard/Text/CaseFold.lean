import Switchboard.Text.CodePoints

/-!
# Simple case folding

Two characters are case variants of each other when their simple case foldings agree. The classes
of this relation with more than one member are listed in `orbits`.
-/

namespace Switchboard.CaseFold

/-- Runs of classes `a, a + d` for `a` from the first code point to the second in steps of the
third, with `d` the fourth. -/
def pairRuns : String := "
  41-4A-1-20 4C-52-1-20 54-5A-1-20 C0-C4-1-20 C6-D6-1-20 D8-DE-1-20 100-12E-2-1 132-136-2-1
  139-147-2-1 14A-176-2-1 179-17D-2-1 1A0-1A4-2-1 1CD-1DB-2-1 1DE-1EE-2-1 1F8-21E-2-1 222-232-2-1
  246-24E-2-1 37B-37D-1-82 388-38A-1-25 39D-39F-1-20 3D8-3EE-2-1 400-40F-1-50 411-415-2-20
  416-41D-1-20 423-429-1-20 42B-42F-1-20 464-480-2-1 48A-4BE-2-1 4C1-4CD-2-1 4D0-52E-2-1
  531-556-1-30 10A0-10C5-1-1C60 10D0-10FA-1-BC0 10FD-10FF-1-BC0 13A0-13EF-1-97D0 13F0-13F5-1-8
  1E00-1E5E-2-1 1E62-1E94-2-1 1EA0-1EFE-2-1 1F00-1F07-1-8 1F10-1F15-1-8 1F20-1F27-1-8
  1F30-1F37-1-8 1F40-1F45-1-8 1F51-1F57-2-8 1F60-1F67-1-8 1F72-1F75-1-56 1F80-1F87-1-8
  1F90-1F97-1-8 1FA0-1FA7-1-8 2160-216F-1-10 24B6-24CF-1-1A 2C00-2C2F-1-30 2C67-2C6B-2-1
  2C80-2CE2-2-1 A640-A648-2-1 A64C-A66C-2-1 A680-A69A-2-1 A722-A72E-2-1 A732-A76E-2-1
  A77E-A786-2-1 A796-A7A8-2-1 A7B4-A7C2-2-1 A7D6-A7DA-2-1 FF21-FF3A-1-20 10400-10427-1-28
  104B0-104D3-1-28 10570-1057A-1-27 1057C-1058A-1-27 1058C-10592-1-27 10C80-10CB2-1-40
  10D50-10D65-1-20 118A0-118BF-1-20 16E40-16E5F-1-20 1E900-1E921-1-22"

/-- The classes that are in no run, one a word. -/
def otherOrbits : String := "
  4B-6B-212A 53-73-17F B5-39C-3BC C5-E5-212B DF-1E9E FF-178 180-243 181-253 182-183 184-185
  186-254 187-188 189-256 18A-257 18B-18C 18E-1DD 18F-259 190-25B 191-192 193-260 194-263 195-1F6
  196-269 197-268 198-199 19A-23D 19B-A7DC 19C-26F 19D-272 19E-220 19F-275 1A6-280 1A7-1A8 1A9-283
  1AC-1AD 1AE-288 1AF-1B0 1B1-28A 1B2-28B 1B3-1B4 1B5-1B6 1B7-292 1B8-1B9 1BC-1BD 1BF-1F7
  1C4-1C5-1C6 1C7-1C8-1C9 1CA-1CB-1CC 1F1-1F2-1F3 1F4-1F5 23A-2C65 23B-23C 23E-2C66 23F-2C7E
  240-2C7F 241-242 244-289 245-28C 250-2C6F 251-2C6D 252-2C70 25C-A7AB 261-A7AC 264-A7CB 265-A78D
  266-A7AA 26A-A7AE 26B-2C62 26C-A7AD 271-2C6E 27D-2C64 282-A7C5 287-A7B1 29D-A7B2 29E-A7B0
  345-399-3B9-1FBE 370-371 372-373 376-377 37F-3F3 386-3AC 38C-3CC 38E-3CD 38F-3CE 390-1FD3
  391-3B1 392-3B2-3D0 393-3B3 394-3B4 395-3B5-3F5 396-3B6 397-3B7 398-3B8-3D1-3F4 39A-3BA-3F0
  39B-3BB 3A0-3C0-3D6 3A1-3C1-3F1 3A3-3C2-3C3 3A4-3C4 3A5-3C5 3A6-3C6-3D5 3A7-3C7 3A8-3C8
  3A9-3C9-2126 3AA-3CA 3AB-3CB 3B0-1FE3 3CF-3D7 3F2-3F9 3F7-3F8 3FA-3FB 410-430 412-432-1C80
  414-434-1C81 41E-43E-1C82 41F-43F 420-440 421-441-1C83 422-442-1C84-1C85 42A-44A-1C86 460-461
  462-463-1C87 4C0-4CF 10C7-2D27 10CD-2D2D 1C88-A64A-A64B 1C89-1C8A 1D79-A77D 1D7D-2C63 1D8E-A7C6
  1E60-1E61-1E9B 1F70-1FBA 1F71-1FBB 1F76-1FDA 1F77-1FDB 1F78-1FF8 1F79-1FF9 1F7A-1FEA 1F7B-1FEB
  1F7C-1FFA 1F7D-1FFB 1FB0-1FB8 1FB1-1FB9 1FB3-1FBC 1FC3-1FCC 1FD0-1FD8 1FD1-1FD9 1FE0-1FE8
  1FE1-1FE9 1FE5-1FEC 1FF3-1FFC 2132-214E 2183-2184 2C60-2C61 2C72-2C73 2C75-2C76 2CEB-2CEC
  2CED-2CEE 2CF2-2CF3 A779-A77A A77B-A77C A78B-A78C A790-A791 A792-A793 A794-A7C4 A7B3-AB53
  A7C7-A7C8 A7C9-A7CA A7CC-A7CD A7D0-A7D1 A7F5-A7F6 FB05-FB06 10594-105BB 10595-105BC"

/-- Every class of case variants with more than one member. -/
def orbits : List (List Nat) :=
  let runs := (CodePoints.words pairRuns).flatMap fun w =>
    match (CodePoints.parts '-' w).map CodePoints.hex with
    | [first, last, step, distance] =>
      (List.range ((last - first) / step + 1)).map fun i =>
        [first + i * step, first + i * step + distance]
    | _ => []
  runs ++ (CodePoints.words otherOrbits).map fun w => (CodePoints.parts '-' w).map CodePoints.hex

/-- The case variants of a code point, itself among them. -/
def variants (c : Nat) : List Nat := (orbits.find? (·.contains c)).getD [c]

/-- The set with the case variants of its members. -/
def close (s : CodePoints) : CodePoints :=
  .ofRanges (s.ranges ++ (orbits.filter (·.any s.contains)).flatten.map fun c => (c, c))

/-- The variants of an ASCII letter within ASCII. -/
def asciiVariants (c : Nat) : List Nat :=
  if 65 ≤ c ∧ c ≤ 90 then [c, c + 32] else if 97 ≤ c ∧ c ≤ 122 then [c - 32, c] else [c]

/-- The set with the case variants of its ASCII letters within ASCII. -/
def closeAscii (s : CodePoints) : CodePoints :=
  .ofRanges (s.ranges ++
    (((List.range 128).filter s.contains).flatMap asciiVariants).map fun c => (c, c))

end Switchboard.CaseFold
