import Switchboard.Text.Property

/-!
# Lower case

The lower case of a text is that of its characters, with two exceptions: a capital I with a dot
becomes two characters, and a capital sigma at the end of a word becomes a final sigma.
-/

namespace Switchboard.Lowercase

/-- Runs of code points from the first to the second in steps of the third; the fourth is the
lower case of the first. -/
def runs : String := "
  41-5A-1-61 C0-D6-1-E0 D8-DE-1-F8 100-12E-2-101 132-136-2-133 139-147-2-13A 14A-176-2-14B
  179-17D-2-17A 1A0-1A4-2-1A1 1CB-1DB-2-1CC 1DE-1EE-2-1DF 1F8-21E-2-1F9 222-232-2-223 246-24E-2-247
  388-38A-1-3AD 391-3A1-1-3B1 3A3-3AB-1-3C3 3D8-3EE-2-3D9 3FD-3FF-1-37B 400-40F-1-450 410-42F-1-430
  460-480-2-461 48A-4BE-2-48B 4C1-4CD-2-4C2 4D0-52E-2-4D1 531-556-1-561 10A0-10C5-1-2D00
  13A0-13EF-1-AB70 13F0-13F5-1-13F8 1C90-1CBA-1-10D0 1CBD-1CBF-1-10FD 1E00-1E94-2-1E01
  1EA0-1EFE-2-1EA1 1F08-1F0F-1-1F00 1F18-1F1D-1-1F10 1F28-1F2F-1-1F20 1F38-1F3F-1-1F30
  1F48-1F4D-1-1F40 1F59-1F5F-2-1F51 1F68-1F6F-1-1F60 1F88-1F8F-1-1F80 1F98-1F9F-1-1F90
  1FA8-1FAF-1-1FA0 1FC8-1FCB-1-1F72 2160-216F-1-2170 24B6-24CF-1-24D0 2C00-2C2F-1-2C30
  2C67-2C6B-2-2C68 2C80-2CE2-2-2C81 A640-A66C-2-A641 A680-A69A-2-A681 A722-A72E-2-A723
  A732-A76E-2-A733 A77E-A786-2-A77F A796-A7A8-2-A797 A7B4-A7C2-2-A7B5 A7D6-A7DA-2-A7D7
  FF21-FF3A-1-FF41 10400-10427-1-10428 104B0-104D3-1-104D8 10570-1057A-1-10597 1057C-1058A-1-105A3
  1058C-10592-1-105B3 10C80-10CB2-1-10CC0 10D50-10D65-1-10D70 118A0-118BF-1-118C0
  16E40-16E5F-1-16E60 1E900-1E921-1-1E922"

/-- The code points that are in no run, each with its lower case. -/
def others : String := "
  178-FF 181-253 182-183 184-185 186-254 187-188 189-256 18A-257 18B-18C 18E-1DD 18F-259 190-25B
  191-192 193-260 194-263 196-269 197-268 198-199 19C-26F 19D-272 19F-275 1A6-280 1A7-1A8 1A9-283
  1AC-1AD 1AE-288 1AF-1B0 1B1-28A 1B2-28B 1B3-1B4 1B5-1B6 1B7-292 1B8-1B9 1BC-1BD 1C4-1C6 1C5-1C6
  1C7-1C9 1C8-1C9 1CA-1CC 1F1-1F3 1F2-1F3 1F4-1F5 1F6-195 1F7-1BF 220-19E 23A-2C65 23B-23C 23D-19A
  23E-2C66 241-242 243-180 244-289 245-28C 370-371 372-373 376-377 37F-3F3 386-3AC 38C-3CC 38E-3CD
  38F-3CE 3CF-3D7 3F4-3B8 3F7-3F8 3F9-3F2 3FA-3FB 4C0-4CF 10C7-2D27 10CD-2D2D 1C89-1C8A 1E9E-DF
  1FB8-1FB0 1FB9-1FB1 1FBA-1F70 1FBB-1F71 1FBC-1FB3 1FCC-1FC3 1FD8-1FD0 1FD9-1FD1 1FDA-1F76
  1FDB-1F77 1FE8-1FE0 1FE9-1FE1 1FEA-1F7A 1FEB-1F7B 1FEC-1FE5 1FF8-1F78 1FF9-1F79 1FFA-1F7C
  1FFB-1F7D 1FFC-1FF3 2126-3C9 212A-6B 212B-E5 2132-214E 2183-2184 2C60-2C61 2C62-26B 2C63-1D7D
  2C64-27D 2C6D-251 2C6E-271 2C6F-250 2C70-252 2C72-2C73 2C75-2C76 2C7E-23F 2C7F-240 2CEB-2CEC
  2CED-2CEE 2CF2-2CF3 A779-A77A A77B-A77C A77D-1D79 A78B-A78C A78D-265 A790-A791 A792-A793
  A7AA-266 A7AB-25C A7AC-261 A7AD-26C A7AE-26A A7B0-29E A7B1-287 A7B2-29D A7B3-AB53 A7C4-A794
  A7C5-282 A7C6-1D8E A7C7-A7C8 A7C9-A7CA A7CB-264 A7CC-A7CD A7D0-A7D1 A7DC-19B A7F5-A7F6
  10594-105BB 10595-105BC"

/-- Code points that have a lower case of their own, with it. -/
def pairs : List (Nat × Nat) :=
  let fromRuns := (CodePoints.words runs).flatMap fun w =>
    match (CodePoints.parts '-' w).map CodePoints.hex with
    | [first, last, step, target] =>
      (List.range ((last - first) / step + 1)).map fun i => (first + i * step, target + i * step)
    | _ => []
  let fromOthers := (CodePoints.words others).filterMap fun w =>
    match (CodePoints.parts '-' w).map CodePoints.hex with
    | [c, target] => some (c, target)
    | _ => none
  fromRuns ++ fromOthers

/-- The lower case of one character by itself. -/
def ofChar (c : Char) : List Char :=
  if c.toNat = 0x130 then ['i', Char.ofNat 0x307]
  else [Char.ofNat ((pairs.lookup c.toNat).getD c.toNat)]

/-- Whether the nearest character that is not ignored between cased letters is a cased one. -/
def meetsCased (cs : List Char) : Bool :=
  match cs.dropWhile (fun c => Property.caseIgnorable.contains c.toNat) with
  | c :: _ => Property.cased.contains c.toNat
  | [] => false

/-- The lower case of a text, given what stands before it in reverse. -/
def ofChars (before : List Char) : List Char → List Char
  | [] => []
  | c :: cs =>
    (if c.toNat = 0x3A3 then
      [Char.ofNat (if meetsCased before && !meetsCased cs then 0x3C2 else 0x3C3)]
    else ofChar c) ++ ofChars (c :: before) cs

def ofString (s : String) : String := String.ofList (ofChars [] s.toList)

end Switchboard.Lowercase
