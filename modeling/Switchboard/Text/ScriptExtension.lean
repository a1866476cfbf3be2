import Switchboard.Text.Script

/-!
# Script extensions

Some marks, numerals and signs are used with several scripts, or with another one than their own.
A code point that no line names here is used with its script alone.
-/

namespace Switchboard.Script

/-- One line per set of scripts, by their short names: the code points that are used with all of
these and no other. -/
def shared : String := "
beng 1CF7
deva 1CD1 1CD4 1CDB 1CDE-1CDF 1CE3-1CE8 1CEC 1CEE-1CF1
dupl 2E3C 1BCA0-1BCA3
grek 342 345 1DC0-1DC1
hani 3006 303E-303F 3190-319F 31C0-31E5 3220-3247 3280-32B0 32C0-32CB 32FF 3358-3370 337B-337F 33E0-33FE 1D360-1D371 1F250-1F251
latn 363-36F
nand 1CFA
runr 16EB-16ED
syrc 1DFA
adlm/arab 204F
arab/copt 102E0-102FB
arab/nkoo FD3E-FD3F
arab/rohg 6D4
arab/syrc 64B-655 670
arab/thaa FDF2 FDFD
avst/orkh 2E30
beng/deva 1CE1 1CF5-1CF6
bopo/hani 302A-302D
bopo/latn 2C7 2C9-2CB 2D9
bugi/java A9CF
copt/grek 374-375
copt/latn 2E17
cprt/linb 10102 10137-1013F
cyrl/glag 484 487 2E43 A66F
cyrl/latn 485-486
cyrl/perm 483
deva/gran 1CF3 1CF8-1CF9
deva/newa 1CEB
deva/shrd 1CD9 1CDC-1CDD 1CE0
deva/taml A8F3
ethi/latn 30E
gran/taml BE6-BF3 11301 11303 1133B-1133C 11FD0-11FD1 11FD3
gujr/khoj AE6-AEF
guru/mult A66-A6F
hani/latn A700-A707
hani/tang 2FF0-2FFF 31EF
hira/kana 3031-3035 3099-309C 30A0 30FC FF70 FF9E-FF9F
latn/lisu 2CD
latn/osge 358
latn/sunu 30D 310
latn/syrc 325 32E
latn/tfng 309
latn/thai 2D7
mani/ougr 10AF2
mong/phag 1802-1803 1805
adlm/arab/hung 2E41
aghb/latn/todr 35E
arab/syrc/thaa 61C
arab/thaa/yezi 660-669
armn/geor/glag 589
beng/cakm/sylo 9E6-9EF
beng/deva/shrd 1CEA
beng/deva/telu 1CD6
beng/deva/tutg A8F1
cakm/mymr/tale 1040-1049
cher/latn/syrc 330
cher/latn/tale 30C
cpmn/cprt/linb 10100-10101
cprt/lina/linb 10107-10133
cyrl/latn/syrc 1DF8
cyrl/latn/todr 311
deva/gran/knda 1CD3
deva/gran/latn 20F0
deva/nand/newa 1CE9
deva/newa/shrd 1CD7
deva/newa/tirh 1CE2
dupl/latn/syrc 30A
geor/glag/latn 10FB
hani/hira/kana 303C-303D
kali/latn/mymr A92E
knda/nand/tutg CE6-CEF
latn/mong/phag 202F
latn/sunu/syrc 32D
beng/deva/gran/knda 1CD0 1CD2
beng/deva/newa/shrd 1CED
beng/deva/newa/telu 1CD8
buhd/hano/tagb/tglg 1735-1736
cari/grek/hung/mero 205D
cher/cyrl/latn/osge 30B
cher/cyrl/latn/tfng 302
cher/dupl/latn/syrc 324
deva/dogr/kthi/mahj 966-96F
deva/gran/knda/tutg 1CF4
grek/latn/perm/todr 313
beng/deva/newa/telu/tirh 1CD5
bopo/hang/hani/hira/kana 3003 3013 301C-301F 3030 3037 FE45-FE46
cyrl/grek/latn/perm/tfng 306
glag/latn/sunu/syrc/thai 303
bopo/hang/hani/hira/kana/yiii 300C-3011 3014-301B 30FB FF61-FF65
cari/geor/glag/hung/lyci/orkh 205A
cher/dupl/kana/latn/syrc/tfng 323
copt/elba/glag/goth/kana/latn 305
deva/knda/mlym/orya/taml/telu 1CDA
aghb/cher/goth/latn/sunu/syrc/thai 331
arab/gara/nkoo/rohg/syrc/thaa/yezi 60C 61B
avst/cari/geor/hung/kthi/lydi/samr 2E31
beng/cyrl/deva/latn/lisu/thai/toto 2BC
bopo/hang/hani/hira/kana/mong/yiii 3001
adlm/arab/gara/nkoo/rohg/syrc/thaa/yezi 61F
bopo/hang/hani/hira/kana/mong/phag/yiii 3002
bopo/hang/hani/hira/kana/mong/tibt/yiii 3008-3009
cher/copt/cyrl/grek/latn/perm/sunu/tale 300
cher/cyrl/grek/latn/osge/sunu/tale/todr 301
adlm/arab/mand/mani/ougr/phlp/rohg/sogd/syrc 640
bopo/hang/hani/hira/kana/lisu/mong/tibt/yiii 300A-300B
copt/dupl/hebr/latn/perm/syrc/tale/tfng/todr 307
aghb/cher/copt/cyrl/goth/grek/latn/osge/syrc/tfng/todr 304
armn/cyrl/dupl/goth/grek/hebr/latn/perm/syrc/tale/tfng 308
beng/deva/gran/knda/mlym/nand/orya/sinh/telu/tirh/tutg 1CF2
deva/dogr/gujr/guru/khoj/kthi/mahj/modi/sind/takr/tirh A836-A837 A839
deva/dogr/gujr/guru/khoj/kthi/mahj/modi/shrd/sind/takr/tirh A838
beng/deva/gran/gujr/guru/knda/latn/mlym/newa/orya/taml/telu/tirh 952
beng/deva/gran/gujr/guru/knda/latn/mlym/nand/newa/orya/shrd/taml/telu/tirh 951
deva/dogr/gujr/guru/khoj/knda/kthi/mahj/modi/nand/shrd/sind/takr/tirh/tutg A833-A835
avst/cari/copt/dupl/elba/geor/glag/gong/goth/grek/hani/latn/lydi/mahj/perm/shaw B7
deva/dogr/gujr/guru/khoj/knda/kthi/mahj/mlym/modi/nand/shrd/sind/takr/tirh/tutg A830-A832
beng/deva/dogr/gong/gonm/gran/gujr/guru/knda/mahj/mlym/nand/onao/orya/sind/sinh/sylo/takr/taml/telu/tirh 964
beng/deva/dogr/gong/gonm/gran/gujr/gukh/guru/knda/limb/mahj/mlym/nand/onao/orya/sind/sinh/sylo/takr/taml/telu/tirh 965
"

/-- The code points that are used with a script. -/
def users? (name : String) : Option CodePoints :=
  (line? name).map fun (short, own) =>
    let lines := (CodePoints.rows shared).map fun row =>
      match row with
      | [] => ([], CodePoints.none)
      | scripts :: points => (CodePoints.parts '/' scripts, .ofWords points)
    .union (own.difference (.union (lines.map (·.2))) ::
      (lines.filter fun (scripts, _) => scripts.contains short).map (·.2))

end Switchboard.Script
