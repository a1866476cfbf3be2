import Switchboard.Proofs.TemplateMatch

/-!
# Texts of required placeholders

A match gives every required placeholder a text, and the captures hold those of them that are not
empty. So with `k` required placeholders, of which `n` have the empty text,

    e.captures s = some l   →   k ≤ l.length + n

and a required placeholder may be there without a capture of its own: `/ban {user}` matches
`"/ban "` and captures nothing.
-/

namespace Switchboard.Template

open scoped List

/-! ## Splits -/

/-- Whether a piece stands for a required placeholder. -/
def Piece.isText : Piece → Bool
  | text => true
  | char _ | option => false

/-- The texts that a split gives to the required placeholders among pieces. -/
def requiredTexts : List Piece → Texts → List (List Char)
  | .char _ :: ps, ts => requiredTexts ps ts
  | .text :: ps, t :: ts => t.getD [] :: requiredTexts ps ts
  | .option :: ps, _ :: ts => requiredTexts ps ts
  | _, _ => []

theorem countP_isText_piecesOf (ps : List Part) :
    (piecesOf ps).countP Piece.isText = ps.countP Part.isRequired := by
  induction ps with
  | nil => rfl
  | cons p ps ih =>
    have hp : ∀ followed, (p.pieces followed).countP Piece.isText =
        if p.isRequired then 1 else 0 := by
      intro followed
      cases p with
      | char c =>
        rw [Part.pieces]
        split <;> rfl
      | required name => rfl
      | optional name => rfl
    rw [piecesOf, List.countP_append, hp, ih, List.countP_cons, Nat.add_comm]

section Split

variable {ps : List Piece} {s : List Char} {ts : Texts}

/-- A split has a text for every required placeholder. -/
theorem Split.length_requiredTexts (h : Split ps s ts) :
    (requiredTexts ps ts).length = ps.countP Piece.isText := by
  induction h with
  | nil => rfl
  | char _ ih => exact ih
  | text _ _ ih => rw [requiredTexts, List.length_cons, ih, List.countP_cons_of_pos rfl]
  | present _ _ ih => exact ih
  | absent _ ih => exact ih

theorem Split.requiredTexts_sublist (h : Split ps s ts) :
    requiredTexts ps ts <+ ts.filterMap id := by
  induction h with
  | nil => exact .slnil
  | char _ ih => exact ih
  | text _ _ ih => exact ih.cons_cons _
  | present _ _ ih => exact ih.cons _
  | absent _ ih => exact ih

/-- The texts of required placeholders that are not empty are taken. -/
theorem Split.taken_requiredTexts (h : Split ps s ts) :
    ((requiredTexts ps ts).map String.ofList).filter (· != "") <+ taken ts := by
  have htaken : taken ts = ((ts.filterMap id).map String.ofList).filter (· != "") := by
    rw [taken, List.map_filterMap]
    rfl
  rw [htaken]
  exact (h.requiredTexts_sublist.map String.ofList).filter _

end Split

/-- Empty texts are all that a list of texts can lose. -/
theorem length_le_filter_add_count (ts : List (List Char)) :
    ts.length ≤ ((ts.map String.ofList).filter (· != "")).length + ts.count [] := by
  induction ts with
  | nil => exact Nat.le_refl 0
  | cons t ts ih =>
    cases t with
    | nil =>
      rw [List.map_cons, List.filter_cons_of_neg (by decide), List.count_cons_self,
        List.length_cons]
      omega
    | cons c t =>
      have hne : (String.ofList (c :: t) != "") = true := by
        simp [← String.toList_inj]
      rw [List.map_cons, List.filter_cons, if_pos hne, List.length_cons, List.length_cons,
        List.count_cons_of_ne (List.cons_ne_nil c t)]
      omega

/-! ## Templates -/

/-- **Required placeholders have texts.** What a template of ordinary parts captures holds, in their
order, those of the texts of its required placeholders that are not empty. So it has as many
elements as there are required placeholders, but for those that stand for the empty text in the
match. -/
theorem required_texts_captured [Regex.Capacity] {ps : List Part}
    (hps : ∀ p ∈ ps, p.isOrdinary = true)
    (happart : ps.IsChain fun p q => p.mayPrecede q = true) {e : Expression}
    (he : Expression.compile (String.ofList (textOf ps)) = .ok e) {s : String} {l : List String}
    (hl : e.captures s = some l) :
    ∃ us : List (List Char), us.length = ps.countP Part.isRequired ∧
      (us ≠ [] → ∃ ts, Preferred (piecesOf ps) s.toList ts ∧ us = requiredTexts (piecesOf ps) ts) ∧
      (us.map String.ofList).filter (· != "") <+ l ∧
      ps.countP Part.isRequired ≤ l.length + us.count [] := by
  by_cases hnone : ps.countP Part.isRequired = 0
  · exact ⟨[], hnone.symm, fun h => absurd rfl h, List.nil_sublist l, hnone ▸ Nat.zero_le _⟩
  · -- with a required placeholder the text is a template, whatever delimiters it has
    have hplaceholder : ∃ p ∈ ps, p.isPlaceholder = true := by
      obtain ⟨p, hp, hrequired⟩ := List.countP_pos_iff.1 (Nat.pos_of_ne_zero hnone)
      refine ⟨p, hp, ?_⟩
      cases p with
      | required name => rfl
      | char c => cases hrequired
      | optional name => cases hrequired
    rw [compile_textOf hps happart hplaceholder] at he
    split at he
    · cases he
      rw [captures_regexOf, Option.map_eq_some_iff] at hl
      obtain ⟨ts, hts, rfl⟩ := hl
      have hpreferred := head?_splits.1 hts
      have hlength := hpreferred.1.length_requiredTexts.trans (countP_isText_piecesOf ps)
      have htaken := hpreferred.1.taken_requiredTexts
      refine ⟨requiredTexts (piecesOf ps) ts, hlength, fun _ => ⟨ts, hpreferred, rfl⟩, htaken, ?_⟩
      calc ps.countP Part.isRequired
        _ = (requiredTexts (piecesOf ps) ts).length := hlength.symm
        _ ≤ _ := length_le_filter_add_count _
        _ ≤ (taken ts).length + (requiredTexts (piecesOf ps) ts).count [] :=
          Nat.add_le_add_right htaken.length_le _
    · cases he

/-- `/ban {user} from {place}` -/
def banFrom : List Part :=
  "/ban ".toList.map .char ++ .required "user".toList :: " from ".toList.map .char ++
    [.required "place".toList]

/-- The texts in `"/ban  from here"` are "" and "here". -/
theorem banFrom_captures_place :
    ∃ e, Expression.compile "/ban \x7buser\x7d from \x7bplace\x7d" = .ok e ∧
      e.captures "/ban  from here" = some ["here"] ∧
      ∃ us : List (List Char), us.length = 2 ∧
        (us ≠ [] → ∃ ts, Preferred (piecesOf banFrom) "/ban  from here".toList ts ∧
          us = requiredTexts (piecesOf banFrom) ts) ∧
        (us.map String.ofList).filter (· != "") <+ ["here"] ∧ 2 ≤ 1 + us.count [] := by
  have hordinary : ∀ p ∈ banFrom, p.isOrdinary = true := by decide
  have happart : banFrom.IsChain fun p q => p.mayPrecede q = true := by decide
  have htext : String.ofList (textOf banFrom) =
      "/ban \x7buser\x7d from \x7bplace\x7d" := by decide
  have hcompile := compile_textOf hordinary happart (by decide)
  rw [if_pos (by decide +kernel)] at hcompile
  have hcaptures : Expression.captures
      ⟨source (String.ofList (textOf banFrom)), regexOf (piecesOf banFrom)⟩ "/ban  from here" =
        some ["here"] := by
    rw [captures_regexOf]
    decide
  exact ⟨_, htext ▸ hcompile, hcaptures,
    required_texts_captured hordinary happart hcompile hcaptures⟩

/-- `/ban {user}` -/
def shortBan : List Part := "/ban ".toList.map .char ++ [.required "user".toList]

/-- A blank is all that has to follow the command. -/
theorem shortBan_captures_nothing :
    (∀ p ∈ shortBan, p.isOrdinary = true) ∧ shortBan.countP Part.isRequired = 1 ∧
    String.ofList (textOf shortBan) = "/ban \x7buser\x7d" ∧
    ∃ e, Expression.compile "/ban \x7buser\x7d" = .ok e ∧ e.captures "/ban " = some [] := by
  have hordinary : ∀ p ∈ shortBan, p.isOrdinary = true := by decide
  have htext : String.ofList (textOf shortBan) = "/ban \x7buser\x7d" := by decide
  have hcompile := compile_textOf hordinary (by decide) (by decide)
  rw [if_pos (by decide +kernel)] at hcompile
  refine ⟨hordinary, rfl, htext, _, htext ▸ hcompile, ?_⟩
  rw [captures_regexOf]
  decide

end Switchboard.Template
