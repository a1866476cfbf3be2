import Switchboard.Proofs.TemplateSource

/-!
# Sources of segments

A template is a sequence of literals and placeholders. Expansion copies the literals and puts a
group for each placeholder:

    source (s₁.text ++ s₂.text ++ …) = "^" ++ s₁.source ++ s₂.source ++ … ++ "$"

Only an optional placeholder reaches beyond itself: it takes the last character of a literal right
before it, unless that ends a line (`Segment.source`). A literal is the sequence of its characters
as parts, so what is known of parts carries over (`Segment.parts`).
-/

namespace Switchboard.Template

/-- A segment of a template: a text that stands for itself, or a placeholder with its name. -/
inductive Segment where
  | literal (text : List Char)
  | required (name : List Char)
  | optional (name : List Char)
deriving DecidableEq

namespace Segment

def text : Segment → List Char
  | literal text => text
  | required name => braceOpen :: (name ++ [braceClose])
  | optional name => braceOpen :: ':' :: (name ++ ['?', braceClose])

/-- Whether a segment is a literal with at least one character and no brace, or a placeholder with a
name of one line without braces, where that of a required one does not start with a colon. -/
def isRegular : Segment → Bool
  | literal text => !text.isEmpty && text.all fun c => c ≠ braceOpen ∧ c ≠ braceClose
  | required name => name.all Part.isInName && name.head? != some ':'
  | optional name => name.all Part.isInName

/-- Whether two segments may follow each other: no optional one comes right after a required one. -/
def mayPrecede : Segment → Segment → Bool
  | required _, optional _ => false
  | _, _ => true

/-- The source of a segment, by whether an optional one follows it. -/
def source (followed : Bool) : Segment → List Char
  | literal text => if followed && text.getLast? != some '\n' then text.dropLast else text
  | required _ => requiredGroup
  | optional _ => optionalGroup

def isOptional : Segment → Bool
  | optional _ => true
  | literal _ | required _ => false

/-- The parts of a segment; a literal is made of its characters. -/
def parts : Segment → List Part
  | literal text => text.map .char
  | required name => [.required name]
  | optional name => [.optional name]

/-- The source of segments, one after the other. -/
def sources : List Segment → List Char
  | [] => []
  | s :: ss => s.source (ss.head?.any isOptional) ++ sources ss

/-! ## Parts of segments -/

theorem textOf_parts (s : Segment) : textOf s.parts = s.text := by
  cases s with
  | literal text =>
    induction text with
    | nil => rfl
    | cons c text ih => exact congrArg (c :: ·) ih
  | required name => exact List.append_nil _
  | optional name => exact List.append_nil _

theorem textOf_flatMap_parts (ss : List Segment) :
    textOf (ss.flatMap parts) = ss.flatMap text := by
  rw [textOf, List.flatMap_assoc]
  exact List.flatMap_congr fun s _ => textOf_parts s

theorem isRegular_parts {s : Segment} (hs : s.isRegular = true) :
    ∀ p ∈ s.parts, p.isRegular = true := by
  cases s with
  | literal text =>
    intro p hp
    obtain ⟨c, hc, rfl⟩ := List.mem_map.1 hp
    rw [isRegular, Bool.and_eq_true] at hs
    exact List.all_eq_true.1 hs.2 c hc
  | required name => exact fun p hp => List.mem_singleton.1 hp ▸ hs
  | optional name => exact fun p hp => List.mem_singleton.1 hp ▸ hs

/-- Parts start with an optional placeholder where the segments do: no literal is empty. -/
theorem startsWithOptional_flatMap {ss : List Segment} (hss : ∀ s ∈ ss, s.isRegular = true) :
    startsWithOptional (ss.flatMap parts) = ss.head?.any isOptional := by
  cases ss with
  | nil => rfl
  | cons s ss =>
    cases s with
    | literal text =>
      cases text with
      | nil => exact absurd (hss _ List.mem_cons_self) (by decide)
      | cons c text => rfl
    | required name => rfl
    | optional name => rfl

theorem isChain_flatMap {ss : List Segment} (hss : ∀ s ∈ ss, s.isRegular = true)
    (happart : ss.IsChain fun s t => s.mayPrecede t = true) :
    (ss.flatMap parts).IsChain fun p q => p.mayPrecede q = true := by
  induction ss with
  | nil => exact .nil
  | cons s ss ih =>
    have hss' := (List.forall_mem_cons.1 hss).2
    have hrest := ih hss' happart.tail
    rw [List.flatMap_cons]
    cases s with
    | literal text =>
      refine List.isChain_append.2 ⟨?_, hrest, fun p hp q _ => ?_⟩
      · exact (List.pairwise_map.2 (List.pairwise_of_forall fun _ _ => rfl)).isChain
      · obtain ⟨c, -, rfl⟩ := List.mem_map.1 (List.mem_of_getLast? hp)
        rfl
    | required name =>
      refine isChain_cons_iff.2 ⟨fun hstart => ?_, hrest⟩
      obtain ⟨t, ht, hoptional⟩ :=
        (Option.any_eq_true _ _).1 ((startsWithOptional_flatMap hss').symm.trans hstart)
      cases t with
      | optional name' => exact absurd (happart.rel_head? ht) (by simp [mayPrecede])
      | literal text => cases hoptional
      | required name' => cases hoptional
    | optional name => exact isChain_cons_iff.2 ⟨fun _ => rfl, hrest⟩

/-- The characters of a literal are copied, but for a last one that is taken. -/
theorem sourceOf_literal {text : List Char} (h : text ≠ []) (ps : List Part) :
    sourceOf (piecesOf (text.map .char ++ ps)) =
      (literal text).source (startsWithOptional ps) ++ sourceOf (piecesOf ps) := by
  induction text with
  | nil => exact absurd rfl h
  | cons c text ih =>
    cases text with
    | nil =>
      rw [List.map_singleton, List.singleton_append, piecesOf, sourceOf_append]
      simp only [Part.pieces, source, List.getLast?_singleton, bne, beq_eq_decide,
        Option.some.injEq]
      split <;> rfl
    | cons d text =>
      have hrest := ih (List.cons_ne_nil d text)
      rw [List.map_cons, List.cons_append, piecesOf, sourceOf_append, hrest]
      simp only [source, List.getLast?_cons_cons, List.dropLast_cons_cons]
      split <;> rfl

theorem sourceOf_flatMap_parts {ss : List Segment} (hss : ∀ s ∈ ss, s.isRegular = true) :
    sourceOf (piecesOf (ss.flatMap parts)) = sources ss := by
  induction ss with
  | nil => rfl
  | cons s ss ih =>
    obtain ⟨hs, hss⟩ := List.forall_mem_cons.1 hss
    rw [sources, ← ih hss, ← startsWithOptional_flatMap hss, List.flatMap_cons]
    cases s with
    | literal text =>
      rw [isRegular, Bool.and_eq_true] at hs
      exact sourceOf_literal (by simpa using hs.1) _
    | required name => rfl
    | optional name => rfl

end Segment

/-! ## Templates -/

/-- **Expansion is exact.** The source of a template is the sources of its segments, in order,
between anchors. -/
theorem source_segments {ss : List Segment} (hss : ∀ s ∈ ss, s.isRegular = true)
    (happart : ss.IsChain fun s t => s.mayPrecede t = true) :
    source (String.ofList (ss.flatMap Segment.text)) =
      "^" ++ String.ofList (Segment.sources ss) ++ "$" := by
  have hregular : ∀ p ∈ ss.flatMap Segment.parts, p.isRegular = true := by
    intro p hp
    obtain ⟨s, hs, hp⟩ := List.mem_flatMap.1 hp
    exact Segment.isRegular_parts (hss s hs) p hp
  rw [source_eq, String.toList_ofList, ← Segment.textOf_flatMap_parts,
    expand_textOf hregular (Segment.isChain_flatMap hss happart),
    Segment.sourceOf_flatMap_parts hss]

/-- Two lines, the second of which starts with optional placeholders. -/
def reminder : List Segment :=
  [.literal "/remind ".toList, .required "user".toList, .literal "\n".toList,
    .optional "when".toList, .optional "why".toList, .literal " or\n".toList]

/-- A line end before a placeholder is kept, and optional ones may follow each other. -/
theorem source_reminder :
    (∀ s ∈ reminder, s.isRegular = true) ∧
    reminder.IsChain (fun s t => s.mayPrecede t = true) ∧
    source "/remind \x7buser\x7d\n\x7b:when?\x7d\x7b:why?\x7d or\n" =
      "^/remind (.*?)\n(?: (.*?))?(?: (.*?))? or\n$" := by
  have hregular : ∀ s ∈ reminder, s.isRegular = true := by decide
  have happart : reminder.IsChain fun s t => s.mayPrecede t = true := by decide
  have htext : String.ofList (reminder.flatMap Segment.text) =
      "/remind \x7buser\x7d\n\x7b:when?\x7d\x7b:why?\x7d or\n" := by decide
  have hsources : "^" ++ String.ofList (Segment.sources reminder) ++ "$" =
      "^/remind (.*?)\n(?: (.*?))?(?: (.*?))? or\n$" := by decide
  exact ⟨hregular, happart, htext ▸ hsources ▸ source_segments hregular happart⟩

end Switchboard.Template
