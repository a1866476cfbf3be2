import Mathlib.Data.List.Forall2
import Switchboard.Proofs.Exploration
import Switchboard.Proofs.TemplateExpression
import Switchboard.Regex.Memory

/-!
# Templates match what they stand for

The ways of the expression of an outline are the splits of the subject, in the same order
(`ways_pieces`). So a search finds the preferred split, and the captures are its texts:

    (∃ ts, Preferred t.pieces s ts ∧ l = taken ts)  ↔  e.captures s = some l

What ties a way to a split is that its marks record the texts of the placeholders so far
(`Records`).
-/

namespace Switchboard.Template

open Regex (Head Marks ofParts mark ways Takes captured)

/-! ## Records -/

/-- Whether a head is on its way through a subject, with marks that record these texts. -/
structure Records (subject : List Char) (ts : Texts) (h : Head) : Prop where
  rest : h.rest = subject.drop h.position
  position : h.position ≤ subject.length
  slots : ∀ m ∈ h.marks, m.1 < 2 * (ts.length + 1)
  texts : ∀ i, captured subject h.marks (i + 1) = ts[i]?.join.map String.ofList

/-- The marks of other groups do not matter to a group. -/
theorem captured_cons_of_ne {slot i : Nat} (h : slot / 2 ≠ i) (text : List Char) (n : Nat)
    (m : Marks) : captured text ((slot, n) :: m) i = captured text m i := by
  have hfirst : (2 * i == slot) = false := beq_eq_false_iff_ne.2 (by omega)
  have hlast : (2 * i + 1 == slot) = false := beq_eq_false_iff_ne.2 (by omega)
  simp only [captured, List.lookup_cons, hfirst, hlast]

theorem captured_cons_cons (text : List Char) (i first last : Nat) (m : Marks) :
    captured text ((2 * i + 1, last) :: (2 * i, first) :: m) i =
      some (String.ofList ((text.take last).drop first)) := by
  have hfirst : (2 * i == 2 * i + 1) = false := beq_eq_false_iff_ne.2 (by omega)
  simp only [captured, List.lookup_cons, hfirst, beq_self_eq_true]

section Records

variable {subject : List Char} {ts : Texts} {h h' : Head}

theorem records_start (subject : List Char) : Records subject [] ⟨0, none, subject, [(0, 0)]⟩ where
  rest := rfl
  position := Nat.zero_le _
  slots := by simp
  texts := by
    intro i
    rw [captured_cons_of_ne (by omega)]
    rfl

/-- A head that has gone on over some text without a mark. -/
structure Passes (h : Head) (t : List Char) (h' : Head) : Prop where
  position : h'.position = h.position + t.length
  rest : h.rest = t ++ h'.rest
  marks : h'.marks = h.marks

theorem Records.passes {t : List Char} (hr : Records subject ts h) (hp : Passes h t h') :
    Records subject ts h' where
  rest := by
    have := congrArg (List.drop t.length) (hp.rest.symm.trans hr.rest)
    rw [List.drop_left, List.drop_drop] at this
    rw [this, hp.position]
  position := by
    have := congrArg List.length (hp.rest.symm.trans hr.rest)
    rw [List.length_append, List.length_drop] at this
    have := hr.position
    rw [hp.position]
    omega
  slots := hp.marks ▸ hr.slots
  texts := hp.marks ▸ hr.texts

theorem getElem?_concat_of_ne {i : Nat} (hi : i ≠ ts.length) (t : Option (List Char)) :
    (ts ++ [t])[i]? = ts[i]? := by
  rcases Nat.lt_or_gt_of_ne hi with hi | hi
  · exact List.getElem?_append_left hi
  · rw [List.getElem?_eq_none (Nat.le_of_lt hi), List.getElem?_eq_none]
    rw [List.length_append]
    exact hi

/-- A placeholder that is not there leaves no marks. -/
theorem Records.absent (hr : Records subject ts h) : Records subject (ts ++ [none]) h where
  rest := hr.rest
  position := hr.position
  slots := by
    intro m hm
    have := hr.slots m hm
    rw [List.length_append]
    omega
  texts := by
    intro i
    rw [hr.texts]
    by_cases hi : i = ts.length
    · simp [hi]
    · rw [getElem?_concat_of_ne hi]

/-- The marks before and after a text record it. -/
theorem Records.capture {t : List Char} (hr : Records subject ts h)
    (hp : Passes (h.mark (2 * (ts.length + 1))) t h') :
    Records subject (ts ++ [some t]) (h'.mark (2 * (ts.length + 1) + 1)) := by
  have hpasses : Passes h t (h'.withMarks h.marks) := ⟨hp.position, hp.rest, rfl⟩
  have hplain := hr.passes hpasses
  have hmarks : (h'.mark (2 * (ts.length + 1) + 1)).marks =
      (2 * (ts.length + 1) + 1, h'.position) :: (2 * (ts.length + 1), h.position) :: h.marks :=
    congrArg ((2 * (ts.length + 1) + 1, h'.position) :: ·) hp.marks
  refine ⟨hplain.rest, hplain.position, fun m hm => ?_, fun i => ?_⟩
  · rw [hmarks] at hm
    rw [List.length_append, List.length_singleton]
    rcases List.mem_cons.1 hm with rfl | hm
    · simp only
      omega
    · rcases List.mem_cons.1 hm with rfl | hm
      · simp only
        omega
      · have := hr.slots m hm
        omega
  · rw [hmarks]
    by_cases hi : i = ts.length
    · have htext : (subject.take h'.position).drop h.position = t := by
        have hsuffix : t ++ h'.rest = subject.drop h.position := hp.rest.symm.trans hr.rest
        have hlength : h'.position - h.position = t.length := by
          have : h'.position = h.position + t.length := hp.position
          omega
        rw [List.drop_take, ← hsuffix, hlength, List.take_left]
      rw [hi, captured_cons_cons, htext, List.getElem?_concat_length]
      rfl
    · rw [captured_cons_of_ne (by omega), captured_cons_of_ne (by omega), hr.texts,
        getElem?_concat_of_ne hi]

end Records

/-! ## Ways of pieces -/

theorem ofParts_cons {rs : List Regex} (h : rs ≠ []) (r : Regex) :
    ofParts (r :: rs) = .seq r (ofParts rs) := by
  cases rs with
  | nil => exact absurd rfl h
  | cons r' rs => rfl

theorem ways_ofParts_cons (r : Regex) (rs : List Regex) (h : Head) :
    ways (ofParts (r :: rs)) h = (ways r h).flatMap (ways (ofParts rs)) := by
  cases rs with
  | nil => exact (List.flatMap_singleton' (ways r h)).symm
  | cons r' rs => rfl

theorem ways_ofParts_append (rs rs' : List Regex) (h : Head) :
    ways (ofParts (rs ++ rs')) h = (ways (ofParts rs) h).flatMap (ways (ofParts rs')) := by
  induction rs generalizing h with
  | nil => exact (List.flatMap_singleton _ h).symm
  | cons r rs ih =>
    rw [List.cons_append, ways_ofParts_cons, ways_ofParts_cons, List.flatMap_assoc]
    exact List.flatMap_congr fun h' _ => ih h'

theorem contains_lineChar (c : Char) : lineChar.contains c.toNat = decide (c ≠ '\n') := by
  have hranges : lineChar.ranges = [(0, 9), (11, CodePoints.last)] := by decide
  have hlast : c.toNat ≤ CodePoints.last := by
    have := c.valid
    unfold UInt32.isValidChar Nat.isValidChar at this
    have : c.toNat = c.val.toNat := rfl
    unfold CodePoints.last
    omega
  have hnewline : c = '\n' ↔ c.toNat = 10 := ⟨congrArg Char.toNat, fun h => Char.toNat_inj.1 h⟩
  rw [CodePoints.contains, hranges, Bool.eq_iff_iff, decide_eq_true_eq, ne_eq, hnewline]
  simp only [CodePoints.inRanges, Nat.not_lt_zero, if_false, hlast, if_true]
  split
  · simp only [true_iff]
    omega
  · split
    · simp only [Bool.false_eq_true, false_iff, Decidable.not_not]
      omega
    · simp only [true_iff]
      omega

theorem contains_single (c d : Char) :
    (CodePoints.single c.toNat).contains d.toNat = true ↔ d = c := by
  rw [CodePoints.contains_single, beq_iff_eq]
  exact ⟨fun h => Char.toNat_inj.1 h, congrArg Char.toNat⟩

/-- The head after one character. -/
def next (h : Head) (c : Char) : Head := ⟨h.position + 1, some c, h.rest.tail, h.marks⟩

theorem passes_next {h : Head} {c : Char} (hr : h.rest.head? = some c) : Passes h [c] (next h c) :=
  ⟨rfl, (List.eq_cons_of_mem_head? hr), rfl⟩

theorem ways_char (h : Head) (c : Char) :
    ways (.one (.single c.toNat)) h = if h.rest.head? = some c then [next h c] else [] := by
  cases hs : h.rest with
  | nil => simp [ways, Head.take, hs]
  | cons d s => by_cases hd : d = c <;> simp [ways, Head.take, hs, contains_single, hd, next]

theorem Passes.trans {h h₁ h' : Head} {t t' : List Char} (hp : Passes h t h₁)
    (hp' : Passes h₁ t' h') : Passes h (t ++ t') h' where
  position := by rw [hp'.position, hp.position, List.length_append, Nat.add_assoc]
  rest := by rw [hp.rest, hp'.rest, List.append_assoc]
  marks := hp'.marks.trans hp.marks

/-- A lazy loop over characters takes the fronts of what is left, the shortest first. -/
theorem ways_lazyLine (h : Head) :
    List.Forall₂ (fun h' r => Passes h r.1 h' ∧ h'.rest = r.2) (ways lazyLine h)
      (fronts h.rest) := by
  have htakes : Takes (ways (.one lineChar)) := Regex.takes_ways (by decide)
  have hmany : ∀ h, ways lazyLine h =
      h :: ((ways (.one lineChar) h).flatMap (ways lazyLine)) := by
    intro h
    have hloop : ∀ h, ways lazyLine h = Regex.many (ways (.one lineChar)) false h := by
      intro h
      simp [lazyLine, ways, Regex.times]
    rw [hloop, Regex.many_eq htakes]
    simp [funext hloop]
  have hself : ∀ h : Head, Passes h [] h := fun h => ⟨rfl, rfl, rfl⟩
  -- both sides recurse on what is left: the way out comes first, then all that take a character
  generalize hs : h.rest = s
  induction s generalizing h with
  | nil =>
    have hnone : ways (.one lineChar) h = [] := by simp [ways, Head.take, hs]
    rw [hmany, hnone, fronts]
    exact .cons ⟨hself h, hs⟩ .nil
  | cons c s ih =>
    rw [hmany, fronts]
    refine .cons ⟨hself h, hs⟩ ?_
    by_cases hc : c = '\n'
    · have hnone : ways (.one lineChar) h = [] := by
        have hn : lineChar.contains c.toNat = false := by
          rw [contains_lineChar, hc]
          rfl
        simp [ways, Head.take, hs, hn]
      rw [hnone, if_pos hc]
      exact .nil
    · have hone : ways (.one lineChar) h = [⟨h.position + 1, some c, s, h.marks⟩] := by
        simp [ways, Head.take, hs, contains_lineChar, hc]
      rw [hone, if_neg hc, List.flatMap_singleton, List.forall₂_map_right_iff]
      have hnext : Passes h [c] ⟨h.position + 1, some c, s, h.marks⟩ := ⟨rfl, hs, rfl⟩
      refine (ih ⟨h.position + 1, some c, s, h.marks⟩ rfl).imp fun h' r hr => ?_
      exact ⟨hnext.trans hr.1, hr.2⟩

/-- Whether a way stands for a reading of a piece. -/
def Reads (subject : List Char) (ts : Texts) (p : Piece) (h : Head) (r : Texts × List Char) :
    Prop :=
  Records subject (ts ++ r.1) h ∧ h.rest = r.2 ∧ (ts ++ r.1).length = ts.length + p.groups

section Reads

variable {subject : List Char} {ts : Texts} {h : Head}

/-- The ways of a capture are the fronts of what is left, with marks that record them. -/
theorem ways_capture (hr : Records subject ts h) :
    List.Forall₂ (fun h' r => Records subject (ts ++ [some r.1]) h' ∧ h'.rest = r.2)
      (ways (ofParts (capture (ts.length + 1))) h) (fronts h.rest) := by
  have hways : ways (ofParts (capture (ts.length + 1))) h =
      (ways lazyLine (h.mark (2 * (ts.length + 1)))).map
        (·.mark (2 * (ts.length + 1) + 1)) := by
    simp [capture, ofParts, ways, ← List.map_eq_flatMap]
  rw [hways, List.forall₂_map_left_iff]
  exact (ways_lazyLine (h.mark (2 * (ts.length + 1)))).imp fun h' r hp => ⟨hr.capture hp.1, hp.2⟩

/-- The step lemma of matching: the ways of a piece are its readings. -/
theorem ways_piece (hr : Records subject ts h) (p : Piece) :
    List.Forall₂ (Reads subject ts p) (ways (ofParts (p.regexes (ts.length + 1))) h)
      (p.readings h.rest) := by
  have hcapture : ∀ {h : Head} (p : Piece), p.groups = 1 → Records subject ts h →
      List.Forall₂ (Reads subject ts p) (ways (ofParts (capture (ts.length + 1))) h)
        ((fronts h.rest).map asText) := by
    intro h p hp hr
    rw [List.forall₂_map_right_iff]
    refine (ways_capture hr).imp fun h' r hr' => ⟨hr'.1, hr'.2, ?_⟩
    rw [List.length_append, hp]
    rfl
  cases p with
  | char c =>
    rw [Piece.regexes, Piece.readings, ofParts, ways_char]
    split
    · rename_i hc
      refine .cons ⟨?_, rfl, ?_⟩ .nil
      · rw [List.append_nil]
        exact hr.passes (passes_next hc)
      · rw [List.append_nil]
        rfl
    · exact .nil
  | text => exact hcapture .text rfl hr
  | option =>
    have hways : ways (ofParts (Piece.option.regexes (ts.length + 1))) h =
        (if h.rest.head? = some ' ' then
          ways (ofParts (capture (ts.length + 1))) (next h ' ') else []) ++ [h] := by
      have hbody : ways (ofParts (blank :: capture (ts.length + 1))) h =
          if h.rest.head? = some ' ' then
            ways (ofParts (capture (ts.length + 1))) (next h ' ') else [] := by
        rw [ways_ofParts_cons, blank, ways_char]
        split <;> simp
      rw [← hbody]
      simp [Piece.regexes, ofParts, ways, Regex.times, Regex.upTo]
    rw [hways, Piece.readings]
    refine List.rel_append ?_ (.cons ⟨hr.absent, rfl, ?_⟩ .nil)
    · split
      · rename_i hblank
        exact hcapture .option rfl (hr.passes (passes_next hblank))
      · exact .nil
    · rw [List.length_append]
      rfl

/-- The run lemma of matching: the ways of pieces up to the end of the subject are its splits. -/
theorem ways_pieces (ps : List Piece) (hr : Records subject ts h) :
    List.Forall₂ (fun h' us => Records subject (ts ++ us) h')
      (ways (ofParts (regexesOf ts.length ps ++ [.look .textEnd])) h) (splits ps h.rest) := by
  induction ps generalizing ts h with
  | nil =>
    have hways : ways (ofParts (regexesOf ts.length [] ++ [.look .textEnd])) h =
        if h.rest.isEmpty then [h] else [] := by
      cases hs : h.rest <;>
        simp [regexesOf, ofParts, ways, Head.place, Regex.Place.satisfies, hs]
    rw [hways, splits]
    split
    · refine .cons ?_ .nil
      rw [List.append_nil]
      exact hr
    · exact .nil
  | cons p ps ih =>
    rw [regexesOf, List.append_assoc, ways_ofParts_append, splits]
    refine List.rel_flatMap (ways_piece hr p) fun h' r hr' => ?_
    obtain ⟨hrec, hrest, hlength⟩ := hr'
    rw [List.forall₂_map_right_iff, ← hrest, ← hlength]
    simpa only [List.append_assoc] using ih hrec

end Reads

/-! ## Searching -/

theorem steady_ofParts {rs : List Regex} (h : ∀ r ∈ rs, r.steady = true) :
    (ofParts rs).steady = true := by
  induction rs with
  | nil => rfl
  | cons r rs ih =>
    obtain ⟨hr, hrs⟩ := List.forall_mem_cons.1 h
    cases rs with
    | nil => exact hr
    | cons r' rs => exact Bool.and_eq_true _ _ ▸ ⟨hr, ih hrs⟩

theorem steady_regexesOf (ps : List Piece) (g : Nat) : ∀ r ∈ regexesOf g ps, r.steady = true := by
  have hcapture : ∀ index, ∀ r ∈ capture index, r.steady = true := by
    intro index
    simp only [capture, List.forall_mem_cons, List.not_mem_nil, false_imp_iff, implies_true]
    exact ⟨rfl, by decide, rfl, trivial⟩
  induction ps generalizing g with
  | nil => exact fun r hr => absurd hr List.not_mem_nil
  | cons p ps ih =>
    intro r hr
    rcases List.mem_append.1 hr with hr | hr
    · cases p with
      | char c =>
        rw [List.mem_singleton.1 hr]
        rfl
      | text => exact hcapture _ r hr
      | option =>
        have hbody : (ofParts (blank :: capture (g + 1))).steady = true :=
          steady_ofParts (List.forall_mem_cons.2 ⟨rfl, hcapture (g + 1)⟩)
        rw [List.mem_singleton.1 hr]
        exact Bool.and_eq_true _ _ ▸ ⟨hbody, rfl⟩
    · exact ih _ r hr

/-- What a search for the expression of pieces finds: marks that record the preferred split. -/
theorem search_regexOf (ps : List Piece) (subject : List Char) :
    Regex.search (regexOf ps) subject =
      (ways (ofParts (regexesOf 0 ps ++ [.look .textEnd])) ⟨0, none, subject, [(0, 0)]⟩).head?.map
        Head.finish := by
  have hsteady : ∀ r ∈ regexesOf 0 ps ++ [.look .textEnd], r.steady = true := by
    intro r hr
    rcases List.mem_append.1 hr with hr | hr
    · exact steady_regexesOf ps 0 r hr
    · rw [List.mem_singleton.1 hr]
      rfl
  rw [regexOf, ofParts_cons (by simp), Regex.search_textStart (steady_ofParts hsteady)]
  rfl

/-! ## Captures -/

theorem filterMap_range_eq {α : Type} {f : Nat → Option α} {m n : Nat} (hmn : m ≤ n)
    (hf : ∀ i, m ≤ i → f i = none) : (List.range n).filterMap f = (List.range m).filterMap f := by
  induction n, hmn using Nat.le_induction with
  | base => rfl
  | succ n hn ih => simp [List.range_succ, List.filterMap_append, ih, hf n hn]

theorem map_range_getElem? (ts : Texts) :
    (List.range ts.length).map (fun i => ts[i]?.join) = ts := by
  refine List.ext_getElem (by simp) fun i hi hi' => ?_
  simp [List.getElem?_eq_getElem hi']

theorem lookup_eq_none_of_lt {m : Marks} {slot : Nat} (h : ∀ a ∈ m, a.1 < slot) :
    m.lookup slot = none := by
  induction m with
  | nil => rfl
  | cons a m ih =>
    obtain ⟨ha, hm⟩ := List.forall_mem_cons.1 h
    have hne : (slot == a.1) = false := beq_eq_false_iff_ne.2 (Nat.ne_of_gt ha)
    rw [List.lookup_cons, hne]
    exact ih hm

/-- The captures are the texts that a way has recorded. -/
theorem Records.taken {subject : List Char} {ts : Texts} {h : Head} (hr : Records subject ts h) :
    ((List.range (h.finish.foldl (fun n m => Nat.max n m.1) 0 / 2)).filterMap fun i =>
      captured subject h.finish (i + 1)).filter (· != "") = Template.taken ts := by
  have hslots : ∀ m ∈ h.finish, m.1 ≤ 2 * ts.length + 1 := by
    refine List.forall_mem_cons.2 ⟨by simp only; omega, fun m hm => ?_⟩
    have := hr.slots m hm
    omega
  have hmax := (foldl_max_le_iff _).2 ⟨Nat.zero_le _, hslots⟩
  -- the highest slot may be below that of the last placeholder, if that has no text
  have hall : ∀ m ∈ h.finish, m.1 ≤ h.finish.foldl (fun n m => Nat.max n m.1) 0 :=
    ((foldl_max_le_iff _).1 (Nat.le_refl _)).2
  generalize h.finish.foldl (fun n m => Nat.max n m.1) 0 = top at hmax hall
  have hbeyond : ∀ i, top / 2 ≤ i → captured subject h.finish (i + 1) = none := by
    intro i hi
    have hnone : h.finish.lookup (2 * (i + 1)) = none :=
      lookup_eq_none_of_lt fun m hm => by
        have := hall m hm
        omega
    rw [captured, hnone]
  have htexts : ∀ i, captured subject h.finish (i + 1) = ts[i]?.join.map String.ofList := by
    intro i
    rw [Head.finish, captured_cons_of_ne (by omega), hr.texts]
  rw [Template.taken, ← filterMap_range_eq (by omega : top / 2 ≤ ts.length) hbeyond]
  congr 1
  conv_rhs => rw [← map_range_getElem? ts, List.filterMap_map]
  exact List.filterMap_congr fun i _ => htexts i

/-- What an expression of pieces captures: the texts of the preferred split. -/
theorem captures_regexOf (source : String) (ps : List Piece) (s : String) :
    Expression.captures ⟨source, regexOf ps⟩ s = (splits ps s.toList).head?.map taken := by
  have hways : List.Forall₂ (fun h us => Records s.toList us h)
      (ways (ofParts (regexesOf 0 ps ++ [.look .textEnd])) ⟨0, none, s.toList, [(0, 0)]⟩)
      (splits ps s.toList) := ways_pieces ps (records_start s.toList)
  rw [Expression.captures, search_regexOf, Option.map_map]
  generalize ways (ofParts (regexesOf 0 ps ++ [.look .textEnd])) ⟨0, none, s.toList, [(0, 0)]⟩ = ws
    at hways ⊢
  generalize splits ps s.toList = us at hways ⊢
  cases hways with
  | nil => rfl
  | cons hr _ => exact congrArg some hr.taken

/-! ## Instances -/

/-- `/ban {user} {:time?}` -/
def ban : Outline where
  parts := "/ban ".toList.map .char ++
    [.required "user".toList, .char ' ', .optional "time".toList]
  isWellFormed := by decide
  isApart := by decide
  hasPlaceholder := by decide

/-- Placeholders without names, one after the other. -/
def crowd (n : Nat) : Outline where
  parts := List.replicate (n + 1) (.required [])
  isWellFormed := fun p hp => by rw [List.eq_of_mem_replicate hp]; rfl
  isApart := List.isChain_replicate_of_rel _ rfl
  hasPlaceholder := ⟨_, List.mem_replicate.2 ⟨Nat.succ_ne_zero n, rfl⟩, rfl⟩

theorem memory_ofParts_cons (direction : Regex.Direction) (r : Regex) {rs : List Regex}
    (hrs : rs ≠ []) : Regex.memory direction (ofParts (r :: rs)) =
      Regex.memory direction r + Regex.memory direction (ofParts rs) := by
  cases rs with
  | nil => exact absurd rfl hrs
  | cons s rs => rfl

theorem pieces_crowd (n : Nat) : (crowd n).pieces = List.replicate (n + 1) .text := by
  have hpieces : ∀ n, pieces (List.replicate n (.required [])) = List.replicate n .text := by
    intro n
    induction n with
    | zero => rfl
    | succ n ih => rw [List.replicate_succ, pieces, ih, List.replicate_succ]
  exact hpieces (n + 1)

/-- Read backwards, each text takes 1040 bytes. -/
theorem memory_texts (n g : Nat) :
    1040 * n ≤ Regex.memory .backward
      (ofParts (regexesOf g (List.replicate n .text) ++ [.look .textEnd])) := by
  have hline : Regex.memory .backward lazyLine = 1040 := by decide +kernel
  induction n generalizing g with
  | zero => exact Nat.zero_le _
  | succ n ih =>
    have hrest := ih (g + 1)
    rw [List.replicate_succ, regexesOf, List.append_assoc]
    simp only [Piece.regexes, Piece.groups, capture, List.cons_append, List.nil_append]
    simp only [memory_ofParts_cons, ne_eq, List.cons_ne_nil, List.append_eq_nil_iff, and_false,
      not_false_eq_true, Regex.memory, hline]
    omega

theorem memory_crowd (n : Nat) :
    1040 * (n + 1) ≤ Regex.memory .backward (regexOf (crowd n).pieces) := by
  have htexts := memory_texts (n + 1) 0
  rw [pieces_crowd, regexOf, memory_ofParts_cons .backward _ (by simp)]
  omega

/-- An engine of the usual capacity has no room for a large crowd. -/
theorem crowd_not_fits : Regex.Capacity.fits (regexOf (crowd 29999).pieces) = false := by
  have hlarge : ¬ Regex.memory .backward (regexOf (crowd 29999).pieces) ≤ Regex.maxMemory :=
    Nat.not_le.2 (Nat.lt_of_lt_of_le (by decide) (memory_crowd 29999))
  simp [Regex.Capacity.fits, hlarge]

/-! ## Templates -/

/-- Templates match what they stand for. An outline that the engine has room for gives an
expression. It matches a subject exactly if that can be split into the pieces, and then captures the
texts of the preferred split that are there and not empty. Without room there is an error, which
tells the source. -/
theorem outline_captures [Regex.Capacity] (t : Outline) :
    (Regex.Capacity.fits (regexOf t.pieces) = true →
      ∃ e, Expression.compile t.text = .ok e ∧ ∀ s : String,
        ((e.captures s).isSome ↔ ∃ ts, Split t.pieces s.toList ts) ∧
        ∀ l, e.captures s = some l ↔ ∃ ts, Preferred t.pieces s.toList ts ∧ l = taken ts) ∧
    (Regex.Capacity.fits (regexOf t.pieces) = false →
      Expression.compile t.text = .error (.invalid (source t.text))) := by
  refine ⟨fun hfits => ⟨⟨source t.text, regexOf t.pieces⟩, ?_, fun s => ?_⟩, fun hfits => ?_⟩
  · rw [compile_text, if_pos hfits]
  · rw [captures_regexOf]
    constructor
    · rw [exists_split_iff, Option.isSome_map]
    · intro l
      simp only [Option.map_eq_some_iff, head?_splits]
      exact exists_congr fun ts => and_congr_right fun _ => eq_comm
  · rw [compile_text, hfits]
    rfl

theorem ban_captures :
    (∃ e, Expression.compile ban.text = .ok e ∧
      e.captures "/ban bob for 5m" = some ["bob", "for 5m"]) ∧
    Expression.compile (crowd 29999).text = .error (.invalid (source (crowd 29999).text)) := by
  constructor
  · obtain ⟨e, he, h⟩ := (outline_captures ban).1 (by decide +kernel)
    refine ⟨e, he, ((h _).2 _).2 ⟨[some "bob".toList, some "for 5m".toList], ?_, by decide⟩⟩
    exact head?_splits.1 (by decide)
  · exact (outline_captures (crowd 29999)).2 crowd_not_fits

/-- An outline may be well formed and still too large. -/
theorem crowd_too_large : ¬ ∃ e, Expression.compile (crowd 29999).text = .ok e := by
  rintro ⟨e, he⟩
  rw [compile_text, crowd_not_fits] at he
  cases he

end Switchboard.Template
