import Switchboard.Proofs.Anchors

/-!
# Flags in front of an expression

Flags in front of an expression are a part of its first alternative that matches nothing. They make
no difference to the ways of the expression (`alternatives_behind_flags`), though they may make one
to its tree: what would be the only part of an alternative is flattened behind them.
-/

namespace Switchboard

namespace Regex

/-! ## Proper sequences -/

/-- Whether a sequence has two parts at least. -/
def IsProper (r : Regex) : Prop := ∀ a b, r = seq a b → 2 ≤ (parts r).length

theorem parts_of_mem_parts {r p : Regex} (hp : p ∈ parts r) : parts p = [p] := by
  induction r with
  | empty => cases hp
  | seq a b iha ihb => exact (List.mem_append.1 hp).elim iha ihb
  | one | look | mark | alt | loop => rw [List.mem_singleton.1 hp]; rfl

/-- Parts that are no sequences are those of the sequence of them. -/
theorem parts_ofParts {rs : List Regex} (h : ∀ r ∈ rs, parts r = [r]) :
    parts (ofParts rs) = rs := by
  induction rs with
  | nil => rfl
  | cons r rs ih =>
    obtain ⟨hr, hrs⟩ := List.forall_mem_cons.1 h
    cases rs with
    | nil => exact hr
    | cons r' rs => exact congrArg₂ _ hr (ih hrs)

theorem parts_sequence (rs : List Regex) : parts (sequence rs) = rs.flatMap parts := by
  refine parts_ofParts fun p hp => ?_
  obtain ⟨r, -, hp⟩ := List.mem_flatMap.1 hp
  exact parts_of_mem_parts hp

theorem parts_ofParts_parts (r : Regex) : parts (ofParts (parts r)) = parts r :=
  parts_ofParts fun _ hp => parts_of_mem_parts hp

theorem not_seq_of_mem_parts {r a b : Regex} : seq a b ∉ parts r := by
  induction r with
  | empty => exact List.not_mem_nil
  | seq c d ihc ihd => exact fun h => (List.mem_append.1 h).elim ihc ihd
  | one | look | mark | alt | loop => simp [parts]

theorem isProper_ofParts {rs : List Regex} (h : ∀ r ∈ rs, parts r = [r]) :
    (ofParts rs).IsProper := by
  intro a b hseq
  rw [parts_ofParts h]
  match rs with
  | [] => cases hseq
  | [r] =>
    obtain rfl : r = seq a b := hseq
    have hself : seq a b ∈ parts (seq a b) := by
      rw [h _ List.mem_cons_self]
      exact List.mem_cons_self
    exact (not_seq_of_mem_parts hself).elim
  | _ :: _ :: rs => simp

theorem isProper_sequence (rs : List Regex) : (sequence rs).IsProper := by
  refine isProper_ofParts fun p hp => ?_
  obtain ⟨r, -, hp⟩ := List.mem_flatMap.1 hp
  exact parts_of_mem_parts hp

theorem isProper_group (index : Nat) (r : Regex) : (group index r).IsProper := by
  intro a b _
  simp [group, parts]

theorem isProper_repeated {r : Regex} (hr : r.IsProper) (min : Nat) (max : Option Nat)
    (greedy : Bool) : (repeated r min max greedy).IsProper := by
  have hloop : ∀ {r : Regex} {min : Nat} {max : Option Nat} {greedy : Bool},
      (loop r min max greedy).IsProper := fun a b h => by cases h
  unfold repeated
  generalize (if isEmptyOnly r then _ else (min, max)) = bounds
  dsimp only
  split
  · intro a b h
    cases h
  · split
    · exact hr
    · split
      · exact hloop
      · exact hloop

/-! ## Alternatives -/

theorem choices_ne_nil (r : Regex) : choices r ≠ [] := by
  induction r with
  | alt a b iha _ => simp [choices, iha]
  | _ => simp [choices]

theorem isProper_alt (r r' : Regex) : (alt r r').IsProper := fun a b h => by cases h

theorem isProper_factored (depth : Nat) {rs : List Regex} (h : 2 ≤ rs.length) :
    (factored depth rs).IsProper := by
  have hchoices : (ofChoices rs).IsProper := by
    match rs with
    | r :: r' :: rs => exact isProper_alt r _
  cases depth with
  | zero => exact hchoices
  | succ depth =>
    unfold factored
    split
    · simp at h
    · split
      · intro a b hseq
        cases hseq
      · dsimp only
        split
        · exact hchoices
        · exact isProper_sequence _

theorem isProper_alternation {rs : List Regex} (h : 2 ≤ rs.length) :
    (alternation rs).IsProper := by
  refine isProper_factored _ ?_
  match rs with
  | r :: r' :: rs =>
    have hr := List.length_pos_iff.2 (choices_ne_nil r)
    have hr' := List.length_pos_iff.2 (choices_ne_nil r')
    simp only [List.flatMap_cons, List.length_append]
    omega

/-! ## The first alternative -/

theorem ways_sequence (rs : List Regex) (h : Head) :
    ways (sequence rs) h = ways (ofParts rs) h := by
  induction rs generalizing h with
  | nil => rfl
  | cons r rs ih =>
    rw [sequence, List.flatMap_cons, Template.ways_ofParts_append, ways_ofParts_parts,
      Template.ways_ofParts_cons]
    exact List.flatMap_congr fun h' _ => ih h'

/-- A proper expression is flat or a sequence, which stays one when it is flattened. -/
theorem IsProper.flat_or_seq {r : Regex} (hr : r.IsProper) : ofParts (parts r) = r ∨
    (∃ a b, r = seq a b) ∧ ∃ a b, ofParts (parts r) = seq a b := by
  cases r with
  | seq a b =>
    refine .inr ⟨⟨a, b, rfl⟩, ?_⟩
    have hlength := hr a b rfl
    match hparts : parts (seq a b) with
    | [] => simp [hparts] at hlength
    | [p] => simp [hparts] at hlength
    | p :: p' :: ps => exact ⟨p, ofParts (p' :: ps), rfl⟩
  | empty | one | look | mark | alt | loop => exact .inl rfl

/-- Flattening the first one of flat alternatives makes no difference. -/
theorem ways_factored_flat {r : Regex} (hr : r.IsProper) (depth : Nat) (rs : List Regex)
    (h : Head) :
    ways (factored depth (ofParts (parts r) :: rs)) h = ways (factored depth (r :: rs)) h := by
  have hchoices : ways (ofChoices (ofParts (parts r) :: rs)) h = ways (ofChoices (r :: rs)) h := by
    cases rs with
    | nil => exact ways_ofParts_parts r h
    | cons r' rs => exact congrArg (· ++ ways (ofChoices (r' :: rs)) h) (ways_ofParts_parts r h)
  have hset : (ofParts (parts r)).set? = r.set? := by
    rcases hr.flat_or_seq with hflat | ⟨⟨a, b, hseq⟩, a', b', hflat⟩
    · rw [hflat]
    · rw [hflat, hseq]
      rfl
  cases depth with
  | zero => exact hchoices
  | succ depth =>
    cases rs with
    | nil => exact ways_ofParts_parts r h
    | cons r' rs =>
      simp only [factored, List.mapM_cons, hset, List.map_cons, parts_ofParts_parts]
      split
      · rfl
      · split
        · exact hchoices
        · rfl

theorem ways_alternation_flat {r : Regex} (hr : r.IsProper) (rs : List Regex) (h : Head) :
    ways (alternation (ofParts (parts r) :: rs)) h = ways (alternation (r :: rs)) h := by
  rcases hr.flat_or_seq with hflat | ⟨⟨a, b, hseq⟩, a', b', hflat⟩
  · rw [hflat]
  · have hchoice : choices r = [r] := hseq ▸ rfl
    have hchoice' : choices (ofParts (parts r)) = [ofParts (parts r)] := by
      rw [hflat]
      rfl
    have hlength : ((ofParts (parts r) :: rs.flatMap choices).flatMap parts).length =
        ((r :: rs.flatMap choices).flatMap parts).length := by
      simp only [List.flatMap_cons, parts_ofParts_parts]
    simp only [alternation, List.flatMap_cons, hchoice, hchoice', List.singleton_append]
    simp only [List.flatMap_cons] at hlength
    rw [hlength]
    exact ways_factored_flat hr _ _ h

end Regex

/-! ## Items -/

namespace Regex.Parser

/-- Whether the expressions of items are proper. -/
def AllProper (items : List Item) : Prop := ∀ i ∈ items, i.regex.IsProper

section Items
variable {f : Flags} {done items : List Item}

theorem allProper_nil : AllProper [] := fun _ hi => by cases hi

theorem AllProper.cons {i : Item} (hi : i.regex.IsProper) (h : AllProper items) :
    AllProper (i :: items) := List.forall_mem_cons.2 ⟨hi, h⟩

theorem isProper_item (f : Flags) (a : Primitive) : (a.item f).regex.IsProper := by
  intro x y h
  cases a <;> cases h

theorem isProper_sequenceItem (h : AllProper items) : (sequenceItem items).regex.IsProper := by
  match items with
  | [] => exact isProper_sequence []
  | [i] => exact h i List.mem_cons_self
  | i :: j :: items => exact isProper_sequence _

theorem isProper_closeItem (hdone : AllProper done) (h : AllProper items) :
    (closeItem done items).regex.IsProper := by
  match done with
  | [] => exact isProper_sequenceItem h
  | i :: done => exact isProper_alternation (by simp)

theorem allProper_repeatLast {min : Nat} {max : Option Nat} {cs rest : List Char}
    {items' : List Item} (h : AllProper items)
    (hrepeat : repeatLast f min max items cs = some (items', rest)) : AllProper items' := by
  unfold repeatLast at hrepeat
  split at hrepeat
  · cases hrepeat
  · next item items =>
    obtain ⟨hitem, hitems⟩ := List.forall_mem_cons.1 h
    split at hrepeat
    · cases hrepeat
    · cases hrepeat
      exact .cons (isProper_repeated hitem _ _ _) hitems

theorem isProper_classItem {cs rest : List Char} {item : Item}
    (h : classItem f cs = some (item, rest)) : item.regex.IsProper := by
  obtain ⟨_, -, h⟩ := Option.bind_eq_some_iff.1 h
  obtain ⟨_, -, h⟩ := Option.bind_eq_some_iff.1 h
  cases h
  intro a b hseq
  cases hseq

/-- What is read behind a repetition is proper. -/
theorem isProper_of_repeated (f : Flags) (min : Nat) (max : Option Nat) {l : List Char}
    {item : Item} {s₁ : Cursor} (h : AllProper items)
    (next : List Item → List Char → Option (Item × Cursor))
    (hnext : ∀ {items rest}, AllProper items → next items rest = some (item, s₁) →
      item.regex.IsProper)
    (hread : (match repeatLast f min max items l with
      | some (items, rest) => next items rest
      | none => none) = some (item, s₁)) : item.regex.IsProper := by
  split at hread
  · next hrepeat => exact hnext (allProper_repeatLast h hrepeat) hread
  · cases hread

/-- What is read is proper. -/
theorem isProper_alternatives {n : Nat} {s s₁ : Cursor} {item : Item} (hdone : AllProper done)
    (hitems : AllProper items) (h : alternatives n done items s = some (item, s₁)) :
    item.regex.IsProper := by
  induction n generalizing done items s item s₁ with
  | zero => cases h
  | succ n ih =>
    have hagain (min : Nat) (max : Option Nat) {l : List Char} :=
      isProper_of_repeated s.flags min max (l := l) hitems
        (fun items rest => alternatives n done items (s.at rest))
        fun hitems (h : _ = some (item, s₁)) => ih hdone hitems h
    have hgroup : ∀ {i : Item}, i.regex.IsProper → AllProper (i :: items) := fun hi =>
      .cons hi hitems
    unfold alternatives at h
    dsimp only at h
    generalize skip s.flags s.rest = l at h
    split at h
    · cases h
      exact isProper_closeItem hdone hitems
    · cases h
      exact isProper_closeItem hdone hitems
    · exact ih (.cons (isProper_sequenceItem hitems) hdone) allProper_nil h
    · exact hagain _ _ h
    · exact hagain _ _ h
    · exact hagain _ _ h
    · split at h
      · exact hagain _ _ h
      · cases h
    · split at h
      · next hclass => exact ih hdone (hgroup (isProper_classItem hclass)) h
      · cases h
    · split at h
      · next set _ => exact ih hdone (hgroup (isProper_item s.flags (.set set))) h
      · cases h
    · exact ih hdone (hgroup (isProper_item s.flags (.look (lineStart s.flags)))) h
    · exact ih hdone (hgroup (isProper_item s.flags (.look (lineEnd s.flags)))) h
    · split at h
      · exact ih hdone (hgroup (isProper_item s.flags _)) h
      · cases h
    · split at h
      · cases h
      · exact ih hdone (hgroup fun a b hseq => by cases hseq) h
      · split at h
        · next item' _ _ _ _ hinner =>
          have hitem : item'.regex.IsProper := ih allProper_nil allProper_nil hinner
          exact ih hdone (hgroup (i := ⟨item'.regex, item'.depth + 1, false⟩) hitem) h
        · cases h
      · split at h
        · cases h
        · split at h
          · exact ih hdone (hgroup (isProper_group _ _)) h
          · cases h
    · exact ih hdone (hgroup (isProper_item s.flags _)) h

end Items

/-! ## Behind flags -/

/-- Items, and the same items behind flags, with the alternatives before them. -/
inductive BehindFlags : List Item → List Item → List Item → List Item → Prop where
  | first {items} : AllProper items → BehindFlags [] items [] (items ++ [⟨empty, 0, true⟩])
  | later {done items a a'} : AllProper items → a.regex.IsProper →
    a'.regex = ofParts (parts a.regex) → BehindFlags (done ++ [a]) items (done ++ [a']) items

/-- Whether the same is read, with the same ways. -/
def ReadsAlike (read read' : Item × Cursor) : Prop :=
  read.2 = read'.2 ∧ ways read'.1.regex = ways read.1.regex

section BehindFlags
variable {done items done' items' : List Item}

theorem BehindFlags.allProper (h : BehindFlags done items done' items') : AllProper items := by
  cases h with
  | first hitems => exact hitems
  | later hitems => exact hitems

theorem BehindFlags.cons (h : BehindFlags done items done' items') {i : Item}
    (hi : i.regex.IsProper) : BehindFlags done (i :: items) done' (i :: items') := by
  cases h with
  | first hitems => exact .first (hitems.cons hi)
  | later hitems ha ha' => exact .later (hitems.cons hi) ha ha'

theorem regex_sequenceItem_flags (items : List Item) :
    (sequenceItem (items ++ [⟨empty, 0, true⟩])).regex =
      ofParts (parts (sequenceItem items).regex) := by
  match items with
  | [] => rfl
  | [i] => exact congrArg ofParts (List.append_nil _)
  | i :: j :: items =>
    have hflags : (sequenceItem (i :: j :: items ++ [⟨empty, 0, true⟩])).regex =
        sequence (empty :: (i :: j :: items).reverse.map (·.regex)) := by
      rw [← List.map_cons (f := (·.regex)) (a := (⟨empty, 0, true⟩ : Item)),
        ← List.reverse_concat]
      rfl
    rw [hflags]
    exact (congrArg ofParts (parts_sequence _)).symm

theorem regex_alternationItem (h : 2 ≤ items.length) :
    (alternationItem items).regex = alternation (items.reverse.map (·.regex)) := by
  match items with
  | i :: j :: items => rfl

theorem BehindFlags.next (h : BehindFlags done items done' items') :
    BehindFlags (sequenceItem items :: done) [] (sequenceItem items' :: done') [] := by
  cases h with
  | first hitems =>
    have hflags : BehindFlags ([] ++ [sequenceItem items]) []
        ([] ++ [sequenceItem (items ++ [⟨empty, 0, true⟩])]) [] :=
      .later allProper_nil (isProper_sequenceItem hitems) (regex_sequenceItem_flags items)
    exact hflags
  | later hitems ha ha' =>
    rw [← List.cons_append, ← List.cons_append]
    exact .later allProper_nil ha ha'

theorem BehindFlags.ways_closeItem (h : BehindFlags done items done' items') :
    ways (closeItem done' items').regex = ways (closeItem done items).regex := by
  funext h₀
  cases h with
  | first =>
    have hflags := regex_sequenceItem_flags items
    exact (congrArg (ways · h₀) hflags).trans (ways_ofParts_parts _ h₀)
  | later hitems ha ha' =>
    rw [closeItem, closeItem, regex_alternationItem (by simp), regex_alternationItem (by simp)]
    simp only [List.reverse_cons, List.reverse_append, List.reverse_nil, List.nil_append,
      List.cons_append, List.map_cons, ha']
    exact ways_alternation_flat ha _ h₀

/-- Only the last part counts for a repetition. -/
theorem repeatLast_append (f : Flags) (min : Nat) (max : Option Nat) (i : Item)
    (items before : List Item) (cs : List Char) :
    repeatLast f min max (i :: items ++ before) cs =
      (repeatLast f min max (i :: items) cs).map fun (items, rest) => (items ++ before, rest) := by
  cases hflags : i.isFlags <;> simp [repeatLast, hflags]

theorem BehindFlags.repeatLast (h : BehindFlags done items done' items') (f : Flags) (min : Nat)
    (max : Option Nat) (cs : List Char) :
    Option.Rel (fun read read' => read.2 = read'.2 ∧ BehindFlags done read.1 done' read'.1)
      (repeatLast f min max items cs) (repeatLast f min max items' cs) := by
  have hproper := h.allProper
  cases h with
  | first =>
    cases items with
    | nil => exact .none
    | cons i items =>
      rw [repeatLast_append]
      cases hread : Parser.repeatLast f min max (i :: items) cs with
      | none => exact .none
      | some => exact .some ⟨rfl, .first (allProper_repeatLast hproper hread)⟩
  | later _ ha ha' =>
    cases hread : Parser.repeatLast f min max items cs with
    | none => exact .none
    | some => exact .some ⟨rfl, .later (allProper_repeatLast hproper hread) ha ha'⟩

/-- What is read behind a repetition is read alike. -/
theorem BehindFlags.repeated (h : BehindFlags done items done' items') (f : Flags) (min : Nat)
    (max : Option Nat) (cs : List Char)
    (next next' : List Item → List Char → Option (Item × Cursor))
    (hnext : ∀ {items items' rest}, BehindFlags done items done' items' →
      Option.Rel ReadsAlike (next items rest) (next' items' rest)) :
    Option.Rel ReadsAlike
      (match Parser.repeatLast f min max items cs with
        | some (items, rest) => next items rest
        | none => none)
      (match Parser.repeatLast f min max items' cs with
        | some (items, rest) => next' items rest
        | none => none) := by
  generalize hread : Parser.repeatLast f min max items cs = read
  generalize hread' : Parser.repeatLast f min max items' cs = read'
  have hrel := hread ▸ hread' ▸ h.repeatLast f min max cs
  cases hrel with
  | none => exact .none
  | some hrel =>
    dsimp only
    rw [hrel.1]
    exact hnext hrel.2

/-- **Flags in front.** An expression is read the same behind flags, with the same ways. -/
theorem alternatives_behind_flags {n : Nat} {s : Cursor}
    (h : BehindFlags done items done' items') :
    Option.Rel ReadsAlike (alternatives n done items s) (alternatives n done' items' s) := by
  induction n generalizing done items done' items' s with
  | zero => exact .none
  | succ n ih =>
    have hgo : ∀ {i : Item} (s : Cursor), i.regex.IsProper → Option.Rel ReadsAlike
        (alternatives n done (i :: items) s) (alternatives n done' (i :: items') s) :=
      fun s hi => ih (h.cons hi)
    have hagain (min : Nat) (max : Option Nat) (l : List Char) :=
      h.repeated s.flags min max l (fun items rest => alternatives n done items (s.at rest))
        (fun items rest => alternatives n done' items (s.at rest)) ih
    unfold alternatives
    dsimp only
    generalize skip s.flags s.rest = l
    split
    · exact .some ⟨rfl, h.ways_closeItem⟩
    · exact .some ⟨rfl, h.ways_closeItem⟩
    · exact ih h.next
    · exact hagain _ _ _
    · exact hagain _ _ _
    · exact hagain _ _ _
    · split
      · exact hagain _ _ _
      · exact .none
    · split
      · next hclass => exact hgo _ (isProper_classItem hclass)
      · exact .none
    · split
      · next set _ => exact hgo _ (isProper_item s.flags (.set set))
      · exact .none
    · exact hgo _ (isProper_item s.flags (.look (lineStart s.flags)))
    · exact hgo _ (isProper_item s.flags (.look (lineEnd s.flags)))
    · split
      · exact hgo _ (isProper_item s.flags _)
      · exact .none
    · split
      · exact .none
      · exact hgo _ fun a b hseq => by cases hseq
      · split
        · next item _ _ _ _ hinner =>
          have hitem : item.regex.IsProper :=
            isProper_alternatives allProper_nil allProper_nil hinner
          exact hgo (i := ⟨item.regex, item.depth + 1, false⟩) _ hitem
        · exact .none
      · split
        · exact .none
        · split
          · exact hgo _ (isProper_group _ _)
          · exact .none
    · exact hgo _ (isProper_item s.flags _)

end BehindFlags

end Regex.Parser

end Switchboard
