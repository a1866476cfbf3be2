import Mathlib.Data.List.Induction
import Mathlib.Data.Nat.Digits.Defs
import Switchboard.Payload.Basic

/-!
# The values that a path leads to

A path leads to a list of values, in document order, and a look-up gives the first of them. A star
stands for every child; a child from which the rest of the path leads nowhere adds nothing to the
list, so the search goes on to the next one, at whatever depth:

    matchesOf [] v                  =  [v]
    matchesOf (segment :: rest) v   =  (below segment v).flatMap (matchesOf rest)

    payload.get? path               =  (matchesOf (dotParts path) payload.root).head?

Without a star in front, a look-up can be made in two steps (`lookup_first_in_order`).
-/

namespace Switchboard

namespace Path

/-! ## Indices -/

/-- How an index is written: digits, behind at most one plus sign, with a value of 64 bits. -/
def IsIndex (segment : String) (i : Nat) : Prop :=
  ∃ digits : List Char, (segment.toList = digits ∨ segment.toList = '+' :: digits) ∧
    digits ≠ [] ∧ (∀ c ∈ digits, c.isDigit = true) ∧
    Nat.ofDigits 10 (digits.reverse.map fun c => c.toNat - '0'.toNat) = i ∧ i < 2 ^ 64

theorem natOfDigits_eq (digits : List Char) : Literal.natOfDigits digits =
    Nat.ofDigits 10 (digits.reverse.map fun c => c.toNat - '0'.toNat) := by
  induction digits using List.reverseRecOn with
  | nil => rfl
  | append_singleton digits c ih =>
    rw [Literal.natOfDigits_concat, ih, List.reverse_append, List.reverse_singleton,
      List.singleton_append, List.map_cons, Nat.ofDigits_cons, Literal.digitValue, Nat.add_comm]

/-- What is left of a segment without one plus sign in front. -/
def unsigned : List Char → List Char
  | '+' :: cs => cs
  | cs => cs

theorem unsigned_eq_iff {cs digits : List Char} (h : ∀ c ∈ digits, c.isDigit = true) :
    unsigned cs = digits ↔ cs = digits ∨ cs = '+' :: digits := by
  by_cases hsign : ∃ rest, cs = '+' :: rest
  · obtain ⟨rest, rfl⟩ := hsign
    have hne : '+' :: rest ≠ digits := by
      rintro rfl
      exact absurd (h '+' List.mem_cons_self) (by decide)
    simp [unsigned, hne]
  · have hself : unsigned cs = cs := by
      unfold unsigned
      split
      · exact absurd ⟨_, rfl⟩ hsign
      · rfl
    have hne : cs ≠ '+' :: digits := fun hcs => hsign ⟨digits, hcs⟩
    simp [hself, hne]

theorem index?_eq_some_iff {segment : String} {i : Nat} :
    index? segment = some i ↔ IsIndex segment i := by
  have hindex : index? segment =
      if (unsigned segment.toList).isEmpty || !(unsigned segment.toList).all Char.isDigit then none
      else if Literal.natOfDigits (unsigned segment.toList) < 2 ^ 64 then
        some (Literal.natOfDigits (unsigned segment.toList))
      else none := rfl
  rw [hindex, Option.ite_none_left_eq_some, Option.ite_none_right_eq_some, Option.some.injEq]
  simp only [Bool.or_eq_true, List.isEmpty_iff, Bool.not_eq_true', not_or, Bool.not_eq_false,
    List.all_eq_true]
  constructor
  · rintro ⟨⟨hne, hdigits⟩, hlt, rfl⟩
    exact ⟨_, (unsigned_eq_iff hdigits).1 rfl, hne, hdigits, (natOfDigits_eq _).symm, hlt⟩
  · rintro ⟨digits, htext, hne, hdigits, rfl, hlt⟩
    rw [(unsigned_eq_iff hdigits).2 htext, natOfDigits_eq]
    exact ⟨⟨hne, hdigits⟩, hlt, rfl⟩

instance (segment : String) (i : Nat) : Decidable (IsIndex segment i) :=
  decidable_of_iff _ index?_eq_some_iff

/-! ## Children -/

/-- The values directly below a value to which a segment leads, in document order. -/
def below (segment : String) : Json → List Json
  | .object members =>
    if segment = "*" then members.map (·.2) else (members.lookup segment).toList
  | .array items =>
    if segment = "*" then items
    else (items.zipIdx.filter fun (_, i) => IsIndex segment i).map (·.1)
  | _ => []

theorem member?_eq_lookup (key : String) (members : List (String × Json)) :
    Json.member? key members = members.lookup key := by
  induction members with
  | nil => rfl
  | cons m members ih =>
    obtain ⟨k, v⟩ := m
    rw [Json.member?, List.lookup_cons, ih]
    by_cases hk : k = key
    · simp [hk]
    · have hne : (key == k) = false := by simpa using Ne.symm hk
      simp [hk, hne]

theorem filter_zipIdx (items : List Json) (start i : Nat) :
    ((items.zipIdx start).filter fun p => p.2 = start + i).map (·.1) = items[i]?.toList := by
  induction items generalizing start i with
  | nil => rfl
  | cons v items ih =>
    rw [List.zipIdx_cons, List.filter_cons]
    cases i with
    | zero =>
      have hlater : ((items.zipIdx (start + 1)).filter fun p => p.2 = start) = [] := by
        apply List.filter_eq_nil_iff.2
        intro p hp
        have hle := (List.mem_zipIdx hp).1
        simp only [decide_eq_true_eq]
        omega
      simp [hlater]
    | succ i =>
      have hnext : start + (i + 1) = start + 1 + i := by omega
      rw [if_neg (by simp), hnext, ih]
      rfl

theorem below_wildcard (v : Json) : below wildcard v = children v := by
  cases v with
  | object members => simp [below, children, wildcard]
  | array items => simp [below, children, wildcard]
  | _ => rfl

theorem below_of_ne {segment : String} (h : segment ≠ wildcard) (v : Json) :
    below segment v = (child? segment v).toList := by
  cases v with
  | object members =>
    rw [child?, member?_eq_lookup]
    exact if_neg h
  | array items =>
    have hbelow : below segment (.array items) =
        (items.zipIdx.filter fun (_, i) => IsIndex segment i).map (·.1) := if_neg h
    rw [hbelow, child?]
    simp only [← index?_eq_some_iff]
    cases index? segment with
    | none => simp
    | some i =>
      have hfilter := filter_zipIdx items 0 i
      simpa [eq_comm] using hfilter
  | _ => rfl

/-! ## Matches -/

/-- All values that segments lead to, in document order. -/
def matchesOf : List String → Json → List Json
  | [], v => [v]
  | segment :: rest, v => (below segment v).flatMap (matchesOf rest)

theorem resolve_cons (segment : String) (rest : List String) (v : Json) :
    resolve (segment :: rest) v = (below segment v).findSome? (resolve rest) := by
  rw [resolve]
  by_cases h : segment = wildcard
  · rw [if_pos h, h, below_wildcard]
  · rw [if_neg h, below_of_ne h]
    cases child? segment v with
    | none => rfl
    | some w => simp

/-- The search gives up a child exactly if it has no matches. -/
theorem resolve_eq_head? (segments : List String) (v : Json) :
    resolve segments v = (matchesOf segments v).head? := by
  induction segments generalizing v with
  | nil => rfl
  | cons segment rest ih =>
    have hrest : resolve rest = fun w => (matchesOf rest w).head? := funext ih
    rw [resolve_cons, matchesOf, List.head?_flatMap, hrest]

/-- Without a star the way to a value is the only one, and can be followed in two steps. -/
theorem resolve_append {segments : List String} (h : wildcard ∉ segments) (rest : List String)
    (v : Json) :
    resolve (segments ++ rest) v = (resolve segments v).bind (resolve rest) := by
  induction segments generalizing v with
  | nil => rfl
  | cons segment segments ih =>
    rw [List.mem_cons, not_or] at h
    rw [List.cons_append, resolve, resolve, if_neg (Ne.symm h.1), if_neg (Ne.symm h.1),
      Option.bind_assoc]
    congr
    funext w
    exact ih h.2 w

/-! ## Dots -/

/-- The texts between the dots of a path. -/
def dotParts (path : String) : List String := (path.toList.splitOn '.').map String.ofList

theorem segmentsFrom_eq (current cs : List Char) :
    segmentsFrom current cs = (cs.splitOn '.').modifyHead (current.reverse ++ ·) := by
  induction cs generalizing current with
  | nil => simp [segmentsFrom]
  | cons c cs ih =>
    rw [segmentsFrom, ih, ih, List.splitOn_eq_splitOnP, List.splitOn_eq_splitOnP,
      List.splitOnP_cons_eq_if_modifyHead]
    generalize cs.splitOnP (· == '.') = parts
    by_cases hc : c = '.'
    · cases parts <;> simp [hc]
    · cases parts <;> simp [hc]

theorem segments_eq (path : String) : segments path = dotParts path := by
  rw [segments, segmentsFrom_eq, dotParts]
  congr 1
  cases path.toList.splitOn '.' <;> rfl

theorem segmentsFrom_append (current cs ds : List Char) :
    segmentsFrom current (cs ++ '.' :: ds) = segmentsFrom current cs ++ segmentsFrom [] ds := by
  induction cs generalizing current with
  | nil => simp [segmentsFrom]
  | cons c cs ih =>
    rw [List.cons_append, segmentsFrom, segmentsFrom]
    split
    · rw [ih, List.cons_append]
    · exact ih _

theorem segments_append (p q : String) : segments (p ++ "." ++ q) = segments p ++ segments q := by
  have htext : (p ++ "." ++ q).toList = p.toList ++ '.' :: q.toList := by simp
  rw [segments, htext, segmentsFrom_append, List.map_append, segments, segments]

end Path

/-! ## Look-up -/

/-- **Look-up with stars.** The value at a path is the first, in document order, of all the values
that its segments lead to; there is none exactly if they lead to none; and the payload has the path
exactly if that first value is not null. Behind a path without a star the rest can be looked up in
the value found. -/
theorem lookup_first_in_order (payload : Payload) :
    (∀ path, path ≠ "" →
      let found := Path.matchesOf (Path.dotParts path) payload.root
      payload.get? path = found.head? ∧ (payload.get? path = none ↔ found = []) ∧
        (payload.has path = true ↔ ∃ v, found.head? = some v ∧ v.isNull = false)) ∧
    ∀ p q, p ≠ "" → q ≠ "" → "*" ∉ Path.dotParts p →
      payload.get? (p ++ "." ++ q) = (payload.get? p).bind fun v => Payload.get? ⟨v⟩ q := by
  have hget : ∀ (payload : Payload) path, path ≠ "" →
      payload.get? path = Path.resolve (Path.segments path) payload.root := by
    intro payload path hpath
    exact if_neg hpath
  constructor
  · intro path hpath found
    have hfound : payload.get? path = found.head? := by
      rw [hget payload path hpath, Path.segments_eq, Path.resolve_eq_head?]
    refine ⟨hfound, by rw [hfound, List.head?_eq_none_iff], ?_⟩
    rw [Payload.has, hfound]
    cases found.head? with
    | none => simp
    | some v => simp
  · intro p q hp hq hstar
    have hpq : p ++ "." ++ q ≠ "" := by simp
    rw [← Path.segments_eq] at hstar
    rw [hget payload _ hpq, Path.segments_append, Path.resolve_append hstar, hget payload p hp]
    congr
    funext v
    exact (hget ⟨v⟩ q hq).symm

/-- The list of an update, in which not every item has the member that is asked for. -/
def sparseUpdate : Payload :=
  ⟨.object [("kind", .string "list"),
    ("list", .array [.object [("x", .ofNat 1)], .object [("y", .ofNat 5), ("z", .null)],
      .object [("y", .ofNat 6)]])]⟩

/-- The first item has no such member, and the text none at all. -/
theorem sparse_update_lookup : sparseUpdate.get? "*.*.y" = some (.ofNat 5) ∧
    sparseUpdate.has "*.*.z" = false ∧
    sparseUpdate.get? ("list" ++ "." ++ "+02.*") = some (.ofNat 6) := by
  obtain ⟨hfirst, hsteps⟩ := lookup_first_in_order sparseUpdate
  have hparts : Path.dotParts "list" = ["list"] := by decide
  have hplain : "*" ∉ Path.dotParts "list" := by simp [hparts]
  refine ⟨(hfirst "*.*.y" (by decide)).1.trans rfl, ?_,
    (hsteps "list" "+02.*" (by decide) (by decide) hplain).trans rfl⟩
  have hnull : (Path.matchesOf (Path.dotParts "*.*.z") sparseUpdate.root).head? = some .null :=
    rfl
  rw [Bool.eq_false_iff, ne_eq, (hfirst "*.*.z" (by decide)).2.2, hnull]
  rintro ⟨v, hv, hvalue⟩
  cases hv
  cases hvalue

end Switchboard
