import Switchboard.Payload.Basic

/-!
# Well-formed documents

A document has distinct keys in each of its objects, and its numbers are numbers. The reader makes
no others: a member takes the place of an earlier one of its key, and rounding, scaling and changing
the sign never give a NaN.

    read? text = some v                     v.WellFormed
    v.WellFormed, resolve path v = some w   w.WellFormed
-/

namespace Switchboard

/-! ## Doubles -/

namespace Binary64

theorem toNat_bits_ofMagnitude (neg : Bool) {m : Nat} (h : m < signBit) :
    (ofMagnitude neg m).bits.toNat = (if neg then signBit else 0) + m := by
  have hlt : (if neg then signBit else 0) + m < 2 ^ 64 := by
    unfold signBit at *
    split <;> omega
  rw [ofMagnitude, UInt64.toNat_ofNat', Nat.mod_eq_of_lt hlt]

theorem exponentField_ofMagnitude (neg : Bool) {m : Nat} (h : m < signBit) :
    (ofMagnitude neg m).exponentField = m / hiddenBit := by
  rw [exponentField, toNat_bits_ofMagnitude neg h]
  unfold signBit hiddenBit at *
  split <;> omega

theorem fractionField_ofMagnitude (neg : Bool) {m : Nat} (h : m < signBit) :
    (ofMagnitude neg m).fractionField = m % hiddenBit := by
  rw [fractionField, toNat_bits_ofMagnitude neg h]
  unfold signBit hiddenBit at *
  split <;> omega

/-- Up to the infinity there is no NaN. -/
theorem isNaN_ofMagnitude (neg : Bool) {m : Nat} (h : m ≤ infinityMagnitude) :
    (ofMagnitude neg m).isNaN = false := by
  have hlt : m < signBit := by
    unfold infinityMagnitude hiddenBit at h
    unfold signBit
    omega
  have hfields : ¬ (m / hiddenBit = 2047 ∧ ¬ m % hiddenBit = 0) := by
    unfold infinityMagnitude at h
    unfold hiddenBit at *
    omega
  simpa [isNaN, exponentField_ofMagnitude neg hlt, fractionField_ofMagnitude neg hlt] using hfields

theorem isNaN_ofRatio (neg : Bool) (num den : Nat) : (ofRatio neg num den).isNaN = false := by
  unfold ofRatio
  split
  · exact isNaN_ofMagnitude neg (Nat.zero_le _)
  · exact isNaN_ofMagnitude neg (Nat.min_le_left _ _)

theorem isNaN_ofInt (i : Int) : (ofInt i).isNaN = false := isNaN_ofRatio _ _ _

theorem ofInt_equals_self (i : Int) : (ofInt i).equals (ofInt i) = true :=
  (equals_self_iff _).2 (isNaN_ofInt i)

theorem isNaN_ofDecimal (neg : Bool) (digits : Nat) (exponent : Int) :
    (ofDecimal neg digits exponent).isNaN = false := by
  unfold ofDecimal
  by_cases hdigits : digits = 0
  · rw [if_pos hdigits]
    exact isNaN_ofMagnitude neg (Nat.zero_le _)
  · rw [if_neg hdigits]
    dsimp only
    split
    · exact isNaN_ofMagnitude neg (Nat.le_refl _)
    · split
      · exact isNaN_ofMagnitude neg (Nat.zero_le _)
      · split
        · exact isNaN_ofRatio _ _ _
        · exact isNaN_ofRatio _ _ _

theorem isNaN_times (a b : Binary64) : (a.times b).isNaN = false := isNaN_ofRatio _ _ _

theorem isNaN_dividedBy (a b : Binary64) : (a.dividedBy b).isNaN = false := isNaN_ofRatio _ _ _

theorem isNaN_negate (b : Binary64) : b.negate.isNaN = b.isNaN := by
  have hlt : b.bits.toNat % signBit < signBit := Nat.mod_lt _ (by decide)
  rw [isNaN, isNaN, negate, exponentField_ofMagnitude _ hlt, fractionField_ofMagnitude _ hlt,
    exponentField, fractionField]
  have hexponent : b.bits.toNat % signBit / hiddenBit = b.bits.toNat / hiddenBit % 2048 := by
    unfold signBit hiddenBit
    omega
  have hfraction : b.bits.toNat % signBit % hiddenBit = b.bits.toNat % hiddenBit := by
    unfold signBit hiddenBit
    omega
  rw [hexponent, hfraction]

end Binary64

theorem Literal.isNaN_toBinary64 (l : Literal) : l.toBinary64.isNaN = false :=
  Binary64.isNaN_ofDecimal _ _ _

namespace Json

/-! ## Documents -/

/-- Documents in whose objects no key occurs twice, and whose numbers are no NaN. -/
inductive WellFormed : Json → Prop
  | null : WellFormed .null
  | bool (b : Bool) : WellFormed (.bool b)
  | number {n : Number} (numeric : n.toBinary64.isNaN = false) : WellFormed (.number n)
  | string (s : String) : WellFormed (.string s)
  | array {items : List Json} (each : ∀ v ∈ items, WellFormed v) : WellFormed (.array items)
  | object {members : List (String × Json)} (keys : (members.map (·.1)).Nodup)
      (each : ∀ m ∈ members, WellFormed m.2) : WellFormed (.object members)

theorem wellFormed_empty : WellFormed (.object []) := .object List.nodup_nil (by simp)

theorem WellFormed.setMember {members : List (String × Json)} (h : WellFormed (.object members))
    (key : String) {v : Json} (hv : v.WellFormed) :
    WellFormed (.object (setMember key v members)) := by
  cases h with
  | object hkeys each =>
    refine .object (nodup_setMember hkeys key v) ?_
    intro m hm
    rcases eq_or_mem_of_mem_setMember hm with heq | hm
    · exact heq ▸ hv
    · exact each m hm

/-! ## Look-up -/

theorem WellFormed.of_mem_children {v w : Json} (h : v.WellFormed) (hw : w ∈ Path.children v) :
    w.WellFormed := by
  cases h with
  | array each => exact each w hw
  | object _ each =>
    obtain ⟨m, hm, rfl⟩ := List.mem_map.1 hw
    exact each m hm
  | _ => cases hw

theorem WellFormed.of_child? {v w : Json} {segment : String} (h : v.WellFormed)
    (hw : Path.child? segment v = some w) : w.WellFormed := by
  cases h with
  | array each =>
    obtain ⟨i, -, hi⟩ := Option.bind_eq_some_iff.1 hw
    exact each w (List.mem_of_getElem? hi)
  | object _ each => exact each _ (mem_of_member? hw)
  | _ => cases hw

/-- What a path leads to is well formed. -/
theorem WellFormed.of_resolve {v w : Json} {segments : List String} (h : v.WellFormed)
    (hw : Path.resolve segments v = some w) : w.WellFormed := by
  induction segments generalizing v with
  | nil =>
    cases hw
    exact h
  | cons segment segments ih =>
    rw [Path.resolve] at hw
    split at hw
    · obtain ⟨child, hchild, hrest⟩ := List.exists_of_findSome?_eq_some hw
      exact ih (h.of_mem_children hchild) hrest
    · obtain ⟨child, hchild, hrest⟩ := Option.bind_eq_some_iff.1 hw
      exact ih (h.of_child? hchild) hrest

/-! ## Reading -/

namespace Reader

theorem isNaN_scale? {steps : Nat} {f g : Binary64} {exponent : Int} (hf : f.isNaN = false)
    (h : scale? steps f exponent = some g) : g.isNaN = false := by
  induction steps generalizing f exponent with
  | zero =>
    cases h
    exact hf
  | succ steps ih =>
    unfold scale? at h
    dsimp only at h
    split at h
    · split at h
      · cases h
        exact Binary64.isNaN_dividedBy _ _
      · split at h
        · cases h
        · cases h
          exact Binary64.isNaN_times _ _
    · split at h
      · cases h
        exact hf
      · split at h
        · cases h
        · exact ih (Binary64.isNaN_dividedBy _ _) h

theorem isNaN_numberOf {neg : Bool} {whole : List Char} {fraction : Option (List Char)}
    {exponent : Option Int} {n : Number} (h : numberOf neg whole fraction exponent = some n) :
    n.toBinary64.isNaN = false := by
  have hsign : ∀ b : Binary64, b.isNaN = false →
      (Number.float (if neg then b.negate else b)).toBinary64.isNaN = false := by
    intro b hb
    cases neg with
    | true => exact (Binary64.isNaN_negate b).trans hb
    | false => exact hb
  unfold numberOf at h
  dsimp only at h
  split at h
  · split at h
    · cases h
      exact Binary64.isNaN_ofInt _
    · split at h
      · cases h
        exact hsign _ (Binary64.isNaN_ofInt _)
      · cases h
        exact Binary64.isNaN_ofInt _
  · obtain ⟨b, hb, rfl⟩ := Option.map_eq_some_iff.1 h
    exact hsign b (isNaN_scale? (Binary64.isNaN_ofInt _) hb)

theorem wellFormed_readNumber {neg : Bool} {cs rest : List Char} {v : Json}
    (h : readNumber neg cs = some (v, rest)) : v.WellFormed := by
  unfold readNumber at h
  simp only [Option.bind_eq_bind, Option.bind_eq_some_iff, Option.some.injEq, Prod.mk.injEq] at h
  obtain ⟨_, -, _, -, _, -, n, hn, rfl, -⟩ := h
  exact .number (isNaN_numberOf hn)

/-- With this fuel, the readers make well-formed documents of what is well formed so far. -/
structure Sound (fuel : Nat) : Prop where
  value : ∀ depth cs v rest, readValue fuel depth cs = some (v, rest) → v.WellFormed
  items : ∀ depth seen cs v rest, (∀ w ∈ seen, w.WellFormed) →
    readItems fuel depth seen cs = some (v, rest) → v.WellFormed
  members : ∀ depth seen cs v rest, (Json.object seen).WellFormed →
    readMembers fuel depth seen cs = some (v, rest) → v.WellFormed

namespace Sound
variable {fuel depth : Nat} {cs rest : List Char} {v : Json}

theorem readValue_succ (h : Sound fuel)
    (hv : readValue (fuel + 1) depth cs = some (v, rest)) : v.WellFormed := by
  rw [readValue] at hv
  split at hv
  · cases hv
    exact .null
  · cases hv
    exact .bool _
  · cases hv
    exact .bool _
  · obtain ⟨⟨s, rest⟩, -, hs⟩ := Option.map_eq_some_iff.1 hv
    cases hs
    exact .string _
  · split at hv
    · cases hv
    · split at hv
      · cases hv
        exact .array (by simp)
      · exact h.items _ _ _ _ _ (by simp) hv
  · split at hv
    · cases hv
    · split at hv
      · cases hv
        exact wellFormed_empty
      · exact h.members _ _ _ _ _ wellFormed_empty hv
  · exact wellFormed_readNumber hv
  · exact wellFormed_readNumber hv

theorem readItems_succ (h : Sound fuel) {seen : List Json} (hseen : ∀ w ∈ seen, w.WellFormed)
    (hv : readItems (fuel + 1) depth seen cs = some (v, rest)) : v.WellFormed := by
  unfold readItems at hv
  split at hv
  · cases hv
  · next w more hw =>
    have hseen' : ∀ x ∈ w :: seen, x.WellFormed :=
      List.forall_mem_cons.2 ⟨h.value _ _ _ _ hw, hseen⟩
    split at hv
    · exact h.items _ _ _ _ _ hseen' hv
    · cases hv
      exact .array fun x hx => hseen' x (List.mem_reverse.1 hx)
    · cases hv

theorem readMembers_succ (h : Sound fuel) {seen : List (String × Json)}
    (hseen : (Json.object seen).WellFormed)
    (hv : readMembers (fuel + 1) depth seen cs = some (v, rest)) : v.WellFormed := by
  unfold readMembers at hv
  split at hv
  · split at hv
    · cases hv
    · next key _ _ =>
      split at hv
      · split at hv
        · cases hv
        · next w more hw =>
          have hseen' := hseen.setMember key (h.value _ _ _ _ hw)
          split at hv
          · exact h.members _ _ _ _ _ hseen' hv
          · cases hv
            exact hseen'
          · cases hv
      · cases hv
  · cases hv

end Sound

theorem sound (fuel : Nat) : Sound fuel := by
  induction fuel with
  | zero =>
    constructor
    · intro depth cs v rest h
      simp [readValue] at h
    · intro depth seen cs v rest _ h
      simp [readItems] at h
    · intro depth seen cs v rest _ h
      simp [readMembers] at h
  | succ fuel ih =>
    constructor
    · intro depth cs v rest h
      exact ih.readValue_succ h
    · intro depth seen cs v rest hseen h
      exact ih.readItems_succ hseen h
    · intro depth seen cs v rest hseen h
      exact ih.readMembers_succ hseen h

end Reader

/-- What is read is well formed. -/
theorem wellFormed_of_read? {text : String} {v : Json} (h : read? text = some v) :
    v.WellFormed := by
  unfold read? at h
  dsimp only at h
  split at h
  · next w rest hw =>
    split at h
    · cases h
      exact (Reader.sound _).value _ _ _ _ hw
    · cases h
  · cases h

end Json

theorem Payload.wellFormed_of_ofText {text : String} {payload : Payload}
    (h : Payload.ofText text = .ok payload) : payload.root.WellFormed := by
  unfold Payload.ofText at h
  split at h
  · cases h
  · cases h
  · next v hv =>
    cases h
    exact Json.wellFormed_of_read? hv

theorem Payload.wellFormed_of_get? {payload : Payload} (h : payload.root.WellFormed)
    {path : String} {v : Json} (hv : payload.get? path = some v) : v.WellFormed := by
  unfold Payload.get? at hv
  split at hv
  · cases hv
    exact h
  · exact h.of_resolve hv

end Switchboard
