import Switchboard.Proofs.MemberOrder
import Switchboard.Proofs.NumericTexts

/-!
# Laws of loose equality

Values are compared loosely by kinds, and each rule reads both sides alike, so the comparison is
symmetric. Of objects only the sizes are compared, and the members of one side are looked up on the
other; with distinct keys that is enough, since as many keys on both sides are the same keys:

    Covers.symm              every member has a partner on the other side, in both directions
    looselyEqual_comm        a.looselyEqual b = b.looselyEqual a
    looselyEqual_of_same     equal documents are loosely equal

Together with reordering of members (`EqualUpToOrder`) this gives `loose_equality_laws`: a truthy
value matches an item that expects the same value, and captures nothing. The laws are about
well-formed documents, and the reader makes no others (`wellFormed_of_read?`).
-/

namespace Switchboard

/-! ## Numbers and texts -/

theorem Number.looselyEquals_comm (a b : Number) : a.looselyEquals b = b.looselyEquals a := by
  cases a with
  | float x => cases b <;> exact Binary64.equals_comm _ _
  | int i =>
    cases b with
    | float y => exact Binary64.equals_comm _ _
    | int j =>
      have hiff : (i ≤ maxSigned ∧ j ≤ maxSigned) ∨ (0 ≤ i ∧ 0 ≤ j) ↔
          (j ≤ maxSigned ∧ i ≤ maxSigned) ∨ (0 ≤ j ∧ 0 ≤ i) := by
        rw [and_comm, and_comm (a := 0 ≤ i)]
      simp only [Number.looselyEquals, hiff, Bool.beq_comm (a := i),
        Binary64.equals_comm (.ofInt i)]

/-- Equal numbers are numbers of one kind, so they are loosely equal. -/
theorem Number.looselyEquals_of_sameAs {a b : Number} (h : a.sameAs b = true) :
    a.looselyEquals b = true := by
  cases a with
  | int i =>
    cases b with
    | int j =>
      obtain rfl : i = j := by simpa [Number.sameAs] using h
      simp [Number.looselyEquals, Binary64.ofInt_equals_self]
    | float y => cases h
  | float x =>
    cases b with
    | int j => cases h
    | float y => exact h

theorem Number.sameAs_self {n : Number} (h : n.toBinary64.isNaN = false) :
    n.sameAs n = true := by
  cases n with
  | int i => simp [Number.sameAs]
  | float b => exact (Binary64.equals_self_iff b).2 h

namespace Json

theorem textEqualsText_comm (s t : String) : textEqualsText s t = textEqualsText t s := by
  unfold textEqualsText
  cases numericText? s with
  | none => cases numericText? t <;> exact Bool.beq_comm
  | some f =>
    cases numericText? t with
    | none => exact Bool.beq_comm
    | some g => exact Binary64.equals_comm f g

/-- A numeric text spells no NaN, so it equals itself as a number as well. -/
theorem textEqualsText_self (s : String) : textEqualsText s s = true := by
  unfold textEqualsText
  cases hs : numericText? s with
  | none => simp
  | some f => exact (Binary64.equals_self_iff f).2 (isNaN_of_numericText? hs)

/-! ## Equal documents -/

theorem sameMembers_eq_all (as bs : List (String × Json)) :
    sameMembers as bs = as.all fun m => (member? m.1 bs).any m.2.same := by
  induction as with
  | nil => rfl
  | cons m as ih =>
    obtain ⟨k, a⟩ := m
    rw [sameMembers, ih, List.all_cons]
    cases member? k bs <;> rfl

section Same
variable {as bs : List Json}

theorem sameItems_self (h : ∀ v ∈ as, v.same v = true) : sameItems as as = true := by
  induction as with
  | nil => rfl
  | cons a as ih =>
    obtain ⟨ha, has⟩ := List.forall_mem_cons.1 h
    rw [sameItems, ha, ih has]
    rfl

theorem looselyEqualItems_of_same
    (h : ∀ v ∈ as, ∀ b, v.same b = true → v.looselyEqual b = true)
    (hsame : sameItems as bs = true) : looselyEqualItems as bs = true := by
  induction as generalizing bs with
  | nil => cases bs with
    | nil => rfl
    | cons b bs => cases hsame
  | cons a as ih => cases bs with
    | nil => cases hsame
    | cons b bs =>
      obtain ⟨ha, has⟩ := List.forall_mem_cons.1 h
      rw [sameItems, Bool.and_eq_true_iff] at hsame
      rw [looselyEqualItems, ha b hsame.1, ih has hsame.2]
      rfl

end Same

/-- A well-formed document equals itself. -/
theorem WellFormed.same_self {v : Json} (h : v.WellFormed) : v.same v = true := by
  induction h with
  | null => rfl
  | bool b => simp [same]
  | number hn => exact Number.sameAs_self hn
  | string s => simp [same]
  | array _ ih => exact sameItems_self ih
  | @object members hkeys _ ih =>
    have hall : (members.all fun m => (member? m.1 members).any m.2.same) = true := by
      apply List.all_eq_true.2
      intro m hm
      rw [member?_of_mem hkeys hm]
      exact ih m hm
    rw [same, sameMembers_eq_all, hall]
    simp

/-- Equal documents are loosely equal. -/
theorem WellFormed.looselyEqual_of_same {a b : Json} (ha : a.WellFormed) (h : a.same b = true) :
    a.looselyEqual b = true := by
  induction ha generalizing b with
  | null => cases b with
    | null => rfl
    | _ => cases h
  | bool x => cases b with
    | bool y => exact h
    | _ => cases h
  | number _ => cases b with
    | number n => exact Number.looselyEquals_of_sameAs h
    | _ => cases h
  | string s => cases b with
    | string t =>
      obtain rfl : s = t := by simpa [same] using h
      exact textEqualsText_self s
    | _ => cases h
  | array _ ih => cases b with
    | array bs => exact looselyEqualItems_of_same (fun v hv b => ih v hv) h
    | _ => cases h
  | object _ _ ih => cases b with
    | object bs =>
      rw [same, sameMembers_eq_all, Bool.and_eq_true_iff, List.all_eq_true] at h
      rw [looselyEqual, looselyEqualMembers_eq_all, Bool.and_eq_true_iff, List.all_eq_true]
      refine ⟨h.1, ?_⟩
      intro m hm
      have hfound := h.2 m hm
      cases hlook : member? m.1 bs with
      | none =>
        rw [hlook] at hfound
        cases hfound
      | some w =>
        rw [hlook] at hfound
        exact ih m hm hfound
    | _ => cases h

/-! ## Symmetry -/

/-- Every member on the left has a partner of its key on the right. -/
def Covers (R : Json → Json → Prop) (as bs : List (String × Json)) : Prop :=
  ∀ m ∈ as, ∃ w, member? m.1 bs = some w ∧ R m.2 w

section Members
variable {as bs : List (String × Json)}

theorem all_any_iff_covers (R : Json → Json → Bool) :
    (as.all fun m => (member? m.1 bs).any (R m.2)) = true ↔
      Covers (fun v w => R v w = true) as bs := by
  rw [List.all_eq_true]
  simp only [Option.any_eq_true]
  rfl

/-- With as many members on both sides, and distinct keys on each, the keys are the same. Then every
member on the right is the partner of one on the left. -/
theorem Covers.symm {R : Json → Json → Prop} (hkeys : (as.map (·.1)).Nodup)
    (hkeys' : (bs.map (·.1)).Nodup) (hlength : bs.length = as.length) (h : Covers R as bs) :
    Covers (fun w v => R v w) bs as := by
  have hsub : as.map (·.1) ⊆ bs.map (·.1) := by
    intro key hkey
    obtain ⟨m, hm, rfl⟩ := List.mem_map.1 hkey
    obtain ⟨w, hw, -⟩ := h m hm
    exact List.mem_map.2 ⟨_, mem_of_member? hw, rfl⟩
  have hle : (bs.map (·.1)).length ≤ (as.map (·.1)).length := by simp [hlength]
  have hperm : (as.map (·.1)).Perm (bs.map (·.1)) :=
    (List.subperm_of_subset hkeys hsub).perm_of_length_le hle
  intro n hn
  have hkey : n.1 ∈ as.map (·.1) := hperm.mem_iff.2 (List.mem_map.2 ⟨n, hn, rfl⟩)
  obtain ⟨m, hm, hmn⟩ := List.mem_map.1 hkey
  obtain ⟨w, hw, hR⟩ := h m hm
  have hvalue : w = n.2 := by
    rw [hmn, member?_of_mem hkeys' hn] at hw
    exact (Option.some.inj hw).symm
  refine ⟨m.2, ?_, hvalue ▸ hR⟩
  rw [← hmn]
  exact member?_of_mem hkeys hm

/-- Partners can be found from either side, if it does not matter from where two are compared. -/
theorem covers_comm {R : Json → Json → Prop} (hkeys : (as.map (·.1)).Nodup)
    (hkeys' : (bs.map (·.1)).Nodup) (hlength : as.length = bs.length)
    (hR : ∀ m ∈ as, ∀ n ∈ bs, R m.2 n.2 ↔ R n.2 m.2) :
    Covers R as bs ↔ Covers R bs as := by
  constructor
  · intro h n hn
    obtain ⟨v, hv, hnv⟩ := h.symm hkeys hkeys' hlength.symm n hn
    exact ⟨v, hv, (hR _ (mem_of_member? hv) n hn).1 hnv⟩
  · intro h m hm
    obtain ⟨w, hw, hmw⟩ := h.symm hkeys' hkeys hlength m hm
    exact ⟨w, hw, (hR m hm _ (mem_of_member? hw)).2 hmw⟩

end Members

theorem looselyEqualItems_comm {as bs : List Json}
    (h : ∀ v ∈ as, ∀ w ∈ bs, v.looselyEqual w = w.looselyEqual v) :
    looselyEqualItems as bs = looselyEqualItems bs as := by
  induction as generalizing bs with
  | nil => cases bs <;> rfl
  | cons a as ih => cases bs with
    | nil => rfl
    | cons b bs =>
      have hrest : looselyEqualItems as bs = looselyEqualItems bs as := by
        apply ih
        intro v hv w hw
        exact h v (List.mem_cons_of_mem a hv) w (List.mem_cons_of_mem b hw)
      rw [looselyEqualItems, looselyEqualItems, hrest,
        h a List.mem_cons_self b List.mem_cons_self]

/-- The step for objects. -/
theorem looselyEqual_object_comm {as bs : List (String × Json)} (hkeys : (as.map (·.1)).Nodup)
    (hkeys' : (bs.map (·.1)).Nodup)
    (h : ∀ m ∈ as, ∀ n ∈ bs, m.2.looselyEqual n.2 = n.2.looselyEqual m.2) :
    (Json.object as).looselyEqual (.object bs) = (Json.object bs).looselyEqual (.object as) := by
  rw [looselyEqual, looselyEqual, looselyEqualMembers_eq_all, looselyEqualMembers_eq_all,
    Bool.eq_iff_iff, Bool.and_eq_true_iff, Bool.and_eq_true_iff, all_any_iff_covers,
    all_any_iff_covers, beq_iff_eq, beq_iff_eq, eq_comm (a := as.length)]
  apply and_congr_right
  intro hlength
  apply covers_comm hkeys hkeys' hlength.symm
  intro m hm n hn
  rw [h m hm n hn]

/-- Loose equality of well-formed documents is symmetric. -/
theorem WellFormed.looselyEqual_comm {a b : Json} (ha : a.WellFormed) (hb : b.WellFormed) :
    a.looselyEqual b = b.looselyEqual a := by
  induction ha generalizing b with
  | null => cases b <;> rfl
  | bool x => cases b with
    | bool y => exact Bool.beq_comm
    | _ => rfl
  | number _ => cases b with
    | number n => exact Number.looselyEquals_comm _ _
    | _ => rfl
  | string s => cases b with
    | string t => exact textEqualsText_comm s t
    | _ => rfl
  | array _ ih => cases hb with
    | array each => exact looselyEqualItems_comm fun v hv w hw => ih v hv (each w hw)
    | _ => rfl
  | object hkeys _ ih => cases hb with
    | object hkeys' each =>
      exact looselyEqual_object_comm hkeys hkeys' fun m hm n hn => ih m hm (each n hn)
    | _ => rfl

/-! ## The order of members -/

/-- Documents that are equal up to the order of members, at any depth. -/
def EqualUpToOrder (a b : Json) : Prop := ∃ c, a.same c = true ∧ c.Reordered b

theorem WellFormed.equalUpToOrder_of_reordered {a b : Json} (ha : a.WellFormed)
    (h : a.Reordered b) : a.EqualUpToOrder b :=
  ⟨a, ha.same_self, h⟩

theorem WellFormed.looselyEqual_of_equalUpToOrder {a b : Json} (ha : a.WellFormed)
    (h : a.EqualUpToOrder b) : a.looselyEqual b = true := by
  obtain ⟨c, hsame, hreordered⟩ := h
  rw [← hreordered.looselyEqual_right]
  exact ha.looselyEqual_of_same hsame

theorem WellFormed.looselyEqual_self {a : Json} (ha : a.WellFormed) : a.looselyEqual a = true :=
  ha.looselyEqual_of_same ha.same_self

end Json

/-! ## Matching -/

/-- An item that expects what is there, loosely, matches without captures. -/
theorem Pattern.Item.match?_of_looselyEqual [Regex.Capacity] {payload : Payload} {path : String}
    {received expected : Json} (hget : payload.get? path = some received)
    (htruthy : received.isTruthy = true) (h : received.looselyEqual expected = true) :
    (Item.keyValue path expected).match? payload = some [] := by
  have hverdict : (Item.keyValue path expected).verdict payload = .decided (some []) := by
    simp only [Item.verdict, hget, htruthy, if_true, Item.compare, h]
  rw [Item.match?, hverdict]

/-- **Laws of loose equality.** Well-formed documents are loosely equal both ways or not at all, and
they are if they are equal up to the order of members. So, whatever a matcher was asked before, an
item that expects the value that is there matches without captures, if the value is truthy. -/
theorem loose_equality_laws [Regex.Capacity] {a b : Json} (ha : a.WellFormed)
    (hb : b.WellFormed) :
    a.looselyEqual b = b.looselyEqual a ∧
    (a.EqualUpToOrder b → a.looselyEqual b = true) ∧
    ∀ (payload : Payload) (path : String) (history : List Matcher.Request),
      payload.get? path = some a → a.isTruthy = true →
        (((Pattern.Item.keyValue path a).captures? payload).run (Matcher.after {} history)).1 =
          some [] := by
  refine ⟨ha.looselyEqual_comm hb, ha.looselyEqual_of_equalUpToOrder, ?_⟩
  intro payload path history hget htruthy
  have hm := Matcher.remembers_after history (Matcher.remembers_empty [])
  rw [(Pattern.asks_item _ payload _ _ hm).1]
  exact Pattern.Item.match?_of_looselyEqual hget htruthy ha.looselyEqual_self

/-- A user, and the same user with the members in another order. -/
def user : Json := .object [("id", .ofNat 5), ("names", .array [.string "1e1", .null])]

def userReordered : Json := .object [("names", .array [.string "1e1", .null]), ("id", .ofNat 5)]

/-- A user is what an item expects that was written in another order, or in the same. -/
theorem user_found : user.looselyEqual userReordered = true ∧
    userReordered.looselyEqual user = true ∧
    (((Pattern.Item.keyValue "from" user).captures? ⟨.object [("from", user)]⟩).run
      (Matcher.after {} [.clear])).1 = some [] := by
  have hid : (Json.ofNat 5).WellFormed := .number (Binary64.isNaN_ofInt 5)
  have hnames : (Json.array [.string "1e1", .null]).WellFormed := by
    apply Json.WellFormed.array
    intro v hv
    rcases List.mem_cons.1 hv with rfl | hv
    · exact .string _
    · rw [List.mem_singleton.1 hv]
      exact .null
  have huser : user.WellFormed := .object (by decide) (by simp [hid, hnames])
  have hreordered : userReordered.WellFormed := .object (by decide) (by simp [hid, hnames])
  have horder : user.EqualUpToOrder userReordered :=
    huser.equalUpToOrder_of_reordered (.members (by decide) (List.Perm.swap _ _ _))
  have hget : Payload.get? ⟨.object [("from", user)]⟩ "from" = some user := rfl
  obtain ⟨hcomm, hequal, hmatch⟩ := loose_equality_laws huser hreordered
  exact ⟨hequal horder, hcomm ▸ hequal horder, hmatch _ _ _ hget rfl⟩

end Switchboard
