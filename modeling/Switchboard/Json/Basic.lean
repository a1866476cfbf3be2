import Switchboard.Number.Basic

/-!
# Documents

A document is a JSON value whose objects keep the order of their members. No key occurs twice in an
object: a later member takes the place of an earlier one of the same key.

    Json.same a b      equality of documents; the order of members does not matter
    Json.setMember     the member keeps the place of the first occurrence of its key
-/

namespace Switchboard

inductive Json where
  | null
  | bool (b : Bool)
  | number (n : Number)
  | string (s : String)
  | array (items : List Json)
  | object (members : List (String × Json))
deriving Inhabited

namespace Json

/-! ## Members -/

/-- The value of a key. -/
def member? (key : String) : List (String × Json) → Option Json
  | [] => none
  | (k, v) :: rest => if k == key then some v else member? key rest

/-- Gives a key its value, in the place that the key has or else at the end. -/
def setMember (key : String) (value : Json) : List (String × Json) → List (String × Json)
  | [] => [(key, value)]
  | (k, v) :: rest =>
    if k == key then (k, value) :: rest else (k, v) :: setMember key value rest

/-! ## Building -/

def ofInt (i : Int) : Json := .number (.ofInt i)

def ofNat (n : Nat) : Json := .number (.ofNat n)

/-! ## Tests -/

def isNull : Json → Bool
  | .null => true
  | _ => false

/-- The name of a variant without data: a string, or the key of a lone member that is null. -/
def variant? : Json → Option String
  | .string name => some name
  | .object [(name, .null)] => some name
  | _ => none

mutual

/-- Equality of documents: integers and doubles differ, members are compared by key. -/
def same : Json → Json → Bool
  | .null, .null => true
  | .bool a, .bool b => a == b
  | .number a, .number b => a.sameAs b
  | .string a, .string b => a == b
  | .array as, .array bs => sameItems as bs
  | .object as, .object bs => as.length == bs.length && sameMembers as bs
  | _, _ => false

def sameItems : List Json → List Json → Bool
  | [], [] => true
  | a :: as, b :: bs => same a b && sameItems as bs
  | _, _ => false

/-- Every member on the left has an equal one on the right. -/
def sameMembers : List (String × Json) → List (String × Json) → Bool
  | [], _ => true
  | (k, a) :: as, bs =>
    (match member? k bs with
      | some b => same a b
      | none => false) && sameMembers as bs

end

/-! ## Lemmas -/

theorem mem_of_member? {key : String} {members : List (String × Json)} {v : Json}
    (h : member? key members = some v) : (key, v) ∈ members := by
  induction members with
  | nil => cases h
  | cons m members ih =>
    obtain ⟨k, w⟩ := m
    rw [member?] at h
    split at h
    · next hk =>
      cases h
      simp [eq_of_beq hk]
    · exact List.mem_cons_of_mem _ (ih h)

theorem eq_or_mem_of_mem_setMember {key : String} {v : Json} {members : List (String × Json)}
    {m : String × Json} (h : m ∈ setMember key v members) : m.2 = v ∨ m ∈ members := by
  induction members with
  | nil =>
    rw [setMember, List.mem_singleton] at h
    exact .inl (by rw [h])
  | cons n members ih =>
    obtain ⟨k, w⟩ := n
    rw [setMember] at h
    split at h
    · rcases List.mem_cons.1 h with rfl | h
      · exact .inl rfl
      · exact .inr (by simp [h])
    · rcases List.mem_cons.1 h with rfl | h
      · exact .inr (by simp)
      · exact (ih h).imp_right (List.mem_cons_of_mem _)

/-- With distinct keys, each member is the one that is found under its key. -/
theorem member?_of_mem {ms : List (String × Json)} (hkeys : (ms.map (·.1)).Nodup)
    {m : String × Json} (hm : m ∈ ms) : member? m.1 ms = some m.2 := by
  induction ms with
  | nil => cases hm
  | cons n ms ih =>
    obtain ⟨k, v⟩ := n
    rw [List.map_cons, List.nodup_cons] at hkeys
    rcases List.mem_cons.1 hm with rfl | hlater
    · simp [member?]
    · have hne : k ≠ m.1 := by
        rintro rfl
        exact hkeys.1 (List.mem_map.2 ⟨m, hlater, rfl⟩)
      simp [member?, hne, ih hkeys.2 hlater]

theorem mem_keys_setMember {key other : String} {value : Json} {ms : List (String × Json)} :
    other ∈ (setMember key value ms).map (·.1) ↔ other = key ∨ other ∈ ms.map (·.1) := by
  induction ms with
  | nil => simp [setMember]
  | cons m ms ih =>
    obtain ⟨k, v⟩ := m
    by_cases hk : k = key
    · simp [setMember, hk]
    · simp only [setMember, beq_iff_eq, hk, if_false, List.map_cons, List.mem_cons, ih]
      exact or_left_comm

/-- Keys stay distinct. -/
theorem nodup_setMember {ms : List (String × Json)} (hkeys : (ms.map (·.1)).Nodup) (key : String)
    (value : Json) : ((setMember key value ms).map (·.1)).Nodup := by
  induction ms with
  | nil => simp [setMember]
  | cons m ms ih =>
    obtain ⟨k, v⟩ := m
    rw [List.map_cons, List.nodup_cons] at hkeys
    by_cases hk : k = key
    · simpa [setMember, hk] using hkeys
    · simp only [setMember, beq_iff_eq, hk, if_false, List.map_cons, List.nodup_cons]
      refine ⟨?_, ih hkeys.2⟩
      intro hmem
      rcases mem_keys_setMember.1 hmem with h | h
      · exact hk h
      · exact hkeys.1 h

end Json

end Switchboard
