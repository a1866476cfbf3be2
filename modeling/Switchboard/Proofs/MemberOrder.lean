import Mathlib.Data.List.Perm.Basic
import Switchboard.Proofs.Cache
import Switchboard.Regex.Memory

/-!
# The order of members

An object is looked at by its keys, and only a star takes its members in their order. So documents
that differ in the order of members, at whatever depth, cannot be told apart by a pattern without
stars, whose expected values may differ in the same way:

    Reordered v w                 `w` is `v` with members in another order
    Reordered.looselyEqual        both compare alike with others of their kind
    Reordered.resolve             both lead to such documents again, along a path without stars
    match_ignores_member_order    both give the same captures, or both none
-/

namespace Switchboard

namespace Json

/-! ## Reordering -/

/-- Documents that differ in the order of members only. One step reorders the members of one object,
whose keys are distinct; it may lie within items and members of others. -/
inductive Reordered : Json → Json → Prop
  | refl (v : Json) : Reordered v v
  | trans {u v w : Json} : Reordered u v → Reordered v w → Reordered u w
  | members {ms ns : List (String × Json)} :
      (ms.map (·.1)).Nodup → ms.Perm ns → Reordered (.object ms) (.object ns)
  | item {v w : Json} (earlier later : List Json) :
      Reordered v w → Reordered (.array (earlier ++ v :: later)) (.array (earlier ++ w :: later))
  | member {v w : Json} (key : String) (earlier later : List (String × Json)) :
      Reordered v w →
        Reordered (.object (earlier ++ (key, v) :: later)) (.object (earlier ++ (key, w) :: later))

/-! ## Look-up -/

/-- In whatever order members come, a key has the same value. -/
theorem member?_perm {ms ns : List (String × Json)} (hkeys : (ms.map (·.1)).Nodup)
    (h : ms.Perm ns) (key : String) : member? key ms = member? key ns := by
  induction h with
  | nil => rfl
  | cons m _ ih =>
    rw [List.map_cons, List.nodup_cons] at hkeys
    obtain ⟨k, v⟩ := m
    rw [member?, member?, ih hkeys.2]
  | swap m n ms =>
    obtain ⟨k, v⟩ := m
    obtain ⟨l, w⟩ := n
    have hne : l ≠ k := by
      simp only [List.map_cons, List.nodup_cons, List.mem_cons, not_or] at hkeys
      exact hkeys.1.1
    by_cases hk : k = key
    · have hl : l ≠ key := hk ▸ hne
      simp [member?, hk, hl]
    · simp [member?, hk]
  | trans h h' ih ih' =>
    rw [ih hkeys, ih' ((h.map _).nodup_iff.1 hkeys)]

/-- Both find nothing, or documents that differ in the order of members only. -/
abbrev ReorderedFinds : Option Json → Option Json → Prop := Option.Rel Reordered

theorem ReorderedFinds.refl (o : Option Json) : ReorderedFinds o o := by
  cases o with
  | none => exact .none
  | some v => exact .some (.refl v)

theorem ReorderedFinds.trans {o p q : Option Json} (h : ReorderedFinds o p)
    (h' : ReorderedFinds p q) : ReorderedFinds o q := by
  cases h with
  | none => exact h'
  | some h =>
    cases h' with
    | some h' => exact .some (h.trans h')

section Look
variable {v w : Json}

theorem member?_replace (h : Reordered v w) (k key : String)
    (earlier later : List (String × Json)) :
    ReorderedFinds (member? key (earlier ++ (k, v) :: later))
      (member? key (earlier ++ (k, w) :: later)) := by
  induction earlier with
  | nil =>
    by_cases hk : k = key
    · simpa [member?, hk] using h
    · simpa [member?, hk] using .refl _
  | cons m earlier ih =>
    obtain ⟨l, u⟩ := m
    by_cases hl : l = key
    · simpa [member?, hl] using .refl _
    · simpa [member?, hl] using ih

theorem getElem?_replace (h : Reordered v w) (earlier later : List Json) (i : Nat) :
    ReorderedFinds (earlier ++ v :: later)[i]? (earlier ++ w :: later)[i]? := by
  rcases Nat.lt_trichotomy i earlier.length with hi | hi | hi
  · rw [List.getElem?_append_left hi, List.getElem?_append_left hi]
    exact .refl _
  · subst hi
    simpa using h
  · obtain ⟨n, rfl⟩ := Nat.exists_eq_add_of_lt hi
    have hn : earlier.length + n + 1 = earlier.length + (n + 1) := rfl
    rw [hn, List.getElem?_append_right (by omega), List.getElem?_append_right (by omega)]
    simpa using .refl _

theorem Reordered.child? (h : Reordered v w) (segment : String) :
    ReorderedFinds (Path.child? segment v) (Path.child? segment w) := by
  induction h with
  | refl v => exact .refl _
  | trans _ _ ih ih' => exact ih.trans ih'
  | members hkeys hperm =>
    rw [Path.child?, Path.child?, member?_perm hkeys hperm]
    exact .refl _
  | item earlier later h _ =>
    rw [Path.child?, Path.child?]
    cases Path.index? segment with
    | none => exact .none
    | some i => exact getElem?_replace h earlier later i
  | member key earlier later h _ => exact member?_replace h key segment earlier later

/-- Without a star, reordered documents lead to reordered documents. -/
theorem Reordered.resolve {segments : List String} (hstar : Path.wildcard ∉ segments)
    (h : Reordered v w) :
    ReorderedFinds (Path.resolve segments v) (Path.resolve segments w) := by
  induction segments generalizing v w with
  | nil => exact .some h
  | cons segment segments ih =>
    rw [List.mem_cons, not_or] at hstar
    have hchild := h.child? segment
    rw [Path.resolve, if_neg (Ne.symm hstar.1), Path.resolve, if_neg (Ne.symm hstar.1)]
    generalize Path.child? segment v = o at hchild ⊢
    generalize Path.child? segment w = p at hchild ⊢
    cases hchild with
    | none => exact .none
    | some h => exact ih hstar.2 h

end Look

/-! ## Comparison -/

theorem looselyEqualMembers_eq_all (as bs : List (String × Json)) :
    looselyEqualMembers as bs = as.all fun m => (member? m.1 bs).any m.2.looselyEqual := by
  induction as with
  | nil => rfl
  | cons m as ih =>
    obtain ⟨k, a⟩ := m
    rw [looselyEqualMembers, ih, List.all_cons]
    cases member? k bs <;> rfl

section Compare
variable {v w : Json}

theorem looselyEqualItems_replace_left (h : ∀ b, v.looselyEqual b = w.looselyEqual b)
    (earlier later bs : List Json) :
    looselyEqualItems (earlier ++ v :: later) bs =
      looselyEqualItems (earlier ++ w :: later) bs := by
  induction earlier generalizing bs with
  | nil => cases bs <;> simp [looselyEqualItems, h]
  | cons a earlier ih => cases bs <;> simp [looselyEqualItems, ih]

theorem looselyEqualItems_replace_right (h : ∀ a : Json, a.looselyEqual v = a.looselyEqual w)
    (earlier later as : List Json) :
    looselyEqualItems as (earlier ++ v :: later) =
      looselyEqualItems as (earlier ++ w :: later) := by
  induction earlier generalizing as with
  | nil => cases as <;> simp [looselyEqualItems, h]
  | cons b earlier ih => cases as <;> simp [looselyEqualItems, ih]

theorem any_member?_replace (h : ∀ a : Json, a.looselyEqual v = a.looselyEqual w) (k key : String)
    (earlier later : List (String × Json)) (a : Json) :
    (member? key (earlier ++ (k, v) :: later)).any a.looselyEqual =
      (member? key (earlier ++ (k, w) :: later)).any a.looselyEqual := by
  induction earlier with
  | nil => by_cases hk : k = key <;> simp [member?, hk, h]
  | cons m earlier ih =>
    obtain ⟨l, u⟩ := m
    by_cases hl : l = key <;> simp [member?, hl, ih]

theorem Reordered.isTruthy (h : Reordered v w) : v.isTruthy = w.isTruthy := by
  induction h with
  | refl v => rfl
  | trans _ _ ih ih' => rw [ih, ih']
  | members _ hperm => simp only [Json.isTruthy, hperm.isEmpty_eq]
  | item earlier later _ _ => cases earlier <;> rfl
  | member key earlier later _ _ => cases earlier <;> rfl

theorem Reordered.isNull (h : Reordered v w) : v.isNull = w.isNull := by
  induction h with
  | trans _ _ ih ih' => rw [ih, ih']
  | _ => rfl

theorem Reordered.subject? (h : Reordered v w) : v.subject? = w.subject? := by
  induction h with
  | trans _ _ ih ih' => rw [ih, ih']
  | _ => rfl

/-- A text has no members. -/
theorem Reordered.eq_string_iff (h : Reordered v w) (text : String) :
    v = .string text ↔ w = .string text := by
  induction h with
  | refl v => exact Iff.rfl
  | trans _ _ ih ih' => exact ih.trans ih'
  | _ => simp

/-- Against anything but an object, an object counts by its truth only. -/
theorem looselyEqual_object_left {ms ns : List (String × Json)} (ht : ms.isEmpty = ns.isEmpty)
    (b : Json)
    (h : ∀ bs, b = .object bs →
      (Json.object ms).looselyEqual b = (Json.object ns).looselyEqual b) :
    (Json.object ms).looselyEqual b = (Json.object ns).looselyEqual b := by
  cases b with
  | object bs => exact h bs rfl
  | _ => simp [Json.looselyEqual, equalsNull, Json.isTruthy, ht]

theorem looselyEqual_object_right {ms ns : List (String × Json)} (ht : ms.isEmpty = ns.isEmpty)
    (a : Json)
    (h : ∀ as, a = .object as →
      a.looselyEqual (Json.object ms) = a.looselyEqual (Json.object ns)) :
    a.looselyEqual (Json.object ms) = a.looselyEqual (Json.object ns) := by
  cases a with
  | object as => exact h as rfl
  | _ => simp [Json.looselyEqual, equalsNull, Json.isTruthy, ht]

theorem Reordered.looselyEqual_left (h : Reordered v w) (b : Json) :
    v.looselyEqual b = w.looselyEqual b := by
  induction h generalizing b with
  | refl v => rfl
  | trans _ _ ih ih' => rw [ih, ih']
  | members _ hperm =>
    refine looselyEqual_object_left hperm.isEmpty_eq b fun bs hb => ?_
    rw [hb, Json.looselyEqual, Json.looselyEqual, looselyEqualMembers_eq_all,
      looselyEqualMembers_eq_all, hperm.all_eq, hperm.length_eq]
  | @item v w earlier later _ ih =>
    cases b with
    | array bs => exact looselyEqualItems_replace_left ih earlier later bs
    | _ => cases earlier <;> rfl
  | member key earlier later _ ih =>
    refine looselyEqual_object_left (by cases earlier <;> rfl) b fun bs hb => ?_
    rw [hb, Json.looselyEqual, Json.looselyEqual, looselyEqualMembers_eq_all,
      looselyEqualMembers_eq_all]
    simp [funext ih]

theorem Reordered.looselyEqual_right (h : Reordered v w) (a : Json) :
    a.looselyEqual v = a.looselyEqual w := by
  induction h generalizing a with
  | refl v => rfl
  | trans _ _ ih ih' => rw [ih, ih']
  | members hkeys hperm =>
    refine looselyEqual_object_right hperm.isEmpty_eq a fun as ha => ?_
    rw [ha, Json.looselyEqual, Json.looselyEqual, looselyEqualMembers_eq_all,
      looselyEqualMembers_eq_all, hperm.length_eq]
    simp only [member?_perm hkeys hperm]
  | item earlier later _ ih =>
    cases a with
    | array as => exact looselyEqualItems_replace_right ih earlier later as
    | _ => cases earlier <;> rfl
  | member key earlier later _ ih =>
    refine looselyEqual_object_right (by cases earlier <;> rfl) a fun as ha => ?_
    rw [ha, Json.looselyEqual, Json.looselyEqual, looselyEqualMembers_eq_all,
      looselyEqualMembers_eq_all]
    simp [any_member?_replace ih]

/-- Loose comparison does not look at the order of members, on either side. -/
theorem Reordered.looselyEqual {v' w' : Json} (h : Reordered v w) (h' : Reordered v' w') :
    v.looselyEqual v' = w.looselyEqual w' := by
  rw [h.looselyEqual_left, h'.looselyEqual_right]

end Compare

end Json

/-! ## Patterns -/

namespace Pattern

/-- Items that differ in the order of members of their expected values only. -/
inductive Item.Reordered : Item → Item → Prop
  | always : Reordered .always .always
  | key (path : String) : Reordered (.key path) (.key path)
  | keyValue (path : String) {v w : Json} :
      v.Reordered w → Reordered (.keyValue path v) (.keyValue path w)

/-- Patterns that differ in the order of members of their expected values only. -/
def Reordered (p q : Pattern) : Prop := List.Forall₂ Item.Reordered p.items q.items

/-- Whether no item looks at a path with a star. -/
def StarFree (p : Pattern) : Prop :=
  ∀ item ∈ p.items, ∀ path, item.path? = some path → Path.wildcard ∉ Path.segments path

end Pattern

section Match
variable {payload payload' : Payload}

theorem Payload.get?_reordered (h : payload.root.Reordered payload'.root) {path : String}
    (hstar : Path.wildcard ∉ Path.segments path) :
    Json.ReorderedFinds (payload.get? path) (payload'.get? path) := by
  unfold Payload.get?
  split
  · exact .some h
  · exact h.resolve hstar

theorem Payload.has_reordered (h : payload.root.Reordered payload'.root) {path : String}
    (hstar : Path.wildcard ∉ Path.segments path) : payload.has path = payload'.has path := by
  have hfind := Payload.get?_reordered h hstar
  unfold Payload.has
  generalize payload.get? path = o at hfind ⊢
  generalize payload'.get? path = o' at hfind ⊢
  cases hfind with
  | none => rfl
  | some h => simp only [h.isNull]

namespace Pattern

theorem Item.compare_reordered {received received' expected expected' : Json}
    (h : received.Reordered received') (h' : expected.Reordered expected') :
    Item.compare received expected = Item.compare received' expected' := by
  unfold Item.compare
  rw [h.looselyEqual h', h.subject?]
  split
  · rfl
  · -- a text is expected on both sides or on neither, and then it is the same
    cases hs : expected' with
    | string text => rw [(h'.eq_string_iff text).2 hs]
    | _ =>
      have hne : ∀ text, expected ≠ .string text := fun text ht => by
        rw [(h'.eq_string_iff text).1 ht] at hs
        cases hs
      cases expected with
      | string text => exact absurd rfl (hne text)
      | _ => rfl

theorem Item.verdict_reordered {item item' : Item} (h : item.Reordered item')
    (hpayload : payload.root.Reordered payload'.root)
    (hstar : ∀ path, item.path? = some path → Path.wildcard ∉ Path.segments path) :
    item.verdict payload = item'.verdict payload' := by
  cases h with
  | always => rfl
  | key path => simp only [Item.verdict, Payload.has_reordered hpayload (hstar path rfl)]
  | keyValue path hexpected =>
    have hfind := Payload.get?_reordered hpayload (hstar path rfl)
    simp only [Item.verdict]
    generalize payload.get? path = o at hfind ⊢
    generalize payload'.get? path = o' at hfind ⊢
    cases hfind with
    | none => rfl
    | some h => simp only [h.isTruthy, Item.compare_reordered h hexpected]

theorem findSome?_reordered [Regex.Capacity] {items items' : List Item}
    (h : List.Forall₂ Item.Reordered items items')
    (hpayload : payload.root.Reordered payload'.root)
    (hstar : ∀ item ∈ items, ∀ path, item.path? = some path →
      Path.wildcard ∉ Path.segments path) :
    items.findSome? (·.match? payload) = items'.findSome? (·.match? payload') := by
  induction h with
  | nil => rfl
  | @cons item item' items items' hitem _ ih =>
    obtain ⟨hfirst, hrest⟩ := List.forall_mem_cons.1 hstar
    have hmatch : item.match? payload = item'.match? payload' := by
      rw [Item.match?, Item.match?, Item.verdict_reordered hitem hpayload hfirst]
    rw [List.findSome?_cons, List.findSome?_cons, hmatch, ih hrest]

end Pattern

/-- **The order of members matters to stars only.** A pattern without a star and the same pattern
with members of its expected values in another order give the same captures, or both none, for a
payload and for the same payload with members in another order at any depth; whatever the matchers
were asked before. -/
theorem match_ignores_member_order [Regex.Capacity] {p p' : Pattern} (hp : p.Reordered p')
    (hpayload : payload.root.Reordered payload'.root) (hstar : p.StarFree)
    (history history' : List Matcher.Request) :
    ((p.captures? payload).run (Matcher.after {} history)).1 =
      ((p'.captures? payload').run (Matcher.after {} history')).1 := by
  have hm := Matcher.remembers_after history (Matcher.remembers_empty [])
  have hm' := Matcher.remembers_after history' (Matcher.remembers_empty [])
  rw [(Pattern.asks_captures? p payload _ _ hm).1, (Pattern.asks_captures? p' payload' _ _ hm').1]
  exact Pattern.findSome?_reordered hp hpayload hstar

end Match

/-- An update whose list holds an object of two members, with further members around it. -/
def listUpdate : Payload :=
  ⟨.object [("list", .array [.object [("x", .ofNat 1), ("y", .string "2")]]),
    ("chat", .ofNat 7)]⟩

/-- The same update, reordered at both depths. -/
def reorderedListUpdate : Payload :=
  ⟨.object [("chat", .ofNat 7),
    ("list", .array [.object [("y", .string "2"), ("x", .ofNat 1)]])]⟩

/-- A pattern for the list in an update. -/
def listPattern (members : List (String × Json)) : Pattern :=
  ⟨[.keyValue "list" (.array [.object members])]⟩

theorem reorderedListUpdate_matches :
    let p := listPattern [("x", .string "1"), ("y", .ofNat 2)]
    let p' := listPattern [("y", .ofNat 2), ("x", .string "1")]
    p.Reordered p' ∧ listUpdate.root.Reordered reorderedListUpdate.root ∧ p.StarFree ∧
      ((p.captures? listUpdate).run (Matcher.after {} [])).1 = some [] ∧
      ((p'.captures? reorderedListUpdate).run (Matcher.after {} [.clear])).1 = some [] := by
  intro p p'
  have hpattern : p.Reordered p' :=
    .cons (.keyValue "list" (.item [] [] (.members (by decide) (.swap ..)))) .nil
  have hupdate : listUpdate.root.Reordered reorderedListUpdate.root :=
    .trans (.member "list" [] _ (.item [] [] (.members (by decide) (.swap ..))))
      (.members (by decide) (.swap ..))
  have hstar : p.StarFree := by
    intro item hitem path hpath
    rw [List.mem_singleton.1 hitem] at hpath
    cases hpath
    decide
  have hmatch : ((p.captures? listUpdate).run (Matcher.after {} [])).1 = some [] := rfl
  exact ⟨hpattern, hupdate, hstar, hmatch,
    (match_ignores_member_order hpattern hupdate hstar [] [.clear]).symm.trans hmatch⟩

/-- A star does tell the order. -/
example :
    let p : Pattern := ⟨[.keyValue "*" (.ofNat 1)]⟩
    p.match? ⟨.object [("a", .ofNat 1), ("b", .ofNat 2)]⟩ = some [] ∧
      p.match? ⟨.object [("b", .ofNat 2), ("a", .ofNat 1)]⟩ = none := by
  decide

end Switchboard
