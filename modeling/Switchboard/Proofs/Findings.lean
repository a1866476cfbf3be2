import Mathlib.Tactic.Common
import Switchboard.Json.Overlay

/-!
# Findings in layers

A path leads down a document through objects. What is found there in layered documents can be told
from what is found in each of them:

    find path (lower.overlay upper) = (find path lower).overlay (find path upper)    (find_overlay)
    told path ranked                what documents tell together, the highest one first

The highest document that finds the path not just missing decides. A value that is found there is
what all of them tell; something other than an object on the way hides what lies below it, and
objects above it hide it in turn.
-/

namespace Switchboard.Json

/-- Anything but an object counts as it is. -/
theorem overlay_of_ne {w : Json} (hw : ∀ members, w ≠ .object members) (v : Json) :
    v.overlay w = w := by
  cases w with
  | object members => exact absurd rfl (hw members)
  | _ => cases v <;> rfl

/-- Anything but an object is hidden by what lies over it. -/
theorem overlay_of_lower_ne {v : Json} (hv : ∀ members, v ≠ .object members) (w : Json) :
    v.overlay w = w := by
  cases v with
  | object members => exact absurd rfl (hv members)
  | _ => rfl

/-- What is found in a document on the way to a path. -/
inductive Finding where
  /-- So many keys lead through objects, and the next one is missing. -/
  | missing (depth : Nat)
  /-- So many keys lead to something that is no object, and there are more. -/
  | blocked (depth : Nat) (v : Json)
  | found (v : Json)

namespace Finding

/-- The same below one more key. -/
def below : Finding → Finding
  | missing depth => missing (depth + 1)
  | blocked depth v => blocked (depth + 1) v
  | found v => found v

/-- What is found in two layers, the lower one first. -/
def overlay : Finding → Finding → Finding
  | found v, found w => found (v.overlay w)
  | _, found w => found w
  | _, blocked depth w => blocked depth w
  | missing c, missing d => missing (max c d)
  | blocked c v, missing d => if c ≤ d then missing d else blocked c v
  | found v, missing _ => found v

def value? : Finding → Option Json
  | found v => some v
  | missing _ | blocked _ _ => none

def isMissing : Finding → Bool
  | missing _ => true
  | blocked _ _ | found _ => false

theorem isMissing_iff {f : Finding} : f.isMissing ↔ ∃ depth, f = missing depth := by
  cases f <;> simp [isMissing]

theorem below_eq_found {f : Finding} {v : Json} (h : f.below = found v) : f = found v := by
  cases f with
  | found w => exact h
  | _ => cases h

theorem below_eq_missing {f : Finding} {depth : Nat} (h : f.below = missing depth) :
    ∃ c, f = missing c := by
  cases f with
  | missing c => exact ⟨c, rfl⟩
  | _ => cases h

theorem below_eq_blocked {f : Finding} {depth : Nat} {v : Json} (h : f.below = blocked depth v) :
    ∃ c, depth = c + 1 ∧ f = blocked c v := by
  cases f with
  | blocked c w =>
    cases h
    exact ⟨c, rfl, rfl⟩
  | _ => cases h

theorem below_overlay (f g : Finding) : (f.overlay g).below = f.below.overlay g.below := by
  cases f with
  | missing c => cases g <;> simp [overlay, below]
  | found v => cases g <;> rfl
  | blocked c v =>
    cases g with
    | missing d => by_cases h : c ≤ d <;> simp [overlay, below, h]
    | _ => rfl

theorem below_ne_blocked (f : Finding) (v : Json) : f.below ≠ blocked 0 v := by
  cases f <;> exact nofun

theorem missing_zero_overlay (f : Finding) : (missing 0).overlay f = f := by
  cases f <;> simp [overlay]

/-- What is not blocked from the start is not hidden by an object without the first key. -/
theorem overlay_missing_zero {f : Finding} (h : ∀ v, f ≠ blocked 0 v) :
    f.overlay (missing 0) = f := by
  cases f with
  | missing c => simp [overlay]
  | found v => rfl
  | blocked c v =>
    cases c with
    | zero => exact absurd rfl (h v)
    | succ c => simp [overlay]

theorem overlay_found {w : Json} (hw : ∀ members, w ≠ .object members) (f : Finding) :
    f.overlay (found w) = found w := by
  cases f with
  | found v => exact congrArg found (overlay_of_ne hw v)
  | _ => rfl

/-- Layers that block nothing, and where no object is found, can be joined beforehand. -/
theorem overlay_assoc {f g h : Finding} (hg : ∀ depth v, g ≠ blocked depth v)
    (hh : ∀ members, h ≠ found (.object members)) :
    f.overlay (g.overlay h) = (f.overlay g).overlay h := by
  cases h with
  | found w =>
    have hw : ∀ members, w ≠ .object members := fun members e => hh members (by rw [e])
    rw [overlay_found hw, overlay_found hw, overlay_found hw]
  | blocked d w => cases f <;> cases g <;> simp [overlay]
  | missing d =>
    cases g with
    | blocked c v => exact absurd rfl (hg c v)
    | found v => cases f <;> rfl
    | missing c =>
      cases f with
      | missing b => simp [overlay, Nat.max_assoc]
      | found v => rfl
      | blocked b v =>
        by_cases hc : b ≤ c
        · have hmax : b ≤ max c d := by omega
          simp [overlay, hc, hmax]
        · by_cases hd : b ≤ d
          · have hmax : max c d = d := by omega
            simp [overlay, hc, hd, hmax]
          · have hmax : ¬b ≤ max c d := by omega
            simp [overlay, hc, hd, hmax]

/-- Findings that block nothing and are no objects. -/
structure Simple (f : Finding) : Prop where
  unblocked : ∀ depth v, f ≠ blocked depth v
  scalar : ∀ members, f ≠ found (.object members)

theorem overlay_unblocked {f g : Finding} (hf : ∀ depth v, f ≠ blocked depth v)
    (hg : ∀ depth v, g ≠ blocked depth v) (depth : Nat) (v : Json) :
    f.overlay g ≠ blocked depth v := by
  cases g with
  | blocked d w => exact absurd rfl (hg d w)
  | found w => cases f <;> exact nofun
  | missing d =>
    cases f with
    | blocked c w => exact absurd rfl (hf c w)
    | _ => exact nofun

/-- Any number of simple layers can be joined beforehand. -/
theorem overlay_foldl {f g : Finding} {layers : List Finding} (hg : ∀ depth v, g ≠ blocked depth v)
    (each : ∀ h ∈ layers, h.Simple) :
    f.overlay (layers.foldl overlay g) = layers.foldl overlay (f.overlay g) := by
  induction layers generalizing g with
  | nil => rfl
  | cons h layers ih =>
    have hh := each h List.mem_cons_self
    rw [List.foldl_cons, List.foldl_cons,
      ih (overlay_unblocked hg hh.unblocked) fun k hk => each k (List.mem_cons_of_mem _ hk),
      overlay_assoc hg hh.scalar]

end Finding

/-! ## Finding -/

def find : List String → Json → Finding
  | [], v => .found v
  | key :: path, .object members =>
    match member? key members with
    | some v => (find path v).below
    | none => .missing 0
  | _ :: _, v => .blocked 0 v

theorem find_object {key : String} {path : List String} (members : List (String × Json)) :
    find (key :: path) (.object members) =
      match member? key members with
      | some v => (find path v).below
      | none => .missing 0 := by
  rw [find]

/-- On the way of a key only objects do not block. -/
theorem find_cons_of_ne {v : Json} (hv : ∀ members, v ≠ .object members) (key : String)
    (path : List String) : find (key :: path) v = .blocked 0 v := by
  cases v with
  | object members => exact absurd rfl (hv members)
  | _ => rfl

/-- How a path begins: at something that is no object, or with a key that an object lacks or has. -/
theorem find_cons_cases (key : String) (path : List String) (v : Json) :
    find (key :: path) v = .blocked 0 v ∨
      ∃ members, v = .object members ∧
        (member? key members = none ∧ find (key :: path) v = .missing 0 ∨
          ∃ w, member? key members = some w ∧ find (key :: path) v = (find path w).below) := by
  by_cases hv : ∃ members, v = .object members
  · obtain ⟨members, rfl⟩ := hv
    refine .inr ⟨members, rfl, ?_⟩
    rw [find_object]
    cases hm : member? key members with
    | none => exact .inl ⟨rfl, rfl⟩
    | some w => exact .inr ⟨w, rfl, rfl⟩
  · exact .inl (find_cons_of_ne (fun members e => hv ⟨members, e⟩) key path)

/-- In an object a first key leads at least to the next one. -/
theorem find_object_ne_blocked {key : String} {path : List String}
    (members : List (String × Json)) (v : Json) :
    find (key :: path) (.object members) ≠ .blocked 0 v := by
  rw [find_object]
  cases member? key members with
  | none => exact nofun
  | some w => exact Finding.below_ne_blocked _ v

theorem member?_append (key : String) (ms ns : List (String × Json)) :
    member? key (ms ++ ns) = (member? key ms).or (member? key ns) := by
  induction ms with
  | nil => rfl
  | cons m ms ih =>
    rw [List.cons_append, member?, member?, ih]
    split <;> rfl

theorem member?_overlayMembers (key : String) (lower upper : List (String × Json)) :
    member? key (overlayMembers lower upper) =
      (member? key lower).map fun v => ((member? key upper).map v.overlay).getD v := by
  induction lower with
  | nil => rfl
  | cons m lower ih =>
    obtain ⟨k, v⟩ := m
    rw [overlayMembers]
    by_cases hk : k = key
    · subst hk
      cases hu : member? k upper <;> simp [member?]
    · have hne : (k == key) = false := beq_false_of_ne hk
      cases hu : member? k upper <;> simp [member?, hne, ih]

theorem lacking_cons (k : String) (v : Json) (members others : List (String × Json)) :
    lacking ((k, v) :: members) others =
      if (member? k others).isNone then (k, v) :: lacking members others
      else lacking members others :=
  List.filter_cons

theorem member?_lacking {key : String} {lower : List (String × Json)}
    (h : member? key lower = none) (upper : List (String × Json)) :
    member? key (lacking upper lower) = member? key upper := by
  induction upper with
  | nil => rfl
  | cons m upper ih =>
    obtain ⟨k, v⟩ := m
    rw [lacking_cons]
    by_cases hk : k = key
    · subst hk
      simp [h, member?]
    · have hne : (k == key) = false := beq_false_of_ne hk
      by_cases hkeep : (member? k lower).isNone <;> simp [hkeep, member?, hne, ih]

/-- A key of two layers has what both say of it. -/
theorem member?_overlay (key : String) (lower upper : List (String × Json)) :
    member? key (overlayMembers lower upper ++ lacking upper lower) =
      match member? key lower, member? key upper with
      | some v, some w => some (v.overlay w)
      | some v, none => some v
      | none, w? => w? := by
  rw [member?_append, member?_overlayMembers]
  cases hl : member? key lower with
  | none => exact member?_lacking hl upper
  | some v => cases hu : member? key upper <;> rfl

/-- What is found in two layers follows from what is found in each. -/
theorem find_overlay (path : List String) (lower upper : Json) :
    find path (lower.overlay upper) = (find path lower).overlay (find path upper) := by
  -- Along the path, a layer that is no object at a key decides there; two objects go on below.
  induction path generalizing lower upper with
  | nil => rfl
  | cons key path ih =>
    by_cases hu : ∃ members, upper = .object members
    · obtain ⟨us, rfl⟩ := hu
      by_cases hl : ∃ members, lower = .object members
      · obtain ⟨ls, rfl⟩ := hl
        rw [overlay, find_object, find_object, find_object, member?_overlay]
        cases hv : member? key ls with
        | none => exact (Finding.missing_zero_overlay _).symm
        | some v =>
          cases hw : member? key us with
          | none => exact (Finding.overlay_missing_zero (Finding.below_ne_blocked _)).symm
          | some w =>
            dsimp only
            rw [ih, Finding.below_overlay]
      · have hne : ∀ members, lower ≠ .object members := fun ms e => hl ⟨ms, e⟩
        rw [overlay_of_lower_ne hne, find_cons_of_ne hne]
        cases find (key :: path) (.object us) <;> simp [Finding.overlay]
    · have hne : ∀ members, upper ≠ .object members := fun ms e => hu ⟨ms, e⟩
      rw [overlay_of_ne hne, find_cons_of_ne hne]
      cases find (key :: path) lower <;> rfl

/-! ## Many layers -/

/-- What documents tell together, the highest one first. -/
def told (path : List String) (ranked : List Json) : Finding :=
  ranked.foldr (fun d below => below.overlay (find path d)) (.missing 0)

theorem find_foldl_overlay (path : List String) (base : Json) (layers : List Json) :
    find path (layers.foldl overlay base) =
      (layers.map (find path)).foldl Finding.overlay (find path base) := by
  induction layers generalizing base with
  | nil => rfl
  | cons d layers ih => rw [List.foldl_cons, ih, find_overlay, List.map_cons, List.foldl_cons]

/-- Layers in their order tell what they tell by their rank. -/
theorem find_layers (path : List String) (base : Json) (layers : List Json) :
    find path (layers.foldl overlay base) = told path (layers.reverse ++ [base]) := by
  rw [find_foldl_overlay, List.foldl_map, told, List.foldr_append, List.foldr_reverse,
    List.foldr_cons, List.foldr_nil, Finding.missing_zero_overlay]

section Told
variable {path : List String} {above below : List Json}

theorem told_cons (path : List String) (d : Json) (below : List Json) :
    told path (d :: below) = (told path below).overlay (find path d) :=
  rfl

theorem told_append_found {v : Json} (h : ∀ d ∈ above, (find path d).isMissing)
    (hv : told path below = .found v) : told path (above ++ below) = .found v := by
  induction above with
  | nil => exact hv
  | cons d above ih =>
    obtain ⟨depth, hd⟩ := Finding.isMissing_iff.1 (h d (by simp))
    rw [List.cons_append, told_cons, ih fun e he => h e (by simp [he]), hd]
    rfl

/-- Nothing is found where no document finds anything. -/
theorem told_append_missing {depth : Nat} (h : ∀ d ∈ above, (find path d).isMissing)
    (hv : told path below = .missing depth) : (told path (above ++ below)).isMissing := by
  induction above with
  | nil =>
    rw [List.nil_append, hv]
    rfl
  | cons d above ih =>
    obtain ⟨c, hc⟩ := Finding.isMissing_iff.1 (h d (by simp))
    obtain ⟨b, hb⟩ := Finding.isMissing_iff.1 (ih fun e he => h e (by simp [he]))
    rw [List.cons_append, told_cons, hb, hc]
    rfl

/-- What blocks the path is hidden by objects that lead as deep, and by nothing else. -/
theorem told_append_blocked {depth : Nat} {v : Json} (h : ∀ d ∈ above, (find path d).isMissing)
    (hv : told path below = .blocked depth v) :
    ((∃ d ∈ above, ∃ c, depth ≤ c ∧ find path d = .missing c) ∧
        (told path (above ++ below)).isMissing) ∨
      (¬∃ d ∈ above, ∃ c, depth ≤ c ∧ find path d = .missing c) ∧
        told path (above ++ below) = .blocked depth v := by
  induction above with
  | nil => exact .inr ⟨by simp, hv⟩
  | cons d above ih =>
    obtain ⟨c, hc⟩ := Finding.isMissing_iff.1 (h d (by simp))
    rw [List.cons_append, told_cons, hc]
    rcases ih fun e he => h e (by simp [he]) with ⟨⟨e, he, hdeep⟩, hmissing⟩ | ⟨hnone, hblocked⟩
    · refine .inl ⟨⟨e, by simp [he], hdeep⟩, ?_⟩
      obtain ⟨b, hb⟩ := Finding.isMissing_iff.1 hmissing
      rw [hb]
      rfl
    · rw [hblocked]
      by_cases hdepth : depth ≤ c
      · refine .inl ⟨⟨d, by simp, c, hdepth, hc⟩, ?_⟩
        simp [Finding.overlay, hdepth, Finding.isMissing]
      · refine .inr ⟨?_, by simp [Finding.overlay, hdepth]⟩
        rintro ⟨e, he, b, hb, hfind⟩
        rcases List.mem_cons.1 he with rfl | he
        · rw [hc] at hfind
          cases hfind
          exact hdepth hb
        · exact hnone ⟨e, he, b, hb, hfind⟩

/-- What the highest document finds is told, unless it is an object, which others may add to. -/
theorem told_cons_found {d v : Json} (hv : find path d = .found v) :
    told path (d :: below) = .found v ∨
      ∃ members others, v = .object members ∧ told path (d :: below) = .found (.object others) := by
  rw [told_cons, hv]
  cases told path below with
  | missing c => exact .inl rfl
  | blocked c w => exact .inl rfl
  | found w =>
    cases v with
    | object us =>
      cases w with
      | object ls => exact .inr ⟨us, _, rfl, rfl⟩
      | _ => exact .inl rfl
    | _ => cases w <;> exact .inl rfl

theorem told_cons_blocked {d v : Json} {depth : Nat} (hv : find path d = .blocked depth v) :
    told path (d :: below) = .blocked depth v := by
  rw [told_cons, hv]
  cases told path below <;> rfl

end Told

end Switchboard.Json
