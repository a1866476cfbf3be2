import Switchboard.Proofs.LateResolution

/-!
# What a directory knows

The state of a name depends on the changes of that name only, and on the last of them unless that
is a declaration:

    find? name = state history name         (Directory.find?_ofHistory)

A name is a reference if it is a target and a method around its only dot, neither of them blank
(`Reference.Spells`). The state decides whether a directory contains a name; to be resolved the name
has to be a reference besides (`resolves_iff_contained`).
-/

namespace Switchboard

variable {ω : Type}

/-! ## References -/

namespace Reference

/-- Whether a name is made of these parts: the only dot stands between them, and each has a sign
that is not blank. -/
structure Spells (r : Reference) (name : String) : Prop where
  parts : name.toList = r.target.toList ++ '.' :: r.method.toList
  target_free : '.' ∉ r.target.toList
  method_free : '.' ∉ r.method.toList
  target_filled : ∃ c ∈ r.target.toList, isBlank c = false
  method_filled : ∃ c ∈ r.method.toList, isBlank c = false

theorem splitAtDot?_eq_some_iff {cs target method : List Char} :
    splitAtDot? cs = some (target, method) ↔ cs = target ++ '.' :: method ∧ '.' ∉ target := by
  induction cs generalizing target with
  | nil => simp [splitAtDot?]
  | cons c cs ih =>
    rw [splitAtDot?]
    by_cases hc : c = '.'
    · subst hc
      rw [if_pos rfl]
      cases target with
      | nil => simp
      | cons d target =>
        simp only [Option.some.injEq, Prod.mk.injEq, List.cons_append, List.cons.injEq,
          List.mem_cons, not_or]
        constructor
        · rintro ⟨h, -⟩
          cases h
        · rintro ⟨⟨hd, -⟩, hne, -⟩
          exact absurd hd hne
    · rw [if_neg hc]
      cases target with
      | nil => simp [hc]
      | cons d target =>
        simp only [Option.map_eq_some_iff, Prod.exists, Prod.mk.injEq, List.cons.injEq,
          List.cons_append, List.mem_cons, not_or]
        constructor
        · rintro ⟨t, m, h, ⟨rfl, rfl⟩, rfl⟩
          obtain ⟨rfl, hfree⟩ := ih.1 h
          exact ⟨⟨rfl, rfl⟩, Ne.symm hc, hfree⟩
        · rintro ⟨⟨rfl, rfl⟩, -, hfree⟩
          exact ⟨target, method, ih.2 ⟨rfl, hfree⟩, ⟨rfl, rfl⟩, rfl⟩

theorem isPart_iff {cs : List Char} :
    isPart cs = true ↔ (∃ c ∈ cs, isBlank c = false) ∧ '.' ∉ cs := by
  simp [isPart]

/-- The parts of a name are found exactly if it is made of them. -/
theorem parse_eq_ok_iff {name : String} {r : Reference} : parse name = .ok r ↔ r.Spells name := by
  unfold parse
  constructor
  · intro h
    split at h
    · next target method hsplit =>
      obtain ⟨hparts, hfree⟩ := splitAtDot?_eq_some_iff.1 hsplit
      split at h
      · next hboth =>
        cases h
        rw [Bool.and_eq_true, isPart_iff, isPart_iff] at hboth
        constructor <;> simp only [String.toList_ofList]
        · exact hparts
        · exact hfree
        · exact hboth.2.2
        · exact hboth.1.1
        · exact hboth.2.1
      · cases h
    · cases h
  · intro h
    have htarget := isPart_iff.2 ⟨h.target_filled, h.target_free⟩
    have hmethod := isPart_iff.2 ⟨h.method_filled, h.method_free⟩
    rw [splitAtDot?_eq_some_iff.2 ⟨h.parts, h.target_free⟩]
    simp [htarget, hmethod]

/-- Any other name is malformed. -/
theorem parse_eq_error {name : String} (h : ¬ ∃ r : Reference, r.Spells name) :
    parse name = .error (.malformed name) := by
  cases hparse : parse name with
  | ok r => exact absurd ⟨r, parse_eq_ok_iff.1 hparse⟩ h
  | error e =>
    unfold parse at hparse
    split at hparse
    · split at hparse
      · cases hparse
      · exact hparse.symm
    · exact hparse.symm

end Reference

namespace Directory

/-! ## Changes -/

/-- The name that is changed. -/
def Change.name : Change ω → String
  | register name _ | declare name | remove name => name

/-- The state of the name after a change: a declaration hides no handler. -/
def Change.apply (state : Option (Option (Handler ω))) : Change ω → Option (Option (Handler ω))
  | register _ handler => some (some handler)
  | declare _ => some state.join
  | remove _ => none

/-- The directory after some changes, empty before the first. -/
def ofHistory (history : List (Change ω)) : Directory ω := history.foldl change .empty

/-- What the changes of a name, one after the other, make of it. -/
def state (history : List (Change ω)) (name : String) : Option (Option (Handler ω)) :=
  (history.filter fun c => c.name == name).foldl Change.apply none

section Lookup
variable {β : Type} {entries : List (String × β)} {name other : String}

theorem lookup_filter_self (entries : List (String × β)) (name : String) :
    (entries.filter (·.1 != name)).lookup name = none := by
  rw [List.lookup_eq_none_iff]
  intro e he
  have hne := bne_iff_ne.1 (List.mem_filter.1 he).2
  exact bne_iff_ne.2 hne.symm

theorem lookup_filter_of_ne (h : other ≠ name) (entries : List (String × β)) :
    (entries.filter (·.1 != name)).lookup other = entries.lookup other := by
  induction entries with
  | nil => rfl
  | cons e entries ih =>
    obtain ⟨k, b⟩ := e
    by_cases hk : k = name
    · subst hk
      have hne : (other == k) = false := beq_false_of_ne h
      rw [List.filter_cons_of_neg (by simp), ih, List.lookup_cons, hne]
    · rw [List.filter_cons_of_pos (by simpa using hk), List.lookup_cons, List.lookup_cons, ih]

end Lookup

section Names
variable (d : Directory ω) {name other : String}

@[simp] theorem find?_register_self (name : String) (handler : Handler ω) :
    (d.register name handler).find? name = some (some handler) := by
  simp [find?, register, without, List.lookup_append, lookup_filter_self]

@[simp] theorem find?_register_of_ne (h : other ≠ name) (handler : Handler ω) :
    (d.register name handler).find? other = d.find? other := by
  have hne : (other == name) = false := beq_false_of_ne h
  simp [find?, register, without, List.lookup_append, lookup_filter_of_ne h, List.lookup_cons, hne]

@[simp] theorem find?_declare_self (name : String) :
    (d.declare name).find? name = some (d.find? name).join := by
  unfold declare
  cases hd : d.find? name with
  | some s => exact hd
  | none =>
    have hnone : d.entries.lookup name = none := hd
    simp [find?, List.lookup_append, hnone]

@[simp] theorem find?_declare_of_ne (h : other ≠ name) :
    (d.declare name).find? other = d.find? other := by
  have hne : (other == name) = false := beq_false_of_ne h
  unfold declare
  cases d.find? name with
  | some s => rfl
  | none => simp [find?, List.lookup_append, List.lookup_cons, hne]

@[simp] theorem find?_remove_self (name : String) : (d.remove name).2.find? name = none :=
  lookup_filter_self d.entries name

@[simp] theorem find?_remove_of_ne (h : other ≠ name) :
    (d.remove name).2.find? other = d.find? other :=
  lookup_filter_of_ne h d.entries

/-- A change makes of its name what it should, and nothing of any other name. -/
theorem find?_change (c : Change ω) (name : String) :
    (d.change c).find? name = if c.name = name then c.apply (d.find? name) else d.find? name := by
  by_cases h : c.name = name
  · subst h
    rw [if_pos rfl]
    cases c with
    | register name handler => exact d.find?_register_self name handler
    | declare name => exact d.find?_declare_self name
    | remove name => exact d.find?_remove_self name
  · rw [if_neg h]
    cases c with
    | register other handler => exact d.find?_register_of_ne (Ne.symm h) handler
    | declare other => exact d.find?_declare_of_ne (Ne.symm h)
    | remove other => exact d.find?_remove_of_ne (Ne.symm h)

end Names

/-- Later changes move the state on from where the earlier ones leave it. -/
theorem state_append (earlier later : List (Change ω)) (name : String) :
    state (earlier ++ later) name =
      (later.filter fun c => c.name == name).foldl Change.apply (state earlier name) := by
  rw [state, List.filter_append, List.foldl_append, state]

/-- A change moves its own name on, and leaves every other name where it is. -/
theorem state_concat (history : List (Change ω)) (c : Change ω) (name : String) :
    state (history ++ [c]) name =
      if c.name = name then c.apply (state history name) else state history name := by
  rw [state_append]
  by_cases h : c.name = name
  · rw [if_pos h, List.filter_cons_of_pos (by simpa using h)]
    rfl
  · rw [if_neg h, List.filter_cons_of_neg (by simpa using h)]
    rfl

/-- The state of a name is told by the changes of that name. -/
theorem find?_ofHistory (history : List (Change ω)) (name : String) :
    (ofHistory history).find? name = state history name := by
  induction history using List.reverseRecOn with
  | nil => rfl
  | append_singleton history c ih =>
    have hlast : ofHistory (history ++ [c]) = (ofHistory history).change c := by
      rw [ofHistory, List.foldl_append]
      rfl
    rw [hlast, find?_change, ih, state_concat]

/-! ## Look-up -/

theorem contains_iff {d : Directory ω} {name : String} :
    d.contains name = true ↔ ∃ handler, d.find? name = some (some handler) := by
  unfold contains
  rcases d.find? name with _ | _ | handler <;> simp

theorem resolve_eq_ok_iff {d : Directory ω} {name : String} {handler : Handler ω} :
    d.resolve name = .ok handler ↔
      (∃ r : Reference, r.Spells name) ∧ d.find? name = some (some handler) := by
  unfold resolve
  by_cases h : ∃ r : Reference, r.Spells name
  · rw [and_iff_right h]
    obtain ⟨r, hr⟩ := h
    rw [Reference.parse_eq_ok_iff.2 hr]
    rcases d.find? name with _ | _ | held <;> simp
  · rw [Reference.parse_eq_error h]
    simp [h]

/-- A name that is no reference is malformed, whatever its state. -/
theorem resolve_eq_malformed_iff {d : Directory ω} {name : String} :
    d.resolve name = .error (.malformed name) ↔ ¬ ∃ r : Reference, r.Spells name := by
  unfold resolve
  by_cases h : ∃ r : Reference, r.Spells name
  · rw [iff_false_intro (not_not.2 h), iff_false]
    obtain ⟨r, hr⟩ := h
    rw [Reference.parse_eq_ok_iff.2 hr]
    rcases d.find? name with _ | _ | held <;> simp
  · rw [Reference.parse_eq_error h]
    simp [h]

/-- **Containing and resolving.** Whatever was registered, declared and removed: a directory
contains a name exactly if the changes of the name leave it with a handler, and it resolves a name,
to this handler, exactly if the name is a reference besides; a name that is none is malformed. So
the two agree on a name unless it is no reference and has a handler. -/
theorem resolves_iff_contained (history : List (Change ω)) (name : String) :
    let d := ofHistory history
    (d.contains name = true ↔ ∃ handler, state history name = some (some handler)) ∧
      (∀ handler, d.resolve name = .ok handler ↔
        (∃ r : Reference, r.Spells name) ∧ state history name = some (some handler)) ∧
      (d.resolve name = .error (.malformed name) ↔ ¬ ∃ r : Reference, r.Spells name) ∧
      ((d.contains name = true ↔ ∃ handler, d.resolve name = .ok handler) ↔
        (∃ r : Reference, r.Spells name) ∨ d.contains name = false) := by
  intro d
  have hcontains : d.contains name = true ↔
      ∃ handler, state history name = some (some handler) := by
    rw [contains_iff, find?_ofHistory]
  have hresolve : ∀ handler, d.resolve name = .ok handler ↔
      (∃ r : Reference, r.Spells name) ∧ state history name = some (some handler) := by
    intro handler
    rw [resolve_eq_ok_iff, find?_ofHistory]
  refine ⟨hcontains, hresolve, resolve_eq_malformed_iff, ?_⟩
  rw [← Bool.not_eq_true, hcontains]
  simp only [hresolve, exists_and_left]
  tauto

/-- A name without a dot that is given a handler is contained, but it does not resolve. -/
theorem dotless_name_contained :
    let d := ofHistory [.register "greet" (.constant .proceed)]
    d.contains "greet" = true ∧ d.resolve "greet" = .error (.malformed "greet") :=
  ⟨rfl, rfl⟩

end Directory

end Switchboard
