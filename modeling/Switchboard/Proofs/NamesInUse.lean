import Mathlib.Data.List.Nodup
import Switchboard.Proofs.Directories

/-!
# Names in use

A name is absent, declared, or it has a handler, and a change of the name takes it from one of these
states to the next:

                    absent       declared     handler h
    register k      handler k    handler k    handler k
    declare         declared     declared     handler h
    remove          absent       absent       absent

What a reference resolves to is told by the state of its name. A directory has one entry for each
name that is not absent (`distinct_ofHistory`, `mem_keys_iff`), so these are the names that it
lists, and their number is its size.
-/

namespace Switchboard.Directory

variable {ω : Type}

/-! ## States -/

/-- After a change a name has a handler if it was given it or was declared while it had it. -/
theorem Change.apply_eq_handler_iff {c : Change ω} {state : Option (Option (Handler ω))}
    {handler : Handler ω} : c.apply state = some (some handler) ↔
      c = .register c.name handler ∨ c = .declare c.name ∧ state = some (some handler) := by
  cases c with
  | register name held => simp [Change.apply, Change.name]
  | declare name => simp [Change.apply, Change.name, Option.join_eq_some_iff]
  | remove name => simp [Change.apply]

/-- The handler of a name is the last one that it was given, if only declarations came later. -/
theorem state_eq_handler_iff {history : List (Change ω)} {name : String} {handler : Handler ω} :
    state history name = some (some handler) ↔
      ∃ earlier later, history = earlier ++ .register name handler :: later ∧
        ∀ c ∈ later, c.name = name → c = .declare name := by
  constructor
  · intro h
    induction history using List.reverseRecOn with
    | nil => cases h
    | append_singleton history c ih =>
      have hkept (h : state history name = some (some handler))
          (hc : c.name = name → c = .declare name) :
          ∃ earlier later, history ++ [c] = earlier ++ .register name handler :: later ∧
            ∀ c ∈ later, c.name = name → c = .declare name := by
        obtain ⟨earlier, later, rfl, hlater⟩ := ih h
        refine ⟨earlier, later ++ [c], by simp, ?_⟩
        rw [List.forall_mem_append]
        exact ⟨hlater, List.forall_mem_singleton.2 hc⟩
      rw [state_concat] at h
      by_cases hname : c.name = name
      · rw [if_pos hname, Change.apply_eq_handler_iff, hname] at h
        rcases h with rfl | ⟨rfl, h⟩
        · exact ⟨history, [], rfl, nofun⟩
        · exact hkept h fun _ => rfl
      · rw [if_neg hname] at h
        exact hkept h fun heq => absurd heq hname
  · rintro ⟨earlier, later, rfl, hlater⟩
    rw [state_append, List.filter_cons_of_pos (by simp [Change.name]), List.foldl_cons]
    show _ = some (some handler)
    induction later with
    | nil => rfl
    | cons c later ih =>
      have ih := ih fun d hd => hlater d (List.mem_cons_of_mem _ hd)
      by_cases hname : c.name = name
      · rw [List.filter_cons_of_pos (by simpa using hname), hlater c List.mem_cons_self hname]
        exact ih
      · rwa [List.filter_cons_of_neg (by simpa using hname)]

/-! ## Entries -/

/-- No two entries have the same name. -/
def Distinct (d : Directory ω) : Prop := (d.entries.map (·.1)).Nodup

/-- The names of the entries are those that are not absent. -/
theorem mem_keys_iff {d : Directory ω} {name : String} :
    name ∈ d.entries.map (·.1) ↔ d.find? name ≠ none := by
  rw [find?, Ne, List.lookup_eq_none_iff]
  simp only [List.mem_map, bne_iff_ne, not_forall, not_not]
  constructor
  · rintro ⟨e, he, rfl⟩
    exact ⟨e, he, rfl⟩
  · rintro ⟨e, he, hname⟩
    exact ⟨e, he, hname.symm⟩

section Distinct
variable {d : Directory ω}

theorem Distinct.without (h : d.Distinct) (name : String) : Distinct ⟨d.without name⟩ :=
  h.sublist (List.filter_sublist.map _)

theorem Distinct.concat {entries : List (String × Option (Handler ω))} {name : String}
    (h : Distinct ⟨entries⟩) (hname : find? ⟨entries⟩ name = none) (held : Option (Handler ω)) :
    Distinct ⟨entries ++ [(name, held)]⟩ := by
  have hfree : name ∉ entries.map (·.1) := fun hmem => mem_keys_iff.1 hmem hname
  rw [Distinct, List.map_append]
  refine List.Nodup.append h (List.nodup_singleton _) ?_
  simpa using hfree

/-- Every change leaves the names distinct: a name is taken out before it is put in. -/
theorem Distinct.change (h : d.Distinct) (c : Change ω) : (d.change c).Distinct := by
  cases c with
  | register name handler => exact .concat (h.without name) (lookup_filter_self _ _) _
  | declare name =>
    show (d.declare name).Distinct
    unfold declare
    cases hname : d.find? name with
    | some held => exact h
    | none => exact .concat h hname _
  | remove name => exact h.without name

theorem distinct_ofHistory (history : List (Change ω)) : (ofHistory history).Distinct :=
  List.foldlRecOn history change List.nodup_nil fun _ h c _ => h.change c

/-- Distinct names are listed in ascending order. -/
theorem Distinct.names_ascending (h : d.Distinct) : d.names.Pairwise (· < ·) := by
  have hsorted : d.names.Pairwise (· ≤ ·) := by
    refine (List.pairwise_mergeSort ?_ ?_ _).imp of_decide_eq_true
    · exact fun a b c hab hbc => decide_eq_true
        (String.le_trans (of_decide_eq_true hab) (of_decide_eq_true hbc))
    · intro a b
      rcases String.le_total a b with hab | hba <;> simp [*]
  have hnodup : d.names.Nodup := (List.mergeSort_perm _ _).nodup_iff.2 h
  exact (hsorted.and hnodup).imp fun hab => Std.lt_of_le_of_ne hab.1 hab.2

end Distinct

/-! ## Look-up -/

/-- What a reference resolves to is told by the state of its name. -/
theorem resolve_of_spells {d : Directory ω} {name : String} {r : Reference} (h : r.Spells name) :
    d.resolve name =
      match d.find? name with
      | some (some handler) => .ok handler
      | some none => .error (.notInvocable name)
      | none => .error (.unknown name) := by
  have hparse : Reference.parse name = .ok r := Reference.parse_eq_ok_iff.2 h
  cases hfind : d.find? name with
  | none => simp only [resolve, hparse, hfind]
  | some bound => cases bound <;> simp only [resolve, hparse, hfind]

/-- **The states of a name.** Whatever was registered, declared and removed: the state of a name
follows the changes of this name, and whether a removal finds it and what it resolves to are told
by its state, if it is a reference; any other name is malformed. The names that are not absent are
listed once each, in ascending order, and their number is the size. -/
theorem names_follow_changes (history : List (Change ω)) (name : String) :
    let d := ofHistory history
    let now := state history name
    -- the changes that take a name from one state to the next, and those that do not
    ((∀ handler, state (history ++ [.register name handler]) name = some (some handler)) ∧
      state (history ++ [.declare name]) name = now.or (some none) ∧
      state (history ++ [.remove name]) name = none ∧
      (∀ c : Change ω, c.name ≠ name → state (history ++ [c]) name = now) ∧
      ∀ handler, now = some (some handler) ↔
        ∃ earlier later, history = earlier ++ .register name handler :: later ∧
          ∀ c ∈ later, c.name = name → c = .declare name) ∧
    -- what the state tells
    ((d.remove name).1 = true ↔ now ≠ none) ∧
    (d.resolve name = .error (.malformed name) ↔ ¬ ∃ r : Reference, r.Spells name) ∧
    (∀ r : Reference, r.Spells name → d.resolve name =
      match now with
      | some (some handler) => .ok handler
      | some none => .error (.notInvocable name)
      | none => .error (.unknown name)) ∧
    (∀ others : List (Change ω),
      (others.filter fun c => c.name == name) = (history.filter fun c => c.name == name) →
        (ofHistory others).resolve name = d.resolve name) ∧
    -- the names in use
    d.names.Pairwise (· < ·) ∧ (name ∈ d.names ↔ now ≠ none) ∧ d.size = d.names.length := by
  intro d now
  have hfind : d.find? name = now := find?_ofHistory history name
  refine ⟨⟨?_, ?_, ?_, ?_, fun handler => state_eq_handler_iff⟩, ?_, resolve_eq_malformed_iff, ?_,
    ?_, (distinct_ofHistory history).names_ascending, ?_, ?_⟩
  · intro handler
    rw [state_concat]
    exact if_pos rfl
  · rw [state_concat]
    refine (if_pos rfl).trans ?_
    show some now.join = now.or (some none)
    rcases now with _ | _ | handler <;> rfl
  · rw [state_concat]
    exact if_pos rfl
  · intro c hc
    rw [state_concat, if_neg hc]
  · rw [remove, hfind, Option.isSome_iff_ne_none]
  · intro r hr
    rw [resolve_of_spells hr, hfind]
  · intro others hsame
    have hother : (ofHistory others).find? name = d.find? name := by
      rw [find?_ofHistory, find?_ofHistory, state, state, hsame]
    rw [resolve, resolve, hother]
  · rw [names, List.mem_mergeSort, mem_keys_iff, hfind]
  · rw [size, names, List.length_mergeSort, List.length_map]

/-- A declaration leaves the handler where it is, and a name that is removed is in use no more. -/
theorem greeter_follows_changes :
    let history : List (Change Unit) :=
      [.declare "Greeter.hello", .register "Farewell.bye" (.constant .proceed),
        .register "Greeter.hello" (.constant .stop), .declare "Greeter.hello",
        .remove "Farewell.bye", .declare "Audit.write"]
    let d := ofHistory history
    Reference.Spells ⟨"Greeter", "hello"⟩ "Greeter.hello" ∧
      d.resolve "Greeter.hello" = .ok (.constant .stop) ∧ (d.remove "Greeter.hello").1 = true ∧
      d.names = ["Audit.write", "Greeter.hello"] ∧ d.size = d.names.length := by
  intro history d
  have hspells : Reference.Spells ⟨"Greeter", "hello"⟩ "Greeter.hello" :=
    Reference.parse_eq_ok_iff.1 (by decide +kernel)
  obtain ⟨-, hremove, -, hresolve, -, -, -, hsize⟩ := names_follow_changes history "Greeter.hello"
  have hstate : state history "Greeter.hello" = some (some (.constant .stop)) := rfl
  have hkeys : d.entries.map (·.1) = ["Greeter.hello", "Audit.write"] := rfl
  refine ⟨hspells, ?_, ?_, ?_, hsize⟩
  · rw [hresolve _ hspells, hstate]
  · exact hremove.2 (by simp [hstate])
  · rw [names, hkeys]
    simp [List.mergeSort]

end Switchboard.Directory
