import Switchboard.Proofs.DispatchOrder

/-!
# Turns

The turns of a run are the attempts that it makes if none of them fails, each with the slot of the
ledger that its callback stands in:

    turns = hooks before ++ events that match, up to the first that stops
              ++ a fallback if no event matches ++ hooks after

A run attempts its turns up to the first that fails (`Represents.run_turns`). Another callback in
one slot makes another attempt in the turn of that slot and leaves all other turns alone, as long as
the two agree on whether they stop (`turns_withCallback`).
-/

namespace Switchboard

variable {ω : Type}

/-! ## Slots -/

/-- A registration of a ledger: its kind, and its number among those of its kind. -/
inductive Slot where
  | before (index : Nat)
  | event (index : Nat)
  | fallback (index : Nat)
  | after (index : Nat)
deriving DecidableEq, Repr

namespace Slot

def isEvent : Slot → Bool
  | event _ => true
  | before _ | fallback _ | after _ => false

def isFallback : Slot → Bool
  | fallback _ => true
  | before _ | event _ | after _ => false

end Slot

namespace Ledger

/-- The callback that stands in a slot. -/
def callback? (l : Ledger ω) : Slot → Option (Callback ω)
  | .before k => l.before[k]?.map Hook.callback
  | .event k => l.events[k]?.map Event.callback
  | .fallback k => l.fallbacks[k]?.map Fallback.callback
  | .after k => l.after[k]?.map Hook.callback

/-- The ledger with another callback in a slot: its pattern or keys, its priority and its extra
arguments stay. -/
def withCallback (l : Ledger ω) (c : Callback ω) : Slot → Ledger ω
  | .before k => { l with before := l.before.modify k fun h => { h with callback := c } }
  | .event k => { l with events := l.events.modify k fun e => { e with callback := c } }
  | .fallback k => { l with fallbacks := l.fallbacks.modify k fun f => { f with callback := c } }
  | .after k => { l with after := l.after.modify k fun h => { h with callback := c } }

end Ledger

/-- An attempt that has its turn, and the slot of its callback. -/
abbrev Turn (ω : Type) := Slot × Attempt ω

namespace Turn

def hooks (i : Invoker ω) (payload : Payload) (slot : Nat → Slot) (hs : List (Hook ω)) :
    List (Turn ω) :=
  (byPriority (fun h => h.1.priority) hs.zipIdx).map fun h => (slot h.2, i.hookAttempt payload h.1)

/-- The turns of the events that match, were it not for those that stop. -/
def matching [Regex.Capacity] (i : Invoker ω) (payload : Payload) (es : List (Event ω)) :
    List (Turn ω) :=
  (byPriority (fun e => e.1.priority) es.zipIdx).filterMap fun e =>
    (i.eventAttempt? payload e.1).map fun a => (.event e.2, a)

def events [Regex.Capacity] (i : Invoker ω) (payload : Payload) (es : List (Event ω)) :
    List (Turn ω) :=
  throughFirst (fun t => t.2.stops) (matching i payload es)

def fallback (i : Invoker ω) (payload : Payload) (caught : Bool) (fs : List (Fallback ω)) :
    List (Turn ω) :=
  if caught then []
  else ((fs.zipIdx.find? fun f => f.1.keys.any payload.has).map fun f =>
    (.fallback f.2, i.attempt payload f.1.callback [])).toList

/-- The turn with this callback, if it is the turn of the slot. -/
def withCallback (i : Invoker ω) (payload : Payload) (slot : Slot) (c : Callback ω) (t : Turn ω) :
    Turn ω :=
  if t.1 = slot then (t.1, i.attempt payload c t.2.arguments) else t

end Turn

def Ledger.turns [Regex.Capacity] (l : Ledger ω) (i : Invoker ω) : List (Turn ω) :=
  Turn.hooks i l.payload .before l.before ++ Turn.events i l.payload l.events ++
    Turn.fallback i l.payload (someMatch l.payload l.events) l.fallbacks ++
    Turn.hooks i l.payload .after l.after

/-- What a run reports that takes all its turns. -/
def Ledger.report [Regex.Capacity] (l : Ledger ω) (i : Invoker ω) : Report where
  caught := someMatch l.payload l.events
  cancelled := (l.turns i).any fun t => t.1.isEvent && t.2.stops
  invoked := (l.turns i).countP fun t => t.2.isCall && t.1.isEvent
  fallbackFired := (l.turns i).any fun t => t.1.isFallback

/-! ## Numbered lists -/

section Numbered
variable {α : Type} {f : α → Int} {g : α → α}

theorem zipIdx_modify (g : α → α) (k : Nat) (l : List α) :
    (l.modify k g).zipIdx = l.zipIdx.map fun e => if e.2 = k then (g e.1, e.2) else e := by
  refine List.ext_getElem? fun j => ?_
  rw [List.getElem?_map, List.getElem?_zipIdx, List.getElem?_zipIdx, List.getElem?_modify]
  cases l[j]? with
  | none => rfl
  | some a => by_cases h : k = j <;> simp [h, eq_comm]

/-- A sort by priority does not look at anything else. -/
theorem byPriority_modify (hg : ∀ a, f (g a) = f a) (k : Nat) (l : List α) :
    byPriority (fun e => f e.1) (l.modify k g).zipIdx =
      (byPriority (fun e => f e.1) l.zipIdx).map fun e => if e.2 = k then (g e.1, e.2) else e := by
  rw [zipIdx_modify, byPriority_map]
  congr 2
  funext e
  by_cases h : e.2 = k <;> simp [h, hg]

theorem map_fst_byPriority (f : α → Int) (l : List α) :
    (byPriority (fun e => f e.1) l.zipIdx).map (·.1) = byPriority f l := by
  have h := byPriority_map f (fun e : α × Nat => e.1) l.zipIdx
  rw [List.zipIdx_map_fst] at h
  exact h.symm

theorem mem_numbered {l : List α} {e : α × Nat} (h : e ∈ byPriority (fun e => f e.1) l.zipIdx) :
    l[e.2]? = some e.1 := by
  unfold byPriority at h
  rw [List.mem_mergeSort] at h
  exact List.mem_zipIdx_iff_getElem?.1 h

theorem numbers_distinct (f : α → Int) (l : List α) :
    (byPriority (fun e => f e.1) l.zipIdx).Pairwise fun e e' => e.2 ≠ e'.2 := by
  have hperm := (List.mergeSort_perm l.zipIdx fun a b => decide (f a.1 ≤ f b.1)).map (·.2)
  have hnodup : (l.zipIdx.map (·.2)).Nodup := by
    rw [List.zipIdx_map_snd]
    exact List.nodup_range'
  exact List.pairwise_map.1 (hperm.nodup_iff.2 hnodup)

end Numbered

/-! ## Turns of the phases -/

namespace Turn

variable {i : Invoker ω} {payload : Payload}

theorem map_snd_hooks (slot : Nat → Slot) (hs : List (Hook ω)) :
    (hooks i payload slot hs).map (·.2) =
      (byPriority Hook.priority hs).map (i.hookAttempt payload) := by
  rw [← map_fst_byPriority Hook.priority hs, hooks, List.map_map, List.map_map]
  rfl

theorem map_snd_matching [Regex.Capacity] (es : List (Event ω)) :
    (matching i payload es).map (·.2) =
      Course.matching i payload (byPriority Event.priority es) := by
  rw [← map_fst_byPriority Event.priority es, Course.matching, List.filterMap_map, matching,
    List.map_filterMap]
  congr 1
  funext e
  simp [Function.comp_def]

theorem map_snd_events [Regex.Capacity] (es : List (Event ω)) :
    (events i payload es).map (·.2) =
      throughFirst Attempt.stops (Course.matching i payload (byPriority Event.priority es)) := by
  rw [← map_snd_matching, events, throughFirst_map fun _ _ => rfl]

theorem map_snd_fallback (caught : Bool) (fs : List (Fallback ω)) :
    (fallback i payload caught fs).map (·.2) =
      (if caught then none else fittingFallback? payload fs).toList.map fun f =>
        i.attempt payload f.callback [] := by
  have hfind : (fs.zipIdx.find? fun f => f.1.keys.any payload.has).map (·.1) =
      fittingFallback? payload fs := by
    rw [fittingFallback?, ← List.zipIdx_map_fst 0 fs, List.find?_map, List.zipIdx_map_fst]
    rfl
  rw [← hfind, fallback]
  cases caught with
  | true => rfl
  | false => cases fs.zipIdx.find? fun f => f.1.keys.any payload.has <;> rfl

/-! ### Another callback -/

section WithCallback
variable {c : Callback ω}

theorem hooks_modify {slot : Nat → Slot} (hslot : Function.Injective slot) (k : Nat)
    (hs : List (Hook ω)) :
    hooks i payload slot (hs.modify k fun h => { h with callback := c }) =
      (hooks i payload slot hs).map (withCallback i payload (slot k) c) := by
  have hsort := byPriority_modify (f := Hook.priority) (g := fun h => { h with callback := c })
    (fun _ => rfl) k hs
  rw [hooks, hsort, hooks, List.map_map, List.map_map]
  refine List.map_congr_left fun h _ => ?_
  by_cases hk : h.2 = k
  · simp [hk, withCallback, Invoker.hookAttempt, Invoker.attempt]
  · simp [hk, withCallback, hslot.eq_iff]

theorem matching_modify [Regex.Capacity] (k : Nat) (es : List (Event ω)) :
    matching i payload (es.modify k fun e => { e with callback := c }) =
      (matching i payload es).map (withCallback i payload (.event k) c) := by
  have hsort := byPriority_modify (f := Event.priority) (g := fun e => { e with callback := c })
    (fun _ => rfl) k es
  rw [matching, hsort, matching, List.filterMap_map, List.map_filterMap]
  congr 1
  funext e
  by_cases hk : e.2 = k <;>
    cases hm : e.1.pattern.match? payload <;>
      simp [hk, hm, withCallback, Invoker.eventAttempt?, Invoker.attempt]

theorem events_modify [Regex.Capacity] {k : Nat} {es : List (Event ω)}
    (h : ∀ a, (.event k, a) ∈ events i payload es →
      (i.attempt payload c a.arguments).stops = a.stops) :
    events i payload (es.modify k fun e => { e with callback := c }) =
      (events i payload es).map (withCallback i payload (.event k) c) := by
  unfold events at h ⊢
  rw [matching_modify]
  refine throughFirst_map fun t ht => ?_
  unfold withCallback
  split
  · next hk =>
    obtain ⟨slot, a⟩ := t
    subst hk
    exact h a ht
  · rfl

theorem fallback_modify (caught : Bool) (k : Nat) (fs : List (Fallback ω)) :
    fallback i payload caught (fs.modify k fun f => { f with callback := c }) =
      (fallback i payload caught fs).map (withCallback i payload (.fallback k) c) := by
  have hkeys : ((fun f : Fallback ω × Nat => f.1.keys.any payload.has) ∘ fun f =>
      if f.2 = k then ({ f.1 with callback := c }, f.2) else f) =
        fun f => f.1.keys.any payload.has := by
    funext f
    by_cases hk : f.2 = k <;> simp [hk]
  rw [fallback, zipIdx_modify, List.find?_map, hkeys, fallback]
  cases caught with
  | true => rfl
  | false =>
    cases fs.zipIdx.find? fun f => f.1.keys.any payload.has with
    | none => rfl
    | some f => by_cases hk : f.2 = k <;> simp [hk, withCallback, Invoker.attempt]

theorem someMatch_modify [Regex.Capacity] (k : Nat) (es : List (Event ω)) :
    someMatch payload (es.modify k fun e => { e with callback := c }) = someMatch payload es := by
  have hpatterns : ∀ l : List (Event ω), someMatch payload l =
      (l.map Event.pattern).any fun p => (p.match? payload).isSome := fun l => by
    rw [List.any_map]
    rfl
  have hsame : (es.modify k fun e => { e with callback := c }).map Event.pattern =
      es.map Event.pattern := by
    refine List.ext_getElem? fun j => ?_
    rw [List.getElem?_map, List.getElem?_map, List.getElem?_modify]
    cases es[j]? with
    | none => rfl
    | some e => by_cases hk : k = j <;> simp [hk]
  rw [hpatterns, hpatterns, hsame]

end WithCallback

/-! ### Slots of turns -/

theorem mem_hooks {slot : Nat → Slot} {hs : List (Hook ω)} {t : Turn ω}
    (h : t ∈ hooks i payload slot hs) :
    ∃ k hook, hs[k]? = some hook ∧ t = (slot k, i.hookAttempt payload hook) := by
  obtain ⟨e, he, rfl⟩ := List.mem_map.1 h
  exact ⟨e.2, e.1, mem_numbered he, rfl⟩

theorem mem_events [Regex.Capacity] {es : List (Event ω)} {t : Turn ω}
    (h : t ∈ events i payload es) :
    ∃ k e arguments, es[k]? = some e ∧ t = (.event k, i.attempt payload e.callback arguments) := by
  have h := (throughFirst_sublist _ _).subset h
  obtain ⟨e, he, hm⟩ := List.mem_filterMap.1 h
  obtain ⟨a, ha, rfl⟩ := Option.map_eq_some_iff.1 hm
  obtain ⟨captures, -, rfl⟩ := Option.map_eq_some_iff.1 ha
  exact ⟨e.2, e.1, _, mem_numbered he, rfl⟩

theorem mem_fallback {caught : Bool} {fs : List (Fallback ω)} {t : Turn ω}
    (h : t ∈ fallback i payload caught fs) :
    ∃ k f, fs[k]? = some f ∧ t = (.fallback k, i.attempt payload f.callback []) := by
  unfold fallback at h
  split at h
  · cases h
  · rw [Option.mem_toList] at h
    obtain ⟨f, hf, rfl⟩ := Option.map_eq_some_iff.1 h
    exact ⟨f.2, f.1, List.mem_zipIdx_iff_getElem?.1 (List.mem_of_find?_eq_some hf), rfl⟩

/-- Turns of other slots stay as they are. -/
theorem map_withCallback_of_ne {slot : Slot} {c : Callback ω} {ts : List (Turn ω)}
    (h : ∀ t ∈ ts, t.1 ≠ slot) : ts.map (withCallback i payload slot c) = ts := by
  conv_rhs => rw [← List.map_id ts]
  refine List.map_congr_left fun t ht => ?_
  rw [withCallback, if_neg (h t ht), id]

theorem map_hooks_of_ne {slot : Slot} (place : Nat → Slot) (h : ∀ k, place k ≠ slot)
    (c : Callback ω) (hs : List (Hook ω)) :
    (hooks i payload place hs).map (withCallback i payload slot c) = hooks i payload place hs := by
  refine map_withCallback_of_ne fun t ht => ?_
  obtain ⟨k, hook, -, rfl⟩ := mem_hooks ht
  exact h k

theorem map_events_of_ne [Regex.Capacity] {slot : Slot} (h : ∀ k, .event k ≠ slot) (c : Callback ω)
    (es : List (Event ω)) :
    (events i payload es).map (withCallback i payload slot c) = events i payload es := by
  refine map_withCallback_of_ne fun t ht => ?_
  obtain ⟨k, e, as, -, rfl⟩ := mem_events ht
  exact h k

theorem map_fallback_of_ne {slot : Slot} (h : ∀ k, .fallback k ≠ slot) (c : Callback ω)
    (caught : Bool) (fs : List (Fallback ω)) :
    (fallback i payload caught fs).map (withCallback i payload slot c) =
      fallback i payload caught fs := by
  refine map_withCallback_of_ne fun t ht => ?_
  obtain ⟨k, f, -, rfl⟩ := mem_fallback ht
  exact h k

/-- Turns of different slots. -/
def Distinct (ts : List (Turn ω)) : Prop := ts.Pairwise fun t t' => t.1 ≠ t'.1

theorem distinct_hooks {slot : Nat → Slot} (hslot : Function.Injective slot) (hs : List (Hook ω)) :
    Distinct (hooks i payload slot hs) := by
  rw [Distinct, hooks, List.pairwise_map]
  exact (numbers_distinct Hook.priority hs).imp fun hne he => hne (hslot he)

theorem distinct_events [Regex.Capacity] (es : List (Event ω)) :
    Distinct (events i payload es) := by
  refine List.Pairwise.sublist (throughFirst_sublist _ _) ?_
  rw [matching, List.pairwise_filterMap]
  refine (numbers_distinct Event.priority es).imp fun hne t ht t' ht' he => ?_
  obtain ⟨a, -, rfl⟩ := Option.map_eq_some_iff.1 ht
  obtain ⟨a', -, rfl⟩ := Option.map_eq_some_iff.1 ht'
  exact hne (Slot.event.inj he)

theorem distinct_fallback (caught : Bool) (fs : List (Fallback ω)) :
    Distinct (fallback i payload caught fs) := by
  unfold fallback
  split
  · exact List.Pairwise.nil
  · cases fs.zipIdx.find? fun f => f.1.keys.any payload.has with
    | none => exact List.Pairwise.nil
    | some f => exact List.pairwise_singleton _ _

/-- Around the turn of a slot all other turns stay as they are. -/
theorem Distinct.map_withCallback {slot : Slot} {c : Callback ω} {earlier later : List (Turn ω)}
    {a : Attempt ω} (h : Distinct (earlier ++ (slot, a) :: later)) :
    (earlier ++ (slot, a) :: later).map (withCallback i payload slot c) =
      earlier ++ (slot, i.attempt payload c a.arguments) :: later := by
  obtain ⟨-, hlater, hearlier⟩ := List.pairwise_append.1 h
  rw [List.map_append, List.map_cons, map_withCallback_of_ne fun t ht =>
      hearlier t ht _ List.mem_cons_self, map_withCallback_of_ne fun t ht he =>
      (List.pairwise_cons.1 hlater).1 t ht he.symm, withCallback, if_pos rfl]

end Turn

namespace Ledger

theorem distinct_turns [Regex.Capacity] (l : Ledger ω) (i : Invoker ω) :
    Turn.Distinct (l.turns i) := by
  have hbefore : Turn.Distinct (Turn.hooks i l.payload .before l.before) :=
    Turn.distinct_hooks (fun _ _ h => Slot.before.inj h) _
  have hafter : Turn.Distinct (Turn.hooks i l.payload .after l.after) :=
    Turn.distinct_hooks (fun _ _ h => Slot.after.inj h) _
  unfold turns
  refine List.pairwise_append.2 ⟨List.pairwise_append.2 ⟨List.pairwise_append.2
    ⟨hbefore, Turn.distinct_events _, ?_⟩, Turn.distinct_fallback _ _, ?_⟩, hafter, ?_⟩
  · intro t ht t' ht'
    obtain ⟨k, h, -, rfl⟩ := Turn.mem_hooks ht
    obtain ⟨k', e, as, -, rfl⟩ := Turn.mem_events ht'
    exact Slot.noConfusion
  · intro t ht t' ht'
    obtain ⟨k', f, -, rfl⟩ := Turn.mem_fallback ht'
    rcases List.mem_append.1 ht with ht | ht
    · obtain ⟨k, h, -, rfl⟩ := Turn.mem_hooks ht
      exact Slot.noConfusion
    · obtain ⟨k, e, as, -, rfl⟩ := Turn.mem_events ht
      exact Slot.noConfusion
  · intro t ht t' ht'
    obtain ⟨k', h', -, rfl⟩ := Turn.mem_hooks ht'
    rcases List.mem_append.1 ht with ht | ht
    · rcases List.mem_append.1 ht with ht | ht
      · obtain ⟨k, h, -, rfl⟩ := Turn.mem_hooks ht
        exact Slot.noConfusion
      · obtain ⟨k, e, as, -, rfl⟩ := Turn.mem_events ht
        exact Slot.noConfusion
    · obtain ⟨k, f, -, rfl⟩ := Turn.mem_fallback ht
      exact Slot.noConfusion

/-- Every turn is the attempt of the callback in its slot. -/
theorem callback?_of_mem [Regex.Capacity] {l : Ledger ω} {i : Invoker ω} {slot : Slot}
    {a : Attempt ω}
    (h : (slot, a) ∈ l.turns i) :
    l.callback? slot = some a.callback ∧ a = i.attempt l.payload a.callback a.arguments := by
  unfold turns at h
  rcases List.mem_append.1 h with h | h
  · rcases List.mem_append.1 h with h | h
    · rcases List.mem_append.1 h with h | h
      · obtain ⟨k, hook, hk, he⟩ := Turn.mem_hooks h
        cases he
        exact ⟨congrArg (Option.map Hook.callback) hk, rfl⟩
      · obtain ⟨k, e, as, hk, he⟩ := Turn.mem_events h
        cases he
        exact ⟨congrArg (Option.map Event.callback) hk, rfl⟩
    · obtain ⟨k, f, hk, he⟩ := Turn.mem_fallback h
      cases he
      exact ⟨congrArg (Option.map Fallback.callback) hk, rfl⟩
  · obtain ⟨k, hook, hk, he⟩ := Turn.mem_hooks h
    cases he
    exact ⟨congrArg (Option.map Hook.callback) hk, rfl⟩

/-- Another callback in one slot makes another attempt in the turn of that slot. -/
theorem turns_withCallback [Regex.Capacity] {l : Ledger ω} {i : Invoker ω} {slot : Slot}
    {c : Callback ω}
    (h : ∀ a, (slot, a) ∈ l.turns i → (i.attempt l.payload c a.arguments).stops = a.stops) :
    (l.withCallback c slot).turns i = (l.turns i).map (Turn.withCallback i l.payload slot c) := by
  have hcaught : ∀ k, someMatch l.payload (l.events.modify k fun e => { e with callback := c }) =
      someMatch l.payload l.events := fun k => Turn.someMatch_modify k l.events
  unfold turns at h ⊢
  rw [List.map_append, List.map_append, List.map_append]
  cases slot with
  | before k =>
    rw [Turn.map_events_of_ne (fun _ => Slot.noConfusion),
      Turn.map_fallback_of_ne (fun _ => Slot.noConfusion),
      Turn.map_hooks_of_ne .after (fun _ => Slot.noConfusion),
      ← Turn.hooks_modify fun _ _ he => Slot.before.inj he]
    rfl
  | event k =>
    have hevents : Turn.events i l.payload (l.events.modify k fun e => { e with callback := c }) =
        (Turn.events i l.payload l.events).map
          (Turn.withCallback i l.payload (.event k) c) :=
      Turn.events_modify fun a ha => h a (by simp [ha])
    rw [Turn.map_fallback_of_ne (fun _ => Slot.noConfusion),
      Turn.map_hooks_of_ne .before (fun _ => Slot.noConfusion),
      Turn.map_hooks_of_ne .after (fun _ => Slot.noConfusion), ← hevents, ← hcaught k]
    rfl
  | fallback k =>
    rw [Turn.map_events_of_ne (fun _ => Slot.noConfusion),
      Turn.map_hooks_of_ne .before (fun _ => Slot.noConfusion),
      Turn.map_hooks_of_ne .after (fun _ => Slot.noConfusion), ← Turn.fallback_modify]
    rfl
  | after k =>
    rw [Turn.map_events_of_ne (fun _ => Slot.noConfusion),
      Turn.map_fallback_of_ne (fun _ => Slot.noConfusion),
      Turn.map_hooks_of_ne .before (fun _ => Slot.noConfusion),
      ← Turn.hooks_modify fun _ _ he => Slot.after.inj he]
    rfl

/-- The turns around that of the changed slot are the same ones. -/
theorem turns_withCallback_of_split [Regex.Capacity] {l : Ledger ω} {i : Invoker ω} {slot : Slot}
    {c : Callback ω}
    {earlier later : List (Turn ω)} {a : Attempt ω}
    (hl : l.turns i = earlier ++ (slot, a) :: later)
    (h : (i.attempt l.payload c a.arguments).stops = a.stops) :
    (l.withCallback c slot).turns i =
      earlier ++ (slot, i.attempt l.payload c a.arguments) :: later := by
  have hdistinct := l.distinct_turns i
  rw [turns_withCallback, hl]
  · rw [hl] at hdistinct
    exact hdistinct.map_withCallback
  · intro b hb
    rw [hl] at hb hdistinct
    obtain ⟨-, hlater, hearlier⟩ := List.pairwise_append.1 hdistinct
    rcases List.mem_append.1 hb with hb | hb
    · exact absurd rfl (hearlier (slot, b) hb (slot, a) List.mem_cons_self)
    · rcases List.mem_cons.1 hb with hb | hb
      · cases hb
        exact h
      · exact absurd rfl ((List.pairwise_cons.1 hlater).1 (slot, b) hb)

/-- Every attempt among the turns stands in a slot. -/
theorem exists_split [Regex.Capacity] {l : Ledger ω} {i : Invoker ω}
    {earlier later : List (Attempt ω)}
    {a : Attempt ω} (h : (l.turns i).map (·.2) = earlier ++ a :: later) :
    ∃ slot before after, l.turns i = before ++ (slot, a) :: after ∧
      before.map (·.2) = earlier ∧ after.map (·.2) = later := by
  obtain ⟨before, rest, hturns, hbefore, hrest⟩ := List.map_eq_append_iff.1 h
  obtain ⟨⟨slot, b⟩, after, rfl, rfl, hafter⟩ := List.map_eq_cons_iff.1 hrest
  exact ⟨slot, before, after, hturns, hbefore, hafter⟩

end Ledger

/-! ## Runs -/

namespace Course

/-- These attempts up to the first that fails. -/
def through (i : Invoker ω) (as : List (Attempt ω)) : Course ω := ofAttempts i (fun _ => false) as

theorem through_cons (i : Invoker ω) (a : Attempt ω) (as : List (Attempt ω)) :
    through i (a :: as) = (ofAttempt i a).andThen (through i as) :=
  ofAttempts_cons i _ a as

theorem andThen_assoc (c d e : Course ω) :
    (c.andThen d).andThen e = c.andThen (d.andThen e) := by
  unfold andThen
  cases hc : c.failure? with
  | some x => simp [hc]
  | none => cases hd : d.failure? <;> simp [hd]

theorem through_append (i : Invoker ω) (as bs : List (Attempt ω)) :
    through i (as ++ bs) = (through i as).andThen (through i bs) := by
  induction as with
  | nil => rfl
  | cons a as ih => rw [List.cons_append, through_cons, ih, through_cons, andThen_assoc]

/-- What ends a phase without a failure can be cut off beforehand. -/
theorem ofAttempts_eq_through (i : Invoker ω) (ends : Attempt ω → Bool) (as : List (Attempt ω)) :
    ofAttempts i ends as = through i (throughFirst ends as) := by
  induction as with
  | nil => rfl
  | cons a as ih =>
    rw [ofAttempts_cons, ih]
    by_cases he : ends a = true
    · rw [throughFirst_cons_of_pos as he, through_cons, if_pos he]
      rfl
    · rw [throughFirst_cons_of_neg as he, through_cons, if_neg he]

/-- Either nothing fails and everything is attempted, or there is a first failure, which ends it. -/
theorem through_cases (i : Invoker ω) (as : List (Attempt ω)) :
    ((∀ a ∈ as, i.failure? a = none) ∧ through i as = ⟨as, none⟩) ∨
      ∃ earlier a later e, as = earlier ++ a :: later ∧ (∀ b ∈ earlier, i.failure? b = none) ∧
        i.failure? a = some e ∧ through i as = ⟨earlier ++ [a], some e⟩ := by
  induction as with
  | nil => exact .inl ⟨by simp, rfl⟩
  | cons a as ih =>
    rw [through_cons, ofAttempt]
    cases hf : i.failure? a with
    | some e => exact .inr ⟨[], a, as, e, rfl, by simp, hf, rfl⟩
    | none =>
      rcases ih with ⟨hall, hthrough⟩ | ⟨earlier, b, later, e, rfl, hearlier, hb, hthrough⟩
      · rw [hthrough]
        refine .inl ⟨fun b hb => ?_, rfl⟩
        rcases List.mem_cons.1 hb with rfl | hb
        · exact hf
        · exact hall b hb
      · rw [hthrough]
        refine .inr ⟨a :: earlier, b, later, e, rfl, fun c hc => ?_, hb, rfl⟩
        rcases List.mem_cons.1 hc with rfl | hc
        · exact hf
        · exact hearlier c hc

theorem through_of_forall {i : Invoker ω} {as : List (Attempt ω)}
    (h : ∀ a ∈ as, i.failure? a = none) : through i as = ⟨as, none⟩ := by
  rcases through_cases i as with ⟨-, hthrough⟩ | ⟨earlier, a, later, e, rfl, -, ha, -⟩
  · exact hthrough
  · rw [h a (by simp)] at ha
    cases ha

/-- Attempts that succeed delay what follows them. -/
theorem through_past {i : Invoker ω} {earlier : List (Attempt ω)} {a : Attempt ω}
    (h : ∀ b ∈ earlier, i.failure? b = none) (ha : i.failure? a = none)
    (later : List (Attempt ω)) :
    through i (earlier ++ a :: later) =
      ⟨earlier ++ a :: (through i later).attempts, (through i later).failure?⟩ := by
  rw [through_append, through_of_forall h, through_cons, ofAttempt, ha]
  rfl

/-- The course of all phases is that of the turns. -/
theorem all_eq_through [Regex.Capacity] (i : Invoker ω) (l : Ledger ω) :
    all i l.payload l.subscriptions = through i ((l.turns i).map (·.2)) := by
  have hbefore : l.subscriptions.before.toList = byPriority Hook.priority l.before :=
    Schedule.toList_ofList _ _
  have hevents : l.subscriptions.events.toList = byPriority Event.priority l.events :=
    Schedule.toList_ofList _ _
  have hafter : l.subscriptions.after.toList = byPriority Hook.priority l.after :=
    Schedule.toList_ofList _ _
  have hcaught := caught_eq i l.payload l.subscriptions.events.toList
  rw [hevents, someMatch_byPriority] at hcaught
  rw [Ledger.turns, List.map_append, List.map_append, List.map_append, through_append,
    through_append, through_append, Turn.map_snd_hooks, Turn.map_snd_hooks, Turn.map_snd_events,
    Turn.map_snd_fallback, andThen_assoc, andThen_assoc, ← ofAttempts_eq_through]
  unfold all fallbackOf
  rw [hbefore, hevents, hafter, hcaught]
  rfl

theorem filter_hooks {p : Slot → Bool} {slot : Nat → Slot} (h : ∀ k, p (slot k) = false)
    (i : Invoker ω) (payload : Payload) (hs : List (Hook ω)) :
    (Turn.hooks i payload slot hs).filter (fun t => p t.1) = [] := by
  refine List.filter_eq_nil_iff.2 fun t ht => ?_
  obtain ⟨k, hook, -, rfl⟩ := Turn.mem_hooks ht
  simp [h]

theorem filter_isEvent [Regex.Capacity] (i : Invoker ω) (l : Ledger ω) :
    (l.turns i).filter (fun t => t.1.isEvent) = Turn.events i l.payload l.events := by
  have hfallback : (Turn.fallback i l.payload (someMatch l.payload l.events)
      l.fallbacks).filter (fun t => t.1.isEvent) = [] := by
    refine List.filter_eq_nil_iff.2 fun t ht => ?_
    obtain ⟨k, f, -, rfl⟩ := Turn.mem_fallback ht
    simp [Slot.isEvent]
  have hevents : (Turn.events i l.payload l.events).filter (fun t => t.1.isEvent) =
      Turn.events i l.payload l.events := by
    refine List.filter_eq_self.2 fun t ht => ?_
    obtain ⟨k, e, as, -, rfl⟩ := Turn.mem_events ht
    rfl
  rw [Ledger.turns, List.filter_append, List.filter_append, List.filter_append, hevents, hfallback,
    filter_hooks (p := Slot.isEvent) fun _ => rfl, filter_hooks (p := Slot.isEvent) fun _ => rfl]
  simp

theorem filter_isFallback [Regex.Capacity] (i : Invoker ω) (l : Ledger ω) :
    (l.turns i).filter (fun t => t.1.isFallback) =
      Turn.fallback i l.payload (someMatch l.payload l.events) l.fallbacks := by
  have hevents : (Turn.events i l.payload l.events).filter (fun t => t.1.isFallback) = [] := by
    refine List.filter_eq_nil_iff.2 fun t ht => ?_
    obtain ⟨k, e, as, -, rfl⟩ := Turn.mem_events ht
    simp [Slot.isFallback]
  have hfallback : (Turn.fallback i l.payload (someMatch l.payload l.events)
      l.fallbacks).filter (fun t => t.1.isFallback) =
        Turn.fallback i l.payload (someMatch l.payload l.events) l.fallbacks := by
    refine List.filter_eq_self.2 fun t ht => ?_
    obtain ⟨k, f, -, rfl⟩ := Turn.mem_fallback ht
    rfl
  rw [Ledger.turns, List.filter_append, List.filter_append, List.filter_append, hevents, hfallback,
    filter_hooks (p := Slot.isFallback) fun _ => rfl,
    filter_hooks (p := Slot.isFallback) fun _ => rfl]
  simp

theorem any_isFallback [Regex.Capacity] (i : Invoker ω) (l : Ledger ω) :
    (l.turns i).any (fun t => t.1.isFallback) =
      (if someMatch l.payload l.events then none
        else fittingFallback? l.payload l.fallbacks).isSome := by
  have hsome : ∀ o : Option (Fallback ω),
      ((o.toList.map fun f => i.attempt l.payload f.callback []).any fun _ => true) = o.isSome := by
    intro o
    cases o <;> rfl
  rw [← hsome, ← Turn.map_snd_fallback, ← filter_isFallback, List.any_map, List.any_filter]
  simp

/-- A run without a failure reports on all its turns. -/
theorem fullReport_eq [Regex.Capacity] {i : Invoker ω} {l : Ledger ω}
    (h : ∀ t ∈ l.turns i, i.failure? t.2 = none) :
    fullReport i l.payload l.subscriptions = l.report i := by
  have hevents : l.subscriptions.events.toList = byPriority Event.priority l.events :=
    Schedule.toList_ofList _ _
  have hcourse : events i l.payload (byPriority Event.priority l.events) =
      ⟨(Turn.events i l.payload l.events).map (·.2), none⟩ := by
    rw [events, ofAttempts_eq_through, ← Turn.map_snd_events]
    refine through_of_forall fun a ha => ?_
    obtain ⟨t, ht, rfl⟩ := List.mem_map.1 ha
    exact h t (by simp [Ledger.turns, ht])
  have hcaught := caught_eq i l.payload (byPriority Event.priority l.events)
  rw [someMatch_byPriority] at hcaught
  show (⟨_, _, _, _⟩ : Report) = ⟨_, _, _, _⟩
  rw [Report.mk.injEq]
  refine ⟨?_, ?_, ?_, ?_⟩
  · show (report i l.payload l.subscriptions.events.toList).caught = _
    rw [hevents, hcaught]
  · show (events i l.payload l.subscriptions.events.toList).attempts.any Attempt.stops = _
    rw [hevents, hcourse, ← List.any_filter, filter_isEvent, List.any_map]
    rfl
  · show (events i l.payload l.subscriptions.events.toList).attempts.countP Attempt.isCall = _
    rw [hevents, hcourse, ← List.countP_filter, filter_isEvent, List.countP_map]
    rfl
  · show (fallbackOf i l.payload l.subscriptions).isSome = _
    rw [fallbackOf, hevents, hcaught, any_isFallback]
    rfl

end Course

/-- A run attempts its turns, up to the first that fails. -/
theorem Represents.run_turns [Regex.Capacity] {plan : DispatcherPlan} {d : Dispatcher ω}
    {l : Ledger ω}
    (h : Represents plan d l) (directory : Directory ω) :
    let i := d.invoker directory
    let c := Course.through i ((l.turns i).map (·.2))
    (d.run directory).1 = c.answer (l.report i) ∧ (d.run directory).2.1.attempts = c.attempts := by
  intro i c
  obtain ⟨hanswer, hattempts, -⟩ := d.run_course directory h.cache
  rw [h.payload, h.subscriptions, Course.all_eq_through] at hanswer hattempts
  refine ⟨hanswer.trans ?_, hattempts⟩
  rcases Course.through_cases i ((l.turns i).map (·.2)) with
    ⟨hall, -⟩ | ⟨earlier, a, later, e, -, -, -, hthrough⟩
  · rw [Course.fullReport_eq fun t ht => hall t.2 (List.mem_map_of_mem ht)]
  · show c.answer _ = c.answer _
    rw [show c = _ from hthrough]
    rfl

end Switchboard
