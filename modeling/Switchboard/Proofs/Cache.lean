import Switchboard.Pattern.Matching
import Switchboard.Proofs.Front

/-!
# The cache of expressions is transparent

What a matcher answers does not depend on what it was asked before. Its cache holds the texts that
were asked for since it was last cleared, each once, with what compiling the text gives, be it an
expression or a failure:

    Asks step result texts    from every such cache, `step` comes to `result` and asks for `texts`
    answer_transparent        a history of requests changes no answer; the cache is known exactly

A match asks for an expression only where a truthy scalar is compared with a text that it does not
loosely equal (`Item.asked?`).
-/

namespace Switchboard

variable [Regex.Capacity]

/-! ## Matching without a cache -/

/-- Scalars are the values with a text of their own. -/
def Json.isScalar : Json → Bool
  | .string _ | .number _ | .bool _ => true
  | .null | .array _ | .object _ => false

namespace Pattern

/-- What an item captures, every expression compiled anew. -/
def Item.match? (item : Item) (payload : Payload) : Option (List String) :=
  match item.verdict payload with
  | .decided captures => captures
  | .test expected subject => (Expression.compile? expected).bind (·.captures subject)

/-- What the first matching item captures. -/
def match? (p : Pattern) (payload : Payload) : Option (List String) :=
  p.items.findSome? (·.match? payload)

/-- The text whose expression decides whether a value is as expected: the expected value is a text,
the received one is a truthy scalar, and the two are not loosely equal. -/
def askedFor (received expected : Json) : Option String :=
  match expected with
  | .string text =>
    if received.isTruthy && received.isScalar && !received.looselyEqual expected then some text
    else none
  | _ => none

/-- The text whose expression decides about an item. -/
def Item.asked? (item : Item) (payload : Payload) : Option String :=
  match item with
  | .keyValue path expected => (payload.get? path).bind (askedFor · expected)
  | .always | .key _ => none

/-- The texts asked for by the items up to the first that matches. -/
def asked (p : Pattern) (payload : Payload) : List String :=
  (throughFirst (fun item => (item.match? payload).isSome) p.items).filterMap (·.asked? payload)

end Pattern

namespace Matcher

/-! ## Histories -/

/-- What can be asked of a matcher. -/
inductive Request where
  | item (item : Pattern.Item) (payload : Payload)
  | pattern (pattern : Pattern) (payload : Payload)
  | expression (text : String)
  /-- Drops what is cached. -/
  | clear

inductive Response where
  | captures (captures : Option (List String))
  | expression (e : Option Expression)
  | cleared

def answer : Request → Matching Response
  | .item i payload => do return .captures (← i.captures? payload)
  | .pattern p payload => do return .captures (← p.captures? payload)
  | .expression text => do return .expression (← expression? text)
  | .clear => do
    modify fun m => { m with cache := .empty }
    return .cleared

/-- The matcher after some requests. -/
def after (m : Matcher) (history : List Request) : Matcher :=
  history.foldl (fun m r => ((answer r).run m).2) m

/-- The texts asked for since the cache was cleared, after one more request. -/
def Request.noted (asked : List String) : Request → List String
  | .item i payload => asked ++ (i.asked? payload).toList
  | .pattern p payload => asked ++ p.asked payload
  | .expression text => asked ++ [text]
  | .clear => []

/-- The texts asked for since the last time the cache was cleared, in order. -/
def asked (history : List Request) : List String := history.foldl Request.noted []

/-! ## Lemmas -/

/-- The cache holds these texts, each once, with what they give. -/
def Remembers (m : Matcher) (texts : List String) : Prop :=
  m.cache.entries = texts.eraseDups.map fun text => (text, Expression.compile? text)

/-- A step with this result that asks for these texts, whatever is remembered. -/
def Asks {α : Type} (step : Matching α) (result : α) (texts : List String) : Prop :=
  ∀ m known, Remembers m known →
    (step.run m).1 = result ∧ Remembers (step.run m).2 (known ++ texts)

theorem remembers_empty (notices : List Notice) : Remembers ⟨.empty, notices⟩ [] := rfl

omit [Regex.Capacity] in
theorem lookup_map_eq {β : Type} (f : String → β) (texts : List String) (text : String) :
    (texts.map fun t => (t, f t)).lookup text = if text ∈ texts then some (f text) else none := by
  induction texts with
  | nil => simp
  | cons t texts ih =>
    rw [List.map_cons, List.lookup_cons]
    by_cases h : text = t
    · simp [h]
    · have hne : (text == t) = false := by simpa using h
      simp only [hne, ih, List.mem_cons, h, false_or]

/-- What is remembered decides each look-up. -/
theorem Remembers.find? {m : Matcher} {known : List String} (h : Remembers m known)
    (text : String) :
    m.cache.find? text = if text ∈ known then some (Expression.compile? text) else none := by
  rw [ExpressionCache.find?, h, lookup_map_eq]
  simp only [List.mem_eraseDups]

omit [Regex.Capacity] in
theorem eraseDups_concat (known : List String) (text : String) :
    (known ++ [text]).eraseDups =
      if text ∈ known then known.eraseDups else known.eraseDups ++ [text] := by
  rw [List.eraseDups_append]
  by_cases h : text ∈ known
  · simp [h, List.removeAll]
  · simp [h, List.removeAll, List.eraseDups_cons]

/-! ### Steps -/

section Steps
variable {α β : Type}

theorem asks_pure (a : α) : Asks (pure a) a [] := by
  intro m known h
  rw [List.append_nil]
  exact ⟨rfl, h⟩

theorem Asks.bind {step : Matching α} {next : α → Matching β} {a : α} {b : β}
    {texts more : List String} (hs : Asks step a texts) (hn : Asks (next a) b more) :
    Asks (step >>= next) b (texts ++ more) := by
  intro m known h
  obtain ⟨ha, hm⟩ := hs m known h
  have hb := hn _ _ hm
  rw [← ha, List.append_assoc] at hb
  exact hb

theorem Asks.map (f : α → β) {step : Matching α} {a : α} {texts : List String}
    (h : Asks step a texts) : Asks (do return f (← step)) (f a) texts := by
  rw [← List.append_nil texts]
  exact h.bind (asks_pure (f a))

theorem asks_report (notice : Notice) : Asks (report notice) () [] := by
  intro m known h
  rw [List.append_nil]
  exact ⟨rfl, h⟩

/-- The step lemma of the cache: a hit changes nothing, a miss adds what the text gives. -/
theorem asks_expression? (text : String) :
    Asks (expression? text) (Expression.compile? text) [text] := by
  intro m known h
  have hf := h.find? text
  by_cases hk : text ∈ known
  · rw [if_pos hk] at hf
    have hrun : (expression? text).run m = (Expression.compile? text, m) := by
      simp only [expression?, StateT.run_bind, StateT.run_get, pure_bind, hf]
      rfl
    rw [hrun]
    exact ⟨rfl, by rw [Remembers, eraseDups_concat, if_pos hk]; exact h⟩
  · rw [if_neg hk] at hf
    have hrun : ((expression? text).run m).1 = Expression.compile? text ∧
        ((expression? text).run m).2.cache = m.cache.add text (Expression.compile? text) := by
      simp only [expression?, StateT.run_bind, StateT.run_get, pure_bind, hf]
      cases (Expression.compile? text).isNone <;> exact ⟨rfl, rfl⟩
    refine ⟨hrun.1, ?_⟩
    rw [Remembers, hrun.2, ExpressionCache.add, h, eraseDups_concat, if_neg hk]
    simp

end Steps

end Matcher

namespace Json

omit [Regex.Capacity] in
theorem isSome_subject? (v : Json) : v.subject?.isSome = v.isScalar := by
  cases v <;> rfl

end Json

namespace Pattern

open Matcher

/-- The text whose expression is left to decide. -/
def Verdict.asked? : Verdict → Option String
  | .decided _ => none
  | .test expected _ => some expected

omit [Regex.Capacity] in
theorem asked?_compare {received : Json} (ht : received.isTruthy = true) (expected : Json) :
    (Item.compare received expected).asked? = askedFor received expected := by
  have hs := received.isSome_subject?
  unfold Item.compare
  cases he : received.looselyEqual expected with
  | true =>
    rw [if_pos rfl]
    cases expected <;> simp [askedFor, Verdict.asked?, he]
  | false =>
    rw [if_neg (by simp)]
    cases expected with
    | string text =>
      cases hu : received.subject? <;> simp_all [askedFor, Verdict.asked?]
    | _ => rfl

omit [Regex.Capacity] in
theorem askedFor_of_falsy {received : Json} (ht : received.isTruthy = false) (expected : Json) :
    askedFor received expected = none := by
  cases expected <;> simp [askedFor, ht]

omit [Regex.Capacity] in
/-- An item asks for an expression exactly if one is left to decide about it. -/
theorem Item.asked?_eq (item : Item) (payload : Payload) :
    item.asked? payload = (item.verdict payload).asked? := by
  cases item with
  | always => rfl
  | key path => rfl
  | keyValue path expected =>
    simp only [Item.asked?, Item.verdict]
    cases payload.get? path with
    | none => rfl
    | some received =>
      cases ht : received.isTruthy with
      | true => simp [ht, asked?_compare ht]
      | false => simp [ht, askedFor_of_falsy ht, Verdict.asked?]

theorem asks_item (item : Item) (payload : Payload) :
    Asks (item.captures? payload) (item.match? payload) (item.asked? payload).toList := by
  rw [Item.asked?_eq]
  unfold Item.captures? Item.match?
  cases item.verdict payload with
  | decided captures => exact asks_pure captures
  | test expected subject =>
    show Asks _ ((Expression.compile? expected).bind (·.captures subject)) ([expected] ++ [])
    refine (asks_expression? expected).bind ?_
    cases Expression.compile? expected with
    | none => exact asks_pure none
    | some e => exact asks_pure (e.captures subject)

theorem asks_itemsFrom (payload : Payload) (items : List Item) (index : Nat) :
    Asks (capturesFrom? payload index items) (items.findSome? (·.match? payload))
      ((throughFirst (fun item => (item.match? payload).isSome) items).filterMap
        (·.asked? payload)) := by
  simp only [List.filterMap_eq_flatMap_toList]
  induction items generalizing index with
  | nil => exact asks_pure none
  | cons item items ih =>
    have hs := asks_item item payload
    unfold capturesFrom?
    rw [List.findSome?_cons]
    cases hm : item.match? payload with
    | some captures =>
      rw [hm] at hs
      rw [throughFirst_cons_of_pos items (by rw [hm]; rfl), List.flatMap_cons, List.flatMap_nil]
      exact hs.bind ((asks_report _).bind (asks_pure _))
    | none =>
      rw [hm] at hs
      rw [throughFirst_cons_of_neg items (by rw [hm]; simp), List.flatMap_cons]
      exact hs.bind (ih (index + 1))

theorem asks_captures? (p : Pattern) (payload : Payload) :
    Asks (p.captures? payload) (p.match? payload) (p.asked payload) :=
  asks_itemsFrom payload p.items 0

end Pattern

namespace Matcher

/-! ## Transparency -/

/-- What a request comes to, every expression compiled anew. -/
def Request.response : Request → Response
  | .item i payload => .captures (i.match? payload)
  | .pattern p payload => .captures (p.match? payload)
  | .expression text => .expression (Expression.compile? text)
  | .clear => .cleared

/-- One request is answered as if nothing were cached, and keeps the account of the cache. -/
theorem answer_spec (r : Request) {m : Matcher} {known : List String} (h : Remembers m known) :
    ((answer r).run m).1 = r.response ∧ Remembers ((answer r).run m).2 (r.noted known) := by
  cases r with
  | item i payload => exact (Pattern.asks_item i payload).map Response.captures m known h
  | pattern p payload => exact (Pattern.asks_captures? p payload).map Response.captures m known h
  | expression text => exact (asks_expression? text).map Response.expression m known h
  | clear => exact ⟨rfl, rfl⟩

/-- A whole history keeps the account of the cache. -/
theorem remembers_after (history : List Request) {m : Matcher} {known : List String}
    (h : Remembers m known) :
    Remembers (m.after history) (history.foldl Request.noted known) := by
  induction history generalizing m known with
  | nil => exact h
  | cons r history ih => exact ih (answer_spec r h).2

/-- Whatever a matcher was asked before, it answers as a new one does. Its cache has an entry for
exactly the texts asked for since it was last cleared; the entry is the expression that compiling
the text gives, or its failure; and there are as many entries as different texts. -/
theorem answer_transparent (history : List Request) (r : Request) :
    let m := after {} history
    ((answer r).run m).1 = ((answer r).run {}).1 ∧
      (∀ text, m.cache.find? text =
        if text ∈ asked history then some (Expression.compile text).toOption else none) ∧
      m.cache.size = (asked history).eraseDups.length := by
  intro m
  have hnew : Remembers {} [] := remembers_empty []
  have hm : Remembers m (asked history) := remembers_after history hnew
  refine ⟨?_, fun text => hm.find? text, ?_⟩
  · rw [(answer_spec r hm).1, (answer_spec r hnew).1]
  · rw [ExpressionCache.size, hm, List.length_map]

end Matcher

end Switchboard
