import Switchboard.Proofs.Directories
import Switchboard.Proofs.Lines
import Switchboard.Proofs.NumberTexts
import Switchboard.Proofs.TemplateMatch
import Switchboard.Proofs.Turns

/-!
# Routing of commands

The bot has a route for each command but the last: a text that is expected in the message, and
signs that this text begins with.

    /start                  front  /start
    /ban {user} {:time?}    front  /ban and a blank
    /echo {text}            front  /echo and a blank

A route matches a message whose text is just true, without captures, and apart from that only a
text with its front (`Route.match_cases`). No two fronts begin the same text, and of the routes that
match without captures all but the first lack an argument; so of all that have their turns at most
one runs its body (`countP_attempted_le_one`). If none matches, the last command has its turn, which
a message is enough for (`attempted_ne_nil_iff`).
-/

namespace Switchboard

/-! ## Bodies -/

/-- Whether the body of the handler ran: it did unless a parameter could not be bound. -/
def Reply.runsBody {ω : Type} (r : Reply ω) : Bool :=
  match r.result with
  | .error (.binding _) => false
  | .error (.failed _) | .ok _ => true

/-- Whether the handler was found and its body ran. -/
def Attempt.runsBody {ω : Type} (a : Attempt ω) : Bool :=
  match a.reply with
  | .ok reply => reply.runsBody
  | .error _ => false

theorem Answer.outcome?_ne_binding (a : Answer) (e : BindError) :
    a.outcome? ≠ .error (.binding e) := by
  fun_induction Answer.outcome? a with
  | case4 inner ih => exact ih
  | _ => exact nofun

/-- A body runs exactly if all parameters are bound. -/
theorem Handler.runsBody_ofParameters {ω : Type} (parameters : List Parameter)
    (body : List Argument → Answer × List ω) (call : Call) :
    (ofParameters parameters body call).runsBody =
      ((Parameter.bindAll parameters).run call).1.isOk := by
  unfold ofParameters
  rcases (Parameter.bindAll parameters).run call with ⟨e | as, call⟩
  · rfl
  · unfold Reply.runsBody
    dsimp only
    split
    · next e he => exact absurd he (Answer.outcome?_ne_binding _ _)
    · rfl
    · rfl

namespace Bot

open Template (Part Piece textOf piecesOf regexOf splits)

/-! ## Commands -/

inductive Command where
  | start
  | ban
  | echo
  | unknown
deriving DecidableEq, Repr

namespace Command

def handler : Command → Handler String
  | start => Bot.start
  | ban => Bot.ban
  | echo => Bot.echo
  | unknown => Bot.unknown

/-- What is registered for a command. -/
def callback : Command → Callback String
  | ban => .symbol banName
  | c => Bot.callback c.handler

/-- Whether the body of a command runs when it is called with texts. -/
def runs (c : Command) (texts : List String) : Bool :=
  match c with
  | start | unknown => true
  | ban | echo => !texts.isEmpty

end Command

/-- A command that is asked for by a text, and the parts that this text is made of. -/
structure Route where
  command : Command
  priority? : Option Int
  parts : List Part
  /-- The signs that the text begins with and that no placeholder takes. -/
  front : List Char
  isOrdinary : ∀ p ∈ parts, p.isOrdinary = true
  isApart : parts.IsChain fun p q => p.mayPrecede q = true
  isFronted : ∃ more, parts = front.map .char ++ more ∧ Template.startsWithOptional more = false
  notDelimited : Delimited.isDelimited (String.ofList (textOf parts)) = false
  isTruthy : (Json.string (String.ofList (textOf parts))).isTruthy = true
  notNumeric : Json.numericText? (String.ofList (textOf parts)) = none

def Route.text (r : Route) : String := String.ofList (textOf r.parts)

/-- `/start` -/
def startRoute : Route where
  command := .start
  priority? := none
  parts := "/start".toList.map .char
  front := "/start".toList
  isOrdinary := by decide
  isApart := by decide
  isFronted := ⟨[], rfl, rfl⟩
  notDelimited := by decide +kernel
  isTruthy := by decide +kernel
  notNumeric := by decide +kernel

/-- `/ban {user} {:time?}` -/
def banRoute : Route where
  command := .ban
  priority? := some 100
  parts := Template.ban.parts
  front := "/ban ".toList
  isOrdinary := by decide
  isApart := by decide
  isFronted := ⟨_, rfl, rfl⟩
  notDelimited := by decide +kernel
  isTruthy := by decide +kernel
  notNumeric := by decide +kernel

/-- `/echo {text}` -/
def echoRoute : Route where
  command := .echo
  priority? := none
  parts := "/echo ".toList.map .char ++ [.required "text".toList]
  front := "/echo ".toList
  isOrdinary := by decide
  isApart := by decide
  isFronted := ⟨_, rfl, rfl⟩
  notDelimited := by decide +kernel
  isTruthy := by decide +kernel
  notNumeric := by decide +kernel

def routes : List Route := [startRoute, banRoute, echoRoute]

/-! ## What routes match -/

namespace Route

/-- No placeholder takes a sign of the front. -/
theorem exists_piecesOf (r : Route) : ∃ more, piecesOf r.parts = r.front.map .char ++ more := by
  obtain ⟨more, hparts, hmore⟩ := r.isFronted
  refine ⟨piecesOf more, ?_⟩
  rw [hparts]
  generalize r.front = front
  induction front with
  | nil => rfl
  | cons c front ih =>
    have hnext : Template.startsWithOptional (front.map Part.char ++ more) = false := by
      cases front with
      | nil => exact hmore
      | cons d front => rfl
    rw [List.map_cons, List.cons_append, piecesOf, hnext, ih]
    rfl

theorem front_prefix_text (r : Route) : r.front <+: r.text.toList := by
  obtain ⟨more, hparts, -⟩ := r.isFronted
  have hfront : ∀ front : List Char, textOf (front.map .char) = front := fun front => by
    rw [textOf, List.flatMap_map]
    exact List.flatMap_singleton' front
  rw [text, String.toList_ofList, hparts, textOf, List.flatMap_append]
  exact ⟨textOf more, congrArg (· ++ _) (hfront r.front).symm⟩

theorem front_prefix_of_split {front s : List Char} {more : List Piece} {ts : Template.Texts}
    (h : Template.Split (front.map .char ++ more) s ts) : front <+: s := by
  induction front generalizing s with
  | nil => exact List.nil_prefix
  | cons c front ih =>
    cases h with
    | char h => exact (List.prefix_cons_inj c).2 (ih h)

/-- The expression of a route, if there is room for it. -/
theorem eq_of_compile?_text [Regex.Capacity] {r : Route} {e : Expression}
    (h : Expression.compile? r.text = some e) :
    e = ⟨Template.source r.text, regexOf (piecesOf r.parts)⟩ := by
  have htemplate : Expression.compile r.text = Expression.ofTemplate r.text := by
    rw [Expression.compile, show Delimited.isDelimited r.text = false from r.notDelimited]
    rfl
  rw [Expression.compile?, htemplate, text,
    Template.ofTemplate_textOf r.isOrdinary r.isApart] at h
  split at h
  · exact (Option.some.inj h).symm
  · cases h

theorem front_prefix_of_captures [Regex.Capacity] {r : Route} {s : String} {captures : List String}
    (h : (Expression.compile? r.text).bind (·.captures s) = some captures) :
    r.front <+: s.toList := by
  obtain ⟨e, he, h⟩ := Option.bind_eq_some_iff.1 h
  rw [eq_of_compile?_text he, Template.captures_regexOf] at h
  obtain ⟨ts, hts, -⟩ := Option.map_eq_some_iff.1 h
  obtain ⟨more, hmore⟩ := r.exists_piecesOf
  rw [hmore] at hts
  exact front_prefix_of_split (Template.mem_splits.1 (List.mem_of_head? hts))

end Route

/-- What loosely equals a text that spells no number is true or has that text. -/
theorem subject?_of_looselyEqual {v : Json} {text : String} (htruthy : v.isTruthy = true)
    (htrue : v ≠ .bool true) (htext : Json.numericText? text = none)
    (h : v.looselyEqual (.string text) = true) : v.subject? = some text := by
  cases v with
  | null => cases htruthy
  | bool b =>
    cases b with
    | false => cases htruthy
    | true => exact absurd rfl htrue
  | number n =>
    rw [Json.looselyEqual, Json.numberEqualsText, htext] at h
    rw [Json.subject?, eq_of_beq h]
  | string s =>
    rw [Json.looselyEqual, Json.textEqualsText, htext] at h
    have hs : s = text := by
      cases hnumeric : Json.numericText? s <;> rw [hnumeric] at h <;> exact eq_of_beq h
    rw [Json.subject?, hs]
  | array items => simp [Json.looselyEqual] at h
  | object members => simp [Json.looselyEqual] at h

theorem compare_string (v : Json) (text : String) :
    Pattern.Item.compare v (.string text) =
      if v.looselyEqual (.string text) then .decided (some [])
      else (v.subject?.map (Pattern.Verdict.test text)).getD (.decided none) := by
  unfold Pattern.Item.compare
  cases v.subject? <;> rfl

section Matches
variable [Regex.Capacity]

/-- How a pattern for the text of a message matches: by loose equality or by its expression. -/
theorem exists_received {text : String} {p : Payload} {captures : List String}
    (h : (textPattern text).match? p = some captures) :
    ∃ v, p.get? "message.text" = some v ∧ v.isTruthy = true ∧
      (v.looselyEqual (.string text) = true ∧ captures = [] ∨
        v.looselyEqual (.string text) = false ∧ ∃ s, v.subject? = some s ∧
          (Expression.compile? text).bind (·.captures s) = some captures) := by
  have hitem : Pattern.Item.match? (.keyValue "message.text" (.string text)) p = some captures := by
    simpa [textPattern, Pattern.match?] using h
  unfold Pattern.Item.match? Pattern.Item.verdict at hitem
  dsimp only at hitem
  cases hv : p.get? "message.text" with
  | none =>
    rw [hv] at hitem
    cases hitem
  | some v =>
    rw [hv] at hitem
    dsimp only at hitem
    by_cases htruthy : v.isTruthy = true
    · refine ⟨v, rfl, htruthy, ?_⟩
      rw [if_pos htruthy, compare_string] at hitem
      by_cases hequal : v.looselyEqual (.string text) = true
      · rw [if_pos hequal] at hitem
        exact .inl ⟨hequal, (Option.some.inj hitem).symm⟩
      · rw [if_neg hequal] at hitem
        cases hs : v.subject? with
        | none =>
          rw [hs] at hitem
          cases hitem
        | some s =>
          rw [hs] at hitem
          exact .inr ⟨Bool.eq_false_iff.2 hequal, s, rfl, hitem⟩
    · rw [if_neg htruthy] at hitem
      cases hitem

/-- A route matches a message whose text is just true, without captures, and apart from that only
one whose text has its front. -/
theorem Route.match_cases {r : Route} {p : Payload} {captures : List String}
    (h : (textPattern r.text).match? p = some captures) :
    ∃ v, p.get? "message.text" = some v ∧ (v = .bool true ∧ captures = [] ∨
      v ≠ .bool true ∧ ∃ s, v.subject? = some s ∧ r.front <+: s.toList) := by
  obtain ⟨v, hv, htruthy, hmatch⟩ := exists_received h
  refine ⟨v, hv, ?_⟩
  by_cases htrue : v = .bool true
  · subst htrue
    have hequal : (Json.bool true).looselyEqual (.string r.text) = true := by
      rw [Json.looselyEqual, show (Json.string r.text).isTruthy = true from r.isTruthy]
      rfl
    rcases hmatch with ⟨-, hcaptures⟩ | ⟨hunequal, -⟩
    · exact .inl ⟨rfl, hcaptures⟩
    · rw [hequal] at hunequal
      cases hunequal
  · refine .inr ⟨htrue, ?_⟩
    rcases hmatch with ⟨hequal, -⟩ | ⟨-, s, hs, hcaptures⟩
    · exact ⟨r.text, subject?_of_looselyEqual htruthy htrue r.notNumeric hequal,
        r.front_prefix_text⟩
    · exact ⟨s, hs, front_prefix_of_captures hcaptures⟩

/-- Whether the body of the command runs if its route has a turn. -/
def Route.runs (r : Route) (p : Payload) : Bool :=
  ((textPattern r.text).match? p).any r.command.runs

/-- Of two routes with fronts of their own, only one runs the body of its command. -/
theorem Route.not_both {r r' : Route} (hfront : ¬ r.front <+: r'.front)
    (hfront' : ¬ r'.front <+: r.front)
    (hbare : r.command.runs [] = false ∨ r'.command.runs [] = false) {p : Payload}
    (h : r.runs p = true) (h' : r'.runs p = true) : False := by
  obtain ⟨captures, hmatch, hruns⟩ := (Option.any_eq_true _ _).1 h
  obtain ⟨captures', hmatch', hruns'⟩ := (Option.any_eq_true _ _).1 h'
  obtain ⟨v, hv, hcases⟩ := match_cases hmatch
  obtain ⟨v', hv', hcases'⟩ := match_cases hmatch'
  obtain rfl : v = v' := Option.some.inj (hv.symm.trans hv')
  rcases hcases with ⟨htrue, rfl⟩ | ⟨htrue, s, hs, hprefix⟩
  · rcases hcases' with ⟨-, rfl⟩ | ⟨hne, -⟩
    · -- A text that is true gives no captures, and then only one of them needs none.
      rcases hbare with hbare | hbare
      · rw [hbare] at hruns
        cases hruns
      · rw [hbare] at hruns'
        cases hruns'
    · exact hne htrue
  · rcases hcases' with ⟨heq, -⟩ | ⟨-, s', hs', hprefix'⟩
    · exact htrue heq
    · obtain rfl : s = s' := Option.some.inj (hs.symm.trans hs')
      exact (List.prefix_or_prefix_of_prefix hprefix hprefix').elim hfront hfront'

theorem routes_exclusive (p : Payload) :
    routes.Pairwise fun r r' => ¬ (r.runs p = true ∧ r'.runs p = true) := by
  have hfronts : routes.Pairwise fun r r' => (¬ r.front <+: r'.front ∧ ¬ r'.front <+: r.front) ∧
      (r.command.runs [] = false ∨ r'.command.runs [] = false) := by
    decide
  exact hfronts.imp fun ⟨⟨hfront, hfront'⟩, hbare⟩ ⟨h, h'⟩ =>
    Route.not_both hfront hfront' hbare h h'

end Matches

/-! ## Attempts -/

/-- The attempt of a command with these captures. -/
def Command.attempt (i : Invoker String) (p : Payload) (c : Command) (texts : List String) :
    Attempt String :=
  i.attempt p c.callback (texts.map .string)

/-- Invokers that find the handlers of all commands. -/
def Finds (i : Invoker String) : Prop := ∀ c : Command, i.handler c.callback = .ok c.handler

/-- A command that is called with texts prints one line, which its body does, or it lacks an
argument and prints nothing. -/
theorem Command.handler_cases (c : Command) (p : Payload) (texts : List String) :
    let reply := c.handler (.ofArguments p (texts.map .string))
    (c.runs texts = true ∧ ∃ outcome line, reply.result = .ok outcome ∧ reply.emitted = [line]) ∨
      (c.runs texts = false ∧ ∃ e, reply.result = .error (.binding e) ∧ reply.emitted = []) := by
  cases c with
  | start | unknown => exact .inl ⟨rfl, _, _, rfl, rfl⟩
  | echo =>
    cases texts with
    | nil => exact .inr ⟨rfl, _, rfl, rfl⟩
    | cons text texts => exact .inl ⟨rfl, _, _, rfl, rfl⟩
  | ban =>
    cases texts with
    | nil => exact .inr ⟨rfl, _, rfl, rfl⟩
    | cons user texts => cases texts <;> exact .inl ⟨rfl, _, _, rfl, rfl⟩

section Attempt
variable {i : Invoker String} (hi : Finds i) (p : Payload) (c : Command) (texts : List String)
include hi

theorem reply_attempt :
    (c.attempt i p texts).reply = .ok (c.handler (.ofArguments p (texts.map .string))) := by
  rw [Command.attempt, Invoker.attempt, hi c]
  rfl

theorem runsBody_attempt : (c.attempt i p texts).runsBody = c.runs texts := by
  rw [Attempt.runsBody, reply_attempt hi]
  dsimp only
  rcases c.handler_cases p texts with ⟨hruns, _, _, hresult, -⟩ | ⟨hruns, e, hresult, -⟩ <;>
    rw [Reply.runsBody, hresult, hruns]

theorem fails_attempt : i.fails (c.attempt i p texts) = !c.runs texts := by
  rw [Invoker.fails, Invoker.failure?, reply_attempt hi]
  dsimp only
  rcases c.handler_cases p texts with ⟨hruns, _, _, hresult, -⟩ | ⟨hruns, e, hresult, -⟩ <;>
    rw [hresult, hruns] <;> rfl

theorem length_emitted_attempt :
    ({ attempts := [c.attempt i p texts] } : Progress String).emitted.length =
      if c.runs texts then 1 else 0 := by
  rw [Progress.emitted, List.flatMap_singleton, reply_attempt hi]
  dsimp only
  rcases c.handler_cases p texts with ⟨hruns, outcome, line, -, hline⟩ | ⟨hruns, e, -, hnone⟩
  · rw [hline, hruns]
    rfl
  · rw [hnone, hruns]
    rfl

end Attempt

/-- Attempts of commands, whatever their captures are. -/
def Commanded (i : Invoker String) (p : Payload) (a : Attempt String) : Prop :=
  ∃ (c : Command) (texts : List String), a = c.attempt i p texts

section Commanded
variable {i : Invoker String} (hi : Finds i) {p : Payload}
include hi

theorem Commanded.fails {a : Attempt String} (h : Commanded i p a) : i.fails a = !a.runsBody := by
  obtain ⟨c, texts, rfl⟩ := h
  rw [fails_attempt hi, runsBody_attempt hi]

theorem length_emitted {as : List (Attempt String)} (h : ∀ a ∈ as, Commanded i p a) :
    ({ attempts := as } : Progress String).emitted.length = as.countP Attempt.runsBody := by
  induction as with
  | nil => rfl
  | cons a as ih =>
    obtain ⟨⟨c, texts, rfl⟩, has⟩ := List.forall_mem_cons.1 h
    have hfirst := length_emitted_attempt hi p c texts
    rw [Progress.emitted, List.flatMap_singleton] at hfirst
    have hlater := ih has
    rw [Progress.emitted] at hlater
    rw [Progress.emitted, List.flatMap_cons, List.length_append, hfirst, hlater, List.countP_cons,
      runsBody_attempt hi, Nat.add_comm]

end Commanded

theorem exists_commands {i : Invoker String} {p : Payload} {as : List (Attempt String)}
    (h : ∀ a ∈ as, Commanded i p a) :
    ∃ cs : List Command, as.map (·.callback) = cs.map Command.callback := by
  induction as with
  | nil => exact ⟨[], rfl⟩
  | cons a as ih =>
    obtain ⟨⟨c, texts, rfl⟩, has⟩ := List.forall_mem_cons.1 h
    obtain ⟨cs, hcs⟩ := ih has
    exact ⟨c :: cs, congrArg (c.callback :: ·) hcs⟩

/-! ## Messages -/

theorem resolve_child {segment : String} (h : segment ≠ Path.wildcard) (v : Json) :
    Path.resolve [segment] v = Path.child? segment v := by
  rw [Path.resolve, if_neg h]
  cases Path.child? segment v <;> simp [Path.resolve]

theorem get?_message (p : Payload) : p.get? "message" = Path.child? "message" p.root := by
  have hsegments : Path.segments "message" = ["message"] := by decide
  rw [Payload.get?, if_neg (by decide), hsegments, resolve_child (by decide)]

theorem get?_text (p : Payload) :
    p.get? "message.text" = (p.get? "message").bind (Path.child? "text") := by
  have hsegments : Path.segments "message.text" = ["message", "text"] := by decide
  rw [get?_message, Payload.get?, if_neg (by decide), hsegments, Path.resolve,
    if_neg (by decide)]
  exact congrArg _ (funext fun v => resolve_child (by decide) v)

/-- Whether a document is an object with a message that is not null. -/
def HasMessage (document : Json) : Prop :=
  ∃ members v, document = .object members ∧ Json.member? "message" members = some v ∧ v ≠ .null

theorem has_message_iff (document : Json) :
    (⟨document⟩ : Payload).has "message" = true ↔ HasMessage document := by
  have hnull : ∀ v : Json, (!v.isNull) = true ↔ v ≠ .null := fun v => by
    cases v <;> simp [Json.isNull]
  have hindex : Path.index? "message" = none := by decide
  rw [Payload.has, get?_message]
  cases document with
  | object members =>
    simp only [Path.child?, HasMessage, Json.object.injEq, exists_and_left, exists_eq_left']
    cases Json.member? "message" members <;> simp [hnull]
  | array items => simp [Path.child?, HasMessage, hindex]
  | _ => simp [Path.child?, HasMessage]

/-! ## Turns -/

theorem countP_le_one {α : Type} {q : α → Bool} {l : List α}
    (h : l.Pairwise fun a b => ¬ (q a = true ∧ q b = true)) : l.countP q ≤ 1 := by
  induction l with
  | nil => exact Nat.zero_le 1
  | cons a l ih =>
    obtain ⟨ha, hl⟩ := List.pairwise_cons.1 h
    by_cases hq : q a = true
    · have hnone : l.countP q = 0 := List.countP_eq_zero.2 fun b hb hqb => ha b hb ⟨hq, hqb⟩
      rw [List.countP_cons_of_pos hq, hnone]
    · rw [List.countP_cons_of_neg hq]
      exact ih hl

theorem throughFirst_ne_nil {α : Type} {q : α → Bool} {l : List α} (h : l ≠ []) :
    throughFirst q l ≠ [] := by
  cases l with
  | nil => exact absurd rfl h
  | cons a l =>
    rw [throughFirst]
    split <;> exact List.cons_ne_nil _ _

def Route.event (plan : DispatcherPlan) (r : Route) : Event String :=
  ⟨textPattern r.text, r.command.callback, plan.priority r.priority?, []⟩

/-- The ledger of the bot with a payload. -/
def ledger (plan : DispatcherPlan) (p : Payload) : Ledger String where
  payload := p
  events := routes.map (Route.event plan)
  fallbacks := [⟨["message"], Command.unknown.callback⟩]

theorem ofHistory_registrations [Regex.Capacity] (plan : DispatcherPlan) (p : Payload) :
    { Ledger.ofHistory plan registrations with payload := p } = ledger plan p :=
  rfl

section Turns
variable [Regex.Capacity] (plan : DispatcherPlan) (i : Invoker String) (p : Payload)

/-- The attempts that have their turns in the run for a payload. -/
def attempted : List (Attempt String) := ((ledger plan p).turns i).map (·.2)

/-- The attempts of the routes that match. -/
def matching : List (Attempt String) :=
  Course.matching i p (byPriority Event.priority (routes.map (Route.event plan)))

theorem eventAttempt?_event (r : Route) :
    i.eventAttempt? p (r.event plan) =
      ((textPattern r.text).match? p).map (r.command.attempt i p) := by
  rw [Invoker.eventAttempt?, Route.event]
  simp only [List.append_nil]
  rfl

theorem matching_perm :
    (matching plan i p).Perm
      (routes.filterMap fun r => ((textPattern r.text).match? p).map (r.command.attempt i p)) := by
  have hsort := List.mergeSort_perm (routes.map (Route.event plan))
    fun a b => decide (Event.priority a ≤ Event.priority b)
  have hperm := hsort.filterMap (i.eventAttempt? p)
  rw [List.filterMap_map] at hperm
  simp only [Function.comp_def, eventAttempt?_event] at hperm
  exact hperm

theorem attempted_eq :
    attempted plan i p = throughFirst Attempt.stops (matching plan i p) ++
      if someMatch p (routes.map (Route.event plan)) || !p.has "message" then []
      else [Command.unknown.attempt i p []] := by
  have hhooks : ∀ slot, Turn.hooks i p slot [] = [] := fun slot => by
    simp [Turn.hooks, byPriority]
  rw [attempted, Ledger.turns, ledger]
  dsimp only
  rw [hhooks, hhooks, List.nil_append, List.append_nil, List.map_append, Turn.map_snd_events,
    Turn.map_snd_fallback]
  congr 1
  rw [fittingFallback?]
  cases someMatch p (routes.map (Route.event plan)) <;>
    cases hmessage : p.has "message" <;> simp [hmessage, Command.attempt]

variable {plan i p}

theorem commanded_of_mem {a : Attempt String} (h : a ∈ attempted plan i p) : Commanded i p a := by
  rw [attempted_eq] at h
  rcases List.mem_append.1 h with h | h
  · have hmatching := (matching_perm plan i p).mem_iff.1 ((throughFirst_sublist _ _).subset h)
    obtain ⟨r, -, hr⟩ := List.mem_filterMap.1 hmatching
    obtain ⟨captures, -, rfl⟩ := Option.map_eq_some_iff.1 hr
    exact ⟨r.command, captures, rfl⟩
  · split at h
    · cases h
    · exact ⟨.unknown, [], List.mem_singleton.1 h⟩

theorem countP_matching_le_one (hi : Finds i) :
    (matching plan i p).countP Attempt.runsBody ≤ 1 := by
  have hroutes : ∀ r : Route, ((((textPattern r.text).match? p).map (r.command.attempt i p)).map
      Attempt.runsBody).getD false = r.runs p := fun r => by
    rw [Route.runs]
    cases (textPattern r.text).match? p with
    | none => rfl
    | some captures => exact runsBody_attempt hi p r.command captures
  rw [(matching_perm plan i p).countP_eq, List.countP_filterMap]
  simp only [hroutes]
  exact countP_le_one (routes_exclusive p)

theorem isEmpty_matching :
    (matching plan i p).isEmpty = !someMatch p (routes.map (Route.event plan)) := by
  have hcaught := Course.caught_eq i p (byPriority Event.priority (routes.map (Route.event plan)))
  rw [someMatch_byPriority] at hcaught
  rw [← hcaught]
  exact (Bool.not_not _).symm

/-- Of all that have their turns, at most one runs its body. -/
theorem countP_attempted_le_one (hi : Finds i) :
    (attempted plan i p).countP Attempt.runsBody ≤ 1 := by
  rw [attempted_eq, List.countP_append]
  cases hsome : someMatch p (routes.map (Route.event plan)) with
  | true =>
    have hle : (throughFirst Attempt.stops (matching plan i p)).countP Attempt.runsBody ≤ 1 :=
      (throughFirst_sublist _ _).countP_le.trans (countP_matching_le_one hi)
    simpa using hle
  | false =>
    -- Without a match there is nothing but the last command.
    have hnone : matching plan i p = [] := by
      rw [← List.isEmpty_iff, isEmpty_matching, hsome]
      rfl
    rw [hnone, throughFirst, List.countP_nil, Nat.zero_add]
    exact List.countP_le_length.trans (by split <;> simp)

theorem has_message_of_match {r : Route} {captures : List String}
    (h : (textPattern r.text).match? p = some captures) : p.has "message" = true := by
  obtain ⟨v, hv, -⟩ := Route.match_cases h
  rw [get?_text] at hv
  obtain ⟨m, hm, htext⟩ := Option.bind_eq_some_iff.1 hv
  rw [Payload.has, hm]
  cases m with
  | null => cases htext
  | _ => rfl

/-- Something has its turn exactly if there is a message: a route that matches, or else the last
command. -/
theorem attempted_ne_nil_iff : attempted plan i p ≠ [] ↔ p.has "message" = true := by
  rw [attempted_eq]
  by_cases hmatching : matching plan i p = []
  · have hsome : someMatch p (routes.map (Route.event plan)) = false := by
      rw [← Bool.not_eq_true', ← isEmpty_matching (i := i), hmatching]
      rfl
    rw [hmatching, hsome]
    cases p.has "message" <;> simp [throughFirst]
  · have hmessage : p.has "message" = true := by
      obtain ⟨a, ha⟩ := List.exists_mem_of_ne_nil _ hmatching
      obtain ⟨r, -, hr⟩ := List.mem_filterMap.1 ((matching_perm plan i p).mem_iff.1 ha)
      obtain ⟨captures, hcaptures, -⟩ := Option.map_eq_some_iff.1 hr
      exact has_message_of_match hcaptures
    rw [iff_true_right hmessage]
    exact List.append_ne_nil_of_left_ne_nil (throughFirst_ne_nil hmatching) _

/-- A run attempts some of what has its turn, and all of it if nothing fails: then the one that is
there runs its body. -/
theorem through_attempted (hi : Finds i) :
    (Course.through i (attempted plan i p)).attempts.Sublist (attempted plan i p) ∧
      (p.has "message" = true → (Course.through i (attempted plan i p)).failure? = none →
        (Course.through i (attempted plan i p)).attempts.countP Attempt.runsBody = 1) := by
  refine ⟨throughFirst_sublist _ _, fun hmessage hnone => ?_⟩
  rcases Course.through_cases i (attempted plan i p) with
    ⟨hall, hthrough⟩ | ⟨_, _, _, _, -, -, -, hthrough⟩
  · -- Whoever does not fail runs its body, so the bound on bodies is one on attempts.
    rw [hthrough]
    have hrun : ∀ a ∈ attempted plan i p, a.runsBody = true := fun a ha => by
      have hfails := (commanded_of_mem ha).fails hi
      rw [Invoker.fails, hall a ha] at hfails
      simpa using hfails.symm
    have hle : (attempted plan i p).countP Attempt.runsBody ≤ 1 := countP_attempted_le_one hi
    have hpos : 0 < (attempted plan i p).length :=
      List.length_pos_iff.2 (attempted_ne_nil_iff.2 hmessage)
    rw [List.countP_eq_length.2 hrun] at hle ⊢
    omega
  · rw [hthrough] at hnone
    cases hnone

end Turns

/-! ## Lines -/

theorem readNumber_of_blank {cs : List Char} (h : ∀ c ∈ cs, isBlank c = true) :
    Json.Reader.readNumber false cs = none := by
  have hdigits : cs.takeWhile Literal.isDigit = [] := by
    cases cs with
    | nil => rfl
    | cons c cs =>
      have hdigit : ¬ Literal.isDigit c = true := fun hc => by
        have hblank := h c List.mem_cons_self
        rw [Literal.isBlank_of_isDigit hc] at hblank
        cases hblank
      rw [List.takeWhile_cons_of_neg hdigit]
  rw [Json.Reader.readNumber, Json.Reader.readWhole, hdigits]
  rfl

theorem readValue_of_blank (fuel depth : Nat) {cs : List Char}
    (h : ∀ c ∈ cs, isBlank c = true) : Json.Reader.readValue fuel depth cs = none := by
  cases fuel with
  | zero => rfl
  | succ fuel =>
    have hskip : ∀ c ∈ Json.Reader.skipBlanks cs, isBlank c = true := fun c hc =>
      h c ((List.dropWhile_suffix _).subset hc)
    have hhead : ∀ c rest, Json.Reader.skipBlanks cs = c :: rest → isBlank c = true :=
      fun c rest hc => hskip c (by rw [hc]; exact List.mem_cons_self)
    rw [Json.Reader.readValue]
    split
    case h_8 => exact readNumber_of_blank hskip
    all_goals
      -- every other value begins with a sign that is not blank
      next hc => exact absurd (hhead _ _ hc) (by decide)

/-- A line that is JSON text has something to read. -/
theorem not_blank_of_read? {line : String} {document : Json}
    (h : Json.read? line = some document) : line.toList.all isBlank = false := by
  by_contra hblank
  have hall : ∀ c ∈ line.toList, isBlank c = true := by
    simpa using hblank
  rw [Json.read?, readValue_of_blank _ _ hall] at h
  cases h

theorem operations_of_read? {line : String} {document : Json}
    (hread : Json.read? line = some document) (hnull : document ≠ .null)
    (directory : Directory String) :
    operations directory line = [.setPayload (.ok ⟨document⟩), .run directory] := by
  have hpayload : Payload.ofText line = .ok ⟨document⟩ := by
    rw [Payload.ofText, hread]
    cases document with
    | null => exact absurd rfl hnull
    | _ => rfl
  rw [operations, not_blank_of_read? hread, hpayload]
  rfl

section Answers
variable [Regex.Capacity]

theorem Ready.performAll_flatMap {plan : DispatcherPlan} {l : Ledger String} {d : Dispatcher String}
    (h : Ready plan l d) (directory : Directory String) (earlier : List String) :
    Ready plan l (d.performAll (earlier.flatMap (operations directory))) := by
  induction earlier generalizing d with
  | nil => exact h
  | cons line earlier ih =>
    rw [List.flatMap_cons, Dispatcher.performAll, List.foldl_append]
    exact ih (h.performAll directory line)

/-- The dispatchers of the bot find the handlers of all commands, bans under their name. -/
theorem finds_invoker (x : Exchange String) {d : Dispatcher String} {l : Ledger String}
    (h : Represents (withBans x).settings.plan d l) :
    Finds (d.invoker (withBans x).directory) := by
  have hban : (withBans x).directory.resolve banName = .ok ban := by
    refine Directory.resolve_eq_ok_iff.2 ⟨⟨⟨"Moderation", "ban"⟩, ?_⟩,
      Directory.find?_register_self _ _ _⟩
    exact Reference.parse_eq_ok_iff.1 (by decide)
  have hresolves : d.resolves = true := h.resolves
  intro c
  rw [Dispatcher.invoker, hresolves, if_pos rfl]
  cases c with
  | ban => exact hban
  | _ => rfl

/-- A line that brings a document is a run of all that has its turn for it. -/
theorem exists_course (x : Exchange String) (earlier : List String) {line : String}
    {document : Json} (hread : Json.read? line = some document) (hnull : document ≠ .null) :
    let y := withBans x
    let d := (dispatcher y).performAll (earlier.flatMap (operations y.directory))
    ∃ i report, Finds i ∧ d.observe (operations y.directory line) = [.payload (.ok ()),
      .ran ((Course.through i (attempted y.settings.plan i ⟨document⟩)).answer report)
        (Course.through i (attempted y.settings.plan i ⟨document⟩)).attempts] := by
  intro y d
  obtain ⟨q, hq⟩ := (dispatcher_ready y).performAll_flatMap y.directory earlier
  let e : Dispatcher String := { d with payload := ⟨document⟩ }
  have hrep : Represents y.settings.plan e (ledger y.settings.plan ⟨document⟩) := by
    rw [← ofHistory_registrations]
    exact hq.perform (.setPayload (.ok ⟨document⟩))
  obtain ⟨hanswer, hattempts⟩ := hrep.run_turns y.directory
  refine ⟨e.invoker y.directory, (ledger y.settings.plan ⟨document⟩).report (e.invoker y.directory),
    finds_invoker x hrep, ?_⟩
  have hobserve : d.observe [.setPayload (.ok ⟨document⟩), .run y.directory] =
      [.payload (.ok ()), .ran (e.run y.directory).1 (e.run y.directory).2.1.attempts] := rfl
  rw [operations_of_read? hread hnull, hobserve, hanswer, hattempts]
  rfl

/-- **Commands are exclusive.** Whatever the settings and the lines before: a line that is JSON and
not null has one run, which attempts nothing but commands. At most one of them runs its body, and
that is the one line that is printed. None does if the document has no message other than null; and
if it has one and the run succeeds, exactly one does. -/
theorem commands_exclusive (x : Exchange String) (earlier : List String) {line : String}
    {document : Json} (hread : Json.read? line = some document) (hnull : document ≠ .null) :
    let y := withBans x
    let d := (dispatcher y).performAll (earlier.flatMap (operations y.directory))
    ∃ answer attempts, ∃ ran : List Command,
      d.observe (operations y.directory line) = [.payload (.ok ()), .ran answer attempts] ∧
        (∀ a ∈ attempts, ∃ c : Command, a.callback = c.callback ∧
          a.reply = .ok (c.handler (.ofArguments ⟨document⟩ a.arguments))) ∧
        (attempts.filter Attempt.runsBody).map (·.callback) = ran.map Command.callback ∧
        (printedBy y d line).length = ran.length ∧
        ran.length ≤ 1 ∧
        (¬ HasMessage document → ran = []) ∧
        (HasMessage document → (∃ report, answer = .ok report) → ran.length = 1) := by
  intro y d
  obtain ⟨i, report, hi, hobserve⟩ := exists_course x earlier hread hnull
  obtain ⟨hsublist, hone⟩ := @through_attempted _ y.settings.plan i ⟨document⟩ hi
  generalize Course.through i (attempted y.settings.plan i ⟨document⟩) = c at hobserve hsublist hone
  have hcommanded : ∀ a ∈ c.attempts, Commanded i ⟨document⟩ a := fun a ha =>
    commanded_of_mem (hsublist.subset ha)
  have hfiltered : ∀ a ∈ c.attempts.filter Attempt.runsBody, Commanded i ⟨document⟩ a :=
    fun a ha => hcommanded a (List.mem_filter.1 ha).1
  obtain ⟨ran, hran⟩ := exists_commands hfiltered
  have hlength : ran.length = c.attempts.countP Attempt.runsBody := by
    rw [List.countP_eq_length_filter, ← List.length_map (f := Command.callback), ← hran,
      List.length_map]
  refine ⟨_, _, ran, hobserve, fun a ha => ?_, hran, ?_, ?_, fun hmessage => ?_,
    fun hmessage hok => ?_⟩
  · obtain ⟨command, texts, rfl⟩ := hcommanded a ha
    exact ⟨command, rfl, reply_attempt hi ⟨document⟩ command texts⟩
  · rw [printedBy, hobserve, hlength, ← length_emitted hi hcommanded]
    simp [Dispatcher.Observation.emitted]
  · rw [hlength]
    exact hsublist.countP_le.trans (countP_attempted_le_one hi)
  · have hnone : attempted y.settings.plan i ⟨document⟩ = [] := by
      rw [← has_message_iff] at hmessage
      exact not_not.1 (mt attempted_ne_nil_iff.1 hmessage)
    rw [hnone, List.sublist_nil] at hsublist
    rw [← List.length_eq_zero_iff, hlength, hsublist]
    rfl
  · have hsuccess : c.failure? = none := by
      obtain ⟨report, hok⟩ := hok
      exact (Course.answer_eq_ok hok).1
    rw [hlength]
    exact hone ((has_message_iff document).2 hmessage) hsuccess

end Answers

/-! ## An update -/

/-- An exchange under which all priorities are the same, with a handler in the place of bans. -/
def crowded : Exchange String :=
  let x : Exchange String := { settings := { dispatch := { defaultPriority := 100 } } }
  x.register banName start

/-- An update whose message is just a word. -/
def wordLine : String := "\x7b\"message\": \"hi\"\x7d"

theorem wordLine_runs_one_command :
    let y := withBans crowded
    let d := (dispatcher y).performAll ([echoLine "a", "null"].flatMap (operations y.directory))
    let document : Json := .object [("message", .string "hi")]
    Json.read? wordLine = some document ∧ HasMessage document ∧
      ∃ answer attempts, ∃ c : Command,
        d.observe (operations y.directory wordLine) = [.payload (.ok ()), .ran answer attempts] ∧
          (attempts.filter Attempt.runsBody).map (·.callback) = [c.callback] ∧
          (printedBy y d wordLine).length = 1 := by
  intro y d document
  have hread : Json.read? wordLine = some document := by cbv
  have hmessage : HasMessage document := ⟨_, .string "hi", rfl, rfl, nofun⟩
  obtain ⟨answer, attempts, ran, hobserve, -, hran, hprinted, -, -, hone⟩ :=
    commands_exclusive crowded [echoLine "a", "null"] hread nofun
  have hok : ∃ report, answer = .ok report := by
    -- The line shows what it shows at the start, where it does not fail.
    have hfine : fails y (dispatcher y) wordLine = false := by decide +kernel
    have hready := dispatcher_ready y
    rw [fails, ← (hready.performAll_flatMap y.directory _).observe_operations hready, hobserve]
      at hfine
    cases answer with
    | ok report => exact ⟨report, rfl⟩
    | error e => cases hfine
  obtain ⟨c, rfl⟩ := List.length_eq_one_iff.1 (hone hmessage hok)
  exact ⟨hread, hmessage, answer, attempts, c, hobserve, hran, hprinted⟩

end Bot

end Switchboard
