/-!
# Placeholder templates

A template is a text with placeholders. `{name}` is required and stands for any text of a line;
`{:name?}` is optional, together with the character in front of it. Expansion turns a template into
the source of a regular expression that matches whole texts:

    source "/ban {user} {:time?}"  =  "^/ban (.*?)(?: (.*?))?$"

Everything else in a template is copied, so that it may use the syntax of expressions itself.
-/

namespace Switchboard.Template

def braceOpen : Char := '\x7b'

def braceClose : Char := '\x7d'

/-! ## Placeholders -/

/-- What follows the first closing brace, if none of the characters before it ends the line. -/
def afterBrace? : List Char → Option (List Char)
  | [] => none
  | c :: cs => if c = braceClose then some cs else if c = '\n' then none else afterBrace? cs

/-- What follows the first question mark with a closing brace, on the same line. -/
def afterMark? : List Char → Option (List Char)
  | [] => none
  | c :: cs =>
    if c = '?' ∧ cs.head? = some braceClose then some (cs.drop 1)
    else if c = '\n' then none
    else afterMark? cs

/-- What follows an optional placeholder at the front of a text. -/
def afterOptional? : List Char → Option (List Char)
  | c :: d :: cs => if c = braceOpen ∧ d = ':' then afterMark? cs else none
  | _ => none

/-- What follows a required placeholder at the front of a text. -/
def afterRequired? : List Char → Option (List Char)
  | c :: cs => if c = braceOpen then afterBrace? cs else none
  | [] => none

/-- What follows an optional placeholder that has at most one character in front of it, which is no
line end. -/
def afterOptionalWithin? (cs : List Char) : Option (List Char) :=
  let second := match cs with
    | c :: rest => if c = '\n' then none else afterOptional? rest
    | [] => none
  second.or (afterOptional? cs)

/-! ## Lengths -/

theorem length_afterBrace? {cs rest : List Char} (h : afterBrace? cs = some rest) :
    rest.length < cs.length := by
  induction cs with
  | nil => simp [afterBrace?] at h
  | cons c cs ih =>
    unfold afterBrace? at h
    split at h
    · cases h; simp
    · split at h
      · simp at h
      · have := ih h
        simp only [List.length_cons]
        omega

theorem length_afterMark? {cs rest : List Char} (h : afterMark? cs = some rest) :
    rest.length < cs.length := by
  induction cs with
  | nil => simp [afterMark?] at h
  | cons c cs ih =>
    unfold afterMark? at h
    split at h
    · cases h
      simp only [List.length_drop, List.length_cons]
      omega
    · split at h
      · simp at h
      · have := ih h
        simp only [List.length_cons]
        omega

theorem length_afterOptional? {cs rest : List Char} (h : afterOptional? cs = some rest) :
    rest.length < cs.length := by
  unfold afterOptional? at h
  split at h
  · split at h
    · have := length_afterMark? h
      simp only [List.length_cons]
      omega
    · simp at h
  · simp at h

theorem length_afterRequired? {cs rest : List Char} (h : afterRequired? cs = some rest) :
    rest.length < cs.length := by
  unfold afterRequired? at h
  split at h
  · split at h
    · have := length_afterBrace? h
      simp only [List.length_cons]
      omega
    · simp at h
  · simp at h

theorem length_afterOptionalWithin? {cs rest : List Char}
    (h : afterOptionalWithin? cs = some rest) : rest.length < cs.length := by
  unfold afterOptionalWithin? at h
  rw [Option.or_eq_some_iff] at h
  rcases h with h | ⟨_, h⟩
  · split at h
    · split at h
      · simp at h
      · have := length_afterOptional? h
        simp only [List.length_cons]
        omega
    · simp at h
  · exact length_afterOptional? h

/-! ## Expansion -/

/-- The source of an optional placeholder: nothing, or a blank and a captured text. -/
def optionalGroup : List Char := "(?: (.*?))?".toList

/-- The source of a required placeholder: a captured text, as short as possible. -/
def requiredGroup : List Char := "(.*?)".toList

/-- Replaces the optional placeholders, from left to right, each with the character in front. -/
def expandOptional (cs : List Char) : List Char :=
  match _h : afterOptionalWithin? cs with
  | some rest => optionalGroup ++ expandOptional rest
  | none =>
    match cs with
    | [] => []
    | c :: cs => c :: expandOptional cs
termination_by cs.length
decreasing_by
  · exact length_afterOptionalWithin? _h
  · simp

/-- Replaces the required placeholders, from left to right. -/
def expandRequired (cs : List Char) : List Char :=
  match _h : afterRequired? cs with
  | some rest => requiredGroup ++ expandRequired rest
  | none =>
    match cs with
    | [] => []
    | c :: cs => c :: expandRequired cs
termination_by cs.length
decreasing_by
  · exact length_afterRequired? _h
  · simp

/-- A template with its placeholders replaced, the optional ones first. -/
def expand (cs : List Char) : List Char := expandRequired (expandOptional cs)

/-- The expression for a template: its expansion, anchored at both ends. -/
def source (template : String) : String :=
  String.ofList ('^' :: expand template.toList ++ ['$'])

/-- Whether some suffix of a text starts with what a test looks for. -/
def anySuffix (test : List Char → Bool) : List Char → Bool
  | [] => test []
  | c :: cs => test (c :: cs) || anySuffix test cs

/-- Whether a text has a placeholder of either kind. -/
def hasPlaceholders (template : String) : Bool :=
  anySuffix (fun cs => (afterOptional? cs).isSome || (afterRequired? cs).isSome) template.toList

end Switchboard.Template
