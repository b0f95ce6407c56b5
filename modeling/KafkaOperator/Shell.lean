import Mathlib.Tactic

/-! # Words of a shell command

How a shell cuts a command into words, letter by letter.

* **Blanks** delimit words, and so do the control **operators**, of which the longest is taken.
* **Double quotes** keep blanks and operators in a word and are removed from it.  In them a
  backslash is removed before `$`, a backquote, a double quote or a backslash, which it takes the
  meaning from, and before a line break together with it; before other letters it stays.
* **Expansions** `$NAME`, `${NAME}` and `$(...)` are kept as they are written; their values are not
  looked at.

`step` gives no state for what is outside of this: single quotes, backslashes and backquotes without
quotes, redirections and comments, special parameters and arithmetic, and quoting or nesting inside
of `$(...)`.  So a text that has tokens has no such thing in it.

A run is a fold of `step`, and `Reads` says where it leads.  Two predicates put it together from
pieces: `Quotes s t`, that `s` in double quotes stands for the text `t`, and `Lexed s ts`, that the
text `s` from the start gives the words `ts`. -/

namespace Shell

inductive Token where
  | word (text : String)
  | operator (text : String)
deriving DecidableEq, Repr

/-- Where in a token the next letter stands. -/
inductive Mode where
  | plain
  | quoted
  | escaped
  | dollar (inQuotes : Bool)
  | brace (inQuotes : Bool)
  | command (inQuotes : Bool)
  | operator (text : List Char)
deriving DecidableEq, Repr

/-- The tokens read, the word that is being read, if any, and the mode. -/
structure State where
  tokens : List Token
  word : Option (List Char)
  mode : Mode
deriving DecidableEq, Repr

/-! ### Letters -/

def operators : List String := ["&", "&&", "|", "||", ";", ";;", "(", ")", "\n"]

def isOperator (text : List Char) : Bool := String.ofList text ∈ operators

def isBlank (c : Char) : Bool := c = ' ' ∨ c = '\t'

/-- The letters that keep their meaning in double quotes. -/
def isActive (c : Char) : Bool := c ∈ "$`\"\\".toList

/-- Quoting and redirection outside of double quotes, which are not covered. -/
def isUncovered (c : Char) : Bool := c ∈ "'`\\<>".toList

/-- Letters of a command that are not covered in an expansion. -/
def isNesting (c : Char) : Bool := c ∈ "'`\"\\$(#".toList

/-- Letters that a command in an expansion goes on with. -/
def isCommandPart (c : Char) : Bool := c ≠ ')' && !isNesting c

def isNameStart (c : Char) : Bool := c.isAlpha || c = '_'

def isNamePart (c : Char) : Bool := c.isAlphanum || c = '_'

/-! ### The machine -/

/-- The tokens when the word being read is delimited. -/
def delimit (tokens : List Token) : Option (List Char) → List Token
  | none => tokens
  | some w => tokens ++ [.word (String.ofList w)]

/-- The mode an expansion returns to. -/
def outer (inQuotes : Bool) : Mode := if inQuotes then .quoted else .plain

/-- A letter outside of quotes. -/
def plainStep (tokens : List Token) (word : Option (List Char)) (c : Char) : Option State :=
  if isBlank c then some ⟨delimit tokens word, none, .plain⟩
  else if isOperator [c] then some ⟨delimit tokens word, none, .operator [c]⟩
  else if c = '"' then some ⟨tokens, some (word.getD []), .quoted⟩
  else if c = '$' then some ⟨tokens, some (word.getD [] ++ [c]), .dollar false⟩
  else if isUncovered c || (c = '#' && word.isNone) then none
  else some ⟨tokens, some (word.getD [] ++ [c]), .plain⟩

def step (s : State) (c : Char) : Option State :=
  let grow (mode : Mode) : Option State := some ⟨s.tokens, some (s.word.getD [] ++ [c]), mode⟩
  match s.mode with
  | .plain => plainStep s.tokens s.word c
  | .operator text =>
      if isOperator (text ++ [c]) then some ⟨s.tokens, none, .operator (text ++ [c])⟩
      else plainStep (s.tokens ++ [.operator (String.ofList text)]) none c
  | .quoted =>
      if c = '"' then some ⟨s.tokens, s.word, .plain⟩
      else if c = '\\' then some ⟨s.tokens, s.word, .escaped⟩
      else if c = '$' then grow (.dollar true)
      else if isActive c then none
      else grow .quoted
  | .escaped =>
      if isActive c then grow .quoted
      else if c = '\n' then some ⟨s.tokens, s.word, .quoted⟩
      else some ⟨s.tokens, some (s.word.getD [] ++ ['\\', c]), .quoted⟩
  | .dollar q =>
      if isNameStart c then grow (outer q)
      else if c = '{' then grow (.brace q)
      else if c = '(' then grow (.command q)
      else none
  | .brace q =>
      if isNamePart c then grow (.brace q) else if c = '}' then grow (outer q) else none
  | .command q =>
      if c = ')' then grow (outer q) else if isNesting c then none else grow (.command q)

/-- The tokens at the end of the text; none inside of quotes or an expansion. -/
def finish (s : State) : Option (List Token) := match s.mode with
  | .plain => some (delimit s.tokens s.word)
  | .operator text => some (s.tokens ++ [.operator (String.ofList text)])
  | _ => none

def run (s : State) (text : String) : Option State := text.toList.foldlM step s

def start : State := ⟨[], none, .plain⟩

def tokenize (text : String) : Option (List Token) := (run start text).bind finish

/-! ### Runs -/

/-- Reading the text leads from one state to the other. -/
def Reads (s : State) (text : String) (s' : State) : Prop := run s text = some s'

theorem Reads.append {s s' s'' : State} {a b : String} (ha : Reads s a s') (hb : Reads s' b s'') :
    Reads s (a ++ b) s'' := by
  unfold Reads run at ha hb ⊢
  rw [String.toList_append, List.foldlM_append, ha]
  exact hb

theorem reads_singleton {s s' : State} {c : Char} (h : step s c = some s') :
    Reads s (String.singleton c) s' := by
  rw [Reads, run, String.toList_singleton, List.foldlM_cons, h]
  rfl

/-- The letter is added to the word and nothing else happens. -/
def Stays (mode : Mode) (c : Char) : Prop :=
  ∀ tokens w, step ⟨tokens, some w, mode⟩ c = some ⟨tokens, some (w ++ [c]), mode⟩

theorem foldlM_of_stays {mode : Mode} {l : List Char} (h : ∀ c ∈ l, Stays mode c)
    (tokens : List Token) (w : List Char) :
    l.foldlM step ⟨tokens, some w, mode⟩ = some ⟨tokens, some (w ++ l), mode⟩ := by
  induction l generalizing w with
  | nil => rw [List.append_nil]; rfl
  | cons c l ih =>
      have htail := ih (fun x hx => h x (List.mem_cons_of_mem _ hx)) (w ++ [c])
      rw [List.foldlM_cons, h c List.mem_cons_self tokens w]
      refine htail.trans ?_
      rw [List.append_assoc, List.singleton_append]

theorem reads_of_stays {mode : Mode} {text : String} (h : ∀ c ∈ text.toList, Stays mode c)
    (tokens : List Token) (w : List Char) :
    Reads ⟨tokens, some w, mode⟩ text ⟨tokens, some (w ++ text.toList), mode⟩ :=
  foldlM_of_stays h tokens w

theorem reads_of_all {mode : Mode} {p : Char → Bool} (hp : ∀ c, p c = true → Stays mode c)
    {text : String} (h : text.toList.all p = true) (tokens : List Token) (w : List Char) :
    Reads ⟨tokens, some w, mode⟩ text ⟨tokens, some (w ++ text.toList), mode⟩ :=
  reads_of_stays (fun c hc => hp c (List.all_eq_true.mp h c hc)) tokens w

theorem stays_quoted {c : Char} (h : isActive c = false) : Stays .quoted c := by
  intro tokens w
  have hne : c ≠ '"' ∧ c ≠ '\\' ∧ c ≠ '$' := by
    refine ⟨?_, ?_, ?_⟩ <;> · rintro rfl; exact absurd h (by decide)
  simp [step, hne, h]

theorem stays_brace {q : Bool} {c : Char} (h : isNamePart c = true) : Stays (.brace q) c := by
  intro tokens w
  simp [step, h]

theorem stays_command {q : Bool} {c : Char} (h : isCommandPart c = true) : Stays (.command q) c := by
  simp only [isCommandPart, Bool.and_eq_true, decide_eq_true_eq, Bool.not_eq_true'] at h
  intro tokens w
  simp [step, h]

/-! ### In double quotes -/

/-- In double quotes `s` adds the text `t` to the word. -/
def Quotes (s t : String) : Prop :=
  ∀ tokens w, Reads ⟨tokens, some w, .quoted⟩ s ⟨tokens, some (w ++ t.toList), .quoted⟩

theorem Quotes.append {s t s' t' : String} (h : Quotes s t) (h' : Quotes s' t') :
    Quotes (s ++ s') (t ++ t') := by
  intro tokens w
  rw [String.toList_append, ← List.append_assoc]
  exact (h tokens w).append (h' tokens _)

/-- Letters without a meaning stand for themselves. -/
theorem Quotes.text {s : String} (h : s.toList.all (fun c => !isActive c) = true) : Quotes s s :=
  reads_of_all (fun _ hc => stays_quoted (by simpa using hc)) h

theorem Quotes.intercalate {sep : String} (hsep : Quotes sep sep) {l : List String}
    (h : ∀ x ∈ l, Quotes x x) : Quotes (sep.intercalate l) (sep.intercalate l) := by
  induction l with
  | nil => exact Quotes.text rfl
  | cons x l ih =>
      have hx := h x List.mem_cons_self
      have hl := ih (fun y hy => h y (List.mem_cons_of_mem _ hy))
      cases l with
      | nil => rwa [String.intercalate_singleton]
      | cons y l =>
          rw [String.intercalate_cons_cons]
          exact (hx.append hsep).append hl

/-- A backslash takes the meaning from the letter after it. -/
theorem Quotes.escape {c : Char} (h : isActive c = true) :
    Quotes (String.singleton '\\' ++ String.singleton c) (String.singleton c) := by
  intro tokens w
  have hback : step ⟨tokens, some w, .quoted⟩ '\\' = some ⟨tokens, some w, .escaped⟩ := rfl
  have hchar : step ⟨tokens, some w, .escaped⟩ c = some ⟨tokens, some (w ++ [c]), .quoted⟩ := by
    simp [step, h]
  rw [String.toList_singleton]
  exact (reads_singleton hback).append (reads_singleton hchar)

theorem reads_dollar (tokens : List Token) (w : List Char) :
    Reads ⟨tokens, some w, .quoted⟩ "$" ⟨tokens, some (w ++ ['$']), .dollar true⟩ := rfl

/-- `$NAME`, of which the first letter is enough to see what it is. -/
theorem Quotes.parameter {c : Char} (h : isNameStart c = true) :
    Quotes ("$" ++ String.singleton c) ("$" ++ String.singleton c) := by
  intro tokens w
  have hchar : step ⟨tokens, some (w ++ ['$']), .dollar true⟩ c =
      some ⟨tokens, some (w ++ ['$'] ++ [c]), .quoted⟩ := by
    simp [step, h, outer]
  rw [String.toList_append, String.toList_singleton, ← List.append_assoc]
  exact (reads_dollar tokens w).append (reads_singleton hchar)

/-- An expansion with an opening and a closing letter. -/
theorem quotes_enclosed (mode : Mode) {opening closing : Char} {body : String}
    (hopen : ∀ tokens w, step ⟨tokens, some w, .dollar true⟩ opening =
      some ⟨tokens, some (w ++ [opening]), mode⟩)
    (hclose : ∀ tokens w, step ⟨tokens, some w, mode⟩ closing =
      some ⟨tokens, some (w ++ [closing]), .quoted⟩)
    {p : Char → Bool} (hp : ∀ c, p c = true → Stays mode c) (hbody : body.toList.all p = true) :
    Quotes ("$" ++ String.singleton opening ++ body ++ String.singleton closing)
      ("$" ++ String.singleton opening ++ body ++ String.singleton closing) := by
  intro tokens w
  simp only [String.toList_append, String.toList_singleton, ← List.append_assoc]
  have hdollar := (reads_dollar tokens w).append (reads_singleton (hopen tokens _))
  exact (hdollar.append (reads_of_all hp hbody tokens _)).append (reads_singleton (hclose tokens _))

theorem Quotes.brace {name : String} (h : name.toList.all isNamePart = true) :
    Quotes ("$" ++ String.singleton '{' ++ name ++ String.singleton '}')
      ("$" ++ String.singleton '{' ++ name ++ String.singleton '}') :=
  quotes_enclosed (.brace true) (fun _ _ => rfl) (fun _ _ => rfl) (fun _ => stays_brace) h

theorem Quotes.command {body : String} (h : body.toList.all isCommandPart = true) :
    Quotes ("$" ++ String.singleton '(' ++ body ++ String.singleton ')')
      ("$" ++ String.singleton '(' ++ body ++ String.singleton ')') :=
  quotes_enclosed (.command true) (fun _ _ => rfl) (fun _ _ => rfl) (fun _ => stays_command) h

/-! ### From the start -/

/-- From the start the text gives these words, the last of which may go on. -/
def Lexed (text : String) (ts : List Token) : Prop :=
  ∃ tokens w, Reads start text ⟨tokens, w, .plain⟩ ∧ delimit tokens w = ts

/-- A letter that stands for itself in a word without quotes. -/
def isPlain (c : Char) : Bool :=
  !isBlank c && !isOperator [c] && c ≠ '"' && c ≠ '$' && !isUncovered c

/-- A word without quotes. -/
def isWord (text : String) : Bool := match text.toList with
  | [] => false
  | c :: cs => c ≠ '#' && (c :: cs).all isPlain

theorem plainStep_of_isPlain {c : Char} (h : isPlain c = true) (tokens : List Token)
    {word : Option (List Char)} (hword : c ≠ '#' ∨ word ≠ none) :
    plainStep tokens word c = some ⟨tokens, some (word.getD [] ++ [c]), .plain⟩ := by
  simp only [isPlain, Bool.and_eq_true, Bool.not_eq_true', decide_eq_true_eq] at h
  obtain ⟨⟨⟨⟨hblank, hop⟩, hquote⟩, hdollar⟩, huncovered⟩ := h
  have hcomment : (c = '#' && word.isNone) = false := by
    rcases hword with hc | hw
    · simp [hc]
    · obtain ⟨w, rfl⟩ := Option.ne_none_iff_exists'.mp hw
      simp
  simp [plainStep, hblank, hop, hquote, hdollar, huncovered, hcomment]

theorem reads_word {text : String} (h : isWord text = true) (tokens : List Token) :
    Reads ⟨tokens, none, .plain⟩ text ⟨tokens, some text.toList, .plain⟩ := by
  unfold isWord at h
  cases htext : text.toList with
  | nil =>
      rw [htext] at h
      cases h
  | cons c cs =>
      rw [htext] at h
      simp only [Bool.and_eq_true, decide_eq_true_eq, List.all_eq_true] at h
      obtain ⟨hc, hplain⟩ := h
      have hfirst : step ⟨tokens, none, .plain⟩ c = some ⟨tokens, some [c], .plain⟩ :=
        plainStep_of_isPlain (hplain c List.mem_cons_self) tokens (.inl hc)
      have hrest : ∀ x ∈ cs, Stays .plain x := fun x hx tokens w =>
        plainStep_of_isPlain (hplain x (List.mem_cons_of_mem _ hx)) tokens (.inr (Option.some_ne_none w))
      rw [Reads, run, htext, List.foldlM_cons, hfirst]
      exact foldlM_of_stays hrest tokens [c]

theorem reads_blank (tokens : List Token) (w : Option (List Char)) :
    Reads ⟨tokens, w, .plain⟩ " " ⟨delimit tokens w, none, .plain⟩ := rfl

theorem reads_quoted {s t : String} (h : Quotes s t) (tokens : List Token) :
    Reads ⟨tokens, none, .plain⟩ ("\"" ++ s ++ "\"") ⟨tokens, some t.toList, .plain⟩ := by
  have hopen : Reads ⟨tokens, none, .plain⟩ "\"" ⟨tokens, some [], .quoted⟩ := rfl
  have hclose : Reads ⟨tokens, some ([] ++ t.toList), .quoted⟩ "\""
      ⟨tokens, some t.toList, .plain⟩ := rfl
  exact (hopen.append (h tokens [])).append hclose

theorem delimit_toList (tokens : List Token) (t : String) :
    delimit tokens (some t.toList) = tokens ++ [.word t] := by
  rw [delimit, String.ofList_toList]

namespace Lexed

theorem first {v : String} (h : isWord v = true) : Lexed v [.word v] :=
  ⟨_, _, reads_word h [], delimit_toList [] v⟩

variable {s : String} {ts : List Token}

theorem blank (h : Lexed s ts) : Lexed (s ++ " ") ts := by
  obtain ⟨tokens, w, hreads, rfl⟩ := h
  exact ⟨_, _, hreads.append (reads_blank tokens w), rfl⟩

theorem word (h : Lexed s ts) {v : String} (hv : isWord v = true) : Lexed (s ++ " " ++ v) (ts ++ [.word v]) := by
  obtain ⟨tokens, w, hreads, rfl⟩ := h
  exact ⟨_, _, (hreads.append (reads_blank tokens w)).append (reads_word hv _), delimit_toList _ v⟩

theorem quoted (h : Lexed s ts) {v t : String} (hv : Quotes v t) :
    Lexed (s ++ " " ++ ("\"" ++ v ++ "\"")) (ts ++ [.word t]) := by
  obtain ⟨tokens, w, hreads, rfl⟩ := h
  exact ⟨_, _, (hreads.append (reads_blank tokens w)).append (reads_quoted hv _), delimit_toList _ t⟩

/-- An operator at the end of the text. -/
theorem tokenize_operator (h : Lexed s ts) {c : Char} (hblank : isBlank c = false)
    (hc : isOperator [c] = true) :
    tokenize (s ++ " " ++ String.singleton c) = some (ts ++ [.operator (String.singleton c)]) := by
  obtain ⟨tokens, w, hreads, rfl⟩ := h
  have hop : step ⟨delimit tokens w, none, .plain⟩ c =
      some ⟨delimit tokens w, none, .operator [c]⟩ := by
    simp [step, plainStep, hblank, hc, delimit]
  have hrun := (hreads.append (reads_blank tokens w)).append (reads_singleton hop)
  rw [tokenize, hrun, Option.bind_some]
  rfl

end Lexed

end Shell
