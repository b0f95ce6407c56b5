import Mathlib.Data.List.DropRight
import KafkaOperator.Shell

/-! # Values of the expansions of a command

The words that a shell starts a command with: as in `Shell.lean`, but with the values of the
expansions in their place.

* In **double quotes** `$NAME` and `${NAME}` are replaced by the value of the parameter, and `$(...)`
  by the output of the command.  The name after `$` is as long as it can be.  A value is not looked
  at again: it is not cut into words, and a `$` or a quote in it has no meaning.
* **Outside of quotes** a value would be cut at its blanks.  This is not covered: `evaluate` gives
  nothing for it.

A `Context` has the parameters that are set and the commands whose output is known.  A parameter that
is not set has no value here, where a shell takes the empty text, so a command that can be evaluated
needs nothing that is not there.

`Expands ctx s v` says that `s` in double quotes has the value `v`, and `Evaluated ctx s ts` that the
text `s` from the start gives the words `ts`. -/

namespace Shell

/-- What expansions stand for. -/
structure Context where
  parameter : String → Option String
  output : String → Option String

/-- The output of a command is taken without the line breaks at its end. -/
def trimBreaks (text : String) : String := String.ofList (text.toList.rdropWhile (· = '\n'))

/-- Where in double quotes the next letter stands; an expansion collects what it has read. -/
inductive Inner where
  | text
  | escaped
  | dollar
  | name (read : List Char)
  | brace (read : List Char)
  | command (read : List Char)
deriving DecidableEq, Repr

/-- Outside of quotes the state is that of `Shell.lean`. -/
inductive EvalState where
  | outside (s : State)
  | inside (tokens : List Token) (word : List Char) (mode : Inner)
deriving DecidableEq, Repr

/-! ### The machine -/

/-- A letter of a text in double quotes. -/
def textStep (tokens : List Token) (word : List Char) (c : Char) : Option EvalState :=
  if c = '"' then some (.outside ⟨tokens, some word, .plain⟩)
  else if c = '\\' then some (.inside tokens word .escaped)
  else if c = '$' then some (.inside tokens word .dollar)
  else if isActive c then none
  else some (.inside tokens (word ++ [c]) .text)

/-- A letter outside of quotes, where there may be no expansion. -/
def outsideStep (s : State) (c : Char) : Option EvalState :=
  (step s c).bind (fun s' => match s'.mode with
    | .plain | .operator _ => some (.outside s')
    | .quoted => some (.inside s'.tokens (s'.word.getD []) .text)
    | _ => none)

def evalStep (ctx : Context) : EvalState → Char → Option EvalState
  | .outside s, c => outsideStep s c
  | .inside tokens word mode, c => match mode with
    | .text => textStep tokens word c
    | .escaped =>
        if isActive c then some (.inside tokens (word ++ [c]) .text)
        else if c = '\n' then some (.inside tokens word .text)
        else some (.inside tokens (word ++ ['\\', c]) .text)
    | .dollar =>
        if isNameStart c then some (.inside tokens word (.name [c]))
        else if c = '{' then some (.inside tokens word (.brace []))
        else if c = '(' then some (.inside tokens word (.command []))
        else none
    | .name read =>
        if isNamePart c then some (.inside tokens word (.name (read ++ [c])))
        -- the letter after the name is a letter of the text
        else (ctx.parameter (String.ofList read)).bind (fun v => textStep tokens (word ++ v.toList) c)
    | .brace read =>
        if isNamePart c then some (.inside tokens word (.brace (read ++ [c])))
        else if c = '}' then
          (ctx.parameter (String.ofList read)).map (fun v => .inside tokens (word ++ v.toList) .text)
        else none
    | .command read =>
        if c = ')' then
          (ctx.output (String.ofList read)).map (fun v => .inside tokens (word ++ v.toList) .text)
        else if isNesting c then none
        else some (.inside tokens word (.command (read ++ [c])))

/-- The words at the end of the text; none in double quotes. -/
def EvalState.finish : EvalState → Option (List Token)
  | .outside s => Shell.finish s
  | .inside _ _ _ => none

/-- The words and operators of a command, with the values of the expansions. -/
def evaluate (ctx : Context) (text : String) : Option (List Token) :=
  (text.toList.foldlM (evalStep ctx) (.outside start)).bind EvalState.finish

/-! ### Runs -/

/-- Letters that are collected one by one are all collected. -/
theorem foldlM_of_grows {σ : Type} {f : σ → Char → Option σ} (state : List Char → σ) {l : List Char}
    (h : ∀ c ∈ l, ∀ w, f (state w) c = some (state (w ++ [c]))) (w : List Char) :
    l.foldlM f (state w) = some (state (w ++ l)) := by
  induction l generalizing w with
  | nil => rw [List.append_nil]; rfl
  | cons c l ih =>
      have htail := ih (fun x hx => h x (List.mem_cons_of_mem _ hx)) (w ++ [c])
      rw [List.foldlM_cons, h c List.mem_cons_self w]
      refine htail.trans ?_
      rw [List.append_assoc, List.singleton_append]

section Runs

variable {ctx : Context}

/-- Reading the text leads from one state to the other. -/
def Leads (ctx : Context) (s : EvalState) (text : String) (s' : EvalState) : Prop :=
  text.toList.foldlM (evalStep ctx) s = some s'

theorem Leads.append {s s' s'' : EvalState} {a b : String} (ha : Leads ctx s a s')
    (hb : Leads ctx s' b s'') : Leads ctx s (a ++ b) s'' := by
  unfold Leads at ha hb ⊢
  rw [String.toList_append, List.foldlM_append, ha]
  exact hb

theorem leads_singleton {s s' : EvalState} {c : Char} (h : evalStep ctx s c = some s') :
    Leads ctx s (String.singleton c) s' := by
  rw [Leads, String.toList_singleton, List.foldlM_cons, h]
  rfl

theorem leads_of_all (state : List Char → EvalState) {p : Char → Bool}
    (hp : ∀ c, p c = true → ∀ w, evalStep ctx (state w) c = some (state (w ++ [c]))) {text : String}
    (h : text.toList.all p = true) (w : List Char) :
    Leads ctx (state w) text (state (w ++ text.toList)) :=
  foldlM_of_grows state (fun c hc => hp c (List.all_eq_true.mp h c hc)) w

/-! ### In double quotes -/

/-- In double quotes `s` has the value `v`. -/
def Expands (ctx : Context) (s v : String) : Prop :=
  ∀ tokens w, Leads ctx (.inside tokens w .text) s (.inside tokens (w ++ v.toList) .text)

theorem Expands.append {s v s' v' : String} (h : Expands ctx s v) (h' : Expands ctx s' v') :
    Expands ctx (s ++ s') (v ++ v') := by
  intro tokens w
  rw [String.toList_append, ← List.append_assoc]
  exact (h tokens w).append (h' tokens _)

theorem textStep_of_inactive {c : Char} (h : isActive c = false) (tokens : List Token)
    (w : List Char) : textStep tokens w c = some (.inside tokens (w ++ [c]) .text) := by
  have hne : c ≠ '"' ∧ c ≠ '\\' ∧ c ≠ '$' := by
    refine ⟨?_, ?_, ?_⟩ <;> · rintro rfl; exact absurd h (by decide)
  simp [textStep, hne, h]

/-- Letters without a meaning stand for themselves. -/
theorem Expands.text {s : String} (h : s.toList.all (fun c => !isActive c) = true) :
    Expands ctx s s := by
  intro tokens w
  refine leads_of_all (fun w => .inside tokens w .text) ?_ h w
  intro c hc w
  exact textStep_of_inactive (by simpa using hc) tokens w

/-- A backslash takes the meaning from the letter after it. -/
theorem Expands.escape {c : Char} (h : isActive c = true) :
    Expands ctx (String.singleton '\\' ++ String.singleton c) (String.singleton c) := by
  intro tokens w
  have hback : evalStep ctx (.inside tokens w .text) '\\' = some (.inside tokens w .escaped) := rfl
  have hchar : evalStep ctx (.inside tokens w .escaped) c =
      some (.inside tokens (w ++ [c]) .text) := by
    simp [evalStep, h]
  rw [String.toList_singleton]
  exact (leads_singleton hback).append (leads_singleton hchar)

/-- The values of joined texts are joined. -/
theorem Expands.intercalate {α : Type} {sep : String} (hsep : Expands ctx sep sep) {f g : α → String}
    {l : List α} (h : ∀ x ∈ l, Expands ctx (f x) (g x)) :
    Expands ctx (sep.intercalate (l.map f)) (sep.intercalate (l.map g)) := by
  induction l with
  | nil => exact Expands.text rfl
  | cons x l ih =>
      have hx := h x List.mem_cons_self
      have hl := ih (fun y hy => h y (List.mem_cons_of_mem _ hy))
      cases l with
      | nil => simpa using hx
      | cons y l =>
          simp only [List.map_cons, String.intercalate_cons_cons] at hl ⊢
          exact (hx.append hsep).append hl

/-! ### Expansions -/

/-- A name of a parameter. -/
def isName (text : String) : Bool := match text.toList with
  | [] => false
  | c :: cs => isNameStart c && cs.all isNamePart

theorem leads_dollar (tokens : List Token) (w : List Char) :
    Leads ctx (.inside tokens w .text) "$" (.inside tokens w .dollar) := rfl

theorem leads_name {name : String} (h : isName name = true) (tokens : List Token) (w : List Char) :
    Leads ctx (.inside tokens w .dollar) name (.inside tokens w (.name name.toList)) := by
  unfold isName at h
  cases hname : name.toList with
  | nil =>
      rw [hname] at h
      cases h
  | cons c cs =>
      rw [hname] at h
      obtain ⟨hc, hcs⟩ := Bool.and_eq_true_iff.mp h
      have hfirst : evalStep ctx (.inside tokens w .dollar) c =
          some (.inside tokens w (.name [c])) := by
        simp [evalStep, hc]
      have hrest : ∀ x ∈ cs, ∀ read, evalStep ctx (.inside tokens w (.name read)) x =
          some (.inside tokens w (.name (read ++ [x]))) := by
        intro x hx read
        simp [evalStep, List.all_eq_true.mp hcs x hx]
      rw [Leads, hname, List.foldlM_cons, hfirst]
      exact foldlM_of_grows (fun read => EvalState.inside tokens w (.name read)) hrest [c]

/-- After a name the text goes on as after its value, if the name ends there. -/
theorem leads_of_name {name value s : String} {s' : EvalState}
    (hvalue : ctx.parameter name = some value) (hend : (s.toList.head?.map isNamePart) = some false)
    {tokens : List Token} {w : List Char}
    (h : Leads ctx (.inside tokens (w ++ value.toList) .text) s s') :
    Leads ctx (.inside tokens w (.name name.toList)) s s' := by
  cases hs : s.toList with
  | nil =>
      rw [hs] at hend
      cases hend
  | cons c cs =>
      rw [hs] at hend
      have hc : isNamePart c = false := Option.some.inj hend
      have hstep : evalStep ctx (.inside tokens w (.name name.toList)) c =
          evalStep ctx (.inside tokens (w ++ value.toList) .text) c := by
        simp [evalStep, hc, String.ofList_toList, hvalue]
      unfold Leads at h ⊢
      rw [hs, List.foldlM_cons] at h ⊢
      rw [hstep]
      exact h

/-- `$NAME` and the text after it. -/
theorem Expands.parameter {name value s v : String} (hname : isName name = true)
    (hvalue : ctx.parameter name = some value) (hs : Expands ctx s v)
    (hend : (s.toList.head?.map isNamePart) = some false) :
    Expands ctx ("$" ++ name ++ s) (value ++ v) := by
  intro tokens w
  have hread : Leads ctx (.inside tokens w .text) ("$" ++ name) (.inside tokens w (.name name.toList)) :=
    (leads_dollar tokens w).append (leads_name hname tokens w)
  rw [String.toList_append, ← List.append_assoc]
  exact hread.append (leads_of_name hvalue hend (hs tokens _))

/-- An expansion with an opening and a closing letter. -/
theorem expands_enclosed (mode : List Char → Inner) {opening closing : Char} {body value : String}
    (hopen : ∀ tokens w, evalStep ctx (.inside tokens w .dollar) opening =
      some (.inside tokens w (mode [])))
    (hclose : ∀ tokens w, evalStep ctx (.inside tokens w (mode body.toList)) closing =
      some (.inside tokens (w ++ value.toList) .text))
    {p : Char → Bool} (hp : ∀ c, p c = true → ∀ tokens w read,
      evalStep ctx (.inside tokens w (mode read)) c = some (.inside tokens w (mode (read ++ [c]))))
    (hbody : body.toList.all p = true) :
    Expands ctx ("$" ++ String.singleton opening ++ body ++ String.singleton closing) value := by
  intro tokens w
  have hdollar := (leads_dollar tokens w).append (leads_singleton (hopen tokens w))
  have hread := leads_of_all (fun read => .inside tokens w (mode read))
    (fun c hc => hp c hc tokens w) hbody []
  exact (hdollar.append hread).append (leads_singleton (hclose tokens w))

theorem Expands.brace {name value : String} (hname : name.toList.all isNamePart = true)
    (hvalue : ctx.parameter name = some value) :
    Expands ctx ("$" ++ String.singleton '{' ++ name ++ String.singleton '}') value := by
  refine expands_enclosed .brace (fun _ _ => rfl) ?_ ?_ hname
  · intro tokens w
    have hpart : isNamePart '}' = false := by decide
    simp [evalStep, hpart, String.ofList_toList, hvalue]
  · intro c hc tokens w read
    simp [evalStep, hc]

theorem Expands.command {body value : String} (hbody : body.toList.all isCommandPart = true)
    (hvalue : ctx.output body = some value) :
    Expands ctx ("$" ++ String.singleton '(' ++ body ++ String.singleton ')') value := by
  refine expands_enclosed .command (fun _ _ => rfl) ?_ ?_ hbody
  · intro tokens w
    simp [evalStep, String.ofList_toList, hvalue]
  · intro c hc tokens w read
    simp only [isCommandPart, Bool.and_eq_true, decide_eq_true_eq, Bool.not_eq_true'] at hc
    simp [evalStep, hc]

/-! ### From the start -/

/-- From the start the text gives these words, the last of which may go on. -/
def Evaluated (ctx : Context) (text : String) (ts : List Token) : Prop :=
  ∃ tokens w, Leads ctx (.outside start) text (.outside ⟨tokens, w, .plain⟩) ∧ delimit tokens w = ts

theorem evalStep_of_isPlain {c : Char} (h : isPlain c = true) (tokens : List Token)
    {word : Option (List Char)} (hword : c ≠ '#' ∨ word ≠ none) :
    evalStep ctx (.outside ⟨tokens, word, .plain⟩) c =
      some (.outside ⟨tokens, some (word.getD [] ++ [c]), .plain⟩) := by
  have hstep : step ⟨tokens, word, .plain⟩ c = some ⟨tokens, some (word.getD [] ++ [c]), .plain⟩ :=
    plainStep_of_isPlain h tokens hword
  simp only [evalStep, outsideStep, hstep, Option.bind_some]

theorem leads_word {text : String} (h : isWord text = true) (tokens : List Token) :
    Leads ctx (.outside ⟨tokens, none, .plain⟩) text
      (.outside ⟨tokens, some text.toList, .plain⟩) := by
  unfold isWord at h
  cases htext : text.toList with
  | nil =>
      rw [htext] at h
      cases h
  | cons c cs =>
      rw [htext] at h
      simp only [Bool.and_eq_true, decide_eq_true_eq, List.all_eq_true] at h
      obtain ⟨hc, hplain⟩ := h
      have hfirst : evalStep ctx (.outside ⟨tokens, none, .plain⟩) c =
          some (.outside ⟨tokens, some [c], .plain⟩) :=
        evalStep_of_isPlain (hplain c List.mem_cons_self) tokens (.inl hc)
      have hrest : ∀ x ∈ cs, ∀ w, evalStep ctx (.outside ⟨tokens, some w, .plain⟩) x =
          some (.outside ⟨tokens, some (w ++ [x]), .plain⟩) := fun x hx w =>
        evalStep_of_isPlain (hplain x (List.mem_cons_of_mem _ hx)) tokens
          (.inr (Option.some_ne_none w))
      rw [Leads, htext, List.foldlM_cons, hfirst]
      exact foldlM_of_grows (fun w => EvalState.outside ⟨tokens, some w, .plain⟩) hrest [c]

theorem leads_blank (tokens : List Token) (w : Option (List Char)) :
    Leads ctx (.outside ⟨tokens, w, .plain⟩) " " (.outside ⟨delimit tokens w, none, .plain⟩) := rfl

theorem leads_quoted {s v : String} (h : Expands ctx s v) (tokens : List Token) :
    Leads ctx (.outside ⟨tokens, none, .plain⟩) ("\"" ++ s ++ "\"")
      (.outside ⟨tokens, some v.toList, .plain⟩) := by
  have hopen : Leads ctx (.outside ⟨tokens, none, .plain⟩) "\"" (.inside tokens [] .text) := rfl
  have hclose : Leads ctx (.inside tokens ([] ++ v.toList) .text) "\""
      (.outside ⟨tokens, some v.toList, .plain⟩) := rfl
  exact (hopen.append (h tokens [])).append hclose

namespace Evaluated

theorem first {v : String} (h : isWord v = true) : Evaluated ctx v [.word v] :=
  ⟨_, _, leads_word h [], delimit_toList [] v⟩

variable {s : String} {ts : List Token}

theorem blank (h : Evaluated ctx s ts) : Evaluated ctx (s ++ " ") ts := by
  obtain ⟨tokens, w, hleads, rfl⟩ := h
  exact ⟨_, _, hleads.append (leads_blank tokens w), rfl⟩

theorem word (h : Evaluated ctx s ts) {v : String} (hv : isWord v = true) :
    Evaluated ctx (s ++ " " ++ v) (ts ++ [.word v]) := by
  obtain ⟨tokens, w, hleads, rfl⟩ := h
  exact ⟨_, _, (hleads.append (leads_blank tokens w)).append (leads_word hv _), delimit_toList _ v⟩

theorem quoted (h : Evaluated ctx s ts) {text v : String} (hv : Expands ctx text v) :
    Evaluated ctx (s ++ " " ++ ("\"" ++ text ++ "\"")) (ts ++ [.word v]) := by
  obtain ⟨tokens, w, hleads, rfl⟩ := h
  exact ⟨_, _, (hleads.append (leads_blank tokens w)).append (leads_quoted hv _), delimit_toList _ v⟩

/-- An operator at the end of the text. -/
theorem evaluate_operator (h : Evaluated ctx s ts) {c : Char} (hblank : isBlank c = false)
    (hc : isOperator [c] = true) :
    evaluate ctx (s ++ " " ++ String.singleton c) =
      some (ts ++ [.operator (String.singleton c)]) := by
  obtain ⟨tokens, w, hleads, rfl⟩ := h
  have hop : evalStep ctx (.outside ⟨delimit tokens w, none, .plain⟩) c =
      some (.outside ⟨delimit tokens w, none, .operator [c]⟩) := by
    simp [evalStep, outsideStep, step, plainStep, hblank, hc, delimit]
  have hrun := (hleads.append (leads_blank tokens w)).append (leads_singleton hop)
  rw [evaluate, hrun, Option.bind_some]
  rfl

end Evaluated

end Runs

end Shell
