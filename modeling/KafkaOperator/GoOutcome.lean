import Mathlib.Tactic

/-! # Outcomes of Go code

A call of a Go function returns a value, returns an error, or panics: `Outcome` records
which, and its bind is the `if err != nil { return err }` of the source.  Dereferencing a
nil pointer is `deref none`, which panics.

`Prog σ α` is a computation over a mutable heap `σ`; the heap it leaves behind is kept
whatever the outcome.  `Triple E X P m Q` is its specification: from a state in `P`, a result
it returns satisfies `Q`, it returns an error only if `E`, and it panics only if `X` (so
`Triple False False` is total correctness).  The rules below (`Triple.bind`, `Triple.visit`)
are the ones the proofs about a program use; they never unfold `Prog`. -/

namespace Go

variable {α β σ ι : Type}

/-- How a call ends: with a value, with a returned error, or in a panic. -/
inductive Outcome (α : Type) where
  | ok (a : α)
  | err (msg : String)
  | panic
deriving DecidableEq, Repr

namespace Outcome

def bind (x : Outcome α) (f : α → Outcome β) : Outcome β :=
  match x with
  | ok a => f a
  | err e => err e
  | panic => panic

instance : Monad Outcome where
  pure := ok
  bind := bind

@[simp] theorem pure_eq (a : α) : (pure a : Outcome α) = ok a := rfl
@[simp] theorem ok_bind (a : α) (f : α → Outcome β) : (ok a >>= f) = f a := rfl
@[simp] theorem err_bind (e : String) (f : α → Outcome β) : (err e >>= f) = err e := rfl
@[simp] theorem panic_bind (f : α → Outcome β) : ((panic : Outcome α) >>= f) = panic := rfl

/-- Dereferencing a pointer that may be nil. -/
def deref : Option α → Outcome α
  | some a => ok a
  | none => panic

@[simp] theorem deref_some (a : α) : deref (some a) = ok a := rfl
@[simp] theorem deref_none : deref (none : Option α) = panic := rfl

theorem deref_eq_ok {x : Option α} {a : α} : deref x = ok a ↔ x = some a := by
  cases x <;> simp

theorem bind_eq_ok {x : Outcome α} {f : α → Outcome β} {b : β} :
    (x >>= f) = ok b ↔ ∃ a, x = ok a ∧ f a = ok b := by
  cases x <;> simp

@[simp] theorem map_ok (f : α → β) (a : α) : f <$> ok a = ok (f a) := rfl
@[simp] theorem map_err (f : α → β) (e : String) : f <$> (err e : Outcome α) = err e := rfl
@[simp] theorem map_panic (f : α → β) : f <$> (panic : Outcome α) = panic := rfl

theorem map_eq_err {x : Outcome α} {f : α → β} {e : String} : f <$> x = err e ↔ x = err e := by
  cases x <;> simp

/-- The call does not panic. -/
def Safe (x : Outcome α) : Prop := x ≠ panic

@[simp] theorem safe_ok (a : α) : (ok a).Safe := by simp [Safe]
@[simp] theorem safe_err (e : String) : (err e : Outcome α).Safe := by simp [Safe]
@[simp] theorem not_safe_panic : ¬ (panic : Outcome α).Safe := by simp [Safe]

theorem Safe.bind {x : Outcome α} {f : α → Outcome β} (hx : x.Safe)
    (hf : ∀ a, x = ok a → (f a).Safe) : (x >>= f).Safe := by
  cases x with
  | ok a => exact hf a rfl
  | err e => simp
  | panic => exact absurd hx (by simp)

theorem Safe.map {x : Outcome α} (hx : x.Safe) (f : α → β) : (f <$> x).Safe :=
  hx.bind (fun a _ => safe_ok (f a))

theorem bind_assoc (x : Outcome α) (f : α → Outcome β) {γ : Type} (g : β → Outcome γ) :
    (x >>= f >>= g) = (x >>= fun a => f a >>= g) := by
  cases x <;> rfl

end Outcome

/-! ### Programs over a heap -/

/-- A computation over the heap `σ`. -/
def Prog (σ α : Type) : Type := σ → Outcome α × σ

namespace Prog

def bind (m : Prog σ α) (f : α → Prog σ β) : Prog σ β := fun s =>
  match m s with
  | (.ok a, s') => f a s'
  | (.err e, s') => (.err e, s')
  | (.panic, s') => (.panic, s')

instance : Monad (Prog σ) where
  pure a := fun s => (.ok a, s)
  bind := bind

/-- Code that does not touch the heap. -/
def lift (x : Outcome α) : Prog σ α := fun s => (x, s)

/-- Code that reads the heap and does not write it. -/
def reads (f : σ → Outcome α) : Prog σ α := fun s => (f s, s)

/-- Run `f` on the elements of a list in order and collect the results. -/
def visit (f : ι → Prog σ β) : List ι → Prog σ (List β)
  | [] => pure []
  | i :: l => do
      let b ← f i
      let bs ← visit f l
      pure (b :: bs)

@[simp] theorem pure_apply (a : α) (s : σ) : (pure a : Prog σ α) s = (.ok a, s) := rfl
@[simp] theorem lift_apply (x : Outcome α) (s : σ) : (lift x : Prog σ α) s = (x, s) := rfl
@[simp] theorem reads_apply (f : σ → Outcome α) (s : σ) : reads f s = (f s, s) := rfl

theorem bind_of_ok {m : Prog σ α} {f : α → Prog σ β} {s s' : σ} {a : α}
    (h : m s = (.ok a, s')) : (m >>= f) s = f a s' := by
  show Prog.bind m f s = _
  simp [Prog.bind, h]

theorem bind_of_err {m : Prog σ α} {f : α → Prog σ β} {s s' : σ} {e : String}
    (h : m s = (.err e, s')) : (m >>= f) s = (.err e, s') := by
  show Prog.bind m f s = _
  simp [Prog.bind, h]

theorem bind_of_panic {m : Prog σ α} {f : α → Prog σ β} {s s' : σ}
    (h : m s = (.panic, s')) : (m >>= f) s = (.panic, s') := by
  show Prog.bind m f s = _
  simp [Prog.bind, h]

/-- What a sequence of programs returns, its parts returned one after the other. -/
theorem bind_eq_ok {m : Prog σ α} {f : α → Prog σ β} {s s'' : σ} {b : β} :
    (m >>= f) s = (.ok b, s'') ↔ ∃ a s', m s = (.ok a, s') ∧ f a s' = (.ok b, s'') := by
  rcases hms : m s with ⟨o, s'⟩
  cases o with
  | ok a => simp [bind_of_ok hms]
  | err e => simp [bind_of_err hms]
  | panic => simp [bind_of_panic hms]

/-- Returning what `f` makes of a result. -/
theorem bind_pure_apply (m : Prog σ α) (f : α → β) (s : σ) :
    (m >>= fun a => pure (f a)) s = (f <$> (m s).1, (m s).2) := by
  rcases hms : m s with ⟨o, s'⟩
  cases o with
  | ok a => rw [bind_of_ok hms]; rfl
  | err e => rw [bind_of_err hms]; rfl
  | panic => rw [bind_of_panic hms]; rfl

/-! ### Invariants of the heap -/

/-- The program leaves the heap in `I`, also where it fails. -/
def Keeps (I : σ → Prop) (m : Prog σ α) : Prop := ∀ s, I s → I (m s).2

namespace Keeps

variable {I : σ → Prop} {m : Prog σ α} {f : α → Prog σ β}

theorem pure (a : α) : Keeps I (Pure.pure a : Prog σ α) := fun _ hs => hs

theorem lift (x : Outcome α) : Keeps I (Prog.lift x) := fun _ hs => hs

theorem reads (g : σ → Outcome α) : Keeps I (Prog.reads g) := fun _ hs => hs

theorem bind (hm : Keeps I m) (hf : ∀ a, Keeps I (f a)) : Keeps I (m >>= f) := by
  intro s hs
  have h := hm s hs
  rcases hms : m s with ⟨o, s'⟩
  rw [hms] at h
  cases o with
  | ok a => rw [Prog.bind_of_ok hms]; exact hf a s' h
  | err e => rw [Prog.bind_of_err hms]; exact h
  | panic => rw [Prog.bind_of_panic hms]; exact h

theorem visit {f : ι → Prog σ β} {l : List ι} (h : ∀ i ∈ l, Keeps I (f i)) :
    Keeps I (Prog.visit f l) := by
  induction l with
  | nil => exact .pure _
  | cons i l ih =>
      refine .bind (h i List.mem_cons_self) (fun _ => .bind (ih (fun j hj => ?_)) (fun _ => .pure _))
      exact h j (List.mem_cons_of_mem _ hj)

end Keeps

end Prog

/-! ### Specifications -/

/-- From a state in `P`, what the program returns satisfies `Q`, it returns an error only if
`E`, and it panics only if `X`. -/
def Triple (E X : Prop) (P : σ → Prop) (m : Prog σ α) (Q : α → σ → Prop) : Prop :=
  ∀ s, P s → match m s with
    | (.ok a, s') => Q a s'
    | (.err _, _) => E
    | (.panic, _) => X

namespace Triple

variable {E X : Prop} {P P' : σ → Prop} {Q Q' : α → σ → Prop} {m : Prog σ α}

theorem pure {a : α} (h : ∀ s, P s → Q a s) : Triple E X P (Pure.pure a : Prog σ α) Q :=
  fun s hs => h s hs

theorem bind {f : α → Prog σ β} {R : β → σ → Prop} (hm : Triple E X P m Q)
    (hf : ∀ a, Triple E X (Q a) (f a) R) : Triple E X P (m >>= f) R := by
  intro s hs
  have h := hm s hs
  rcases hms : m s with ⟨o, s'⟩
  rw [hms] at h
  cases o with
  | ok a => rw [Prog.bind_of_ok hms]; exact hf a s' h
  | err e => rw [Prog.bind_of_err hms]; exact h
  | panic => rw [Prog.bind_of_panic hms]; exact h

theorem conseq (h : Triple E X P m Q) (hP : ∀ s, P' s → P s) (hQ : ∀ a s, Q a s → Q' a s) :
    Triple E X P' m Q' := by
  intro s hs
  have h' := h s (hP s hs)
  rcases hms : m s with ⟨o, s'⟩
  rw [hms] at h'
  cases o with
  | ok a => exact hQ a s' h'
  | err e => exact h'
  | panic => exact h'

theorem weaken {E' X' : Prop} (h : Triple E X P m Q) (hE : E → E') (hX : X → X') :
    Triple E' X' P m Q := by
  intro s hs
  have h' := h s hs
  rcases hms : m s with ⟨o, s'⟩
  rw [hms] at h'
  cases o with
  | ok a => exact h'
  | err e => exact hE h'
  | panic => exact hX h'

/-- A precondition that does not depend on the state. -/
theorem assuming {p : Prop} (h : p → Triple E X P m Q) : Triple E X (fun s => p ∧ P s) m Q :=
  fun s hs => h hs.1 s hs.2

theorem lift {x : Outcome α} (hp : x = .panic → X) (he : ∀ e, x = .err e → E)
    (h : ∀ s a, P s → x = .ok a → Q a s) : Triple E X P (Prog.lift x) Q := by
  intro s hs
  cases x with
  | ok a => exact h s a hs rfl
  | err e => exact he e rfl
  | panic => exact hp rfl

theorem of_run (h : ∀ s, P s → ∃ a s', m s = (.ok a, s') ∧ Q a s') : Triple E X P m Q := by
  intro s hs
  obtain ⟨a, s', hm, hq⟩ := h s hs
  rwa [hm]

theorem reads {f : σ → Outcome α} (hp : ∀ s, P s → f s = .panic → X)
    (he : ∀ s e, P s → f s = .err e → E) (h : ∀ s a, P s → f s = .ok a → Q a s) :
    Triple E X P (Prog.reads f) Q := by
  intro s hs
  rw [Prog.reads_apply]
  cases hf : f s with
  | ok a => exact h s a hs hf
  | err e => exact he s e hs hf
  | panic => exact hp s hs hf

/-- The rule for loops: `I done bs` holds after the elements of `done` have been visited
with results `bs`, and every iteration carries it one element further. -/
theorem visit {f : ι → Prog σ β} {l : List ι} (I : List ι → List β → σ → Prop)
    (hstep : ∀ done i rest bs, l = done ++ i :: rest →
      Triple E X (I done bs) (f i) (fun b s => I (done ++ [i]) (bs ++ [b]) s)) :
    Triple E X (I [] []) (Prog.visit f l) (fun bs s => I l bs s) := by
  have hrest : ∀ rest done bs, l = done ++ rest →
      Triple E X (I done bs) (Prog.visit f rest) (fun bs' s => I l (bs ++ bs') s) := by
    intro rest
    induction rest with
    | nil =>
        intro done bs hl s hs
        simpa [Prog.visit, hl] using hs
    | cons i rest ih =>
        intro done bs hl
        refine Triple.bind (hstep done i rest bs hl) (fun b => ?_)
        refine Triple.bind (ih (done ++ [i]) (bs ++ [b]) (by simp [hl])) (fun bs' => ?_)
        exact Triple.pure (fun s hs => by simpa using hs)
  simpa using hrest l [] [] rfl

/-- What a specification says of a run that returns. -/
theorem elim (h : Triple E X P m Q) {s s' : σ} {a : α} (hs : P s) (hm : m s = (.ok a, s')) :
    Q a s' := by
  have := h s hs
  rwa [hm] at this

theorem safe (h : Triple E False P m Q) {s : σ} (hs : P s) : (m s).1.Safe := by
  have := h s hs
  rcases hms : m s with ⟨o, s'⟩
  rw [hms] at this
  cases o <;> simp_all

theorem total (h : Triple False False P m Q) {s : σ} (hs : P s) :
    ∃ a s', m s = (.ok a, s') ∧ Q a s' := by
  have := h s hs
  rcases hms : m s with ⟨o, s'⟩
  rw [hms] at this
  cases o with
  | ok a => exact ⟨a, s', rfl, this⟩
  | err e => exact this.elim
  | panic => exact this.elim

end Triple

/-! ### The results of a loop -/

/-- Each result of a loop is in the relation `R` with the elements visited before and the one
it comes from. -/
inductive Visited (R : List ι → ι → β → Prop) : List ι → List β → Prop where
  | nil : Visited R [] []
  | snoc {done : List ι} {bs : List β} {i : ι} {b : β} (h : Visited R done bs) (hb : R done i b) :
      Visited R (done ++ [i]) (bs ++ [b])

namespace Visited

variable {R R' : List ι → ι → β → Prop} {l : List ι} {bs : List β}

theorem imp (h : Visited R l bs) (himp : ∀ done i b, i ∈ l → R done i b → R' done i b) :
    Visited R' l bs := by
  induction h with
  | nil => exact .nil
  | snoc h hb ih =>
      exact .snoc (ih (fun done i b hi => himp done i b (List.mem_append_left _ hi)))
        (himp _ _ _ (by simp) hb)

/-- What can be read off a result and off its element alike. -/
theorem map_eq {γ : Type} {f : β → γ} {g : ι → γ} (h : Visited R l bs)
    (hfg : ∀ done i b, R done i b → f b = g i) : bs.map f = l.map g := by
  induction h with
  | nil => rfl
  | snoc h hb ih => rw [List.map_append, List.map_append, ih, List.map_singleton,
      List.map_singleton, hfg _ _ _ hb]

/-- Every result comes from an element. -/
theorem of_mem (h : Visited R l bs) {b : β} (hb : b ∈ bs) :
    ∃ done i rest, l = done ++ i :: rest ∧ R done i b := by
  induction h with
  | nil => cases hb
  | @snoc done bs i b' h hb' ih =>
      rcases List.mem_append.mp hb with hb | hb
      · obtain ⟨pre, j, rest, rfl, hj⟩ := ih hb
        exact ⟨pre, j, rest ++ [i], by simp, hj⟩
      · obtain rfl := List.mem_singleton.mp hb
        exact ⟨done, i, [], rfl, hb'⟩

/-- Every element has its result. -/
theorem exists_of_split (h : Visited R l bs) {done rest : List ι} {i : ι}
    (hl : l = done ++ i :: rest) : ∃ b ∈ bs, R done i b := by
  induction h generalizing rest with
  | nil => simp at hl
  | @snoc done' bs i' b' h hb' ih =>
      rcases List.eq_nil_or_concat rest with rfl | ⟨rest', j, rfl⟩
      · obtain ⟨rfl, hi⟩ := List.append_inj' hl rfl
        obtain rfl := List.singleton_inj.mp hi
        exact ⟨b', by simp, hb'⟩
      · have hl' : done' ++ [i'] = (done ++ i :: rest') ++ [j] := by simpa using hl
        obtain ⟨hdone, -⟩ := List.append_inj' hl' rfl
        obtain ⟨b, hb, hR⟩ := ih hdone
        exact ⟨b, List.mem_append_left _ hb, hR⟩

end Visited

end Go
