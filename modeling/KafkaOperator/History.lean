import Mathlib.Tactic

/-! # Histories of calls

An object whose calls change it is described by its history: which value was set last, and which
calls were made since.

* `lastSet`, `upToLast` and `since` read this off a list of calls, with lemmas for a history with one
  more call, which sets the value (`_snoc_set`) or does not (`_snoc_other`).
* A run of a partial `step` is a fold, and `run_induction` is the rule for what holds after every
  run.
* Objects that are shared are named, and `modifyAt` changes the one of a name. -/

namespace Go

/-! ### The last value set -/

section LastSet

variable {γ α : Type} (set : γ → Option α)

/-- The last value that a call set, or the one before all calls. -/
def lastSet (init : α) (calls : List γ) : α := (calls.filterMap set).getLast?.getD init

/-- The calls up to the last one that set a value; none if there is no such. -/
def upToLast (calls : List γ) : List γ :=
  (calls.reverse.dropWhile (fun c => (set c).isNone)).reverse

/-- The calls after the last one that set a value; all if there is no such. -/
def since (calls : List γ) : List γ :=
  (calls.reverse.takeWhile (fun c => (set c).isNone)).reverse

variable {set} {init a : α} {calls : List γ} {c : γ}

theorem lastSet_snoc : lastSet set init (calls ++ [c]) = (set c).getD (lastSet set init calls) := by
  cases h : set c <;> simp [lastSet, h]

theorem upToLast_snoc_set (h : set c = some a) : upToLast set (calls ++ [c]) = calls ++ [c] := by
  simp [upToLast, h]

theorem upToLast_snoc_other (h : set c = none) :
    upToLast set (calls ++ [c]) = upToLast set calls := by
  simp [upToLast, h]

theorem since_snoc_set (h : set c = some a) : since set (calls ++ [c]) = [] := by
  simp [since, h]

theorem since_snoc_other (h : set c = none) : since set (calls ++ [c]) = since set calls ++ [c] := by
  simp [since, h]

end LastSet

/-! ### Runs -/

section Run

variable {γ σ : Type} {step : σ → γ → Option σ} {s₀ : σ}

theorem run_snoc {s : σ} {calls : List γ} {c : γ} :
    (calls ++ [c]).foldlM step s₀ = some s ↔
      ∃ t, calls.foldlM step s₀ = some t ∧ step t c = some s := by
  rw [List.foldlM_append, Option.bind_eq_bind, Option.bind_eq_some_iff]
  simp

/-- What holds at the start and is kept by every call holds after every run. -/
theorem run_induction {P : List γ → σ → Prop} (start : P [] s₀)
    (next : ∀ calls t c s, calls.foldlM step s₀ = some t → P calls t → step t c = some s →
      P (calls ++ [c]) s)
    {calls : List γ} {s : σ} (h : calls.foldlM step s₀ = some s) : P calls s := by
  induction calls using List.reverseRecOn generalizing s with
  | nil =>
      obtain rfl := Option.some.inj h
      exact start
  | append_singleton calls c ih =>
      obtain ⟨t, ht, hstep⟩ := run_snoc.mp h
      exact next calls t c s ht (ih ht) hstep

end Run

/-! ### Named objects -/

section Modify

variable {ρ α : Type} [DecidableEq ρ]

/-- Change the object of a name, if there is one. -/
def modifyAt (objects : ρ → Option α) (r : ρ) (f : α → α) : ρ → Option α :=
  fun x => if x = r then (objects x).map f else objects x

variable {objects : ρ → Option α} {r x : ρ} {f g : α → α}

theorem modifyAt_self : modifyAt objects r f r = (objects r).map f := if_pos rfl

theorem modifyAt_ne (h : x ≠ r) : modifyAt objects r f x = objects x := if_neg h

theorem isSome_modifyAt : (modifyAt objects r f x).isSome = (objects x).isSome := by
  unfold modifyAt
  split <;> simp

theorem modifyAt_modifyAt : modifyAt (modifyAt objects r f) r g = modifyAt objects r (fun v => g (f v)) := by
  funext x
  by_cases hx : x = r
  · subst hx
    simp [modifyAt_self, Function.comp_def]
  · simp [modifyAt_ne hx]

theorem modifyAt_id : modifyAt objects r (fun v => v) = objects := by
  funext x
  unfold modifyAt
  split <;> simp

/-- A loop that changes one object is one change. -/
theorem foldl_modifyAt {β : Type} (f : α → β → α) (l : List β) (objects : ρ → Option α) :
    l.foldl (fun objects b => modifyAt objects r (fun v => f v b)) objects =
      modifyAt objects r (fun v => l.foldl f v) := by
  induction l generalizing objects with
  | nil => exact modifyAt_id.symm
  | cons b l ih => rw [List.foldl_cons, ih, modifyAt_modifyAt]; rfl

end Modify

end Go
