import KafkaOperator.GoOutcome

/-! # A store of objects

Pointers to objects of one Go type.  The objects a program starts with are the ones its
input decodes to, and each is named by the place `π` of the input it comes from, so two
different places never share an object; the objects it allocates are numbered.  A pointer
is a `Ref`, a pointer that may be nil is an `Option (Ref π)`.

`read_write` and `read_alloc` are the frame conditions: a write changes the object it is
made through and no other, an allocation changes none. -/

namespace Go

variable {π α β σ τ : Type} [DecidableEq π]

/-- The name of an object: given with the input, or allocated by the program. -/
inductive Ref (π : Type) where
  | given (p : π)
  | fresh (n : ℕ)
deriving DecidableEq, Repr

/-- The objects of type `α`. -/
structure Store (π α : Type) where
  given : π → Option α
  allocated : List α

namespace Store

omit [DecidableEq π] in
/-- The object a pointer points to; `none` for a dangling one. -/
def read (s : Store π α) : Ref π → Option α
  | .given p => s.given p
  | .fresh n => s.allocated[n]?

/-- Overwrite the object a pointer points to. -/
def write (s : Store π α) (r : Ref π) (v : α) : Store π α :=
  match r with
  | .given p => { s with given := fun p' => if p' = p then (s.given p).map (fun _ => v) else s.given p' }
  | .fresh n => { s with allocated := s.allocated.set n v }

omit [DecidableEq π] in
/-- The pointer at a place of the input; nil where the input has no object. -/
def ptr (s : Store π α) (p : π) : Option (Ref π) := (s.given p).map (fun _ => .given p)

omit [DecidableEq π] in
/-- The name the next allocated object gets. -/
def next (s : Store π α) : Ref π := .fresh s.allocated.length

omit [DecidableEq π] in
def alloc (s : Store π α) (v : α) : Store π α := { s with allocated := s.allocated ++ [v] }

theorem read_write (s : Store π α) (r r' : Ref π) (v : α) :
    (s.write r v).read r' = if r' = r then (s.read r).map (fun _ => v) else s.read r' := by
  cases r with
  | given p =>
      cases r' with
      | given p' => simp [write, read]
      | fresh n' => simp [write, read]
  | fresh n =>
      cases r' with
      | given p' => simp [write, read]
      | fresh n' =>
          simp only [write, read, List.getElem?_set, Ref.fresh.injEq]
          by_cases h : n' = n
          · subst h
            rcases Nat.lt_or_ge n' s.allocated.length with hlt | hge
            · simp [hlt]
            · simp [Nat.not_lt.mpr hge]
          · simp [h, Ne.symm h]

theorem read_write_ne (s : Store π α) {r r' : Ref π} (v : α) (h : r' ≠ r) :
    (s.write r v).read r' = s.read r' := by rw [read_write, if_neg h]

theorem read_write_self {s : Store π α} {r : Ref π} {w : α} (v : α) (h : s.read r = some w) :
    (s.write r v).read r = some v := by simp [read_write, h]

/-- Writing what is there changes nothing. -/
theorem write_self {s : Store π α} {r : Ref π} {v : α} (h : s.read r = some v) : s.write r v = s := by
  cases r with
  | given p =>
      have hgiven : (fun p' => if p' = p then (s.given p).map (fun _ => v) else s.given p') =
          s.given := by
        funext p'
        split_ifs with hp
        · subst hp
          rw [show s.given p' = some v from h, Option.map_some]
        · rfl
      rw [write, hgiven]
  | fresh n =>
      obtain ⟨hn, rfl⟩ := List.getElem?_eq_some_iff.mp h
      rw [write, List.set_getElem_self]

omit [DecidableEq π] in
/-- Every object is there with the same value. -/
def Extends (s s' : Store π α) : Prop := ∀ r v, s.read r = some v → s'.read r = some v

omit [DecidableEq π] in
/-- Objects that exist survive an allocation. -/
theorem read_alloc {s : Store π α} {r : Ref π} {w : α} (v : α) (h : s.read r = some w) :
    (s.alloc v).read r = some w := by
  cases r with
  | given p => exact h
  | fresh n =>
      have hlt : n < s.allocated.length := (List.getElem?_eq_some_iff.mp h).1
      simpa [alloc, read, List.getElem?_append_left hlt] using h

omit [DecidableEq π] in
@[simp] theorem read_alloc_next (s : Store π α) (v : α) : (s.alloc v).read s.next = some v := by
  simp [alloc, read, next]

omit [DecidableEq π] in
@[simp] theorem read_next (s : Store π α) : s.read s.next = none := by simp [read, next]

/-- A new object, whatever is written to it. -/
theorem extends_alloc_write (s : Store π α) (v w : α) : s.Extends ((s.alloc v).write s.next w) := by
  intro r x hx
  have hne : r ≠ s.next := by
    rintro rfl
    rw [read_next] at hx
    cases hx
  rw [read_write_ne _ _ hne]
  exact read_alloc v hx

omit [DecidableEq π] in
/-- The pointer points to an object with the property. -/
def Holds (s : Store π α) (r : Ref π) (p : α → Prop) : Prop := ∃ v, s.read r = some v ∧ p v

omit [DecidableEq π] in
theorem Holds.alloc {s : Store π α} {r : Ref π} {p : α → Prop} (h : s.Holds r p) (v : α) :
    (s.alloc v).Holds r p := by
  obtain ⟨w, hw, hp⟩ := h
  exact ⟨w, read_alloc v hw, hp⟩

theorem holds_write {s : Store π α} {r : Ref π} {p : α → Prop} {v w : α} (hv : s.read r = some v)
    (hw : p w) : (s.write r w).Holds r p :=
  ⟨w, read_write_self w hv, hw⟩

/-- Overwriting an object by one with the property takes it from no pointer. -/
theorem Holds.write {s : Store π α} {r r' : Ref π} {p : α → Prop} (h : s.Holds r p) {w : α}
    (hw : p w) : (s.write r' w).Holds r p := by
  obtain ⟨v, hv, hp⟩ := h
  by_cases he : r = r'
  · subst he
    exact holds_write hv hw
  · exact ⟨v, (read_write_ne s w he).trans hv, hp⟩

/-- Overwriting an object takes the property from no pointer, if it is not taken from that one. -/
theorem Holds.write_of {s : Store π α} {r r' : Ref π} {p : α → Prop} (h : s.Holds r p) {w : α}
    (hw : ∀ v, s.read r' = some v → p v → p w) : (s.write r' w).Holds r p := by
  obtain ⟨v, hv, hp⟩ := h
  by_cases he : r = r'
  · subst he
    exact holds_write hv (hw v hv hp)
  · exact ⟨v, (read_write_ne s w he).trans hv, hp⟩

omit [DecidableEq π] in
/-- Every object has the property. -/
def All (p : α → Prop) (s : Store π α) : Prop := ∀ r v, s.read r = some v → p v

omit [DecidableEq π] in
theorem All.alloc {s : Store π α} {p : α → Prop} (h : s.All p) {v : α} (hv : p v) :
    (s.alloc v).All p := by
  intro r w hw
  cases r with
  | given q => exact h (.given q) w hw
  | fresh n =>
      rcases List.mem_append.mp (List.mem_of_getElem? hw) with hmem | hmem
      · obtain ⟨m, hm⟩ := List.mem_iff_getElem?.mp hmem
        exact h (.fresh m) w hm
      · obtain rfl := List.mem_singleton.mp hmem
        exact hv

theorem All.write {s : Store π α} {p : α → Prop} (h : s.All p) {w : α} (hw : p w) (r : Ref π) :
    (s.write r w).All p := by
  intro r' v hv
  rw [read_write] at hv
  split_ifs at hv
  · obtain ⟨_, -, rfl⟩ := Option.map_eq_some_iff.mp hv
    exact hw
  · exact h r' v hv

end Store

/-! ### Programs over one part of a heap -/

/-- A program over the part `get t` of a larger heap. -/
def Prog.on (get : τ → σ) (put : τ → σ → τ) (m : Prog σ α) : Prog τ α := fun t =>
  ((m (get t)).1, put t (m (get t)).2)

theorem Prog.on_apply (get : τ → σ) (put : τ → σ → τ) (m : Prog σ α) (t : τ) :
    Prog.on get put m t = ((m (get t)).1, put t (m (get t)).2) := rfl

theorem Prog.on_eq_ok {get : τ → σ} {put : τ → σ → τ} {m : Prog σ α} {t t' : τ} {a : α}
    (h : Prog.on get put m t = (.ok a, t')) : ∃ s, m (get t) = (.ok a, s) ∧ t' = put t s := by
  obtain ⟨hok, rfl⟩ := Prod.mk.inj h
  exact ⟨_, Prod.ext hok rfl, rfl⟩

theorem Prog.on_of_ok {get : τ → σ} {put : τ → σ → τ} {m : Prog σ α} {t : τ} {a : α} {s : σ}
    (h : m (get t) = (.ok a, s)) : Prog.on get put m t = (.ok a, put t s) := by
  rw [Prog.on_apply, h]

/-- The object behind a pointer; a nil or dangling pointer panics. -/
def Prog.load (r : Option (Ref π)) : Prog (Store π α) α := fun s =>
  (Outcome.deref (r.bind s.read), s)

/-- Overwrite the object behind a pointer; a nil or dangling pointer panics. -/
def Prog.store (r : Option (Ref π)) (v : α) : Prog (Store π α) Unit := fun s =>
  match r with
  | none => (.panic, s)
  | some p => match s.read p with
    | none => (.panic, s)
    | some _ => (.ok (), s.write p v)

/-- Allocate an object. -/
def Prog.new (v : α) : Prog (Store π α) (Ref π) := fun s => (.ok s.next, s.alloc v)

/-- Replace the object behind a pointer by what `f` makes of it. -/
def Prog.update (r : Option (Ref π)) (f : α → Outcome α) : Prog (Store π α) Unit := do
  let v ← Prog.load r
  let w ← Prog.lift (f v)
  Prog.store r w

/-- What an update does where it returns. -/
theorem Prog.update_eq_ok {r : Ref π} {f : α → Outcome α} {s s' : Store π α} {u : Unit}
    (h : Prog.update (some r) f s = (.ok u, s')) :
    ∃ v w, s.read r = some v ∧ f v = .ok w ∧ s' = s.write r w := by
  obtain ⟨v, s₁, hload, h⟩ := Prog.bind_eq_ok.mp h
  obtain ⟨w, s₂, hlift, h⟩ := Prog.bind_eq_ok.mp h
  obtain ⟨hv, rfl⟩ := Prod.mk.inj hload
  obtain ⟨hw, rfl⟩ := Prod.mk.inj hlift
  have hread : s.read r = some v := Outcome.deref_eq_ok.mp hv
  rw [Prog.store, hread] at h
  exact ⟨v, w, hread, hw, (Prod.mk.inj h).2.symm⟩

theorem Prog.update_of_ok {r : Ref π} {f : α → Outcome α} {s : Store π α} {v w : α}
    (hv : s.read r = some v) (hw : f v = .ok w) :
    Prog.update (some r) f s = (.ok (), s.write r w) := by
  have hload : Prog.load (some r) s = (.ok v, s) := by simp [Prog.load, hv]
  rw [Prog.update, Prog.bind_of_ok hload, hw, Prog.bind_of_ok (Prog.lift_apply (.ok w) s), Prog.store, hv]

/-! ### Rules -/

namespace Prog.Keeps

omit [DecidableEq π] in
theorem load {I : Store π α → Prop} (r : Option (Ref π)) : Keeps I (Prog.load r) := fun _ hs => hs

omit [DecidableEq π] in
theorem new {I : Store π α → Prop} {v : α} (h : ∀ s, I s → I (s.alloc v)) : Keeps I (Prog.new v) :=
  h

theorem store {I : Store π α → Prop} {r : Option (Ref π)} {v : α}
    (h : ∀ s p, I s → I (s.write p v)) : Keeps I (Prog.store r v) := by
  intro s hs
  unfold Prog.store
  split
  · exact hs
  · split
    · exact hs
    · exact h s _ hs

theorem update {I : Store π α → Prop} {r : Option (Ref π)} {f : α → Outcome α}
    (h : ∀ v w, f v = .ok w → ∀ s p, I s → I (s.write p w)) : Keeps I (Prog.update r f) := by
  refine bind (load r) (fun v => ?_)
  cases hf : f v with
  | ok w => exact store (h v w hf)
  | err e => exact fun s hs => hs
  | panic => exact fun s hs => hs

omit [DecidableEq π] in
/-- What is loaded has the property that every object has. -/
theorem load_bind {p : α → Prop} {r : Option (Ref π)} {f : α → Prog (Store π α) β}
    (h : ∀ v, p v → Keeps (Store.All p) (f v)) : Keeps (Store.All p) (Prog.load r >>= f) := by
  intro s hs
  cases hv : r.bind s.read with
  | none => rwa [Prog.bind_of_panic (by rw [Prog.load, hv, Outcome.deref_none])]
  | some v =>
      rw [Prog.bind_of_ok (by rw [Prog.load, hv, Outcome.deref_some])]
      obtain ⟨q, -, hq⟩ := Option.bind_eq_some_iff.mp hv
      exact h v (hs q v hq) s hs

/-- An update of one object keeps a property of all of them. -/
theorem update_all {p : α → Prop} {r : Option (Ref π)} {f : α → Outcome α}
    (h : ∀ v w, p v → f v = .ok w → p w) : Keeps (Store.All p) (Prog.update r f) := by
  refine load_bind (fun v hv => ?_)
  cases hf : f v with
  | ok w => exact store (fun s q hs => hs.write (h v w hv hf) q)
  | err e => exact fun s hs => hs
  | panic => exact fun s hs => hs

omit [DecidableEq π] in
/-- A program over one part of a heap keeps what it keeps of that part. -/
theorem on {get : τ → σ} {put : τ → σ → τ} (hget : ∀ t s, get (put t s) = s) {m : Prog σ β}
    {I : σ → Prop} (h : Keeps I m) : Keeps (fun t => I (get t)) (Prog.on get put m) := by
  intro t ht
  rw [Prog.on_apply, hget]
  exact h _ ht

omit [DecidableEq π] in
/-- And it keeps what does not depend on that part. -/
theorem on_frame {get : τ → σ} {put : τ → σ → τ} {m : Prog σ β} {F : τ → Prop}
    (hF : ∀ t s, F t → F (put t s)) : Keeps F (Prog.on get put m) :=
  fun t ht => hF t _ ht

end Prog.Keeps

namespace Triple

variable {E X : Prop} {P : Store π α → Prop} {r : Ref π}

omit [DecidableEq π] in
theorem load {Q : α → Store π α → Prop} (h : ∀ s, P s → ∃ v, s.read r = some v ∧ Q v s) :
    Triple E X P (Prog.load (some r)) Q := by
  intro s hs
  obtain ⟨v, hv, hq⟩ := h s hs
  simpa [Prog.load, hv] using hq

theorem store {v : α} {Q : Unit → Store π α → Prop}
    (h : ∀ s, P s → (∃ w, s.read r = some w) ∧ Q () (s.write r v)) :
    Triple E X P (Prog.store (some r) v) Q := by
  intro s hs
  obtain ⟨⟨w, hw⟩, hq⟩ := h s hs
  simpa [Prog.store, hw] using hq

omit [DecidableEq π] in
theorem new {v : α} {Q : Ref π → Store π α → Prop} (h : ∀ s, P s → Q s.next (s.alloc v)) :
    Triple E X P (Prog.new v) Q :=
  fun s hs => h s hs

theorem update {f : α → Outcome α} {Q : Unit → Store π α → Prop}
    (h : ∀ s, P s → ∃ v, s.read r = some v ∧ (f v = .panic → X) ∧ (∀ e, f v = .err e → E) ∧
      ∀ w, f v = .ok w → Q () (s.write r w)) :
    Triple E X P (Prog.update (some r) f) Q := by
  intro s hs
  obtain ⟨v, hv, hx, he, hq⟩ := h s hs
  have hload : Prog.load (some r) s = (.ok v, s) := by simp [Prog.load, hv]
  unfold Prog.update
  rw [Prog.bind_of_ok hload]
  cases hf : f v with
  | ok w =>
      rw [Prog.bind_of_ok (Prog.lift_apply (.ok w) s)]
      simpa [Prog.store, hv] using hq w hf
  | err e => exact he e hf
  | panic => exact hx hf

omit [DecidableEq π] in
/-- A program over one part of a heap keeps what does not depend on that part. -/
theorem on {get : τ → σ} {put : τ → σ → τ} (hget : ∀ t s, get (put t s) = s) {m : Prog σ β}
    {P : σ → Prop} {Q : β → σ → Prop} {F : τ → Prop} (hF : ∀ t s, F t → F (put t s))
    (h : Triple E X P m Q) :
    Triple E X (fun t => P (get t) ∧ F t) (Prog.on get put m) (fun b t => Q b (get t) ∧ F t) := by
  rintro t ⟨hp, hf⟩
  have hm := h _ hp
  rw [Prog.on_apply]
  rcases hms : m (get t) with ⟨o, s'⟩
  rw [hms] at hm
  cases o with
  | ok b => exact ⟨by rw [hget]; exact hm, hF _ _ hf⟩
  | err e => exact hm
  | panic => exact hm

end Triple

end Go
