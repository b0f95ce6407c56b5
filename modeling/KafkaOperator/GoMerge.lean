import KafkaOperator.GoMap

/-! # Field-wise merging

Two objects of one type are merged field by field.  A field behind pointers or in a map is there
when the whole path to it is.  Where both objects have it, `MergesAs m n g` says that the merge `m`
combines the two values of the field read by `g` by `n`.  It is built up along the path: through a
pointer (`MergesAs.ptr`), through a map entry (`MergesAs.map`) and through a record field
(`MergesAs.comp`).  `FieldWise` is the case in which the right value wins.

A field of plain type that counts as not set where it holds its zero value is read by `given` and
merged by `override`. -/

namespace Go

variable {α β γ κ : Type}

/-- The value of a field of plain type, `none` where it holds its zero value `z`. -/
def given [DecidableEq α] (z a : α) : Option α := if a = z then none else some a

/-- The right value where it is set, else the left one. -/
def override [DecidableEq α] (z a b : α) : α := if b = z then a else b

theorem given_eq_none [DecidableEq α] {z a : α} : given z a = none ↔ a = z := by
  unfold given; split_ifs <;> simp_all

@[simp] theorem given_self [DecidableEq α] (z : α) : given z z = none := by simp [given]

@[simp] theorem override_self_right [DecidableEq α] (z a : α) : override z a z = a := by
  simp [override]

@[simp] theorem override_self_left [DecidableEq α] (z b : α) : override z z b = b := by
  unfold override; split_ifs with h
  · exact h.symm
  · rfl

theorem override_of_ne [DecidableEq α] {z b : α} (a : α) (h : b ≠ z) : override z a b = b := by
  simp [override, h]

theorem override_assoc [DecidableEq α] (z a b c : α) :
    override z (override z a b) c = override z a (override z b c) := by
  unfold override; split_ifs <;> simp_all

theorem override_idem [DecidableEq α] (z a b : α) :
    override z a (override z a b) = override z a b := by
  unfold override; split_ifs <;> rfl

/-- Merge what two pointers point to; a nil pointer sets nothing. -/
def mergePtr (m : α → α → α) : Option α → Option α → Option α
  | none, y => y
  | some a, none => some a
  | some a, some b => some (m a b)

@[simp] theorem mergePtr_none_left (m : α → α → α) (y : Option α) : mergePtr m none y = y := rfl

@[simp] theorem mergePtr_none_right (m : α → α → α) (x : Option α) : mergePtr m x none = x := by
  cases x <;> rfl

@[simp] theorem mergePtr_some (m : α → α → α) (a b : α) :
    mergePtr m (some a) (some b) = some (m a b) := rfl

/-- A field behind both pointers is merged, if the objects merge it. -/
theorem mergePtr_bind {m : α → α → α} {n : β → β → β} (f : α → Option β)
    (h : ∀ a b, f (m a b) = mergePtr n (f a) (f b)) (x y : Option α) :
    (mergePtr m x y).bind f = mergePtr n (x.bind f) (y.bind f) := by
  cases x with
  | none => rfl
  | some a =>
      cases y with
      | none => simp
      | some b => exact h a b

/-- What holds of both objects and is kept by the merge holds of the merged one. -/
theorem mergePtr_forall {m : α → α → α} {p : α → Prop} (hm : ∀ a b, p a → p b → p (m a b))
    {x y : Option α} (hx : ∀ a, x = some a → p a) (hy : ∀ b, y = some b → p b) :
    ∀ c, mergePtr m x y = some c → p c := by
  intro c hc
  cases x with
  | none => exact hy c hc
  | some a =>
      cases y with
      | none => exact hx c hc
      | some b =>
          obtain rfl := Option.some.inj hc
          exact hm a b (hx a rfl) (hy b rfl)

/-- Objects that are nil or neutral merge to such an object. -/
theorem mergePtr_getD {m : α → α → α} {e : α} (hm : m e e = e) {x y : Option α}
    (hx : x.getD e = e) (hy : y.getD e = e) : (mergePtr m x y).getD e = e := by
  cases x with
  | none => exact hy
  | some a =>
      cases y with
      | none => exact hx
      | some b =>
          obtain rfl : a = e := hx
          obtain rfl : b = a := hy
          exact hm

/-! ### Fields that are merged -/

/-- The merge `m` treats the field read by `g` like a pointer: where both objects have it, its values
are merged by `n`. -/
def MergesAs (m : α → α → α) (n : β → β → β) (g : α → Option β) : Prop :=
  ∀ a b, g (m a b) = mergePtr n (g a) (g b)

/-- The field of the right object wins if it is set there. -/
def FieldWise (m : α → α → α) (g : α → Option β) : Prop := MergesAs m (fun _ b => b) g

theorem mergePtr_right (x y : Option α) : mergePtr (fun _ b => b) x y = y.or x := by
  cases x <;> cases y <;> rfl

theorem FieldWise.eq_or {m : α → α → α} {g : α → Option β} (h : FieldWise m g) (a b : α) :
    g (m a b) = (g b).or (g a) :=
  (h a b).trans (mergePtr_right _ _)

theorem FieldWise.override [DecidableEq α] (z : α) : FieldWise (Go.override z) (given z) := by
  intro a b
  rw [mergePtr_right]
  by_cases h : b = z
  · simp [h]
  · simp [Go.override, given, h]

namespace MergesAs

variable {m : α → α → α} {n : β → β → β} {g : α → Option β}

/-- A field that is always there. -/
theorem plain (m : α → α → α) : MergesAs m m some := fun _ _ => rfl

theorem ptr (h : MergesAs m n g) : MergesAs (mergePtr m) n (fun x => x.bind g) :=
  mergePtr_bind g h

theorem map [DecidableEq κ] (h : MergesAs m n g) (k : κ) :
    MergesAs (Map.mergeWith m) n (fun a : Map κ α => (a.get k).bind g) := by
  intro a b
  show ((Map.mergeWith m a b).get k).bind g = mergePtr n ((a.get k).bind g) ((b.get k).bind g)
  rw [← h.ptr, Map.get_mergeWith]
  cases a.get k <;> cases b.get k <;> rfl

/-- A field of a record whose merge merges that field by `m`. -/
theorem comp {l : γ → γ → γ} (h : MergesAs m n g) (f : γ → α)
    (hf : ∀ a b, f (l a b) = m (f a) (f b)) : MergesAs l n (fun c => g (f c)) := by
  intro a b
  show g (f (l a b)) = _
  rw [hf]
  exact h _ _

end MergesAs

end Go
