import KafkaOperator.OperatorGo

/-! # What `MergeObject` returns

`MergeObject` is called with the role's object and a role group's object, each possibly nil.
The controller replaces a nil result by a new zero object, so it always goes on with an
object: `MergedAt` says which value it has, where it lives (the role's object itself, the
group's object itself, or a new one) and that no other object has changed. -/

namespace KafkaOperator

open Go

variable {π α : Type} [DecidableEq π]

/-- The value of the merged object, from the values of the role's and the group's. -/
inductive MergeValue (merge : α → α → Outcome α) (zero : α) : Option α → Option α → α → Prop where
  | zero : MergeValue merge zero none none zero
  | left (a : α) : MergeValue merge zero (some a) none a
  | right (b : α) : MergeValue merge zero none (some b) b
  | both {a b v : α} (h : merge a b = .ok v) : MergeValue merge zero (some a) (some b) v

/-- Where the merged object lives: an argument itself if it is the only one that is not nil and
the library shares it, and a new object otherwise. -/
inductive MergePlace (share : Bool) (role group : π) (s : Store π α) : Ref π → Prop where
  | role (a : α) (hshare : share = true) (hrole : s.given role = some a)
      (hgroup : s.given group = none) : MergePlace share role group s (.given role)
  | group (b : α) (hshare : share = true) (hrole : s.given role = none)
      (hgroup : s.given group = some b) : MergePlace share role group s (.given group)
  | fresh (n : ℕ) (hnew : s.read (.fresh n) = none)
      (hshare : share = true → ((s.given role).isSome ↔ (s.given group).isSome)) :
      MergePlace share role group s (.fresh n)

/-- From the store `s₀`, the merged object is `r` of the store `s`. -/
structure MergedAt (merge : α → α → Outcome α) (zero : α) (share : Bool) (role group : π)
    (s₀ : Store π α) (r : Ref π) (s : Store π α) : Prop where
  value : ∃ v, MergeValue merge zero (s₀.given role) (s₀.given group) v ∧ s.read r = some v
  place : MergePlace share role group s₀ r
  keeps : ∀ r' w, s₀.read r' = some w → s.read r' = some w
  given : s.given = s₀.given

/-- What `MergeObject` returns from `s₀`: nil if both arguments are, else the merged object. -/
def MergeResult (merge : α → α → Outcome α) (zero : α) (share : Bool) (role group : π)
    (s₀ : Store π α) (m : Option (Ref π)) (s : Store π α) : Prop :=
  (m = none ∧ s = s₀ ∧ s₀.given role = none ∧ s₀.given group = none) ∨
    ∃ r, m = some r ∧ MergedAt merge zero share role group s₀ r s

/-- `if x == nil { x = &T{} }`. -/
def orNew (r : Option (Ref π)) (zero : α) : Prog (Store π α) (Ref π) :=
  match r with
  | none => Prog.new zero
  | some p => pure p

omit [DecidableEq π] in
theorem mergedAt_alloc {merge : α → α → Outcome α} {zero v : α} {share : Bool} {role group : π}
    {s₀ : Store π α} (hv : MergeValue merge zero (s₀.given role) (s₀.given group) v)
    (hshare : share = true → ((s₀.given role).isSome ↔ (s₀.given group).isSome)) :
    MergedAt merge zero share role group s₀ s₀.next (s₀.alloc v) where
  value := ⟨v, hv, s₀.read_alloc_next v⟩
  place := .fresh _ s₀.read_next hshare
  keeps _ _ h := Store.read_alloc v h
  given := rfl

omit [DecidableEq π] in
/-- With one argument only: the argument itself, or a copy of it. -/
theorem mergeObject_one {E X : Prop} {merge : α → α → Outcome α} {zero v : α} {role group p : π}
    {s₀ : Store π α} (share : Bool) (hp : s₀.given p = some v)
    (hv : MergeValue merge zero (s₀.given role) (s₀.given group) v)
    (hplace : MergePlace true role group s₀ (.given p)) :
    Triple E X (fun s => s = s₀)
      (if share then pure (some (.given p)) else do
        let v ← Prog.load (some (.given p))
        let q ← Prog.new v
        pure (some q))
      (MergeResult merge zero share role group s₀) := by
  cases share with
  | true =>
      refine Triple.pure ?_
      rintro s rfl
      exact .inr ⟨_, rfl, ⟨v, hv, hp⟩, hplace, fun _ _ h => h, rfl⟩
  | false =>
      refine Triple.bind (Q := fun w s => s = s₀ ∧ w = v) (Triple.load ?_) (fun w => ?_)
      · rintro s rfl
        exact ⟨v, hp, rfl, rfl⟩
      refine Triple.bind (Q := fun q s => q = s₀.next ∧ s = s₀.alloc v) (Triple.new ?_)
        (fun q => Triple.pure ?_)
      · rintro s ⟨rfl, rfl⟩
        exact ⟨rfl, rfl⟩
      · rintro s ⟨rfl, rfl⟩
        exact .inr ⟨_, rfl, mergedAt_alloc hv (by simp)⟩

omit [DecidableEq π] in
/-- With both arguments: a new object that holds the library's merge of the two. -/
theorem mergeObject_both {E X : Prop} {merge : α → α → Outcome α}
    (hsafe : ∀ a b, (merge a b).Safe) (herr : ∀ a b e, merge a b = .err e → E) (zero : α)
    (share : Bool) {role group : π} {s₀ : Store π α} {a b : α} (hr : s₀.given role = some a)
    (hg : s₀.given group = some b) :
    Triple E X (fun s => s = s₀)
      (do
        let x ← Prog.load (some (.given role))
        let y ← Prog.load (some (.given group))
        let v ← Prog.lift (merge x y)
        let q ← Prog.new v
        pure (some q))
      (MergeResult merge zero share role group s₀) := by
  refine Triple.bind (Q := fun x s => s = s₀ ∧ x = a) (Triple.load ?_) (fun x => ?_)
  · rintro s rfl
    exact ⟨a, hr, rfl, rfl⟩
  refine Triple.bind (Q := fun y s => s = s₀ ∧ x = a ∧ y = b) (Triple.load ?_) (fun y => ?_)
  · rintro s ⟨rfl, rfl⟩
    exact ⟨b, hg, rfl, rfl, rfl⟩
  refine Triple.bind (Q := fun v s => s = s₀ ∧ merge a b = .ok v)
    (Triple.lift (fun hp => absurd hp (hsafe x y)) (herr x y) ?_) (fun v => ?_)
  · rintro s v ⟨rfl, rfl, rfl⟩ hv
    exact ⟨rfl, hv⟩
  refine Triple.bind (Q := fun q s => q = s₀.next ∧ s = s₀.alloc v ∧ merge a b = .ok v)
    (Triple.new ?_) (fun q => Triple.pure ?_)
  · rintro s ⟨rfl, hv⟩
    exact ⟨rfl, rfl, hv⟩
  · rintro s ⟨rfl, rfl, hv⟩
    exact .inr ⟨_, rfl, mergedAt_alloc (by rw [hr, hg]; exact .both hv) (by simp [hr, hg])⟩

omit [DecidableEq π] in
/-- `MergeObject` fails only if the library's merge of two objects does. -/
theorem mergeObject_spec {E X : Prop} {merge : α → α → Outcome α} (hsafe : ∀ a b, (merge a b).Safe)
    (herr : ∀ a b e, merge a b = .err e → E) (zero : α) (share : Bool) (role group : π)
    (s₀ : Store π α) :
    Triple E X (fun s => s = s₀) (mergeObject merge share (s₀.ptr role) (s₀.ptr group))
      (MergeResult merge zero share role group s₀) := by
  unfold mergeObject Store.ptr
  cases hr : s₀.given role with
  | none =>
      cases hg : s₀.given group with
      | none =>
          refine Triple.pure ?_
          rintro s rfl
          exact .inl ⟨rfl, rfl, hr, hg⟩
      | some b =>
          exact mergeObject_one share hg (by rw [hr, hg]; exact .right b) (.group b rfl hr hg)
  | some a =>
      cases hg : s₀.given group with
      | none =>
          exact mergeObject_one share hr (by rw [hr, hg]; exact .left a) (.role a rfl hr hg)
      | some b => exact mergeObject_both hsafe herr zero share hr hg

omit [DecidableEq π] in
/-- The call as the controller makes it, with the pointers that the store holds. -/
theorem mergeObject_ptr_spec {E X : Prop} {merge : α → α → Outcome α}
    (hsafe : ∀ a b, (merge a b).Safe) (herr : ∀ a b e, merge a b = .err e → E) (zero : α)
    (share : Bool) (role group : π) (s₀ : Store π α) :
    Triple E X (fun s => s = s₀)
      (fun s => mergeObject merge share (s.ptr role) (s.ptr group) s)
      (MergeResult merge zero share role group s₀) := by
  rintro s rfl
  exact mergeObject_spec hsafe herr zero share role group s s rfl

omit [DecidableEq π] in
theorem orNew_spec {E X : Prop} {merge : α → α → Outcome α} (zero : α) (share : Bool)
    (role group : π) (s₀ : Store π α) (m : Option (Ref π)) :
    Triple E X (MergeResult merge zero share role group s₀ m) (orNew m zero)
      (MergedAt merge zero share role group s₀) := by
  cases m with
  | none =>
      refine Triple.new ?_
      rintro s (⟨-, rfl, hr, hg⟩ | ⟨r, hr, -⟩)
      · exact mergedAt_alloc (by rw [hr, hg]; exact .zero) (by simp [hr, hg])
      · cases hr
  | some p =>
      refine Triple.pure ?_
      rintro s (⟨h, -⟩ | ⟨r, hr, h⟩)
      · cases h
      · obtain rfl := Option.some.inj hr
        exact h

/-! ### What both keep -/

section Keeps

variable {I : Store π α → Prop} (hI : ∀ s v, I s → I (s.alloc v))

include hI

omit [DecidableEq π] in
/-- `MergeObject` writes to no object. -/
theorem mergeObject_keeps (merge : α → α → Outcome α) (share : Bool) (l r : Option (Ref π)) :
    Prog.Keeps I (mergeObject merge share l r) := by
  have hnew : ∀ v, Prog.Keeps I (do let q ← Prog.new v; pure (some q) : Prog (Store π α) _) :=
    fun v => .bind (.new (fun s => hI s v)) (fun _ => .pure _)
  have hone : ∀ p : Ref π, Prog.Keeps I (if share then pure (some p) else do
      let v ← Prog.load (some p)
      let q ← Prog.new v
      pure (some q)) := by
    intro p
    cases share with
    | true => exact .pure _
    | false => exact .bind (.load _) hnew
  unfold mergeObject
  match l, r with
  | none, none => exact .pure _
  | some p, none => exact hone p
  | none, some q => exact hone q
  | some p, some q =>
      exact .bind (.load _) (fun _ => .bind (.load _) (fun _ => .bind (.lift _) hnew))

omit [DecidableEq π] in
theorem orNew_keeps (r : Option (Ref π)) (zero : α) : Prog.Keeps I (orNew r zero) := by
  cases r with
  | none => exact .new (fun s => hI s zero)
  | some p => exact .pure p

end Keeps

section All

variable {p : α → Prop}

omit [DecidableEq π] in
/-- `MergeObject` keeps what all objects have, if the library's merge of two objects has it. -/
theorem mergeObject_keeps_all {merge : α → α → Outcome α}
    (hmerge : ∀ a b v, p a → p b → merge a b = .ok v → p v) (share : Bool) (l r : Option (Ref π)) :
    Prog.Keeps (Store.All p) (mergeObject merge share l r) := by
  have hnew : ∀ v, p v →
      Prog.Keeps (Store.All p) (do let q ← Prog.new v; pure (some q) : Prog (Store π α) _) :=
    fun v hv => .bind (.new (fun s hs => hs.alloc hv)) (fun _ => .pure _)
  have hone : ∀ q : Ref π, Prog.Keeps (Store.All p) (if share then pure (some q) else do
      let v ← Prog.load (some q)
      let q ← Prog.new v
      pure (some q)) := by
    intro q
    cases share with
    | true => exact .pure _
    | false => exact .load_bind hnew
  unfold mergeObject
  match l, r with
  | none, none => exact .pure _
  | some a, none => exact hone a
  | none, some b => exact hone b
  | some a, some b =>
      refine .load_bind (fun x hx => .load_bind (fun y hy => ?_))
      cases hv : merge x y with
      | ok v => exact hnew v (hmerge x y v hx hy hv)
      | err e => exact fun s hs => hs
      | panic => exact fun s hs => hs

omit [DecidableEq π] in
theorem orNew_keeps_all (r : Option (Ref π)) {zero : α} (hzero : p zero) :
    Prog.Keeps (Store.All p) (orNew r zero) := by
  cases r with
  | none => exact .new (fun s hs => hs.alloc hzero)
  | some q => exact .pure q

end All

/-! ### Updating the merged object -/

/-- The merged object was updated in place: from `s₀`, the object `r` of `s` has a value that
`Post` relates to the merged value. -/
structure MergedInto (merge : α → α → Outcome α) (zero : α) (share : Bool) (role group : π)
    (Post : α → α → Prop) (s₀ : Store π α) (r : Ref π) (s : Store π α) : Prop where
  value : ∃ v w, MergeValue merge zero (s₀.given role) (s₀.given group) v ∧ Post v w ∧
    s.read r = some w
  place : MergePlace share role group s₀ r
  keeps : ∀ r' w, r' ≠ r → s₀.read r' = some w → s.read r' = some w
  absent : ∀ p, s₀.given p = none → s.given p = none

theorem MergedAt.write {merge : α → α → Outcome α} {zero : α} {share : Bool} {role group : π}
    {Post : α → α → Prop} {s₀ s : Store π α} {r : Ref π} {v w : α}
    (h : MergedAt merge zero share role group s₀ r s) (hv : s.read r = some v) (hw : Post v w) :
    MergedInto merge zero share role group Post s₀ r (s.write r w) where
  value := by
    obtain ⟨v', hm, hr⟩ := h.value
    obtain rfl := Option.some.inj (hr.symm.trans hv)
    exact ⟨v', w, hm, hw, Store.read_write_self w hv⟩
  place := h.place
  keeps r' w' hne hr' := by
    rw [Store.read_write_ne _ _ hne]
    exact h.keeps r' w' hr'
  absent p hp := by
    have hread : (s.write r w).read (.given p) = none := by
      rw [Store.read_write]
      have hs : s.read (.given p) = none := by
        show s.given p = none
        rw [h.given, hp]
      split_ifs with he
      · rw [← he, hs]
        rfl
      · exact hs
    exact hread

end KafkaOperator
