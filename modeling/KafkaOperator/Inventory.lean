import KafkaOperator.GoMap
import KafkaOperator.GoOutcome

/-! # Inventories

What an API server holds, as its clients see it: objects, each stored under the key that is read
off the object itself.  `Inventory key` carries that as an invariant, so an object is never found
under a key that is not its own.

A client ensures an object with `createOrUpdate`: it creates the object where there is none, and
otherwise writes it over the one that is there, unless that changes nothing.  What an update keeps
of the old object (a status that others write) is a parameter, `Update`.  `Holds` says that an
object needs no write; `createOrUpdate_cases` says once what a call can do, and the other facts
about it follow from that. -/

namespace Go

variable {κ ω : Type} [DecidableEq κ] {key : ω → κ}

omit [DecidableEq κ] in
/-- Objects, each under its own key. -/
structure Inventory (key : ω → κ) where
  objects : Map κ ω
  keyed : ∀ k o, objects.get k = some o → key o = k

namespace Inventory

def empty : Inventory key := ⟨Map.empty, by simp⟩

omit [DecidableEq κ] in
/-- The object stored under a key. -/
def get (s : Inventory key) (k : κ) : Option ω := s.objects.get k

/-- Store an object under its key. -/
def put (s : Inventory key) (o : ω) : Inventory key where
  objects := s.objects.set (key o) o
  keyed k v h := by
    rw [Map.get_set] at h
    split at h
    · next hk => rw [← Option.some.inj h, hk]
    · exact s.keyed k v h

/-- Remove what is stored under a key. -/
def remove (s : Inventory key) (k : κ) : Inventory key where
  objects := s.objects.erase k
  keyed k' v h := by
    rw [Map.get_erase] at h
    split at h
    · cases h
    · exact s.keyed k' v h

/-- Change the object stored under a key, if there is one. -/
def modify (s : Inventory key) (k : κ) (f : ω → ω) : Inventory key :=
  match s.get k with
  | none => s
  | some o => s.put (f o)

omit [DecidableEq κ] in
@[simp] theorem get_empty (k : κ) : (empty : Inventory key).get k = none := rfl

omit [DecidableEq κ] in
theorem key_of_get {s : Inventory key} {k : κ} {o : ω} (h : s.get k = some o) : key o = k :=
  s.keyed k o h

theorem get_put (s : Inventory key) (o : ω) (k : κ) :
    (s.put o).get k = if k = key o then some o else s.get k := rfl

@[simp] theorem get_put_self (s : Inventory key) (o : ω) : (s.put o).get (key o) = some o := by
  rw [get_put, if_pos rfl]

theorem get_put_ne (s : Inventory key) {o : ω} {k : κ} (h : k ≠ key o) :
    (s.put o).get k = s.get k := by
  rw [get_put, if_neg h]

theorem get_remove (s : Inventory key) (k k' : κ) :
    (s.remove k).get k' = if k' = k then none else s.get k' := rfl

theorem get_modify {f : ω → ω} (hf : ∀ o, key (f o) = key o) (s : Inventory key) (k k' : κ) :
    (s.modify k f).get k' = if k' = k then (s.get k).map f else s.get k' := by
  unfold modify
  cases hget : s.get k with
  | none =>
      split_ifs with hk
      · rw [hk, hget, Option.map_none]
      · rfl
  | some o =>
      have hkey : key (f o) = k := (hf o).trans (key_of_get hget)
      rw [← hkey, get_put, hkey, Option.map_some]

omit [DecidableEq κ] in
/-- Inventories are equal when they hold the same objects. -/
@[ext] theorem ext_get {s t : Inventory key} (h : ∀ k, s.get k = t.get k) : s = t := by
  obtain ⟨m, hm⟩ := s
  obtain ⟨n, hn⟩ := t
  obtain rfl : m = n := Map.ext_get h
  rfl

end Inventory

/-! ### Ensuring an object -/

/-- What an update makes of a new object and the one that is there: an object of the same key, that
a second update leaves as it is. -/
structure Update (key : ω → κ) where
  merge : (new old : ω) → ω
  key_merge : ∀ o old, key (merge o old) = key o
  merge_merge : ∀ o old, merge o (merge o old) = merge o old
  merge_self : ∀ o, merge o o = o

namespace Inventory

variable (u : Update key)

/-- The object is there, and writing it over the one that is there changes nothing. -/
def Holds (o : ω) (s : Inventory key) : Prop := ∃ v, s.get (key o) = some v ∧ u.merge o v = v

variable [DecidableEq ω]

/-- Create the object, or update the one that is there; the flag says that something was
written. -/
def createOrUpdate (o : ω) (s : Inventory key) : Bool × Inventory key :=
  match s.get (key o) with
  | none => (true, s.put o)
  | some old => if u.merge o old = old then (false, s) else (true, s.put (u.merge o old))

variable {u} {o : ω} {s : Inventory key}

/-- **What a call can do**: nothing, if the object holds already, or write one object of its key
that then holds. -/
theorem createOrUpdate_cases (u : Update key) (o : ω) (s : Inventory key) :
    (s.Holds u o ∧ s.createOrUpdate u o = (false, s)) ∨
    (¬ s.Holds u o ∧ ∃ v, key v = key o ∧ u.merge o v = v ∧
      (v = o ∨ ∃ old, s.get (key o) = some old ∧ v = u.merge o old) ∧
      s.createOrUpdate u o = (true, s.put v)) := by
  unfold createOrUpdate Holds
  cases hget : s.get (key o) with
  | none => exact .inr ⟨by simp, o, rfl, u.merge_self o, .inl rfl, rfl⟩
  | some old =>
      by_cases hold : u.merge o old = old
      · exact .inl ⟨⟨old, rfl, hold⟩, if_pos hold⟩
      · refine .inr ⟨?_, u.merge o old, u.key_merge o old, u.merge_merge o old,
          .inr ⟨old, rfl, rfl⟩, if_neg hold⟩
        rintro ⟨v, hv, hmerge⟩
        obtain rfl := Option.some.inj hv
        exact hold hmerge

theorem createOrUpdate_of_holds (h : s.Holds u o) : s.createOrUpdate u o = (false, s) := by
  rcases createOrUpdate_cases u o s with ⟨-, heq⟩ | ⟨hnot, -⟩
  · exact heq
  · exact absurd h hnot

/-- Nothing is written exactly if the object holds. -/
theorem createOrUpdate_fst : (s.createOrUpdate u o).1 = false ↔ s.Holds u o := by
  rcases createOrUpdate_cases u o s with ⟨hold, heq⟩ | ⟨hnot, v, -, -, -, heq⟩
  · simp [heq, hold]
  · simp [heq, hnot]

/-- After a call the object holds. -/
theorem holds_createOrUpdate : (s.createOrUpdate u o).2.Holds u o := by
  rcases createOrUpdate_cases u o s with ⟨hold, heq⟩ | ⟨-, v, hkey, hmerge, -, heq⟩
  · rwa [heq]
  · rw [heq]
    exact ⟨v, by rw [← hkey, get_put_self], hmerge⟩

/-- The state after a call is the old one, or has one more write of the object's key. -/
theorem createOrUpdate_snd (u : Update key) (o : ω) (s : Inventory key) :
    (s.createOrUpdate u o).2 = s ∨
      ∃ v, key v = key o ∧ (s.createOrUpdate u o).2 = s.put v := by
  rcases createOrUpdate_cases u o s with ⟨-, heq⟩ | ⟨-, v, hkey, -, -, heq⟩
  · exact .inl (by rw [heq])
  · exact .inr ⟨v, hkey, by rw [heq]⟩

/-- **Frame**: no other object changes. -/
theorem get_createOrUpdate_ne {k : κ} (h : k ≠ key o) : (s.createOrUpdate u o).2.get k = s.get k := by
  rcases createOrUpdate_snd u o s with heq | ⟨v, hkey, heq⟩
  · rw [heq]
  · rw [heq, get_put_ne s (by rwa [hkey])]

/-- Nothing is ever removed. -/
theorem isSome_createOrUpdate {k : κ} (h : (s.get k).isSome) :
    ((s.createOrUpdate u o).2.get k).isSome := by
  rcases createOrUpdate_snd u o s with heq | ⟨v, hkey, heq⟩
  · rwa [heq]
  · rw [heq, get_put]
    split
    · rfl
    · exact h

end Inventory

/-! ### What an update sees -/

section Spec

variable {τ : Type} {u : Update key} {spec : ω → τ} {o : ω} {s : Inventory key} {k : κ}

omit [DecidableEq κ] in
/-- An update compares and sets the part `spec` of an object, and no other. -/
structure Update.Sets (u : Update key) (spec : ω → τ) : Prop where
  spec_merge : ∀ o old, spec (u.merge o old) = spec o
  merge_eq_iff : ∀ o old, u.merge o old = old ↔ spec o = spec old

namespace Inventory

omit [DecidableEq κ] in
/-- The part `spec` of the object stored under a key. -/
def specAt (spec : ω → τ) (s : Inventory key) (k : κ) : Option τ := (s.get k).map spec

theorem specAt_remove (s : Inventory key) (k k' : κ) :
    (s.remove k).specAt spec k' = if k' = k then none else s.specAt spec k' := by
  unfold specAt
  rw [get_remove]
  split_ifs <;> rfl

/-- A change of the other parts of an object is not seen. -/
theorem specAt_modify {f : ω → ω} (hkey : ∀ o, key (f o) = key o) (hspec : ∀ o, spec (f o) = spec o)
    (s : Inventory key) (k k' : κ) : (s.modify k f).specAt spec k' = s.specAt spec k' := by
  unfold specAt
  rw [get_modify hkey]
  split_ifs with hk
  · subst hk
    cases s.get k' with
    | none => rfl
    | some o => simp [hspec]
  · rfl

omit [DecidableEq κ] in
theorem holds_iff_specAt (hu : u.Sets spec) :
    s.Holds u o ↔ s.specAt spec (key o) = some (spec o) := by
  unfold Holds specAt
  rw [Option.map_eq_some_iff]
  exact exists_congr (fun v => and_congr_right (fun _ => (hu.merge_eq_iff o v).trans eq_comm))

variable [DecidableEq ω]

/-- A write sets the part under its key, whatever else is kept of the old object. -/
theorem specAt_createOrUpdate (hu : u.Sets spec) (o : ω) (s : Inventory key) (k : κ) :
    (s.createOrUpdate u o).2.specAt spec k =
      if k = key o then some (spec o) else s.specAt spec k := by
  split_ifs with hk
  · subst hk
    exact (holds_iff_specAt hu).mp holds_createOrUpdate
  · unfold specAt
    rw [get_createOrUpdate_ne hk]

/-- Whether something is written depends on that part. -/
theorem createOrUpdate_fst_congr (hu : u.Sets spec) {t : Inventory key}
    (h : s.specAt spec (key o) = t.specAt spec (key o)) :
    (s.createOrUpdate u o).1 = (t.createOrUpdate u o).1 := by
  have hiff : (s.createOrUpdate u o).1 = false ↔ (t.createOrUpdate u o).1 = false := by
    rw [createOrUpdate_fst, createOrUpdate_fst, holds_iff_specAt hu, holds_iff_specAt hu, h]
  cases hs : (s.createOrUpdate u o).1 with
  | false => exact (hiff.mp hs).symm
  | true =>
      cases ht : (t.createOrUpdate u o).1 with
      | false => exact absurd (hiff.mpr ht) (by simp [hs])
      | true => rfl

end Inventory

end Spec

end Go
