import Mathlib.Data.Finset.Basic
import Mathlib.Data.List.Nodup
import Mathlib.Tactic

/-! # Go maps

`Map κ ν` is a finite map: a lookup function together with the finite set of its keys, so
two maps with the same lookups are equal (`Map.ext_get`).  A nil map is `none` at type
`Option (Map κ ν)`.

`for k, v := range m` visits the entries of `m` once each in an order that Go leaves open;
`Ranges m l` says that the list `l` is such an order, and an `Order` chooses one for every
map.  A loop over a map is a fold over a list `l`, and a result about it holds for every `l`
with `Ranges m l`: `get_copy` and `get_fill` compute the two loops that write the visited
entries into another map, one overwriting what is there and one keeping it. -/

namespace Go

variable {κ ν : Type} [DecidableEq κ]

/-- A finite map with keys in `κ` and values in `ν`. -/
structure Map (κ ν : Type) where
  get : κ → Option ν
  keys : Finset κ
  mem_keys : ∀ k, k ∈ keys ↔ (get k).isSome

namespace Map

omit [DecidableEq κ] in
/-- Maps are equal when they bind the same keys to the same values. -/
@[ext] theorem ext_get {a b : Map κ ν} (h : ∀ k, a.get k = b.get k) : a = b := by
  obtain ⟨f, s, hs⟩ := a
  obtain ⟨g, t, ht⟩ := b
  obtain rfl : f = g := funext h
  obtain rfl : s = t := Finset.ext (fun k => (hs k).trans (ht k).symm)
  rfl

def empty : Map κ ν := ⟨fun _ => none, ∅, by simp⟩

/-- `m[k] = v`. -/
def set (m : Map κ ν) (k : κ) (v : ν) : Map κ ν where
  get k' := if k' = k then some v else m.get k'
  keys := insert k m.keys
  mem_keys k' := by
    by_cases h : k' = k <;> simp [h, m.mem_keys]

/-- `delete(m, k)`. -/
def erase (m : Map κ ν) (k : κ) : Map κ ν where
  get k' := if k' = k then none else m.get k'
  keys := m.keys.erase k
  mem_keys k' := by
    by_cases h : k' = k <;> simp [h, m.mem_keys]

/-- The map literal with the given entries; a later entry wins. -/
def ofList (l : List (κ × ν)) : Map κ ν := l.foldl (fun m e => m.set e.1 e.2) empty

/-- The same keys, with every value replaced. -/
def map {μ : Type} (f : ν → μ) (m : Map κ ν) : Map κ μ where
  get k := (m.get k).map f
  keys := m.keys
  mem_keys k := by rw [m.mem_keys, Option.isSome_map]

/-- The entries whose values `f` keeps. -/
def filterMap {μ : Type} (f : ν → Option μ) (m : Map κ ν) : Map κ μ where
  get k := (m.get k).bind f
  keys := m.keys.filter (fun k => ((m.get k).bind f).isSome)
  mem_keys k := by
    rw [Finset.mem_filter, m.mem_keys]
    cases m.get k <;> simp

/-- Key by key merge: `f` where both maps bind the key. -/
def mergeWith (f : ν → ν → ν) (a b : Map κ ν) : Map κ ν where
  get k := match a.get k, b.get k with
    | some v, some w => some (f v w)
    | some v, none => some v
    | none, y => y
  keys := a.keys ∪ b.keys
  mem_keys k := by
    rw [Finset.mem_union, a.mem_keys, b.mem_keys]
    cases a.get k <;> cases b.get k <;> simp

instance [DecidableEq ν] : DecidableEq (Map κ ν) := fun a b =>
  decidable_of_iff (a.keys = b.keys ∧ ∀ k ∈ a.keys, a.get k = b.get k) (by
    constructor
    · rintro ⟨hkeys, hget⟩
      ext1 k
      by_cases hk : k ∈ a.keys
      · exact hget k hk
      · have ha := mt (a.mem_keys k).mpr hk
        have hb := mt (b.mem_keys k).mpr (hkeys ▸ hk)
        rw [Option.not_isSome_iff_eq_none.mp ha, Option.not_isSome_iff_eq_none.mp hb]
    · rintro rfl
      exact ⟨rfl, fun _ _ => rfl⟩)

omit [DecidableEq κ] in
@[simp] theorem get_empty (k : κ) : (empty : Map κ ν).get k = none := rfl

@[simp] theorem get_set (m : Map κ ν) (k k' : κ) (v : ν) :
    (m.set k v).get k' = if k' = k then some v else m.get k' := rfl

@[simp] theorem get_erase (m : Map κ ν) (k k' : κ) :
    (m.erase k).get k' = if k' = k then none else m.get k' := rfl

omit [DecidableEq κ] in
@[simp] theorem get_map {μ : Type} (f : ν → μ) (m : Map κ ν) (k : κ) :
    (m.map f).get k = (m.get k).map f := rfl

omit [DecidableEq κ] in
@[simp] theorem get_filterMap {μ : Type} (f : ν → Option μ) (m : Map κ ν) (k : κ) :
    (m.filterMap f).get k = (m.get k).bind f := rfl

theorem get_set_self (m : Map κ ν) (k : κ) (v : ν) : (m.set k v).get k = some v := by simp

theorem get_set_ne (m : Map κ ν) {k k' : κ} (v : ν) (h : k' ≠ k) :
    (m.set k v).get k' = m.get k' := by simp [h]

theorem get_mergeWith (f : ν → ν → ν) (a b : Map κ ν) (k : κ) :
    (mergeWith f a b).get k = match a.get k, b.get k with
      | some v, some w => some (f v w)
      | some v, none => some v
      | none, y => y := rfl

/-- The entries of `b`, and those of `a` for the other keys. -/
def overlay (a b : Map κ ν) : Map κ ν := mergeWith (fun _ y => y) a b

@[simp] theorem get_overlay (a b : Map κ ν) (k : κ) : (overlay a b).get k = (b.get k).or (a.get k) := by
  rw [overlay, get_mergeWith]
  cases a.get k <;> cases b.get k <;> rfl

/-! ### Ranging over a map -/

omit [DecidableEq κ] in
/-- `l` is an order in which `range` can visit the entries of `m`. -/
def Ranges (m : Map κ ν) (l : List (κ × ν)) : Prop :=
  (l.map Prod.fst).Nodup ∧ ∀ k v, (k, v) ∈ l ↔ m.get k = some v

omit [DecidableEq κ] in
theorem Ranges.perm {m : Map κ ν} {l l' : List (κ × ν)} (h : m.Ranges l) (hp : l.Perm l') :
    m.Ranges l' :=
  ⟨(hp.map Prod.fst).nodup_iff.mp h.1, fun k v => hp.mem_iff.symm.trans (h.2 k v)⟩

omit [DecidableEq κ] in
/-- Every map can be visited. -/
theorem exists_ranges (m : Map κ ν) : ∃ l, m.Ranges l := by
  classical
  let l := m.keys.toList.filterMap (fun k => (m.get k).map (fun v => (k, v)))
  refine ⟨l, ?_, ?_⟩
  · have hkeys : l.map Prod.fst = m.keys.toList.filter (fun k => (m.get k).isSome) := by
      show (m.keys.toList.filterMap _).map Prod.fst = _
      induction m.keys.toList with
      | nil => rfl
      | cons k ks ih => cases hk : m.get k <;> simp [hk, ih]
    rw [hkeys]
    exact (Finset.nodup_toList _).filter _
  · intro k v
    simp only [l, List.mem_filterMap, Finset.mem_toList, Option.map_eq_some_iff, Prod.mk.injEq]
    constructor
    · rintro ⟨k', _, v', hv, rfl, rfl⟩
      exact hv
    · intro hv
      exact ⟨k, (m.mem_keys k).mpr (by simp [hv]), v, hv, rfl, rfl⟩

/-- A choice of the order in which each map is visited. -/
structure Order (κ ν : Type) where
  list : Map κ ν → List (κ × ν)
  ranges : ∀ m : Map κ ν, m.Ranges (list m)

omit [DecidableEq κ] in
instance : Nonempty (Order κ ν) :=
  ⟨fun m => (exists_ranges m).choose, fun m => (exists_ranges m).choose_spec⟩

omit [DecidableEq κ] in
/-- Any entry can be visited first. -/
theorem exists_ranges_cons {m : Map κ ν} {k : κ} {v : ν} (h : m.get k = some v) :
    ∃ l, m.Ranges ((k, v) :: l) := by
  obtain ⟨l, hl⟩ := exists_ranges m
  obtain ⟨before, after, rfl⟩ := List.mem_iff_append.mp ((hl.2 k v).mpr h)
  exact ⟨before ++ after, hl.perm List.perm_middle⟩

omit [DecidableEq κ] in
/-- An order of one map is part of some choice for all maps. -/
theorem Order.exists_list {m : Map κ ν} {l : List (κ × ν)} (hl : m.Ranges l) :
    ∃ o : Order κ ν, o.list m = l := by
  classical
  obtain ⟨o⟩ : Nonempty (Order κ ν) := inferInstance
  refine ⟨⟨fun m' => if m' = m then l else o.list m', fun m' => ?_⟩, if_pos rfl⟩
  by_cases hm : m' = m
  · rw [if_pos hm, hm]
    exact hl
  · rw [if_neg hm]
    exact o.ranges m'

/-- `maps.Copy`: assign every visited entry. -/
def copy (dst : Map κ ν) (l : List (κ × ν)) : Map κ ν := l.foldl (fun m e => m.set e.1 e.2) dst

/-- Assign the visited entries whose key is not there yet. -/
def fill (dst : Map κ ν) (l : List (κ × ν)) : Map κ ν :=
  l.foldl (fun m e => if (m.get e.1).isSome then m else m.set e.1 e.2) dst

/-- A visited entry that is the only one for its key is the one found. -/
theorem get_copy_list (l : List (κ × ν)) (hl : (l.map Prod.fst).Nodup) (dst : Map κ ν) (k : κ) :
    (dst.copy l).get k = ((l.find? (fun e => e.1 = k)).map Prod.snd).or (dst.get k) := by
  induction l generalizing dst with
  | nil => rfl
  | cons e l ih =>
      obtain ⟨k', v'⟩ := e
      simp only [List.map_cons, List.nodup_cons] at hl
      show ((dst.set k' v').copy l).get k = _
      rw [ih hl.2, get_set]
      by_cases hk : k = k'
      · subst hk
        have hnone : l.find? (fun e => e.1 = k) = none := by
          simp only [List.find?_eq_none, decide_eq_true_eq]
          intro e he hek
          exact hl.1 (List.mem_map.mpr ⟨e, he, hek⟩)
        simp [hnone]
      · simp [hk, Ne.symm hk]

theorem get_fill_list (l : List (κ × ν)) (hl : (l.map Prod.fst).Nodup) (dst : Map κ ν) (k : κ) :
    (dst.fill l).get k = (dst.get k).or ((l.find? (fun e => e.1 = k)).map Prod.snd) := by
  induction l generalizing dst with
  | nil => simp [fill]
  | cons e l ih =>
      obtain ⟨k', v'⟩ := e
      simp only [List.map_cons, List.nodup_cons] at hl
      show ((if (dst.get k').isSome then dst else dst.set k' v').fill l).get k = _
      rw [ih hl.2]
      by_cases hk : k = k'
      · subst hk
        cases hd : dst.get k with
        | none => simp
        | some w => simp [hd]
      · cases hd : dst.get k' <;> simp [hk, Ne.symm hk]

omit [DecidableEq κ] in
/-- Looking a key up in a visiting order is looking it up in the map. -/
theorem Ranges.find [DecidableEq κ] {m : Map κ ν} {l : List (κ × ν)} (h : m.Ranges l) (k : κ) :
    (l.find? (fun e => e.1 = k)).map Prod.snd = m.get k := by
  cases hf : l.find? (fun e => e.1 = k) with
  | none =>
      cases hm : m.get k with
      | none => rfl
      | some v =>
          have := List.find?_eq_none.mp hf (k, v) ((h.2 k v).mpr hm)
          simp at this
  | some e =>
      have hk : e.1 = k := by simpa using List.find?_some hf
      have hmem := List.mem_of_find?_eq_some hf
      obtain ⟨k', v⟩ := e
      subst hk
      simpa using ((h.2 k' v).mp hmem).symm

/-- A map literal can be visited in the order of its entries. -/
theorem ranges_ofList {l : List (κ × ν)} (hl : (l.map Prod.fst).Nodup) : (ofList l).Ranges l := by
  refine ⟨hl, fun k v => ?_⟩
  have hget : (ofList l).get k = (l.find? (fun e => e.1 = k)).map Prod.snd := by
    have := get_copy_list l hl empty k
    rw [get_empty, Option.or_none] at this
    exact this
  rw [hget]
  constructor
  · intro hmem
    obtain ⟨e, he⟩ := Option.isSome_iff_exists.mp
      (List.find?_isSome.mpr ⟨(k, v), hmem, by simp⟩ : (l.find? (fun e => e.1 = k)).isSome)
    have hek : e.1 = k := by simpa using List.find?_some he
    have := List.inj_on_of_nodup_map hl (List.mem_of_find?_eq_some he) hmem hek
    simp [he, this]
  · intro hfind
    obtain ⟨e, he, rfl⟩ := Option.map_eq_some_iff.mp hfind
    have hek : e.1 = k := by simpa using List.find?_some he
    exact hek ▸ List.mem_of_find?_eq_some he

theorem get_copy {src : Map κ ν} {l : List (κ × ν)} (h : src.Ranges l) (dst : Map κ ν) (k : κ) :
    (dst.copy l).get k = (src.get k).or (dst.get k) := by
  rw [get_copy_list l h.1, h.find]

theorem get_fill {src : Map κ ν} {l : List (κ × ν)} (h : src.Ranges l) (dst : Map κ ν) (k : κ) :
    (dst.fill l).get k = (dst.get k).or (src.get k) := by
  rw [get_fill_list l h.1, h.find]

end Map

end Go
