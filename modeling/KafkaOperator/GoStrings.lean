import Mathlib.Tactic

/-! # Strings

`strings.Join` is `String.intercalate`.  A joined text is a context around each of its parts
(`intercalate_context`), so it changes whenever a part does; and its length is known
(`length_intercalate`), so it changes when parts are added.

Two parts joined by a separator can be read off the joined text only up to the ways in which the
separator fits into the text a second time (`append_sep_eq_iff`).  Parts that do not have the
separator are read off by splitting at it (`split_intercalate`, `cut_append`, `cutLast_append`).

Blocks of parts joined in one order or another give the same text exactly if each two of them do
(`intercalate_flatMap_perm_iff`). -/

namespace Go

/-- `strings.ToLower`, letter by letter. -/
def toLower (s : String) : String := String.ofList (s.toList.map Char.toLower)

theorem append_context_inj {p q a b : String} : p ++ a ++ q = p ++ b ++ q ↔ a = b := by
  rw [String.append_left_inj, String.append_right_inj]

theorem infix_of_eq_append {s t : String} (p q : String) (h : s = p ++ t ++ q) :
    t.toList <:+: s.toList :=
  ⟨p.toList, q.toList, by rw [h, String.toList_append, String.toList_append]⟩

/-- One part of a joined list stands in a context that does not depend on it. -/
theorem intercalate_context (sep : String) (xs ys : List String) :
    ∃ p q, ∀ t, sep.intercalate (xs ++ t :: ys) = p ++ t ++ q := by
  obtain ⟨q, hq⟩ : ∃ q, ∀ t, sep.intercalate (t :: ys) = t ++ q := by
    cases ys with
    | nil => exact ⟨"", fun t => by simp⟩
    | cons y ys =>
        refine ⟨sep ++ sep.intercalate (y :: ys), fun t => ?_⟩
        rw [String.intercalate_cons_cons, String.append_assoc]
  cases xs with
  | nil => exact ⟨"", q, fun t => by simpa using hq t⟩
  | cons x xs =>
      refine ⟨sep.intercalate (x :: xs) ++ sep, q, fun t => ?_⟩
      rw [String.intercalate_append_of_ne_nil (by simp) (by simp), hq, ← String.append_assoc]

theorem length_intercalate_cons (sep x : String) (l : List String) :
    (sep.intercalate (x :: l)).length =
      x.length + (l.map (fun y => sep.length + y.length)).sum := by
  induction l generalizing x with
  | nil => simp
  | cons y l ih =>
      rw [String.intercalate_cons_cons, String.length_append, String.length_append, ih y]
      simp only [List.map_cons, List.sum_cons]
      omega

/-- Every part adds its length and that of one separator. -/
theorem length_intercalate (sep : String) (l : List String) :
    (sep.intercalate l).length = (l.map (fun y => sep.length + y.length)).sum - sep.length := by
  cases l with
  | nil => simp
  | cons x l =>
      rw [length_intercalate_cons, List.map_cons, List.sum_cons]
      omega

/-- Joining more parts gives another text, if the parts added are not empty. -/
theorem intercalate_ne_of_perm_append {sep : String} {xs ys zs : List String}
    (hperm : zs.Perm (xs ++ ys)) (hne : ys ≠ []) (hempty : "" ∉ ys) :
    sep.intercalate xs ≠ sep.intercalate zs := by
  intro heq
  have hsum := (hperm.map (fun y => sep.length + y.length)).sum_eq
  rw [List.map_append, List.sum_append] at hsum
  have hlen := congrArg String.length heq
  rw [length_intercalate, length_intercalate, hsum] at hlen
  obtain ⟨y, ys, rfl⟩ := List.exists_cons_of_ne_nil hne
  have hy : y.length ≠ 0 := by
    rw [Ne, String.length_eq_zero_iff]
    rintro rfl
    exact hempty (by simp)
  rw [List.map_cons, List.sum_cons] at hlen
  omega

/-! ### Endings -/

theorem suffix_of_append_eq {p s t : String} (h : p ++ s = t) : s.toList <:+ t.toList :=
  ⟨p.toList, by rw [← h, String.toList_append]⟩

/-- Texts with different endings differ. -/
theorem append_ne_append_of_not_suffix {s t : String} (hs : ¬ s.toList <:+ t.toList)
    (ht : ¬ t.toList <:+ s.toList) (p q : String) : p ++ s ≠ q ++ t := by
  intro he
  have hs' := suffix_of_append_eq he
  have ht' := suffix_of_append_eq (rfl : q ++ t = q ++ t)
  rcases List.suffix_or_suffix_of_suffix hs' ht' with h | h
  · exact hs h
  · exact ht h

theorem append_notMem_of_not_suffix {s : String} {l : List String}
    (h : ∀ t ∈ l, ¬ s.toList <:+ t.toList) (p : String) : p ++ s ∉ l :=
  fun hp => h _ hp (suffix_of_append_eq rfl)

/-! ### Two parts and a separator -/

theorem self_eq_append_iff {a b : String} : a = a ++ b ↔ b = "" := by
  rw [eq_comm, String.append_eq_left_iff]

/-- Two ways to cut one text: one left part extends the other. -/
theorem append_eq_append_iff {a b c d : String} :
    a ++ b = c ++ d ↔ (∃ t, c = a ++ t ∧ b = t ++ d) ∨ ∃ t, a = c ++ t ∧ d = t ++ b := by
  constructor
  · intro h
    have hlist := congrArg String.toList h
    rw [String.toList_append, String.toList_append, List.append_eq_append_iff] at hlist
    rcases hlist with ⟨l, hc, hb⟩ | ⟨l, ha, hd⟩
    · refine .inl ⟨String.ofList l, ?_, ?_⟩ <;> simpa [← String.toList_inj]
    · refine .inr ⟨String.ofList l, ?_, ?_⟩ <;> simpa [← String.toList_inj]
  · rintro (⟨t, rfl, rfl⟩ | ⟨t, rfl, rfl⟩) <;> simp [String.append_assoc]

/-- The text `a ++ s ++ b` is also `a' ++ s ++ b'`, with the separator further to the right: either
it is there twice, or its two places overlap in a text `v` that it starts and ends with. -/
def SepShift (s a b a' b' : String) : Prop :=
  (∃ t, a' = a ++ s ++ t ∧ b = t ++ s ++ b') ∨
    ∃ w v u, s = w ++ v ∧ s = v ++ u ∧ a' = a ++ w ∧ b = u ++ b'

theorem SepShift.append_eq {s a b a' b' : String} (h : SepShift s a b a' b') :
    a ++ s ++ b = a' ++ s ++ b' := by
  rcases h with ⟨t, rfl, rfl⟩ | ⟨w, v, u, hw, hu, rfl, rfl⟩
  · simp only [String.append_assoc]
  · calc a ++ s ++ (u ++ b') = a ++ w ++ (v ++ u) ++ b' := by rw [hw]; simp only [String.append_assoc]
      _ = a ++ w ++ s ++ b' := by rw [← hu]

/-- Where the left part is extended by `w`, the separator is shifted by it. -/
theorem SepShift.of_extends {s a b w b' : String} (h : s ++ b = w ++ (s ++ b')) :
    SepShift s a b (a ++ w) b' := by
  rcases append_eq_append_iff.mp h with ⟨t, rfl, rfl⟩ | ⟨v, hv, hb⟩
  · exact .inl ⟨t, (String.append_assoc ..).symm, (String.append_assoc ..).symm⟩
  · rcases append_eq_append_iff.mp hb with ⟨u, rfl, rfl⟩ | ⟨u, hu, rfl⟩
    · -- the separator is longer than its own part `s ++ u` only if it is not shifted at all
      have hlen := congrArg String.length hv
      simp only [String.length_append] at hlen
      obtain rfl : u = "" := String.length_eq_zero_iff.mp (by omega)
      exact .inr ⟨w, s ++ "", "", hv, by simp, rfl, by simp⟩
    · exact .inr ⟨w, v, u, hv, hu, rfl, rfl⟩

/-- **Reading two parts off a joined text**: it determines them up to a shift of the separator. -/
theorem append_sep_eq_iff {s a b a' b' : String} :
    a ++ s ++ b = a' ++ s ++ b' ↔ SepShift s a b a' b' ∨ SepShift s a' b' a b := by
  constructor
  · intro h
    rw [String.append_assoc, String.append_assoc] at h
    rcases append_eq_append_iff.mp h with ⟨w, rfl, hw⟩ | ⟨w, rfl, hw⟩
    · exact .inl (.of_extends hw)
    · exact .inr (.of_extends hw)
  · rintro (h | h)
    · exact h.append_eq
    · exact h.append_eq.symm

/-! ### Splitting -/

/-- `strings.Split` at a separator of one letter. -/
def split (sep : Char) (s : String) : List String := (s.toList.splitOn sep).map String.ofList

/-- Splitting undoes joining, if no part has the separator. -/
theorem split_intercalate {sep : Char} {l : List String} (hne : l ≠ [])
    (hsep : ∀ x ∈ l, sep ∉ x.toList) : split sep ((String.singleton sep).intercalate l) = l := by
  have hchars : ∀ x ∈ l.map String.toList, sep ∉ x := by
    intro x hx
    obtain ⟨y, hy, rfl⟩ := List.mem_map.mp hx
    exact hsep y hy
  rw [split, String.toList_intercalate, String.toList_singleton,
    List.splitOn_intercalate sep hchars (by simpa using hne), List.map_map]
  simp [Function.comp_def]

/-- The texts before and after the last occurrence of a letter. -/
def cutLast (sep : Char) (s : String) : Option (String × String) :=
  match s.toList.reverse.dropWhile (· != sep) with
  | [] => none
  | _ :: before => some (String.ofList before.reverse,
      String.ofList (s.toList.reverse.takeWhile (· != sep)).reverse)

/-- Cutting undoes appending, if the right part does not have the separator. -/
theorem cutLast_append {sep : Char} (a : String) {b : String} (hb : sep ∉ b.toList) :
    cutLast sep (a ++ String.singleton sep ++ b) = some (a, b) := by
  have hchars : (a ++ String.singleton sep ++ b).toList.reverse =
      b.toList.reverse ++ sep :: a.toList.reverse := by
    simp [String.toList_append]
  have hpos : ∀ c ∈ b.toList.reverse, (c != sep) = true := by
    intro c hc
    rw [bne_iff_ne]
    rintro rfl
    exact hb (List.mem_reverse.mp hc)
  unfold cutLast
  rw [hchars, List.dropWhile_append_of_pos hpos, List.takeWhile_append_of_pos hpos]
  simp

/-- The letters before and after the first occurrence of a text. -/
def cutList (sep : List Char) : List Char → Option (List Char × List Char)
  | [] => if sep = [] then some ([], []) else none
  | c :: cs =>
      if sep.isPrefixOf (c :: cs) then some ([], (c :: cs).drop sep.length)
      else (cutList sep cs).map (fun p => (c :: p.1, p.2))

/-- `strings.Cut`: the texts before and after the first occurrence of `sep`. -/
def cut (sep s : String) : Option (String × String) :=
  (cutList sep.toList s.toList).map (fun p => (String.ofList p.1, String.ofList p.2))

theorem cutList_append {c : Char} {a : List Char} (ha : c ∉ a) (sep b : List Char) :
    cutList (c :: sep) (a ++ (c :: sep ++ b)) = some (a, b) := by
  induction a with
  | nil => simp [cutList]
  | cons x a ih =>
      rw [List.mem_cons, not_or] at ha
      have hx : (c :: sep).isPrefixOf (x :: (a ++ (c :: sep ++ b))) = false := by
        rw [List.isPrefixOf_cons_cons, beq_false_of_ne ha.1, Bool.false_and]
      rw [List.cons_append, cutList, hx, if_neg Bool.false_ne_true, ih ha.2, Option.map_some]

/-- Cutting at a text undoes appending, if the left part does not have its first letter. -/
theorem cut_append {sep a : String} {c : Char} {rest : List Char} (hsep : sep.toList = c :: rest)
    (ha : c ∉ a.toList) (b : String) : cut sep (a ++ sep ++ b) = some (a, b) := by
  rw [cut, String.toList_append, String.toList_append, List.append_assoc, hsep, cutList_append ha,
    Option.map_some, String.ofList_toList, String.ofList_toList]

/-! ### Paths -/

/-- One element of a path that `path.Clean` reads, after the elements `done`, the last one first. -/
def cleanElement (rooted : Bool) (done : List String) (e : String) : List String :=
  if e = "" ∨ e = "." then done
  else if e = ".." then match done with
    | [] => if rooted then [] else [".."]
    | last :: rest => if last = ".." then ".." :: done else rest
  else e :: done

def isRooted (path : String) : Bool := path.toList.head? == some '/'

/-- The elements of a path after `path.Clean`. -/
def cleanElements (path : String) : List String :=
  ((split '/' path).foldl (cleanElement (isRooted path)) []).reverse

/-- `path.Join dir file`, for a `file` in which there is nothing to clean. -/
def pathJoin (dir file : String) : String :=
  (if isRooted dir then "/" else "") ++ "/".intercalate (cleanElements dir ++ [file])

theorem pathJoin_context (dir : String) : ∃ p, ∀ file, pathJoin dir file = p ++ file := by
  unfold pathJoin
  cases cleanElements dir with
  | nil => exact ⟨_, fun file => by rw [List.nil_append, String.intercalate_singleton]⟩
  | cons e es =>
      refine ⟨(if isRooted dir then "/" else "") ++ ("/".intercalate (e :: es) ++ "/"), fun file => ?_⟩
      rw [String.intercalate_append_of_ne_nil (by simp) (by simp), String.intercalate_singleton]
      simp only [String.append_assoc]

/-- A directory that is clean is only continued. -/
theorem pathJoin_of_clean {dir : String} (h : pathJoin dir "" = dir ++ "/") (file : String) :
    pathJoin dir file = dir ++ "/" ++ file := by
  obtain ⟨p, hp⟩ := pathJoin_context dir
  rw [hp, ← h, hp, String.append_empty]

/-- Reading each element of a list back from its text gives the list. -/
theorem mapM_map_eq_some {α β : Type} {f : α → Option β} {g : β → α} {l : List β}
    (h : ∀ b ∈ l, f (g b) = some b) : (l.map g).mapM f = some l := by
  induction l with
  | nil => rfl
  | cons b l ih =>
      rw [List.map_cons, List.mapM_cons, h b List.mem_cons_self,
        ih (fun x hx => h x (List.mem_cons_of_mem _ hx))]
      rfl

/-- The letters of a natural number. -/
theorem isDigit_of_mem_repr {n : ℕ} {c : Char} (hc : c ∈ n.repr.toList) : c.isDigit := by
  rw [Nat.toList_repr] at hc
  exact Nat.isDigit_of_mem_toDigits (by decide) (by decide) hc

/-- The letters of a number. -/
theorem isDigit_of_mem_toString {p : ℤ} {c : Char} (hc : c ∈ (toString p).toList) :
    c.isDigit ∨ c = '-' := by
  cases p with
  | ofNat n => exact .inl (isDigit_of_mem_repr hc)
  | negSucc n =>
      have hlist : (toString (Int.negSucc n)).toList = '-' :: (n + 1).repr.toList :=
        String.toList_append
      rw [hlist, List.mem_cons] at hc
      rcases hc with rfl | hc
      · exact .inr rfl
      · exact .inl (isDigit_of_mem_repr hc)

/-! ### The order of joined parts -/

section Order

variable {sep : String} {x z z' : List String}

/-- Parts can be exchanged for others in front of the same rest exactly if they give the same
text. -/
theorem intercalate_append_left_inj (hnil : z = [] ↔ z' = []) :
    sep.intercalate (z ++ x) = sep.intercalate (z' ++ x) ↔ sep.intercalate z = sep.intercalate z' := by
  by_cases hz : z = []
  · rw [hz, hnil.mp hz]
    exact iff_of_true rfl rfl
  · by_cases hx : x = []
    · rw [hx, List.append_nil, List.append_nil]
    · rw [String.intercalate_append_of_ne_nil hz hx,
        String.intercalate_append_of_ne_nil (mt hnil.mpr hz) hx, String.append_left_inj,
        String.append_left_inj]

theorem intercalate_append_right_inj (hnil : z = [] ↔ z' = []) :
    sep.intercalate (x ++ z) = sep.intercalate (x ++ z') ↔ sep.intercalate z = sep.intercalate z' := by
  by_cases hz : z = []
  · rw [hz, hnil.mp hz]
    exact iff_of_true rfl rfl
  · by_cases hx : x = []
    · rw [hx, List.nil_append, List.nil_append]
    · rw [String.intercalate_append_of_ne_nil hx hz,
        String.intercalate_append_of_ne_nil hx (mt hnil.mpr hz), String.append_right_inj]

variable {α : Type} {f : α → List String} {l l' : List α}

/-- The blocks of two values give the same text in both orders. -/
def JoinCommute (sep : String) (f : α → List String) (a b : α) : Prop :=
  sep.intercalate (f a ++ f b) = sep.intercalate (f b ++ f a)

theorem append_nil_comm {a b : List String} : a ++ b = [] ↔ b ++ a = [] := by
  simp [and_comm]

theorem intercalate_flatMap_perm (hperm : l.Perm l') (hl : l.Pairwise (JoinCommute sep f)) :
    sep.intercalate (l.flatMap f) = sep.intercalate (l'.flatMap f) := by
  induction hperm with
  | nil => rfl
  | @cons a l₁ l₂ hperm ih =>
      have hnil : l₁.flatMap f = [] ↔ l₂.flatMap f = [] := by
        rw [← List.length_eq_zero_iff, ← List.length_eq_zero_iff, (hperm.flatMap_right f).length_eq]
      rw [List.flatMap_cons, List.flatMap_cons, intercalate_append_right_inj hnil]
      exact ih (List.pairwise_cons.mp hl).2
  | swap a b l =>
      rw [List.pairwise_cons, List.pairwise_cons] at hl
      have hcomm := hl.1 a List.mem_cons_self
      simp only [List.flatMap_cons, ← List.append_assoc]
      exact (intercalate_append_left_inj append_nil_comm).mpr hcomm
  | trans h₁ h₂ ih₁ ih₂ =>
      have hsymm : ∀ {a b : α}, JoinCommute sep f a b → JoinCommute sep f b a := Eq.symm
      exact (ih₁ hl).trans (ih₂ ((h₁.pairwise_iff hsymm).mp hl))

/-- **The text does not depend on the order of the blocks** exactly if it does not for any two of
them. -/
theorem intercalate_flatMap_perm_iff :
    (∀ l' : List α, l'.Perm l → sep.intercalate (l'.flatMap f) = sep.intercalate (l.flatMap f)) ↔
      l.Pairwise (JoinCommute sep f) := by
  constructor
  · intro hall
    rw [List.pairwise_iff_forall_sublist]
    intro a b hab
    -- bring the two to the front, in either order
    obtain ⟨rest, hperm⟩ := hab.exists_perm_append
    have heq := (hall _ hperm.symm).trans (hall _ ((List.Perm.swap a b rest).trans hperm.symm)).symm
    simp only [List.cons_append, List.nil_append, List.flatMap_cons, ← List.append_assoc] at heq
    exact (intercalate_append_left_inj append_nil_comm).mp heq
  · intro hl l' hperm
    exact (intercalate_flatMap_perm hperm.symm hl).symm

end Order

end Go
