import KafkaOperator.Inventory

/-! # Control loops

A controller brings an inventory to a desired state in passes.  A pass ensures one object after
the other and stops early at an error, or where a result asks for another pass (`reconcileAll`);
the whole is then run again.

* `Prog.andThen` is the sequencing of such programs, an associative operation; a loop over appended
  lists is one loop after the other (`reconcileAll_append`).
* `Steps` is a reconcile before it is run, as a tree of the calls it makes, so that something else
  can happen between two of them.  A `Loop` is a function on such trees that is known by its laws
  alone; run without a break it is `reconcileAll` (`Steps.run_all`, `Loop.loop_map_all`).
* A `Task` is an object to ensure: its key, and what it should be in a given state.  A pass over
  tasks that are all up to date changes nothing (`reconcileAll_of_settled`), and where a write ends
  the pass, a pass with nothing left to do is one that meets this (`reconcileAll_eq_zero_iff`).
* `Layered` tasks can be ensured in their order: none is disturbed by a write of a later one.
  `settled_iterate` says that as many passes as there are tasks settle them, from every state and
  whether or not a write ends the pass.  Two tasks that want different objects under one key are
  never both up to date (`not_settled_of_conflict`). -/

namespace Go

variable {σ ι : Type}

/-! ### Sequences of reconciles -/

/-- What a reconcile asks for: nothing, or to be called again. -/
inductive Result where
  | zero
  | requeue
deriving DecidableEq, Repr

namespace Prog

/-- Go on with `m'` where `m` returns the zero result. -/
def andThen (m m' : Prog σ Result) : Prog σ Result := m >>= fun r => match r with
  | .zero => m'
  | .requeue => pure .requeue

variable {m m' m'' : Prog σ Result} {s s' : σ}

theorem andThen_of_zero (h : m s = (.ok .zero, s')) : m.andThen m' s = m' s' := by
  unfold andThen
  rw [bind_of_ok h]

/-- Any other end is the end of the sequence. -/
theorem andThen_of_ne (h : (m s).1 ≠ .ok .zero) : m.andThen m' s = m s := by
  unfold andThen
  rcases hm : m s with ⟨o, s'⟩
  rw [hm] at h
  match o, h with
  | .ok .requeue, _ => rw [bind_of_ok hm]; rfl
  | .err e, _ => rw [bind_of_err hm]
  | .panic, _ => rw [bind_of_panic hm]

theorem andThen_eq_zero {s'' : σ} : m.andThen m' s = (.ok .zero, s'') ↔
    ∃ s', m s = (.ok .zero, s') ∧ m' s' = (.ok .zero, s'') := by
  by_cases h : (m s).1 = .ok .zero
  · have hm : m s = (.ok .zero, (m s).2) := Prod.ext h rfl
    rw [andThen_of_zero hm]
    constructor
    · intro h'
      exact ⟨_, hm, h'⟩
    · rintro ⟨s', hs', h'⟩
      rwa [hs']
  · rw [andThen_of_ne h]
    constructor
    · intro h'
      exact absurd (congrArg Prod.fst h') h
    · rintro ⟨s', hs', -⟩
      exact absurd (congrArg Prod.fst hs') h

theorem andThen_assoc : (m.andThen m').andThen m'' = m.andThen (m'.andThen m'') := by
  funext s
  by_cases h : (m s).1 = .ok .zero
  · have hm : m s = (.ok .zero, (m s).2) := Prod.ext h rfl
    rw [andThen_of_zero hm]
    have hseq : m.andThen m' s = m' (m s).2 := andThen_of_zero hm
    by_cases h' : (m' (m s).2).1 = .ok .zero
    · have hm' : m' (m s).2 = (.ok .zero, (m' (m s).2).2) := Prod.ext h' rfl
      rw [andThen_of_zero hm', andThen_of_zero (hseq.trans hm')]
    · rw [andThen_of_ne h', andThen_of_ne (by rwa [hseq]), hseq]
  · have hseq : m.andThen m' s = m s := andThen_of_ne h
    rw [andThen_of_ne h, andThen_of_ne (by rwa [hseq]), hseq]

theorem Keeps.andThen {I : σ → Prop} (hm : Keeps I m) (hm' : Keeps I m') : Keeps I (m.andThen m') := by
  refine .bind hm (fun r => ?_)
  cases r with
  | zero => exact hm'
  | requeue => exact .pure _

end Prog

/-- Reconcile one after the other; an error, or a result that is not zero, ends the loop. -/
def reconcileAll (f : ι → Prog σ Result) : List ι → Prog σ Result
  | [] => pure .zero
  | i :: l => (f i).andThen (reconcileAll f l)

section Loop

variable (f : ι → Prog σ Result)

theorem reconcileAll_cons (i : ι) (l : List ι) :
    reconcileAll f (i :: l) = (f i).andThen (reconcileAll f l) := rfl

theorem reconcileAll_append (l l' : List ι) :
    reconcileAll f (l ++ l') = (reconcileAll f l).andThen (reconcileAll f l') := by
  induction l with
  | nil => rfl
  | cons i l ih => rw [List.cons_append, reconcileAll_cons, ih, reconcileAll_cons, Prog.andThen_assoc]

variable {f}

theorem reconcileAll_keeps {I : σ → Prop} {l : List ι} (h : ∀ i ∈ l, Prog.Keeps I (f i)) :
    Prog.Keeps I (reconcileAll f l) := by
  induction l with
  | nil => exact .pure _
  | cons i l ih =>
      exact (h i (by simp)).andThen (ih (fun j hj => h j (List.mem_cons_of_mem _ hj)))

/-- **The rule for loops that end with the zero result**: `I done` holds after the elements of
`done`, and every reconcile with the zero result carries it one element further. -/
theorem reconcileAll_zero_induction {l : List ι} {I : List ι → σ → Prop}
    (step : ∀ done i rest s s', l = done ++ i :: rest → I done s → f i s = (.ok .zero, s') →
      I (done ++ [i]) s') {s s' : σ} (start : I [] s)
    (h : reconcileAll f l s = (.ok .zero, s')) : I l s' := by
  have hrest : ∀ rest done s, l = done ++ rest → I done s →
      reconcileAll f rest s = (.ok .zero, s') → I l s' := by
    intro rest
    induction rest with
    | nil =>
        intro done s hl hI hrun
        obtain rfl : s = s' := congrArg Prod.snd hrun
        rwa [hl, List.append_nil]
    | cons i rest ih =>
        intro done s hl hI hrun
        obtain ⟨s₁, hi, hrun⟩ := Prog.andThen_eq_zero.mp hrun
        exact ih (done ++ [i]) s₁ (by simp [hl]) (step done i rest s s₁ hl hI hi) hrun
  exact hrest l [] s rfl start h

end Loop

/-! ### Loops as trees of calls -/

/-- A reconcile as the calls it makes: which resource is reconciled next can depend on how the ones
before it ended. -/
inductive Steps (ρ : Type) where
  | done (o : Outcome Result)
  | call (r : ρ) (next : Outcome Result → Steps ρ)

namespace Steps

variable {ρ : Type}

/-- All calls, one after the other and with nothing in between. -/
def run (f : ρ → Prog σ Result) : Steps ρ → Prog σ Result
  | done o, s => (o, s)
  | call r next, s => (next (f r s).1).run f (f r s).2

/-- A call whose result is that of the reconcile. -/
def single (r : ρ) : Steps ρ := call r done

/-- Go on with `m'` where `m` ends with the zero result. -/
def andThen : Steps ρ → Steps ρ → Steps ρ
  | done o, m' => if o = .ok .zero then m' else done o
  | call r next, m' => call r (fun o => (next o).andThen m')

/-- One call after the other; an error, or a result that is not zero, is the end. -/
def all : List ρ → Steps ρ
  | [] => done (.ok .zero)
  | r :: rs => (single r).andThen (all rs)

/-- The resource that is called first. -/
def first? : Steps ρ → Option ρ
  | done _ => none
  | call r _ => some r

/-- What is left once the first call has ended. -/
def resume (o : Outcome Result) : Steps ρ → Steps ρ
  | done o' => done o'
  | call _ next => next o

/-- The calls that are made while each ends with the zero result. -/
def todo : Steps ρ → List ρ
  | done _ => []
  | call r next => r :: (next (.ok .zero)).todo

/-- The calls are those of a list, up to the first that does not end with the zero result. -/
def InOrder (m : Steps ρ) : Prop := m.todo = [] ∨ m = all m.todo

variable {f : ρ → Prog σ Result} {m m' m'' : Steps ρ}

theorem all_cons (r : ρ) (rs : List ρ) :
    all (r :: rs) = call r (fun o => if o = .ok .zero then all rs else done o) := rfl

@[simp] theorem todo_all (rs : List ρ) : (all rs).todo = rs := by
  induction rs with
  | nil => rfl
  | cons r rs ih => rw [all_cons, todo, if_pos rfl, ih]

theorem inOrder_all (rs : List ρ) : (all rs).InOrder := .inr (by rw [todo_all])

theorem first?_eq (m : Steps ρ) : m.first? = m.todo.head? := by
  cases m <;> rfl

/-- After its first call a list of calls goes on with the others, or is at its end. -/
theorem InOrder.resume_eq (h : m.InOrder) {r : ρ} {rs : List ρ} (hm : m.todo = r :: rs)
    (o : Outcome Result) : m.resume o = if o = .ok .zero then all rs else done o := by
  rcases h with hnil | hall
  · rw [hnil] at hm
    cases hm
  · rw [hall, hm, all_cons]
    rfl

theorem InOrder.resume (h : m.InOrder) (o : Outcome Result) : (m.resume o).InOrder := by
  cases hm : m.todo with
  | nil => cases m with
    | done o' => exact .inl rfl
    | call r next => cases hm
  | cons r rs =>
      rw [h.resume_eq hm]
      split_ifs
      · exact inOrder_all rs
      · exact .inl rfl

theorem InOrder.todo_resume (h : m.InOrder) {r : ρ} {rs : List ρ} (hm : m.todo = r :: rs)
    (o : Outcome Result) : (m.resume o).todo = if o = .ok .zero then rs else [] := by
  rw [h.resume_eq hm]
  split_ifs
  · exact todo_all rs
  · rfl

theorem InOrder.todo_resume_sublist (h : m.InOrder) (o : Outcome Result) :
    (m.resume o).todo.Sublist m.todo := by
  cases hm : m.todo with
  | nil => cases m with
    | done o' => exact List.Sublist.refl _
    | call r next => cases hm
  | cons r rs =>
      rw [h.todo_resume hm]
      split_ifs
      · exact List.sublist_cons_self r rs
      · exact List.nil_sublist _

@[simp] theorem single_andThen_done (r : ρ) : (single r).andThen (done (.ok .zero)) = single r := by
  simp only [single, andThen, call.injEq, true_and]
  funext o
  split_ifs with ho
  · rw [ho]
  · rfl

theorem andThen_assoc : (m.andThen m').andThen m'' = m.andThen (m'.andThen m'') := by
  induction m with
  | done o =>
      simp only [andThen]
      split_ifs with ho
      · rfl
      · rw [andThen, if_neg ho]
  | call r next ih =>
      simp only [andThen, call.injEq, true_and]
      exact funext ih

theorem all_append (rs rs' : List ρ) : all (rs ++ rs') = (all rs).andThen (all rs') := by
  induction rs with
  | nil => rfl
  | cons r rs ih => rw [List.cons_append, all, ih, all, andThen_assoc]

theorem run_andThen : (m.andThen m').run f = (m.run f).andThen (m'.run f) := by
  funext s
  induction m generalizing s with
  | done o =>
      by_cases ho : o = .ok .zero
      · subst ho
        rfl
      · rw [andThen, if_neg ho, Prog.andThen_of_ne ho]
  | call r next ih =>
      rw [andThen, run, ih]
      rfl

theorem run_all (rs : List ρ) : (all rs).run f = reconcileAll f rs := by
  induction rs with
  | nil => rfl
  | cons r rs ih =>
      rw [all, run_andThen, ih, reconcileAll_cons]
      rfl

end Steps

/-- A loop over reconciles: it makes their calls in the order in which they were added, and ends at
the first error or result that is not zero, with that. -/
structure Loop (ρ : Type) where
  loop : List (Steps ρ) → Steps ρ
  loop_nil : loop [] = .done (.ok .zero)
  loop_cons : ∀ m ms, loop (m :: ms) = m.andThen (loop ms)

namespace Loop

variable {ρ : Type} (L : Loop ρ)

/-- A loop over lists of calls makes the calls of the appended lists. -/
theorem loop_map_all {ι' : Type} (g : ι' → List ρ) (l : List ι') :
    L.loop (l.map (fun i => .all (g i))) = .all (l.flatMap g) := by
  induction l with
  | nil => exact L.loop_nil
  | cons i l ih => rw [List.map_cons, L.loop_cons, ih, List.flatMap_cons, Steps.all_append]

/-- The loop that the laws describe. -/
def reference : Loop ρ where
  loop := List.foldr Steps.andThen (.done (.ok .zero))
  loop_nil := rfl
  loop_cons _ _ := rfl

theorem loop_map_single (rs : List ρ) : L.loop (rs.map .single) = .all rs := by
  have hsingle : (Steps.single : ρ → Steps ρ) = fun r => .all [r] := by
    funext r
    exact (Steps.single_andThen_done r).symm
  rw [hsingle, loop_map_all]
  simp

end Loop

/-- **Runs without an end**: where every state of `I` has an input that leads to such a state again,
there is a run of such inputs for ever. -/
theorem exists_run {f : ι → σ → σ} {I : σ → Prop} {R : ι → σ → Prop}
    (h : ∀ s, I s → ∃ i, R i s ∧ I (f i s)) {s₀ : σ} (h₀ : I s₀) :
    ∃ (inputs : ℕ → ι) (states : ℕ → σ), states 0 = s₀ ∧ ∀ n,
      states (n + 1) = f (inputs n) (states n) ∧ R (inputs n) (states n) ∧ I (states n) := by
  choose next hnext using h
  -- the states carry the proof that lets the next input be chosen
  let run : ℕ → { s // I s } := Nat.rec ⟨s₀, h₀⟩
    (fun _ s => ⟨f (next s.val s.property) s.val, (hnext s.val s.property).2⟩)
  refine ⟨fun n => next (run n).val (run n).property, fun n => (run n).val, rfl, fun n => ?_⟩
  exact ⟨rfl, (hnext (run n).val (run n).property).1, (run n).property⟩

/-! ### Tasks -/

variable {κ ω : Type} [DecidableEq κ] {key : ω → κ}

omit [DecidableEq κ] in
/-- An object to ensure: its key, and what it should be in a given state. -/
structure Task (key : ω → κ) where
  target : κ
  desired : Inventory key → Outcome ω
  key_desired : ∀ s o, desired s = .ok o → key o = target

namespace Task

variable (u : Update key)

/-- The object should be as it is. -/
def UpToDate (t : Task key) (s : Inventory key) : Prop := ∃ o, t.desired s = .ok o ∧ s.Holds u o

variable [DecidableEq ω] (onChange : Result)

/-- Ensure the object; the result is `onChange` where something was written. -/
def run (t : Task key) : Prog (Inventory key) Result := fun s =>
  match t.desired s with
  | .ok o =>
      (.ok (if (s.createOrUpdate u o).1 then onChange else .zero), (s.createOrUpdate u o).2)
  | .err e => (.err e, s)
  | .panic => (.panic, s)

variable {u onChange} {t : Task key} {s : Inventory key}

theorem run_of_upToDate (h : t.UpToDate u s) : t.run u onChange s = (.ok .zero, s) := by
  obtain ⟨o, ho, hold⟩ := h
  simp only [run, ho, Inventory.createOrUpdate_of_holds hold, Bool.false_eq_true, if_false]

/-- **What a run can do**: nothing where the task is up to date; one write of its key where it is
not; and nothing where the object cannot be computed. -/
theorem run_cases (u : Update key) (onChange : Result) (t : Task key) (s : Inventory key) :
    (t.UpToDate u s ∧ t.run u onChange s = (.ok .zero, s)) ∨
    (¬ t.UpToDate u s ∧ ∃ o v, t.desired s = .ok o ∧ key v = t.target ∧ u.merge o v = v ∧
      (v = o ∨ ∃ old, s.get (key o) = some old ∧ v = u.merge o old) ∧
      t.run u onChange s = (.ok onChange, s.put v)) ∨
    ((∀ o, t.desired s ≠ .ok o) ∧ (∀ r, (t.run u onChange s).1 ≠ .ok r) ∧
      (t.run u onChange s).2 = s) := by
  cases hd : t.desired s with
  | ok o =>
      rcases Inventory.createOrUpdate_cases u o s with ⟨hold, -⟩ | ⟨hnot, v, hkey, hmerge, hv, heq⟩
      · exact .inl ⟨⟨o, hd, hold⟩, run_of_upToDate ⟨o, hd, hold⟩⟩
      · refine .inr (.inl ⟨?_, o, v, rfl, hkey.trans (t.key_desired s o hd), hmerge, hv, ?_⟩)
        · rintro ⟨o', ho', hold⟩
          rw [hd] at ho'
          obtain rfl := Outcome.ok.inj ho'
          exact hnot hold
        · simp only [run, hd, heq, if_true]
  | err e => exact .inr (.inr ⟨by simp, by simp [run, hd], by simp [run, hd]⟩)
  | panic => exact .inr (.inr ⟨by simp, by simp [run, hd], by simp [run, hd]⟩)

/-- A run leaves the state as it is, or writes its own key once. -/
theorem run_snd (u : Update key) (onChange : Result) (t : Task key) (s : Inventory key) :
    (t.run u onChange s).2 = s ∨ ∃ v, key v = t.target ∧ (t.run u onChange s).2 = s.put v := by
  rcases run_cases u onChange t s with ⟨-, h⟩ | ⟨-, _, v, -, hkey, -, -, h⟩ | ⟨-, -, h⟩
  · exact .inl (by rw [h])
  · exact .inr ⟨v, hkey, by rw [h]⟩
  · exact .inl h

/-- A property of states that no write of the task's key breaks. -/
theorem run_keeps {I : Inventory key → Prop}
    (h : ∀ s v, I s → key v = t.target → I (s.put v)) : Prog.Keeps I (t.run u onChange) := by
  intro s hs
  rcases run_snd u onChange t s with heq | ⟨v, hkey, heq⟩
  · rwa [heq]
  · rw [heq]
    exact h s v hs hkey

end Task

/-! ### Settled states -/

/-- Every task is up to date. -/
def Settled (u : Update key) (ts : List (Task key)) (s : Inventory key) : Prop :=
  ∀ t ∈ ts, t.UpToDate u s

section Settled

variable {u : Update key} {onChange : Result} {ts : List (Task key)} {s : Inventory key}

omit [DecidableEq κ] in
theorem settled_cons {t : Task key} :
    Settled u (t :: ts) s ↔ t.UpToDate u s ∧ Settled u ts s := List.forall_mem_cons

variable [DecidableEq ω]

/-- A pass over tasks that are up to date does nothing. -/
theorem reconcileAll_of_settled (h : Settled u ts s) :
    reconcileAll (Task.run u onChange) ts s = (.ok .zero, s) := by
  induction ts with
  | nil => rfl
  | cons t ts ih =>
      obtain ⟨ht, hts⟩ := settled_cons.mp h
      rw [reconcileAll_cons, Prog.andThen_of_zero (Task.run_of_upToDate ht)]
      exact ih hts

/-- Where a write ends the pass, it ends with the zero result exactly if all is up to date. -/
theorem reconcileAll_eq_zero_iff :
    (reconcileAll (Task.run u .requeue) ts s).1 = .ok .zero ↔ Settled u ts s := by
  constructor
  · intro h
    induction ts with
    | nil => intro t ht; cases ht
    | cons t ts ih =>
        rw [reconcileAll_cons] at h
        rcases Task.run_cases u .requeue t s with ⟨ht, hrun⟩ | ⟨-, _, v, -, -, -, -, hrun⟩ | ⟨-, hne, -⟩
        · rw [Prog.andThen_of_zero hrun] at h
          exact settled_cons.mpr ⟨ht, ih h⟩
        · have hne : (t.run u .requeue s).1 ≠ .ok .zero := by simp [hrun]
          rw [Prog.andThen_of_ne hne] at h
          exact absurd h hne
        · rw [Prog.andThen_of_ne (hne .zero)] at h
          exact absurd h (hne .zero)
  · intro h
    rw [reconcileAll_of_settled h]

end Settled

/-! ### Settling -/

/-- What the task wants does not depend on the object that the other one writes. -/
def Task.Unaffected (t t' : Task key) : Prop :=
  ∀ s v, key v = t'.target → t.desired (s.put v) = t.desired s

/-- Tasks that can be ensured in their order: none is affected by its own write or by that of a
later one. -/
structure Layered (ts : List (Task key)) : Prop where
  later : ts.Pairwise (fun t t' => t.target ≠ t'.target ∧ t.Unaffected t')
  self : ∀ t ∈ ts, t.Unaffected t

section Settling

variable [DecidableEq ω] (u : Update key) (onChange : Result)

/-- The state after a pass. -/
def afterPass (ts : List (Task key)) (s : Inventory key) : Inventory key :=
  (reconcileAll (Task.run u onChange) ts s).2

variable {u onChange} {ts : List (Task key)} {t : Task key} {s : Inventory key}

omit [DecidableEq ω] in
theorem Layered.tail (h : Layered (t :: ts)) : Layered ts :=
  ⟨(List.pairwise_cons.mp h.later).2, fun t' ht' => h.self t' (List.mem_cons_of_mem _ ht')⟩

omit [DecidableEq ω] in
theorem Task.UpToDate.put {v : ω} (h : t.UpToDate u s) (hkey : t.target ≠ key v)
    (hdesired : t.desired (s.put v) = t.desired s) : t.UpToDate u (s.put v) := by
  obtain ⟨o, ho, w, hw, hmerge⟩ := h
  refine ⟨o, hdesired.trans ho, w, ?_, hmerge⟩
  rw [t.key_desired s o ho] at hw ⊢
  rw [Inventory.get_put_ne s hkey, hw]

/-- A task stays up to date in a pass over later ones. -/
theorem Task.UpToDate.reconcileAll (h : t.UpToDate u s)
    (hlater : ∀ t' ∈ ts, t.target ≠ t'.target ∧ t.Unaffected t') :
    t.UpToDate u (afterPass u onChange ts s) := by
  refine reconcileAll_keeps (I := fun s => t.UpToDate u s) (fun t' ht' => ?_) s h
  refine Task.run_keeps (fun s v hs hkey => ?_)
  obtain ⟨hne, hunaffected⟩ := hlater t' ht'
  exact hs.put (by rwa [hkey]) (hunaffected s v hkey)

/-- After a run that can compute its object the task is up to date. -/
theorem Task.upToDate_run (hself : t.Unaffected t) (hok : ∃ o, t.desired s = .ok o) :
    t.UpToDate u (t.run u onChange s).2 := by
  rcases t.run_cases u onChange s with ⟨h, hrun⟩ | ⟨-, o, v, ho, hkey, hmerge, -, hrun⟩ | ⟨hnone, -, -⟩
  · rwa [hrun]
  · rw [hrun]
    refine ⟨o, (hself s v hkey).trans ho, v, ?_, hmerge⟩
    rw [t.key_desired s o ho, ← hkey, Inventory.get_put_self]
  · obtain ⟨o, ho⟩ := hok
    exact absurd ho (hnone o)

theorem afterPass_cons_of_zero (h : (t.run u onChange s).1 = .ok .zero) :
    afterPass u onChange (t :: ts) s = afterPass u onChange ts (t.run u onChange s).2 := by
  unfold afterPass
  rw [reconcileAll_cons, Prog.andThen_of_zero (Prod.ext h rfl)]

theorem afterPass_cons_of_ne (h : (t.run u onChange s).1 ≠ .ok .zero) :
    afterPass u onChange (t :: ts) s = (t.run u onChange s).2 := by
  unfold afterPass
  rw [reconcileAll_cons, Prog.andThen_of_ne h]

/-- The first task is up to date after a pass. -/
theorem upToDate_afterPass_head (hlayered : Layered (t :: ts)) (hok : ∃ o, t.desired s = .ok o) :
    t.UpToDate u (afterPass u onChange (t :: ts) s) := by
  have hrun : t.UpToDate u (t.run u onChange s).2 :=
    Task.upToDate_run (hlayered.self t (by simp)) hok
  by_cases hzero : (t.run u onChange s).1 = .ok .zero
  · rw [afterPass_cons_of_zero hzero]
    exact hrun.reconcileAll (List.pairwise_cons.mp hlayered.later).1
  · rwa [afterPass_cons_of_ne hzero]

/-- **One pass**: one more task is up to date, counted from the front; those after `pre` may fail. -/
theorem settled_take_afterPass {pre post : List (Task key)} (hlayered : Layered (pre ++ post)) (n : ℕ)
    (hok : ∀ t ∈ pre, ∃ o, t.desired s = .ok o) (h : Settled u (pre.take n) s) :
    Settled u (pre.take (n + 1)) (afterPass u onChange (pre ++ post) s) := by
  induction pre generalizing n with
  | nil => simp [Settled]
  | cons t pre ih =>
      rw [List.take_succ_cons, settled_cons]
      refine ⟨upToDate_afterPass_head hlayered (hok t (by simp)), ?_⟩
      cases n with
      | zero => simp [Settled]
      | succ n =>
          -- the first task is up to date, so the pass goes on to the others
          rw [List.take_succ_cons, settled_cons] at h
          have hrun : t.run u onChange s = (.ok .zero, s) := Task.run_of_upToDate h.1
          rw [List.cons_append, afterPass_cons_of_zero (by rw [hrun]), hrun]
          exact ih hlayered.tail n (fun t' ht' => hok t' (List.mem_cons_of_mem _ ht')) h.2

/-- After a loop that ends with the zero result, a task is up to date if no later one disturbs
it. -/
theorem upToDate_of_zero {pre post : List (Task key)} {s' : Inventory key}
    (h : reconcileAll (Task.run u onChange) (pre ++ t :: post) s = (.ok .zero, s'))
    (hself : t.Unaffected t) (hlater : ∀ t' ∈ post, t.target ≠ t'.target ∧ t.Unaffected t') :
    t.UpToDate u s' := by
  rw [reconcileAll_append] at h
  obtain ⟨s₁, -, h⟩ := Prog.andThen_eq_zero.mp h
  obtain ⟨s₂, hrun, h⟩ := Prog.andThen_eq_zero.mp h
  have hok : ∃ o, t.desired s₁ = .ok o := by
    rcases t.run_cases u onChange s₁ with ⟨⟨o, ho, -⟩, -⟩ | ⟨-, o, -, ho, -⟩ | ⟨-, hne, -⟩
    · exact ⟨o, ho⟩
    · exact ⟨o, ho⟩
    · exact absurd (congrArg Prod.fst hrun) (hne .zero)
  have hdone : t.UpToDate u (t.run u onChange s₁).2 := Task.upToDate_run hself hok
  rw [hrun] at hdone
  have hkept : t.UpToDate u (afterPass u onChange post s₂) := hdone.reconcileAll hlater
  rwa [afterPass, h] at hkept

/-- **Settling**: from a state in an invariant under which the objects of the first tasks can be
computed, as many passes as there are such tasks settle them, whatever becomes of the others. -/
theorem settled_iterate {pre post : List (Task key)} (hlayered : Layered (pre ++ post))
    {I : Inventory key → Prop} (hok : ∀ s, I s → ∀ t ∈ pre, ∃ o, t.desired s = .ok o)
    (hkeeps : ∀ s, I s → I (afterPass u onChange (pre ++ post) s)) (hs : I s) {n : ℕ}
    (hn : pre.length ≤ n) : Settled u pre ((afterPass u onChange (pre ++ post))^[n] s) := by
  have htake : ∀ n, I ((afterPass u onChange (pre ++ post))^[n] s) ∧
      Settled u (pre.take n) ((afterPass u onChange (pre ++ post))^[n] s) := by
    intro n
    induction n with
    | zero => exact ⟨hs, by simp [Settled]⟩
    | succ n ih =>
        rw [Function.iterate_succ_apply']
        exact ⟨hkeeps _ ih.1, settled_take_afterPass hlayered n (hok _ ih.1) ih.2⟩
  have hsettled := (htake n).2
  rwa [List.take_of_length_le hn] at hsettled

end Settling

end Go
