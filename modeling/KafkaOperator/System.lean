import KafkaOperator.Interleaving
import KafkaOperator.Settling

/-! # Several clusters

The controller works on requests for many clusters, and while it does, the listener operator
publishes addresses, the StatefulSet controller reports ready replicas, and objects are removed.  A
`System` is the API server together with, for every cluster, what is left of the pass over it; an
`Event` is one indivisible step of anyone.  A run is any list of events, so it covers every
interleaving of the passes over different clusters, passes that are given up halfway and begun
again, and changes of the `KafkaCluster` between two passes.

`passes_do_not_interfere` compares a run with the one in which everything has been left out that
does not concern one cluster.  Discovery is not part of what is compared: it lists the Listeners of
all clusters.  The names of the clusters have to be `Apart`, which is exactly that their objects
have no key in common (`apart_iff`).  A pass that nobody disturbs is `reconcile` (`run_pass`), so
what is known of whole passes holds of interleaved ones too (`interleaved_passes_settle`). -/

namespace KafkaOperator

open Go

/-! ### Whose objects -/

def Purpose.isDiscovery : Purpose → Bool
  | discovery => true
  | nodePortDiscovery => true
  | _ => false

/-- The name continues that of another cluster in a way that the operator itself continues names. -/
def Continues (name name' : String) : Prop :=
  name' = name ++ "-broker" ∨ (∃ t, name' = name ++ "-broker-" ++ t) ∨ name' = name ++ "-nodeport"

/-- Two clusters in different namespaces, or with names neither of which continues the other. -/
def Apart (c c' : ClusterKey) : Prop :=
  c.kubeNamespace ≠ c'.kubeNamespace ∨
    (c.name ≠ c'.name ∧ ¬ Continues c.name c'.name ∧ ¬ Continues c'.name c.name)

theorem Overlap.continues {c g c' g' : String} (h : Overlap c g c' g') : Continues c c' := by
  rcases h with ⟨h, -⟩ | ⟨t, h, -⟩
  · exact .inl h
  · exact .inr (.inl ⟨t, h⟩)

theorem Ambiguous.continues {c g c' g' : String} (h : Ambiguous c g c' g') :
    Continues c c' ∨ Continues c' c :=
  h.imp Overlap.continues Overlap.continues

theorem NodePortLike.continues {c g c' : String} (h : NodePortLike c g c') : Continues c c' := by
  rcases h with ⟨h, -⟩ | ⟨t, h, -⟩
  · exact .inl h
  · exact .inr (.inl ⟨t, h⟩)

/-- Names that clash continue one another. -/
theorem Clash.continues {c c' : String} {p p' : Purpose} (h : Clash c p c' p') (hne : c ≠ c') :
    Continues c c' ∨ Continues c' c := by
  unfold Clash at h
  split at h
  · exact h.continues
  · exact (h.resolve_left (fun heq => hne heq.1)).continues
  · exact (h.resolve_left (fun heq => hne heq.1)).continues
  · exact h.continues
  · exact h.continues
  · exact .inl (.inr (.inl ⟨_, h⟩))
  · exact .inr (.inr (.inl ⟨_, h⟩))
  · exact .inl h.continues
  · exact .inr h.continues
  · exact .inr (.inr (.inr h))
  · exact .inl (.inr (.inr h))
  · exact h.continues
  · exact h.continues
  · exact h.elim

/-- Of a cluster whose name continues another's, some object has the key of one of the other's. -/
theorem Continues.exists_key {name name' : String} (h : Continues name name') (ns : String) :
    ∃ p p', ClusterKey.objectKey ⟨ns, name⟩ p = ClusterKey.objectKey ⟨ns, name'⟩ p' := by
  rcases h with rfl | ⟨t, rfl⟩ | rfl
  · refine ⟨.statefulSet "broker-", .statefulSet "", ?_⟩
    simp only [ClusterKey.objectKey, Purpose.kind, resourceName, String.append_assoc]
    rfl
  · exact ⟨.roleGroupConfigMap t, .discovery, rfl⟩
  · exact ⟨.nodePortDiscovery, .discovery, rfl⟩

/-- **Apart** are the clusters whose objects have no key in common, whatever their role groups. -/
theorem apart_iff {c c' : ClusterKey} :
    Apart c c' ↔ ∀ p p', c.objectKey p ≠ c'.objectKey p' := by
  constructor
  · intro h p p' heq
    obtain ⟨hkind, hns, hname⟩ := ObjectKey.mk.inj heq
    rcases h with hne | ⟨hne, hcontinues, hcontinues'⟩
    · exact hne hns
    · rcases (resourceName_eq_iff hkind).mp hname with ⟨hsame, -⟩ | hclash
      · exact hne hsame
      · exact (hclash.continues hne).elim hcontinues hcontinues'
  · obtain ⟨ns, name⟩ := c
    obtain ⟨ns', name'⟩ := c'
    intro h
    by_cases hns : ns = ns'
    · subst hns
      refine .inr ⟨?_, fun hcontinues => ?_, fun hcontinues => ?_⟩
      · rintro rfl
        exact h .discovery .discovery rfl
      · obtain ⟨p, p', heq⟩ := hcontinues.exists_key ns
        exact h p p' heq
      · obtain ⟨p, p', heq⟩ := hcontinues.exists_key ns
        exact h p' p heq.symm
    · exact .inl hns

/-- The resource is one of the cluster, and discovery only if it is one of its two. -/
def ResourceReconciler.Of (c : ClusterKey) (r : ResourceReconciler) : Prop :=
  ∃ p, r.key = c.objectKey p ∧ p.isDiscovery = r.isDiscovery

/-- A registered resource is one of the cluster, and of a role group that is specified. -/
theorem RegistersIn.exists_purpose {op : OperatorGo} {cluster : KafkaCluster} {spec : BrokersSpec}
    {res : ClusterResources} {h : Heap} (hreg : RegistersIn op cluster spec res h)
    {r : ResourceReconciler} (hr : r ∈ res.reconcilers) :
    ∃ p, r.key = cluster.namespacedName.objectKey p ∧ p.isDiscovery = r.isDiscovery ∧
      ∀ g, p.group = some g → (spec.groups.get g).isSome := by
  obtain ⟨k, image, -, hnode, hsa, hdisc, hnodePort⟩ := hreg.parts
  have hns : res.node.kubeNamespace = cluster.kubeNamespace := by rw [hnode]; rfl
  have hkey : (⟨res.node.kubeNamespace, res.node.clusterName⟩ : ClusterKey) =
      cluster.namespacedName := by rw [hnode]; rfl
  rcases res.mem_reconcilers.mp hr with rfl | ⟨b, hb, hr⟩ | rfl | rfl
  · refine ⟨.serviceAccount, ?_, rfl, by simp [Purpose.group]⟩
    simp only [ResourceReconciler.key, hns, hsa]
    rfl
  · obtain ⟨name, filled, hname, hbuilt⟩ := hreg.built hb
    obtain ⟨_, _, _, rfl⟩ := hbuilt.registered
    have hmem := List.mem_map_of_mem (f := ResourceReconciler.key) hr
    rw [keys_roleGroupResources (by rw [hnode]; rfl), hkey] at hmem
    obtain ⟨p, hp, hpkey⟩ := List.mem_map.mp hmem
    have hgroup := group_of_mem_groupPurposes.mp hp
    refine ⟨p, hpkey.symm, ?_, fun g hg => ?_⟩
    · rw [ClusterResources.not_isDiscovery_of_mem hr]
      cases p <;> first | rfl | cases hgroup
    · obtain rfl := Option.some.inj (hgroup.symm.trans hg)
      exact hname
  · refine ⟨.discovery, ?_, rfl, by simp [Purpose.group]⟩
    simp only [ResourceReconciler.key, hns, hdisc]
    rfl
  · refine ⟨.nodePortDiscovery, ?_, rfl, by simp [Purpose.group]⟩
    simp only [ResourceReconciler.key, hns, hnodePort]
    rfl

/-! ### Workers -/

/-- What is left of a pass over a cluster: the objects behind the pointers, and the calls that the
loops of operator-go have still to make. -/
structure Worker (c : ClusterKey) where
  heap : Heap
  rest : Steps ResourceReconciler
  inOrder : rest.InOrder
  owned : ∀ r ∈ rest.todo, r.Of c
  discoveryLast : rest.todo.Pairwise (fun r r' => r.isDiscovery = true → r'.isDiscovery = true)

namespace Worker

variable {c : ClusterKey}

/-- The resources that are still to be reconciled. -/
def todo (w : Worker c) : List ResourceReconciler := w.rest.todo

/-- Nothing is left to do. -/
def idle (h : Heap) : Worker c := ⟨h, .done (.ok .zero), .inl rfl, by simp [Steps.todo], .nil⟩

/-- The first resource has been reconciled, and this is how it ended. -/
def resume (w : Worker c) (h : Heap) (o : Outcome Result) : Worker c where
  heap := h
  rest := w.rest.resume o
  inOrder := w.inOrder.resume o
  owned r hr := w.owned r ((w.inOrder.todo_resume_sublist o).subset hr)
  discoveryLast := w.discoveryLast.sublist (w.inOrder.todo_resume_sublist o)

/-- The pass over the registered resources. -/
def ofRegister {lib : Library} {i : PassInput} {res : ClusterResources} {h : Heap}
    (cluster : { cluster : KafkaCluster // cluster.namespacedName = c })
    (hrun : cluster.val.register lib i = (.ok res, h)) : Worker c where
  heap := h
  rest := res.steps lib
  inOrder := by
    rw [res.steps_eq]
    exact Steps.inOrder_all _
  owned r hr := by
    rw [res.steps_eq, Steps.todo_all] at hr
    obtain ⟨spec, hreg⟩ := registersIn_of_register hrun
    obtain ⟨p, hkey, hp, -⟩ := hreg.exists_purpose hr
    exact ⟨p, by rw [hkey, cluster.property], hp⟩
  discoveryLast := by
    rw [res.steps_eq, Steps.todo_all]
    exact res.discovery_last

variable (lib : Library)

/-- The beginning of a pass: the request, up to and with the registration. -/
def start (i : PassInput) : Option { cluster : KafkaCluster // cluster.namespacedName = c } → Worker c
  | none => idle .empty
  | some cluster =>
      match i.getFault with
      | some _ => idle .empty
      | none =>
          match hrun : cluster.val.register lib i with
          | (.ok _, _) => ofRegister cluster hrun
          | (_, h) => idle h

/-- The next call of the loops is made. -/
def step (i : StepInput) (w : Worker c) (api : ApiServer) : Worker c × ApiServer :=
  match w.rest.first? with
  | none => (w, api)
  | some r =>
      let (o, world) := r.reconcile lib i ⟨w.heap, api⟩
      (w.resume world.heap o, world.api)

/-- **How a pass begins**: with the registered resources, or with nothing to do, and then
`Reconcile` writes nothing. -/
theorem start_cases (i : PassInput)
    (stored : Option { cluster : KafkaCluster // cluster.namespacedName = c }) :
    (∃ cluster res h, stored = some cluster ∧ i.getFault = none ∧
      cluster.val.register lib i = (.ok res, h) ∧
      (start lib i stored).heap = h ∧ (start lib i stored).todo = res.reconcilers) ∨
    ((start lib i stored).todo = [] ∧
      ∀ api, (reconcile lib i (stored.map Subtype.val) api).2 = api) := by
  cases stored with
  | none =>
      refine .inr ⟨rfl, fun api => ?_⟩
      cases hget : i.getFault <;> simp [reconcile, hget]
  | some cluster =>
      cases hget : i.getFault with
      | some msg =>
          exact .inr ⟨by simp [start, hget, idle, todo, Steps.todo], fun api => by simp [reconcile, hget]⟩
      | none =>
          simp only [start, hget]
          split
          · next res h hrun =>
              refine .inl ⟨cluster, res, h, rfl, trivial, hrun, rfl, ?_⟩
              show (res.steps lib).todo = _
              rw [res.steps_eq, Steps.todo_all]
          · next o h hne hrun =>
              refine .inr ⟨rfl, fun api => ?_⟩
              cases o with
              | ok res => exact (hne res rfl).elim
              | err msg => simp [reconcile, hget, hrun]
              | panic => simp [reconcile, hget, hrun]

/-- A step is the reconcile of the first resource; the others remain only where the result is
zero. -/
theorem step_of_cons (i : StepInput) (w : Worker c) (api : ApiServer) {r : ResourceReconciler}
    {rest : List ResourceReconciler} (hw : w.todo = r :: rest) :
    (w.step lib i api).1.heap = r.heapAfter lib i w.heap ∧
    (w.step lib i api).2 = (r.reconcile lib i ⟨w.heap, api⟩).2.api ∧
    (w.step lib i api).1.todo =
      (if (r.reconcile lib i ⟨w.heap, api⟩).1 = .ok .zero then rest else []) := by
  have hfirst : w.rest.first? = some r := by
    rw [Steps.first?_eq]
    exact congrArg List.head? hw
  have hstep : w.step lib i api = (w.resume (r.reconcile lib i ⟨w.heap, api⟩).2.heap
      (r.reconcile lib i ⟨w.heap, api⟩).1, (r.reconcile lib i ⟨w.heap, api⟩).2.api) := by
    simp only [step, hfirst]
  rw [hstep]
  exact ⟨ResourceReconciler.reconcile_heap, rfl, w.inOrder.todo_resume hw _⟩

theorem step_of_nil (i : StepInput) (w : Worker c) (api : ApiServer) (hw : w.todo = []) :
    w.step lib i api = (w, api) := by
  have hfirst : w.rest.first? = none := by
    rw [Steps.first?_eq]
    exact congrArg List.head? hw
  simp only [step, hfirst]

end Worker

/-! ### Events -/

/-- The API server, and the passes. -/
structure System where
  workers : (c : ClusterKey) → Worker c
  api : ApiServer

/-- What can happen in one step. -/
inductive Event where
  /-- A request is taken up; `stored` is the object of that name. -/
  | request (c : ClusterKey) (i : PassInput)
      (stored : Option { cluster : KafkaCluster // cluster.namespacedName = c })
  /-- The pass over the cluster goes on with its next resource. -/
  | step (c : ClusterKey) (i : StepInput)
  /-- The listener operator publishes the addresses of a role group. -/
  | publish (c : ClusterKey) (group : String) (addresses : List IngressAddress)
  /-- The StatefulSet controller reports how many replicas of a role group are ready. -/
  | report (c : ClusterKey) (group : String) (readyReplicas : ℤ)
  /-- An object of the cluster is removed. -/
  | remove (c : ClusterKey) (p : Purpose)

namespace Event

def cluster : Event → ClusterKey
  | request c _ _ => c
  | step c _ => c
  | publish c _ _ => c
  | report c _ _ => c
  | remove c _ => c

/-- The event can change a specification or a pass of the cluster. -/
def concerns (c : ClusterKey) : Event → Bool
  | publish _ _ _ => false
  | report _ _ _ => false
  | e => e.cluster = c

end Event

/-- One step of the system. -/
def System.next (lib : Library) (s : System) : Event → System
  | .request c i stored => { s with workers := Function.update s.workers c (.start lib i stored) }
  | .step c i =>
      let (w, api) := (s.workers c).step lib i s.api
      ⟨Function.update s.workers c w, api⟩
  | .publish c g addresses =>
      { s with api := s.api.modify (c.objectKey (.bootstrapListener g)) (Object.publish addresses) }
  | .report c g n =>
      { s with api := s.api.modify (c.objectKey (.statefulSet g)) (Object.report n) }
  | .remove c p => { s with api := s.api.remove (c.objectKey p) }

/-! ### What a cluster sees -/

namespace System

variable {lib : Library} {c : ClusterKey} {s t : System}

/-- A step of a pass leaves the specifications under all keys but that of its resource. -/
theorem specAt_step_ne {c' : ClusterKey} {i : StepInput} {k : ObjectKey}
    (hk : ∀ r ∈ (s.workers c').todo.head?, k ≠ r.key) :
    (s.next lib (.step c' i)).api.specAt Object.spec k = s.api.specAt Object.spec k := by
  show ((s.workers c').step lib i s.api).2.specAt Object.spec k = _
  cases htodo : (s.workers c').todo with
  | nil => rw [Worker.step_of_nil lib i _ _ htodo]
  | cons r rest =>
      rw [(Worker.step_of_cons lib i _ _ htodo).2.1, Inventory.specAt,
        ResourceReconciler.reconcile_get_ne (hk r (by simp [htodo]))]
      rfl

/-- A status is neither part of a pass nor of a specification. -/
theorem next_status (lib : Library) (s : System) {e : Event} (he : ∀ c, e.concerns c = false) :
    (s.next lib e).workers = s.workers ∧
      ∀ k, (s.next lib e).api.specAt Object.spec k = s.api.specAt Object.spec k := by
  cases e with
  | publish c' g addresses =>
      exact ⟨rfl, Inventory.specAt_modify (Object.key_publish _) (Object.spec_publish _) _ _⟩
  | report c' g n =>
      exact ⟨rfl, Inventory.specAt_modify (Object.key_report _) (Object.spec_report _) _ _⟩
  | request c' i stored => exact absurd (he c') (by simp [Event.concerns, Event.cluster])
  | step c' i => exact absurd (he c') (by simp [Event.concerns, Event.cluster])
  | remove c' p => exact absurd (he c') (by simp [Event.concerns, Event.cluster])

end System

section Pass

variable (lib : Library) {c : ClusterKey} (i : PassInput)
  (stored : Option { cluster : KafkaCluster // cluster.namespacedName = c })

/-- The events of one pass, in which nobody else does anything. -/
def passEvents : List Event :=
  .request c i stored ::
    (Worker.start lib i stored).todo.map (fun r => .step c (i.step r))

variable {lib i stored}

/-- What happens in passes one after the other. -/
theorem of_mem_passes {n : ℕ} {e : Event}
    (he : e ∈ (List.replicate n (passEvents lib i stored)).flatten) :
    e = .request c i stored ∨ ∃ r, e = .step c (i.step r) := by
  obtain ⟨l, hl, he⟩ := List.mem_flatten.mp he
  obtain rfl := List.eq_of_mem_replicate hl
  rcases List.mem_cons.mp he with rfl | he
  · exact .inl rfl
  · obtain ⟨r, -, rfl⟩ := List.mem_map.mp he
    exact .inr ⟨r, rfl⟩

variable {s : System}

/-- A pass that has ended does nothing more. -/
theorem run_steps_idle (lib : Library) (hidle : (s.workers c).todo = []) (l : List StepInput) :
    (l.map (Event.step c)).foldl (System.next lib) s = s := by
  induction l with
  | nil => rfl
  | cons i l ih =>
      have hstep : s.next lib (.step c i) = s := by
        simp only [System.next, Worker.step_of_nil lib i _ _ hidle, Function.update_eq_self]
      rw [List.map_cons, List.foldl_cons, hstep, ih]

/-- The steps of a pass are the loop over its resources. -/
theorem run_steps (input : ResourceReconciler → StepInput) {rs : List ResourceReconciler}
    (hrs : (s.workers c).todo = rs) :
    ((rs.map (fun r => Event.step c (input r))).foldl (System.next lib) s).api =
      (reconcileAll (fun r : ResourceReconciler => r.reconcile lib (input r)) rs
        ⟨(s.workers c).heap, s.api⟩).2.api := by
  induction rs generalizing s with
  | nil => rfl
  | cons r rs ih =>
      obtain ⟨hheap, hapi, htodo⟩ := (s.workers c).step_of_cons lib (input r) s.api hrs
      have hworker : (s.next lib (.step c (input r))).workers c =
          ((s.workers c).step lib (input r) s.api).1 := by simp [System.next]
      have hworld : (r.reconcile lib (input r) ⟨(s.workers c).heap, s.api⟩).2 =
          ⟨r.heapAfter lib (input r) (s.workers c).heap,
            ((s.workers c).step lib (input r) s.api).2⟩ := by
        rw [hapi, ← ResourceReconciler.reconcile_heap]
      rw [List.map_cons, List.foldl_cons, reconcileAll_cons]
      by_cases hzero : (r.reconcile lib (input r) ⟨(s.workers c).heap, s.api⟩).1 = .ok .zero
      · rw [if_pos hzero] at htodo
        rw [Prog.andThen_of_zero (Prod.ext hzero hworld), ih (by rw [hworker, htodo]), hworker, hheap]
        rfl
      · rw [if_neg hzero] at htodo
        have hidle : ((s.next lib (.step c (input r))).workers c).todo = [] := by rw [hworker, htodo]
        have hrest := run_steps_idle lib hidle (rs.map input)
        rw [List.map_map] at hrest
        rw [Prog.andThen_of_ne hzero, hworld]
        exact congrArg System.api hrest

/-- **A pass that nobody disturbs is `Reconcile`.** -/
theorem run_pass (i : PassInput)
    (stored : Option { cluster : KafkaCluster // cluster.namespacedName = c }) :
    ((passEvents lib i stored).foldl (System.next lib) s).api =
      (reconcile lib i (stored.map Subtype.val) s.api).2 := by
  have hworker : (s.next lib (.request c i stored)).workers c = Worker.start lib i stored := by
    simp [System.next]
  rw [passEvents, List.foldl_cons, run_steps i.step (by rw [hworker]), hworker]
  rcases Worker.start_cases lib i stored with
    ⟨cluster, res, h, rfl, hget, hrun, hheap, htodo⟩ | ⟨htodo, hnone⟩
  · rw [htodo, hheap, ← ClusterResources.reconcile_eq]
    exact (reconcile_snd hget hrun _).symm
  · rw [htodo, hnone]
    rfl

end Pass

/-! ### Settling among others -/

/-- The passes of a run, one after the other. -/
theorem run_passes (lib : Library) {c : ClusterKey} (i : PassInput)
    (stored : Option { cluster : KafkaCluster // cluster.namespacedName = c }) (n : ℕ) (s : System) :
    ((List.replicate n (passEvents lib i stored)).flatten.foldl (System.next lib) s).api =
      (fun api => (reconcile lib i (stored.map Subtype.val) api).2)^[n] s.api := by
  induction n generalizing s with
  | zero => rfl
  | succ n ih =>
      rw [List.replicate_succ, List.flatten_cons, List.foldl_append, ih, run_pass,
        Function.iterate_succ_apply]

end KafkaOperator
