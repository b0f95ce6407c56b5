import KafkaOperator.BuildOutcome
import KafkaOperator.Reconcile

/-! # Passes settle

A request for a cluster is handled again and again.  Here nothing else changes in between: the
specification, the order in which maps are visited, and the addresses of the Listeners stay the
same, and the API server answers.

A pass then runs a fixed list of tasks in the sense of `ControlLoop`, one for each registered
resource (`plan`, `reconcileAll_plan`).  What a task wants does not depend on what later tasks
write: only discovery reads the API server, it reads Listeners, and no Listener is reconciled after
it.  So the tasks can be ensured in their order, unless two of them have the same key.

`passes_settle` is the result: with as many passes as there are resources the cluster is settled,
from every state of the API server, and later passes write nothing.  The exception is a cluster with
role groups `g` and `g-metrics`: two Services then have one key, no state is settled, and where
operator-go asks to be called again after a write no pass ever ends. -/

namespace KafkaOperator

open Go Relation

/-! ### The tasks of a pass -/

namespace ResourceReconciler

variable (lib : Library) (i : StepInput) (h : Heap) (r : ResourceReconciler)

/-- The reconcile of a resource as a task, for the objects that its builder points to. -/
def task : Task Object.key := ⟨r.key, r.desired lib i h, fun _ _ ho => key_of_desired ho⟩

/-- Where the server does what it is asked to, a reconcile runs the task. -/
theorem reconcile_eq_run (hquiet : i.Quiet) (api : ApiServer) : r.reconcile lib i ⟨h, api⟩ =
    (((r.task lib i h).run Object.update lib.onMutation api).1,
      ⟨r.heapAfter lib i h, ((r.task lib i h).run Object.update lib.onMutation api).2⟩) := by
  simp only [Task.run, task]
  cases hd : r.desired lib i h api with
  | ok o =>
      rw [reconcile_of_ok hd, hquiet.write, lib.client.createOrUpdate_none]
      rfl
  | err e => rw [reconcile_of_err hd]
  | panic => rw [reconcile_of_panic hd]

end ResourceReconciler

section Plan

variable (lib : Library) (input : ResourceReconciler → StepInput)

/-- The tasks of resources that are reconciled one after the other; each `Build` leaves the objects
behind the pointers to the next. -/
def plan : List ResourceReconciler → Heap → List (Task Object.key)
  | [], _ => []
  | r :: rs, h => r.task lib (input r) h :: plan rs (r.heapAfter lib (input r) h)

variable {lib input} {rs : List ResourceReconciler} {h : Heap}

/-- **A loop of reconciles runs its plan.** -/
theorem reconcileAll_plan (lib : Library) (hquiet : ∀ r, (input r).Quiet)
    (rs : List ResourceReconciler) (h : Heap) (api : ApiServer) :
    (reconcileAll (fun r : ResourceReconciler => r.reconcile lib (input r)) rs ⟨h, api⟩).1 =
      (reconcileAll (Task.run Object.update lib.onMutation) (plan lib input rs h) api).1 ∧
    (reconcileAll (fun r : ResourceReconciler => r.reconcile lib (input r)) rs ⟨h, api⟩).2.api =
      (reconcileAll (Task.run Object.update lib.onMutation) (plan lib input rs h) api).2 := by
  induction rs generalizing h api with
  | nil => exact ⟨rfl, rfl⟩
  | cons r rs ih =>
      have hrun := r.reconcile_eq_run lib (input r) h (hquiet r) api
      rw [plan, reconcileAll_cons, reconcileAll_cons]
      by_cases hzero : ((r.task lib (input r) h).run Object.update lib.onMutation api).1 = .ok .zero
      · rw [Prog.andThen_of_zero (Prod.ext hzero rfl)]
        rw [hzero] at hrun
        rw [Prog.andThen_of_zero hrun]
        exact ih _ _
      · rw [Prog.andThen_of_ne hzero]
        have hne : (r.reconcile lib (input r) ⟨h, api⟩).1 ≠ .ok .zero := by rwa [hrun]
        rw [Prog.andThen_of_ne hne, hrun]
        exact ⟨rfl, rfl⟩

theorem plan_append (lib : Library) (input : ResourceReconciler → StepInput)
    (pre rs : List ResourceReconciler) (h : Heap) :
    ∃ h', plan lib input (pre ++ rs) h = plan lib input pre h ++ plan lib input rs h' := by
  induction pre generalizing h with
  | nil => exact ⟨h, rfl⟩
  | cons r pre ih =>
      obtain ⟨h', heq⟩ := ih (r.heapAfter lib (input r) h)
      exact ⟨h', by rw [List.cons_append, plan, heq, plan, List.cons_append]⟩

/-- The heaps that the `Build`s of the resources can leave. -/
inductive HeapRun (lib : Library) (input : ResourceReconciler → StepInput)
    (rs : List ResourceReconciler) : Heap → Heap → Prop where
  | refl (h : Heap) : HeapRun lib input rs h h
  | step {h h' : Heap} {r : ResourceReconciler} (hr : r ∈ rs)
      (hrest : HeapRun lib input rs (r.heapAfter lib (input r) h) h') : HeapRun lib input rs h h'

theorem HeapRun.mono {rs' : List ResourceReconciler} {h' : Heap} (hsub : ∀ r ∈ rs, r ∈ rs')
    (hrun : HeapRun lib input rs h h') : HeapRun lib input rs' h h' := by
  induction hrun with
  | refl h => exact .refl h
  | step hr _ ih => exact .step (hsub _ hr) ih

theorem HeapRun.keeps {I : Heap → Prop} {h' : Heap} (hrun : HeapRun lib input rs h h')
    (hstep : ∀ r ∈ rs, ∀ h, I h → I (r.heapAfter lib (input r) h)) (hI : I h) : I h' := by
  induction hrun with
  | refl h => exact hI
  | step hr _ ih => exact ih (hstep _ hr _ hI)

/-- operator-go returns no error in the calls that the `Build`s of a pass over the resources make. -/
def Library.ReliableFor (lib : Library) (input : ResourceReconciler → StepInput)
    (res : ClusterResources) (h : Heap) : Prop :=
  ∀ b ∈ res.roleGroups, ∀ h', HeapRun lib input res.reconcilers h h' → lib.op.ReliableIn b h'

/-- Every task of a plan is that of a resource. -/
theorem mem_plan {t : Task Object.key} (ht : t ∈ plan lib input rs h) :
    ∃ r ∈ rs, ∃ h', HeapRun lib input rs h h' ∧ t = r.task lib (input r) h' := by
  induction rs generalizing h with
  | nil => cases ht
  | cons r rs ih =>
      rcases List.mem_cons.mp ht with rfl | ht
      · exact ⟨r, by simp, h, .refl h, rfl⟩
      · obtain ⟨r', hr', h', hrun, rfl⟩ := ih ht
        exact ⟨r', by simp [hr'], h', .step (by simp) (hrun.mono (by simp +contextual)), rfl⟩

/-- Every resource has its task in the plan. -/
theorem exists_mem_plan {r : ResourceReconciler} (hr : r ∈ rs) :
    ∃ h', r.task lib (input r) h' ∈ plan lib input rs h := by
  induction rs generalizing h with
  | nil => cases hr
  | cons r' rs ih =>
      rcases List.mem_cons.mp hr with rfl | hr
      · exact ⟨h, by simp [plan]⟩
      · obtain ⟨h', hmem⟩ := ih (h := r'.heapAfter lib (input r') h) hr
        exact ⟨h', by simp [plan, hmem]⟩

theorem length_plan : (plan lib input rs h).length = rs.length := by
  induction rs generalizing h with
  | nil => rfl
  | cons r rs ih => rw [plan, List.length_cons, ih, List.length_cons]

/-! ### The order of the tasks -/

/-- A write that is not of a Listener changes what no task wants. -/
theorem desired_put (i : StepInput) (r : ResourceReconciler) {v : Object} {api : ApiServer}
    (hv : r.isDiscovery = true → v.key.kind ≠ .listener) :
    r.desired lib i h (api.put v) = r.desired lib i h api := by
  cases hr : r.isDiscovery with
  | false => exact ResourceReconciler.desired_eq_of_not_discovery lib i r hr h _ _
  | true =>
      have hlist := ApiServer.list_put (s := api) (hv hr) i.items
      cases r with
      | discovery ns b =>
          simp only [ResourceReconciler.desired, ResourceReconciler.build, Prog.bind_pure_apply,
            Prog.reads_apply]
          cases i.listFault with
          | none => simp only [hlist]
          | some msg => rfl
      | _ => cases hr

theorem kind_of_isDiscovery {r : ResourceReconciler} (hr : r.isDiscovery = true) :
    r.key.kind ≠ .listener := by
  cases r with
  | discovery ns b => simp [ResourceReconciler.key]
  | _ => cases hr

/-- Resources of different keys, with discovery at the end, can be ensured in their order. -/
theorem layered_plan (hnodup : (rs.map ResourceReconciler.key).Nodup)
    (hlast : rs.Pairwise (fun r r' => r.isDiscovery = true → r'.isDiscovery = true)) :
    Layered (plan lib input rs h) := by
  constructor
  · induction rs generalizing h with
    | nil => exact List.Pairwise.nil
    | cons r rs ih =>
        rw [List.map_cons, List.nodup_cons] at hnodup
        rw [List.pairwise_cons] at hlast
        refine List.Pairwise.cons (fun t' ht' => ?_) (ih hnodup.2 hlast.2)
        obtain ⟨r', hr', h', -, rfl⟩ := mem_plan ht'
        refine ⟨fun heq => hnodup.1 (List.mem_map.mpr ⟨r', hr', heq.symm⟩), fun s v hv => ?_⟩
        refine desired_put _ r (fun hr => ?_)
        rw [hv]
        exact kind_of_isDiscovery (hlast.1 r' hr' hr)
  · intro t ht
    obtain ⟨r, -, h', -, rfl⟩ := mem_plan ht
    intro s v hv
    refine desired_put _ r (fun hr => ?_)
    rw [hv]
    exact kind_of_isDiscovery hr

end Plan

/-! ### Published ports -/

/-- Every address of every Listener has a port of that name. -/
def Published (portName : String) (api : ApiServer) : Prop :=
  ∀ k l, api.get k = some (.listener l) → PortPublished portName (l.ingressAddresses.getD [])

/-- A built Listener has no status. -/
theorem ResourceReconciler.desired_listener {lib : Library} {i : StepInput} {r : ResourceReconciler}
    {h : Heap} {api : ApiServer} {l : Listener} (ho : r.desired lib i h api = .ok (.listener l)) :
    l.ingressAddresses = none := by
  cases r with
  | listener b =>
      obtain rfl := Object.listener.inj (Outcome.ok.inj ho)
      rfl
  | serviceAccount ns name => cases Outcome.ok.inj ho
  | service ns b => cases Outcome.ok.inj ho
  | configMap b =>
      obtain ⟨cm, -, heq⟩ := desired_configMap ho
      cases heq
  | statefulSet b stopped =>
      obtain ⟨sts, -, heq⟩ := desired_statefulSet ho
      cases heq
  | discovery ns b =>
      obtain ⟨cm, -, -, heq⟩ := desired_discovery ho
      cases heq

/-- An update never changes the addresses of a Listener, and a new one has none. -/
theorem Published.run {portName : String} (lib : Library) (i : StepInput) (r : ResourceReconciler)
    (h : Heap) (onChange : Result) :
    Prog.Keeps (Published portName) ((r.task lib i h).run Object.update onChange) := by
  intro api hpub
  rcases Task.run_cases Object.update onChange (r.task lib i h) api with
    ⟨-, hrun⟩ | ⟨-, o, v, ho, -, -, hv, hrun⟩ | ⟨-, -, hrun⟩
  · rwa [hrun]
  · rw [hrun]
    intro k l hget
    rw [Inventory.get_put] at hget
    split at hget
    · -- the Listener that was written
      obtain rfl := Option.some.inj hget
      rcases hv with rfl | ⟨old, hold, hmerge⟩
      · rw [ResourceReconciler.desired_listener ho]
        simp [PortPublished]
      · cases o with
        | listener l' =>
            rcases Object.keepStatus_listener hmerge.symm with rfl | ⟨lold, rfl, rfl⟩
            · rw [ResourceReconciler.desired_listener ho]
              simp [PortPublished]
            · exact hpub _ lold hold
        | _ => cases old <;> cases hmerge
    · exact hpub k l hget
  · rwa [hrun]

theorem Published.run_of_mem_plan {portName : String} {lib : Library}
    {input : ResourceReconciler → StepInput} {rs : List ResourceReconciler} {h : Heap}
    {t : Task Object.key} (ht : t ∈ plan lib input rs h) (onChange : Result) :
    Prog.Keeps (Published portName) (t.run Object.update onChange) := by
  obtain ⟨r, -, h', -, rfl⟩ := mem_plan ht
  exact Published.run lib (input r) r h' onChange

/-- Where every address is published, discovery can be built. -/
theorem Published.desired_discovery {lib : Library} {i : StepInput} {h : Heap} {api : ApiServer}
    {ns : String} {b : DiscoveryBuilder} (hquiet : i.Quiet) (hpub : Published b.portName api) :
    ∃ o, (ResourceReconciler.discovery ns b).desired lib i h api = .ok o := by
  have hports : PortPublished b.portName
      (addresses ((api.list i.items).listMatching labelListenerBootstrap labelValueTrue)) := by
    intro a ha
    obtain ⟨l, hl, ha⟩ := List.mem_flatMap.mp ha
    exact hpub _ l (ApiServer.mem_list.mp (List.mem_filter.mp hl).1) a ha
  simp only [ResourceReconciler.desired, ResourceReconciler.build, Prog.bind_pure_apply,
    Prog.reads_apply, hquiet.list]
  rw [b.build_of_published hports]
  exact ⟨_, rfl⟩

/-! ### The keys of a cluster -/

theorem groupPurposes_nodup (g : String) : (groupPurposes g).Nodup := by
  simp [groupPurposes]

theorem purposes_nodup {names : List String} (hnames : names.Nodup) : (purposes names).Nodup := by
  have hgroups : (names.flatMap groupPurposes).Nodup := by
    rw [List.nodup_flatMap]
    refine ⟨fun g _ => groupPurposes_nodup g, hnames.imp (fun hne => ?_)⟩
    rw [Function.onFun, List.disjoint_left]
    intro p hp hp'
    rw [group_of_mem_groupPurposes] at hp hp'
    exact hne (Option.some.inj (hp.symm.trans hp'))
  have hnot : ∀ p : Purpose, p.group = none → p ∉ names.flatMap groupPurposes := by
    intro p hp hmem
    obtain ⟨g, -, hg⟩ := List.mem_flatMap.mp hmem
    rw [group_of_mem_groupPurposes, hp] at hg
    cases hg
  unfold purposes
  rw [List.nodup_cons, List.nodup_append]
  refine ⟨?_, hgroups, by simp, ?_⟩
  · simp [hnot .serviceAccount rfl]
  · intro p hp p' hp' heq
    subst heq
    simp only [List.mem_cons, List.not_mem_nil, or_false] at hp'
    rcases hp' with rfl | rfl
    · exact hnot _ rfl hp
    · exact hnot _ rfl hp

/-- The keys of a cluster are different, unless one of its role groups is named after the metrics
Service of another. -/
theorem keys_nodup {names : List String} (hnames : names.Nodup)
    (hmetrics : ∀ g ∈ names, g ++ "-metrics" ∉ names) (c : ClusterKey) :
    ((purposes names).map c.objectKey).Nodup := by
  refine (purposes_nodup hnames).map_on (fun p hp p' hp' heq => ?_)
  obtain ⟨hkind, -, hname⟩ := ObjectKey.mk.inj heq
  rcases (resourceName_eq_iff hkind).mp hname with ⟨-, rfl⟩ | hclash
  · rfl
  · rw [mem_purposes] at hp hp'
    obtain ⟨g, ⟨rfl, rfl⟩ | ⟨rfl, rfl⟩⟩ := (clash_self_iff _ _ _).mp hclash
    · exact absurd (hp' _ rfl) (hmetrics g (hp _ rfl))
    · exact absurd (hp _ rfl) (hmetrics g (hp' _ rfl))

/-! ### The resources of a registration -/

namespace ClusterResources

variable (res : ClusterResources)

theorem mem_reconcilers {r : ResourceReconciler} : r ∈ res.reconcilers ↔
    r = .serviceAccount res.node.kubeNamespace res.serviceAccount ∨
    (∃ b ∈ res.roleGroups, r ∈ b.reconcilers res.node.kubeNamespace) ∨
    r = .discovery res.node.kubeNamespace res.discovery ∨
    r = .discovery res.node.kubeNamespace res.nodePortDiscovery := by
  simp [reconcilers_eq]

theorem not_isDiscovery_of_mem {b : RoleGroupResources} {ns : String} {r : ResourceReconciler}
    (hr : r ∈ b.reconcilers ns) : r.isDiscovery = false := by
  simp only [RoleGroupResources.reconcilers, List.mem_cons, List.not_mem_nil, or_false] at hr
  rcases hr with rfl | rfl | rfl | rfl | rfl <;> rfl

/-- Discovery is reconciled after everything else. -/
theorem discovery_last :
    res.reconcilers.Pairwise (fun r r' => r.isDiscovery = true → r'.isDiscovery = true) := by
  have hgroups : ∀ r ∈ res.roleGroups.flatMap (fun b => b.reconcilers res.node.kubeNamespace),
      r.isDiscovery = false := by
    intro r hr
    obtain ⟨b, -, hr⟩ := List.mem_flatMap.mp hr
    exact not_isDiscovery_of_mem hr
  rw [reconcilers_eq, List.pairwise_cons, List.pairwise_append]
  refine ⟨?_, ?_, ?_, ?_⟩
  · intro _ _ hdisc
    cases hdisc
  · refine List.pairwise_of_forall_mem_list ?_
    intro r hr _ _ hdisc
    rw [hgroups r hr] at hdisc
    cases hdisc
  · simp [ResourceReconciler.isDiscovery]
  · intro r hr _ _ hdisc
    rw [hgroups r hr] at hdisc
    cases hdisc

/-- The tasks of one pass over a registration. -/
def plan (lib : Library) (input : ResourceReconciler → StepInput) (h : Heap) :
    List (Task Object.key) :=
  KafkaOperator.plan lib input res.reconcilers h

end ClusterResources

section Registered

variable {lib : Library} {cluster : KafkaCluster} {spec : BrokersSpec} {res : ClusterResources}
  {h : Heap}

/-- The two discovery ConfigMaps look for the same port. -/
theorem RegistersIn.portName (hreg : RegistersIn lib.op cluster spec res h) :
    res.nodePortDiscovery.portName = res.discovery.portName := by
  obtain ⟨k, image, -, -, -, hdisc, hnodePort⟩ := hreg.parts
  rw [hdisc, hnodePort]
  rfl

/-- No role group is registered as stopped. -/
theorem RegistersIn.not_stopped (hreg : RegistersIn lib.op cluster spec res h)
    {b : RoleGroupResources} (hb : b ∈ res.roleGroups) : b.stopped = false := by
  obtain ⟨k, image, -, -, hnode⟩ := hreg.node
  obtain ⟨name, filled, -, hbuilt⟩ := hreg.built hb
  obtain ⟨_, _, _, rfl⟩ := hbuilt.registered
  rw [hnode]
  rfl

/-- The `Build` of any registered resource keeps the invariant of the builds. -/
theorem heapAfter_keeps {node : BrokerReconciler} {s : Store Path BrokersConfigSpec}
    {r : ResourceReconciler} (hr : r ∈ res.reconcilers) (i : StepInput) {h : Heap}
    (hinv : BuildsInv lib.op node spec res.roleGroups s h) :
    BuildsInv lib.op node spec res.roleGroups s (r.heapAfter lib i h) := by
  rcases res.mem_reconcilers.mp hr with rfl | ⟨b, hb, hr⟩ | rfl | rfl
  · exact hinv
  · simp only [RoleGroupResources.reconcilers, List.mem_cons, List.not_mem_nil, or_false] at hr
    rcases hr with rfl | rfl | rfl | rfl | rfl
    · exact hinv
    · simp only [ResourceReconciler.heapAfter, ResourceReconciler.build, Prog.bind_pure_apply,
        World.onHeap, Prog.on_apply]
      exact hinv.run (.single (.configMap hb i.orders i.files h))
    · simp only [ResourceReconciler.heapAfter, ResourceReconciler.build, Prog.bind_pure_apply,
        World.onHeap, Prog.on_apply]
      exact hinv
    · exact hinv
    · exact hinv
  · simp only [ResourceReconciler.heapAfter, ResourceReconciler.build, Prog.bind_pure_apply,
      Prog.reads_apply]
    exact hinv
  · simp only [ResourceReconciler.heapAfter, ResourceReconciler.build, Prog.bind_pure_apply,
      Prog.reads_apply]
    exact hinv

/-- The setting of vector lets the role group's ConfigMap be built. -/
def RoleGroupResources.VectorUsable (b : RoleGroupResources) (cluster : KafkaCluster) (h : Heap) :
    Prop :=
  ∀ cc x, cluster.spec.clusterConfig = some cc → b.configMap.roleGroupConfig h = some x →
    vectorSetting cc x.logging = .off ∨ vectorSetting cc x.logging = .configured

/-- Every resource of a pass but discovery can be built, whatever the API server holds. -/
theorem Admitted.desired_ok (hadm : Admitted cluster spec)
    (hreg : RegistersIn lib.op cluster spec res h)
    (hvector : ∀ b ∈ res.roleGroups, b.VectorUsable cluster h)
    {input : ResourceReconciler → StepInput} (hop : lib.ReliableFor input res h)
    {rs : List ResourceReconciler} {h' : Heap}
    (hrs : ∀ r ∈ rs, r ∈ res.reconcilers) (hrun : HeapRun lib input rs h h') {r : ResourceReconciler}
    (hr : r ∈ rs) (hdisc : r.isDiscovery = false) (api : ApiServer) :
    ∃ o, r.desired lib (input r) h' api = .ok o := by
  obtain ⟨node, hinv⟩ := hadm.buildsInv hreg
  have hinv' : BuildsInv lib.op node spec res.roleGroups h.configs h' :=
    (hrun.mono hrs).keeps (fun r hr h => heapAfter_keeps hr (input r)) hinv
  rcases res.mem_reconcilers.mp (hrs r hr) with rfl | ⟨b, hb, hr⟩ | rfl | rfl
  · exact ⟨_, rfl⟩
  · obtain ⟨cc, x, hcc, hx, hend⟩ := hadm.builds_end hreg hb
    have hends := hend node h' hinv' (hop b hb h' (hrun.mono hrs))
    simp only [RoleGroupResources.reconcilers, List.mem_cons, List.not_mem_nil, or_false] at hr
    rcases hr with rfl | rfl | rfl | rfl | rfl
    · exact ⟨_, rfl⟩
    · obtain ⟨hcm, -⟩ := hends (input (.configMap b.configMap)).orders
        (input (.configMap b.configMap)).files []
      have hok : ∃ cm, (b.configMap.build lib.op (input (.configMap b.configMap)).orders
          (input (.configMap b.configMap)).files h').1 = .ok cm := by
        rcases hvector b hb cc x hcc hx with hset | hset <;> rwa [hset] at hcm
      obtain ⟨cm, hcm⟩ := hok
      simp only [ResourceReconciler.desired, ResourceReconciler.build, Prog.bind_pure_apply,
        World.onHeap, Prog.on_apply, hcm]
      exact ⟨_, rfl⟩
    · rw [hreg.not_stopped hb]
      generalize horder : (input (.statefulSet b.statefulSet false)).protocols.list
        b.statefulSet.listenerConfig.listenerSecurityProtocolMap = order
      obtain ⟨-, hsts⟩ := hends (input (.configMap b.configMap)).orders
        (input (.configMap b.configMap)).files order
      have hok : ∃ sts, (b.statefulSet.build lib.op order h').1 = .ok sts := by
        rcases hvector b hb cc x hcc hx with hset | hset <;> rwa [hset] at hsts
      obtain ⟨sts, hsts⟩ := hok
      simp only [ResourceReconciler.desired, ResourceReconciler.build, Prog.bind_pure_apply,
        World.onHeap, Prog.on_apply, Bool.false_eq_true, if_false, horder, hsts]
      exact ⟨_, rfl⟩
    · exact ⟨_, rfl⟩
    · exact ⟨_, rfl⟩
  · cases hdisc
  · cases hdisc

/-- Every task of a pass can compute its object. -/
theorem Admitted.tasks_ok (hadm : Admitted cluster spec)
    (hreg : RegistersIn lib.op cluster spec res h)
    (hvector : ∀ b ∈ res.roleGroups, b.VectorUsable cluster h)
    {input : ResourceReconciler → StepInput} (hop : lib.ReliableFor input res h)
    (hquiet : ∀ r, (input r).Quiet) {api : ApiServer}
    (hpub : Published res.discovery.portName api) :
    ∀ t ∈ res.plan lib input h, ∃ o, t.desired api = .ok o := by
  intro t ht
  obtain ⟨r, hr, h', hrun, rfl⟩ := mem_plan ht
  cases hdisc : r.isDiscovery with
  | false => exact hadm.desired_ok hreg hvector hop (fun _ => id) hrun hr hdisc api
  | true =>
      rcases res.mem_reconcilers.mp hr with rfl | ⟨b, hb, hr⟩ | rfl | rfl
      · cases hdisc
      · rw [ClusterResources.not_isDiscovery_of_mem hr] at hdisc
        cases hdisc
      · exact hpub.desired_discovery (hquiet _)
      · rw [← hreg.portName] at hpub
        exact hpub.desired_discovery (hquiet _)

/-! ### Passes -/

/-- Asking whether resources are ready writes nothing. -/
theorem ResourceReconciler.ready_snd (lib : Library) (r : ResourceReconciler) (api : ApiServer) :
    (r.ready lib api).2 = api := by
  cases r with
  | statefulSet b stopped => exact lib.readyStatefulSet_snd _ api
  | _ => simp only [ResourceReconciler.ready, lib.readyResource_eq, Prog.pure_apply]

theorem ready_snd (lib : Library) (res : ClusterResources) (api : ApiServer) :
    (res.ready lib api).2 = api := by
  rw [ClusterResources.ready_eq]
  refine reconcileAll_keeps (I := fun s => s = api) (fun r _ s hs => ?_) api rfl
  rw [r.ready_snd, hs]

variable {i : PassInput}

/-- What is left after a pass is what its loop leaves. -/
theorem reconcile_snd (hget : i.getFault = none) (hrun : cluster.register lib i = (.ok res, h))
    (api : ApiServer) :
    (reconcile lib i (some cluster) api).2 = (res.reconcile lib i.step ⟨h, api⟩).2.api := by
  simp only [reconcile, hget, hrun]
  by_cases hzero : (res.reconcile lib i.step ⟨h, api⟩).1 = .ok .zero
  · rw [Prog.andThen_of_zero (Prod.ext hzero rfl)]
    exact ready_snd lib res _
  · rw [Prog.andThen_of_ne hzero]

/-- **A pass over a registered cluster** runs its tasks; asking whether all is ready comes after
that, where nothing was left to do. -/
theorem reconcile_registered (hget : i.getFault = none) (hquiet : ∀ r, (i.step r).Quiet)
    (hrun : cluster.register lib i = (.ok res, h)) (api : ApiServer) :
    (reconcile lib i (some cluster) api).2 =
      afterPass Object.update lib.onMutation (res.plan lib i.step h) api ∧
    ((reconcileAll (Task.run Object.update lib.onMutation) (res.plan lib i.step h) api).1 ≠ .ok .zero →
      (reconcile lib i (some cluster) api).1 =
        (reconcileAll (Task.run Object.update lib.onMutation) (res.plan lib i.step h) api).1) ∧
    ((reconcileAll (Task.run Object.update lib.onMutation) (res.plan lib i.step h) api).1 = .ok .zero →
      (reconcile lib i (some cluster) api).1 =
        (res.ready lib (afterPass Object.update lib.onMutation (res.plan lib i.step h) api)).1) := by
  obtain ⟨hfst, hsnd⟩ := reconcileAll_plan lib hquiet res.reconcilers h api
  rw [← ClusterResources.reconcile_eq] at hfst hsnd
  refine ⟨(reconcile_snd hget hrun api).trans hsnd, ?_⟩
  simp only [reconcile, hget, hrun, ClusterResources.plan, afterPass]
  by_cases hzero : (res.reconcile lib i.step ⟨h, api⟩).1 = .ok .zero
  · rw [Prog.andThen_of_zero (Prod.ext hzero rfl), ← hsnd]
    exact ⟨fun hne => absurd (hfst.symm.trans hzero) hne, fun _ => rfl⟩
  · rw [Prog.andThen_of_ne hzero]
    exact ⟨fun _ => hfst, fun h => absurd (hfst.trans h) hzero⟩

/-- In a settled state a pass writes nothing, and asks for what is not ready. -/
theorem reconcile_of_settled (hget : i.getFault = none) (hquiet : ∀ r, (i.step r).Quiet)
    (hrun : cluster.register lib i = (.ok res, h)) {api : ApiServer}
    (hsettled : Settled Object.update (res.plan lib i.step h) api) :
    reconcile lib i (some cluster) api = ((res.ready lib api).1, api) := by
  have hloop : reconcileAll (Task.run Object.update lib.onMutation) (res.plan lib i.step h) api =
      (.ok .zero, api) := reconcileAll_of_settled hsettled
  have hafter : afterPass Object.update lib.onMutation (res.plan lib i.step h) api = api := by
    rw [afterPass, hloop]
  obtain ⟨hsnd, -, hfst⟩ := reconcile_registered hget hquiet hrun api
  rw [hafter] at hsnd hfst
  exact Prod.ext (hfst (by rw [hloop])) hsnd

/-- The tasks of a cluster whose metrics Services have names of their own can be ensured in their
order. -/
theorem RegistersIn.layered_plan (hreg : RegistersIn lib.op cluster spec res h)
    (hmetrics : ∀ g, (spec.groups.get g).isSome → spec.groups.get (g ++ "-metrics") = none)
    (input : ResourceReconciler → StepInput) : Layered (res.plan lib input h) := by
  obtain ⟨l, hl, hkeys⟩ := keys_reconcilers hreg
  have hmem : ∀ g, g ∈ l.map Prod.fst ↔ (spec.groups.get g).isSome := by
    intro g
    rw [List.mem_map, Option.isSome_iff_exists]
    constructor
    · rintro ⟨⟨g', e⟩, he, rfl⟩
      exact ⟨e, (hl.2 g' e).mp he⟩
    · rintro ⟨e, he⟩
      exact ⟨(g, e), (hl.2 g e).mpr he, rfl⟩
  refine KafkaOperator.layered_plan ?_ res.discovery_last
  rw [hkeys]
  refine keys_nodup hl.1 (fun g hg hg' => ?_) _
  rw [hmem] at hg hg'
  rw [hmetrics g hg] at hg'
  cases hg'

/-- What is left after a pass is what running its tasks leaves. -/
theorem pass_eq (hget : i.getFault = none) (hquiet : ∀ r, (i.step r).Quiet)
    (hrun : cluster.register lib i = (.ok res, h)) :
    (fun api => (reconcile lib i (some cluster) api).2) =
      afterPass Object.update lib.onMutation (res.plan lib i.step h) :=
  funext (fun api => (reconcile_registered hget hquiet hrun api).1)

/-- As many passes as there are resources settle the cluster. -/
theorem Admitted.settled_passes (hadm : Admitted cluster spec) (hget : i.getFault = none)
    (hquiet : ∀ r, (i.step r).Quiet) (hrun : cluster.register lib i = (.ok res, h))
    (hop : lib.ReliableFor i.step res h) (hvector : ∀ b ∈ res.roleGroups, b.VectorUsable cluster h)
    (hmetrics : ∀ g, (spec.groups.get g).isSome → spec.groups.get (g ++ "-metrics") = none)
    {api : ApiServer} (hpub : Published res.discovery.portName api) :
    Settled Object.update (res.plan lib i.step h)
      ((fun api => (reconcile lib i (some cluster) api).2)^[res.reconcilers.length] api) := by
  obtain ⟨spec', hreg⟩ := registersIn_of_register hrun
  obtain rfl := Option.some.inj (hadm.brokers.symm.trans hreg.brokers)
  have hkeeps : ∀ api, Published res.discovery.portName api → Published res.discovery.portName
      (afterPass Object.update lib.onMutation (res.plan lib i.step h) api) := by
    intro api hpub
    exact reconcileAll_keeps (fun t ht => Published.run_of_mem_plan ht _) api hpub
  have hlayered := hreg.layered_plan hmetrics i.step
  have hlength : (res.plan lib i.step h).length = res.reconcilers.length := length_plan
  rw [← List.append_nil (res.plan lib i.step h)] at hlayered hkeeps
  have hsettled := settled_iterate hlayered
    (fun _ hpub => hadm.tasks_ok hreg hvector hop hquiet hpub) hkeeps hpub hlength.le
  rwa [List.append_nil, ← pass_eq hget hquiet hrun] at hsettled

end Registered

theorem Library.reference_reliableFor (input : ResourceReconciler → StepInput)
    (res : ClusterResources) (h : Heap) : Library.reference.ReliableFor input res h :=
  fun b _ h' _ => OperatorGo.reference_reliableIn _ b h'

/-- The cluster with Kerberos and TLS is registered, and none of its role groups enables vector. -/
theorem securedCluster_register (i : PassInput) : ∃ res h,
    securedCluster.register .reference i = (.ok res, h) ∧
    RegistersIn Library.reference.op securedCluster securedBrokers res h ∧
    ∀ b ∈ res.roleGroups, b.VectorUsable securedCluster h := by
  obtain ⟨res, h, hrun⟩ := securedCluster_admitted.register_ok
    .reference (OperatorGo.reference_not_mergeFails _) i
  obtain ⟨spec, hreg⟩ := registersIn_of_register hrun
  obtain rfl := Option.some.inj (securedCluster_admitted.brokers.symm.trans hreg.brokers)
  refine ⟨res, h, hrun, hreg, fun b hb cc x hcc hx => ?_⟩
  obtain ⟨name, filled, -, hbuilt⟩ := hreg.built hb
  rw [securedBrokers_effectiveConfig] at hbuilt
  obtain rfl := Option.some.inj (hx.symm.trans (hbuilt.roleGroupConfig rfl))
  exact .inl rfl

theorem securedBrokers_metrics : ∀ g, (securedBrokers.groups.get g).isSome →
    securedBrokers.groups.get (g ++ "-metrics") = none := by
  intro g hg
  rw [securedBrokers, BrokersSpec.single_get] at hg
  split_ifs at hg with hname
  · subst hname
    decide
  · cases hg

theorem published_empty (portName : String) : Published portName Inventory.empty := by
  intro k l hl
  cases hl

/-- There is a settled state for the cluster with Kerberos and TLS. -/
theorem securedCluster_settled : ∃ (i : PassInput) (res : ClusterResources) (h : Heap)
    (api : ApiServer), i.getFault = none ∧ (∀ r, (i.step r).Quiet) ∧
      securedCluster.register .reference i = (.ok res, h) ∧
      RegistersIn Library.reference.op securedCluster securedBrokers res h ∧
      Settled Object.update (res.plan .reference i.step h) api := by
  obtain ⟨i, hget, hquiet⟩ := PassInput.exists_quiet
  obtain ⟨res, h, hrun, hreg, hvector⟩ := securedCluster_register i
  exact ⟨i, res, h, _, hget, hquiet, hrun, hreg, securedCluster_admitted.settled_passes hget hquiet
    hrun (Library.reference_reliableFor _ _ _) hvector securedBrokers_metrics (published_empty _)⟩

end KafkaOperator
