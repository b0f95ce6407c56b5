import KafkaOperator.Settling

/-! # Orders that starve a cluster

`passes_settle` is about passes that visit their maps in one order.  Go leaves the order open, and
the arguments of the main container are a rendering of the protocol map in the order in which it
was visited, so two passes over one specification can want two StatefulSets
(`desired_statefulSet_ne`).  Where a write ends a pass, this is enough to stop it: whatever the API
server holds, one of two orders makes the StatefulSet of the role group that is visited first out of
date (`exists_stopping_pass`).

`orders_can_starve` follows: with such an order in every pass no pass gets beyond that StatefulSet,
for ever, although the specification never changes and no request fails.

The StatefulSets are compared where the pod template has the containers that were added, in whatever
order, so the user overrides neither the pod nor commands nor environment variables; that no such
override appears on the way is an invariant of registration and of the builds (`register_podPlain`,
`heapAfter_podPlain`). -/

namespace KafkaOperator

open Go

/-! ### Overrides that leave the pod alone -/

/-- Merging overrides that leave the pod alone gives such overrides. -/
def OperatorGo.MergesPodPlain (op : OperatorGo) : Prop :=
  ∀ a b v : OverridesSpec, a.PodPlain → b.PodPlain → op.mergeOverridesSpec a b = .ok v → v.PodPlain

/-- Neither the role nor a role group overrides anything in the pod. -/
structure KafkaCluster.PodPlain (cluster : KafkaCluster) : Prop where
  role : ∀ spec, cluster.spec.brokers = some spec → ∀ u, spec.overridesSpec = some u → u.PodPlain
  group : ∀ spec, cluster.spec.brokers = some spec → ∀ g u, spec.ownOverrides g = some u → u.PodPlain

/-- All overrides on the heap leave the pod alone. -/
def Heap.PodPlain (h : Heap) : Prop := h.overrides.All OverridesSpec.PodPlain

theorem OverridesSpec.zero_podPlain : OverridesSpec.zero.PodPlain := ⟨rfl, rfl, rfl⟩

/-- The defaults are files, `ComputeCli` and `ComputeEnv` only return errors. -/
theorem mergeOverrides_podPlain {o : Orders} {u v : OverridesSpec} {c : Constants} {d : KafkaConfig}
    (hu : u.PodPlain) (h : mergeOverrides o u (d.overrideConfiguration c) = .ok v) : v.PodPlain := by
  obtain ⟨m, -, h⟩ := Outcome.bind_eq_ok.mp h
  obtain rfl := Outcome.ok.inj h
  exact ⟨hu.pod, hu.cli, hu.env⟩

theorem KafkaCluster.PodPlain.load {cluster : KafkaCluster} (hplain : cluster.PodPlain) :
    cluster.load.PodPlain := by
  intro r u hu
  cases hspec : cluster.spec.brokers with
  | none =>
      rw [KafkaCluster.load, hspec] at hu
      cases r with
      | given p => cases hu
      | fresh n => cases hu
  | some spec =>
      rw [cluster.load_eq hspec] at hu
      cases r with
      | given p =>
          cases p with
          | role => exact hplain.role spec hspec u hu
          | group g => exact hplain.group spec hspec g u hu
      | fresh n => cases hu

section Register

variable {op : OperatorGo} (hop : op.MergesPodPlain)

theorem onConfigs_keeps_podPlain {α : Type} (m : Prog (Store Path BrokersConfigSpec) α) :
    Prog.Keeps Heap.PodPlain (Heap.onConfigs m) :=
  Heap.onConfigs_keeps (Store.All OverridesSpec.PodPlain) m

theorem onOverrides_keeps_podPlain {α : Type} {m : Prog (Store Path OverridesSpec) α}
    (h : Prog.Keeps (Store.All OverridesSpec.PodPlain) m) :
    Prog.Keeps Heap.PodPlain (Heap.onOverrides m) :=
  Heap.onOverrides_keeps h

theorem mergeFromUserConfig_keeps_podPlain (o : Orders) (config overrides : Option (Ref Path))
    (clusterName : String) : Prog.Keeps Heap.PodPlain
      (BrokerReconciler.mergeFromUserConfig op o config overrides clusterName) := by
  refine .bind (onConfigs_keeps_podPlain _) (fun _ => .bind (onConfigs_keeps_podPlain _) (fun _ => ?_))
  refine .bind (onOverrides_keeps_podPlain (orNew_keeps_all _ OverridesSpec.zero_podPlain)) (fun _ => ?_)
  exact onOverrides_keeps_podPlain (.update_all (fun u v hu hv => mergeOverrides_podPlain hu hv))

include hop

theorem registerRoleGroup_keeps_podPlain (r : BrokerReconciler) (orders : String → Orders)
    (e : String × Option BrokersRoleGroupSpec) :
    Prog.Keeps Heap.PodPlain (r.registerRoleGroup op orders e) := by
  refine .bind (.lift _) (fun _ => .bind (onConfigs_keeps_podPlain _) (fun _ => ?_))
  refine .bind (onOverrides_keeps_podPlain
    (fun s hs => mergeObject_keeps_all hop _ _ _ s hs)) (fun _ => ?_)
  refine .bind (onOverrides_keeps_podPlain (orNew_keeps_all _ OverridesSpec.zero_podPlain)) (fun _ => ?_)
  refine .bind (onConfigs_keeps_podPlain _) (fun _ => ?_)
  refine .bind (mergeFromUserConfig_keeps_podPlain _ _ _ _) (fun _ => ?_)
  exact .bind (onConfigs_keeps_podPlain _) (fun _ => .pure _)

end Register

/-- **A registration brings in no override of the pod.** -/
theorem register_podPlain {lib : Library} (hop : lib.op.MergesPodPlain) {cluster : KafkaCluster}
    (hplain : cluster.PodPlain) {i : PassInput} {res : ClusterResources} {h : Heap}
    (hrun : cluster.register lib i = (.ok res, h)) : h.PodPlain := by
  obtain ⟨k, image, -, -, -, hbrokers⟩ := Reconciler.registerResources_eq_ok hrun
  have hkeeps : Prog.Keeps Heap.PodPlain (res.node.registerResources lib.op i.orders
      (i.groups.list cluster.roleGroups)) :=
    .bind (.lift _) (fun _ => .visit (fun e _ =>
      registerRoleGroup_keeps_podPlain hop res.node i.orders e))
  have hend := hkeeps cluster.load hplain.load
  rwa [hbrokers] at hend

theorem buildServerProperties_keeps_podPlain (b : KafkaConfigmapBuilder) (o : Orders) :
    Prog.Keeps Heap.PodPlain (b.buildServerProperties o) := by
  intro h hplain
  rcases b.buildServerProperties_heap o h with heq | ⟨ref, u, m, data, hread, -, heq⟩
  · rw [heq]
    exact hplain
  · rw [heq]
    have hu := hplain ref u hread
    have hfile : (u.withFile m serverPropertiesFilename data).PodPlain := ⟨hu.pod, hu.cli, hu.env⟩
    exact Store.All.write hplain hfile ref

/-- **The builds bring in no override of the pod.** -/
theorem heapAfter_podPlain (lib : Library) (i : StepInput) (r : ResourceReconciler) {h : Heap}
    (hplain : h.PodPlain) : (r.heapAfter lib i h).PodPlain := by
  cases r with
  | configMap b =>
      simp only [ResourceReconciler.heapAfter, ResourceReconciler.build, Prog.bind_pure_apply,
        World.onHeap, Prog.on_apply]
      refine build_keeps (fun f => ?_) i.files h hplain
      cases f with
      | server => exact buildServerProperties_keeps_podPlain b i.orders
      | security => exact .reads _
      | log4j => exact .reads _
  | statefulSet b stopped =>
      simp only [ResourceReconciler.heapAfter, ResourceReconciler.build, Prog.bind_pure_apply,
        World.onHeap, Prog.on_apply]
      exact hplain
  | discovery ns b => rwa [ResourceReconciler.heapAfter_of_discovery rfl]
  | serviceAccount ns name => exact hplain
  | service ns b => exact hplain
  | listener b => exact hplain

/-! ### Two orders, two StatefulSets -/

section Orders

variable {lib : Library} {b : StatefulSetBuilder} {stopped : Bool}

/-- The arguments of the containers that are named `kafka`. -/
def StatefulSet.kafkaArgs (sts : StatefulSet) : List (List String) :=
  (sts.template.containers.filter (·.name = "kafka")).map (·.args)

/-- In a built pod these are the arguments of the main container, wherever it stands. -/
theorem BuiltPod.kafkaArgs_eq {op : OperatorGo}
    {order : List (KafkaListenerName × KafkaListenerProtocol)} {v : BrokersConfigSpec}
    {sts : StatefulSet} {enabled : Bool} {main : Container} {volumes : List Volume}
    (hpod : BuiltPod op b order v sts enabled main volumes)
    (hother : (op.vectorContainer kubedoopConfigDirName kubedoopLogDirName b.image).name ≠ "kafka") :
    sts.kafkaArgs = [main.args] := by
  have hkafka : (main.addVolumeMounts (b.kafkaTlsSecurity.keystores.map (·.mount))).name = "kafka" :=
    hpod.mainContainer.name
  have hperm := (hpod.containers_perm.filter (fun c => c.name = "kafka")).map (·.args)
  rw [List.filter_cons_of_pos (by simp [hkafka])] at hperm
  have hvector : (if enabled then
      [op.vectorContainer kubedoopConfigDirName kubedoopLogDirName b.image] else []).filter
        (fun c => c.name = "kafka") = [] := by
    split_ifs
    · simp [hother]
    · rfl
  rw [hvector] at hperm
  exact List.perm_singleton.mp hperm

/-- The arguments of the main container of a StatefulSet that is built. -/
theorem desired_statefulSet_args {i : StepInput} {h : Heap} {api : ApiServer} {o : Object}
    (hother : ∀ image,
      (lib.op.vectorContainer kubedoopConfigDirName kubedoopLogDirName image).name ≠ "kafka")
    (hplain : h.PodPlain) (ho : (ResourceReconciler.statefulSet b stopped).desired lib i h api = .ok o) :
    ∃ cc sts args, b.clusterConfig = some cc ∧ o = .statefulSet sts 0 ∧
      (b.kafkaContainer cc).commandArgs lib.op
        (i.protocols.list b.listenerConfig.listenerSecurityProtocolMap) = .ok args ∧
      sts.kafkaArgs = [args] := by
  obtain ⟨sts, hsts, rfl⟩ := ResourceReconciler.desired_statefulSet ho
  -- the number of replicas is in none of the parts
  obtain ⟨b', hb', hcc, hcontainer, hlisteners⟩ : ∃ b',
      (if stopped then { b with replicas := lib.stoppedReplicas b.replicas } else b) = b' ∧
        b'.clusterConfig = b.clusterConfig ∧ b'.kafkaContainer = b.kafkaContainer ∧
        b'.listenerConfig = b.listenerConfig := by
    cases stopped <;> exact ⟨_, rfl, rfl, rfl, rfl⟩
  rw [hb', hlisteners] at hsts
  obtain ⟨v, -, hfrom⟩ := Outcome.bind_eq_ok.mp hsts
  have hpod : ∀ u, b'.overrides.bind h.overrides.read = some u → u.PodPlain := by
    intro u hu
    obtain ⟨ref, -, hread⟩ := Option.bind_eq_some_iff.mp hu
    exact hplain ref u hread
  obtain ⟨enabled, main, volumes, hpodBuilt⟩ :=
    StatefulSetBuilder.buildFrom_pod (hother _) (templateKeeps_of_podPlain lib.op hpod) hfrom
  obtain ⟨cc, -, hsome, -, hargs, -⟩ := hpodBuilt.mainContainer.built
  rw [hcontainer] at hargs
  exact ⟨cc, sts, main.args, hcc ▸ hsome, rfl, hargs, hpodBuilt.kafkaArgs_eq (hother _)⟩

/-- **Two orders of the protocol map want two StatefulSets**, whatever else is the case when they
are built. -/
theorem desired_statefulSet_ne {i i' : StepInput}
    (hother : ∀ image,
      (lib.op.vectorContainer kubedoopConfigDirName kubedoopLogDirName image).name ≠ "kafka")
    (hi : i.protocols.list b.listenerConfig.listenerSecurityProtocolMap =
      b.kafkaTlsSecurity.listenerNames.map b.kafkaTlsSecurity.protocolEntry)
    (hi' : i'.protocols.list b.listenerConfig.listenerSecurityProtocolMap =
      (.internal :: b.kafkaTlsSecurity.clientListener :: b.kafkaTlsSecurity.furtherListeners).map
        b.kafkaTlsSecurity.protocolEntry) {h h' : Heap} (hplain : h.PodPlain) (hplain' : h'.PodPlain)
    {api api' : ApiServer} {o o' : Object}
    (ho : (ResourceReconciler.statefulSet b stopped).desired lib i h api = .ok o)
    (ho' : (ResourceReconciler.statefulSet b stopped).desired lib i' h' api' = .ok o') :
    o.spec ≠ o'.spec := by
  obtain ⟨cc, sts, args, hcc, rfl, hargs, hkafka⟩ := desired_statefulSet_args hother hplain ho
  obtain ⟨cc', sts', args', hcc', rfl, hargs', hkafka'⟩ := desired_statefulSet_args hother hplain' ho'
  obtain rfl := Option.some.inj (hcc.symm.trans hcc')
  intro heq
  obtain ⟨rfl, -⟩ := Object.statefulSet.inj heq
  obtain rfl := List.singleton_inj.mp (hkafka.symm.trans hkafka')
  rw [hi] at hargs
  rw [hi'] at hargs'
  rcases (b.kafkaContainer cc).commandArgs_context lib.op with hpanic | ⟨p, q, hctx⟩
  · rw [hpanic] at hargs
    cases hargs
  · have hsame := hargs.trans hargs'.symm
    rw [hctx, hctx] at hsame
    simp only [Outcome.ok.injEq, List.cons.injEq, and_true, append_context_inj] at hsame
    exact b.kafkaTlsSecurity.protocolMapString_swap_ne hsame

end Orders

/-! ### A pass that gets no further -/

/-- What a pass ensures first, where it visits the role group first. -/
def earlyPurposes (g : String) : List Purpose :=
  [.serviceAccount, .roleGroupService g, .roleGroupConfigMap g, .statefulSet g]

/-- The purposes that come after these in every order, and those of the other role groups; two
purposes of Services can have one object, so these are left out. -/
def Purpose.StarvedBy (g : String) (p : Purpose) : Prop := p ∉ earlyPurposes g ∧ p.kind ≠ .service

/-- The pass with another order of the protocol map. -/
def PassInput.withProtocols (i : PassInput) (o : Map.Order KafkaListenerName KafkaListenerProtocol) :
    PassInput :=
  { i with step := fun r => { i.step r with protocols := o } }

/-- The resources of a pass that visits the role group first. -/
theorem exists_split_statefulSet {lib : Library} {cluster : KafkaCluster} {i : PassInput}
    {res : ClusterResources} {h : Heap} (hrun : cluster.register lib i = (.ok res, h)) {g : String}
    {v : Option BrokersRoleGroupSpec} {l : List (String × Option BrokersRoleGroupSpec)}
    (hfirst : i.groups.list cluster.roleGroups = (g, v) :: l) :
    ∃ pre b stopped post, res.reconcilers = pre ++ [.statefulSet b stopped] ++ post ∧
      (∀ r ∈ pre, r.key ≠ (ResourceReconciler.statefulSet b stopped).key) ∧
      ∀ p, p.StarvedBy g → ∀ r ∈ pre ++ [.statefulSet b stopped],
        cluster.namespacedName.objectKey p ≠ r.key := by
  have hkeys := keys_of_register hrun
  have hearly : purposes (((g, v) :: l).map Prod.fst) = earlyPurposes g ++
      ([.bootstrapListener g, .metricsService g] ++
        ((l.map Prod.fst).flatMap groupPurposes ++ [.discovery, .nodePortDiscovery])) := by
    simp [purposes, groupPurposes, earlyPurposes]
  rw [hfirst, hearly, List.map_append, List.map_eq_append_iff] at hkeys
  obtain ⟨front, post, hsplit, hfront, -⟩ := hkeys
  have hlast : earlyPurposes g =
      [.serviceAccount, .roleGroupService g, .roleGroupConfigMap g] ++ [.statefulSet g] := rfl
  have hparts := hfront
  rw [hlast, List.map_append, List.map_eq_append_iff] at hparts
  obtain ⟨pre, last, rfl, hpre, hkey⟩ := hparts
  obtain ⟨r, _, rfl, hr, hnil⟩ := List.map_eq_cons_iff.mp hkey
  obtain rfl := List.map_eq_nil_iff.mp hnil
  have hkind := congrArg ObjectKey.kind hr
  obtain ⟨b, stopped, rfl⟩ : ∃ b stopped, r = .statefulSet b stopped := by
    cases r with
    | statefulSet b stopped => exact ⟨b, stopped, rfl⟩
    | _ => cases hkind
  refine ⟨pre, b, stopped, post, hsplit, ?_, ?_⟩
  · intro r' hr' hsame
    have hmem : r'.key ∈ pre.map ResourceReconciler.key := List.mem_map_of_mem hr'
    rw [hpre] at hmem
    obtain ⟨p, hp, hpkey⟩ := List.mem_map.mp hmem
    obtain rfl : Purpose.statefulSet g = p :=
      objectKey_inj (by simp [Purpose.kind]) (hr.symm.trans (hsame.symm.trans hpkey.symm))
    simp at hp
  · rintro p ⟨hlate, hservice⟩ r' hr' hsame
    have hmem := List.mem_map_of_mem (f := ResourceReconciler.key) hr'
    rw [hfront] at hmem
    obtain ⟨p', hp', hpkey⟩ := List.mem_map.mp hmem
    obtain rfl := objectKey_inj hservice (hsame.trans hpkey.symm)
    exact hlate hp'

section Pass

variable {lib : Library} {input : ResourceReconciler → StepInput} {pre : List ResourceReconciler}

/-- A loop leaves the objects alone that have none of its keys. -/
theorem reconcileAll_get_ne (lib : Library) (input : ResourceReconciler → StepInput)
    {rs : List ResourceReconciler} {k : ObjectKey} (hk : ∀ r ∈ rs, k ≠ r.key) (w : World) :
    (reconcileAll (fun r => r.reconcile lib (input r)) rs w).2.api.get k = w.api.get k := by
  refine reconcileAll_keeps (I := fun w' : World => w'.api.get k = w.api.get k)
    (fun r hr w' hw' => ?_) w rfl
  rw [← hw']
  exact ResourceReconciler.reconcile_get_ne (hk r hr)

theorem reconcileAll_podPlain (lib : Library) (input : ResourceReconciler → StepInput)
    (rs : List ResourceReconciler) {w : World} (hw : w.heap.PodPlain) :
    (reconcileAll (fun r => r.reconcile lib (input r)) rs w).2.heap.PodPlain := by
  refine reconcileAll_keeps (I := fun w' : World => w'.heap.PodPlain) (fun r _ w' hw' => ?_) w hw
  show (r.reconcile lib (input r) ⟨w'.heap, w'.api⟩).2.heap.PodPlain
  rw [ResourceReconciler.reconcile_heap]
  exact heapAfter_podPlain lib (input r) r hw'

/-- Where a write ends the pass, a loop that gets beyond the StatefulSet has found it up to date. -/
theorem specAt_of_zero (hmutation : lib.onMutation = .requeue) {b : StatefulSetBuilder} {stopped : Bool}
    (hpre : ∀ r ∈ pre, r.key ≠ (ResourceReconciler.statefulSet b stopped).key) {h : Heap}
    (hplain : h.PodPlain) {api : ApiServer}
    (hzero : (reconcileAll (fun r => r.reconcile lib (input r)) (pre ++ [.statefulSet b stopped])
      ⟨h, api⟩).1 = .ok .zero) :
    ∃ h' api' o, h'.PodPlain ∧
      (ResourceReconciler.statefulSet b stopped).desired lib (input (.statefulSet b stopped)) h' api' =
        .ok o ∧
      api.specAt Object.spec (ResourceReconciler.statefulSet b stopped).key = some o.spec := by
  rw [reconcileAll_append] at hzero
  obtain ⟨⟨h', api'⟩, hbefore, hrun⟩ := Prog.andThen_eq_zero.mp (Prod.ext hzero rfl)
  rw [reconcileAll_cons] at hrun
  obtain ⟨w, hlast, -⟩ := Prog.andThen_eq_zero.mp hrun
  obtain ⟨o, ho, hresult, -⟩ := ResourceReconciler.reconcile_eq_ok (congrArg Prod.fst hlast)
  have hsame : (api'.createOrUpdate Object.update o).1 = false := by
    cases hwrite : (api'.createOrUpdate Object.update o).1 with
    | false => rfl
    | true => simp [hwrite, hmutation] at hresult
  have hspec := (Inventory.holds_iff_specAt Object.update_sets).mp
    (Inventory.createOrUpdate_fst.mp hsame)
  rw [ResourceReconciler.key_of_desired ho] at hspec
  have hframe := reconcileAll_get_ne lib input (fun r hr => (hpre r hr).symm) ⟨h, api⟩
  have hheap := reconcileAll_podPlain lib input pre (w := ⟨h, api⟩) hplain
  rw [hbefore] at hframe hheap
  refine ⟨h', api', o, hheap, ho, ?_⟩
  rw [← hspec, Inventory.specAt, Inventory.specAt, ← hframe]

/-- The pass asks to be called again or fails, and has left the starved objects alone. -/
structure Stops (lib : Library) (cluster : KafkaCluster) (g : String) (i : PassInput) (api : ApiServer) :
    Prop where
  result : (reconcile lib i (some cluster) api).1 ≠ .ok .zero
  kept : ∀ p, p.StarvedBy g → (reconcile lib i (some cluster) api).2.get
    (cluster.namespacedName.objectKey p) = api.get (cluster.namespacedName.objectKey p)

variable {cluster : KafkaCluster} {g : String} {i : PassInput} {api : ApiServer}

/-- A pass without a registration does nothing. -/
theorem stops_of_not_registered (hget : i.getFault = none)
    (hfail : ∀ res, (cluster.register lib i).1 ≠ .ok res) : Stops lib cluster g i api := by
  rcases hrun : cluster.register lib i with ⟨outcome, h⟩
  cases outcome with
  | ok res => exact absurd (congrArg Prod.fst hrun) (hfail res)
  | err msg => constructor <;> simp [reconcile, hget, hrun]
  | panic => constructor <;> simp [reconcile, hget, hrun]

/-- Nor does a pass whose first resources end it do anything after them. -/
theorem stops_of_ne (hget : i.getFault = none) {res : ClusterResources} {h : Heap}
    (hrun : cluster.register lib i = (.ok res, h)) {front post : List ResourceReconciler}
    (hsplit : res.reconcilers = front ++ post)
    (hfront : ∀ p, p.StarvedBy g → ∀ r ∈ front, cluster.namespacedName.objectKey p ≠ r.key)
    (hne : (reconcileAll (fun r => r.reconcile lib (i.step r)) front ⟨h, api⟩).1 ≠ .ok .zero) :
    Stops lib cluster g i api := by
  have hall : res.reconcile lib i.step ⟨h, api⟩ =
      reconcileAll (fun r => r.reconcile lib (i.step r)) front ⟨h, api⟩ := by
    rw [ClusterResources.reconcile_eq, hsplit, reconcileAll_append, Prog.andThen_of_ne hne]
  rw [← hall] at hne
  constructor
  · simp only [reconcile, hget, hrun, Prog.andThen_of_ne hne]
    exact hne
  · intro p hp
    rw [reconcile_snd hget hrun, hall]
    exact reconcileAll_get_ne lib i.step (hfront p hp) ⟨h, api⟩

end Pass

/-- Any role group can be visited first. -/
theorem PassInput.exists_first {cluster : KafkaCluster} {g : String}
    (hg : (cluster.roleGroups.get g).isSome) : ∃ i : PassInput, i.getFault = none ∧
      (∀ r, (i.step r).Quiet) ∧ ∃ v l, i.groups.list cluster.roleGroups = (g, v) :: l := by
  obtain ⟨i, hget, hquiet⟩ := PassInput.exists_quiet
  obtain ⟨v, hv⟩ := Option.isSome_iff_exists.mp hg
  obtain ⟨l, hl⟩ := Map.exists_ranges_cons hv
  obtain ⟨groups, hgroups⟩ := Map.Order.exists_list hl
  exact ⟨{ i with groups := groups }, hget, hquiet, v, l, hgroups⟩

/-- **A pass that gets no further**: whatever the API server holds, there are orders for which the
pass ends at the StatefulSet of the role group, or before. -/
theorem exists_stopping_pass {lib : Library} (hmutation : lib.onMutation = .requeue)
    (hop : lib.op.MergesPodPlain) (hother : ∀ image,
      (lib.op.vectorContainer kubedoopConfigDirName kubedoopLogDirName image).name ≠ "kafka")
    {cluster : KafkaCluster} (hplain : cluster.PodPlain) {g : String}
    (hg : (cluster.roleGroups.get g).isSome) (api : ApiServer) :
    ∃ i : PassInput, i.getFault = none ∧ (∀ r, (i.step r).Quiet) ∧ Stops lib cluster g i api := by
  obtain ⟨i, hget, hquiet, v, l, hfirst⟩ := PassInput.exists_first hg
  by_cases hok : ∃ res, (cluster.register lib i).1 = .ok res
  · obtain ⟨res, hres⟩ := hok
    obtain ⟨h, hrun⟩ : ∃ h, cluster.register lib i = (.ok res, h) := ⟨_, Prod.ext hres rfl⟩
    obtain ⟨pre, b, stopped, post, hsplit, hpre, hfront⟩ := exists_split_statefulSet hrun hfirst
    have hheap := register_podPlain hop hplain hrun
    obtain ⟨o, ho⟩ := Map.Order.exists_list
      (b.kafkaTlsSecurity.protocolMap_ranges b.kubeNamespace b.info.getFullName)
    obtain ⟨o', ho'⟩ := Map.Order.exists_list
      (b.kafkaTlsSecurity.protocolMap_ranges_swap b.kubeNamespace b.info.getFullName)
    -- an order for which the loop goes on is one for which the StatefulSet is up to date
    by_cases hzero : (reconcileAll (fun r => r.reconcile lib ((i.withProtocols o).step r))
        (pre ++ [.statefulSet b stopped]) ⟨h, api⟩).1 = .ok .zero
    · refine ⟨i.withProtocols o', hget, fun r => ⟨(hquiet r).list, (hquiet r).write⟩,
        stops_of_ne (h := h) hget hrun hsplit hfront (fun hzero' => ?_)⟩
      obtain ⟨h₁, api₁, x, hplain₁, hx, hspec⟩ := specAt_of_zero hmutation hpre hheap hzero
      obtain ⟨h₂, api₂, x', hplain₂, hx', hspec'⟩ := specAt_of_zero hmutation hpre hheap hzero'
      exact desired_statefulSet_ne hother ho ho' hplain₁ hplain₂ hx hx'
        (Option.some.inj (hspec.symm.trans hspec'))
    · exact ⟨i.withProtocols o, hget, fun r => ⟨(hquiet r).list, (hquiet r).write⟩,
        stops_of_ne hget hrun hsplit hfront hzero⟩
  · exact ⟨i, hget, hquiet, stops_of_not_registered hget (not_exists.mp hok)⟩

/-- **Orders can starve a cluster.**  Where a write ends a pass, and the user overrides nothing in the
pod: from every state of the API server and for every role group there is a run of passes for ever,
over one specification and without any failing request, in which no pass ends with the zero result
and the starved objects stay as they were: the Listener of the role group, the ConfigMaps,
StatefulSets and Listeners of all other role groups, and discovery. -/
theorem orders_can_starve (lib : Library) (hmutation : lib.onMutation = .requeue)
    (hop : lib.op.MergesPodPlain) (hother : ∀ image,
      (lib.op.vectorContainer kubedoopConfigDirName kubedoopLogDirName image).name ≠ "kafka")
    (cluster : KafkaCluster) (hplain : cluster.PodPlain) (g : String)
    (hg : (cluster.roleGroups.get g).isSome) (api : ApiServer) :
    ∃ (inputs : ℕ → PassInput) (states : ℕ → ApiServer), states 0 = api ∧ ∀ n,
      states (n + 1) = (reconcile lib (inputs n) (some cluster) (states n)).2 ∧
      ((inputs n).getFault = none ∧ (∀ r, ((inputs n).step r).Quiet) ∧
        (reconcile lib (inputs n) (some cluster) (states n)).1 ≠ .ok .zero) ∧
      ∀ p, p.StarvedBy g → (states n).get (cluster.namespacedName.objectKey p) =
        api.get (cluster.namespacedName.objectKey p) := by
  refine exists_run (f := fun i s => (reconcile lib i (some cluster) s).2)
    (I := fun s => ∀ p, p.StarvedBy g → s.get (cluster.namespacedName.objectKey p) =
      api.get (cluster.namespacedName.objectKey p))
    (R := fun i s => i.getFault = none ∧ (∀ r, (i.step r).Quiet) ∧
      (reconcile lib i (some cluster) s).1 ≠ .ok .zero) (fun s hs => ?_) (fun p _ => rfl)
  obtain ⟨i, hget, hquiet, hstops⟩ := exists_stopping_pass hmutation hop hother hplain hg s
  exact ⟨i, ⟨hget, hquiet, hstops.result⟩, fun p hp => (hstops.kept p hp).trans (hs p hp)⟩

theorem OperatorGo.reference_mergesPodPlain (shares : String → Bool) :
    (OperatorGo.reference shares).MergesPodPlain := by
  rintro a b v ha hb h
  obtain rfl := Outcome.ok.inj h
  exact ha.merge hb

theorem securedCluster_podPlain : securedCluster.PodPlain := by
  constructor
  · rintro spec hspec u hu
    obtain rfl := Option.some.inj hspec
    cases hu
  · rintro spec hspec g u hu
    obtain rfl := Option.some.inj hspec
    rw [BrokersSpec.ownOverrides, securedBrokers, BrokersSpec.single_get] at hu
    split_ifs at hu <;> cases hu

/-- From an empty API server, the cluster never gets its discovery ConfigMaps. -/
theorem orders_can_starve_secured :
    ∃ (inputs : ℕ → PassInput) (states : ℕ → ApiServer), states 0 = Inventory.empty ∧ ∀ n,
      states (n + 1) = (reconcile .reference (inputs n) (some securedCluster) (states n)).2 ∧
      (states n).get (securedCluster.namespacedName.objectKey .discovery) = none := by
  obtain ⟨inputs, states, hstart, hrun⟩ := orders_can_starve .reference rfl
    (OperatorGo.reference_mergesPodPlain _) (reference_podAssumptions (fun _ => true)).vectorContainer
    securedCluster securedCluster_podPlain "default" rfl Inventory.empty
  refine ⟨inputs, states, hstart, fun n => ⟨(hrun n).1, ?_⟩⟩
  exact (hrun n).2.2 .discovery ⟨by simp [earlyPurposes], by simp [Purpose.kind]⟩

end KafkaOperator
