import KafkaOperator.ApiServer
import KafkaOperator.Handover

/-! # Reconciling a cluster

`internal/controller/kafkacluster_controller.go`: a request names a `KafkaCluster`.  The controller
fetches it, registers its resources, reconciles them in the order of registration, and asks whether
they are ready.

What does this is in operator-go: the loops of `BaseCluster` and `BaseRoleReconciler` over what was
added with `AddResource`, `Reconcile` and `Ready` of a `GenericResourceReconciler` and of a
`StatefulSet`, and `CreateOrUpdate`.  They are fields of `Library`, with the laws that are assumed of
them; `Library.reference` is an instance.  What the outside world decides in one step, the orders in
which maps are visited and the answers of the API server, is a `StepInput`.

A `Build` works on the objects behind the builder's pointers and, for discovery, reads the API
server, but never changes it (`build_eq`).  From the laws it follows that the nested loops are one
(`ClusterResources.reconcile_eq`), and what a reconcile does to the API server
(`ResourceReconciler.reconcile_api`).  `keys_reconcilers` says which objects a registration leads to,
in their order: those of `purposes`. -/

namespace KafkaOperator

open Go

/-- What the outside world decides while one resource is reconciled. -/
structure StepInput where
  orders : Orders
  files : FileOrder
  protocols : Map.Order KafkaListenerName KafkaListenerProtocol
  items : Map.Order ObjectKey Listener
  listFault : Option String
  writeFault : Option ApiServer.Fault

/-- The API server does what it is asked to. -/
structure StepInput.Quiet (i : StepInput) : Prop where
  list : i.listFault = none
  write : i.writeFault = none

/-- The objects behind the pointers of a pass, and the API server. -/
structure World where
  heap : Heap
  api : ApiServer

namespace World

variable {α : Type}

def onHeap (m : Prog Heap α) : Prog World α := Prog.on heap (fun w h => { w with heap := h }) m

def onApi (m : Prog ApiServer α) : Prog World α := Prog.on api (fun w a => { w with api := a }) m

end World

/-- A `GenericResourceReconciler` or `StatefulSet` reconciler with its builder. -/
inductive ResourceReconciler where
  | serviceAccount (kubeNamespace saName : String)
  | service (kubeNamespace : String) (builder : ServiceBuilder)
  | configMap (builder : KafkaConfigmapBuilder)
  | statefulSet (builder : StatefulSetBuilder) (stopped : Bool)
  | listener (builder : GenericBuilder)
  | discovery (kubeNamespace : String) (builder : DiscoveryBuilder)

/-! ### operator-go -/

/-- operator-go, with the packages `builder`, `client` and `reconciler`. -/
structure Library where
  op : OperatorGo
  /-- Whether `Build` of a builder that embeds `BaseServiceBuilder` calls the `GetObject` of the
  embedding type. -/
  outerGetObject : Bool
  /-- The replicas that the StatefulSet reconciler of a stopped cluster asks for. -/
  stoppedReplicas : ℤ → ℤ
  client : ApiServer.Client
  /-- The result of a reconcile that has written something. -/
  onMutation : Result
  /-- `GenericResourceReconciler.Reconcile`, of a builder with this `Build`. -/
  reconcileResource : Option ApiServer.Fault → Prog World Object → Prog World Result
  /-- It builds the object and hands it to `CreateOrUpdate`. -/
  reconcileResource_eq : ∀ fault build, reconcileResource fault build = do
    let o ← build
    let mutated ← World.onApi (client.createOrUpdate fault o)
    pure (if mutated then onMutation else .zero)
  /-- `GenericResourceReconciler.Ready`. -/
  readyResource : Prog ApiServer Result
  /-- Such a resource always is. -/
  readyResource_eq : readyResource = pure .zero
  /-- `Ready` of a StatefulSet's reconciler. -/
  readyStatefulSet : ObjectKey → Prog ApiServer Result
  /-- It writes nothing. -/
  readyStatefulSet_snd : ∀ k s, (readyStatefulSet k s).2 = s
  /-- A stored StatefulSet is ready when all of its replicas are. -/
  readyStatefulSet_iff : ∀ k s sts n, s.get k = some (.statefulSet sts n) →
    ((readyStatefulSet k s).1 = .ok .zero ↔ n = sts.replicas)
  /-- `BaseRoleReconciler.Reconcile` and `BaseCluster.Reconcile`. -/
  roleReconcile : Loop ResourceReconciler
  clusterReconcile : Loop ResourceReconciler
  /-- `BaseRoleReconciler.Ready` and `BaseCluster.Ready`. -/
  roleReady : Loop ResourceReconciler
  clusterReady : Loop ResourceReconciler

/-- A library in which every write asks for another pass. -/
def Library.reference : Library where
  op := .reference (fun _ => true)
  outerGetObject := false
  stoppedReplicas _ := 0
  client := .reference
  onMutation := .requeue
  reconcileResource fault build := do
    let o ← build
    let mutated ← World.onApi (ApiServer.Client.reference.createOrUpdate fault o)
    pure (if mutated then .requeue else .zero)
  reconcileResource_eq _ _ := rfl
  readyResource := pure .zero
  readyResource_eq := rfl
  readyStatefulSet k := Prog.reads (fun s => match s.get k with
    | some (.statefulSet sts readyReplicas) =>
        .ok (if readyReplicas = sts.replicas then .zero else .requeue)
    | _ => .err ("statefulsets.apps \"" ++ k.name ++ "\" not found"))
  readyStatefulSet_snd _ _ := rfl
  readyStatefulSet_iff k s sts n h := by
    simp only [Prog.reads_apply, h]
    split_ifs <;> simp_all
  roleReconcile := .reference
  clusterReconcile := .reference
  roleReady := .reference
  clusterReady := .reference

/-! ### Resources -/

/-- `GetObject` of the builder of a Service. -/
def ServiceBuilder.getObject (b : ServiceBuilder) (lib : Library) (kubeNamespace : String) :
    Service where
  name := b.name
  kubeNamespace := kubeNamespace
  labels := b.labels
  annotations := b.annotations
  selector := b.matchingLabels
  ports := b.ports
  headless := b.headless
  listenerClass := b.listenerClass
  publishNotReadyAddresses := lib.outerGetObject && b.publishNotReadyAddresses

namespace ResourceReconciler

/-- The key of the object that is built. -/
def key : ResourceReconciler → ObjectKey
  | serviceAccount ns name => ⟨.serviceAccount, ns, name⟩
  | service ns b => ⟨.service, ns, b.name⟩
  | configMap b => ⟨.configMap, b.kubeNamespace, roleGroupConfigMapName b.info⟩
  | statefulSet b _ => ⟨.statefulSet, b.kubeNamespace, b.info.getFullName⟩
  | listener b => ⟨.listener, b.kubeNamespace, b.name⟩
  | discovery ns b => ⟨.configMap, ns, b.name⟩

def isDiscovery : ResourceReconciler → Bool
  | discovery _ _ => true
  | _ => false

variable (lib : Library) (i : StepInput)

/-- `Build`; the StatefulSet reconciler sets the replicas of a stopped cluster before. -/
def build : ResourceReconciler → Prog World Object
  | serviceAccount ns name => pure (.serviceAccount ns name)
  | service ns b => pure (.service (b.getObject lib ns))
  | configMap b => do
      let cm ← World.onHeap (b.build lib.op i.orders i.files)
      pure (.configMap b.kubeNamespace cm)
  | statefulSet b stopped => do
      let b := if stopped then { b with replicas := lib.stoppedReplicas b.replicas } else b
      let order := i.protocols.list b.listenerConfig.listenerSecurityProtocolMap
      let sts ← World.onHeap (b.build lib.op order)
      pure (.statefulSet sts 0)
  | listener b => pure (.listener (b.getObject i.orders))
  | discovery ns b => do
      let cm ← Prog.reads (fun w : World => b.build (match i.listFault with
        | some msg => .err msg
        | none => .ok ((w.api.list i.items).listMatching labelListenerBootstrap labelValueTrue)))
      pure (.configMap ns cm)

def reconcile (r : ResourceReconciler) : Prog World Result :=
  lib.reconcileResource i.writeFault (r.build lib i)

def ready : ResourceReconciler → Prog ApiServer Result
  | statefulSet b _ => lib.readyStatefulSet ⟨.statefulSet, b.kubeNamespace, b.info.getFullName⟩
  | _ => lib.readyResource

end ResourceReconciler

/-! ### The registered resources -/

/-- What `AddResource` adds to a cluster: a resource, or a role with the resources added to it. -/
inductive Member where
  | resource (r : ResourceReconciler)
  | role (rs : List ResourceReconciler)

namespace Member

def reconcilers : Member → List ResourceReconciler
  | resource r => [r]
  | role rs => rs

/-- The calls for a member, where `inRole` is the loop of a role. -/
def steps (inRole : Loop ResourceReconciler) : Member → Steps ResourceReconciler
  | resource r => .single r
  | role rs => inRole.loop (rs.map .single)

theorem steps_eq (inRole : Loop ResourceReconciler) (m : Member) :
    m.steps inRole = .all m.reconcilers := by
  cases m with
  | resource r => exact (Steps.single_andThen_done r).symm
  | role rs => exact inRole.loop_map_single rs

end Member

/-- The reconcilers of a role group, in the order of `RegisterResourceWithRoleGroup`. -/
def RoleGroupResources.reconcilers (b : RoleGroupResources) (kubeNamespace : String) :
    List ResourceReconciler :=
  [.service kubeNamespace b.service, .configMap b.configMap, .statefulSet b.statefulSet b.stopped,
    .listener b.listener, .service kubeNamespace b.metricsService]

namespace ClusterResources

variable (lib : Library) (input : ResourceReconciler → StepInput) (res : ClusterResources)

/-- What `RegisterResources` adds to the cluster, in this order. -/
def members : List Member :=
  [.resource (.serviceAccount res.node.kubeNamespace res.serviceAccount),
    .role (res.roleGroups.flatMap (fun b => b.reconcilers res.node.kubeNamespace)),
    .resource (.discovery res.node.kubeNamespace res.discovery),
    .resource (.discovery res.node.kubeNamespace res.nodePortDiscovery)]

/-- All resources, in the order in which they are reconciled. -/
def reconcilers : List ResourceReconciler := res.members.flatMap Member.reconcilers

/-- The calls that `Reconcile` of the cluster makes. -/
def steps : Steps ResourceReconciler :=
  lib.clusterReconcile.loop (res.members.map (Member.steps lib.roleReconcile))

/-- `Reconcile` of the cluster, with nothing between its calls. -/
def reconcile : Prog World Result := (res.steps lib).run (fun r => r.reconcile lib (input r))

/-- `Ready` of the cluster. -/
def ready : Prog ApiServer Result :=
  (lib.clusterReady.loop (res.members.map (Member.steps lib.roleReady))).run
    (ResourceReconciler.ready lib)

/-- The calls of nested loops are those of one loop. -/
theorem loop_members (inRole inCluster : Loop ResourceReconciler) :
    inCluster.loop (res.members.map (Member.steps inRole)) = .all res.reconcilers := by
  rw [funext (Member.steps_eq inRole), inCluster.loop_map_all, reconcilers]

theorem steps_eq : res.steps lib = .all res.reconcilers := res.loop_members _ _

theorem reconcile_eq : res.reconcile lib input =
    reconcileAll (fun r => r.reconcile lib (input r)) res.reconcilers := by
  rw [reconcile, steps_eq, Steps.run_all]

theorem ready_eq : res.ready lib = reconcileAll (ResourceReconciler.ready lib) res.reconcilers := by
  rw [ready, loop_members, Steps.run_all]

theorem reconcilers_eq : res.reconcilers =
    .serviceAccount res.node.kubeNamespace res.serviceAccount ::
      (res.roleGroups.flatMap (fun b => b.reconcilers res.node.kubeNamespace) ++
        [.discovery res.node.kubeNamespace res.discovery,
          .discovery res.node.kubeNamespace res.nodePortDiscovery]) := by
  simp [reconcilers, members, Member.reconcilers]

end ClusterResources

/-! ### Requests -/

def Heap.empty : Heap := ⟨⟨fun _ => none, []⟩, ⟨fun _ => none, []⟩⟩

/-- `types.NamespacedName`. -/
structure ClusterKey where
  kubeNamespace : String
  name : String
deriving DecidableEq, Repr

namespace KafkaCluster

variable (cluster : KafkaCluster)

def namespacedName : ClusterKey := ⟨cluster.kubeNamespace, cluster.name⟩

/-- The role groups; a nil `Brokers` or `RoleGroups` has none. -/
def roleGroups : Map String (Option BrokersRoleGroupSpec) :=
  (cluster.spec.brokers.bind (·.roleGroups)).getD Map.empty

/-- The objects of the decoded specification. -/
def load : Heap := match cluster.spec.brokers with
  | some spec => spec.load
  | none => .empty

end KafkaCluster

/-- What the outside world decides while a request is handled. -/
structure PassInput where
  getFault : Option String
  groups : Map.Order String (Option BrokersRoleGroupSpec)
  orders : String → Orders
  step : ResourceReconciler → StepInput

/-- The registration of one pass, from the decoded object. -/
def KafkaCluster.register (cluster : KafkaCluster) (lib : Library) (i : PassInput) :
    Outcome ClusterResources × Heap :=
  (newClusterReconciler cluster).registerResources lib.op i.orders (i.groups.list cluster.roleGroups)
    cluster.load

/-- `KafkaClusterReconciler.Reconcile`, where `instance?` is the object of the requested name. -/
def reconcile (lib : Library) (i : PassInput) (instance? : Option KafkaCluster) :
    Prog ApiServer Result := fun api =>
  match i.getFault, instance? with
  | some msg, _ => (.err msg, api)
  | none, none => (.ok .zero, api)
  | none, some cluster =>
      match cluster.register lib i with
      | (.ok res, h) =>
          let (o, w) := (res.reconcile lib i.step).andThen (World.onApi (res.ready lib)) ⟨h, api⟩
          (o, w.api)
      | (.err msg, _) => (.err msg, api)
      | (.panic, _) => (.panic, api)

theorem KafkaCluster.roleGroups_eq (cluster : KafkaCluster) {spec : BrokersSpec}
    (hspec : cluster.spec.brokers = some spec) : cluster.roleGroups = spec.groups := by
  rw [KafkaCluster.roleGroups, hspec]
  rfl

theorem KafkaCluster.load_eq (cluster : KafkaCluster) {spec : BrokersSpec}
    (hspec : cluster.spec.brokers = some spec) : cluster.load = spec.load := by
  rw [KafkaCluster.load, hspec]

theorem KafkaCluster.register_eq {cluster : KafkaCluster} {spec : BrokersSpec}
    (hspec : cluster.spec.brokers = some spec) (lib : Library) (i : PassInput) :
    cluster.register lib i = (newClusterReconciler cluster).registerResources lib.op i.orders
      (i.groups.list spec.groups) spec.load := by
  rw [KafkaCluster.register, cluster.roleGroups_eq hspec, cluster.load_eq hspec]

/-- An admitted cluster is registered, where merging does not fail. -/
theorem Admitted.register_ok {cluster : KafkaCluster} {spec : BrokersSpec}
    (hadm : Admitted cluster spec) (lib : Library) (hmerge : ¬ lib.op.MergeFails) (i : PassInput) :
    ∃ res h, cluster.register lib i = (.ok res, h) := by
  rw [KafkaCluster.register_eq hadm.brokers]
  exact hadm.registerResources_total hmerge i.orders (i.groups.ranges spec.groups)

/-- There are orders and answers for a pass in which nothing goes wrong. -/
theorem PassInput.exists_quiet :
    ∃ i : PassInput, i.getFault = none ∧ ∀ r, (i.step r).Quiet := by
  obtain ⟨orders⟩ : Nonempty Orders := inferInstance
  obtain ⟨groups⟩ : Nonempty (Map.Order String (Option BrokersRoleGroupSpec)) := inferInstance
  obtain ⟨protocols⟩ : Nonempty (Map.Order KafkaListenerName KafkaListenerProtocol) := inferInstance
  obtain ⟨items⟩ : Nonempty (Map.Order ObjectKey Listener) := inferInstance
  exact ⟨⟨none, groups, fun _ => orders, fun _ => ⟨orders, ⟨[.server, .security, .log4j], .refl _⟩,
    protocols, items, none, none⟩⟩, rfl, fun _ => ⟨rfl, rfl⟩⟩

/-- A registration that returns is one of the role's specification. -/
theorem registersIn_of_register {cluster : KafkaCluster} {lib : Library} {i : PassInput}
    {res : ClusterResources} {h : Heap} (hrun : cluster.register lib i = (.ok res, h)) :
    ∃ spec, RegistersIn lib.op cluster spec res h := by
  obtain ⟨k, image, -, -, hnode, hbrokers⟩ := Reconciler.registerResources_eq_ok hrun
  obtain ⟨spec, h', hspec, -⟩ := Prog.bind_eq_ok.mp hbrokers
  have hsome : cluster.spec.brokers = some spec := by
    rw [hnode] at hspec
    exact Outcome.deref_eq_ok.mp (Prod.mk.inj hspec).1
  rw [KafkaCluster.register_eq hsome] at hrun
  exact ⟨spec, hsome, i.orders, i.groups.list spec.groups, i.groups.ranges _, hrun⟩

/-! ### What a `Build` depends on -/

namespace ResourceReconciler

variable (lib : Library) (i : StepInput) (r : ResourceReconciler)

/-- What `Build` returns, as a function of the API server. -/
def desired (h : Heap) (api : ApiServer) : Outcome Object := (r.build lib i ⟨h, api⟩).1

/-- The objects behind the pointers after `Build`. -/
def heapAfter (h : Heap) : Heap := (r.build lib i ⟨h, Inventory.empty⟩).2.heap

/-- A `Build` changes the objects behind its pointers only, and these whatever the API server
holds. -/
theorem build_eq (h : Heap) (api : ApiServer) :
    r.build lib i ⟨h, api⟩ = (r.desired lib i h api, ⟨r.heapAfter lib i h, api⟩) := by
  refine Prod.ext rfl ?_
  unfold heapAfter
  cases r with
  | serviceAccount ns name => rfl
  | service ns b => rfl
  | configMap b => simp only [build, Prog.bind_pure_apply, World.onHeap, Prog.on_apply]
  | statefulSet b stopped => simp only [build, Prog.bind_pure_apply, World.onHeap, Prog.on_apply]
  | listener b => rfl
  | discovery ns b => simp only [build, Prog.bind_pure_apply, Prog.reads_apply]

/-- Only discovery reads the API server. -/
theorem desired_eq_of_not_discovery (hr : r.isDiscovery = false) (h : Heap) (api api' : ApiServer) :
    r.desired lib i h api = r.desired lib i h api' := by
  unfold desired
  cases r with
  | serviceAccount ns name => rfl
  | service ns b => rfl
  | configMap b => simp only [build, Prog.bind_pure_apply, World.onHeap, Prog.on_apply]
  | statefulSet b stopped => simp only [build, Prog.bind_pure_apply, World.onHeap, Prog.on_apply]
  | listener b => rfl
  | discovery ns b => cases hr

variable {lib i r} {h : Heap} {api : ApiServer} {o : Object}

theorem heapAfter_of_discovery (hr : r.isDiscovery = true) : r.heapAfter lib i h = h := by
  cases r with
  | discovery ns b => simp only [heapAfter, build, Prog.bind_pure_apply, Prog.reads_apply]
  | _ => cases hr

/-- The ConfigMap that is built is the role group's. -/
theorem build_configMap_name {op : OperatorGo} {b : KafkaConfigmapBuilder} {orders : Orders}
    {files : FileOrder} {cm : ConfigMap} (hcm : (b.build op orders files h).1 = .ok cm) :
    cm.name = roleGroupConfigMapName b.info := by
  have hrun : b.build op orders files h = (.ok cm, (b.build op orders files h).2) :=
    Prod.ext hcm rfl
  obtain ⟨data, h₁, -, hrun⟩ := Prog.bind_eq_ok.mp hrun
  obtain ⟨data', h₂, -, hrun⟩ := Prog.bind_eq_ok.mp hrun
  rw [← Outcome.ok.inj (Prod.mk.inj hrun).1]

/-- The names that a StatefulSet refers to are those of the builder. -/
theorem build_statefulSet_names {op : OperatorGo} {b : StatefulSetBuilder}
    {order : List (KafkaListenerName × KafkaListenerProtocol)} {sts : StatefulSet}
    (hsts : (b.build op order h).1 = .ok sts) :
    sts.name = b.info.getFullName ∧ sts.kubeNamespace = b.kubeNamespace ∧
      sts.serviceName = b.info.getFullName ∧
      sts.template.serviceAccountName = b.info.clusterName := by
  obtain ⟨v, -, hbuild⟩ := Outcome.bind_eq_ok.mp hsts
  obtain ⟨w, t, n, -, -, -, rfl⟩ := StatefulSetBuilder.buildFrom_eq_ok hbuild
  exact ⟨rfl, rfl, rfl, rfl⟩

theorem desired_configMap {b : KafkaConfigmapBuilder}
    (ho : (configMap b).desired lib i h api = .ok o) :
    ∃ cm, (b.build lib.op i.orders i.files h).1 = .ok cm ∧ o = .configMap b.kubeNamespace cm := by
  simp only [desired, build, Prog.bind_pure_apply, World.onHeap, Prog.on_apply] at ho
  obtain ⟨cm, hcm, ho⟩ := Outcome.bind_eq_ok.mp ho
  exact ⟨cm, hcm, (Outcome.ok.inj ho).symm⟩

/-- The StatefulSet is that of the builder, with other replicas where the cluster is stopped. -/
theorem desired_statefulSet {b : StatefulSetBuilder} {stopped : Bool}
    (ho : (statefulSet b stopped).desired lib i h api = .ok o) :
    ∃ sts, (StatefulSetBuilder.build lib.op
        (if stopped then { b with replicas := lib.stoppedReplicas b.replicas } else b)
        (i.protocols.list (if stopped then { b with replicas := lib.stoppedReplicas b.replicas } else
          b : StatefulSetBuilder).listenerConfig.listenerSecurityProtocolMap) h).1 = .ok sts ∧
      o = .statefulSet sts 0 := by
  simp only [desired, build, Prog.bind_pure_apply, World.onHeap, Prog.on_apply] at ho
  obtain ⟨sts, hsts, ho⟩ := Outcome.bind_eq_ok.mp ho
  exact ⟨sts, hsts, (Outcome.ok.inj ho).symm⟩

theorem desired_discovery {ns : String} {b : DiscoveryBuilder}
    (ho : (discovery ns b).desired lib i h api = .ok o) :
    ∃ cm, i.listFault = none ∧ b.buildIn (api.list i.items) = .ok cm ∧ o = .configMap ns cm := by
  simp only [desired, build, Prog.bind_pure_apply, Prog.reads_apply] at ho
  obtain ⟨cm, hcm, ho⟩ := Outcome.bind_eq_ok.mp ho
  cases hfault : i.listFault with
  | some msg =>
      rw [hfault] at hcm
      cases hcm
  | none =>
      rw [hfault] at hcm
      exact ⟨cm, rfl, hcm, (Outcome.ok.inj ho).symm⟩

/-- The object that is built has the key. -/
theorem key_of_desired (ho : r.desired lib i h api = .ok o) : o.key = r.key := by
  cases r with
  | serviceAccount ns name => rw [← Outcome.ok.inj ho]; rfl
  | service ns b => rw [← Outcome.ok.inj ho]; rfl
  | configMap b =>
      obtain ⟨cm, hcm, rfl⟩ := desired_configMap ho
      simp only [Object.key, key, build_configMap_name hcm]
  | statefulSet b stopped =>
      obtain ⟨sts, hsts, rfl⟩ := desired_statefulSet ho
      obtain ⟨hname, hns, -, -⟩ := build_statefulSet_names hsts
      simp only [Object.key, key, hname, hns]
      cases stopped <;> rfl
  | listener b => rw [← Outcome.ok.inj ho]; rfl
  | discovery ns b =>
      obtain ⟨cm, -, hcm, rfl⟩ := desired_discovery ho
      obtain ⟨items, -, hcm⟩ := Outcome.bind_eq_ok.mp hcm
      obtain ⟨hosts, -, hcm⟩ := Outcome.bind_eq_ok.mp hcm
      obtain rfl := Outcome.ok.inj hcm
      rfl

/-! ### What a reconcile does -/

/-- Where `Build` succeeds, the object is handed to `CreateOrUpdate`. -/
theorem reconcile_of_ok (ho : r.desired lib i h api = .ok o) : r.reconcile lib i ⟨h, api⟩ =
    ((fun mutated => if mutated then lib.onMutation else .zero) <$>
      (lib.client.createOrUpdate i.writeFault o api).1,
      ⟨r.heapAfter lib i h, (lib.client.createOrUpdate i.writeFault o api).2⟩) := by
  have hbuild : r.build lib i ⟨h, api⟩ = (.ok o, ⟨r.heapAfter lib i h, api⟩) := by
    rw [build_eq, ho]
  rw [reconcile, lib.reconcileResource_eq, Prog.bind_of_ok hbuild, Prog.bind_pure_apply, World.onApi,
    Prog.on_apply]

theorem reconcile_of_err {e : String} (he : r.desired lib i h api = .err e) :
    r.reconcile lib i ⟨h, api⟩ = (.err e, ⟨r.heapAfter lib i h, api⟩) := by
  rw [reconcile, lib.reconcileResource_eq, Prog.bind_of_err (by rw [build_eq, he])]

theorem reconcile_of_panic (hpanic : r.desired lib i h api = .panic) :
    r.reconcile lib i ⟨h, api⟩ = (.panic, ⟨r.heapAfter lib i h, api⟩) := by
  rw [reconcile, lib.reconcileResource_eq, Prog.bind_of_panic (by rw [build_eq, hpanic])]

/-- Where `Build` fails, nothing is written. -/
theorem reconcile_of_fail (hfail : ∀ o, r.desired lib i h api ≠ .ok o) :
    (∀ x, (r.reconcile lib i ⟨h, api⟩).1 ≠ .ok x) ∧
      (r.reconcile lib i ⟨h, api⟩).2 = ⟨r.heapAfter lib i h, api⟩ := by
  cases hd : r.desired lib i h api with
  | ok o => exact absurd hd (hfail o)
  | err e =>
      rw [reconcile_of_err hd]
      exact ⟨by simp, rfl⟩
  | panic =>
      rw [reconcile_of_panic hd]
      exact ⟨by simp, rfl⟩

theorem reconcile_heap : (r.reconcile lib i ⟨h, api⟩).2.heap = r.heapAfter lib i h := by
  by_cases hok : ∃ o, r.desired lib i h api = .ok o
  · obtain ⟨o, ho⟩ := hok
    rw [reconcile_of_ok ho]
  · rw [(reconcile_of_fail (not_exists.mp hok)).2]

/-- **What a reconcile does to the API server**, whatever goes wrong: nothing, or it ensures the
object that was built. -/
theorem reconcile_api (lib : Library) (i : StepInput) (r : ResourceReconciler) (h : Heap)
    (api : ApiServer) : (r.reconcile lib i ⟨h, api⟩).2.api = api ∨
      ∃ o, r.desired lib i h api = .ok o ∧
        (r.reconcile lib i ⟨h, api⟩).2.api = (api.createOrUpdate Object.update o).2 := by
  by_cases hok : ∃ o, r.desired lib i h api = .ok o
  · obtain ⟨o, ho⟩ := hok
    rw [reconcile_of_ok ho]
    exact (lib.client.createOrUpdate_snd i.writeFault o api).imp id (fun heq => ⟨o, ho, heq⟩)
  · exact .inl (by rw [(reconcile_of_fail (not_exists.mp hok)).2])

/-- **Frame**: the objects under other keys stay as they are. -/
theorem reconcile_get_ne {k : ObjectKey} (hk : k ≠ r.key) :
    (r.reconcile lib i ⟨h, api⟩).2.api.get k = api.get k := by
  rcases reconcile_api lib i r h api with heq | ⟨o, ho, heq⟩
  · rw [heq]
  · rw [heq, Inventory.get_createOrUpdate_ne (by rwa [key_of_desired ho])]

/-- A reconcile that returns has ensured its object. -/
theorem reconcile_eq_ok {x : Result} (hrun : (r.reconcile lib i ⟨h, api⟩).1 = .ok x) :
    ∃ o, r.desired lib i h api = .ok o ∧
      x = (if (api.createOrUpdate Object.update o).1 then lib.onMutation else .zero) ∧
      (r.reconcile lib i ⟨h, api⟩).2.api = (api.createOrUpdate Object.update o).2 := by
  by_cases hok : ∃ o, r.desired lib i h api = .ok o
  · obtain ⟨o, ho⟩ := hok
    rw [reconcile_of_ok ho] at hrun ⊢
    obtain ⟨b, hb, hx⟩ := Outcome.bind_eq_ok.mp hrun
    have hcall := ApiServer.Client.createOrUpdate_of_ok hb
    rw [hcall] at hb ⊢
    obtain rfl := Outcome.ok.inj hb
    exact ⟨o, ho, (Outcome.ok.inj hx).symm, rfl⟩
  · exact absurd hrun ((reconcile_of_fail (not_exists.mp hok)).1 x)

end ResourceReconciler

/-! ### The objects of a registration -/

/-- What the resources of a role group are for, in their order. -/
def groupPurposes (g : String) : List Purpose :=
  [.roleGroupService g, .roleGroupConfigMap g, .statefulSet g, .bootstrapListener g,
    .metricsService g]

/-- What the resources of a cluster are for, in their order; `names` are its role groups. -/
def purposes (names : List String) : List Purpose :=
  .serviceAccount :: (names.flatMap groupPurposes ++ [.discovery, .nodePortDiscovery])

/-- The key of a resource of the cluster. -/
def ClusterKey.objectKey (c : ClusterKey) (p : Purpose) : ObjectKey :=
  ⟨p.kind, c.kubeNamespace, resourceName c.name p⟩

/-- Of the objects of one cluster only Services can have one key for two purposes. -/
theorem objectKey_inj {c : ClusterKey} {p p' : Purpose} (hkind : p.kind ≠ .service)
    (h : c.objectKey p = c.objectKey p') : p = p' := by
  obtain ⟨hkinds, -, hname⟩ := ObjectKey.mk.inj h
  rcases (resourceName_eq_iff hkinds).mp hname with ⟨-, rfl⟩ | hclash
  · rfl
  · obtain ⟨g, ⟨rfl, rfl⟩ | ⟨rfl, rfl⟩⟩ := (clash_self_iff _ _ _).mp hclash <;> exact absurd rfl hkind

theorem group_of_mem_groupPurposes {g : String} {p : Purpose} :
    p ∈ groupPurposes g ↔ p.group = some g := by
  cases p <;> simp [groupPurposes, Purpose.group]

theorem mem_purposes {names : List String} {p : Purpose} :
    p ∈ purposes names ↔ ∀ g, p.group = some g → g ∈ names := by
  have hgroups : p ∈ names.flatMap groupPurposes ↔ ∃ g ∈ names, p.group = some g := by
    simp only [List.mem_flatMap, group_of_mem_groupPurposes]
  simp only [purposes, List.mem_cons, List.mem_append, hgroups]
  cases p <;> simp [Purpose.group]

section Registered

variable {op : OperatorGo} {cluster : KafkaCluster} {spec : BrokersSpec} {res : ClusterResources}
  {h : Heap}

/-- The parts of a registration besides the role groups. -/
theorem RegistersIn.parts (hreg : RegistersIn op cluster spec res h) :
    ∃ k image, newKafkaSecurity cluster = .ok k ∧
      res.node = (newClusterReconciler cluster).newBrokerReconciler image k ∧
      res.serviceAccount = cluster.name ∧
      res.discovery = newKafkaDiscoveryBuilder cluster k false ∧
      res.nodePortDiscovery = newKafkaDiscoveryBuilder cluster k true := by
  obtain ⟨orders, l, -, hrun⟩ := hreg.run
  obtain ⟨k, h₁, hsecurity, hrun⟩ := Prog.bind_eq_ok.mp hrun
  obtain ⟨image, h₂, -, hrun⟩ := Prog.bind_eq_ok.mp hrun
  obtain ⟨bs, h₃, -, hrun⟩ := Prog.bind_eq_ok.mp hrun
  obtain rfl := Outcome.ok.inj (Prod.mk.inj hrun).1
  exact ⟨k, image, (Prod.mk.inj hsecurity).1, rfl, rfl, rfl, rfl⟩

/-- The keys of a role group's resources. -/
theorem keys_roleGroupResources {r : BrokerReconciler} (hrole : r.roleName = roleName)
    {replicas : ℤ} {g : String} {overrides config : Ref Path} {listenerClass : String} :
    ((r.roleGroupResources op replicas (r.roleGroupInfo g) overrides config
      listenerClass).reconcilers r.kubeNamespace).map ResourceReconciler.key =
      (groupPurposes g).map (ClusterKey.objectKey ⟨r.kubeNamespace, r.clusterName⟩) := by
  have hfull : (r.roleGroupInfo g).getFullName = r.clusterName ++ "-broker-" ++ g := by
    rw [BrokerReconciler.roleGroupInfo, hrole, getFullName_eq]
  simp only [RoleGroupResources.reconcilers, BrokerReconciler.roleGroupResources, groupPurposes,
    List.map_cons, List.map_nil, ResourceReconciler.key, ClusterKey.objectKey, Purpose.kind,
    resourceName, newRoleGroupService, newRoleGroupMetricsService, createServiceMetricsName,
    roleGroupConfigMapName, newRoleGroupBootstrapListener, bootstrapListenerName, hfull,
    String.append_assoc]

/-- **The objects of a registration**: those of the purposes of its role groups, in the order in which
they were visited. -/
theorem keys_of_visited (hreg : RegistersIn op cluster spec res h)
    {l : List (String × Option BrokersRoleGroupSpec)}
    (hc : ConfigsInv op res.node spec l res.roleGroups h.configs) :
    res.reconcilers.map ResourceReconciler.key =
      (purposes (l.map Prod.fst)).map cluster.namespacedName.objectKey := by
  obtain ⟨k, image, -, hnode, hsa, hdisc, hnodePort⟩ := hreg.parts
  have hkey : (⟨res.node.kubeNamespace, res.node.clusterName⟩ : ClusterKey) =
      cluster.namespacedName := by rw [hnode]; rfl
  have hgroups : res.roleGroups.map
      (fun b => (b.reconcilers res.node.kubeNamespace).map ResourceReconciler.key) =
      l.map (fun e => (groupPurposes e.1).map cluster.namespacedName.objectKey) := by
    refine hc.built.map_eq (fun done e b hbuilt => ?_)
    obtain ⟨_, _, _, rfl⟩ := hbuilt.registered
    rw [keys_roleGroupResources (by rw [hnode]; rfl), hkey]
  rw [ClusterResources.reconcilers_eq, purposes]
  simp only [List.map_cons, List.map_append, List.map_flatMap, List.flatMap_map, List.map_nil,
    ResourceReconciler.key, hsa, hdisc, hnodePort]
  rw [List.flatMap_def, hgroups, List.flatMap_def, hnode]
  rfl

theorem keys_reconcilers (hreg : RegistersIn op cluster spec res h) :
    ∃ l, spec.groups.Ranges l ∧ res.reconcilers.map ResourceReconciler.key =
      (purposes (l.map Prod.fst)).map cluster.namespacedName.objectKey := by
  obtain ⟨l, hl, hc⟩ := hreg.configsInv
  exact ⟨l, hl, keys_of_visited hreg hc⟩

/-- What a registration leaves behind, in the order in which it visited the role groups. -/
theorem Reconciler.registerResources_invs {orders : String → Orders}
    {l : List (String × Option BrokersRoleGroupSpec)} (hspec : cluster.spec.brokers = some spec)
    (hl : spec.groups.Ranges l)
    (hrun : (newClusterReconciler cluster).registerResources op orders l spec.load = (.ok res, h)) :
    ConfigsInv op res.node spec l res.roleGroups h.configs ∧
      (spec.NoNilFiles → OverridesInv op spec l res.roleGroups h.overrides) := by
  obtain ⟨k, image, -, -, hnode, hbrokers⟩ := Reconciler.registerResources_eq_ok hrun
  have hsome : res.node.spec = some spec := by
    rw [hnode]
    exact hspec
  exact (registerResources_spec op (X := True) hsome orders hl
    (fun _ => trivial) (fun _ => trivial)).elim rfl hbrokers

/-- The keys of a pass, in the order of its role groups. -/
theorem keys_of_register {lib : Library} {i : PassInput}
    (hrun : cluster.register lib i = (.ok res, h)) : res.reconcilers.map ResourceReconciler.key =
      (purposes ((i.groups.list cluster.roleGroups).map Prod.fst)).map
        cluster.namespacedName.objectKey := by
  obtain ⟨spec, hreg⟩ := registersIn_of_register hrun
  rw [KafkaCluster.register_eq hreg.brokers] at hrun
  rw [cluster.roleGroups_eq hreg.brokers]
  exact keys_of_visited hreg
    (Reconciler.registerResources_invs hreg.brokers (i.groups.ranges spec.groups) hrun).1

end Registered

end KafkaOperator
