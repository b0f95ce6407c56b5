import KafkaOperator.Discovery
import KafkaOperator.RoleGroups

/-! # The cluster

`internal/controller/cluster.go`: what is registered for one `KafkaCluster`.  The builders of the
role groups come from the broker role; the cluster adds a service account and the two discovery
ConfigMaps. -/

namespace KafkaOperator

open Go

/-- `cluster` is the owner of everything that is registered. -/
structure Reconciler where
  cluster : KafkaCluster
  spec : KafkaClusterSpec
  clusterConfig : Option ClusterConfigSpec
  clusterOperation : Option ClusterOperationSpec

/-- The field `ClusterOperation` is not set. -/
def newClusterReconciler (cluster : KafkaCluster) : Reconciler where
  cluster := cluster
  spec := cluster.spec
  clusterConfig := cluster.spec.clusterConfig
  clusterOperation := none

/-- Everything that is registered for a cluster. -/
structure ClusterResources where
  serviceAccount : String
  node : BrokerReconciler
  roleGroups : List RoleGroupResources
  discovery : DiscoveryBuilder
  nodePortDiscovery : DiscoveryBuilder

namespace Reconciler

variable (op : OperatorGo) (r : Reconciler)

def getImage : Outcome Image := do
  let image ← Outcome.deref r.spec.image
  let pullPolicy ← Outcome.deref image.pullPolicy
  pure
    { productName := defaultProductName
      productVersion :=
        if image.productVersion ≠ "" then image.productVersion else defaultProductVersion
      kubedoopVersion := if image.kubedoopVersion ≠ "" then image.kubedoopVersion else op.buildVersion
      custom := image.custom
      repo := image.repo
      pullPolicy := pullPolicy }

/-- The reconciler of the broker role. -/
def newBrokerReconciler (image : Image) (tlsSecurity : KafkaSecurity) : BrokerReconciler where
  clusterName := r.cluster.name
  roleName := KafkaOperator.roleName
  kubeNamespace := r.cluster.kubeNamespace
  ownerLabels := r.cluster.labels
  spec := r.spec.brokers
  image := image
  clusterConfig := r.clusterConfig
  clusterOperation := r.clusterOperation
  kafkaTlsSecurity := tlsSecurity

def registerResources (orders : String → Orders)
    (order : List (String × Option BrokersRoleGroupSpec)) : Prog Heap ClusterResources := do
  let tlsSecurity ← Prog.lift (newKafkaSecurity r.cluster)
  let image ← Prog.lift (r.getImage op)
  let node := r.newBrokerReconciler image tlsSecurity
  let roleGroups ← node.registerResources op orders order
  pure
    { serviceAccount := r.cluster.name
      node := node
      roleGroups := roleGroups
      discovery := newKafkaDiscoveryBuilder r.cluster tlsSecurity false
      nodePortDiscovery := newKafkaDiscoveryBuilder r.cluster tlsSecurity true }

/-- What a registration that returns has registered. -/
theorem registerResources_eq_ok {op : OperatorGo} {r : Reconciler} {orders : String → Orders}
    {order : List (String × Option BrokersRoleGroupSpec)} {res : ClusterResources} {h h' : Heap}
    (hrun : r.registerResources op orders order h = (.ok res, h')) :
    ∃ k image, newKafkaSecurity r.cluster = .ok k ∧ r.getImage op = .ok image ∧
      res.node = r.newBrokerReconciler image k ∧
      res.node.registerResources op orders order h = (.ok res.roleGroups, h') := by
  obtain ⟨k, h₁, hsecurity, hrun⟩ := Prog.bind_eq_ok.mp hrun
  obtain ⟨hk, rfl⟩ := Prod.mk.inj hsecurity
  obtain ⟨image, h₂, hget, hrun⟩ := Prog.bind_eq_ok.mp hrun
  obtain ⟨himage, rfl⟩ := Prod.mk.inj hget
  obtain ⟨bs, h₃, hnode, hrun⟩ := Prog.bind_eq_ok.mp hrun
  obtain ⟨hres, rfl⟩ := Prod.mk.inj hrun
  obtain rfl := Outcome.ok.inj hres
  exact ⟨k, image, hk, himage, rfl, hnode⟩

end Reconciler

/-- A registration of the cluster with the library `op` ended with these resources and this
heap. -/
structure RegistersIn (op : OperatorGo) (cluster : KafkaCluster) (spec : BrokersSpec)
    (res : ClusterResources) (h : Heap) : Prop where
  brokers : cluster.spec.brokers = some spec
  run : ∃ (orders : String → Orders) (l : List (String × Option BrokersRoleGroupSpec)),
    spec.groups.Ranges l ∧
      (newClusterReconciler cluster).registerResources op orders l spec.load = (.ok res, h)

namespace RegistersIn

variable {op : OperatorGo} {cluster : KafkaCluster} {spec : BrokersSpec} {res : ClusterResources}
  {h : Heap}

/-- The reconciler of the broker role that a registration makes. -/
theorem node (hreg : RegistersIn op cluster spec res h) :
    ∃ k image, newKafkaSecurity cluster = .ok k ∧
      (newClusterReconciler cluster).getImage op = .ok image ∧
      res.node = (newClusterReconciler cluster).newBrokerReconciler image k := by
  obtain ⟨orders, l, hl, hrun⟩ := hreg.run
  obtain ⟨k, image, hk, himage, hnode, -⟩ := Reconciler.registerResources_eq_ok hrun
  exact ⟨k, image, hk, himage, hnode⟩

theorem configsInv (hreg : RegistersIn op cluster spec res h) :
    ∃ l, spec.groups.Ranges l ∧ ConfigsInv op res.node spec l res.roleGroups h.configs := by
  obtain ⟨orders, l, hl, hrun⟩ := hreg.run
  obtain ⟨k, image, -, -, hnode, hbrokers⟩ := Reconciler.registerResources_eq_ok hrun
  have hspec : res.node.spec = some spec := by
    rw [hnode]
    exact hreg.brokers
  obtain ⟨hc, -⟩ := (registerResources_spec op (X := True) hspec orders hl
    (fun _ => trivial) (fun _ => trivial)).elim rfl hbrokers
  exact ⟨l, hl, hc⟩

/-- Every registered builder is that of a role group, and has the group's configuration. -/
theorem built (hreg : RegistersIn op cluster spec res h) {b : RoleGroupResources}
    (hb : b ∈ res.roleGroups) : ∃ name filled, (spec.groups.get name).isSome ∧
      BuiltFromConfig op res.node spec h.configs name
        (spec.effectiveConfig op.consts op.rules cluster.name filled name) b := by
  obtain ⟨k, image, -, -, hnode⟩ := hreg.node
  obtain ⟨l, hl, hc⟩ := hreg.configsInv
  obtain ⟨before, e, rest, rfl, hbuilt⟩ := hc.built.of_mem hb
  have hget := (hl.2 e.1 e.2).mp (by simp)
  have hname : res.node.clusterName = cluster.name := by
    rw [hnode]
    rfl
  rw [hname] at hbuilt
  exact ⟨e.1, _, by rw [hget]; rfl, hbuilt⟩

/-- Every role group has its builders. -/
theorem exists_built (hreg : RegistersIn op cluster spec res h) (name : String)
    (hname : (spec.groups.get name).isSome) :
    ∃ b ∈ res.roleGroups, b.configMap.info.roleGroupName = name := by
  obtain ⟨l, hl, hc⟩ := hreg.configsInv
  obtain ⟨entry, hentry⟩ := Option.isSome_iff_exists.mp hname
  obtain ⟨done, rest, rfl⟩ := List.mem_iff_append.mp ((hl.2 name entry).mpr hentry)
  obtain ⟨b, hb, hbuilt⟩ := hc.built.exists_of_split rfl
  exact ⟨b, hb, hbuilt.roleGroupName⟩

end RegistersIn

/-! ### Admitted clusters -/

/-- The CRD schema admits the object: what it requires is there, what it gives a default to is
set, and no value of a map is null. -/
structure Admitted (cluster : KafkaCluster) (spec : BrokersSpec) : Prop where
  brokers : cluster.spec.brokers = some spec
  clusterConfig : cluster.spec.clusterConfig.isSome
  image : ∃ i, cluster.spec.image = some i ∧ i.pullPolicy.isSome
  entries : ∀ name, spec.groups.get name ≠ some none
  noNilFiles : spec.NoNilFiles

namespace Admitted

variable {cluster : KafkaCluster} {spec : BrokersSpec} (h : Admitted cluster spec)

include h

theorem newKafkaSecurity_ok : ∃ k, newKafkaSecurity cluster = .ok k := by
  obtain ⟨cc, hcc⟩ := Option.isSome_iff_exists.mp h.clusterConfig
  exact ⟨_, by rw [newKafkaSecurity, hcc]; rfl⟩

theorem getImage_ok (op : OperatorGo) : ∃ i, (newClusterReconciler cluster).getImage op = .ok i := by
  obtain ⟨i, hi, hp⟩ := h.image
  obtain ⟨p, hp⟩ := Option.isSome_iff_exists.mp hp
  exact ⟨_, by simp only [Reconciler.getImage, newClusterReconciler, hi, hp, Outcome.deref_some,
    Outcome.ok_bind]; rfl⟩

/-- Registering the cluster is registering the brokers: what holds of that holds of the role
groups of the cluster. -/
theorem registerResources_spec (op : OperatorGo) : ∃ node : BrokerReconciler,
    node.spec = some spec ∧ node.clusterName = cluster.name ∧
    node.clusterConfig = cluster.spec.clusterConfig ∧
    newKafkaSecurity cluster = .ok node.kafkaTlsSecurity ∧
    ∀ {E X : Prop} {P : Heap → Prop} {Q : List RoleGroupResources → Heap → Prop}
      (orders : String → Orders) (order : List (String × Option BrokersRoleGroupSpec)),
      Triple E X P (node.registerResources op orders order) Q →
      Triple E X P ((newClusterReconciler cluster).registerResources op orders order)
        (fun res s => res.node = node ∧ Q res.roleGroups s) := by
  obtain ⟨k, hk⟩ := h.newKafkaSecurity_ok
  obtain ⟨i, hi⟩ := h.getImage_ok op
  refine ⟨(newClusterReconciler cluster).newBrokerReconciler i k, h.brokers, rfl, rfl, hk,
    fun {E X P Q} orders order hnode => ?_⟩
  refine Triple.bind (Q := fun k' s => k' = k ∧ P s)
    (Triple.of_run (fun s hs => ⟨k, s, congrArg (·, s) hk, rfl, hs⟩))
    (fun k' => Triple.assuming ?_)
  rintro rfl
  refine Triple.bind (Q := fun i' s => i' = i ∧ P s)
    (Triple.of_run (fun s hs => ⟨i, s, congrArg (·, s) hi, rfl, hs⟩))
    (fun i' => Triple.assuming ?_)
  rintro rfl
  exact Triple.bind hnode (fun bs => Triple.pure (fun s hs => ⟨rfl, hs⟩))

/-- With a library whose merge does not fail, an admitted cluster is registered. -/
theorem registerResources_total {op : OperatorGo} (hfail : ¬ op.MergeFails)
    (orders : String → Orders) {l : List (String × Option BrokersRoleGroupSpec)}
    (hl : spec.groups.Ranges l) :
    ∃ res h', (newClusterReconciler cluster).registerResources op orders l spec.load = (.ok res, h') := by
  obtain ⟨node, hspec, -, -, -, hcluster⟩ := h.registerResources_spec op
  have hnode := KafkaOperator.registerResources_spec op (r := node) (X := False) hspec orders
    hl (fun ⟨name, hname⟩ => h.entries name hname) (fun hn => hn h.noNilFiles)
  obtain ⟨res, h', hrun, -⟩ := ((hcluster orders l hnode).weaken hfail id).total rfl
  exact ⟨res, h', hrun⟩

end Admitted

end KafkaOperator
