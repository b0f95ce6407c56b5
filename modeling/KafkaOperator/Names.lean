import KafkaOperator.Cluster
import KafkaOperator.GoStrings

/-! # The names of the resources

`internal/controller/util.go`, `service.go` and `discovery.go` name every resource after the
cluster and the role group, with `-` between the parts.  `mem_resources_iff` lists what is
registered for a cluster and under which names.

A `-` is also a letter of names, so a name does not determine what it was made from.
`resources_name_eq_iff` compares any two resources of one kind, of one cluster or of two: they
have the same name exactly if they are the same resource, or their cluster and role groups are
named so that the parts can be read in two ways (`Clash`). -/

namespace KafkaOperator

open Go

/-! ### What is registered -/

/-- The kinds of the resources; names are compared within one kind. -/
inductive Kind where
  | service
  | configMap
  | statefulSet
  | listener
  | serviceAccount
deriving DecidableEq, Repr

/-- What a resource of a cluster is for. -/
inductive Purpose where
  | roleGroupService (group : String)
  | metricsService (group : String)
  | roleGroupConfigMap (group : String)
  | statefulSet (group : String)
  | bootstrapListener (group : String)
  | discovery
  | nodePortDiscovery
  | serviceAccount
deriving DecidableEq, Repr

namespace Purpose

def kind : Purpose → Kind
  | roleGroupService _ => .service
  | metricsService _ => .service
  | roleGroupConfigMap _ => .configMap
  | statefulSet _ => .statefulSet
  | bootstrapListener _ => .listener
  | discovery => .configMap
  | nodePortDiscovery => .configMap
  | serviceAccount => .serviceAccount

/-- The role group the resource belongs to. -/
def group : Purpose → Option String
  | roleGroupService g => some g
  | metricsService g => some g
  | roleGroupConfigMap g => some g
  | statefulSet g => some g
  | bootstrapListener g => some g
  | discovery => none
  | nodePortDiscovery => none
  | serviceAccount => none

end Purpose

/-- The resources of a role group with their names. -/
def RoleGroupResources.resources (b : RoleGroupResources) : List (Purpose × String) :=
  [(.roleGroupService b.statefulSet.info.roleGroupName, b.service.name),
    (.roleGroupConfigMap b.statefulSet.info.roleGroupName, roleGroupConfigMapName b.configMap.info),
    (.statefulSet b.statefulSet.info.roleGroupName, b.statefulSet.info.getFullName),
    (.bootstrapListener b.statefulSet.info.roleGroupName, b.listener.name),
    (.metricsService b.statefulSet.info.roleGroupName, b.metricsService.name)]

/-- The resources of a cluster with their names. -/
def ClusterResources.resources (res : ClusterResources) : List (Purpose × String) :=
  (.serviceAccount, res.serviceAccount) :: (.discovery, res.discovery.name) ::
    (.nodePortDiscovery, res.nodePortDiscovery.name) ::
    res.roleGroups.flatMap RoleGroupResources.resources

/-- A registration of the cluster, with some library and some order of visiting, ended with these
resources. -/
def KafkaCluster.Registers (cluster : KafkaCluster) (spec : BrokersSpec) (res : ClusterResources) :
    Prop :=
  cluster.spec.brokers = some spec ∧
    ∃ (op : OperatorGo) (orders : String → Orders) (l : List (String × Option BrokersRoleGroupSpec))
      (h : Heap), spec.groups.Ranges l ∧
      (newClusterReconciler cluster).registerResources op orders l spec.load = (.ok res, h)

/-! ### Names -/

/-- The name of a resource of a cluster. -/
def resourceName (cluster : String) : Purpose → String
  | .roleGroupService g => cluster ++ "-broker-" ++ g
  | .metricsService g => cluster ++ "-broker-" ++ (g ++ "-metrics")
  | .roleGroupConfigMap g => cluster ++ "-broker-" ++ g
  | .statefulSet g => cluster ++ "-broker-" ++ g
  | .bootstrapListener g => cluster ++ "-broker-" ++ (g ++ "-bootstrap")
  | .discovery => cluster
  | .nodePortDiscovery => cluster ++ "-nodeport"
  | .serviceAccount => cluster

theorem getFullName_eq (cluster g : String) :
    RoleGroupInfo.getFullName ⟨cluster, roleName, g⟩ = cluster ++ "-broker-" ++ g := by
  have hsep : "-" ++ (roleName ++ "-") = "-broker-" := by decide
  calc cluster ++ "-" ++ roleName ++ "-" ++ g = cluster ++ ("-" ++ (roleName ++ "-")) ++ g := by
        simp only [String.append_assoc]
    _ = cluster ++ "-broker-" ++ g := by rw [hsep]

/-- The builders of a role group name its resources as `resourceName` says. -/
theorem resources_roleGroupResources (op : OperatorGo) (r : BrokerReconciler) (replicas : ℤ)
    (g : String) (overrides config : Ref Path) (listenerClass : String)
    (hrole : r.roleName = roleName) (p : Purpose) (n : String) :
    (p, n) ∈ (r.roleGroupResources op replicas (r.roleGroupInfo g) overrides config
        listenerClass).resources ↔
      p.group = some g ∧ n = resourceName r.clusterName p := by
  have hfull := getFullName_eq r.clusterName g
  rw [← hrole] at hfull
  simp only [RoleGroupResources.resources, BrokerReconciler.roleGroupResources,
    BrokerReconciler.roleGroupInfo, newRoleGroupService, newRoleGroupMetricsService,
    createServiceMetricsName, roleGroupConfigMapName, newRoleGroupBootstrapListener,
    bootstrapListenerName, hfull, String.append_assoc, List.mem_cons, Prod.mk.injEq,
    List.not_mem_nil, or_false]
  cases p <;> simp [Purpose.group, resourceName, String.append_assoc]
  all_goals
    intro
    subst_vars
    rfl

section Registered

variable {cluster : KafkaCluster} {spec : BrokersSpec} {res : ClusterResources}

/-- What a registration that ends leaves, whatever the cluster. -/
theorem registerResources_built (hbrokers : cluster.spec.brokers = some spec) (op : OperatorGo)
    (orders : String → Orders) {l : List (String × Option BrokersRoleGroupSpec)}
    (hl : spec.groups.Ranges l) :
    Triple True True (fun h => h = spec.load)
      ((newClusterReconciler cluster).registerResources op orders l)
      (fun res h => res.serviceAccount = cluster.name ∧ res.discovery.name = cluster.name ∧
        res.nodePortDiscovery.name = cluster.name ++ "-nodeport" ∧
        res.node.clusterName = cluster.name ∧ res.node.roleName = roleName ∧
        ConfigsInv op res.node spec l res.roleGroups h.configs) := by
  refine Triple.bind (Q := fun _ h => h = spec.load)
    (Triple.lift (fun _ => trivial) (fun _ _ => trivial) (fun _ _ hs _ => hs)) (fun k => ?_)
  refine Triple.bind (Q := fun _ h => h = spec.load)
    (Triple.lift (fun _ => trivial) (fun _ _ => trivial) (fun _ _ hs _ => hs)) (fun image => ?_)
  have hnode := KafkaOperator.registerResources_spec op (X := True)
    (r := (newClusterReconciler cluster).newBrokerReconciler image k) hbrokers orders hl
    (fun _ => trivial) (fun _ => trivial)
  refine Triple.bind (hnode.weaken (fun _ => trivial) id) (fun bs => Triple.pure (fun h hs => ?_))
  exact ⟨rfl, rfl, rfl, rfl, rfl, hs.1⟩

/-- **What is registered**: the resources of the cluster and of its role groups, under the names
`resourceName` gives, and nothing else. -/
theorem mem_resources_iff (hreg : cluster.Registers spec res) (p : Purpose) (n : String) :
    (p, n) ∈ res.resources ↔
      (∀ g, p.group = some g → (spec.groups.get g).isSome) ∧ n = resourceName cluster.name p := by
  obtain ⟨hbrokers, op, orders, l, h, hl, hrun⟩ := hreg
  obtain ⟨hsa, hdisc, hnodePort, hname, hrole, hinv⟩ :=
    (registerResources_built hbrokers op orders hl).elim rfl hrun
  have hgroups : (p, n) ∈ res.roleGroups.flatMap RoleGroupResources.resources ↔
      ∃ g, p.group = some g ∧ (spec.groups.get g).isSome ∧ n = resourceName cluster.name p := by
    rw [List.mem_flatMap]
    constructor
    · rintro ⟨b, hb, hmem⟩
      obtain ⟨done, e, rest, rfl, hbuilt⟩ := hinv.built.of_mem hb
      obtain ⟨_, _, _, rfl⟩ := hbuilt.registered
      rw [resources_roleGroupResources _ _ _ _ _ _ _ hrole, hname] at hmem
      have hget := (hl.2 e.1 e.2).mp (by simp)
      exact ⟨e.1, hmem.1, by simp [hget], hmem.2⟩
    · rintro ⟨g, hg, hsome, hn⟩
      obtain ⟨entry, hentry⟩ := Option.isSome_iff_exists.mp hsome
      obtain ⟨done, rest, rfl⟩ := List.mem_iff_append.mp ((hl.2 g entry).mpr hentry)
      obtain ⟨b, hb, hbuilt⟩ := hinv.built.exists_of_split rfl
      refine ⟨b, hb, ?_⟩
      obtain ⟨_, _, _, rfl⟩ := hbuilt.registered
      rw [resources_roleGroupResources _ _ _ _ _ _ _ hrole, hname]
      exact ⟨hg, hn⟩
  simp only [ClusterResources.resources, List.mem_cons, Prod.mk.injEq, hgroups, hsa, hdisc, hnodePort]
  cases p <;> simp [Purpose.group, resourceName]

end Registered

/-! ### Names that can be read in two ways -/

/-- The part `-broker-` of the name of group `g` of cluster `c` stands further to the right when
it is read as the name of group `g'` of cluster `c'`. -/
def Overlap (c g c' g' : String) : Prop :=
  (c' = c ++ "-broker" ∧ g = "broker-" ++ g') ∨
    ∃ t, c' = c ++ "-broker-" ++ t ∧ g = t ++ "-broker-" ++ g'

/-- One of the two readings of a full name overlaps the other. -/
def Ambiguous (c g c' g' : String) : Prop := Overlap c g c' g' ∨ Overlap c' g' c g

/-- A full name can also be the name of a node port discovery ConfigMap. -/
def NodePortLike (c g c' : String) : Prop :=
  (c' = c ++ "-broker" ∧ g = "nodeport") ∨ ∃ t, c' = c ++ "-broker-" ++ t ∧ g = t ++ "-nodeport"

/-- The names of two different resources of one kind, the first of cluster `c` and the second of
cluster `c'`, are made of parts that give the same text. -/
def Clash (c : String) (p : Purpose) (c' : String) (p' : Purpose) : Prop :=
  match p, p' with
  | .roleGroupService g, .roleGroupService g' => Ambiguous c g c' g'
  | .roleGroupService g, .metricsService g' =>
      (c = c' ∧ g = g' ++ "-metrics") ∨ Ambiguous c g c' (g' ++ "-metrics")
  | .metricsService g, .roleGroupService g' =>
      (c = c' ∧ g ++ "-metrics" = g') ∨ Ambiguous c (g ++ "-metrics") c' g'
  | .metricsService g, .metricsService g' => Ambiguous c g c' g'
  | .roleGroupConfigMap g, .roleGroupConfigMap g' => Ambiguous c g c' g'
  | .roleGroupConfigMap g, .discovery => c' = c ++ "-broker-" ++ g
  | .discovery, .roleGroupConfigMap g => c = c' ++ "-broker-" ++ g
  | .roleGroupConfigMap g, .nodePortDiscovery => NodePortLike c g c'
  | .nodePortDiscovery, .roleGroupConfigMap g => NodePortLike c' g c
  | .discovery, .nodePortDiscovery => c = c' ++ "-nodeport"
  | .nodePortDiscovery, .discovery => c' = c ++ "-nodeport"
  | .statefulSet g, .statefulSet g' => Ambiguous c g c' g'
  | .bootstrapListener g, .bootstrapListener g' => Ambiguous c g c' g'
  | _, _ => False

/-- What `-broker-` both starts and ends with. -/
theorem broker_border {w v u : String} (hw : "-broker-" = w ++ v) (hu : "-broker-" = v ++ u) :
    v = "" ∨ v = "-" ∨ v = "-broker-" := by
  have hborder : ∀ l ∈ "-broker-".toList.tails, l <+: "-broker-".toList →
      l = "".toList ∨ l = "-".toList ∨ l = "-broker-".toList := by
    decide
  have hsuffix : v.toList ∈ "-broker-".toList.tails :=
    (List.mem_tails ..).mpr ⟨w.toList, by rw [hw, String.toList_append]⟩
  have hstart : v.toList <+: "-broker-".toList := ⟨u.toList, by rw [hu, String.toList_append]⟩
  simpa only [String.toList_inj] using hborder v.toList hsuffix hstart

theorem sepShift_broker_iff {c g c' g' : String} :
    SepShift "-broker-" c g c' g' ↔ (c = c' ∧ g = g') ∨ Overlap c g c' g' := by
  constructor
  · rintro (h | ⟨w, v, u, hw, hu, rfl, rfl⟩)
    · exact .inr (.inr h)
    · rcases broker_border hw hu with rfl | rfl | rfl
      · rw [String.append_empty] at hw
        rw [String.empty_append] at hu
        exact .inr (.inr ⟨"", by simp [← hw], by simp [← hu]⟩)
      · have hw' : "-broker" ++ "-" = w ++ "-" := hw
        have hu' : "-" ++ "broker-" = "-" ++ u := hu
        obtain rfl := (String.append_left_inj "-").mp hw'
        obtain rfl := (String.append_right_inj "-").mp hu'
        exact .inr (.inl ⟨rfl, rfl⟩)
      · obtain rfl := String.append_eq_right_iff.mp hw.symm
        obtain rfl := String.append_eq_left_iff.mp hu.symm
        exact .inl ⟨by simp, by simp⟩
  · rintro (⟨rfl, rfl⟩ | ⟨rfl, rfl⟩ | h)
    · exact .inr ⟨"", "-broker-", "", by simp, by simp, by simp, by simp⟩
    · exact .inr ⟨"-broker", "-", "broker-", rfl, rfl, rfl, rfl⟩
    · exact .inl h

/-- Two full names are the same exactly if their parts are or they can be read in two ways. -/
theorem fullName_eq_iff {c g c' g' : String} :
    c ++ "-broker-" ++ g = c' ++ "-broker-" ++ g' ↔ (c = c' ∧ g = g') ∨ Ambiguous c g c' g' := by
  rw [append_sep_eq_iff, sepShift_broker_iff, sepShift_broker_iff, Ambiguous, eq_comm (a := c'),
    eq_comm (a := g')]
  tauto

/-- Two names with the same ending after the role group. -/
theorem fullName_append_eq_iff {c g c' g' : String} (e : String) :
    c ++ "-broker-" ++ (g ++ e) = c' ++ "-broker-" ++ (g' ++ e) ↔
      (c = c' ∧ g = g') ∨ Ambiguous c g c' g' := by
  rw [← String.append_assoc, ← String.append_assoc, String.append_left_inj, fullName_eq_iff]

/-- The beginnings of `-nodeport` that can end in the last letter of `-broker-`. -/
theorem nodeport_start {c c' t g : String} (hc : c ++ "-broker-" = c' ++ t)
    (hg : "-nodeport" = t ++ g) : t = "" ∨ t = "-" := by
  have hstart : ∀ l ∈ "-nodeport".toList.inits, l = [] ∨ l = ['-'] ∨ l.getLast? ≠ some '-' := by
    decide
  have hmem : t.toList ∈ "-nodeport".toList.inits :=
    (List.mem_inits ..).mpr ⟨g.toList, by rw [hg, String.toList_append]⟩
  rcases hstart t.toList hmem with h | h | h
  · exact .inl (String.toList_inj.mp h)
  · exact .inr (String.toList_inj.mp h)
  · left
    by_contra hne
    have hlist : t.toList ≠ [] := fun hnil => hne (String.toList_inj.mp hnil)
    have hlast := congrArg (fun x => x.toList.getLast?) hc
    simp only [String.toList_append, List.getLast?_append_of_ne_nil _ hlist] at hlast
    rw [List.getLast?_append_of_ne_nil _ (by decide)] at hlast
    exact h (hlast.symm.trans (by decide))

/-- The full name of a role group is that of a node port discovery ConfigMap. -/
theorem fullName_eq_nodePort_iff {c g c' : String} :
    c ++ "-broker-" ++ g = c' ++ "-nodeport" ↔ NodePortLike c g c' := by
  constructor
  · intro h
    rcases append_eq_append_iff.mp h with ⟨t, rfl, rfl⟩ | ⟨t, hc, hg⟩
    · exact .inr ⟨t, rfl, rfl⟩
    · rcases nodeport_start hc hg with rfl | rfl
      · rw [String.append_empty] at hc
        rw [String.empty_append] at hg
        exact .inr ⟨"", by simp [hc], by simp [hg]⟩
      · have hc' : c ++ "-broker" ++ "-" = c' ++ "-" := by rw [← hc, String.append_assoc]; rfl
        have hg' : "-" ++ "nodeport" = "-" ++ g := hg
        exact .inl ⟨((String.append_left_inj "-").mp hc').symm,
          ((String.append_right_inj "-").mp hg').symm⟩
  · rintro (⟨rfl, rfl⟩ | ⟨t, rfl, rfl⟩)
    · rw [String.append_assoc, String.append_assoc]
      rfl
    · simp only [String.append_assoc]

/-- When two names of one kind are the same text. -/
theorem resourceName_eq_iff {c c' : String} {p p' : Purpose} (hkind : p.kind = p'.kind) :
    resourceName c p = resourceName c' p' ↔ (c = c' ∧ p = p') ∨ Clash c p c' p' := by
  cases p <;> cases p' <;> cases hkind
  case roleGroupService.roleGroupService => simpa [resourceName, Clash] using fullName_eq_iff
  case roleGroupService.metricsService => simpa [resourceName, Clash] using fullName_eq_iff
  case metricsService.roleGroupService => simpa [resourceName, Clash] using fullName_eq_iff
  case metricsService.metricsService =>
    simpa [resourceName, Clash] using fullName_append_eq_iff "-metrics"
  case roleGroupConfigMap.roleGroupConfigMap => simpa [resourceName, Clash] using fullName_eq_iff
  case roleGroupConfigMap.discovery => simp [resourceName, Clash, eq_comm]
  case roleGroupConfigMap.nodePortDiscovery =>
    simpa [resourceName, Clash] using fullName_eq_nodePort_iff
  case statefulSet.statefulSet => simpa [resourceName, Clash] using fullName_eq_iff
  case bootstrapListener.bootstrapListener =>
    simpa [resourceName, Clash] using fullName_append_eq_iff "-bootstrap"
  case discovery.roleGroupConfigMap => simp [resourceName, Clash]
  case discovery.discovery => simp [resourceName, Clash]
  case discovery.nodePortDiscovery => simp [resourceName, Clash]
  case nodePortDiscovery.roleGroupConfigMap =>
    simpa [resourceName, Clash, eq_comm] using fullName_eq_nodePort_iff
  case nodePortDiscovery.discovery => simp [resourceName, Clash, eq_comm]
  case nodePortDiscovery.nodePortDiscovery => simp [resourceName, Clash, String.append_left_inj]
  case serviceAccount.serviceAccount => simp [resourceName, Clash]

theorem not_ambiguous_self (c g g' : String) : ¬ Ambiguous c g c g' := by
  simp [Ambiguous, Overlap, String.append_assoc, self_eq_append_iff]

theorem not_nodePortLike_self (c g : String) : ¬ NodePortLike c g c := by
  simp [NodePortLike, String.append_assoc, self_eq_append_iff]

/-- Within one cluster the only clash is that of the Services of a group and of the group that is
named after its metrics Service. -/
theorem clash_self_iff (c : String) (p p' : Purpose) : Clash c p c p' ↔
    ∃ g, (p = .metricsService g ∧ p' = .roleGroupService (g ++ "-metrics")) ∨
      (p = .roleGroupService (g ++ "-metrics") ∧ p' = .metricsService g) := by
  constructor
  · intro h
    cases p <;> cases p' <;>
      simp [Clash, not_ambiguous_self, not_nodePortLike_self, String.append_assoc,
        self_eq_append_iff] at h
    case metricsService.roleGroupService g _ => exact ⟨g, .inl ⟨rfl, by rw [h]⟩⟩
    case roleGroupService.metricsService _ g => exact ⟨g, .inr ⟨by rw [h], rfl⟩⟩
  · rintro ⟨g, ⟨rfl, rfl⟩ | ⟨rfl, rfl⟩⟩ <;> exact .inl ⟨rfl, rfl⟩

/-! ### Collisions -/

/-- **When two resources have the same name**: for any two registered clusters and any two of their
resources of one kind, exactly if it is one resource or the names clash. -/
theorem resources_name_eq_iff {cluster cluster' : KafkaCluster} {spec spec' : BrokersSpec}
    {res res' : ClusterResources} (hreg : cluster.Registers spec res)
    (hreg' : cluster'.Registers spec' res') {p p' : Purpose} {n n' : String}
    (hp : (p, n) ∈ res.resources) (hp' : (p', n') ∈ res'.resources) (hkind : p.kind = p'.kind) :
    n = n' ↔ (cluster.name = cluster'.name ∧ p = p') ∨ Clash cluster.name p cluster'.name p' := by
  obtain ⟨-, rfl⟩ := (mem_resources_iff hreg p n).mp hp
  obtain ⟨-, rfl⟩ := (mem_resources_iff hreg' p' n').mp hp'
  exact resourceName_eq_iff hkind

/-- A valid name of a resource: at most 63 lower case letters, digits and `-`, with a letter or
digit at both ends. -/
def isDnsLabel (s : String) : Bool :=
  let alphanumeric (c : Char) : Bool := c.isLower || c.isDigit
  s.length ≤ 63 && s.toList.all (fun c => alphanumeric c || c == '-') &&
    s.toList.head?.any alphanumeric && s.toList.getLast?.any alphanumeric

/-- A role with the two given role groups. -/
def twoGroups (g g' : String) : BrokersSpec :=
  ⟨none, some (Map.ofList [(g, some ⟨1, none, none⟩), (g', some ⟨1, none, none⟩)]), none⟩

/-- The sample cluster under another name. -/
def namedCluster (name : String) (spec : BrokersSpec) : KafkaCluster :=
  { KafkaCluster.sample [] none spec with name := name }

theorem twoGroups_get (g g' name : String) : (twoGroups g g').groups.get name =
    if name = g' ∨ name = g then some (some ⟨1, none, none⟩) else none := by
  show (if name = g' then _ else if name = g then _ else _) = _
  split_ifs <;> simp_all

theorem namedCluster_admitted (name g g' : String) :
    Admitted (namedCluster name (twoGroups g g')) (twoGroups g g') where
  brokers := rfl
  clusterConfig := rfl
  image := ⟨_, rfl, rfl⟩
  entries k := by
    rw [twoGroups_get]
    split_ifs <;> simp
  noNilFiles := by
    refine ⟨(fun _ hu => nomatch hu), fun k u hu => ?_⟩
    rw [BrokersSpec.ownOverrides, twoGroups_get] at hu
    split_ifs at hu <;> simp at hu

/-- The named cluster is registered. -/
theorem namedCluster_registers (name g g' : String) :
    ∃ res, (namedCluster name (twoGroups g g')).Registers (twoGroups g g') res := by
  obtain ⟨order⟩ : Nonempty Orders := inferInstance
  obtain ⟨l, hl⟩ := (twoGroups g g').groups.exists_ranges
  obtain ⟨res, h, hrun⟩ := (namedCluster_admitted name g g').registerResources_total
    (OperatorGo.reference_not_mergeFails (fun _ => false)) (fun _ => order) hl
  exact ⟨res, rfl, _, _, l, h, hl, hrun⟩

/-- A group `default` and a group `default-metrics`: one Service is registered for both. -/
theorem metricsService_clash :
    isDnsLabel "kafka" ∧ isDnsLabel "default" ∧ isDnsLabel "default-metrics" ∧
    Admitted (namedCluster "kafka" (twoGroups "default" "default-metrics"))
      (twoGroups "default" "default-metrics") ∧
    ∃ res, (namedCluster "kafka" (twoGroups "default" "default-metrics")).Registers
        (twoGroups "default" "default-metrics") res ∧
      (Purpose.metricsService "default", "kafka-broker-default-metrics") ∈ res.resources ∧
      (Purpose.roleGroupService "default-metrics", "kafka-broker-default-metrics") ∈ res.resources := by
  obtain ⟨res, hreg⟩ := namedCluster_registers "kafka" "default" "default-metrics"
  refine ⟨by decide, by decide, by decide, namedCluster_admitted _ _ _, res, hreg, ?_, ?_⟩
  · exact (mem_resources_iff hreg _ _).mpr ⟨by simp [Purpose.group, twoGroups_get], rfl⟩
  · exact (mem_resources_iff hreg _ _).mpr ⟨by simp [Purpose.group, twoGroups_get], rfl⟩

/-- The clusters `kafka` and `kafka-broker`: the StatefulSets of their groups `broker-default` and
`default` have one name. -/
theorem resources_name_eq_iff_statefulSets :
    ∃ res res', (namedCluster "kafka" (twoGroups "broker-default" "b")).Registers
        (twoGroups "broker-default" "b") res ∧
      (namedCluster "kafka-broker" (twoGroups "default" "b")).Registers (twoGroups "default" "b") res' ∧
      (Purpose.statefulSet "broker-default", "kafka-broker-broker-default") ∈ res.resources ∧
      (Purpose.statefulSet "default", "kafka-broker-broker-default") ∈ res'.resources ∧
      Clash "kafka" (.statefulSet "broker-default") "kafka-broker" (.statefulSet "default") := by
  obtain ⟨res, hreg⟩ := namedCluster_registers "kafka" "broker-default" "b"
  obtain ⟨res', hreg'⟩ := namedCluster_registers "kafka-broker" "default" "b"
  have hp := (mem_resources_iff hreg (.statefulSet "broker-default") "kafka-broker-broker-default").mpr
    ⟨by simp [Purpose.group, twoGroups_get], rfl⟩
  have hp' := (mem_resources_iff hreg' (.statefulSet "default") "kafka-broker-broker-default").mpr
    ⟨by simp [Purpose.group, twoGroups_get], rfl⟩
  refine ⟨res, res', hreg, hreg', hp, hp', ?_⟩
  refine ((resources_name_eq_iff hreg hreg' hp hp' rfl).mp rfl).resolve_left (fun h => ?_)
  exact absurd h.1 (by decide)

end KafkaOperator
