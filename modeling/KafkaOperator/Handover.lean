import KafkaOperator.Agreement
import KafkaOperator.PodReferences

/-! # Settings handed over by hand

Three settings of a cluster pass through several constructors before they reach a pod: the DNS
domain, whether the cluster is stopped, and the memory limit that bounds the JVM heap.  None of
them arrives.

* `internal_host_iff`: `PodFqdn` has the domain in its text, so brokers advertise an address that
  resolves exactly if the cluster's domain is that one.
* `stop_reaches_iff`: `NewClusterReconciler` leaves `ClusterOperation` nil, so the flags agree with
  the specification exactly if it does not ask to stop.
* `heap_never_bounded`: `NewKafkaContainer` leaves the resources nil, so no container has a heap
  setting.  The computation itself is right (`containerEnv_heapBounded`). -/

namespace KafkaOperator

open Go

/-! ### The advertised host -/

namespace KafkaContainerBuilder

/-- The advertised listeners stand in the command as they were rendered. -/
theorem mentions_advertised (listeners advertised protocols : String) :
    Mentions (serverCommand listeners advertised protocols)
      ("\" --override \"advertised.listeners=" ++ advertised ++ "\" --override ") := by
  have hquote : "\" --override \"listener.security.protocol.map=" =
      "\" --override " ++ "\"listener.security.protocol.map=" := by decide
  refine infix_of_eq_append ("bin/kafka-server-start.sh " ++ kubedoopConfigDir ++ "/" ++
    serverFileName ++ " --override \"zookeeper.connect=$\x7bZOOKEEPER\x7d\" --override \"listeners=" ++
    listeners) ("\"listener.security.protocol.map=" ++ protocols ++ "\" ") ?_
  unfold serverCommand
  rw [hquote]
  simp only [String.append_assoc]

end KafkaContainerBuilder

/-- The host under which a broker is reachable inside the cluster: the name of its pod under the
headless Service. -/
def brokerHost (serviceName kubeNamespace clusterDomain : String) : String :=
  "$POD_NAME." ++ serviceName ++ "." ++ kubeNamespace ++ ".svc." ++ clusterDomain

theorem podFqdn_eq_brokerHost (kubeNamespace objectName : String) :
    podFqdn kubeNamespace objectName = brokerHost objectName kubeNamespace "cluster.local" := by
  have hdomain : ".svc.cluster.local" = ".svc." ++ "cluster.local" := by decide
  unfold podFqdn brokerHost
  rw [hdomain, ← String.append_assoc]

theorem brokerHost_inj {serviceName kubeNamespace d d' : String} :
    brokerHost serviceName kubeNamespace d = brokerHost serviceName kubeNamespace d' ↔ d = d' :=
  String.append_right_inj _

/-- The domain that the specification gives. -/
def KafkaClusterSpec.clusterDomain (s : KafkaClusterSpec) : String := match s.clusterConfig with
  | some cc => cc.clusterDomain
  | none => ""

/-- The listeners of the brokers of a role group. -/
def StatefulSetBuilder.listenerConfig (b : StatefulSetBuilder) : KafkaListenerConfig :=
  getKafkaListenerConfig b.kubeNamespace b.kafkaTlsSecurity b.info.getFullName

/-- The brokers of a role group advertise an address that resolves: the command of the main
container has the advertised listeners, `INTERNAL` is one of them and has the broker's host, and
the Service in it is the headless one that is registered and that the StatefulSet names. -/
structure AdvertisesResolvable (op : OperatorGo) (b : RoleGroupResources) (main : Container)
    (kubeNamespace clusterDomain : String) : Prop where
  rendered : ∃ arg ∈ main.args, Mentions arg ("\" --override \"advertised.listeners=" ++
    b.statefulSet.listenerConfig.advertisedListenersString ++ "\" --override ")
  internal : ∃ l ∈ b.statefulSet.listenerConfig.advertisedListeners, l.name = .internal
  host : ∀ l ∈ b.statefulSet.listenerConfig.advertisedListeners, l.name = .internal →
    l.host = brokerHost b.service.name kubeNamespace clusterDomain
  serviceName : ∀ w sts, b.statefulSet.getObject op w = .ok sts → sts.serviceName = b.service.name
  headless : b.service.headless = true

/-- The advertised listener `INTERNAL` of a broker. -/
theorem KafkaSecurity.advertised_internal (k : KafkaSecurity) (ns obj : String) :
    ∀ l ∈ (getKafkaListenerConfig ns k obj).advertisedListeners, l.name = .internal →
      l = k.advertised ns obj .internal := by
  rw [k.getKafkaListenerConfig_advertised]
  intro l hl hname
  obtain ⟨n, -, rfl⟩ := List.mem_map.mp hl
  cases n with
  | internal => rfl
  | client | clientAuth | bootstrap => cases hname

section Registered

variable {op : OperatorGo} {cluster : KafkaCluster} {spec : BrokersSpec} {res : ClusterResources}
  {h : Heap}

/-- What the registration hands to the builders of a role group. -/
theorem RegistersIn.builders (hreg : RegistersIn op cluster spec res h) {b : RoleGroupResources}
    (hb : b ∈ res.roleGroups) : b.statefulSet.kubeNamespace = cluster.kubeNamespace ∧
      b.statefulSet.clusterConfig = cluster.spec.clusterConfig ∧
      b.service = newRoleGroupService op b.statefulSet.info ∧ b.stopped = false ∧
      res.node.stopped = false := by
  obtain ⟨k, image, -, -, hnode⟩ := hreg.node
  obtain ⟨name, filled, -, hbuilt⟩ := hreg.built hb
  obtain ⟨_, _, _, rfl⟩ := hbuilt.registered
  rw [hnode]
  exact ⟨rfl, rfl, rfl, rfl, rfl⟩

/-- **Brokers advertise an address that resolves** exactly if the cluster's domain is
`cluster.local`. -/
theorem internal_host_iff (hreg : RegistersIn op cluster spec res h) {b : RoleGroupResources}
    (hb : b ∈ res.roleGroups) {order : List (KafkaListenerName × KafkaListenerProtocol)}
    {v : BrokersConfigSpec} {main : Container}
    (hmain : b.statefulSet.createMainContainer op order v = .ok main) :
    AdvertisesResolvable op b main cluster.kubeNamespace cluster.spec.clusterDomain ↔
      cluster.spec.clusterDomain = "cluster.local" := by
  obtain ⟨hnamespace, -, hservice, -, -⟩ := hreg.builders hb
  have hname : b.service.name = b.statefulSet.info.getFullName := by
    rw [hservice]
    rfl
  have hinternal := b.statefulSet.kafkaTlsSecurity.advertised_internal b.statefulSet.kubeNamespace
    b.statefulSet.info.getFullName
  have hexists : ∃ l ∈ b.statefulSet.listenerConfig.advertisedListeners, l.name = .internal := by
    rw [StatefulSetBuilder.listenerConfig, KafkaSecurity.getKafkaListenerConfig_advertised]
    exact ⟨_, List.mem_map_of_mem (KafkaSecurity.internal_mem _), rfl⟩
  constructor
  · intro hadv
    obtain ⟨l, hl, hlname⟩ := hadv.internal
    have hhost := hadv.host l hl hlname
    rw [hinternal l hl hlname, hname, ← hnamespace] at hhost
    exact (brokerHost_inj.mp ((podFqdn_eq_brokerHost _ _).symm.trans hhost)).symm
  · intro hdomain
    refine ⟨?_, hexists, ?_, ?_, ?_⟩
    · obtain ⟨cc', rgc, -, -, hargs, -⟩ := (StatefulSetBuilder.createMainContainer_eq_ok hmain).built
      obtain ⟨p, q, hpq⟩ := KafkaContainerBuilder.commandArgs_eq_ok hargs
      rw [hpq]
      exact ⟨_, List.mem_singleton_self _,
        (KafkaContainerBuilder.mentions_advertised _ _ _).context p q⟩
    · intro l hl hlname
      rw [hinternal l hl hlname, hname, ← hnamespace, hdomain]
      exact podFqdn_eq_brokerHost _ _
    · intro w sts hsts
      obtain ⟨t, -, hsts⟩ := Outcome.bind_eq_ok.mp hsts
      obtain rfl := Outcome.ok.inj hsts
      exact hname.symm
    · rw [hservice]
      rfl

end Registered

/-! ### A cluster with a domain and an operation -/

/-- A cluster without security, with one role group. -/
def operatedCluster (clusterDomain : String) (operation : Option ClusterOperationSpec) :
    KafkaCluster where
  name := "kafka"
  kubeNamespace := "default"
  labels := Map.empty
  spec :=
    { image := some ⟨"", "quay.io/zncdatadev", "0.0.0-dev", "3.9.0", some "IfNotPresent"⟩
      clusterConfig := some ⟨clusterDomain, [], none, "", "kafka-znode"⟩
      clusterOperation := operation
      brokers := some securedBrokers }

/-- Its registration, and the main container of its role group. -/
theorem operatedCluster_registers (clusterDomain : String)
    (operation : Option ClusterOperationSpec) :
    ∃ res h, RegistersIn (.reference (fun _ => false)) (operatedCluster clusterDomain operation)
        securedBrokers res h ∧
      ∃ b ∈ res.roleGroups, b.statefulSet.info = ⟨"kafka", "broker", "default"⟩ ∧
        b.statefulSet.kubeNamespace = "default" ∧
        b.statefulSet.kafkaTlsSecurity = ⟨[], "", "", "", "", none⟩ ∧
        ∀ order, ∃ main, b.statefulSet.createMainContainer (.reference (fun _ => false)) order
          (BrokersConfigSpec.zero.withDefaults .reference "kafka") = .ok main := by
  obtain ⟨o⟩ : Nonempty Orders := inferInstance
  have hadm : Admitted (operatedCluster clusterDomain operation) securedBrokers :=
    ⟨rfl, rfl, ⟨_, rfl, rfl⟩, securedCluster_admitted.entries, securedCluster_admitted.noNilFiles⟩
  obtain ⟨l, hl⟩ := securedBrokers.groups.exists_ranges
  obtain ⟨res, h, hrun⟩ := hadm.registerResources_total
    (OperatorGo.reference_not_mergeFails (fun _ => false)) (fun _ => o) hl
  have hreg : RegistersIn (.reference (fun _ => false)) (operatedCluster clusterDomain operation)
      securedBrokers res h := ⟨rfl, _, l, hl, hrun⟩
  obtain ⟨b, hb, hname⟩ := hreg.exists_built "default" (by decide)
  refine ⟨res, h, hreg, b, hb, ?_⟩
  obtain ⟨k, image, hk, himage, hnode⟩ := hreg.node
  obtain ⟨name, filled, -, hbuilt⟩ := hreg.built hb
  obtain ⟨_, _, _, rfl⟩ := hbuilt.registered
  obtain rfl : name = "default" := hname
  obtain rfl := Outcome.ok.inj hk
  rw [hnode]
  exact ⟨rfl, rfl, rfl, fun order => ⟨_, rfl⟩⟩

theorem internal_host_iff_clusterLocal :
    ∃ res h, RegistersIn (.reference (fun _ => false)) (operatedCluster "cluster.local" none)
        securedBrokers res h ∧
      ∃ b ∈ res.roleGroups, ∀ order, ∃ main, b.statefulSet.createMainContainer
          (.reference (fun _ => false)) order (BrokersConfigSpec.zero.withDefaults .reference "kafka") =
            .ok main ∧
        AdvertisesResolvable (.reference (fun _ => false)) b main "default" "cluster.local" := by
  obtain ⟨res, h, hreg, b, hb, -, -, -, hmain⟩ := operatedCluster_registers "cluster.local" none
  refine ⟨res, h, hreg, b, hb, fun order => ?_⟩
  obtain ⟨main, hmain⟩ := hmain order
  exact ⟨main, hmain, (internal_host_iff hreg hb hmain).mpr rfl⟩

/-- With the domain `example.org`, brokers advertise a host under `cluster.local`. -/
theorem exampleDomain_not_advertised :
    ∃ res h, RegistersIn (.reference (fun _ => false)) (operatedCluster "example.org" none)
        securedBrokers res h ∧
      ∃ b ∈ res.roleGroups, ∃ l ∈ b.statefulSet.listenerConfig.advertisedListeners,
        l.name = .internal ∧
        l.host = "$POD_NAME.kafka-broker-default.default.svc.cluster.local" ∧
        brokerHost b.service.name "default" "example.org" =
          "$POD_NAME.kafka-broker-default.default.svc.example.org" := by
  obtain ⟨res, h, hreg, b, hb, hinfo, hnamespace, hk, -⟩ := operatedCluster_registers "example.org" none
  obtain ⟨-, -, hservice, -, -⟩ := hreg.builders hb
  refine ⟨res, h, hreg, b, hb, KafkaSecurity.advertised ⟨[], "", "", "", "", none⟩ "default"
    "kafka-broker-default" .internal, ?_, rfl, ?_, ?_⟩
  · rw [StatefulSetBuilder.listenerConfig, hinfo, hnamespace, hk,
      KafkaSecurity.getKafkaListenerConfig_advertised]
    exact List.mem_map_of_mem (KafkaSecurity.internal_mem _)
  · decide
  · rw [hservice, hinfo]
    decide

/-! ### Stopping -/

/-- The specification asks to stop the cluster. -/
def KafkaClusterSpec.stopped (s : KafkaClusterSpec) : Bool := match s.clusterOperation with
  | some o => o.stopped
  | none => false

/-- The flags of the role and of every role group's StatefulSet are the specification's. -/
structure StopReaches (s : KafkaClusterSpec) (res : ClusterResources) : Prop where
  role : res.node.stopped = s.stopped
  roleGroups : ∀ b ∈ res.roleGroups, b.stopped = s.stopped

/-- **Stopping reaches the brokers** exactly if nothing is to be stopped. -/
theorem stop_reaches_iff {op : OperatorGo} {cluster : KafkaCluster} {spec : BrokersSpec}
    {res : ClusterResources} {h : Heap} (hreg : RegistersIn op cluster spec res h) :
    StopReaches cluster.spec res ↔ cluster.spec.stopped = false := by
  have hrole : res.node.stopped = false := by
    obtain ⟨k, image, -, -, hnode⟩ := hreg.node
    rw [hnode]
    rfl
  constructor
  · intro hstop
    rw [← hstop.role, hrole]
  · intro hstopped
    refine ⟨hrole.trans hstopped.symm, fun b hb => ?_⟩
    obtain ⟨-, -, -, hgroup, -⟩ := hreg.builders hb
    rw [hgroup, hstopped]

theorem stop_reaches_iff_running :
    ∃ res h, RegistersIn (.reference (fun _ => false)) (operatedCluster "cluster.local" none)
      securedBrokers res h ∧ StopReaches (operatedCluster "cluster.local" none).spec res := by
  obtain ⟨res, h, hreg, -⟩ := operatedCluster_registers "cluster.local" none
  exact ⟨res, h, hreg, (stop_reaches_iff hreg).mpr rfl⟩

/-- A cluster that is to be stopped: both flags are false. -/
theorem stoppedCluster_runs :
    (operatedCluster "cluster.local" (some ⟨false, true⟩)).spec.stopped = true ∧
    ∃ res h, RegistersIn (.reference (fun _ => false))
        (operatedCluster "cluster.local" (some ⟨false, true⟩)) securedBrokers res h ∧
      res.node.stopped = false ∧ ∃ b ∈ res.roleGroups, b.stopped = false := by
  obtain ⟨res, h, hreg, b, hb, -⟩ := operatedCluster_registers "cluster.local" (some ⟨false, true⟩)
  obtain ⟨-, -, -, hgroup, hrole⟩ := hreg.builders hb
  exact ⟨rfl, res, h, hreg, hrole, b, hb, hgroup⟩

/-! ### The heap -/

/-- For a memory limit of `q` bytes the environment bounds the heap by four fifths of the whole
mebibytes, and that is within the limit. -/
structure HeapBounded (env : List EnvVar) (q : ℤ) : Prop where
  setting : ⟨envKafkaHeapOpts, .value ("-Xmx" ++ toString (8 * (q / 2 ^ 20) / 10) ++ "m")⟩ ∈ env
  le_limit : 8 * (q / 2 ^ 20) / 10 * 2 ^ 20 ≤ q
  le_share : 10 * (8 * (q / 2 ^ 20) / 10) * 2 ^ 20 ≤ 8 * q

theorem Quantity.value_intCast (q : ℤ) : Quantity.value q = q := by
  unfold Quantity.value
  split_ifs
  · exact Int.ceil_intCast q
  · exact Int.floor_intCast q

theorem quantityToMB_intCast {q : ℤ} (hq : 0 ≤ q) : quantityToMB q = q / 2 ^ 20 := by
  rw [quantityToMB, Quantity.value_intCast, Int.tdiv_eq_ediv_of_nonneg hq]
  rfl

/-- `ContainerEnv` bounds the heap where the builder has a memory limit. -/
theorem KafkaContainerBuilder.containerEnv_heapBounded (d : KafkaContainerBuilder) {r : ResourcesSpec}
    {q : ℤ} (hr : d.resourceSpec = some r) (hm : r.memory = some ⟨q⟩) (hq : 0 ≤ q) :
    HeapBounded d.containerEnv q := by
  have hmb : 0 ≤ 8 * (q / 2 ^ 20) := by positivity
  refine ⟨?_, by omega, by omega⟩
  simp only [containerEnv, hr, Option.bind_some, hm, quantityToMB_intCast hq,
    Int.tdiv_eq_ediv_of_nonneg hmb]
  exact List.mem_append_right _ (List.mem_singleton_self _)

/-- The variables of a container of `NewKafkaContainer`. -/
theorem newKafkaContainer_envNames (zookeeper ns obj : String) (k : KafkaSecurity) :
    (newKafkaContainer zookeeper k ns obj).containerEnv.map (·.name) =
      [envPodName, envNode, envZookeeperConnections, envKafkaLog4jOpts, envJvmArgs] ++
        if k.isKerberosEnabled then ["KRB5_CONFIG", "KAFKA_OPTS"] else [] := by
  unfold KafkaContainerBuilder.containerEnv newKafkaContainer
  simp only [Option.bind_none]
  split_ifs
  · rfl
  · rfl

theorem newKafkaContainer_no_heap (zookeeper ns obj : String) (k : KafkaSecurity) :
    envKafkaHeapOpts ∉ (newKafkaContainer zookeeper k ns obj).containerEnv.map (·.name) := by
  rw [newKafkaContainer_envNames]
  split_ifs
  · decide
  · decide

/-- **The heap is never bounded**: the main container of no role group carries the setting. -/
theorem heap_never_bounded {op : OperatorGo} {b : StatefulSetBuilder}
    {order : List (KafkaListenerName × KafkaListenerProtocol)} {v : BrokersConfigSpec}
    {main : Container} (hmain : b.createMainContainer op order v = .ok main) (q : ℤ) :
    ¬ HeapBounded main.env q := by
  obtain ⟨cc, rgc, -, -, -, henv, -⟩ := (StatefulSetBuilder.createMainContainer_eq_ok hmain).built
  intro hbounded
  have hmem := hbounded.setting
  rw [henv] at hmem
  exact newKafkaContainer_no_heap _ _ _ _ (List.mem_map_of_mem hmem)

theorem heap_never_bounded_default :
    ∃ res h, RegistersIn (.reference (fun _ => false)) (operatedCluster "cluster.local" none)
        securedBrokers res h ∧
      ∃ b ∈ res.roleGroups, ∀ order, ∃ main, b.statefulSet.createMainContainer
          (.reference (fun _ => false)) order (BrokersConfigSpec.zero.withDefaults .reference "kafka") =
            .ok main ∧
        ¬ HeapBounded main.env (2 ^ 30) := by
  obtain ⟨res, h, hreg, b, hb, -, -, -, hmain⟩ := operatedCluster_registers "cluster.local" none
  refine ⟨res, h, hreg, b, hb, fun order => ?_⟩
  obtain ⟨main, hmain⟩ := hmain order
  exact ⟨main, hmain, heap_never_bounded hmain _⟩

/-- The main container of a role group with the default memory limit of one gibibyte, for which the
heap should be bounded by 819 mebibytes. -/
theorem defaultMemory_no_heap :
    ((BrokersConfigSpec.zero.withDefaults .reference "kafka").roleGroupConfigSpec.bind
      (·.resources)).bind (·.memory) = some ⟨2 ^ 30⟩ ∧
    8 * quantityToMB (2 ^ 30) / 10 = 819 ∧
    ∃ res h, RegistersIn (.reference (fun _ => false)) (operatedCluster "cluster.local" none)
        securedBrokers res h ∧
      ∃ b ∈ res.roleGroups, ∀ order, ∃ main, b.statefulSet.createMainContainer
          (.reference (fun _ => false)) order (BrokersConfigSpec.zero.withDefaults .reference "kafka") =
            .ok main ∧
        main.env.map (·.name) =
          ["POD_NAME", "NODE", "ZOOKEEPER", "KAFKA_LOG4J_OPTS", "EXTRA_ARGS"] := by
  obtain ⟨res, h, hreg, b, hb, -, -, hk, hmain⟩ := operatedCluster_registers "cluster.local" none
  refine ⟨rfl, ?_, res, h, hreg, b, hb, fun order => ?_⟩
  · have hcast : (2 ^ 30 : ℚ) = ((2 ^ 30 : ℤ) : ℚ) := by norm_num
    rw [hcast, quantityToMB_intCast (by decide)]
    decide
  · obtain ⟨main, hmain⟩ := hmain order
    obtain ⟨cc, rgc, -, -, -, henv, -⟩ := (StatefulSetBuilder.createMainContainer_eq_ok hmain).built
    refine ⟨main, hmain, ?_⟩
    rw [henv, StatefulSetBuilder.kafkaContainer, newKafkaContainer_envNames, hk]
    rfl

end KafkaOperator
