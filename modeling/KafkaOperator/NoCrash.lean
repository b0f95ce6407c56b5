import KafkaOperator.Cluster
import KafkaOperator.Command
import KafkaOperator.ServerProperties

/-! # Can an admitted cluster crash the operator?

Every dereference and every map write between `Reconciler.RegisterResources` and the last
`Build` is safe for an admitted cluster but one: `IsVectorEnable` dereferences
`EnableVectorAgent` of any logging configuration, and the defaults are filled in only where
there is no role group part at all.  `noCrash_iff` says exactly which clusters that spares. -/

namespace KafkaOperator

open Go Relation

/-! ### The StatefulSet -/

theorem newAnnotation_safe (key value : String) : Outcome.Safe <| newAnnotation key value := by
  unfold newAnnotation
  split_ifs <;> simp

theorem ListenerOperatorVolumeSourceBuilder.annotation_safe (c : Constants)
    (b : ListenerOperatorVolumeSourceBuilder) : (b.annotation c).Safe := by
  have hsafe : (b.listenerClass.toAnnotation c).Safe := by
    unfold ListenerReference.toAnnotation
    split_ifs
    · exact newAnnotation_safe _ _
    · exact newAnnotation_safe _ _
    · simp
  unfold annotation wrapErr
  cases h : b.listenerClass.toAnnotation c with
  | ok a => simp
  | err e => simp
  | panic => exact absurd h hsafe

theorem KafkaContainerBuilder.launchCommand_safe (d : KafkaContainerBuilder)
    (h : d.kafkaSecurity.isKerberosEnabled = true → d.kafkaSecurity.kerberosAuth.isSome)
    (listeners advertised protocols : String) :
    (d.launchCommand listeners advertised protocols).Safe := by
  cases hk : d.kafkaSecurity.isKerberosEnabled with
  | false =>
      rw [d.launchCommand_plain hk]
      simp
  | true =>
      obtain ⟨a, ha⟩ := Option.isSome_iff_exists.mp (h hk)
      rw [d.launchCommand_kerberos hk (a := a)
        (by simp [getKerbersoAuth, KafkaSecurity.getKerberosAuth, hk, ha])]
      simp

theorem isVectorEnable_safe {logging : Option LoggingSpec}
    (h : ∀ l, logging = some l → l.enableVectorAgent.isSome) : (isVectorEnable logging).Safe := by
  cases logging with
  | none => simp [isVectorEnable]
  | some l =>
      obtain ⟨e, he⟩ := Option.isSome_iff_exists.mp (h l rfl)
      simp [isVectorEnable, he]

/-- What the StatefulSet builder dereferences is there. -/
structure StatefulSetBuilder.Ready (b : StatefulSetBuilder) (v : BrokersConfigSpec) : Prop where
  clusterConfig : b.clusterConfig.isSome
  kerberos : b.kafkaTlsSecurity.isKerberosEnabled = true →
    ∃ a role, b.kafkaTlsSecurity.kerberosAuth = some a ∧ a.role = some role ∧
      role.cluster.spec.clusterConfig.isSome
  config : ∃ c, v.roleGroupConfigSpec = some c ∧ c.resources.isSome ∧
    ∀ l, c.logging = some l → l.enableVectorAgent.isSome

namespace StatefulSetBuilder

variable {op : OperatorGo} {b : StatefulSetBuilder} {v : BrokersConfigSpec}

theorem Ready.createMainContainer_safe (hr : b.Ready v)
    (order : List (KafkaListenerName × KafkaListenerProtocol)) :
    (b.createMainContainer op order v).Safe := by
  obtain ⟨cc, hcc⟩ := Option.isSome_iff_exists.mp hr.clusterConfig
  obtain ⟨c, hc, -, -⟩ := hr.config
  simp only [createMainContainer, hcc, hc, Outcome.deref_some, Outcome.ok_bind]
  refine Outcome.Safe.bind (Outcome.Safe.bind ?_ (fun _ _ => by simp)) (fun _ _ => by simp)
  refine KafkaContainerBuilder.launchCommand_safe _ (fun hk => ?_) _ _ _
  obtain ⟨a, role, ha, -, -⟩ := hr.kerberos hk
  exact Option.isSome_iff_exists.mpr ⟨a, ha⟩

theorem Ready.volumes_safe (hr : b.Ready v) : (b.volumes op v).Safe := by
  refine Outcome.Safe.bind (Outcome.Safe.bind
    (ListenerOperatorVolumeSourceBuilder.annotation_safe _ _) (fun _ _ => by simp)) (fun _ _ => ?_)
  cases hk : b.kafkaTlsSecurity.isKerberosEnabled with
  | false => simp
  | true =>
      obtain ⟨a, role, ha, hrole, hcc⟩ := hr.kerberos hk
      obtain ⟨cc, hcc⟩ := Option.isSome_iff_exists.mp hcc
      simp [ha, KerberosAuthentication.getVolumes, hrole, KafkaRole.getKerberosSecretClass, hcc]

theorem Ready.dataPvc_safe (hr : b.Ready v) : (b.dataPvc op v).Safe := by
  obtain ⟨c, hc, hres, -⟩ := hr.config
  obtain ⟨res, hres⟩ := Option.isSome_iff_exists.mp hres
  simp [dataPvc, hc, hres]

theorem bootstrapListenerPvc_safe : (b.bootstrapListenerPvc op).Safe :=
  Outcome.Safe.bind (ListenerOperatorVolumeSourceBuilder.annotation_safe _ _) (fun _ _ => by simp)

theorem Ready.workload_safe (hr : b.Ready v)
    (order : List (KafkaListenerName × KafkaListenerProtocol)) (overrides : Option OverridesSpec) :
    (b.workload op order overrides v).Safe := by
  refine (hr.createMainContainer_safe order).bind (fun container _ => ?_)
  refine bootstrapListenerPvc_safe.bind (fun listenerPvc _ => ?_)
  refine hr.dataPvc_safe.bind (fun dataPvc _ => ?_)
  refine hr.volumes_safe.bind (fun volumes _ => ?_)
  obtain ⟨c, hc, -, hlog⟩ := hr.config
  simp only [hc, Outcome.deref_some, Outcome.ok_bind]
  refine (isVectorEnable_safe hlog).bind (fun enabled _ => ?_)
  cases enabled <;> simp

theorem createMainContainer_name {order : List (KafkaListenerName × KafkaListenerProtocol)}
    {container : Container} (h : b.createMainContainer op order v = .ok container) :
    container.name = "kafka" := by
  obtain ⟨cc, -, h⟩ := Outcome.bind_eq_ok.mp h
  obtain ⟨args, -, h⟩ := Outcome.bind_eq_ok.mp h
  obtain ⟨c, -, h⟩ := Outcome.bind_eq_ok.mp h
  obtain rfl := Outcome.ok.inj h
  rfl

/-- The kafka container is among the containers. -/
theorem workload_container {order : List (KafkaListenerName × KafkaListenerProtocol)}
    {overrides : Option OverridesSpec} {w : Workload} (hw : b.workload op order overrides v = .ok w) :
    ∃ c ∈ w.containers, c.name = "kafka" := by
  obtain ⟨container, hcontainer, hw⟩ := Outcome.bind_eq_ok.mp hw
  obtain ⟨listenerPvc, -, hw⟩ := Outcome.bind_eq_ok.mp hw
  obtain ⟨dataPvc, -, hw⟩ := Outcome.bind_eq_ok.mp hw
  obtain ⟨volumes, -, hw⟩ := Outcome.bind_eq_ok.mp hw
  obtain ⟨c, -, hw⟩ := Outcome.bind_eq_ok.mp hw
  obtain ⟨enabled, -, hw⟩ := Outcome.bind_eq_ok.mp hw
  refine ⟨container, ?_, createMainContainer_name hcontainer⟩
  cases enabled with
  | false =>
      obtain rfl := Outcome.ok.inj hw
      simp [Workload.addContainer, Workload.addVolumes, Workload.addVolumeClaimTemplates]
  | true =>
      obtain rfl := Outcome.ok.inj hw
      simp [Workload.addContainer, Workload.addVolumes, Workload.addVolumeClaimTemplates]

end StatefulSetBuilder

/-! ### Adding the TLS volumes -/

theorem getContainer_isSome {containers : List Container} {name : String}
    (h : ∃ c ∈ containers, c.name = name) : (getContainer containers name).isSome := by
  obtain ⟨c, hc, hname⟩ := h
  rw [getContainer, List.findIdx?_isSome]
  exact List.any_eq_true.mpr ⟨c, hc, by simp [hname]⟩

theorem KafkaSecurity.addKeystore_safe (c : Constants) (k : KafkaSecurity) (i : ℕ)
    (secretClass volumeName dir lifetime : String) (sts : StatefulSet) :
    (k.addKeystore c (some i) secretClass volumeName dir lifetime sts).Safe := by
  unfold addKeystore
  split_ifs
  · simp [StatefulSet.addVolumeMount]
  · simp

theorem KafkaSecurity.addVolumeAndVolumeMounts_safe (c : Constants) (k : KafkaSecurity)
    {sts : StatefulSet} (h : ∃ x ∈ sts.template.containers, x.name = "kafka") (lifetime : String) :
    (k.addVolumeAndVolumeMounts c sts lifetime).Safe := by
  obtain ⟨i, hi⟩ := Option.isSome_iff_exists.mp (getContainer_isSome h)
  simp only [addVolumeAndVolumeMounts, hi]
  exact (k.addKeystore_safe c i _ _ _ _ _).bind (fun _ _ => k.addKeystore_safe c i _ _ _ _ _)

/-- **The `Build` of a StatefulSet** does not panic where what it dereferences is there. -/
theorem StatefulSetBuilder.Ready.buildFrom_safe {op : OperatorGo} {b : StatefulSetBuilder}
    {v : BrokersConfigSpec} (hr : b.Ready v)
    (order : List (KafkaListenerName × KafkaListenerProtocol)) (overrides : Option OverridesSpec) :
    (b.buildFrom op order overrides v).Safe := by
  refine (hr.workload_safe order overrides).bind (fun w hw => ?_)
  refine ((op.getPodTemplate_safe w).bind (fun t _ => by simp)).bind (fun sts hsts => ?_)
  refine KafkaSecurity.addVolumeAndVolumeMounts_safe _ _ ?_ _
  obtain ⟨t, ht, hsts⟩ := Outcome.bind_eq_ok.mp hsts
  obtain ⟨c, hc, hname⟩ := workload_container hw
  obtain ⟨c', hc', hname'⟩ := op.getPodTemplate_containers w t ht c hc
  obtain rfl := Outcome.ok.inj hsts
  exact ⟨c', hc', hname'.trans hname⟩

/-! ### Logging -/

def BrokersConfigSpec.logging (u : BrokersConfigSpec) : Option LoggingSpec :=
  u.roleGroupConfigSpec.bind (·.logging)

/-- Where logging is configured, it says whether vector is enabled. -/
def VectorDecided (logging : Option LoggingSpec) : Prop :=
  ∀ l, logging = some l → l.enableVectorAgent.isSome

/-- If the role or the group configures logging, one of them says whether vector is enabled. -/
def LoggingComplete (role own : Option BrokersConfigSpec) : Prop :=
  (role.bind (·.logging)).isSome ∨ (own.bind (·.logging)).isSome →
    ((role.bind (·.logging)).bind (·.enableVectorAgent)).isSome ∨
      ((own.bind (·.logging)).bind (·.enableVectorAgent)).isSome

theorem vectorDecided_merge_iff (a b : Option LoggingSpec) :
    VectorDecided (mergePtr LoggingSpec.merge a b) ↔
      (a.isSome ∨ b.isSome → (a.bind (·.enableVectorAgent)).isSome ∨
        (b.bind (·.enableVectorAgent)).isSome) := by
  cases a with
  | none => cases b <;> simp [VectorDecided]
  | some x =>
      cases b with
      | none => simp [VectorDecided]
      | some y =>
          obtain ⟨_, ex⟩ := x
          obtain ⟨_, ey⟩ := y
          cases ex <;> cases ey <;> simp [VectorDecided, LoggingSpec.merge]

section Logging

variable (c : Constants) (m : MergeRules) (clusterName : String)

/-- The default logging decides, and other logging is kept. -/
theorem roleGroupConfigWithDefaults_vectorDecided (o : Option RoleGroupConfigSpec) :
    VectorDecided (roleGroupConfigWithDefaults c clusterName o).logging ↔
      VectorDecided (o.bind (·.logging)) := by
  cases o with
  | none => simp [VectorDecided, roleGroupConfigWithDefaults, defaultKafkaConfig]
  | some r => rfl

theorem roleGroupConfigWithDefaults_resources (o : Option RoleGroupConfigSpec) :
    (roleGroupConfigWithDefaults c clusterName o).resources.isSome := by
  cases o <;> rfl

/-- Vector is decided in the merged configuration exactly if the two configurations decide it. -/
theorem mergedConfig_vectorDecided_iff (role own : Option BrokersConfigSpec) :
    VectorDecided (mergedConfig c m clusterName role own).logging ↔ LoggingComplete role own := by
  rw [BrokersConfigSpec.logging, mergedConfig_roleGroupConfig, Option.bind_some,
    roleGroupConfigWithDefaults_vectorDecided,
    mergedPart_bind (l := LoggingSpec.merge) (g := RoleGroupConfigSpec.logging) rfl (fun _ _ => rfl),
    vectorDecided_merge_iff]
  simp only [LoggingComplete, BrokersConfigSpec.logging, Option.bind_assoc]

/-- Filling the role's configuration never takes a decision away. -/
theorem LoggingComplete.filled {role own : Option BrokersConfigSpec} (h : LoggingComplete role own) :
    LoggingComplete (role.map (·.withDefaults c clusterName)) own := by
  cases role with
  | none => exact h
  | some R =>
      cases hR : R.roleGroupConfigSpec with
      | none =>
          intro _
          left
          simp [BrokersConfigSpec.logging, BrokersConfigSpec.withDefaults, hR,
            roleGroupConfigWithDefaults, defaultKafkaConfig]
      | some x =>
          have hsame : (R.withDefaults c clusterName).logging = R.logging := by
            simp [BrokersConfigSpec.logging, BrokersConfigSpec.withDefaults, hR,
              roleGroupConfigWithDefaults]
          simpa [LoggingComplete, hsame] using h

end Logging

/-- A group of a cluster whose logging is complete has what its builders dereference. -/
theorem effectiveConfig_ready {spec : BrokersSpec} {name : String} (c : Constants) (m : MergeRules)
    (clusterName : String) (filled : Bool)
    (h : LoggingComplete spec.config (spec.ownConfig name)) :
    ∃ x, (spec.effectiveConfig c m clusterName filled name).roleGroupConfigSpec = some x ∧
      x.resources.isSome ∧ VectorDecided x.logging := by
  have hcomplete : LoggingComplete (spec.roleConfig c clusterName filled) (spec.ownConfig name) := by
    cases filled with
    | false => exact h
    | true => exact h.filled c clusterName
  rw [← mergedConfig_vectorDecided_iff c m clusterName] at hcomplete
  have hpart := mergedConfig_roleGroupConfig c m clusterName (spec.roleConfig c clusterName filled)
    (spec.ownConfig name)
  rw [BrokersConfigSpec.logging, hpart] at hcomplete
  exact ⟨_, hpart, roleGroupConfigWithDefaults_resources _ _ _, hcomplete⟩

/-! ### The whole run -/

/-- Whatever the library does and whatever order everything is visited in: neither the
registration nor any `Build` of a registered ConfigMap or StatefulSet panics, whichever were
built before.  The `Build` of a Listener is `GenericBuilder.getObject`, which is total. -/
def NoCrash (cluster : KafkaCluster) (spec : BrokersSpec) : Prop :=
  ∀ (op : OperatorGo) (orders : String → Orders) (l : List (String × Option BrokersRoleGroupSpec)),
    spec.groups.Ranges l →
    ((newClusterReconciler cluster).registerResources op orders l spec.load).1.Safe ∧
    ∀ res h, (newClusterReconciler cluster).registerResources op orders l spec.load = (.ok res, h) →
      ∀ h', ReflTransGen (BuildStep op res.roleGroups) h h' → ∀ b ∈ res.roleGroups,
        (∀ o files, (b.configMap.build op o files h').1.Safe) ∧
        ∀ order, (b.statefulSet.build op order h').1.Safe

section Run

variable {cluster : KafkaCluster} {spec : BrokersSpec}

/-- What the registration of an admitted cluster leaves behind. -/
theorem Admitted.registered (hadm : Admitted cluster spec) (op : OperatorGo)
    (orders : String → Orders) {l : List (String × Option BrokersRoleGroupSpec)}
    (hl : spec.groups.Ranges l) :
    ∃ node : BrokerReconciler, node.spec = some spec ∧ node.clusterName = cluster.name ∧
      node.clusterConfig = cluster.spec.clusterConfig ∧
      newKafkaSecurity cluster = .ok node.kafkaTlsSecurity ∧
      Triple op.MergeFails False (fun h => h = spec.load)
        ((newClusterReconciler cluster).registerResources op orders l)
        (fun res h => ConfigsInv op node spec l res.roleGroups h.configs ∧
          BuildsInv op node spec res.roleGroups h.configs h) := by
  obtain ⟨node, hspec, hname, hcc, hk, hcluster⟩ := hadm.registerResources_spec op
  refine ⟨node, hspec, hname, hcc, hk, ?_⟩
  have hnode := KafkaOperator.registerResources_spec op (r := node) (X := False) hspec orders
    hl (fun ⟨name, h⟩ => hadm.entries name h) (fun h => h hadm.noNilFiles)
  refine (hcluster orders l hnode).conseq (fun _ => id) ?_
  rintro res h ⟨-, hc, ho⟩
  exact ⟨hc, .of_registered hc (ho hadm.noNilFiles)⟩

section Builders

variable {op : OperatorGo} {node : BrokerReconciler} {h : Heap} {name : String}
  {v : BrokersConfigSpec} {b : RoleGroupResources} {x : RoleGroupConfigSpec}

/-- The role group configuration behind the ConfigMap builder. -/
theorem BuiltFromConfig.roleGroupConfig (hb : BuiltFromConfig op node spec h.configs name v b)
    (hx : v.roleGroupConfigSpec = some x) : b.configMap.roleGroupConfig h = some x := by
  obtain ⟨config, hcm, -, hread, -, -⟩ := hb.config
  simp [KafkaConfigmapBuilder.roleGroupConfig, hcm, hread, hx]

theorem BuiltFromConfig.vectorReady (hb : BuiltFromConfig op node spec h.configs name v b)
    (hx : v.roleGroupConfigSpec = some x) (hlog : VectorDecided x.logging)
    (hcc : node.clusterConfig.isSome) : b.configMap.VectorReady h := by
  refine ⟨?_, x, hb.roleGroupConfig hx, hlog⟩
  obtain ⟨_, _, _, rfl⟩ := hb.registered
  exact hcc

theorem BuiltFromConfig.statefulSet_safe (hb : BuiltFromConfig op node spec h.configs name v b)
    (hx : v.roleGroupConfigSpec = some x) (hres : x.resources.isSome) (hlog : VectorDecided x.logging)
    (hcc : cluster.spec.clusterConfig.isSome) (hnode : node.clusterConfig = cluster.spec.clusterConfig)
    (hk : newKafkaSecurity cluster = .ok node.kafkaTlsSecurity)
    (order : List (KafkaListenerName × KafkaListenerProtocol)) :
    (b.statefulSet.build op order h).1.Safe := by
  have hcc' : node.clusterConfig.isSome := by rwa [hnode]
  have hready : b.statefulSet.Ready v := by
    obtain ⟨_, _, _, rfl⟩ := hb.registered
    exact ⟨hcc', fun hker => ⟨_, _, newKafkaSecurity_kerberosAuth hk hker, rfl, hcc⟩,
      x, hx, hres, hlog⟩
  obtain ⟨config, -, hsts, hread, -, -⟩ := hb.config
  simp only [StatefulSetBuilder.build, Prog.reads_apply, hsts, Option.bind_some, hread,
    Outcome.deref_some, Outcome.ok_bind]
  exact hready.buildFrom_safe order _

end Builders

/-- A `Build` panics where logging is configured and does not say whether vector is enabled. -/
theorem build_panic {op : OperatorGo} {node : BrokerReconciler} {bs : List RoleGroupResources}
    {s : Store Path BrokersConfigSpec} {h : Heap} {b : RoleGroupResources}
    (hlog : ¬ b.configMap.LogFails op s) (hinv : BuildsInv op node spec bs s h) (hb : b ∈ bs)
    {x : RoleGroupConfigSpec} (hx : b.configMap.roleGroupConfig h = some x)
    {l : LoggingSpec} (hl : x.logging = some l) (he : l.enableVectorAgent = none) (o : Orders)
    (files : FileOrder) : (b.configMap.build op o files h).1 = .panic := by
  have hserver : PropertyFile.server ∈ files.list := files.perm.mem_iff.mpr (by simp)
  obtain ⟨data, h', hfiles, hinv', -⟩ :=
    (buildFiles_spec hlog hb o Map.empty files.list).total ⟨hinv, .inl hserver⟩
  have hx' : b.configMap.roleGroupConfig h' = some x := by
    rw [← hx, KafkaConfigmapBuilder.roleGroupConfig, KafkaConfigmapBuilder.roleGroupConfig,
      hinv.configs, hinv'.configs]
  have henabled : b.configMap.vectorEnabled h' = .panic := by
    simp [KafkaConfigmapBuilder.vectorEnabled, hx', isVectorEnable, hl, he]
  have hvector : b.configMap.buildVector op data h' = (.panic, h') :=
    Prog.bind_of_panic (by rw [Prog.reads_apply, henabled])
  have hrest : b.configMap.build op o files h = (.panic, h') :=
    (Prog.bind_of_ok hfiles).trans (Prog.bind_of_panic hvector)
  rw [hrest]

/-- The registration with a library that copies: every group is built from the unfilled role. -/
theorem Admitted.registered_copying (hadm : Admitted cluster spec) (name : String)
    (hname : (spec.groups.get name).isSome) :
    ∃ (orders : String → Orders) (l : List (String × Option BrokersRoleGroupSpec))
      (res : ClusterResources) (h : Heap) (node : BrokerReconciler),
      spec.groups.Ranges l ∧
      (newClusterReconciler cluster).registerResources (.reference (fun _ => false)) orders l
        spec.load = (.ok res, h) ∧
      BuildsInv (.reference (fun _ => false)) node spec res.roleGroups h.configs h ∧
      ∃ b ∈ res.roleGroups, BuiltFromConfig (.reference (fun _ => false)) node spec h.configs name
        (mergedConfig .reference .reference cluster.name spec.config (spec.ownConfig name)) b := by
  obtain ⟨order⟩ : Nonempty Orders := inferInstance
  obtain ⟨l, hl⟩ := spec.groups.exists_ranges
  obtain ⟨node, -, hclusterName, -, -, htriple⟩ :=
    hadm.registered (.reference (fun _ => false)) (fun _ => order) hl
  obtain ⟨res, h, hrun, hc, hinv⟩ :=
    (htriple.weaken (OperatorGo.reference_not_mergeFails _) id).total rfl
  obtain ⟨entry, hentry⟩ := Option.isSome_iff_exists.mp hname
  obtain ⟨done, rest, rfl⟩ := List.mem_iff_append.mp ((hl.2 name entry).mpr hentry)
  obtain ⟨b, hb, hbuilt⟩ := hc.built.exists_of_split rfl
  have hfills : done.any (fun e => spec.fillsRole (.reference (fun _ => false)) e.1) = false := by
    simp [BrokersSpec.fillsRole, OperatorGo.reference]
  rw [hfills, hclusterName] at hbuilt
  exact ⟨_, _, res, h, node, hl, hrun, hinv, b, hb, hbuilt⟩

end Run

/-- **When the operator does not crash**: exactly if for every role group for which logging is
configured, by the role or by the group itself, one of the two also says whether the vector agent
is enabled. -/
theorem noCrash_iff (cluster : KafkaCluster) (spec : BrokersSpec) (hadm : Admitted cluster spec) :
    NoCrash cluster spec ↔
      ∀ name, (spec.groups.get name).isSome → LoggingComplete spec.config (spec.ownConfig name) := by
  constructor
  · intro hsafe name hname
    obtain ⟨orders, l, res, h, node, hl, hrun, hinv, b, hb, hbuilt⟩ := hadm.registered_copying name hname
    rw [← mergedConfig_vectorDecided_iff .reference .reference cluster.name]
    intro log hlog
    by_contra hnone
    obtain ⟨x, hx, hxlog⟩ := Option.bind_eq_some_iff.mp hlog
    obtain ⟨o⟩ : Nonempty Orders := inferInstance
    refine ((hsafe _ orders l hl).2 res h hrun h .refl b hb).1 o
      ⟨[.server, .security, .log4j], .refl _⟩ ?_
    exact build_panic (mt (·.library) (OperatorGo.reference_not_logFails _)) hinv hb
      (hbuilt.roleGroupConfig hx) hxlog
      (Option.not_isSome_iff_eq_none.mp hnone) o _
  · intro hcomplete op orders l hl
    obtain ⟨node, -, -, hcc, hk, htriple⟩ := hadm.registered op orders hl
    refine ⟨htriple.safe rfl, fun res h hrun h' hbuilds b hb => ?_⟩
    obtain ⟨hc, hinv⟩ := htriple.elim rfl hrun
    have hinv' := hinv.run hbuilds
    obtain ⟨before, e, rest, rfl, hbuilt⟩ := hc.built.of_mem hb
    have hget := (hl.2 e.1 e.2).mp (by simp)
    obtain ⟨x, hx, hres, hlog⟩ := effectiveConfig_ready op.consts op.rules node.clusterName
      (before.any (fun e => spec.fillsRole op e.1)) (hcomplete e.1 (by simp [hget]))
    constructor
    · intro o files
      refine Triple.safe (build_spec (X := False) hb o files (fun h'' hinv'' hready => hready ?_)) hinv'
      rw [← hinv''.configs] at hbuilt
      exact hbuilt.vectorReady hx hlog (hcc ▸ hadm.clusterConfig)
    · intro order
      rw [← hinv'.configs] at hbuilt
      exact hbuilt.statefulSet_safe hx hres hlog hadm.clusterConfig hcc hk order

/-- The brokers of the sample manifest.  What it writes under `logging` is not in the schema, so
an empty object is left. -/
def sampleBrokers : BrokersSpec :=
  .single none none "default" ⟨3, some ⟨some ⟨none, "30s", some ⟨Map.empty, none⟩,
    some ⟨some ⟨2, 1⟩, some ⟨3 * 2 ^ 30⟩, none⟩⟩, "cluster-internal", "", ""⟩, none⟩

def sampleCluster : KafkaCluster := .sample [] none sampleBrokers

theorem sampleCluster_admitted : Admitted sampleCluster sampleBrokers where
  brokers := rfl
  clusterConfig := rfl
  image := ⟨_, rfl, rfl⟩
  entries := BrokersSpec.single_entries
  noNilFiles := BrokersSpec.single_noNilFiles (fun _ hu => nomatch hu) (fun _ hu => nomatch hu)

theorem noCrash_iff_sample :
    Admitted sampleCluster sampleBrokers ∧ ¬ NoCrash sampleCluster sampleBrokers := by
  refine ⟨sampleCluster_admitted, fun hsafe => ?_⟩
  have hcomplete := (noCrash_iff sampleCluster sampleBrokers sampleCluster_admitted).mp hsafe
    "default" rfl
  exact absurd (hcomplete (.inr rfl)) (by decide)

/-- The `Build` of the sample's ConfigMap panics. -/
theorem sampleCluster_panics :
    ∃ (orders : String → Orders) (l : List (String × Option BrokersRoleGroupSpec))
      (res : ClusterResources) (h : Heap),
      (newClusterReconciler sampleCluster).registerResources (.reference (fun _ => false)) orders l
        sampleBrokers.load = (.ok res, h) ∧
      ∃ b ∈ res.roleGroups, b.configMap.info.roleGroupName = "default" ∧
        ∀ o files, (b.configMap.build (.reference (fun _ => false)) o files h).1 = .panic := by
  obtain ⟨orders, l, res, h, node, -, hrun, hinv, b, hb, hbuilt⟩ :=
    sampleCluster_admitted.registered_copying "default" rfl
  refine ⟨orders, l, res, h, hrun, b, hb, hbuilt.roleGroupName, fun o files => ?_⟩
  exact build_panic (mt (·.library) (OperatorGo.reference_not_logFails _)) hinv hb
    (hbuilt.roleGroupConfig rfl) (l := ⟨Map.empty, none⟩) rfl rfl o files

end KafkaOperator
