import KafkaOperator.PodReferences

/-! # How a `Build` ends

What the `Build`s of a registered role group end with, where operator-go itself returns no error
in the calls that they make (`OperatorGo.ReliableIn`).
It is decided by one setting, whether the vector agent is enabled (`builds_outcome`):

* where logging does not say, both `Build`s panic;
* where it is enabled and the cluster names no aggregator, the ConfigMap's returns an error that
  says so, and the StatefulSet's succeeds;
* in all other cases both succeed.

The user's other settings never make a `Build` fail, and neither does anything that was built
before. -/

namespace KafkaOperator

open Go Relation

/-- operator-go returns no error in the calls that the two `Build`s of a role group make in this
heap. -/
structure OperatorGo.ReliableIn (op : OperatorGo) (b : RoleGroupResources) (h : Heap) : Prop where
  log4j : ∀ e, op.log4jContent (b.configMap.containerLogging h) ≠ .err e
  podTemplate : ∀ order v w, b.statefulSet.brokerConfig.bind h.configs.read = some v →
    b.statefulSet.workload op order (b.statefulSet.overrides.bind h.overrides.read) v = .ok w →
    ∀ e, op.getPodTemplate w ≠ .err e
  vectorYaml : ∀ cc, b.configMap.clusterConfig = some cc → ∀ e,
    op.makeVectorYaml b.configMap.kubeNamespace b.configMap.info.clusterName
      b.configMap.info.roleName b.configMap.info.roleGroupName
      cc.vectorAggregatorConfigMapName ≠ .err e

/-! ### The StatefulSet -/

/-- What the builder needs besides a decision about vector. -/
structure StatefulSetBuilder.Supplied (b : StatefulSetBuilder) (v : BrokersConfigSpec)
    (x : RoleGroupConfigSpec) : Prop where
  clusterConfig : b.clusterConfig.isSome
  kerberos : b.kafkaTlsSecurity.isKerberosEnabled = true →
    ∃ a role, b.kafkaTlsSecurity.kerberosAuth = some a ∧ a.role = some role ∧
      role.cluster.spec.clusterConfig.isSome
  config : v.roleGroupConfigSpec = some x
  resources : x.resources.isSome
  brokerListenerClass : v.brokerListenerClass ≠ ""

/-- A reference to a class or a name that is set has its annotation. -/
theorem ListenerOperatorVolumeSourceBuilder.annotation_ok (c : Constants)
    {b : ListenerOperatorVolumeSourceBuilder}
    (h : b.listenerClass.listenerClass ≠ "" ∨ b.listenerClass.listenerName ≠ "") :
    ∃ a, b.annotation c = .ok a := by
  unfold annotation ListenerReference.toAnnotation
  by_cases hclass : b.listenerClass.listenerClass = ""
  · have hname := h.resolve_left (not_not.mpr hclass)
    rw [if_neg (not_not.mpr hclass), if_pos hname, newAnnotation, if_neg c.listenerName_ne, if_neg hname]
    exact ⟨_, rfl⟩
  · rw [if_pos hclass, newAnnotation, if_neg c.listenersClass_ne, if_neg hclass]
    exact ⟨_, rfl⟩

theorem bind_ite_pure {α : Type} (x : Outcome Bool) (a b : α) :
    (x >>= fun c => if c = true then pure a else pure b) =
      (fun c => if c = true then a else b) <$> x := by
  cases x with
  | ok c => cases c <;> rfl
  | err e => rfl
  | panic => rfl

namespace StatefulSetBuilder

variable {op : OperatorGo} {b : StatefulSetBuilder} {v : BrokersConfigSpec}
  {x : RoleGroupConfigSpec}

theorem Supplied.commandArgs_ok (hs : b.Supplied v x) (op : OperatorGo) (cc : ClusterConfigSpec)
    (order : List (KafkaListenerName × KafkaListenerProtocol)) :
    ∃ args, (b.kafkaContainer cc).commandArgs op order = .ok args := by
  have hlaunch : ∀ l a p, ∃ cmd, (b.kafkaContainer cc).launchCommand l a p = .ok cmd := by
    intro l a p
    cases hk : (b.kafkaContainer cc).kafkaSecurity.isKerberosEnabled with
    | false => exact ⟨_, KafkaContainerBuilder.launchCommand_plain _ hk _ _ _⟩
    | true =>
        obtain ⟨auth, role, hauth, -, -⟩ := hs.kerberos hk
        have hsome : (b.kafkaContainer cc).kafkaSecurity.kerberosAuth = some auth := hauth
        have hget : (b.kafkaContainer cc).getKerbersoAuth = some auth := by
          simp [KafkaContainerBuilder.getKerbersoAuth, KafkaSecurity.getKerberosAuth, hk, hsome]
        exact ⟨_, KafkaContainerBuilder.launchCommand_kerberos _ hk hget _ _ _⟩
  obtain ⟨cmd, hcmd⟩ := hlaunch _ _ _
  exact ⟨_, Outcome.bind_eq_ok.mpr ⟨cmd, hcmd, rfl⟩⟩

theorem Supplied.createMainContainer_ok (hs : b.Supplied v x) (op : OperatorGo)
    (order : List (KafkaListenerName × KafkaListenerProtocol)) :
    ∃ main, b.createMainContainer op order v = .ok main := by
  obtain ⟨cc, hcc⟩ := Option.isSome_iff_exists.mp hs.clusterConfig
  obtain ⟨args, hargs⟩ := hs.commandArgs_ok op cc order
  unfold kafkaContainer at hargs
  simp only [createMainContainer, hcc, hargs, hs.config, Outcome.deref_some, Outcome.ok_bind]
  exact ⟨_, rfl⟩

theorem bootstrapListenerPvc_ok (op : OperatorGo) (b : StatefulSetBuilder) :
    ∃ pvc, b.bootstrapListenerPvc op = .ok pvc := by
  have hname : bootstrapListenerName b.info ≠ "" := by
    intro h
    have := congrArg String.length h
    simp [bootstrapListenerName, String.length_append] at this
  obtain ⟨a, ha⟩ := ListenerOperatorVolumeSourceBuilder.annotation_ok op.consts
    (b := ⟨⟨"", bootstrapListenerName b.info⟩, some (op.labels b.info)⟩) (.inr hname)
  exact ⟨_, Outcome.bind_eq_ok.mpr ⟨a, ha, rfl⟩⟩

theorem Supplied.dataPvc_ok (hs : b.Supplied v x) (op : OperatorGo) : ∃ pvc, b.dataPvc op v = .ok pvc := by
  obtain ⟨resources, hresources⟩ := Option.isSome_iff_exists.mp hs.resources
  unfold dataPvc
  rw [hs.config, Outcome.deref_some, Outcome.ok_bind, hresources, Outcome.deref_some, Outcome.ok_bind]
  exact ⟨_, rfl⟩

theorem Supplied.volumes_ok (hs : b.Supplied v x) (op : OperatorGo) :
    ∃ volumes, b.volumes op v = .ok volumes := by
  obtain ⟨a, ha⟩ := ListenerOperatorVolumeSourceBuilder.annotation_ok op.consts
    (b := ⟨⟨v.brokerListenerClass, ""⟩, none⟩) (.inl hs.brokerListenerClass)
  have hlistener : ∃ source, ListenerOperatorVolumeSourceBuilder.buildEphemeral op.consts
      ⟨⟨v.brokerListenerClass, ""⟩, none⟩ = .ok source :=
    ⟨_, Outcome.bind_eq_ok.mpr ⟨a, ha, rfl⟩⟩
  obtain ⟨source, hsource⟩ := hlistener
  unfold volumes
  rw [hsource, Outcome.ok_bind]
  cases hk : b.kafkaTlsSecurity.isKerberosEnabled with
  | false => exact ⟨_, rfl⟩
  | true =>
      obtain ⟨auth, role, hauth, hrole, hcc⟩ := hs.kerberos hk
      obtain ⟨cc, hcc⟩ := Option.isSome_iff_exists.mp hcc
      simp only [if_true, hauth, Outcome.deref_some, Outcome.ok_bind,
        KerberosAuthentication.getVolumes, hrole, KafkaRole.getKerberosSecretClass, hcc]
      exact ⟨_, rfl⟩

/-- All parts of the workload are there; whether vector is added to them is the decision. -/
theorem Supplied.workload_eq (hs : b.Supplied v x) (op : OperatorGo)
    (order : List (KafkaListenerName × KafkaListenerProtocol)) (overrides : Option OverridesSpec) :
    ∃ f : Bool → Workload, b.workload op order overrides v = f <$> isVectorEnable x.logging := by
  obtain ⟨main, hmain⟩ := hs.createMainContainer_ok op order
  obtain ⟨listenerPvc, hlistener⟩ := bootstrapListenerPvc_ok op b
  obtain ⟨dataPvc, hdata⟩ := hs.dataPvc_ok op
  obtain ⟨volumes, hvolumes⟩ := hs.volumes_ok op
  unfold workload
  simp only [hmain, hlistener, hdata, hvolumes, hs.config, Outcome.deref_some, Outcome.ok_bind]
  exact ⟨_, bind_ite_pure _ _ _⟩

/-- **The `Build` of a StatefulSet** succeeds exactly if logging says whether vector is enabled, and
panics otherwise. -/
theorem Supplied.buildFrom_outcome (hs : b.Supplied v x)
    (order : List (KafkaListenerName × KafkaListenerProtocol)) (overrides : Option OverridesSpec)
    (hop : ∀ w, b.workload op order overrides v = .ok w → ∀ e, op.getPodTemplate w ≠ .err e) :
    (∀ enabled, isVectorEnable x.logging = .ok enabled →
      ∃ sts, b.buildFrom op order overrides v = .ok sts) ∧
    (isVectorEnable x.logging = .panic → b.buildFrom op order overrides v = .panic) := by
  obtain ⟨f, hf⟩ := hs.workload_eq op order overrides
  constructor
  · intro enabled henabled
    rw [henabled, Outcome.map_ok] at hf
    have htemplate : ∃ t, op.getPodTemplate (f enabled) = .ok t := by
      cases ht : op.getPodTemplate (f enabled) with
      | ok t => exact ⟨t, rfl⟩
      | err e => exact absurd ht (hop _ hf e)
      | panic => exact absurd ht (op.getPodTemplate_safe _)
    obtain ⟨t, ht⟩ := htemplate
    -- the kafka container is in the template, so the TLS volumes can be mounted
    obtain ⟨c, hc, hname⟩ := workload_container hf
    obtain ⟨c', hc', hname'⟩ := op.getPodTemplate_containers _ t ht c hc
    obtain ⟨n, hn⟩ := Option.isSome_iff_exists.mp
      (getContainer_isSome ⟨c', hc', hname'.trans hname⟩)
    unfold buildFrom
    rw [hf, Outcome.ok_bind, getObject, ht, Outcome.ok_bind, Outcome.pure_eq, Outcome.ok_bind]
    exact ⟨_, KafkaSecurity.addVolumeAndVolumeMounts_eq _ _ hn _⟩
  · intro hpanic
    rw [hpanic, Outcome.map_panic] at hf
    unfold buildFrom
    rw [hf, Outcome.panic_bind]

end StatefulSetBuilder

/-! ### The ConfigMap -/

namespace KafkaConfigmapBuilder

variable {op : OperatorGo} {b : KafkaConfigmapBuilder} {h : Heap} {x : RoleGroupConfigSpec}
  {cc : ClusterConfigSpec}

def missingAggregator : String := "vector is enabled but vectorAggregatorConfigMapName is not set"

theorem isVectorEnable_eq_true {logging : Option LoggingSpec}
    (h : isVectorEnable logging = .ok true) :
    ∃ l, logging = some l ∧ l.enableVectorAgent = some true := by
  cases logging with
  | none => cases h
  | some l => exact ⟨l, rfl, Outcome.deref_eq_ok.mp h⟩

/-- The configuration of vector, where it is enabled. -/
theorem buildVectorConfig_outcome (op : OperatorGo) (hx : b.roleGroupConfig h = some x)
    (hcc : b.clusterConfig = some cc) (henabled : isVectorEnable x.logging = .ok true) :
    (cc.vectorAggregatorConfigMapName = "" →
      b.buildVectorConfig op h = (.err missingAggregator, h)) ∧
    (cc.vectorAggregatorConfigMapName ≠ "" →
      (∀ e, op.makeVectorYaml b.kubeNamespace b.info.clusterName b.info.roleName
        b.info.roleGroupName cc.vectorAggregatorConfigMapName ≠ .err e) →
      ∃ text, b.buildVectorConfig op h = (.ok text, h)) := by
  obtain ⟨l, hl, hagent⟩ := isVectorEnable_eq_true henabled
  simp only [buildVectorConfig, Prog.reads_apply, hx, hl, hagent, hcc, Option.bind_some,
    Outcome.deref_some, Outcome.ok_bind, if_true, Prod.mk.injEq, and_true]
  constructor
  · intro hnone
    rw [if_pos hnone]
    rfl
  · intro hsome hop
    rw [if_neg hsome]
    cases hyaml : op.makeVectorYaml b.kubeNamespace b.info.clusterName b.info.roleName
        b.info.roleGroupName cc.vectorAggregatorConfigMapName with
    | ok text => exact ⟨text, rfl⟩
    | err e => exact absurd hyaml (hop e)
    | panic => exact absurd hyaml (op.makeVectorYaml_safe _ _ _ _ _)

/-- The vector part of a `Build`, by the decision about vector. -/
theorem buildVector_outcome (op : OperatorGo) (hx : b.roleGroupConfig h = some x)
    (hcc : b.clusterConfig = some cc) (data : Map String Content) :
    (isVectorEnable x.logging = .ok false → b.buildVector op data h = (.ok data, h)) ∧
    (isVectorEnable x.logging = .ok true → cc.vectorAggregatorConfigMapName = "" →
      b.buildVector op data h = (.err missingAggregator, h)) ∧
    (isVectorEnable x.logging = .ok true → cc.vectorAggregatorConfigMapName ≠ "" →
      (∀ e, op.makeVectorYaml b.kubeNamespace b.info.clusterName b.info.roleName
        b.info.roleGroupName cc.vectorAggregatorConfigMapName ≠ .err e) →
      ∃ data', b.buildVector op data h = (.ok data', h)) ∧
    (isVectorEnable x.logging = .panic → b.buildVector op data h = (.panic, h)) := by
  have hreads : Prog.reads b.vectorEnabled h = (isVectorEnable x.logging, h) := by
    rw [Prog.reads_apply, vectorEnabled, hx, Outcome.deref_some, Outcome.ok_bind]
  refine ⟨fun henabled => ?_, fun henabled hnone => ?_, fun henabled hsome hop => ?_, fun hpanic => ?_⟩
  · rw [henabled] at hreads
    exact Prog.bind_of_ok hreads
  · have hconfig := (buildVectorConfig_outcome op hx hcc henabled).1 hnone
    rw [henabled] at hreads
    exact (Prog.bind_of_ok hreads).trans (Prog.bind_of_err hconfig)
  · obtain ⟨text, hconfig⟩ := (buildVectorConfig_outcome op hx hcc henabled).2 hsome hop
    rw [henabled] at hreads
    exact ⟨_, (Prog.bind_of_ok hreads).trans (Prog.bind_of_ok hconfig)⟩
  · rw [hpanic] at hreads
    exact Prog.bind_of_panic hreads

end KafkaConfigmapBuilder

/-! ### After the registration -/

/-- What is decided about vector, for a role group. -/
inductive VectorSetting where
  | off
  | configured
  | withoutAggregator
  | undecided
deriving DecidableEq, Repr

/-- The setting that a configuration and the name of the aggregator ConfigMap come to. -/
def vectorSetting (cc : ClusterConfigSpec) (logging : Option LoggingSpec) : VectorSetting :=
  match isVectorEnable logging with
  | .ok false => .off
  | .ok true => if cc.vectorAggregatorConfigMapName = "" then .withoutAggregator else .configured
  | _ => .undecided

namespace VectorSetting

/-- How the `Build` of the ConfigMap ends. -/
def ConfigMapEnds : VectorSetting → Outcome ConfigMap → Prop
  | off, r => ∃ cm, r = .ok cm
  | configured, r => ∃ cm, r = .ok cm
  | withoutAggregator, r => r = .err KafkaConfigmapBuilder.missingAggregator
  | undecided, r => r = .panic

/-- How the `Build` of the StatefulSet ends. -/
def StatefulSetEnds : VectorSetting → Outcome StatefulSet → Prop
  | off, r => ∃ sts, r = .ok sts
  | configured, r => ∃ sts, r = .ok sts
  | withoutAggregator, r => ∃ sts, r = .ok sts
  | undecided, r => r = .panic

end VectorSetting

theorem isVectorEnable_cases (logging : Option LoggingSpec) :
    (∃ enabled, isVectorEnable logging = .ok enabled) ∨ isVectorEnable logging = .panic := by
  cases logging with
  | none => exact .inl ⟨false, rfl⟩
  | some l => cases he : l.enableVectorAgent <;> simp [isVectorEnable, he]

section Registered

variable {op : OperatorGo} {cluster : KafkaCluster} {spec : BrokersSpec} {res : ClusterResources}
  {h : Heap}

theorem mergedConfig_brokerListenerClass (c : Constants) (m : MergeRules) (clusterName : String)
    (role own : Option BrokersConfigSpec) :
    (mergedConfig c m clusterName role own).brokerListenerClass ≠ "" := by
  simp only [mergedConfig, BrokersConfigSpec.withDefaults, override]
  split_ifs with hempty
  · decide
  · exact hempty

/-- The `Build` of a registered StatefulSet reads the configuration that the registration left, and
has all it needs besides a decision about vector. -/
theorem Admitted.supplied (hadm : Admitted cluster spec) (hreg : RegistersIn op cluster spec res h)
    {b : RoleGroupResources} (hb : b ∈ res.roleGroups) :
    ∃ v x config, b.configMap.brokerConfig = some config ∧ b.statefulSet.brokerConfig = some config ∧
      h.configs.read config = some v ∧ v.roleGroupConfigSpec = some x ∧
      b.statefulSet.Supplied v x ∧ b.configMap.clusterConfig = cluster.spec.clusterConfig := by
  obtain ⟨k, image, hk, -, hnode⟩ := hreg.node
  obtain ⟨name, filled, -, hbuilt⟩ := hreg.built hb
  obtain ⟨config, hcm, hsts, hread, -, -⟩ := hbuilt.config
  have hx := mergedConfig_roleGroupConfig op.consts op.rules cluster.name
    (spec.roleConfig op.consts cluster.name filled) (spec.ownConfig name)
  refine ⟨_, _, config, hcm, hsts, hread, hx, ?_, ?_⟩
  · obtain ⟨_, _, _, rfl⟩ := hbuilt.registered
    rw [hnode]
    exact ⟨hadm.clusterConfig,
      fun hker => ⟨_, _, newKafkaSecurity_kerberosAuth hk hker, rfl, hadm.clusterConfig⟩, hx,
      roleGroupConfigWithDefaults_resources _ _ _, mergedConfig_brokerListenerClass _ _ _ _ _⟩
  · obtain ⟨_, _, _, rfl⟩ := hbuilt.registered
    rw [hnode]
    rfl

/-- The invariant of the builds holds after the registration of an admitted cluster. -/
theorem Admitted.buildsInv (hadm : Admitted cluster spec) (hreg : RegistersIn op cluster spec res h) :
    ∃ node, BuildsInv op node spec res.roleGroups h.configs h := by
  obtain ⟨orders, l, hl, hrun⟩ := hreg.run
  obtain ⟨node, -, -, -, -, htriple⟩ := hadm.registered op orders hl
  exact ⟨node, (htriple.elim rfl hrun).2⟩

/-- In a heap that builds can leave, both `Build`s of a role group end as its setting says, if
operator-go returns no error there. -/
theorem Admitted.builds_end (hadm : Admitted cluster spec)
    (hreg : RegistersIn op cluster spec res h) {b : RoleGroupResources} (hb : b ∈ res.roleGroups) :
    ∃ cc x, cluster.spec.clusterConfig = some cc ∧ b.configMap.roleGroupConfig h = some x ∧
      ∀ node h', BuildsInv op node spec res.roleGroups h.configs h' → op.ReliableIn b h' →
        ∀ o files order,
        (vectorSetting cc x.logging).ConfigMapEnds (b.configMap.build op o files h').1 ∧
        (vectorSetting cc x.logging).StatefulSetEnds (b.statefulSet.build op order h').1 := by
  obtain ⟨cc, hcc⟩ := Option.isSome_iff_exists.mp hadm.clusterConfig
  obtain ⟨v, x, config, hcm, hsts, hread, hx, hsupplied, hcluster⟩ := hadm.supplied hreg hb
  have hconfig : ∀ h', h'.configs = h.configs → b.configMap.roleGroupConfig h' = some x := by
    intro h' hsame
    simp [KafkaConfigmapBuilder.roleGroupConfig, hcm, hsame, hread, hx]
  refine ⟨cc, x, hcc, hconfig h rfl, fun node h' hinv' hop o files order => ?_⟩
  have hlog : ¬ b.configMap.LogFails op h.configs := by
    rintro ⟨h₁, e, hsame, herr⟩
    refine hop.log4j e ?_
    rw [← herr]
    simp only [KafkaConfigmapBuilder.containerLogging, hconfig h' hinv'.configs, hconfig h₁ hsame]
  have hserver : PropertyFile.server ∈ files.list := files.perm.mem_iff.mpr (by simp)
  obtain ⟨data, h₁, hfiles, hinv₁, -⟩ :=
    (buildFiles_spec hlog hb o Map.empty files.list).total ⟨hinv', .inl hserver⟩
  have hrest : b.configMap.build op o files h' = _ := Prog.bind_of_ok hfiles
  obtain ⟨hoff, hwithout, hon, hundecided⟩ := KafkaConfigmapBuilder.buildVector_outcome op
    (hconfig h₁ hinv₁.configs) (hcluster.trans hcc) data
  have hbuild : (b.statefulSet.build op order h').1 =
      b.statefulSet.buildFrom op order (b.statefulSet.overrides.bind h'.overrides.read) v := by
    simp only [StatefulSetBuilder.build, Prog.reads_apply, hsts, Option.bind_some, hinv'.configs,
      hread, Outcome.deref_some, Outcome.ok_bind]
  obtain ⟨hok, hpanic⟩ := hsupplied.buildFrom_outcome order
    (b.statefulSet.overrides.bind h'.overrides.read) (fun w hw =>
      hop.podTemplate order v w (by rw [hsts, Option.bind_some, hinv'.configs, hread]) hw)
  rw [← hbuild] at hok hpanic
  rcases isVectorEnable_cases x.logging with ⟨enabled, henabled⟩ | hnone
  · obtain ⟨sts, hsts⟩ := hok enabled henabled
    cases enabled with
    | false =>
        have hset : vectorSetting cc x.logging = .off := by simp [vectorSetting, henabled]
        rw [hset]
        exact ⟨⟨_, by rw [hrest, Prog.bind_of_ok (hoff henabled)]; rfl⟩, sts, hsts⟩
    | true =>
        by_cases hagg : cc.vectorAggregatorConfigMapName = ""
        · have hset : vectorSetting cc x.logging = .withoutAggregator := by
            simp [vectorSetting, henabled, hagg]
          rw [hset]
          exact ⟨by rw [hrest, Prog.bind_of_err (hwithout henabled hagg)]; rfl, sts, hsts⟩
        · have hset : vectorSetting cc x.logging = .configured := by
            simp [vectorSetting, henabled, hagg]
          obtain ⟨data', hdata'⟩ := hon henabled hagg (hop.vectorYaml cc (hcluster.trans hcc))
          rw [hset]
          exact ⟨⟨_, by rw [hrest, Prog.bind_of_ok hdata']; rfl⟩, sts, hsts⟩
  · have hset : vectorSetting cc x.logging = .undecided := by simp [vectorSetting, hnone]
    rw [hset]
    exact ⟨by rw [hrest, Prog.bind_of_panic (hundecided hnone)]; rfl, hpanic hnone⟩

/-- **How a `Build` ends.**  For every role group of an admitted cluster: after any run of builds,
if operator-go returns no error in the calls of this group's `Build`s, both end as the group's
merged logging configuration and the name of the aggregator say. -/
theorem builds_outcome (op : OperatorGo) (cluster : KafkaCluster)
    (spec : BrokersSpec) (hadm : Admitted cluster spec) (res : ClusterResources) (h : Heap)
    (hreg : RegistersIn op cluster spec res h) (b : RoleGroupResources) (hb : b ∈ res.roleGroups) :
    ∃ cc x, cluster.spec.clusterConfig = some cc ∧ b.configMap.roleGroupConfig h = some x ∧
      ∀ h', ReflTransGen (BuildStep op res.roleGroups) h h' → op.ReliableIn b h' → ∀ o files order,
        (vectorSetting cc x.logging).ConfigMapEnds (b.configMap.build op o files h').1 ∧
        (vectorSetting cc x.logging).StatefulSetEnds (b.statefulSet.build op order h').1 := by
  obtain ⟨cc, x, hcc, hx, hend⟩ := hadm.builds_end hreg hb
  obtain ⟨node, hinv⟩ := hadm.buildsInv hreg
  exact ⟨cc, x, hcc, hx, fun h' hbuilds => hend node h' (hinv.run hbuilds)⟩

end Registered

/-- The reference library returns no error. -/
theorem OperatorGo.reference_reliableIn (shares : String → Bool) (b : RoleGroupResources) (h : Heap) :
    (OperatorGo.reference shares).ReliableIn b h where
  log4j _ herr := nomatch herr
  podTemplate _ _ _ _ _ _ herr := nomatch herr
  vectorYaml _ _ _ herr := nomatch herr

/-- A role group that enables vector, in a cluster without an aggregator. -/
def vectorBrokers : BrokersSpec :=
  .single none none "default"
    ⟨1, some ⟨some ⟨none, "30s", some ⟨Map.empty, some true⟩, none⟩, "", "", ""⟩, none⟩

def vectorCluster : KafkaCluster := .sample [] none vectorBrokers

theorem vectorCluster_admitted : Admitted vectorCluster vectorBrokers where
  brokers := rfl
  clusterConfig := rfl
  image := ⟨_, rfl, rfl⟩
  entries := BrokersSpec.single_entries
  noNilFiles := BrokersSpec.single_noNilFiles (fun _ hu => nomatch hu) (fun _ hu => nomatch hu)

/-- The ConfigMap of that role group is never built. -/
theorem builds_outcome_withoutAggregator :
    ∃ res h, RegistersIn (.reference (fun _ => true)) vectorCluster vectorBrokers res h ∧
      ∃ b ∈ res.roleGroups, ∀ o files,
        (b.configMap.build (.reference (fun _ => true)) o files h).1 =
          .err "vector is enabled but vectorAggregatorConfigMapName is not set" := by
  obtain ⟨order⟩ : Nonempty Orders := inferInstance
  obtain ⟨l, hl⟩ := vectorBrokers.groups.exists_ranges
  obtain ⟨res, h, hrun⟩ := vectorCluster_admitted.registerResources_total
    (OperatorGo.reference_not_mergeFails (fun _ => true)) (fun _ => order) hl
  have hreg : RegistersIn (.reference (fun _ => true)) vectorCluster vectorBrokers res h :=
    ⟨rfl, _, l, hl, hrun⟩
  obtain ⟨b, hb, hname⟩ := hreg.exists_built "default" (by decide)
  refine ⟨res, h, hreg, b, hb, fun o files => ?_⟩
  obtain ⟨cc, x, hcc, hx, hend⟩ := builds_outcome (.reference (fun _ => true))
    vectorCluster vectorBrokers vectorCluster_admitted res h hreg b hb
  obtain ⟨name, filled, -, hbuilt⟩ := hreg.built hb
  obtain rfl := hbuilt.roleGroupName.symm.trans hname
  have hlogging : x.logging = some ⟨Map.empty, some true⟩ := by
    have hconfig := hbuilt.roleGroupConfig rfl
    obtain rfl := Option.some.inj (hx.symm.trans hconfig)
    cases filled <;> rfl
  have hset : vectorSetting cc x.logging = .withoutAggregator := by
    obtain rfl := Option.some.inj hcc
    rw [hlogging]
    rfl
  have hcm := (hend h .refl (OperatorGo.reference_reliableIn _ b h) o files []).1
  rw [hset] at hcm
  exact hcm

end KafkaOperator
