import KafkaOperator.Builders
import KafkaOperator.MergeObject

/-! # The broker role

`internal/controller/role.go` and `service.go`: for each role group, merge its configuration
and overrides with the role's, fill in the defaults, and register the builders of its five
resources.  The loop visits the map of role groups, so it takes the order in which that is
visited; the builders hold pointers into the heap the loop leaves behind.

`registerRoleGroup_spec` says once what one iteration does to the heap (`RegisterStep`): it
merges into one configuration object and one overrides object, and changes no other. -/

namespace KafkaOperator

open Go

/-! ### Services -/

/-- `builder.BaseServiceBuilder` with its options. -/
structure ServiceBuilder where
  name : String
  ports : List ContainerPort
  headless : Bool
  listenerClass : String
  labels : Map String String
  matchingLabels : Map String String
  annotations : Map String String
  publishNotReadyAddresses : Bool

def newRoleGroupService (op : OperatorGo) (info : RoleGroupInfo) : ServiceBuilder where
  name := info.getFullName
  ports := []
  headless := true
  listenerClass := op.consts.clusterInternal
  labels := (op.labels info).set "prometheus.io/scrape" labelValueTrue
  matchingLabels := op.labels info
  annotations := Map.empty
  publishNotReadyAddresses := true

def createServiceMetricsName (info : RoleGroupInfo) : String := info.getFullName ++ "-metrics"

def newRoleGroupMetricsService (op : OperatorGo) (info : RoleGroupInfo) : ServiceBuilder where
  name := createServiceMetricsName info
  ports := [⟨metricsPortName, metricsPort, "TCP"⟩]
  headless := true
  listenerClass := op.consts.clusterInternal
  labels := (op.labels info).set "prometheus.io/scrape" labelValueTrue
  matchingLabels := op.labels info
  annotations := (((op.annotations info).set "prometheus.io/scrape" labelValueTrue).set
    "prometheus.io/port" (toString metricsPort)).set "prometheus.io/scheme" "http"
  publishNotReadyAddresses := false

/-! ### Registering the resources of a role group -/

/-- What `RegisterResourceWithRoleGroup` returns, in this order. -/
structure RoleGroupResources where
  service : ServiceBuilder
  configMap : KafkaConfigmapBuilder
  statefulSet : StatefulSetBuilder
  /-- The flag given to `reconciler.NewStatefulSet`. -/
  stopped : Bool
  listener : GenericBuilder
  metricsService : ServiceBuilder

/-- `Spec` points to the decoded `BrokersSpec`, whose objects are in the heap. -/
structure BrokerReconciler where
  clusterName : String
  roleName : String
  kubeNamespace : String
  /-- The labels of the owner that the client has. -/
  ownerLabels : Map String String
  spec : Option BrokersSpec
  image : Image
  clusterConfig : Option ClusterConfigSpec
  clusterOperation : Option ClusterOperationSpec
  kafkaTlsSecurity : KafkaSecurity

namespace BrokerReconciler

variable (op : OperatorGo) (r : BrokerReconciler)

/-- The flag given to `NewBaseRoleReconciler`. -/
def stopped : Bool := match r.clusterOperation with
  | some o => o.stopped
  | none => false

def roleGroupInfo (name : String) : RoleGroupInfo := ⟨r.clusterName, r.roleName, name⟩

/-- The builders of a role group; the Listener's class is read from the configuration now, the
rest when they are built. -/
def roleGroupResources (replicas : ℤ) (info : RoleGroupInfo) (overrides brokerConfig : Ref Path)
    (bootstrapListenerClass : String) : RoleGroupResources where
  service := newRoleGroupService op info
  configMap :=
    { info := info
      kubeNamespace := r.kubeNamespace
      clusterConfig := r.clusterConfig
      kafkaSecurity := r.kafkaTlsSecurity
      overrides := some overrides
      brokerConfig := some brokerConfig }
  statefulSet :=
    { info := info
      kubeNamespace := r.kubeNamespace
      image := r.image
      replicas := replicas
      clusterConfig := r.clusterConfig
      overrides := some overrides
      brokerConfig := some brokerConfig
      kafkaTlsSecurity := r.kafkaTlsSecurity }
  stopped := match r.clusterOperation with
    | some o => o.stopped
    | none => false
  listener := newRoleGroupBootstrapListener op r.ownerLabels r.kubeNamespace bootstrapListenerClass
    info r.kafkaTlsSecurity
  metricsService := newRoleGroupMetricsService op info

def registerResourceWithRoleGroup (replicas : ℤ) (info : RoleGroupInfo)
    (overrides brokerConfig : Ref Path) : Prog Heap RoleGroupResources := do
  let config ← Heap.onConfigs (Prog.load (some brokerConfig))
  pure (r.roleGroupResources op replicas info overrides brokerConfig config.bootstrapListenerClass)

/-- Defaults are filled in behind both pointers; for a nil pointer they go to a new object that
the caller never sees. -/
def mergeFromUserConfig (o : Orders) (userConfig userOverrides : Option (Ref Path))
    (clusterName : String) : Prog Heap Unit := do
  let defaultConfig := defaultKafkaConfig op.consts clusterName
  let userConfig ← Heap.onConfigs (orNew userConfig
    { BrokersConfigSpec.zero with
      roleGroupConfigSpec := some
        { affinity := defaultConfig.roleGroupConfigSpec.affinity
          gracefulShutdownTimeout := ""
          logging := none
          resources := defaultConfig.roleGroupConfigSpec.resources } })
  Heap.onConfigs (Prog.update (some userConfig) (fun u => mergeBaseConfig u defaultConfig))
  let userOverrides ← Heap.onOverrides (orNew userOverrides OverridesSpec.zero)
  Heap.onOverrides (Prog.update (some userOverrides) (fun u =>
    mergeOverrides o u (defaultConfig.overrideConfiguration op.consts)))

/-- One iteration of the loop of `RegisterResources`. -/
def registerRoleGroup (orders : String → Orders) (e : String × Option BrokersRoleGroupSpec) :
    Prog Heap RoleGroupResources := do
  let roleGroup ← Prog.lift (Outcome.deref e.2)
  let mergedConfig ← Heap.onConfigs (fun s =>
    mergeObject op.mergeConfig (op.sharesConfig e.1) (s.ptr .role) (s.ptr (.group e.1)) s)
  let overrides ← Heap.onOverrides (fun s =>
    mergeObject op.mergeOverridesSpec (op.sharesOverrides e.1) (s.ptr .role) (s.ptr (.group e.1)) s)
  let overrides ← Heap.onOverrides (orNew overrides OverridesSpec.zero)
  let mergedConfig ← Heap.onConfigs (orNew mergedConfig BrokersConfigSpec.zero)
  mergeFromUserConfig op (orders e.1) (some mergedConfig) (some overrides) r.clusterName
  r.registerResourceWithRoleGroup op roleGroup.replicas (r.roleGroupInfo e.1) overrides mergedConfig

/-- `order` lists the role groups as `range` visits them. -/
def registerResources (orders : String → Orders)
    (order : List (String × Option BrokersRoleGroupSpec)) : Prog Heap (List RoleGroupResources) := do
  let _ ← Prog.lift (Outcome.deref r.spec)
  Prog.visit (r.registerRoleGroup op orders) order

/-- The brokers of a cluster without authentication and TLS. -/
def sample (clusterName : String) (spec : BrokersSpec) : BrokerReconciler where
  clusterName := clusterName
  roleName := KafkaOperator.roleName
  kubeNamespace := "default"
  ownerLabels := Map.empty
  spec := some spec
  image := ⟨"kafka", "3.9.0", "0.0.0-dev", "", "quay.io/zncdatadev", "IfNotPresent"⟩
  clusterConfig := some ⟨"", [], none, "", "kafka-znode"⟩
  clusterOperation := none
  kafkaTlsSecurity := ⟨[], "", "", "", "", none⟩

end BrokerReconciler

/-! ### The objects a run starts with -/

namespace BrokersSpec

variable (spec : BrokersSpec)

/-- The role groups; a nil map has none. -/
def groups : Map String (Option BrokersRoleGroupSpec) := spec.roleGroups.getD Map.empty

/-- The configuration a role group brings itself. -/
def ownConfig (name : String) : Option BrokersConfigSpec :=
  (spec.groups.get name).join.bind (·.config)

/-- The overrides a role group brings itself. -/
def ownOverrides (name : String) : Option OverridesSpec :=
  (spec.groups.get name).join.bind (·.overridesSpec)

/-- The heap of the decoded specification. -/
def load : Heap where
  configs := ⟨fun
    | .role => spec.config
    | .group name => spec.ownConfig name, []⟩
  overrides := ⟨fun
    | .role => spec.overridesSpec
    | .group name => spec.ownOverrides name, []⟩

end BrokersSpec

/-! ### One iteration -/

namespace BrokerReconciler

variable (op : OperatorGo) (r : BrokerReconciler)

/-- What one iteration does: it merges into one configuration object and one overrides object,
fills in the defaults, and registers builders with pointers to both. -/
structure RegisterStep (name : String) (rg : BrokersRoleGroupSpec) (h : Heap)
    (b : RoleGroupResources) (h' : Heap) : Prop where
  step : ∃ config overrides,
    MergedInto op.mergeConfig .zero (op.sharesConfig name) .role (.group name)
      (fun u v => v = u.withDefaults op.consts r.clusterName) h.configs config h'.configs ∧
    MergedInto op.mergeOverridesSpec .zero (op.sharesOverrides name) .role (.group name)
      (fun u v => u.NoNilFile → MergedOverrides u (defaultFiles op.consts) v)
      h.overrides overrides h'.overrides ∧
    ∃ v, h'.configs.read config = some v ∧ b = r.roleGroupResources op rg.replicas
      (r.roleGroupInfo name) overrides config v.bootstrapListenerClass

/-- The merged overrides bind no file to a nil map if the arguments do not. -/
theorem mergeValue_noNilFile {op : OperatorGo} {a b : Option OverridesSpec} {v : OverridesSpec}
    (ha : ∀ u, a = some u → u.NoNilFile) (hb : ∀ u, b = some u → u.NoNilFile)
    (h : MergeValue op.mergeOverridesSpec .zero a b v) : v.NoNilFile := by
  cases h with
  | zero => exact fun m hm => by cases hm
  | left => exact ha _ rfl
  | right => exact hb _ rfl
  | both hv => exact op.mergeOverridesSpec_noNilFile _ _ _ hv (ha _ rfl) (hb _ rfl)

section Call

variable {op : OperatorGo} {o : Orders} {config : Ref Path} {overrides : Option (Ref Path)}
  {clusterName : String} {h h' : Heap}

/-- The call, where the configuration is not nil. -/
theorem mergeFromUserConfig_some :
    mergeFromUserConfig op o (some config) overrides clusterName = (do
      let d := defaultKafkaConfig op.consts clusterName
      Heap.onConfigs (Prog.update (some config) (fun u => mergeBaseConfig u d))
      let ref ← Heap.onOverrides (orNew overrides OverridesSpec.zero)
      Heap.onOverrides (Prog.update (some ref) (fun u =>
        mergeOverrides o u (d.overrideConfiguration op.consts)))) := rfl

/-- What a call leaves behind: the configuration with defaults, and the overrides with defaults in
their object or, for a nil pointer, in a new one. -/
theorem mergeFromUserConfig_eq_ok :
    mergeFromUserConfig op o (some config) overrides clusterName h = (.ok (), h') ↔
      ∃ u ref s w w', h.configs.read config = some u ∧
        orNew overrides OverridesSpec.zero h.overrides = (.ok ref, s) ∧ s.read ref = some w ∧
        mergeOverrides o w ((defaultKafkaConfig op.consts clusterName).overrideConfiguration op.consts) =
          .ok w' ∧
        h' = ⟨h.configs.write config (u.withDefaults op.consts clusterName), s.write ref w'⟩ := by
  rw [mergeFromUserConfig_some]
  constructor
  · intro hrun
    obtain ⟨_, h₁, hbase, hrun⟩ := Prog.bind_eq_ok.mp hrun
    obtain ⟨s₁, hfill, rfl⟩ := Prog.on_eq_ok hbase
    obtain ⟨u, v, hu, hv, rfl⟩ := Prog.update_eq_ok hfill
    rw [mergeBaseConfig_default] at hv
    obtain rfl := Outcome.ok.inj hv
    obtain ⟨ref, h₂, hnew, hrun⟩ := Prog.bind_eq_ok.mp hrun
    obtain ⟨s, href, rfl⟩ := Prog.on_eq_ok hnew
    obtain ⟨s₂, hupdate, rfl⟩ := Prog.on_eq_ok hrun
    obtain ⟨w, w', hw, hw', rfl⟩ := Prog.update_eq_ok hupdate
    exact ⟨u, ref, s, w, w', hu, href, hw, hw', rfl⟩
  · rintro ⟨u, ref, s, w, w', hu, hnew, hw, hw', rfl⟩
    have hfill := Prog.update_of_ok (f := fun u => mergeBaseConfig u (defaultKafkaConfig op.consts
      clusterName)) hu (mergeBaseConfig_default op.consts clusterName u)
    refine (Prog.bind_of_ok (Prog.on_of_ok hfill)).trans ?_
    refine (Prog.bind_of_ok (Prog.on_of_ok (t := (⟨h.configs.write config (u.withDefaults op.consts
      clusterName), h.overrides⟩ : Heap)) hnew)).trans ?_
    exact Prog.on_of_ok (Prog.update_of_ok hw hw')

end Call

theorem mergeFromUserConfig_spec {E X : Prop} (o : Orders) (config overrides : Ref Path) (h : Heap)
    (clusterName : String) {name : String}
    (hnil : ∀ u, MergeValue op.mergeOverridesSpec .zero (h.overrides.given .role)
      (h.overrides.given (.group name)) u → ¬ u.NoNilFile → X) :
    Triple E X (fun h' =>
        MergedAt op.mergeConfig .zero (op.sharesConfig name) .role (.group name) h.configs config
          h'.configs ∧
        MergedAt op.mergeOverridesSpec .zero (op.sharesOverrides name) .role (.group name)
          h.overrides overrides h'.overrides)
      (mergeFromUserConfig op o (some config) (some overrides) clusterName)
      (fun _ h' =>
        MergedInto op.mergeConfig .zero (op.sharesConfig name) .role (.group name)
          (fun u v => v = u.withDefaults op.consts clusterName) h.configs config h'.configs ∧
        MergedInto op.mergeOverridesSpec .zero (op.sharesOverrides name) .role (.group name)
          (fun u v => u.NoNilFile → MergedOverrides u (defaultFiles op.consts) v)
          h.overrides overrides h'.overrides) := by
  rw [mergeFromUserConfig_some]
  refine Triple.bind (Heap.onConfigs_spec _ (Triple.update (Q := fun _ =>
    MergedInto op.mergeConfig .zero (op.sharesConfig name) .role (.group name)
      (fun u v => v = u.withDefaults op.consts clusterName) h.configs config) ?_)) (fun _ => ?_)
  · intro s hs
    obtain ⟨v, -, hv⟩ := hs.value
    have hbase := mergeBaseConfig_default op.consts clusterName v
    refine ⟨v, hv, by simp [hbase], by simp [hbase], fun w hw => hs.write hv ?_⟩
    exact (Outcome.ok.inj (hbase.symm.trans hw)).symm
  refine Triple.bind (Q := fun q h' => q = overrides ∧
      (MergedInto op.mergeConfig .zero (op.sharesConfig name) .role (.group name)
        (fun u v => v = u.withDefaults op.consts clusterName) h.configs config h'.configs ∧
      MergedAt op.mergeOverridesSpec .zero (op.sharesOverrides name) .role (.group name)
        h.overrides overrides h'.overrides)) (fun h' hh => ⟨rfl, hh⟩)
    (fun q => Triple.assuming ?_)
  rintro rfl
  refine Heap.onOverrides_spec _ (Triple.update ?_)
  intro s hs
  obtain ⟨u, hu, hread⟩ := hs.value
  have hspec := fun hu => mergeOverrides_spec o u hu
    ((defaultKafkaConfig op.consts clusterName).overrideConfiguration op.consts) _ rfl
  refine ⟨u, hread, fun hp => hnil u hu (fun hu' => ?_), fun e he => ?_, fun w hw => ?_⟩
  · obtain ⟨v, hv, -⟩ := hspec hu'
    simp [hv] at hp
  · exact absurd he (mergeOverrides_ne_err o u _ e)
  · refine hs.write hread (fun hu' => ?_)
    obtain ⟨v, hv, hmerged⟩ := hspec hu'
    obtain rfl := Outcome.ok.inj (hv.symm.trans hw)
    exact hmerged

/-- **One iteration** is a `RegisterStep`.  It fails only if the library's merge does, and
panics only on a nil entry or where a file is bound to a nil map. -/
theorem registerRoleGroup_spec {X : Prop} (orders : String → Orders) (name : String)
    (entry : Option BrokersRoleGroupSpec) (h : Heap) (hentry : entry = none → X)
    (hnil : ∀ u, MergeValue op.mergeOverridesSpec .zero (h.overrides.given .role)
      (h.overrides.given (.group name)) u → ¬ u.NoNilFile → X) :
    Triple op.MergeFails X (fun h' => h' = h) (r.registerRoleGroup op orders (name, entry))
      (fun b h' => ∃ rg, entry = some rg ∧ RegisterStep op r name rg h b h') := by
  have hconfig := mergeObject_ptr_spec (X := X) op.mergeConfig_safe
    (fun a b e he => (.inl ⟨a, b, e, he⟩ : op.MergeFails)) .zero (op.sharesConfig name) Path.role
    (.group name) h.configs
  have hoverrides := mergeObject_ptr_spec (X := X) op.mergeOverridesSpec_safe
    (fun a b e he => (.inr ⟨a, b, e, he⟩ : op.MergeFails)) .zero (op.sharesOverrides name) Path.role
    (.group name) h.overrides
  refine Triple.bind (Q := fun rg h' => entry = some rg ∧ h' = h)
    (Triple.lift (fun hp => hentry (by cases entry <;> simp_all)) (fun e he => by cases entry <;> cases he)
      (fun h' rg hh hrg => ⟨Outcome.deref_eq_ok.mp hrg, hh⟩)) (fun rg => Triple.assuming ?_)
  rintro rfl
  refine Triple.bind ((Heap.onConfigs_spec (fun o => o = h.overrides) hconfig).conseq
    (fun h' hh => by rw [hh]; exact ⟨rfl, rfl⟩) (fun _ _ => id)) (fun mc => ?_)
  refine Triple.bind (Heap.onOverrides_spec (MergeResult op.mergeConfig .zero (op.sharesConfig name)
    .role (.group name) h.configs mc) hoverrides) (fun mo => ?_)
  refine Triple.bind (Heap.onOverrides_spec (MergeResult op.mergeConfig .zero (op.sharesConfig name)
    .role (.group name) h.configs mc) (orNew_spec _ _ _ _ _ mo)) (fun o => ?_)
  refine Triple.bind (Heap.onConfigs_spec (MergedAt op.mergeOverridesSpec .zero
    (op.sharesOverrides name) .role (.group name) h.overrides o) (orNew_spec _ _ _ _ _ mc))
    (fun c => ?_)
  refine Triple.bind (mergeFromUserConfig_spec op (orders name) c o h r.clusterName hnil)
    (fun _ => ?_)
  refine Triple.of_run (fun h' hh => ?_)
  obtain ⟨v, w, -, -, hw⟩ := hh.1.value
  have hload : Heap.onConfigs (Prog.load (some c)) h' = (.ok w, h') := by
    simp [Heap.onConfigs, Prog.on_apply, Prog.load, hw]
  refine ⟨_, h', Prog.bind_of_ok hload, rg, rfl, c, o, hh.1, hh.2, w, hw, rfl⟩

end BrokerReconciler

end KafkaOperator
