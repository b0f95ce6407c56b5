import KafkaOperator.ClusterConfig
import KafkaOperator.Container

/-! # The builders of a role group's resources

`internal/controller/configmap.go`, `statefulset.go`, `vector.go` and the volume helpers of
`internal/util`.  A builder is made when its role group is registered and holds pointers to
the group's configuration and overrides; what they point to is read when `Build` runs, and
`buildServerProperties` also writes to it.  `Heap` holds these objects.

The source passes the ConfigMap builder the pointer `brokerConfig.RoleGroupConfigSpec`.  It
is not nil then and is never assigned again, so the model reads it through the configuration.

A builder is built once; what `Add...` leaves in it for a second `Build` is not modelled. -/

namespace KafkaOperator

open Go

/-! ### The objects behind the pointers -/

/-- A place of the `BrokersSpec` that can hold an object. -/
inductive Path where
  | role
  | group (name : String)
deriving DecidableEq, Repr

/-- The configurations and overrides of a run. -/
structure Heap where
  configs : Store Path BrokersConfigSpec
  overrides : Store Path OverridesSpec

namespace Heap

def onConfigs {α : Type} (m : Prog (Store Path BrokersConfigSpec) α) : Prog Heap α :=
  Prog.on configs (fun h s => { h with configs := s }) m

def onOverrides {α : Type} (m : Prog (Store Path OverridesSpec) α) : Prog Heap α :=
  Prog.on overrides (fun h s => { h with overrides := s }) m

variable {α : Type} {E X : Prop}

theorem onConfigs_spec {m : Prog (Store Path BrokersConfigSpec) α}
    {P : Store Path BrokersConfigSpec → Prop} {Q : α → Store Path BrokersConfigSpec → Prop}
    (F : Store Path OverridesSpec → Prop) (h : Triple E X P m Q) :
    Triple E X (fun t => P t.configs ∧ F t.overrides) (onConfigs m)
      (fun a t => Q a t.configs ∧ F t.overrides) :=
  Triple.on (F := fun t : Heap => F t.overrides) (fun _ _ => rfl) (fun _ _ hf => hf) h

theorem onOverrides_spec {m : Prog (Store Path OverridesSpec) α}
    {P : Store Path OverridesSpec → Prop} {Q : α → Store Path OverridesSpec → Prop}
    (F : Store Path BrokersConfigSpec → Prop) (h : Triple E X P m Q) :
    Triple E X (fun t => F t.configs ∧ P t.overrides) (onOverrides m)
      (fun a t => F t.configs ∧ Q a t.overrides) := by
  have hon : Triple E X (fun t => P t.overrides ∧ F t.configs) (onOverrides m)
      (fun a t => Q a t.overrides ∧ F t.configs) :=
    Triple.on (F := fun t : Heap => F t.configs) (fun _ _ => rfl) (fun _ _ hf => hf) h
  exact hon.conseq (fun _ ht => ht.symm) (fun _ _ ht => ht.symm)

theorem onConfigs_keeps (F : Store Path OverridesSpec → Prop)
    (m : Prog (Store Path BrokersConfigSpec) α) :
    Prog.Keeps (fun h => F h.overrides) (onConfigs m) :=
  .on_frame (fun _ _ hf => hf)

theorem onOverrides_keeps {I : Store Path OverridesSpec → Prop}
    {m : Prog (Store Path OverridesSpec) α} (h : Prog.Keeps I m) :
    Prog.Keeps (fun h => I h.overrides) (onOverrides m) :=
  .on (fun _ _ => rfl) h

end Heap

/-! ### Names -/

def roleGroupConfigMapName (info : RoleGroupInfo) : String := info.getFullName

def serviceAccountName (crName : String) : String := crName

def bootstrapListenerName (info : RoleGroupInfo) : String := info.getFullName ++ "-bootstrap"

/-! ### Listener volumes -/

structure ListenerReference where
  listenerClass : String
  listenerName : String
deriving DecidableEq, Repr

structure Annotation where
  key : String
  value : String
deriving DecidableEq, Repr

def newAnnotation (key value : String) : Outcome Annotation :=
  if key = "" then .err "annotation key cannot be empty"
  else if value = "" then .err "annotation value cannot be empty"
  else .ok ⟨key, value⟩

def ListenerReference.toAnnotation (c : Constants) (r : ListenerReference) : Outcome Annotation :=
  if r.listenerClass ≠ "" then newAnnotation c.annotationListenersClass r.listenerClass
  else if r.listenerName ≠ "" then newAnnotation c.annotationListenerName r.listenerName
  else .err "either ListenerClass or ListenerName must be set"

/-- `fmt.Errorf` with the wrapped error at the end. -/
def wrapErr {α : Type} (msg : String) (x : Outcome α) : Outcome α :=
  match x with
  | .err e => .err (msg ++ ": " ++ e)
  | x => x

structure ListenerOperatorVolumeSourceBuilder where
  listenerClass : ListenerReference
  labels : Option (Map String String)

namespace ListenerOperatorVolumeSourceBuilder

variable (c : Constants) (b : ListenerOperatorVolumeSourceBuilder)

def annotation : Outcome Annotation :=
  wrapErr "failed to get listener reference annotation" (b.listenerClass.toAnnotation c)

def buildEphemeral : Outcome VolumeSource := do
  let a ← b.annotation c
  pure (.ephemeral
    { annotations := Map.ofList [(a.key, a.value)]
      labels := b.labels
      storageClassName := c.listenerStorageClass })

def buildPVC (name : String) : Outcome PersistentVolumeClaim := do
  let a ← b.annotation c
  pure
    { name := name
      kubeNamespace := ""
      annotations := some (Map.ofList [(a.key, a.value)])
      labels := b.labels.getD Map.empty
      storageClassName := some c.listenerStorageClass
      storage := 10 * 2 ^ 20 }

end ListenerOperatorVolumeSourceBuilder

/-! ### Vector -/

def isVectorEnable (roleLoggingConfig : Option LoggingSpec) : Outcome Bool :=
  match roleLoggingConfig with
  | some l => Outcome.deref l.enableVectorAgent
  | none => .ok false

/-! ### The ConfigMap -/

/-- The properties files of the ConfigMap. -/
inductive PropertyFile where
  | server
  | security
  | log4j
deriving DecidableEq, Repr

def PropertyFile.filename : PropertyFile → String
  | .server => serverPropertiesFilename
  | .security => securityPropertiesFilename
  | .log4j => log4jPropertiesFilename

/-- The order in which `Build` visits its map of property files. -/
structure FileOrder where
  list : List PropertyFile
  perm : list.Perm [.server, .security, .log4j]

structure KafkaConfigmapBuilder where
  info : RoleGroupInfo
  kubeNamespace : String
  clusterConfig : Option ClusterConfigSpec
  kafkaSecurity : KafkaSecurity
  overrides : Option (Ref Path)
  brokerConfig : Option (Ref Path)

namespace KafkaConfigmapBuilder

variable (op : OperatorGo) (b : KafkaConfigmapBuilder)

/-- The overrides behind the builder's pointer. -/
def userOverrides (h : Heap) : Option OverridesSpec := b.overrides.bind h.overrides.read

/-- The role group configuration behind the builder's pointer. -/
def roleGroupConfig (h : Heap) : Option RoleGroupConfigSpec :=
  (b.brokerConfig.bind h.configs.read).bind (·.roleGroupConfigSpec)

def buildSecurityProperties : Prog Heap Content := Prog.reads (fun h =>
  match (b.userOverrides h).bind (·.configOverrides) with
  | some m => match m.get securityPropertiesFilename with
    | some data => .ok (.properties (data.getD Map.empty))
    | none => .ok (.text "")
  | none => .ok (.text ""))

/-- The settings are copied into the map that the overrides hold for the file; a nil map can
only take no entries at all. -/
def buildServerProperties (o : Orders) : Prog Heap Content := fun h =>
  let settings := o.entries.list b.kafkaSecurity.configSettings
  match b.overrides, b.userOverrides h with
  | some r, some u => match u.configOverrides with
    | some m => match m.get serverPropertiesFilename with
      | some (some data) =>
          let data' := data.copy settings
          let u' := { u with configOverrides := some (m.set serverPropertiesFilename (some data')) }
          (.ok (.properties data'), { h with overrides := h.overrides.write r u' })
      | _ => if settings = [] then (.ok (.text ""), h) else (.panic, h)
    | none => (.ok (.properties (Map.empty.copy settings)), h)
  | _, _ => (.ok (.properties (Map.empty.copy settings)), h)

/-- What is configured for the log of the container. -/
def containerLogging (h : Heap) : Option LoggingConfigSpec :=
  ((b.roleGroupConfig h).bind (·.logging)).bind (fun l => l.containers.get "kafka")

def buildLog4jProperties : Prog Heap Content :=
  Prog.reads (fun h => Content.text <$> op.log4jContent (b.containerLogging h))

def buildVectorConfig : Prog Heap String := Prog.reads (fun h =>
  match ((b.roleGroupConfig h).bind (·.logging)).bind (·.enableVectorAgent) with
  | some enable => do
      let cc ← Outcome.deref b.clusterConfig
      if cc.vectorAggregatorConfigMapName = "" then
        .err "vector is enabled but vectorAggregatorConfigMapName is not set"
      else if enable then
        op.makeVectorYaml b.kubeNamespace b.info.clusterName b.info.roleName b.info.roleGroupName
          cc.vectorAggregatorConfigMapName
      else pure ""
  | none => pure "")

/-- The function of a property file. -/
def buildFile (o : Orders) : PropertyFile → Prog Heap Content
  | .server => b.buildServerProperties o
  | .security => b.buildSecurityProperties
  | .log4j => b.buildLog4jProperties op

/-- Add the files that are not empty. -/
def buildFiles (o : Orders) (data : Map String Content) : List PropertyFile →
    Prog Heap (Map String Content)
  | [] => pure data
  | f :: l => do
      let content ← b.buildFile op o f
      buildFiles o (if content.isEmpty then data else data.set f.filename content) l

def vectorEnabled (h : Heap) : Outcome Bool := do
  let c ← Outcome.deref (b.roleGroupConfig h)
  isVectorEnable c.logging

/-- Add `vector.yaml` where vector is enabled and configured. -/
def buildVector (data : Map String Content) : Prog Heap (Map String Content) := do
  let enabled ← Prog.reads b.vectorEnabled
  if enabled then do
    let vectorConfig ← b.buildVectorConfig op
    pure (if vectorConfig = "" then data else data.set vectorConfigFilename (.text vectorConfig))
  else pure data

def build (o : Orders) (files : FileOrder) : Prog Heap ConfigMap := do
  let data ← b.buildFiles op o Map.empty files.list
  let data ← b.buildVector op data
  pure ⟨roleGroupConfigMapName b.info, op.labels b.info, data⟩

end KafkaConfigmapBuilder

/-! ### The StatefulSet -/

structure StatefulSetBuilder where
  info : RoleGroupInfo
  kubeNamespace : String
  image : Image
  replicas : ℤ
  clusterConfig : Option ClusterConfigSpec
  overrides : Option (Ref Path)
  brokerConfig : Option (Ref Path)
  kafkaTlsSecurity : KafkaSecurity

namespace StatefulSetBuilder

variable (op : OperatorGo) (b : StatefulSetBuilder)

/-- `order` is how the protocol map of the listeners is visited. -/
def createMainContainer (order : List (KafkaListenerName × KafkaListenerProtocol))
    (brokerConfig : BrokersConfigSpec) : Outcome Container := do
  let cc ← Outcome.deref b.clusterConfig
  let kafkaContainer := newKafkaContainer cc.zookeeperConfigMapName b.kafkaTlsSecurity
    b.kubeNamespace b.info.getFullName
  let args ← kafkaContainer.commandArgs op order
  let roleGroupConfig ← Outcome.deref brokerConfig.roleGroupConfigSpec
  pure
    { name := KafkaContainerBuilder.containerName
      image := b.image
      env := kafkaContainer.containerEnv
      command := KafkaContainerBuilder.command
      args := args
      volumeMounts := kafkaContainer.volumeMount
      resources := roleGroupConfig.resources
      readinessProbe := some kafkaContainer.readinessProbe
      livenessProbe := some kafkaContainer.livenessProbe
      ports := kafkaContainer.containerPorts }

def volumes (brokerConfig : BrokersConfigSpec) : Outcome (List Volume) := do
  let listenerPvc ← ListenerOperatorVolumeSourceBuilder.buildEphemeral op.consts
    ⟨⟨brokerConfig.brokerListenerClass, ""⟩, none⟩
  let volumes : List Volume :=
    [⟨kubedoopLogDirName, .emptyDir⟩,
      ⟨kubedoopLogConfigDirName, .configMap (roleGroupConfigMapName b.info)⟩,
      ⟨kubedoopConfigDirName, .configMap (roleGroupConfigMapName b.info)⟩,
      ⟨kubedoopListenerBroker, listenerPvc⟩]
  if b.kafkaTlsSecurity.isKerberosEnabled then do
    let auth ← Outcome.deref b.kafkaTlsSecurity.kerberosAuth
    let kerberosVolumes ← auth.getVolumes op.consts
    pure (volumes ++ kerberosVolumes)
  else pure volumes

def dataPvc (brokerConfig : BrokersConfigSpec) : Outcome PersistentVolumeClaim := do
  let roleGroupConfig ← Outcome.deref brokerConfig.roleGroupConfigSpec
  let resources ← Outcome.deref roleGroupConfig.resources
  pure
    { name := kubedoopKafkaDataDirName
      kubeNamespace := b.kubeNamespace
      annotations := none
      labels := op.labels b.info
      storageClassName := resources.storage.bind (fun s =>
        if s.storageClass ≠ "" then some s.storageClass else none)
      storage := match resources.storage with
        | some s => s.capacity
        | none => 2 * 2 ^ 30 }

def bootstrapListenerPvc : Outcome PersistentVolumeClaim :=
  ListenerOperatorVolumeSourceBuilder.buildPVC op.consts
    ⟨⟨"", bootstrapListenerName b.info⟩, some (op.labels b.info)⟩ kubedoopListenerBootstrap

def getObject (w : Workload) : Outcome StatefulSet := do
  let tpl ← op.getPodTemplate w
  pure
    { name := b.info.getFullName
      kubeNamespace := b.kubeNamespace
      labels := op.labels b.info
      replicas := b.replicas
      serviceName := b.info.getFullName
      podManagementPolicy := ""
      template := tpl
      volumeClaimTemplates := w.volumeClaimTemplates }

/-- What `Build` has added to the builder when it calls `GetObject`. -/
def workload (order : List (KafkaListenerName × KafkaListenerProtocol))
    (overrides : Option OverridesSpec) (brokerConfig : BrokersConfigSpec) : Outcome Workload := do
  let w : Workload :=
    { containers := []
      volumes := []
      volumeClaimTemplates := []
      overrides := overrides
      roleGroupConfig := brokerConfig.roleGroupConfigSpec }
  let w := w.addContainer (← b.createMainContainer op order brokerConfig)
  let bootstrapListenerPVC ← b.bootstrapListenerPvc op
  let dataPVC ← b.dataPvc op brokerConfig
  let w := w.addVolumeClaimTemplates [bootstrapListenerPVC, dataPVC]
  let w := w.addVolumes (← b.volumes op brokerConfig)
  let roleGroupConfig ← Outcome.deref brokerConfig.roleGroupConfigSpec
  if ← isVectorEnable roleGroupConfig.logging then
    pure ((w.addContainer (op.vectorContainer kubedoopConfigDirName kubedoopLogDirName b.image)).addVolumes
      (op.vectorVolumes kubedoopConfigDirName kubedoopLogDirName b.image))
  else pure w

/-- `Build`, on what the builder's pointers point to. -/
def buildFrom (order : List (KafkaListenerName × KafkaListenerProtocol))
    (overrides : Option OverridesSpec) (brokerConfig : BrokersConfigSpec) : Outcome StatefulSet := do
  let w ← b.workload op order overrides brokerConfig
  let sts ← b.getObject op w
  let sts := { sts with
    template := { sts.template with serviceAccountName := serviceAccountName b.info.clusterName }
    podManagementPolicy := "Parallel" }
  b.kafkaTlsSecurity.addVolumeAndVolumeMounts op.consts sts brokerConfig.requestedSecretLifeTime

def build (order : List (KafkaListenerName × KafkaListenerProtocol)) : Prog Heap StatefulSet :=
  Prog.reads (fun h => do
    let brokerConfig ← Outcome.deref (b.brokerConfig.bind h.configs.read)
    b.buildFrom op order (b.overrides.bind h.overrides.read) brokerConfig)

end StatefulSetBuilder

/-! ### The bootstrap Listener -/

def labelListenerBootstrap : String := "app.kubernetes.io/listener-bootstrap"
def labelValueTrue : String := "true"

/-- `pkg.GenericBuilder`; the name and base labels are those of its object metadata. -/
structure GenericBuilder where
  name : String
  kubeNamespace : String
  baseLabels : Map String String
  listenerClass : String
  ports : List ListenerPort
  extraPodSelectorLabels : Option (Map String String)
  publishNotReadyAddress : Bool

def containerPortToListenerPort (ports : List ContainerPort) : List ListenerPort :=
  ports.map (fun p => ⟨p.name, p.containerPort, p.protocol⟩)

def GenericBuilder.getObject (o : Orders) (g : GenericBuilder) : Listener where
  name := g.name
  kubeNamespace := g.kubeNamespace
  labels := match g.extraPodSelectorLabels with
    | some extra => g.baseLabels.copy (o.entries.list extra)
    | none => g.baseLabels
  className := g.listenerClass
  ports := g.ports
  ingressAddresses := none

/-- The builder of a role group's bootstrap Listener. -/
def newRoleGroupBootstrapListener (op : OperatorGo) (ownerLabels : Map String String)
    (kubeNamespace bootstrapListenerClass : String) (info : RoleGroupInfo) (k : KafkaSecurity) :
    GenericBuilder where
  name := bootstrapListenerName info
  kubeNamespace := kubeNamespace
  baseLabels := op.objectMetaLabels ownerLabels (bootstrapListenerName info)
  listenerClass := bootstrapListenerClass
  ports := containerPortToListenerPort (kafkaContainerPorts k)
  extraPodSelectorLabels := some (Map.ofList [(labelListenerBootstrap, labelValueTrue)])
  publishNotReadyAddress := true

end KafkaOperator
