import KafkaOperator.Api

/-! # The Kubernetes objects the controller builds

The parts of `core/v1`, `apps/v1` and of operator-go's Listener that the builders fill in
or read.  Settings that every object of a kind gets as the same constant (access modes,
volume mode) are left out. -/

namespace KafkaOperator

open Go

structure ContainerPort where
  name : String
  containerPort : ℕ
  protocol : String
deriving DecidableEq, Repr

/-- Where an environment variable gets its value. -/
inductive EnvSource where
  | value (text : String)
  | fieldRef (fieldPath : String)
  | configMapKeyRef (configMap key : String)
deriving DecidableEq, Repr

structure EnvVar where
  name : String
  source : EnvSource
deriving DecidableEq, Repr

structure VolumeMount where
  name : String
  mountPath : String
deriving DecidableEq, Repr

/-- The claim template of an ephemeral volume. -/
structure ClaimTemplate where
  annotations : Map String String
  labels : Option (Map String String)
  storageClassName : String

inductive VolumeSource where
  | emptyDir
  | configMap (name : String)
  | ephemeral (template : ClaimTemplate)

structure Volume where
  name : String
  source : VolumeSource

/-- The annotations of a volume's claim template. -/
def Volume.annotations (v : Volume) : Map String String :=
  match v.source with
  | .ephemeral t => t.annotations
  | _ => Map.empty

structure PersistentVolumeClaim where
  name : String
  kubeNamespace : String
  annotations : Option (Map String String)
  labels : Map String String
  storageClassName : Option String
  storage : Quantity

/-- A probe that opens a TCP connection to a named port. -/
structure Probe where
  failureThreshold : ℕ
  initialDelaySeconds : ℕ
  periodSeconds : ℕ
  successThreshold : ℕ
  timeoutSeconds : ℕ
  tcpSocketPort : String
deriving DecidableEq, Repr

/-- `util.Image`: what an image reference is put together from. -/
structure Image where
  productName : String
  productVersion : String
  kubedoopVersion : String
  custom : String
  repo : String
  pullPolicy : String
deriving DecidableEq, Repr

structure Container where
  name : String
  image : Image
  env : List EnvVar
  command : List String
  args : List String
  volumeMounts : List VolumeMount
  resources : Option ResourcesSpec
  readinessProbe : Option Probe
  livenessProbe : Option Probe
  ports : List ContainerPort

structure PodTemplate where
  containers : List Container
  volumes : List Volume
  serviceAccountName : String

structure StatefulSet where
  name : String
  kubeNamespace : String
  labels : Map String String
  replicas : ℤ
  serviceName : String
  podManagementPolicy : String
  template : PodTemplate
  volumeClaimTemplates : List PersistentVolumeClaim

/-- An item of a ConfigMap.  The text that marshalling a properties map renders is
represented by the map: it holds exactly the map's entries. -/
inductive Content where
  | properties (entries : Map String String)
  | text (s : String)

/-- `content == ""`. -/
def Content.isEmpty : Content → Bool
  | .properties m => m.keys = ∅
  | .text s => s = ""

theorem Content.isEmpty_properties {data : Map String String} (key : String)
    (h : (data.get key).isSome) : (Content.properties data).isEmpty = false := by
  have hmem : key ∈ data.keys := (data.mem_keys key).mpr h
  simpa [Content.isEmpty] using Finset.ne_empty_of_mem hmem

structure ConfigMap where
  name : String
  labels : Map String String
  data : Map String Content

/-- One address under which a Listener is reachable, with its named ports. -/
structure IngressAddress where
  address : String
  ports : Map String ℤ

structure ListenerPort where
  name : String
  port : ℕ
  protocol : String
deriving DecidableEq, Repr

/-- `listenerv1alpha1.Listener`: its metadata, spec and status. -/
structure Listener where
  name : String
  kubeNamespace : String
  labels : Map String String
  className : String
  ports : List ListenerPort
  ingressAddresses : Option (List IngressAddress)

end KafkaOperator
