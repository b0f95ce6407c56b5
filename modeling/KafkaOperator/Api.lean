import Mathlib.Data.Rat.Defs
import KafkaOperator.GoMap

/-! # The KafkaCluster resource

The types of `api/v1alpha1` and the ones of operator-go's `commons/v1alpha1` that they
embed, as the controller holds them after decoding: a pointer that may be nil is an
`Option`, a string that is not given is `""`, a quantity that is not given is `0`.  Maps
and slices are optional too where it matters whether they are nil; for the maps of the logging
settings it does not, and a nil one is empty.

Left out are fields that no function of the controller reads: the status, the role's pod
disruption budget, and the image's pull secret. -/

namespace KafkaOperator

open Go

/-! ### Constants of `kafkacluster_types.go` -/

def log4jFileName : String := "log4j.properties"
def securityFileName : String := "security.properties"
def serverFileName : String := "server.properties"

def clientPortName : String := "kafka"
def secureClientPortName : String := "kafka-tls"
def internalPortName : String := "internal"
def metricsPortName : String := "metrics"
def bootstrapPortName : String := "bootstrap"

def clientPort : ℕ := 9092
def securityClientPort : ℕ := 9093
def internalPort : ℕ := 19092
def securityInternalPort : ℕ := 19093
def metricsPort : ℕ := 9606
def bootstrapPort : ℕ := 9094
def bootstrapSecurePort : ℕ := 9095

def kubedoopKafkaDataDirName : String := "data"
def kubedoopLogConfigDirName : String := "log-config"
def kubedoopConfigDirName : String := "config"
def kubedoopLogDirName : String := "log"
def kubedoopListenerBroker : String := "listener-broker"
def kubedoopListenerBootstrap : String := "listener-bootstrap"
def kubedoopKerberosName : String := "listener-kerberos"

def kubedoopRoot : String := "/kubedoop"
def kubedoopDataDir : String := kubedoopRoot ++ "/data"
def kubedoopConfigDir : String := kubedoopRoot ++ "/config"
def kubedoopLogConfigDir : String := kubedoopRoot ++ "/log_config"
def kubedoopLogDir : String := kubedoopRoot ++ "/log"
def kubedoopListenerBrokerDir : String := kubedoopRoot ++ "/listener-broker"
def kubedoopListenerBootstrapDir : String := kubedoopRoot ++ "/listener-bootstrap"
def kubedoopKerberosDir : String := kubedoopRoot ++ "/kerberos"
def kubedoopKerberosKrb5Path : String := kubedoopKerberosDir ++ "/krb5.conf"

def defaultProductName : String := "kafka"
def defaultProductVersion : String := "3.9.0"

/-! ### Settings shared by the role and its groups -/

/-- Quantities are exact rationals; `0` where none is given. -/
abbrev Quantity := ℚ

structure LogLevelSpec where
  level : String
deriving DecidableEq

structure LoggingConfigSpec where
  loggers : Map String LogLevelSpec
  console : Option LogLevelSpec
  file : Option LogLevelSpec

structure LoggingSpec where
  containers : Map String LoggingConfigSpec
  enableVectorAgent : Option Bool

structure CPUResource where
  max : Quantity
  min : Quantity
deriving DecidableEq

structure MemoryResource where
  limit : Quantity
deriving DecidableEq

structure StorageResource where
  capacity : Quantity
  storageClass : String
deriving DecidableEq

structure ResourcesSpec where
  cpu : Option CPUResource
  memory : Option MemoryResource
  storage : Option StorageResource
deriving DecidableEq

/-- The one kind of affinity the controller builds itself: a preferred anti-affinity between
pods that carry the given labels. -/
structure Affinity where
  weight : ℕ
  matchLabels : List (String × String)
  topologyKey : String
deriving DecidableEq

/-- The bytes of a `runtime.RawExtension`: written by the user, or marshalled from a value. -/
inductive RawExtension where
  | json (text : String)
  | marshal (a : Affinity)
deriving DecidableEq

structure RoleGroupConfigSpec where
  affinity : Option RawExtension
  gracefulShutdownTimeout : String
  logging : Option LoggingSpec
  resources : Option ResourcesSpec

structure BrokersConfigSpec where
  roleGroupConfigSpec : Option RoleGroupConfigSpec
  brokerListenerClass : String
  bootstrapListenerClass : String
  requestedSecretLifeTime : String

/-- `commonsv1alpha1.OverridesSpec`; a file of `configOverrides` may be bound to a nil map. -/
structure OverridesSpec where
  cliOverrides : Option (List String)
  envOverrides : Option (Map String String)
  configOverrides : Option (Map String (Option (Map String String)))
  podOverrides : Option RawExtension

/-- `&commonsv1alpha1.OverridesSpec{}`. -/
def OverridesSpec.zero : OverridesSpec := ⟨none, none, none, none⟩

/-- `&commonsv1alpha1.RoleGroupConfigSpec{}`. -/
def RoleGroupConfigSpec.zero : RoleGroupConfigSpec := ⟨none, "", none, none⟩

/-- `&kafkav1alpha1.BrokersConfigSpec{}`. -/
def BrokersConfigSpec.zero : BrokersConfigSpec := ⟨none, "", "", ""⟩

/-! ### The cluster -/

structure BrokersRoleGroupSpec where
  replicas : ℤ
  config : Option BrokersConfigSpec
  overridesSpec : Option OverridesSpec

structure BrokersSpec where
  config : Option BrokersConfigSpec
  roleGroups : Option (Map String (Option BrokersRoleGroupSpec))
  overridesSpec : Option OverridesSpec

structure KerberosAuthenticationProviderSpec where
  kerberosSecretClass : String
deriving DecidableEq

structure KafkaAuthenticationSpec where
  authenticationClass : String
  kerberos : Option KerberosAuthenticationProviderSpec
deriving DecidableEq

structure KafkaTlsSpec where
  serverSecretClass : String
  internalSecretClass : String
  sslStorePassword : String
deriving DecidableEq

structure ClusterConfigSpec where
  clusterDomain : String
  authentication : List KafkaAuthenticationSpec
  tls : Option KafkaTlsSpec
  vectorAggregatorConfigMapName : String
  zookeeperConfigMapName : String
deriving DecidableEq

structure ImageSpec where
  custom : String
  repo : String
  kubedoopVersion : String
  productVersion : String
  pullPolicy : Option String
deriving DecidableEq

structure ClusterOperationSpec where
  reconciliationPaused : Bool
  stopped : Bool
deriving DecidableEq

structure KafkaClusterSpec where
  image : Option ImageSpec
  clusterConfig : Option ClusterConfigSpec
  clusterOperation : Option ClusterOperationSpec
  brokers : Option BrokersSpec

structure KafkaCluster where
  name : String
  kubeNamespace : String
  labels : Map String String
  spec : KafkaClusterSpec

/-- The cluster of the sample manifest, with the given authentication, TLS settings and brokers. -/
def KafkaCluster.sample (authentication : List KafkaAuthenticationSpec) (tls : Option KafkaTlsSpec)
    (brokers : BrokersSpec) : KafkaCluster where
  name := "kafkacluster-sample"
  kubeNamespace := "default"
  labels := Map.empty
  spec :=
    { image := some ⟨"", "quay.io/zncdatadev", "0.0.0-dev", "3.9.0", some "IfNotPresent"⟩
      clusterConfig := some ⟨"", authentication, tls, "", "kafka-znode"⟩
      clusterOperation := none
      brokers := some brokers }

end KafkaOperator
