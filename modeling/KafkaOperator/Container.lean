import Mathlib.Algebra.Order.Floor.Ring
import Mathlib.Data.Rat.Floor
import KafkaOperator.Listener

/-! # The kafka container

`internal/controller/container.go`: environment, mounts, probes, ports and the shell command
of the kafka container.  The command embeds the three listener strings, so it depends on the
order in which the protocol map is visited.

`GetEnvs` and `GetVolumeMount` do not look at their receiver and can be called on a nil
pointer; reading `Role` cannot. -/

namespace KafkaOperator

open Go

def zookeeperDiscoveryKey : String := "ZOOKEEPER"
def envJvmArgs : String := "EXTRA_ARGS"
def envZookeeperConnections : String := "ZOOKEEPER"
def envKafkaLog4jOpts : String := "KAFKA_LOG4J_OPTS"
def envKafkaHeapOpts : String := "KAFKA_HEAP_OPTS"
def envNode : String := "NODE"
def envPodName : String := "POD_NAME"

/-- `Quantity.Value`, which rounds away from zero. -/
def Quantity.value (q : Quantity) : ℤ := if 0 ≤ q then ⌈q⌉ else ⌊q⌋

/-- Whole mebibytes of a quantity, divided with truncation. -/
def quantityToMB (q : Quantity) : ℤ := (Quantity.value q).tdiv (1024 * 1024)

structure KafkaContainerBuilder where
  resourceSpec : Option ResourcesSpec
  zookeeperDiscoveryZNode : String
  kafkaSecurity : KafkaSecurity
  kubeNamespace : String
  groupSvcName : String

def newKafkaContainer (zookeeperDiscoveryZNode : String) (tlsSecurity : KafkaSecurity)
    (kubeNamespace groupSvcName : String) : KafkaContainerBuilder where
  resourceSpec := none
  zookeeperDiscoveryZNode := zookeeperDiscoveryZNode
  kafkaSecurity := tlsSecurity
  kubeNamespace := kubeNamespace
  groupSvcName := groupSvcName

namespace KafkaContainerBuilder

variable (d : KafkaContainerBuilder)

def containerName : String := "kafka"

def containerEnv : List EnvVar :=
  let envs : List EnvVar :=
    [⟨envPodName, .fieldRef "metadata.name"⟩,
      ⟨envNode, .fieldRef "status.hostIP"⟩,
      ⟨envZookeeperConnections, .configMapKeyRef d.zookeeperDiscoveryZNode zookeeperDiscoveryKey⟩,
      ⟨envKafkaLog4jOpts,
        .value ("-Dlog4j.configuration=file:" ++ kubedoopLogConfigDir ++ "/" ++ log4jFileName)⟩,
      ⟨envJvmArgs,
        .value ("-Djava.security.properties=" ++ kubedoopConfigDir ++ "/security.properties -javaagent:"
          ++ kubedoopRoot ++ "/jmx/jmx_prometheus_javaagent.jar=" ++ toString metricsPort ++ ":"
          ++ kubedoopRoot ++ "/jmx/config.yaml")⟩]
  let envs := if d.kafkaSecurity.isKerberosEnabled then envs ++ KerberosAuthentication.getEnvs
    else envs
  match d.resourceSpec.bind (fun r => r.memory) with
  | some m => envs ++
      [⟨envKafkaHeapOpts, .value ("-Xmx" ++ toString ((8 * quantityToMB m.limit).tdiv 10) ++ "m")⟩]
  | none => envs

/-- Nil where `GetKerberosAuth` reports an error or returns nil. -/
def getKerbersoAuth : Option KerberosAuthentication :=
  match d.kafkaSecurity.getKerberosAuth with
  | .ok a => a
  | _ => none

def volumeMount : List VolumeMount :=
  let mounts : List VolumeMount :=
    [⟨kubedoopKafkaDataDirName, kubedoopDataDir⟩,
      ⟨kubedoopConfigDirName, kubedoopConfigDir⟩,
      ⟨kubedoopLogDirName, kubedoopLogDir⟩,
      ⟨kubedoopLogConfigDirName, kubedoopLogConfigDir⟩,
      ⟨kubedoopListenerBroker, kubedoopListenerBrokerDir⟩,
      ⟨kubedoopListenerBootstrap, kubedoopListenerBootstrapDir⟩]
  if d.kafkaSecurity.isKerberosEnabled then mounts ++ KerberosAuthentication.getVolumeMount
  else mounts

def livenessProbe : Probe where
  failureThreshold := 6
  initialDelaySeconds := 20
  periodSeconds := 30
  successThreshold := 1
  timeoutSeconds := 5
  tcpSocketPort := d.kafkaSecurity.clientPortName

def readinessProbe : Probe where
  failureThreshold := 3
  initialDelaySeconds := 20
  periodSeconds := 30
  successThreshold := 1
  timeoutSeconds := 1
  tcpSocketPort := d.kafkaSecurity.clientPortName

def containerPorts : List ContainerPort := kafkaContainerPorts d.kafkaSecurity

def command : List String := ["sh", "-c"]

/-- The key of the JAAS entry of a listener, up to the equals sign. -/
def jaasKey (listener : String) : String :=
  "listener.name." ++ listener ++ ".gssapi.sasl.jaas.config="

/-- The override with the JAAS entry of a listener. -/
def jaasOverride (listener serviceName address : String) : String :=
  " --override \"" ++ jaasKey listener ++
    ("com.sun.security.auth.module.Krb5LoginModule required useKeyTab=true storeKey=true isInitiator=false keyTab=\\\"/kubedoop/kerberos/keytab\\\" principal=\\\""
    ++ serviceName ++ "/" ++ address ++ "@$KERBEROS_REALM\\\";\"")

/-- The part of the launch command that does not depend on Kerberos. -/
def serverCommand (listeners advertisedListers lisenerSecurityProtocolMap : String) : String :=
  "bin/kafka-server-start.sh " ++ kubedoopConfigDir ++ "/" ++ serverFileName
    ++ " --override \"zookeeper.connect=$\x7bZOOKEEPER\x7d\" --override \"listeners=" ++ listeners
    ++ "\" --override \"advertised.listeners=" ++ advertisedListers
    ++ "\" --override \"listener.security.protocol.map=" ++ lisenerSecurityProtocolMap ++ "\" "

def launchCommand (listeners advertisedListers lisenerSecurityProtocolMap : String) :
    Outcome String := do
  let cmds := serverCommand listeners advertisedListers lisenerSecurityProtocolMap
  let cmds ← if d.kafkaSecurity.isKerberosEnabled then do
      let _ ← Outcome.deref d.getKerbersoAuth
      let serviceName := KafkaRole.kerberosServiceName
      let brokerAddress := nodeAddressCmd kubedoopListenerBrokerDir
      let bootstrapAddress := nodeAddressCmd kubedoopListenerBootstrapDir
      pure (cmds ++ (jaasOverride "client" serviceName brokerAddress
        ++ jaasOverride "bootstrap" serviceName bootstrapAddress))
    else pure cmds
  pure (cmds ++ " &")

/-- The container's single argument; `order` is how the protocol map is visited. -/
def commandArgs (op : OperatorGo) (order : List (KafkaListenerName × KafkaListenerProtocol)) :
    Outcome (List String) := do
  let listenerConfig := getKafkaListenerConfig d.kubeNamespace d.kafkaSecurity d.groupSvcName
  let listeners := listenerConfig.listenersString
  let advertisedListers := listenerConfig.advertisedListenersString
  let lisenerSecurityProtocolMap := KafkaListenerConfig.listenerSecurityProtocolMapString order
  let args := ["set -x", op.commonBashTrapFunctions, op.removeVectorShutdownFileCommand,
    "prepare_signal_handlers"]
  let args := if d.kafkaSecurity.isKerberosEnabled then
      args ++ ["export KERBEROS_REALM=$(grep -oP 'default_realm = \\K.*' "
        ++ kubedoopKerberosKrb5Path ++ ")"]
    else args
  let launch ← d.launchCommand listeners advertisedListers lisenerSecurityProtocolMap
  pure ["\n".intercalate (args ++ [launch, "wait_for_termination",
    op.createVectorShutdownFileCommand])]

end KafkaContainerBuilder

end KafkaOperator
