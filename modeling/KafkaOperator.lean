import KafkaOperator.GoOutcome
import KafkaOperator.GoMap
import KafkaOperator.GoStore
import KafkaOperator.GoMerge
import KafkaOperator.GoStrings
import KafkaOperator.Api
import KafkaOperator.Kube
import KafkaOperator.ConfigMerge
import KafkaOperator.OperatorGo
import KafkaOperator.MergeObject
import KafkaOperator.Security
import KafkaOperator.Listener
import KafkaOperator.Container
import KafkaOperator.Agreement
import KafkaOperator.SecurePorts
import KafkaOperator.Command
import KafkaOperator.ClusterConfig
import KafkaOperator.Builders
import KafkaOperator.Discovery
import KafkaOperator.DiscoveryValue
import KafkaOperator.Role
import KafkaOperator.DefaultFilling
import KafkaOperator.RoleGroups
import KafkaOperator.ServerProperties
import KafkaOperator.Cluster
import KafkaOperator.NoCrash
import KafkaOperator.Names
import KafkaOperator.Isolation
import KafkaOperator.Manifest
import KafkaOperator.Inheritance
import KafkaOperator.ResourceBounds
import KafkaOperator.Pod
import KafkaOperator.TlsMaterial
import KafkaOperator.PodReferences
import KafkaOperator.SecretVolumes
import KafkaOperator.Handover
import KafkaOperator.KerberosViews
import KafkaOperator.OverridesUnion
import KafkaOperator.ListenerText
import KafkaOperator.DiscoveryPort
import KafkaOperator.Shell
import KafkaOperator.LaunchTokens
import KafkaOperator.History
import KafkaOperator.ListenerBuilder
import KafkaOperator.BuildOutcome
import KafkaOperator.Inventory
import KafkaOperator.ControlLoop
import KafkaOperator.ApiServer
import KafkaOperator.Reconcile
import KafkaOperator.Settling
import KafkaOperator.Completion
import KafkaOperator.Interleaving
import KafkaOperator.System
import KafkaOperator.SystemInvariants
import KafkaOperator.ShellExpansion
import KafkaOperator.BrokerArguments
import KafkaOperator.Wanted
import KafkaOperator.Blocking
import KafkaOperator.Starvation
