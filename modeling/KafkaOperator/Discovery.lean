import KafkaOperator.Builders
import KafkaOperator.GoStrings

/-! # Discovery

`internal/controller/discovery.go`: the ConfigMaps in which clients find the bootstrap servers.
Their builder lists Listeners by label and collects one host and port for each address under
which one of them is reachable.

The list is not restricted to the cluster or its namespace, so what a cluster publishes depends
on the Listeners of others.  `discovery_isolated_iff` says exactly when it does not. -/

namespace KafkaOperator

open Go

def kafkaDiscoveryKey : String := "KAFKA"

structure HostPort where
  host : String
  port : ℤ
deriving DecidableEq, Repr

structure DiscoveryBuilder where
  name : String
  labels : Map String String
  kafkaSecurity : KafkaSecurity
  isNodePort : Bool

def newKafkaDiscoveryBuilder (owner : KafkaCluster) (k : KafkaSecurity) (isNodePort : Bool) :
    DiscoveryBuilder where
  name := if isNodePort then owner.name ++ "-nodeport" else owner.name
  labels := owner.labels
  kafkaSecurity := k
  isNodePort := isNodePort

namespace DiscoveryBuilder

/-- The loop over the addresses of a Listener. -/
def appendHosts (portName : String) (result : List HostPort) :
    List IngressAddress → Outcome (List HostPort)
  | [] => pure result
  | addr :: addrs => match addr.ports.get portName with
    | some port => appendHosts portName (result ++ [⟨addr.address, port⟩]) addrs
    | none => .err ("no service port with name " ++ portName)

/-- The loop over the Listeners. -/
def appendListenerHosts (portName : String) (result : List HostPort) :
    List Listener → Outcome (List HostPort)
  | [] => pure result
  | l :: items => match l.ingressAddresses with
    | none => appendListenerHosts portName result items
    | some addrs => do
        let result ← appendHosts portName result addrs
        appendListenerHosts portName result items

def listenerHosts (items : List Listener) (portName : String) : Outcome (List HostPort) :=
  appendListenerHosts portName [] items

/-- `fmt.Sprintf("%s:%d", h.Host, h.Port)`. -/
def server (h : HostPort) : String := h.host ++ ":" ++ toString h.port

def makeBootstrapServers (hosts : List HostPort) : String := ",".intercalate (hosts.map server)

variable (b : DiscoveryBuilder)

def portName : String :=
  if b.kafkaSecurity.isKerberosEnabled then KafkaSecurity.bootstrapPortName
  else b.kafkaSecurity.clientPortName

/-- `Build`, on what the call of `List` returns. -/
def build (listenerList : Outcome (List Listener)) : Outcome ConfigMap := do
  let items ← listenerList
  let hosts ← listenerHosts items b.portName
  let bootstrapServers := makeBootstrapServers hosts
  pure ⟨b.name, b.labels, Map.empty.set kafkaDiscoveryKey (.text bootstrapServers)⟩

end DiscoveryBuilder

/-! ### What the loops compute -/

/-- Every address of the Listeners, in order. -/
def addresses (items : List Listener) : List IngressAddress :=
  items.flatMap (fun l => l.ingressAddresses.getD [])

/-- Every address has a port of that name. -/
def PortPublished (portName : String) (addrs : List IngressAddress) : Prop :=
  ∀ a ∈ addrs, (a.ports.get portName).isSome

instance (portName : String) (addrs : List IngressAddress) :
    Decidable (PortPublished portName addrs) :=
  inferInstanceAs (Decidable (∀ a ∈ addrs, (a.ports.get portName).isSome))

theorem portPublished_append {portName : String} {a b : List IngressAddress} :
    PortPublished portName (a ++ b) ↔ PortPublished portName a ∧ PortPublished portName b := by
  simp [PortPublished, or_imp, forall_and]

def hostPort (portName : String) (a : IngressAddress) : Option HostPort :=
  (a.ports.get portName).map (fun p => ⟨a.address, p⟩)

theorem addresses_cons (l : Listener) (items : List Listener) :
    addresses (l :: items) = l.ingressAddresses.getD [] ++ addresses items := rfl

namespace DiscoveryBuilder

theorem appendHosts_eq (portName : String) (result : List HostPort) (addrs : List IngressAddress) :
    appendHosts portName result addrs =
      if PortPublished portName addrs then .ok (result ++ addrs.filterMap (hostPort portName))
      else .err ("no service port with name " ++ portName) := by
  induction addrs generalizing result with
  | nil => simp [appendHosts, PortPublished]
  | cons a addrs ih =>
      cases hp : a.ports.get portName with
      | none => simp [appendHosts, PortPublished, hp]
      | some p => simp [appendHosts, ih, PortPublished, hostPort, hp]

theorem appendListenerHosts_eq (portName : String) (result : List HostPort)
    (items : List Listener) :
    appendListenerHosts portName result items =
      if PortPublished portName (addresses items) then
        .ok (result ++ (addresses items).filterMap (hostPort portName))
      else .err ("no service port with name " ++ portName) := by
  induction items generalizing result with
  | nil => simp [appendListenerHosts, PortPublished, addresses]
  | cons l items ih =>
      rw [addresses_cons]
      cases ha : l.ingressAddresses with
      | none => simpa [appendListenerHosts, ha] using ih result
      | some addrs =>
          rw [appendListenerHosts, ha]
          simp only [appendHosts_eq, Option.getD_some, portPublished_append]
          by_cases hp : PortPublished portName addrs
          · simp [hp, ih]
          · simp [hp]

/-- `listenerHosts` in closed form: it fails if and only if some address lacks the port. -/
theorem listenerHosts_eq (items : List Listener) (portName : String) :
    listenerHosts items portName =
      if PortPublished portName (addresses items) then
        .ok ((addresses items).filterMap (hostPort portName))
      else .err ("no service port with name " ++ portName) := by
  unfold listenerHosts
  simp [appendListenerHosts_eq]

variable (b : DiscoveryBuilder)

/-- The value published for a list of Listeners whose ports are all there. -/
def servers (items : List Listener) : String :=
  makeBootstrapServers ((addresses items).filterMap (hostPort b.portName))

theorem build_of_published {items : List Listener}
    (h : PortPublished b.portName (addresses items)) :
    b.build (.ok items) =
      .ok ⟨b.name, b.labels, Map.empty.set kafkaDiscoveryKey (.text (b.servers items))⟩ := by
  simp [build, listenerHosts_eq, h, servers]

theorem build_of_not_published {items : List Listener}
    (h : ¬ PortPublished b.portName (addresses items)) :
    b.build (.ok items) = .err ("no service port with name " ++ b.portName) := by
  simp [build, listenerHosts_eq, h]

end DiscoveryBuilder

/-! ### The API server -/

/-- The Listener objects of the API server; a namespace holds one object of a name. -/
structure ApiState where
  listeners : List Listener
  nodup : (listeners.map (fun l => (l.kubeNamespace, l.name))).Nodup

namespace ApiState

/-- `List` with `MatchingLabels` and no namespace. -/
def listMatching (s : ApiState) (key value : String) : List Listener :=
  s.listeners.filter (fun l => l.labels.get key = some value)

def filter (p : Listener → Bool) (s : ApiState) : ApiState where
  listeners := s.listeners.filter p
  nodup := s.nodup.sublist (List.filter_sublist.map _)

end ApiState

/-- `Build` with the API server in the given state. -/
def DiscoveryBuilder.buildIn (b : DiscoveryBuilder) (s : ApiState) : Outcome ConfigMap :=
  b.build (.ok (s.listMatching labelListenerBootstrap labelValueTrue))

/-- The names of the bootstrap Listeners of the cluster's role groups. -/
def KafkaCluster.listenerNames (cluster : KafkaCluster) : Finset String :=
  ((cluster.spec.brokers.bind (·.roleGroups)).getD Map.empty).keys.image
    (fun g => bootstrapListenerName ⟨cluster.name, roleName, g⟩)

/-- The Listener belongs to the cluster. -/
def KafkaCluster.owns (cluster : KafkaCluster) (l : Listener) : Bool :=
  l.kubeNamespace = cluster.kubeNamespace ∧ l.name ∈ cluster.listenerNames

/-- The part of a state that belongs to the cluster. -/
def KafkaCluster.ownState (cluster : KafkaCluster) (s : ApiState) : ApiState := s.filter cluster.owns

/-! ### Isolation -/

theorem addresses_filter {p : Listener → Bool} {items : List Listener}
    (h : ∀ l ∈ items, p l = false → l.ingressAddresses.getD [] = []) :
    addresses (items.filter p) = addresses items := by
  induction items with
  | nil => rfl
  | cons l items ih =>
      have ih' := ih (fun x hx => h x (List.mem_cons_of_mem _ hx))
      cases hp : p l with
      | true => simp [hp, addresses_cons, ih']
      | false => simp [hp, addresses_cons, ih', h l (by simp) hp]

theorem addresses_perm_filter (p : Listener → Bool) (items : List Listener) :
    (addresses items).Perm
      (addresses (items.filter p) ++ addresses (items.filter (fun l => !p l))) := by
  have hperm := (List.filter_append_perm p items).symm.flatMap_right
    (fun l => l.ingressAddresses.getD [])
  rwa [List.flatMap_append] at hperm

namespace DiscoveryBuilder

theorem server_ne_empty (h : HostPort) : server h ≠ "" := by
  intro heq
  have := congrArg String.length heq
  simp [server, String.length_append] at this

/-- The value changes when Listeners with addresses are left out. -/
theorem servers_filter_ne (b : DiscoveryBuilder) {p : Listener → Bool} {items : List Listener}
    (hport : PortPublished b.portName (addresses items))
    (hne : addresses (items.filter (fun l => !p l)) ≠ []) :
    b.servers (items.filter p) ≠ b.servers items := by
  have hperm := addresses_perm_filter p items
  obtain ⟨a, rest, ha⟩ := List.exists_cons_of_ne_nil hne
  obtain ⟨port, hp⟩ := Option.isSome_iff_exists.mp (hport a (hperm.mem_iff.mpr (by simp [ha])))
  have hmap := ((hperm.filterMap (hostPort b.portName)).map server)
  rw [List.filterMap_append, List.map_append] at hmap
  refine intercalate_ne_of_perm_append hmap ?_ ?_
  · simp [ha, hostPort, hp]
  · intro hempty
    obtain ⟨x, -, hx⟩ := List.mem_map.mp hempty
    exact server_ne_empty x hx

/-- An address of one of the cluster's own Listeners has no port of the name that `Build` looks
up. -/
def OwnPortMissing (b : DiscoveryBuilder) (cluster : KafkaCluster) (s : ApiState) : Prop :=
  ∃ l ∈ (cluster.ownState s).listMatching labelListenerBootstrap labelValueTrue,
    ∃ a ∈ l.ingressAddresses.getD [], a.ports.get b.portName = none

end DiscoveryBuilder

/-- A labelled Listener of another cluster or namespace is reachable under some address. -/
def KafkaCluster.ForeignAddress (cluster : KafkaCluster) (s : ApiState) : Prop :=
  ∃ l ∈ s.listMatching labelListenerBootstrap labelValueTrue,
    cluster.owns l = false ∧ l.ingressAddresses.getD [] ≠ []

section Isolated

variable (b : DiscoveryBuilder) (cluster : KafkaCluster) (s : ApiState)

theorem listMatching_ownState : (cluster.ownState s).listMatching labelListenerBootstrap labelValueTrue =
    (s.listMatching labelListenerBootstrap labelValueTrue).filter cluster.owns := by
  simp only [ApiState.listMatching, KafkaCluster.ownState, ApiState.filter, List.filter_filter,
    Bool.and_comm]

theorem ownPortMissing_iff : b.OwnPortMissing cluster s ↔ ¬ PortPublished b.portName
    (addresses ((s.listMatching labelListenerBootstrap labelValueTrue).filter cluster.owns)) := by
  rw [← listMatching_ownState]
  simp only [DiscoveryBuilder.OwnPortMissing, PortPublished, addresses, List.mem_flatMap, not_forall,
    Option.not_isSome_iff_eq_none]
  constructor
  · rintro ⟨l, hl, a, ha, hnone⟩
    exact ⟨a, ⟨l, hl, ha⟩, hnone⟩
  · rintro ⟨a, ⟨l, hl, ha⟩, hnone⟩
    exact ⟨l, hl, a, ha, hnone⟩

theorem foreignAddress_iff : cluster.ForeignAddress s ↔
    addresses ((s.listMatching labelListenerBootstrap labelValueTrue).filter
      (fun l => !cluster.owns l)) ≠ [] := by
  simp only [KafkaCluster.ForeignAddress, addresses, ne_eq, List.flatMap_eq_nil_iff, List.mem_filter,
    Bool.not_eq_true', not_forall, exists_prop, and_assoc]

/-- In one state: `Build` sees the cluster's own Listeners only, exactly if one of these makes it
fail anyway or no foreign one has an address. -/
theorem buildIn_eq_own_iff : b.buildIn s = b.buildIn (cluster.ownState s) ↔
    b.OwnPortMissing cluster s ∨ ¬ cluster.ForeignAddress s := by
  have hforeign := foreignAddress_iff cluster s
  rw [ownPortMissing_iff, DiscoveryBuilder.buildIn, DiscoveryBuilder.buildIn, listMatching_ownState]
  generalize s.listMatching labelListenerBootstrap labelValueTrue = items at hforeign ⊢
  by_cases hown : PortPublished b.portName (addresses (items.filter cluster.owns))
  · have hbuild := b.build_of_published hown
    by_cases hf : cluster.ForeignAddress s
    · refine iff_of_false (fun heq => ?_) (by simp [hown, hf])
      by_cases hall : PortPublished b.portName (addresses items)
      · rw [b.build_of_published hall, hbuild] at heq
        have hdata := congrArg (fun o => o.data.get kafkaDiscoveryKey) (Outcome.ok.inj heq)
        simp only [Map.get_set_self, Option.some.injEq, Content.text.injEq] at hdata
        exact b.servers_filter_ne hall (hforeign.mp hf) hdata.symm
      · rw [b.build_of_not_published hall, hbuild] at heq
        cases heq
    · refine iff_of_true ?_ (.inr hf)
      have hnone := not_not.mp (mt hforeign.mpr hf)
      rw [addresses, List.flatMap_eq_nil_iff] at hnone
      have hsame : addresses (items.filter cluster.owns) = addresses items :=
        addresses_filter (fun l hl hp => hnone l (List.mem_filter.mpr ⟨hl, by simp [hp]⟩))
      simp only [DiscoveryBuilder.build, DiscoveryBuilder.listenerHosts_eq, hsame, Outcome.ok_bind]
  · have hall : ¬ PortPublished b.portName (addresses items) := fun hall =>
      hown (portPublished_append.mp (fun a ha => hall a
        ((addresses_perm_filter cluster.owns items).mem_iff.mpr ha))).1
    rw [b.build_of_not_published hown, b.build_of_not_published hall]
    exact iff_of_true rfl (.inl hown)

theorem ownState_ownState : cluster.ownState (cluster.ownState s) = cluster.ownState s := by
  simp [KafkaCluster.ownState, ApiState.filter, List.filter_filter]

/-- A reachable bootstrap Listener in another namespace. -/
def foreignListener : Listener where
  name := "other-broker-default-bootstrap"
  kubeNamespace := cluster.kubeNamespace ++ "-other"
  labels := Map.ofList [(labelListenerBootstrap, labelValueTrue)]
  className := "cluster-internal"
  ports := []
  ingressAddresses := some [⟨"198.51.100.7", Map.ofList [(b.portName, 9092)]⟩]

theorem foreignListener_namespace_ne :
    (foreignListener b cluster).kubeNamespace ≠ cluster.kubeNamespace := by
  intro h
  have := congrArg String.length h
  simp [foreignListener, String.length_append] at this

theorem not_owns_foreignListener : cluster.owns (foreignListener b cluster) = false := by
  simp [KafkaCluster.owns, foreignListener_namespace_ne]

/-- The cluster's own Listeners and a foreign one. -/
def withForeign : ApiState where
  listeners := foreignListener b cluster :: (cluster.ownState s).listeners
  nodup := by
    rw [List.map_cons, List.nodup_cons]
    refine ⟨fun hmem => ?_, (cluster.ownState s).nodup⟩
    obtain ⟨l, hl, heq⟩ := List.mem_map.mp hmem
    have hown : cluster.owns l = true := (List.mem_filter.mp hl).2
    simp only [KafkaCluster.owns, decide_eq_true_eq] at hown
    exact foreignListener_namespace_ne b cluster ((Prod.mk.inj heq).1.symm.trans hown.1)

theorem ownState_withForeign : cluster.ownState (withForeign b cluster s) = cluster.ownState s := by
  simp [KafkaCluster.ownState, ApiState.filter, withForeign, not_owns_foreignListener,
    List.filter_filter]

theorem foreignAddress_withForeign : cluster.ForeignAddress (withForeign b cluster s) := by
  refine ⟨foreignListener b cluster, ?_, not_owns_foreignListener b cluster, by simp [foreignListener]⟩
  simp [ApiState.listMatching, withForeign, foreignListener, Map.ofList]

/-- **When discovery is isolated.**  In a given state `Build` gives what the cluster's own Listeners
give, exactly if one of these lacks the port or no labelled Listener of another cluster or
namespace has an address.  It gives the same in all states with the same own Listeners only if one
of these lacks the port. -/
theorem discovery_isolated_iff :
    (b.buildIn s = b.buildIn (cluster.ownState s) ↔
      b.OwnPortMissing cluster s ∨ ¬ cluster.ForeignAddress s) ∧
    ((∀ s', cluster.ownState s' = cluster.ownState s → b.buildIn s = b.buildIn s') ↔
      b.OwnPortMissing cluster s) := by
  refine ⟨buildIn_eq_own_iff b cluster s, fun hsame => ?_, fun hmissing s' hown => ?_⟩
  · by_contra hok
    have hown := hsame (cluster.ownState s) (ownState_ownState cluster s)
    have hforeign := hsame (withForeign b cluster s) (ownState_withForeign b cluster s)
    have hiff := buildIn_eq_own_iff b cluster (withForeign b cluster s)
    rw [ownState_withForeign, DiscoveryBuilder.OwnPortMissing, ownState_withForeign] at hiff
    exact (hiff.mp (hforeign.symm.trans hown)).elim hok
      (fun h => h (foreignAddress_withForeign b cluster s))
  · have hs := (buildIn_eq_own_iff b cluster s).mpr (.inl hmissing)
    have hs' := (buildIn_eq_own_iff b cluster s').mpr
      (.inl (by rwa [DiscoveryBuilder.OwnPortMissing, hown]))
    rw [hs, hs', hown]

end Isolated

/-- Two clusters of one name in different namespaces, each with one reachable Listener. -/
def teamListener (kubeNamespace address : String) : Listener where
  name := "kafkacluster-sample-broker-default-bootstrap"
  kubeNamespace := kubeNamespace
  labels := Map.ofList [(labelListenerBootstrap, labelValueTrue)]
  className := "cluster-internal"
  ports := []
  ingressAddresses := some [⟨address, Map.ofList [("kafka", 9092)]⟩]

def ownOnly : ApiState := ⟨[teamListener "default" "10.0.0.1"], by decide⟩

def withOther : ApiState :=
  ⟨[teamListener "default" "10.0.0.1", teamListener "other" "10.0.0.2"], by decide⟩

def teamCluster : KafkaCluster :=
  .sample [] none ⟨none, some (Map.ofList [("default", some ⟨1, none, none⟩)]), none⟩

def teamBuilder : DiscoveryBuilder :=
  newKafkaDiscoveryBuilder teamCluster ⟨[], "", "", "", "", none⟩ false

/-- The address of the other team's broker is published as one of the cluster's. -/
theorem foreign_address_published :
    teamCluster.ownState ownOnly = teamCluster.ownState withOther ∧
    (∃ cm, teamBuilder.buildIn ownOnly = .ok cm ∧
      cm.data.get kafkaDiscoveryKey = some (.text "10.0.0.1:9092")) ∧
    ∃ cm, teamBuilder.buildIn withOther = .ok cm ∧
      cm.data.get kafkaDiscoveryKey = some (.text "10.0.0.1:9092,10.0.0.2:9092") := by
  refine ⟨rfl, ⟨_, rfl, ?_⟩, ⟨_, rfl, ?_⟩⟩
  · rfl
  · rfl

end KafkaOperator
