import KafkaOperator.Security

/-! # Kafka listeners

`internal/controller/listener.go` and `util.go`: the listeners a broker opens, the addresses
it advertises for them and their security protocols, all decided by the security settings;
and the ports its container declares.

The protocol map is rendered by ranging over a Go map, so
`listenerSecurityProtocolMapString` takes the order in which the entries are visited. -/

namespace KafkaOperator

open Go

/-! ### Shell snippets -/

def nodeAddressCmd (directory : String) : String :=
  "$(cat " ++ pathJoin directory "default-address/address" ++ ")"

def nodePortCmd (directory portName : String) : String :=
  "$(cat " ++ pathJoin (pathJoin directory "default-address/ports") portName ++ ")"

def podFqdn (kubeNamespace objectName : String) : String :=
  "$POD_NAME." ++ objectName ++ "." ++ kubeNamespace ++ ".svc.cluster.local"

/-! ### Listeners -/

def listenerLocalAddress : String := "0.0.0.0"

inductive KafkaListenerProtocol where
  | plaintext
  | ssl
deriving DecidableEq, Repr

def KafkaListenerProtocol.string : KafkaListenerProtocol → String
  | .plaintext => "PLAINTEXT"
  | .ssl => "SSL"

inductive KafkaListenerName where
  | client
  | clientAuth
  | internal
  | bootstrap
deriving DecidableEq, Repr

def KafkaListenerName.string : KafkaListenerName → String
  | .client => "CLIENT"
  | .clientAuth => "CLIENT_AUTH"
  | .internal => "INTERNAL"
  | .bootstrap => "BOOTSTRAP"

structure KafkaListener where
  name : KafkaListenerName
  host : String
  port : String
deriving DecidableEq, Repr

def KafkaListener.string (l : KafkaListener) : String :=
  l.name.string ++ "://" ++ l.host ++ ":" ++ l.port

structure KafkaListenerConfig where
  listeners : List KafkaListener
  advertisedListeners : List KafkaListener
  listenerSecurityProtocolMap : Map KafkaListenerName KafkaListenerProtocol

namespace KafkaListenerConfig

def listenersString (c : KafkaListenerConfig) : String :=
  ",".intercalate (c.listeners.map KafkaListener.string)

def advertisedListenersString (c : KafkaListenerConfig) : String :=
  ",".intercalate (c.advertisedListeners.map KafkaListener.string)

/-- `order` lists the entries of the protocol map as `range` visits them. -/
def listenerSecurityProtocolMapString
    (order : List (KafkaListenerName × KafkaListenerProtocol)) : String :=
  ",".intercalate (order.map (fun e => e.1.string ++ ":" ++ e.2.string))

/-- The three statements of each branch: append a listener, append how it is advertised, and
assign its protocol. -/
def add (c : KafkaListenerConfig) (listener advertised : KafkaListener)
    (protocol : KafkaListenerProtocol) : KafkaListenerConfig where
  listeners := c.listeners ++ [listener]
  advertisedListeners := c.advertisedListeners ++ [advertised]
  listenerSecurityProtocolMap := c.listenerSecurityProtocolMap.set listener.name protocol

end KafkaListenerConfig

/-- The listener configuration of the brokers of a role group; the source's error result is
always nil. -/
def getKafkaListenerConfig (kubeNamespace : String) (k : KafkaSecurity) (objectName : String) :
    KafkaListenerConfig :=
  let fqdn := podFqdn kubeNamespace objectName
  let nodeAddress := nodeAddressCmd kubedoopListenerBrokerDir
  let nodePort := nodePortCmd kubedoopListenerBrokerDir k.clientPortName
  let c : KafkaListenerConfig := ⟨[], [], Map.empty⟩
  let c :=
    if k.tlsClientAuthenticationClass != "" then
      c.add ⟨.clientAuth, listenerLocalAddress, toString k.clientPort⟩
        ⟨.clientAuth, nodeAddress, nodePort⟩ .ssl
    else if k.isKerberosEnabled then
      c.add ⟨.client, listenerLocalAddress, toString k.clientPort⟩
        ⟨.client, nodeAddress, nodePort⟩ .ssl
    else if k.tlsServerSecretClass != "" then
      c.add ⟨.client, listenerLocalAddress, toString k.clientPort⟩
        ⟨.client, nodeAddress, nodePort⟩ .ssl
    else
      c.add ⟨.client, listenerLocalAddress, toString clientPort⟩
        ⟨.client, nodeAddress, nodePort⟩ .plaintext
  let c :=
    if k.tlsInternalSecretClass != "" || k.isKerberosEnabled then
      c.add ⟨.internal, listenerLocalAddress, toString k.internalPort⟩
        ⟨.internal, fqdn, toString k.internalPort⟩ .ssl
    else
      c.add ⟨.internal, listenerLocalAddress, toString k.internalPort⟩
        ⟨.internal, fqdn, toString k.internalPort⟩ .plaintext
  if k.isKerberosEnabled then
    c.add ⟨.bootstrap, listenerLocalAddress, toString k.bootstrapPort⟩
      ⟨.bootstrap, nodeAddress, nodePort⟩ .ssl
  else c

/-! ### Container ports -/

def kafkaContainerPorts (k : KafkaSecurity) : List ContainerPort :=
  let ports : List ContainerPort :=
    [⟨k.clientPortName, k.clientPort, "TCP"⟩, ⟨metricsPortName, metricsPort, "TCP"⟩]
  if k.isKerberosEnabled then ports ++ [⟨bootstrapPortName, k.bootstrapPort, "TCP"⟩] else ports

/-! ### The configuration in closed form

The first listener is `CLIENT_AUTH` or `CLIENT`, then comes `INTERNAL`, and `BOOTSTRAP` with
Kerberos only.  The branches of the source agree with the port functions: the plain port is
hard-coded exactly where `clientPort` returns it. -/

namespace KafkaListenerConfig

section AddAll

variable (listener advertised : KafkaListenerName → KafkaListener)
  (protocol : KafkaListenerName → KafkaListenerProtocol)

/-- Add listeners by their names. -/
def addAll (c : KafkaListenerConfig) (l : List KafkaListenerName) : KafkaListenerConfig :=
  l.foldl (fun c n => c.add (listener n) (advertised n) (protocol n)) c

theorem addAll_cons (c : KafkaListenerConfig) (n : KafkaListenerName) (l : List KafkaListenerName) :
    addAll listener advertised protocol c (n :: l) = addAll listener advertised protocol
      (c.add (listener n) (advertised n) (protocol n)) l := rfl

theorem addAll_listeners (c : KafkaListenerConfig) (l : List KafkaListenerName) :
    (addAll listener advertised protocol c l).listeners = c.listeners ++ l.map listener := by
  induction l generalizing c with
  | nil => exact (List.append_nil _).symm
  | cons n l ih => rw [addAll_cons, ih, add, List.append_assoc, List.map_cons, List.singleton_append]

theorem addAll_advertisedListeners (c : KafkaListenerConfig) (l : List KafkaListenerName) :
    (addAll listener advertised protocol c l).advertisedListeners =
      c.advertisedListeners ++ l.map advertised := by
  induction l generalizing c with
  | nil => exact (List.append_nil _).symm
  | cons n l ih => rw [addAll_cons, ih, add, List.append_assoc, List.map_cons, List.singleton_append]

variable {listener advertised protocol}

theorem addAll_protocol (hname : ∀ n, (listener n).name = n) (c : KafkaListenerConfig)
    (l : List KafkaListenerName) (n : KafkaListenerName) :
    (addAll listener advertised protocol c l).listenerSecurityProtocolMap.get n =
      if n ∈ l then some (protocol n) else c.listenerSecurityProtocolMap.get n := by
  induction l generalizing c with
  | nil => rfl
  | cons m l ih =>
      rw [addAll_cons, ih, add, Map.get_set, hname]
      by_cases hm : n = m
      · subst hm
        simp
      · simp [hm]

end AddAll

end KafkaListenerConfig

namespace KafkaSecurity

variable (k : KafkaSecurity)

/-- The name of the listener for clients. -/
def clientListener : KafkaListenerName :=
  if k.tlsClientAuthenticationClass != "" then .clientAuth else .client

/-- The names of the listeners, in order. -/
def listenerNames : List KafkaListenerName :=
  [k.clientListener, .internal] ++ if k.isKerberosEnabled then [.bootstrap] else []

/-- The protocol of a listener. -/
def protocolOf : KafkaListenerName → KafkaListenerProtocol
  | .internal =>
      if k.tlsInternalSecretClass != "" || k.isKerberosEnabled then .ssl else .plaintext
  | .bootstrap => .ssl
  | _ => if k.tlsEnabled || k.isKerberosEnabled then .ssl else .plaintext

/-- The port a listener binds. -/
def portOf : KafkaListenerName → ℕ
  | .internal => k.internalPort
  | .bootstrap => k.bootstrapPort
  | _ => k.clientPort

/-- The listener as it is advertised. -/
def advertised (kubeNamespace objectName : String) : KafkaListenerName → KafkaListener
  | .internal => ⟨.internal, podFqdn kubeNamespace objectName, toString k.internalPort⟩
  | n => ⟨n, nodeAddressCmd kubedoopListenerBrokerDir,
      nodePortCmd kubedoopListenerBrokerDir k.clientPortName⟩

variable (ns obj : String)

/-- The branches add the listeners one by one. -/
theorem getKafkaListenerConfig_eq :
    getKafkaListenerConfig ns k obj = KafkaListenerConfig.addAll
      (fun n => ⟨n, listenerLocalAddress, toString (k.portOf n)⟩) (k.advertised ns obj) k.protocolOf
      ⟨[], [], Map.empty⟩ k.listenerNames := by
  unfold getKafkaListenerConfig listenerNames clientListener
  by_cases hc : k.tlsClientAuthenticationClass = "" <;>
    by_cases hs : k.tlsServerSecretClass = "" <;> cases hk : k.isKerberosEnabled <;>
      by_cases hi : k.tlsInternalSecretClass = "" <;>
        simp [hc, hs, hk, hi, KafkaListenerConfig.addAll, portOf, clientPort, advertised, protocolOf,
          tlsEnabled]

theorem getKafkaListenerConfig_listeners :
    (getKafkaListenerConfig ns k obj).listeners =
      k.listenerNames.map (fun n => ⟨n, listenerLocalAddress, toString (k.portOf n)⟩) := by
  rw [getKafkaListenerConfig_eq, KafkaListenerConfig.addAll_listeners, List.nil_append]

theorem getKafkaListenerConfig_advertised :
    (getKafkaListenerConfig ns k obj).advertisedListeners =
      k.listenerNames.map (k.advertised ns obj) := by
  rw [getKafkaListenerConfig_eq, KafkaListenerConfig.addAll_advertisedListeners, List.nil_append]

theorem getKafkaListenerConfig_protocol (n : KafkaListenerName) :
    (getKafkaListenerConfig ns k obj).listenerSecurityProtocolMap.get n =
      if n ∈ k.listenerNames then some (k.protocolOf n) else none := by
  rw [getKafkaListenerConfig_eq, KafkaListenerConfig.addAll_protocol (fun _ => rfl), Map.get_empty]

theorem listenerNames_nodup : k.listenerNames.Nodup := by
  unfold listenerNames clientListener
  by_cases hc : k.tlsClientAuthenticationClass = "" <;> cases hk : k.isKerberosEnabled <;>
    simp [hc]

end KafkaSecurity

end KafkaOperator
