import KafkaOperator.Agreement
import KafkaOperator.TlsMaterial

/-! # Secure ports and encrypted listeners

Every listener has a plain and a secure port number, and every listener has a protocol.  The port
functions of `internal/security/security.go` and the branches of `GetKafkaListenerConfig` choose
them separately: `InternalPort` looks at Kerberos as the protocol does, `ClientPort` and
`BootstrapPort` look at the TLS classes only.

`ports_match_iff` says for which clusters the two choices agree. -/

namespace KafkaOperator

open Go

/-! ### The two ports of a listener -/

namespace KafkaListenerName

def plainPort : KafkaListenerName → ℕ
  | internal => internalPort
  | bootstrap => bootstrapPort
  | _ => clientPort

def securePort : KafkaListenerName → ℕ
  | internal => securityInternalPort
  | bootstrap => bootstrapSecurePort
  | _ => securityClientPort

theorem plainPort_ne_securePort (n : KafkaListenerName) : n.plainPort ≠ n.securePort := by
  cases n <;> decide

end KafkaListenerName

/-- The protocol encrypts. -/
def KafkaListenerProtocol.encrypted (p : KafkaListenerProtocol) : Bool := p = .ssl

namespace KafkaSecurity

variable (k : KafkaSecurity)

theorem portOf_mem (n : KafkaListenerName) :
    k.portOf n = n.plainPort ∨ k.portOf n = n.securePort := by
  cases n with
  | internal => exact k.internalPort_mem
  | bootstrap => exact k.bootstrapPort_mem
  | client | clientAuth => exact k.clientPort_mem

theorem portOf_eq_plainPort_iff (n : KafkaListenerName) :
    k.portOf n = n.plainPort ↔ k.portOf n ≠ n.securePort := by
  have hne := n.plainPort_ne_securePort
  rcases k.portOf_mem n with h | h
  · rw [h]
    exact iff_of_true rfl hne
  · rw [h]
    exact iff_of_false hne.symm (fun hn => hn rfl)

/-- When a listener binds its secure port. -/
theorem portOf_eq_securePort_iff (n : KafkaListenerName) :
    k.portOf n = n.securePort ↔ match n with
      | .internal => (k.tlsInternalSecretClass != "" || k.isKerberosEnabled) = true
      | _ => k.tlsEnabled = true := by
  have hne := n.plainPort_ne_securePort.symm
  cases n with
  | internal => exact hne.ite_eq_left_iff
  | bootstrap | client | clientAuth => exact hne.ite_eq_left_iff

/-- When a listener's protocol encrypts, without client certificate authentication. -/
theorem protocolOf_encrypted_iff {n : KafkaListenerName} (hn : n ∈ k.listenerNames) :
    (k.protocolOf n).encrypted = true ↔ match n with
      | .internal => (k.tlsInternalSecretClass != "" || k.isKerberosEnabled) = true
      | _ => k.tlsEnabled = true ∨ k.isKerberosEnabled = true := by
  have hbootstrap : .bootstrap ∈ k.listenerNames → k.isKerberosEnabled = true := by
    unfold listenerNames clientListener
    split_ifs <;> simp_all
  cases n with
  | internal => simp only [protocolOf, KafkaListenerProtocol.encrypted]; split_ifs <;> simp_all
  | bootstrap => exact iff_of_true rfl (.inr (hbootstrap hn))
  | client | clientAuth =>
      simp only [protocolOf, KafkaListenerProtocol.encrypted]
      split_ifs <;> simp_all

/-- A listener binds its secure port exactly if it is encrypted. -/
def PortMatches (n : KafkaListenerName) : Prop :=
  k.portOf n = n.securePort ↔ (k.protocolOf n).encrypted = true

/-- For the listeners of clients it depends on the server secret class. -/
theorem portMatches_iff (ha : k.tlsClientAuthenticationClass = "") :
    (∀ n ∈ k.listenerNames, k.PortMatches n) ↔
      (k.isKerberosEnabled = true → k.tlsServerSecretClass ≠ "") := by
  have htls : k.tlsEnabled = true ↔ k.tlsServerSecretClass ≠ "" := by
    simp [tlsEnabled, ha]
  constructor
  · intro h hk
    have hclient : .client ∈ k.listenerNames := by simp [listenerNames, clientListener, ha]
    have hmatch := h .client hclient
    rw [PortMatches, k.portOf_eq_securePort_iff, k.protocolOf_encrypted_iff hclient] at hmatch
    exact htls.mp (hmatch.mpr (.inr hk))
  · intro h n hn
    have hor : k.tlsEnabled = true ↔ k.tlsEnabled = true ∨ k.isKerberosEnabled = true :=
      ⟨.inl, fun ht => ht.elim id (fun hk => htls.mpr (h hk))⟩
    rw [PortMatches, k.portOf_eq_securePort_iff, k.protocolOf_encrypted_iff hn]
    cases n with
    | internal => exact Iff.rfl
    | bootstrap | client | clientAuth => exact hor

/-- The port declared under the secure name is the client port, and it is declared with TLS. -/
theorem containerPorts_secure {p : ContainerPort} (hp : p ∈ kafkaContainerPorts k)
    (hname : p.name = secureClientPortName) :
    k.tlsEnabled = true ∧ p.containerPort = k.clientPort := by
  unfold kafkaContainerPorts at hp
  have hmem : p = ⟨k.clientPortName, k.clientPort, "TCP"⟩ := by
    split_ifs at hp
    all_goals
      simp only [List.cons_append, List.nil_append, List.mem_cons, List.not_mem_nil, or_false] at hp
    · rcases hp with rfl | rfl | rfl
      · rfl
      · exact absurd hname (by decide)
      · exact absurd (show KafkaOperator.bootstrapPortName = _ from hname) (by decide)
    · rcases hp with rfl | rfl
      · rfl
      · exact absurd hname (by decide)
  subst hmem
  refine ⟨?_, rfl⟩
  by_contra htls
  rw [clientPortName, if_neg htls] at hname
  exact absurd (show KafkaOperator.clientPortName = _ from hname) (by decide)

theorem clientPort_mem_containerPorts :
    ⟨k.clientPortName, k.clientPort, "TCP"⟩ ∈ kafkaContainerPorts k := by
  unfold kafkaContainerPorts
  split_ifs <;> simp

end KafkaSecurity

/-! ### The listener configuration -/

/-- The protocol map gives the listener a protocol that encrypts. -/
def KafkaListenerConfig.Encrypted (c : KafkaListenerConfig) (n : KafkaListenerName) : Prop :=
  ∃ p, c.listenerSecurityProtocolMap.get n = some p ∧ p.encrypted = true

/-- Whoever picks a port picks the right protocol: each listener binds the secure variant of its
port exactly if the protocol map encrypts it and the plain variant exactly if the map says
`PLAINTEXT`, and the port that `CLIENT` binds is declared under the secure name exactly if
`CLIENT` is encrypted. -/
structure PortsMatch (c : KafkaListenerConfig) (ports : List ContainerPort) : Prop where
  secure : ∀ l ∈ c.listeners, l.port = toString l.name.securePort ↔ c.Encrypted l.name
  plain : ∀ l ∈ c.listeners, l.port = toString l.name.plainPort ↔
    c.listenerSecurityProtocolMap.get l.name = some .plaintext
  portName : (∃ p ∈ ports, p.name = secureClientPortName ∧
    ∃ l ∈ c.listeners, l.name = .client ∧ l.port = toString p.containerPort) ↔ c.Encrypted .client

namespace KafkaSecurity

variable (k : KafkaSecurity) (ns obj : String)

theorem encrypted_iff {n : KafkaListenerName} (hn : n ∈ k.listenerNames) :
    (getKafkaListenerConfig ns k obj).Encrypted n ↔ (k.protocolOf n).encrypted = true := by
  unfold KafkaListenerConfig.Encrypted
  rw [k.getKafkaListenerConfig_protocol, if_pos hn]
  constructor
  · rintro ⟨p, hp, henc⟩
    rwa [Option.some.inj hp]
  · intro henc
    exact ⟨_, rfl, henc⟩

theorem plaintext_iff {n : KafkaListenerName} (hn : n ∈ k.listenerNames) :
    (getKafkaListenerConfig ns k obj).listenerSecurityProtocolMap.get n = some .plaintext ↔
      ¬ (k.protocolOf n).encrypted = true := by
  rw [k.getKafkaListenerConfig_protocol, if_pos hn, Option.some.injEq]
  cases k.protocolOf n <;> decide

/-- The three requirements come down to the ports that the listeners bind. -/
theorem portsMatch_iff_portMatches (ha : k.tlsClientAuthenticationClass = "") :
    PortsMatch (getKafkaListenerConfig ns k obj) (kafkaContainerPorts k) ↔
      ∀ n ∈ k.listenerNames, k.PortMatches n := by
  have hl := k.getKafkaListenerConfig_listeners ns obj
  have hclient : .client ∈ k.listenerNames := by simp [listenerNames, clientListener, ha]
  constructor
  · intro h n hn
    have hmem : ⟨n, listenerLocalAddress, toString (k.portOf n)⟩ ∈
        (getKafkaListenerConfig ns k obj).listeners := by
      rw [hl]
      exact List.mem_map_of_mem hn
    have hsecure := h.secure _ hmem
    rwa [toString_port_inj, k.encrypted_iff ns obj hn] at hsecure
  · intro h
    constructor
    case secure =>
      rw [hl]
      intro l hmem
      obtain ⟨n, hn, rfl⟩ := List.mem_map.mp hmem
      rw [toString_port_inj, k.encrypted_iff ns obj hn]
      exact h n hn
    case plain =>
      rw [hl]
      intro l hmem
      obtain ⟨n, hn, rfl⟩ := List.mem_map.mp hmem
      rw [toString_port_inj, k.plaintext_iff ns obj hn, k.portOf_eq_plainPort_iff]
      exact not_congr (h n hn)
    case portName =>
      rw [k.encrypted_iff ns obj hclient, ← (show _ ↔ _ from h .client hclient), k.portOf_eq_securePort_iff]
      constructor
      · rintro ⟨p, hp, hname, -⟩
        exact (k.containerPorts_secure hp hname).1
      · intro htls
        refine ⟨_, k.clientPort_mem_containerPorts, if_pos htls, ?_⟩
        rw [hl]
        exact ⟨_, List.mem_map_of_mem hclient, rfl, rfl⟩

end KafkaSecurity

/-- **Secure port if and only if secure protocol**, exactly for the clusters that do not enable
Kerberos or set the server secret class. -/
theorem ports_match_iff (cluster : KafkaCluster) (k : KafkaSecurity)
    (hk : newKafkaSecurity cluster = .ok k) (kubeNamespace objectName : String) :
    PortsMatch (getKafkaListenerConfig kubeNamespace k objectName) (kafkaContainerPorts k) ↔
      (k.isKerberosEnabled = true → k.tlsServerSecretClass ≠ "") := by
  have ha := newKafkaSecurity_clientAuth hk
  rw [k.portsMatch_iff_portMatches kubeNamespace objectName ha]
  exact k.portMatches_iff ha

theorem ports_match_iff_kerberosOnly :
    ¬ PortsMatch (getKafkaListenerConfig "default" kerberosOnlySecurity
      "kafkacluster-sample-broker-default") (kafkaContainerPorts kerberosOnlySecurity) := by
  rw [ports_match_iff kerberosOnlyCluster kerberosOnlySecurity rfl]
  decide

/-- A cluster with Kerberos and no TLS settings encrypts `CLIENT` and `BOOTSTRAP` on the plain
ports 9092 and 9094, and declares 9092 under the plain name. -/
theorem kerberosOnly_plain_ports :
    newKafkaSecurity kerberosOnlyCluster = .ok kerberosOnlySecurity ∧
    (getKafkaListenerConfig "default" kerberosOnlySecurity
      "kafkacluster-sample-broker-default").listeners =
      [⟨.client, "0.0.0.0", "9092"⟩, ⟨.internal, "0.0.0.0", "19093"⟩,
        ⟨.bootstrap, "0.0.0.0", "9094"⟩] ∧
    (getKafkaListenerConfig "default" kerberosOnlySecurity
      "kafkacluster-sample-broker-default").listenerSecurityProtocolMap.get .client = some .ssl ∧
    (getKafkaListenerConfig "default" kerberosOnlySecurity
      "kafkacluster-sample-broker-default").listenerSecurityProtocolMap.get .bootstrap =
      some .ssl ∧
    (kafkaContainerPorts kerberosOnlySecurity).map (fun p => (p.name, p.containerPort)) =
      [("kafka", 9092), ("metrics", 9606), ("bootstrap", 9094)] := by
  refine ⟨rfl, ?_, rfl, rfl, ?_⟩
  · decide
  · decide

end KafkaOperator
