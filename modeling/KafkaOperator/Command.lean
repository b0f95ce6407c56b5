import KafkaOperator.GoStrings
import KafkaOperator.Container

/-! # The command of the kafka container

Two questions about the shell command the brokers are started with.

* Is it the same on every run?  The listener strings are, but the protocol map is rendered in
  the order in which `range` visits it, and stands in the command as it was rendered
  (`commandArgs_context`).
* Does it protect the listeners it configures for Kerberos?  It sets a JAAS entry for them,
  but the protocol map has no SASL protocol at all (`protocol_not_sasl`). -/

namespace KafkaOperator

open Go

/-! ### The protocol map in the command -/

namespace KafkaSecurity

variable (k : KafkaSecurity)

/-- The entry of a listener in the protocol map. -/
def protocolEntry (n : KafkaListenerName) : KafkaListenerName × KafkaListenerProtocol :=
  (n, k.protocolOf n)

/-- The listeners after the first two. -/
def furtherListeners : List KafkaListenerName := if k.isKerberosEnabled then [.bootstrap] else []

/-- The protocol map can be visited in the order of the listeners. -/
theorem protocolMap_ranges (ns obj : String) :
    (getKafkaListenerConfig ns k obj).listenerSecurityProtocolMap.Ranges
      (k.listenerNames.map k.protocolEntry) := by
  constructor
  · rw [List.map_map]
    exact (List.map_id k.listenerNames).symm ▸ k.listenerNames_nodup
  · intro n p
    rw [k.getKafkaListenerConfig_protocol]
    simp only [List.mem_map, protocolEntry, Prod.mk.injEq]
    constructor
    · rintro ⟨m, hm, rfl, rfl⟩
      exact if_pos hm
    · intro h
      split_ifs at h with hn
      exact ⟨n, hn, rfl, Option.some.inj h⟩

/-- It can also be visited with the first two listeners exchanged. -/
theorem protocolMap_ranges_swap (ns obj : String) :
    (getKafkaListenerConfig ns k obj).listenerSecurityProtocolMap.Ranges
      ((.internal :: k.clientListener :: k.furtherListeners).map k.protocolEntry) :=
  (k.protocolMap_ranges ns obj).perm ((List.Perm.swap _ _ _).map _)

/-- The two orders are rendered differently: one text starts with `C`, the other with `I`. -/
theorem protocolMapString_swap_ne :
    KafkaListenerConfig.listenerSecurityProtocolMapString (k.listenerNames.map k.protocolEntry) ≠
      KafkaListenerConfig.listenerSecurityProtocolMapString
        ((.internal :: k.clientListener :: k.furtherListeners).map k.protocolEntry) := by
  intro h
  have hl := congrArg (fun s => s.toList.head?) h
  unfold KafkaListenerConfig.listenerSecurityProtocolMapString listenerNames clientListener at hl
  by_cases hc : k.tlsClientAuthenticationClass = "" <;>
    simp [hc, protocolEntry, KafkaListenerName.string] at hl

end KafkaSecurity

namespace KafkaContainerBuilder

variable (d : KafkaContainerBuilder)

/-- The overrides for Kerberos: a JAAS entry for each of two listeners. -/
def kerberosArgs : String :=
  jaasOverride "client" KafkaRole.kerberosServiceName (nodeAddressCmd kubedoopListenerBrokerDir)
    ++ jaasOverride "bootstrap" KafkaRole.kerberosServiceName
      (nodeAddressCmd kubedoopListenerBootstrapDir)

theorem launchCommand_plain (hk : d.kafkaSecurity.isKerberosEnabled = false)
    (listeners advertised protocols : String) :
    d.launchCommand listeners advertised protocols =
      .ok (serverCommand listeners advertised protocols ++ " &") := by
  simp [launchCommand, hk]

theorem launchCommand_nilAuth (hk : d.kafkaSecurity.isKerberosEnabled = true)
    (ha : d.getKerbersoAuth = none) (listeners advertised protocols : String) :
    d.launchCommand listeners advertised protocols = .panic := by
  simp [launchCommand, hk, ha, Outcome.deref]

theorem launchCommand_kerberos (hk : d.kafkaSecurity.isKerberosEnabled = true)
    {a : KerberosAuthentication} (ha : d.getKerbersoAuth = some a)
    (listeners advertised protocols : String) :
    d.launchCommand listeners advertised protocols =
      .ok (serverCommand listeners advertised protocols ++ kerberosArgs ++ " &") := by
  simp [launchCommand, hk, ha, Outcome.deref, kerberosArgs]

/-- The protocol map stands in the launch command as it was rendered. -/
theorem launchCommand_context (listeners advertised : String) :
    (∀ protocols, d.launchCommand listeners advertised protocols = .panic) ∨
      ∃ p q, ∀ protocols, d.launchCommand listeners advertised protocols =
        .ok (p ++ protocols ++ q) := by
  obtain ⟨p, hp⟩ : ∃ p, ∀ protocols,
      serverCommand listeners advertised protocols = p ++ protocols ++ "\" " :=
    ⟨_, fun _ => rfl⟩
  cases hk : d.kafkaSecurity.isKerberosEnabled with
  | false =>
      refine .inr ⟨p, "\" " ++ " &", fun protocols => ?_⟩
      rw [d.launchCommand_plain hk, hp, String.append_assoc]
  | true =>
      cases ha : d.getKerbersoAuth with
      | none => exact .inl (d.launchCommand_nilAuth hk ha listeners advertised)
      | some a =>
          refine .inr ⟨p, "\" " ++ kerberosArgs ++ " &", fun protocols => ?_⟩
          rw [d.launchCommand_kerberos hk ha, hp]
          simp only [String.append_assoc]

/-- So it does in the arguments of the container. -/
theorem commandArgs_context (op : OperatorGo) :
    (∀ order, d.commandArgs op order = .panic) ∨ ∃ p q, ∀ order, d.commandArgs op order =
      .ok [p ++ KafkaListenerConfig.listenerSecurityProtocolMapString order ++ q] := by
  unfold commandArgs
  generalize getKafkaListenerConfig d.kubeNamespace d.kafkaSecurity d.groupSvcName = c
  rcases d.launchCommand_context c.listenersString c.advertisedListenersString with h | ⟨p, q, h⟩
  · exact .inl (fun order => by simp only [h, Outcome.panic_bind])
  · right
    simp only [h, Outcome.ok_bind, Outcome.pure_eq]
    generalize (if d.kafkaSecurity.isKerberosEnabled = true then _ else _ : List String) = args
    obtain ⟨p', q', h'⟩ := intercalate_context "\n" args
      ["wait_for_termination", op.createVectorShutdownFileCommand]
    refine ⟨p' ++ p, q ++ q', fun order => ?_⟩
    rw [h']
    simp only [String.append_assoc]

/-- **The pod command is not stable**: for every builder there are two orders of visiting the
protocol map for which the arguments are not the same text. -/
theorem commandArgs_not_stable (op : OperatorGo) (d : KafkaContainerBuilder) :
    ¬ ∀ o₁ o₂,
      (getKafkaListenerConfig d.kubeNamespace d.kafkaSecurity
        d.groupSvcName).listenerSecurityProtocolMap.Ranges o₁ →
      (getKafkaListenerConfig d.kubeNamespace d.kafkaSecurity
        d.groupSvcName).listenerSecurityProtocolMap.Ranges o₂ →
      ∃ args, d.commandArgs op o₁ = .ok args ∧ d.commandArgs op o₂ = .ok args := by
  intro hstable
  obtain ⟨args, h₁, h₂⟩ := hstable _ _ (d.kafkaSecurity.protocolMap_ranges _ _)
    (d.kafkaSecurity.protocolMap_ranges_swap _ _)
  rcases d.commandArgs_context op with h | ⟨p, q, h⟩
  · rw [h] at h₁
    cases h₁
  · rw [h] at h₁ h₂
    have heq := h₁.trans h₂.symm
    simp only [Outcome.ok.injEq, List.cons.injEq, and_true, append_context_inj] at heq
    exact d.kafkaSecurity.protocolMapString_swap_ne heq

/-- Without any security settings: `CLIENT:PLAINTEXT,INTERNAL:PLAINTEXT` on one run and
`INTERNAL:PLAINTEXT,CLIENT:PLAINTEXT` on another. -/
theorem commandArgs_plaintext_differ :
    let d := newKafkaContainer "kafka-znode" ⟨[], "", "", "", "", none⟩ "default"
      "simple-broker-default"
    let o₁ : List (KafkaListenerName × KafkaListenerProtocol) :=
      [(.client, .plaintext), (.internal, .plaintext)]
    let o₂ : List (KafkaListenerName × KafkaListenerProtocol) :=
      [(.internal, .plaintext), (.client, .plaintext)]
    let protocols := (getKafkaListenerConfig d.kubeNamespace d.kafkaSecurity
      d.groupSvcName).listenerSecurityProtocolMap
    protocols.Ranges o₁ ∧ protocols.Ranges o₂ ∧
      d.commandArgs (.reference fun _ => false) o₁ ≠ d.commandArgs (.reference fun _ => false) o₂ := by
  intro d o₁ o₂ protocols
  refine ⟨d.kafkaSecurity.protocolMap_ranges _ _, d.kafkaSecurity.protocolMap_ranges_swap _ _, ?_⟩
  intro h
  rcases d.commandArgs_context (.reference fun _ => false) with hp | ⟨p, q, hpq⟩
  · have := hp o₁
    simp [commandArgs, d.launchCommand_plain rfl] at this
  · rw [hpq, hpq] at h
    simp only [Outcome.ok.injEq, List.cons.injEq, and_true, append_context_inj] at h
    exact absurd h (by decide)

end KafkaContainerBuilder

/-! ### Kerberos and the protocol map -/

def KafkaListenerProtocol.isSasl (p : KafkaListenerProtocol) : Bool :=
  p.string = "SASL_SSL" || p.string = "SASL_PLAINTEXT"

theorem KafkaListenerProtocol.not_isSasl (p : KafkaListenerProtocol) : p.isSasl = false := by
  cases p <;> decide

/-- The listener is mapped to a SASL protocol. -/
def KafkaSecurity.IsSaslListener (k : KafkaSecurity) (ns obj : String) (n : KafkaListenerName) :
    Prop :=
  ∃ p, (getKafkaListenerConfig ns k obj).listenerSecurityProtocolMap.get n = some p ∧ p.isSasl

/-- No listener of any cluster is. -/
theorem KafkaSecurity.not_isSaslListener (k : KafkaSecurity) (ns obj : String)
    (n : KafkaListenerName) : ¬ k.IsSaslListener ns obj n := by
  rintro ⟨p, -, hp⟩
  rw [p.not_isSasl] at hp
  cases hp

namespace KafkaContainerBuilder

variable (d : KafkaContainerBuilder)

/-- The command has a JAAS entry for the listener, under its name in lower case. -/
def EmitsJaas (cmd : String) (n : KafkaListenerName) : Prop :=
  (jaasKey (toLower n.string)).toList <:+: cmd.toList

/-- The launch command of a Kerberos cluster has an entry for the bootstrap listener. -/
theorem emitsJaas_bootstrap (server : String) :
    EmitsJaas (server ++ kerberosArgs ++ " &") .bootstrap := by
  have hname : toLower KafkaListenerName.bootstrap.string = "bootstrap" := by decide
  have hkey : (jaasKey "bootstrap").toList <:+: (jaasOverride "bootstrap"
      KafkaRole.kerberosServiceName (nodeAddressCmd kubedoopListenerBootstrapDir)).toList :=
    infix_of_eq_append _ _ rfl
  unfold EmitsJaas
  rw [hname]
  refine hkey.trans (infix_of_eq_append (server ++ jaasOverride "client"
    KafkaRole.kerberosServiceName (nodeAddressCmd kubedoopListenerBrokerDir)) " &" ?_)
  simp only [kerberosArgs, String.append_assoc]

/-- Every listener the launch command has a JAAS entry for is a listener of the broker, with a
SASL protocol. -/
def JaasListenersAreSasl : Prop :=
  ∀ order, (getKafkaListenerConfig d.kubeNamespace d.kafkaSecurity
      d.groupSvcName).listenerSecurityProtocolMap.Ranges order →
    ∀ cmd, d.launchCommand
        (getKafkaListenerConfig d.kubeNamespace d.kafkaSecurity d.groupSvcName).listenersString
        (getKafkaListenerConfig d.kubeNamespace d.kafkaSecurity
          d.groupSvcName).advertisedListenersString
        (KafkaListenerConfig.listenerSecurityProtocolMapString order) = .ok cmd →
      ∀ n, EmitsJaas cmd n →
        n ∈ (getKafkaListenerConfig d.kubeNamespace d.kafkaSecurity
          d.groupSvcName).listeners.map (·.name) ∧
        d.kafkaSecurity.IsSaslListener d.kubeNamespace d.groupSvcName n

/-- The listener the brokers talk to each other over has a SASL protocol. -/
def InterBrokerListenerIsSasl : Prop :=
  ∀ n : KafkaListenerName,
    d.kafkaSecurity.configSettings.get interBrokerListenerName = some n.string →
      d.kafkaSecurity.IsSaslListener d.kubeNamespace d.groupSvcName n

theorem getKerbersoAuth_of_newKafkaSecurity {cluster : KafkaCluster}
    (h : newKafkaSecurity cluster = .ok d.kafkaSecurity)
    (hk : d.kafkaSecurity.isKerberosEnabled = true) : d.getKerbersoAuth = some ⟨some ⟨cluster⟩⟩ := by
  simp [getKerbersoAuth, KafkaSecurity.getKerberosAuth, hk, newKafkaSecurity_kerberosAuth h hk]

/-- **Kerberos is never enforced**: for every cluster that enables it, whatever its TLS settings,
a listener with a JAAS entry has no SASL protocol, and neither has the listener between the
brokers. -/
theorem kerberos_not_enforced (cluster : KafkaCluster) (k : KafkaSecurity)
    (h : newKafkaSecurity cluster = .ok k) (hk : k.isKerberosEnabled = true)
    (zookeeper kubeNamespace groupSvcName : String) :
    ¬ (newKafkaContainer zookeeper k kubeNamespace groupSvcName).JaasListenersAreSasl ∧
      ¬ (newKafkaContainer zookeeper k kubeNamespace groupSvcName).InterBrokerListenerIsSasl := by
  constructor
  · intro hsasl
    have ha := getKerbersoAuth_of_newKafkaSecurity
      (newKafkaContainer zookeeper k kubeNamespace groupSvcName) h hk
    obtain ⟨-, hb⟩ := hsasl _ (k.protocolMap_ranges _ _) _ (launchCommand_kerberos _ hk ha _ _ _)
      .bootstrap (emitsJaas_bootstrap _)
    exact k.not_isSaslListener _ _ _ hb
  · intro hsasl
    exact k.not_isSaslListener _ _ _ (hsasl .internal (Map.get_set_self _ _ _))

/-- A cluster with Kerberos and both TLS classes. -/
def kerberosCluster : KafkaCluster :=
  .sample [⟨"kerberos", some ⟨"kerberos"⟩⟩] (some ⟨"tls", "tls", "changeit"⟩) ⟨none, none, none⟩

/-- Its security settings. -/
def kerberosSecurity : KafkaSecurity where
  kafkaAuthentications := [⟨"kerberos", some ⟨"kerberos"⟩⟩]
  resolvedAnthenticationClass := ""
  internalSecretClass := "tls"
  serverSecretClass := "tls"
  sslStorePassword := "changeit"
  kerberosAuth := some ⟨some ⟨kerberosCluster⟩⟩

theorem kerberos_not_enforced_example :
    newKafkaSecurity kerberosCluster = .ok kerberosSecurity ∧
      ¬ (newKafkaContainer "kafka-znode" kerberosSecurity "default"
          "simple-broker-default").JaasListenersAreSasl ∧
      ¬ (newKafkaContainer "kafka-znode" kerberosSecurity "default"
          "simple-broker-default").InterBrokerListenerIsSasl :=
  ⟨rfl, kerberos_not_enforced kerberosCluster kerberosSecurity rfl rfl _ _ _⟩

/-- The listeners of that cluster: the launch command has a JAAS entry for `BOOTSTRAP`, which is
mapped to `SSL`, as is the `INTERNAL` listener between the brokers. -/
theorem kerberosCluster_plain_ssl :
    let d := newKafkaContainer "kafka-znode" kerberosSecurity "default" "simple-broker-default"
    let c := getKafkaListenerConfig "default" kerberosSecurity "simple-broker-default"
    newKafkaSecurity kerberosCluster = .ok kerberosSecurity ∧
      (∃ cmd, d.launchCommand c.listenersString c.advertisedListenersString
          "CLIENT:SSL,INTERNAL:SSL,BOOTSTRAP:SSL" = .ok cmd ∧ EmitsJaas cmd .bootstrap) ∧
      c.listenerSecurityProtocolMap.get .bootstrap = some .ssl ∧
      kerberosSecurity.configSettings.get "sasl.mechanism.inter.broker.protocol" = some "GSSAPI" ∧
      kerberosSecurity.configSettings.get interBrokerListenerName = some "INTERNAL" ∧
      c.listenerSecurityProtocolMap.get .internal = some .ssl := by
  refine ⟨rfl, ⟨_, launchCommand_kerberos _ rfl rfl _ _ _, emitsJaas_bootstrap _⟩, rfl, ?_, rfl, rfl⟩
  decide

end KafkaContainerBuilder

end KafkaOperator
