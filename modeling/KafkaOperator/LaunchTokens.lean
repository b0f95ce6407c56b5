import KafkaOperator.Command
import KafkaOperator.Shell

/-! # The arguments of the launch command

The launch command is a text that a shell cuts into arguments.  The values in it stand in double
quotes, contain expansions that the shell replaces, and for Kerberos contain quotes of their own,
escaped twice: in the source and for the shell.

`launch_tokens` says which arguments the shell sees.  The parts of the command that depend on the
cluster are shown to quote themselves (`Quotes s s`), the JAAS entries to quote the text with plain
quotes (`quotes_jaas`), and the command is then read option by option (`Lexed.override`). -/

namespace KafkaOperator

open Go Shell

/-! ### Texts that stand for themselves -/

/-- A lowercase letter, a digit or a hyphen. -/
def isLabelChar (c : Char) : Bool := c.isLower || c.isDigit || c = '-'

theorem not_isActive_of_isLabelChar {c : Char} (h : isLabelChar c = true) : (!isActive c) = true := by
  have hactive : "$`\"\\".toList.all (fun x => !isLabelChar x) = true := by decide
  rw [Bool.not_eq_true', isActive, decide_eq_false_iff_not]
  intro hc
  have hnot := List.all_eq_true.mp hactive c hc
  rw [h] at hnot
  cases hnot

theorem quotes_label {s : String} (h : ∀ c ∈ s.toList, isLabelChar c = true) : Quotes s s :=
  Quotes.text (List.all_eq_true.mpr (fun c hc => not_isActive_of_isLabelChar (h c hc)))

theorem quotes_port (n : ℕ) : Quotes (toString n) (toString n) := by
  apply quotes_label
  intro c hc
  simp [isLabelChar, isDigit_of_mem_repr hc]

/-- The command of the listener volume: its path has no letter with a meaning for the shell. -/
theorem quotes_cat {path : String} (h : path.toList.all isCommandPart = true) :
    Quotes ("$(cat " ++ path ++ ")") ("$(cat " ++ path ++ ")") := by
  have htext : "$(cat " ++ path ++ ")" =
      "$" ++ String.singleton '(' ++ ("cat " ++ path) ++ String.singleton ')' := by
    have hopen : "$(cat " = "$" ++ String.singleton '(' ++ "cat " := rfl
    have hclose : ")" = String.singleton ')' := rfl
    simp only [hopen, hclose, String.append_assoc]
  have hcat : "cat ".toList.all isCommandPart = true := by decide
  rw [htext]
  apply Quotes.command
  rw [String.toList_append, List.all_append, hcat, h]
  rfl

theorem quotes_nodeAddress_broker : Quotes (nodeAddressCmd kubedoopListenerBrokerDir)
    (nodeAddressCmd kubedoopListenerBrokerDir) :=
  quotes_cat (by decide)

theorem quotes_nodeAddress_bootstrap : Quotes (nodeAddressCmd kubedoopListenerBootstrapDir)
    (nodeAddressCmd kubedoopListenerBootstrapDir) :=
  quotes_cat (by decide)

theorem quotes_nodePort (k : KafkaSecurity) :
    Quotes (nodePortCmd kubedoopListenerBrokerDir k.clientPortName)
      (nodePortCmd kubedoopListenerBrokerDir k.clientPortName) := by
  unfold KafkaSecurity.clientPortName
  split <;> exact quotes_cat (by decide)

theorem quotes_podFqdn {ns obj : String} (hns : ∀ c ∈ ns.toList, isLabelChar c = true)
    (hobj : ∀ c ∈ obj.toList, isLabelChar c = true) :
    Quotes (podFqdn ns obj) (podFqdn ns obj) := by
  have hname := (Quotes.parameter (c := 'P') (by decide)).append
    (Quotes.text (s := "OD_NAME.") (by decide))
  simp only [String.reduceSingleton, String.reduceAppend] at hname
  have hdot : Quotes "." "." := Quotes.text (by decide)
  have hdomain : Quotes ".svc.cluster.local" ".svc.cluster.local" := Quotes.text (by decide)
  exact (((hname.append (quotes_label hobj)).append hdot).append (quotes_label hns)).append hdomain

/-! ### The three texts of the listener configuration -/

theorem KafkaListenerName.quotes (n : KafkaListenerName) : Quotes n.string n.string :=
  Quotes.text (by cases n <;> decide)

theorem KafkaListenerProtocol.quotes (p : KafkaListenerProtocol) : Quotes p.string p.string :=
  Quotes.text (by cases p <;> decide)

theorem quotes_comma : Quotes "," "," := Quotes.text (by decide)

theorem quotes_colon : Quotes ":" ":" := Quotes.text (by decide)

theorem KafkaListener.quotes {l : KafkaListener} (hhost : Quotes l.host l.host)
    (hport : Quotes l.port l.port) : Quotes l.string l.string := by
  have hsep : Quotes "://" "://" := Quotes.text (by decide)
  exact (((l.name.quotes.append hsep).append hhost).append quotes_colon).append hport

/-- The protocol map, in whatever order it is visited. -/
theorem quotes_protocolMapString (order : List (KafkaListenerName × KafkaListenerProtocol)) :
    Quotes (KafkaListenerConfig.listenerSecurityProtocolMapString order)
      (KafkaListenerConfig.listenerSecurityProtocolMapString order) := by
  apply quotes_comma.intercalate
  intro x hx
  obtain ⟨e, -, rfl⟩ := List.mem_map.mp hx
  exact (e.1.quotes.append quotes_colon).append e.2.quotes

namespace KafkaSecurity

variable (k : KafkaSecurity) (ns obj : String)

theorem quotes_listenersString : Quotes (getKafkaListenerConfig ns k obj).listenersString
    (getKafkaListenerConfig ns k obj).listenersString := by
  have hlocal : Quotes listenerLocalAddress listenerLocalAddress := Quotes.text (by decide)
  apply quotes_comma.intercalate
  intro x hx
  obtain ⟨l, hl, rfl⟩ := List.mem_map.mp hx
  rw [k.getKafkaListenerConfig_listeners] at hl
  obtain ⟨n, -, rfl⟩ := List.mem_map.mp hl
  exact KafkaListener.quotes hlocal (quotes_port _)

variable {ns obj}

theorem quotes_advertised (hns : ∀ c ∈ ns.toList, isLabelChar c = true)
    (hobj : ∀ c ∈ obj.toList, isLabelChar c = true) (n : KafkaListenerName) :
    Quotes (k.advertised ns obj n).string (k.advertised ns obj n).string := by
  cases n with
  | internal => exact KafkaListener.quotes (quotes_podFqdn hns hobj) (quotes_port _)
  | client | clientAuth | bootstrap =>
      exact KafkaListener.quotes quotes_nodeAddress_broker (quotes_nodePort k)

theorem quotes_advertisedListenersString (hns : ∀ c ∈ ns.toList, isLabelChar c = true)
    (hobj : ∀ c ∈ obj.toList, isLabelChar c = true) :
    Quotes (getKafkaListenerConfig ns k obj).advertisedListenersString
      (getKafkaListenerConfig ns k obj).advertisedListenersString := by
  apply quotes_comma.intercalate
  intro x hx
  obtain ⟨l, hl, rfl⟩ := List.mem_map.mp hx
  rw [k.getKafkaListenerConfig_advertised] at hl
  obtain ⟨n, -, rfl⟩ := List.mem_map.mp hl
  exact k.quotes_advertised hns hobj n

end KafkaSecurity

/-! ### The JAAS entries -/

/-- The JAAS entry of a listener as the broker is to get it. -/
def jaasEntry (listener address : String) : String :=
  "listener.name." ++ listener ++ ".gssapi.sasl.jaas.config="
    ++ ("com.sun.security.auth.module.Krb5LoginModule required useKeyTab=true storeKey=true isInitiator=false keyTab=\"/kubedoop/kerberos/keytab\" principal=\""
    ++ "kafka" ++ "/" ++ address ++ "@$KERBEROS_REALM\";")

/-- The same with the quotes escaped. -/
def jaasEscaped (listener address : String) : String :=
  KafkaContainerBuilder.jaasKey listener
    ++ ("com.sun.security.auth.module.Krb5LoginModule required useKeyTab=true storeKey=true isInitiator=false keyTab=\\\"/kubedoop/kerberos/keytab\\\" principal=\\\""
    ++ "kafka" ++ "/" ++ address ++ "@$KERBEROS_REALM\\\";")

theorem quotes_jaas (listener : String) {address : String}
    (hlistener : ∀ c ∈ listener.toList, isLabelChar c = true) (haddress : Quotes address address) :
    Quotes (jaasEscaped listener address) (jaasEntry listener address) := by
  have hquote : Quotes "\\\"" "\"" := Quotes.escape (c := '"') (by decide)
  have hkey : Quotes (KafkaContainerBuilder.jaasKey listener) (KafkaContainerBuilder.jaasKey listener) :=
    ((Quotes.text (s := "listener.name.") (by decide)).append (quotes_label hlistener)).append
      (Quotes.text (s := ".gssapi.sasl.jaas.config=") (by decide))
  have hmodule := (((((Quotes.text (s := "com.sun.security.auth.module.Krb5LoginModule required useKeyTab=true storeKey=true isInitiator=false keyTab=")
    (by decide)).append hquote).append
    (Quotes.text (s := "/kubedoop/kerberos/keytab") (by decide))).append hquote).append
    (Quotes.text (s := " principal=") (by decide))).append hquote
  simp only [String.reduceAppend] at hmodule
  have hrealm := ((((Quotes.text (s := "@") (by decide)).append
    (Quotes.parameter (c := 'K') (by decide))).append
    (Quotes.text (s := "ERBEROS_REALM") (by decide))).append hquote).append
    (Quotes.text (s := ";") (by decide))
  simp only [String.reduceSingleton, String.reduceAppend] at hrealm
  have hservice : Quotes "kafka" "kafka" := Quotes.text (by decide)
  have hslash : Quotes "/" "/" := Quotes.text (by decide)
  exact hkey.append
    ((((hmodule.append hservice).append hslash).append haddress).append hrealm)

/-! ### Reading the command -/

/-- An option with its value, as the source writes it. -/
def overrideText (value : String) : String := " --override \"" ++ value ++ "\""

/-- The two arguments it gives. -/
def overridePair (value : String) : List Token := [.word "--override", .word value]

theorem lexed_override {s : String} {ts : List Token} (h : Lexed s ts) {v t : String}
    (hv : Quotes v t) : Lexed (s ++ overrideText v) (ts ++ overridePair t) := by
  have hflag : isWord "--override" = true := by decide
  have hread := (h.word hflag).quoted hv
  have htext : s ++ overrideText v = s ++ " " ++ "--override" ++ " " ++ ("\"" ++ v ++ "\"") := by
    have hopen : " --override \"" = " " ++ "--override" ++ " " ++ "\"" := by
      simp only [String.reduceAppend]
    simp only [overrideText, hopen, String.append_assoc]
  rw [htext, overridePair, List.append_cons]
  exact hread

theorem serverCommand_eq (listeners advertised protocols : String) :
    KafkaContainerBuilder.serverCommand listeners advertised protocols =
      "bin/kafka-server-start.sh" ++ " " ++ "/kubedoop/config/server.properties"
        ++ overrideText "zookeeper.connect=$\x7bZOOKEEPER\x7d"
        ++ overrideText ("listeners=" ++ listeners)
        ++ overrideText ("advertised.listeners=" ++ advertised)
        ++ overrideText ("listener.security.protocol.map=" ++ protocols) ++ " " := by
  -- cut the literals of both sides at the same places
  have hscript : "bin/kafka-server-start.sh " = "bin/kafka-server-start.sh" ++ " " := by
    simp only [String.reduceAppend]
  have hfile : "/kubedoop/config/server.properties" =
      "/kubedoop" ++ "/config" ++ "/" ++ "server.properties" := by
    simp only [String.reduceAppend]
  have hzookeeper : " --override \"zookeeper.connect=$\x7bZOOKEEPER\x7d\" --override \"listeners=" =
      " --override \"" ++ "zookeeper.connect=$\x7bZOOKEEPER\x7d" ++ "\"" ++ " --override \""
        ++ "listeners=" := by
    simp only [String.reduceAppend]
  have hadvertised : "\" --override \"advertised.listeners=" =
      "\"" ++ " --override \"" ++ "advertised.listeners=" := by
    simp only [String.reduceAppend]
  have hprotocols : "\" --override \"listener.security.protocol.map=" =
      "\"" ++ " --override \"" ++ "listener.security.protocol.map=" := by
    simp only [String.reduceAppend]
  have hend : "\" " = "\"" ++ " " := by simp only [String.reduceAppend]
  unfold KafkaContainerBuilder.serverCommand overrideText kubedoopConfigDir kubedoopRoot serverFileName
  simp only [hscript, hfile, hzookeeper, hadvertised, hprotocols, hend, String.append_assoc]

theorem quotes_zookeeper : Quotes "zookeeper.connect=$\x7bZOOKEEPER\x7d"
    "zookeeper.connect=$\x7bZOOKEEPER\x7d" := by
  have h := (Quotes.text (s := "zookeeper.connect=") (by decide)).append
    (Quotes.brace (show "ZOOKEEPER".toList.all isNamePart = true by decide))
  simpa only [String.reduceSingleton, String.reduceAppend] using h

/-- The words of the part that does not depend on Kerberos. -/
theorem lexed_serverCommand {listeners advertised protocols : String}
    (hl : Quotes listeners listeners) (ha : Quotes advertised advertised)
    (hp : Quotes protocols protocols) :
    Lexed (KafkaContainerBuilder.serverCommand listeners advertised protocols)
      ([.word "bin/kafka-server-start.sh", .word "/kubedoop/config/server.properties"]
        ++ overridePair "zookeeper.connect=$\x7bZOOKEEPER\x7d"
        ++ overridePair ("listeners=" ++ listeners)
        ++ overridePair ("advertised.listeners=" ++ advertised)
        ++ overridePair ("listener.security.protocol.map=" ++ protocols)) := by
  have hscript : isWord "bin/kafka-server-start.sh" = true := by decide
  have hfile : isWord "/kubedoop/config/server.properties" = true := by decide
  have hhead := (Lexed.first hscript).word hfile
  have hlisteners := (Quotes.text (s := "listeners=") (by decide)).append hl
  have hadvertised := (Quotes.text (s := "advertised.listeners=") (by decide)).append ha
  have hprotocols := (Quotes.text (s := "listener.security.protocol.map=") (by decide)).append hp
  rw [serverCommand_eq]
  exact (lexed_override (lexed_override (lexed_override (lexed_override hhead quotes_zookeeper)
    hlisteners) hadvertised) hprotocols).blank

theorem jaasOverride_eq (listener address : String) :
    KafkaContainerBuilder.jaasOverride listener KafkaRole.kerberosServiceName address =
      overrideText (jaasEscaped listener address) := by
  have hend : "@$KERBEROS_REALM\\\";\"" = "@$KERBEROS_REALM\\\";" ++ "\"" := rfl
  have hservice : KafkaRole.kerberosServiceName = "kafka" := rfl
  simp only [KafkaContainerBuilder.jaasOverride, overrideText, jaasEscaped, hservice, hend,
    String.append_assoc]

/-- The two pairs that Kerberos adds. -/
theorem lexed_kerberosArgs {s : String} {ts : List Token} (h : Lexed s ts) :
    Lexed (s ++ KafkaContainerBuilder.kerberosArgs)
      (ts ++ overridePair (jaasEntry "client" (nodeAddressCmd kubedoopListenerBrokerDir))
        ++ overridePair (jaasEntry "bootstrap" (nodeAddressCmd kubedoopListenerBootstrapDir))) := by
  have hclient := quotes_jaas "client" (List.all_eq_true.mp (by decide)) quotes_nodeAddress_broker
  have hbootstrap := quotes_jaas "bootstrap" (List.all_eq_true.mp (by decide)) quotes_nodeAddress_bootstrap
  rw [KafkaContainerBuilder.kerberosArgs, jaasOverride_eq, jaasOverride_eq, ← String.append_assoc]
  exact lexed_override (lexed_override h hclient) hbootstrap

/-- The shell runs the command in the background. -/
theorem tokenize_background {s : String} {ts : List Token} (h : Lexed s ts) :
    tokenize (s ++ " &") = some (ts ++ [.operator "&"]) := by
  have htext : s ++ " &" = s ++ " " ++ String.singleton '&' := by
    rw [String.append_assoc]
    rfl
  rw [htext]
  exact h.tokenize_operator (by decide) (by decide)

/-- **The launch command has the intended arguments.**  For all security settings of a cluster and all
names of lowercase letters, digits and hyphens the shell sees the start script, the path of the
properties, one pair for each setting, two more with Kerberos, and an operator.  The entries of the
protocol map may be visited in any order; nothing depends on which they are. -/
theorem launch_tokens (cluster : KafkaCluster) (d : KafkaContainerBuilder)
    (hk : newKafkaSecurity cluster = .ok d.kafkaSecurity) (ns obj : String)
    (hns : ∀ c ∈ ns.toList, isLabelChar c = true) (hobj : ∀ c ∈ obj.toList, isLabelChar c = true)
    (order : List (KafkaListenerName × KafkaListenerProtocol)) :
    let c := getKafkaListenerConfig ns d.kafkaSecurity obj
    let protocols := KafkaListenerConfig.listenerSecurityProtocolMapString order
    ∃ cmd, d.launchCommand c.listenersString c.advertisedListenersString protocols = .ok cmd ∧
      tokenize cmd = some
        ([.word "bin/kafka-server-start.sh", .word "/kubedoop/config/server.properties"]
          ++ overridePair "zookeeper.connect=$\x7bZOOKEEPER\x7d"
          ++ overridePair ("listeners=" ++ c.listenersString)
          ++ overridePair ("advertised.listeners=" ++ c.advertisedListenersString)
          ++ overridePair ("listener.security.protocol.map=" ++ protocols)
          ++ (if d.kafkaSecurity.isKerberosEnabled then
              overridePair (jaasEntry "client" (nodeAddressCmd kubedoopListenerBrokerDir))
                ++ overridePair (jaasEntry "bootstrap" (nodeAddressCmd kubedoopListenerBootstrapDir))
            else [])
          ++ [.operator "&"]) := by
  intro c protocols
  have hserver := lexed_serverCommand (d.kafkaSecurity.quotes_listenersString ns obj)
    (d.kafkaSecurity.quotes_advertisedListenersString hns hobj) (quotes_protocolMapString order)
  cases henabled : d.kafkaSecurity.isKerberosEnabled with
  | false =>
      refine ⟨_, d.launchCommand_plain henabled _ _ _, ?_⟩
      rw [if_neg Bool.false_ne_true, List.append_nil]
      exact tokenize_background hserver
  | true =>
      have hauth := d.getKerbersoAuth_of_newKafkaSecurity hk henabled
      refine ⟨_, d.launchCommand_kerberos henabled hauth _ _ _, ?_⟩
      rw [if_pos rfl, ← List.append_assoc]
      exact tokenize_background (lexed_kerberosArgs hserver)

open KafkaContainerBuilder in
/-- With Kerberos there are six pairs. -/
theorem launch_tokens_kerberos :
    let d := newKafkaContainer "kafka-znode" kerberosSecurity "default" "simple-broker-default"
    let c := getKafkaListenerConfig "default" kerberosSecurity "simple-broker-default"
    newKafkaSecurity kerberosCluster = .ok d.kafkaSecurity ∧
      ∃ cmd tokens, d.launchCommand c.listenersString c.advertisedListenersString
          "CLIENT:SSL,INTERNAL:SSL,BOOTSTRAP:SSL" = .ok cmd ∧
        tokenize cmd = some tokens ∧ tokens.length = 15 ∧ tokens.getLast? = some (.operator "&") := by
  intro d c
  obtain ⟨cmd, hcmd, htokens⟩ := launch_tokens kerberosCluster d rfl "default" "simple-broker-default"
    (List.all_eq_true.mp (by decide)) (List.all_eq_true.mp (by decide)) [(.client, .ssl), (.internal, .ssl), (.bootstrap, .ssl)]
  exact ⟨rfl, cmd, _, hcmd, htokens, rfl, rfl⟩

end KafkaOperator
