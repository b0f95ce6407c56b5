import KafkaOperator.LaunchTokens
import KafkaOperator.ListenerText
import KafkaOperator.PodReferences
import KafkaOperator.ShellExpansion

/-! # What a broker is started with

The operator writes a script for the brokers of a role group; a shell runs it in each pod.  The
script leaves to the pod what differs between them: the variables of `ContainerEnv`, the files of the
mounted volumes and the realm of the mounted `krb5.conf`.

`Pod` is what the outside gives to a pod: its name, the ConfigMaps and the content of its volumes.
`Pod.context` is what the shell finds in the kafka container: the environment that the container
builder asks for (`Pod.env`), the files under the mounts of the builder (`Pod.file`), and the variable
that the script exports before it launches the broker.

`broker_arguments` says what the broker is started with.  Every expansion of the launch command has a
value: no variable is unset and no file lies outside of the mounts.  The listener configuration that
the operator rendered as text is, once the shell is done, the text of the listeners with the addresses
of this pod in them, and reading that text gives these listeners back. -/

namespace KafkaOperator

open Go Shell

/-- The search finds an element that is the only one with the property. -/
theorem find?_of_unique {α : Type} {p : α → Bool} {l : List α} {a : α} (ha : a ∈ l) (hp : p a = true)
    (hunique : ∀ x ∈ l, p x = true → x = a) : l.find? p = some a := by
  have hfound : (l.find? p).isSome := List.find?_isSome.mpr ⟨a, ha, hp⟩
  obtain ⟨x, hx⟩ := Option.isSome_iff_exists.mp hfound
  have hxa : x = a := hunique x (List.mem_of_find?_eq_some hx) (List.find?_some hx)
  rw [hx, hxa]

/-! ### The pod -/

structure Pod where
  podName : String
  hostIP : String
  /-- The value of a key of a ConfigMap. -/
  configMap : String → String → Option String
  /-- The content of a file of a volume. -/
  volume : String → String → Option String

namespace Pod

variable (pod : Pod)

/-- The value of a variable of the container.  The texts of this repository have no references to
other variables, which would be replaced. -/
def value : EnvSource → Option String
  | .value text => some text
  | .fieldRef fieldPath =>
      if fieldPath = "metadata.name" then some pod.podName
      else if fieldPath = "status.hostIP" then some pod.hostIP
      else none
  | .configMapKeyRef name key => pod.configMap name key

/-- Of two variables with one name the last is taken. -/
def env (envs : List EnvVar) (name : String) : Option String :=
  (envs.reverse.find? (·.name = name)).bind (fun e => pod.value e.source)

theorem env_of_mem {envs : List EnvVar} (hnodup : (envs.map (·.name)).Nodup) {e : EnvVar}
    (he : e ∈ envs) : pod.env envs e.name = pod.value e.source := by
  have hfind : envs.reverse.find? (·.name = e.name) = some e := by
    refine find?_of_unique (List.mem_reverse.mpr he) (decide_eq_true rfl) ?_
    intro x hx hname
    exact List.inj_on_of_nodup_map hnodup (List.mem_reverse.mp hx) he (of_decide_eq_true hname)
  rw [env, hfind, Option.bind_some]

end Pod

/-! ### Mounted files -/

/-- The directory of the mount with the slash after it. -/
def VolumeMount.directory (m : VolumeMount) : List Char := (m.mountPath ++ "/").toList

/-- No mount is inside of another one. -/
def Unnested (mounts : List VolumeMount) : Prop :=
  mounts.Pairwise (fun m m' => ¬ m.directory <+: m'.directory ∧ ¬ m'.directory <+: m.directory)

theorem Unnested.eq_of_isPrefixOf {mounts : List VolumeMount} (h : Unnested mounts)
    {m m' : VolumeMount} (hm : m ∈ mounts) (hm' : m' ∈ mounts) {path : List Char}
    (hpath : m.directory <+: path) (hpath' : m'.directory <+: path) : m' = m := by
  by_contra hne
  have hsymm : Std.Symm (fun m m' : VolumeMount =>
      ¬ m.directory <+: m'.directory ∧ ¬ m'.directory <+: m.directory) :=
    ⟨fun _ _ hnot => hnot.symm⟩
  have hnot := h.forall hm' hm hne
  rcases List.prefix_or_prefix_of_prefix hpath hpath' with hsub | hsub
  · exact hnot.2 hsub
  · exact hnot.1 hsub

namespace Pod

variable (pod : Pod)

/-- The content of a file of the container: the volume whose mount has the path, and the rest of the
path in it. -/
def file (mounts : List VolumeMount) (path : String) : Option String :=
  (mounts.find? (fun m => m.directory.isPrefixOf path.toList)).bind
    (fun m => pod.volume m.name (String.ofList (path.toList.drop m.directory.length)))

/-- **Every file of a mounted volume is found under its mount**, if no mount is inside of another. -/
theorem file_pathJoin {mounts : List VolumeMount} (h : Unnested mounts) {m : VolumeMount}
    (hm : m ∈ mounts) (hclean : pathJoin m.mountPath "" = m.mountPath ++ "/") (rel : String) :
    pod.file mounts (pathJoin m.mountPath rel) = pod.volume m.name rel := by
  have htext : (pathJoin m.mountPath rel).toList = m.directory ++ rel.toList := by
    rw [pathJoin_of_clean hclean, String.toList_append, VolumeMount.directory]
  have hpath : m.directory <+: (pathJoin m.mountPath rel).toList := by
    rw [htext]
    exact List.prefix_append _ _
  have hfind : mounts.find? (fun x => x.directory.isPrefixOf (pathJoin m.mountPath rel).toList) =
      some m := by
    refine find?_of_unique hm (List.isPrefixOf_iff_prefix.mpr hpath) ?_
    intro x hx hxpath
    exact h.eq_of_isPrefixOf hm hx hpath (List.isPrefixOf_iff_prefix.mp hxpath)
  rw [file, hfind, Option.bind_some, htext, List.drop_left, String.ofList_toList]

end Pod

namespace KafkaContainerBuilder

variable (d : KafkaContainerBuilder)

/-- Every mount that a pod can have. -/
theorem podMounts_sublist : d.podMounts.Sublist
    [⟨kubedoopKafkaDataDirName, kubedoopDataDir⟩, ⟨kubedoopConfigDirName, kubedoopConfigDir⟩,
      ⟨kubedoopLogDirName, kubedoopLogDir⟩, ⟨kubedoopLogConfigDirName, kubedoopLogConfigDir⟩,
      ⟨kubedoopListenerBroker, kubedoopListenerBrokerDir⟩,
      ⟨kubedoopListenerBootstrap, kubedoopListenerBootstrapDir⟩,
      ⟨kubedoopKerberosName, kubedoopKerberosDir⟩,
      ⟨kubedoopTLSKeyStoreServerDirName, kubedoopTLSKeyStoreServerDir⟩,
      ⟨kubedoopTLSKeyStoreInternalDirName, kubedoopTLSKeyStoreInternalDir⟩] := by
  rw [podMounts, volumeMount_eq]
  have hkerberos : (if d.kafkaSecurity.isKerberosEnabled then
      [(⟨kubedoopKerberosName, kubedoopKerberosDir⟩ : VolumeMount)] else []).Sublist
      [⟨kubedoopKerberosName, kubedoopKerberosDir⟩] := by
    split_ifs
    · exact List.Sublist.refl _
    · exact List.nil_sublist _
  rw [List.append_assoc]
  exact (hkerberos.append (d.kafkaSecurity.keystores_sublist (·.mount))).append_left
    [_, _, _, _, _, _]

theorem podMounts_unnested : Unnested d.podMounts := by
  refine List.Pairwise.sublist d.podMounts_sublist ?_
  decide

/-- The paths of the mounts are clean. -/
theorem podMounts_clean {m : VolumeMount} (hm : m ∈ d.podMounts) :
    pathJoin m.mountPath "" = m.mountPath ++ "/" := by
  have hall := d.podMounts_sublist.subset hm
  clear hm
  revert m
  decide

theorem mem_podMounts_listenerBroker :
    ⟨kubedoopListenerBroker, kubedoopListenerBrokerDir⟩ ∈ d.podMounts := by
  rw [podMounts, volumeMount_eq]
  simp

theorem mem_podMounts_listenerBootstrap :
    ⟨kubedoopListenerBootstrap, kubedoopListenerBootstrapDir⟩ ∈ d.podMounts := by
  rw [podMounts, volumeMount_eq]
  simp

theorem mem_podMounts_kerberos (h : d.kafkaSecurity.isKerberosEnabled = true) :
    ⟨kubedoopKerberosName, kubedoopKerberosDir⟩ ∈ d.podMounts := by
  rw [podMounts, volumeMount_eq]
  simp [h]

/-! ### The environment -/

theorem containerEnv_names_nodup : (d.containerEnv.map (·.name)).Nodup := by
  have hsub : (d.containerEnv.map (·.name)).Sublist
      [envPodName, envNode, envZookeeperConnections, envKafkaLog4jOpts, envJvmArgs, "KRB5_CONFIG",
        "KAFKA_OPTS", envKafkaHeapOpts] := by
    unfold containerEnv
    cases d.kafkaSecurity.isKerberosEnabled <;> cases d.resourceSpec.bind (fun r => r.memory) <;>
      simp [KerberosAuthentication.getEnvs]
  exact hsub.nodup (by decide)

theorem mem_containerEnv_podName : ⟨envPodName, .fieldRef "metadata.name"⟩ ∈ d.containerEnv := by
  unfold containerEnv
  cases d.kafkaSecurity.isKerberosEnabled <;> cases d.resourceSpec.bind (fun r => r.memory) <;> simp

theorem mem_containerEnv_zookeeper :
    ⟨envZookeeperConnections, .configMapKeyRef d.zookeeperDiscoveryZNode zookeeperDiscoveryKey⟩ ∈
      d.containerEnv := by
  unfold containerEnv
  cases d.kafkaSecurity.isKerberosEnabled <;> cases d.resourceSpec.bind (fun r => r.memory) <;> simp

end KafkaContainerBuilder

/-! ### What the shell finds -/

/-- `grep -oP 'default_realm = \K.*'`: of each line what stands after the key, if that is not
empty. -/
def defaultRealm (krb5 : String) : String :=
  "\n".intercalate ((split '\n' krb5).filterMap (fun line =>
    (cut "default_realm = " line).bind (fun p => given "" p.2)))

/-- The shell of the kafka container when it comes to the launch command.  The variable of the realm
is exported one line before it. -/
def Pod.context (pod : Pod) (d : KafkaContainerBuilder) : Context where
  parameter name :=
    if d.kafkaSecurity.isKerberosEnabled && name = "KERBEROS_REALM" then
      (pod.file d.podMounts kubedoopKerberosKrb5Path).map (fun krb5 => trimBreaks (defaultRealm krb5))
    else pod.env d.containerEnv name
  output command :=
    if "cat ".toList.isPrefixOf command.toList then
      (pod.file d.podMounts (String.ofList (command.toList.drop 4))).map trimBreaks
    else none

/-- What the outside has to fill in for a pod. -/
structure PodValues where
  zookeeper : String
  address : String
  port : String
  bootstrapAddress : String
  realm : String

/-- The outside has filled it in: the ConfigMap of ZooKeeper has its key, the listener volumes have
their addresses and ports, and with Kerberos its volume has the `krb5.conf`. -/
structure Pod.Provides (pod : Pod) (d : KafkaContainerBuilder) (v : PodValues) : Prop where
  zookeeper : pod.configMap d.zookeeperDiscoveryZNode zookeeperDiscoveryKey = some v.zookeeper
  address : (pod.volume kubedoopListenerBroker "default-address/address").map trimBreaks =
    some v.address
  port : (pod.volume kubedoopListenerBroker
    (pathJoin "default-address/ports" d.kafkaSecurity.clientPortName)).map trimBreaks = some v.port
  bootstrapAddress : d.kafkaSecurity.isKerberosEnabled = true →
    (pod.volume kubedoopListenerBootstrap "default-address/address").map trimBreaks =
      some v.bootstrapAddress
  realm : d.kafkaSecurity.isKerberosEnabled = true →
    (pod.volume kubedoopKerberosName "krb5.conf").map (fun krb5 => trimBreaks (defaultRealm krb5)) =
      some v.realm

section Context

variable {pod : Pod} {d : KafkaContainerBuilder} {v : PodValues}

theorem Pod.output_cat {m : VolumeMount} (hm : m ∈ d.podMounts) (rel : String) :
    (pod.context d).output ("cat " ++ pathJoin m.mountPath rel) =
      (pod.volume m.name rel).map trimBreaks := by
  have hcat : "cat ".toList.length = 4 := rfl
  have hdrop : ("cat " ++ pathJoin m.mountPath rel).toList.drop 4 =
      (pathJoin m.mountPath rel).toList := by
    rw [String.toList_append, ← hcat, List.drop_left]
  have hpre : "cat ".toList.isPrefixOf ("cat " ++ pathJoin m.mountPath rel).toList = true := by
    rw [String.toList_append, List.isPrefixOf_iff_prefix]
    exact List.prefix_append _ _
  show (if _ then _ else _) = _
  rw [if_pos hpre, hdrop, String.ofList_toList, pod.file_pathJoin d.podMounts_unnested hm (d.podMounts_clean hm)]

/-- A variable of the container that is not the realm. -/
theorem Pod.parameter_of_mem {e : EnvVar} (he : e ∈ d.containerEnv) (hname : e.name ≠ "KERBEROS_REALM") :
    (pod.context d).parameter e.name = pod.value e.source := by
  have hnot : ¬ (d.kafkaSecurity.isKerberosEnabled && decide (e.name = "KERBEROS_REALM")) = true := by
    simp [hname]
  show (if _ then _ else _) = _
  rw [if_neg hnot, pod.env_of_mem d.containerEnv_names_nodup he]

theorem Pod.parameter_podName : (pod.context d).parameter "POD_NAME" = some pod.podName :=
  Pod.parameter_of_mem d.mem_containerEnv_podName (by decide)

namespace Pod.Provides

theorem parameter_zookeeper (h : pod.Provides d v) :
    (pod.context d).parameter "ZOOKEEPER" = some v.zookeeper :=
  (Pod.parameter_of_mem d.mem_containerEnv_zookeeper
    (show envZookeeperConnections ≠ "KERBEROS_REALM" by decide)).trans h.zookeeper

theorem parameter_realm (h : pod.Provides d v) (hk : d.kafkaSecurity.isKerberosEnabled = true) :
    (pod.context d).parameter "KERBEROS_REALM" = some v.realm := by
  have hyes : (d.kafkaSecurity.isKerberosEnabled &&
      decide ("KERBEROS_REALM" = "KERBEROS_REALM")) = true := by
    simp [hk]
  have hfile : pod.file d.podMounts kubedoopKerberosKrb5Path =
      pod.volume kubedoopKerberosName "krb5.conf" :=
    pod.file_pathJoin d.podMounts_unnested (d.mem_podMounts_kerberos hk) (by decide) "krb5.conf"
  show (if _ then _ else _) = _
  rw [if_pos hyes, hfile]
  exact h.realm hk

end Pod.Provides

/-! ### The values of the pieces -/

theorem expands_label {ctx : Context} {s : String} (h : ∀ c ∈ s.toList, isLabelChar c = true) :
    Expands ctx s s :=
  Expands.text (List.all_eq_true.mpr (fun c hc => not_isActive_of_isLabelChar (h c hc)))

theorem expands_port {ctx : Context} (n : ℕ) : Expands ctx (toString n) (toString n) := by
  apply expands_label
  intro c hc
  simp [isLabelChar, isDigit_of_mem_repr hc]

theorem expands_cat {ctx : Context} {path value : String} (h : path.toList.all isCommandPart = true)
    (hvalue : ctx.output ("cat " ++ path) = some value) : Expands ctx ("$(cat " ++ path ++ ")") value := by
  have htext : "$(cat " ++ path ++ ")" =
      "$" ++ String.singleton '(' ++ ("cat " ++ path) ++ String.singleton ')' := by
    have hopen : "$(cat " = "$" ++ String.singleton '(' ++ "cat " := rfl
    have hclose : ")" = String.singleton ')' := rfl
    simp only [hopen, hclose, String.append_assoc]
  have hcat : "cat ".toList.all isCommandPart = true := by decide
  rw [htext]
  refine Expands.command ?_ hvalue
  rw [String.toList_append, List.all_append, hcat, h]
  rfl

theorem expands_nodeAddress {m : VolumeMount} (hm : m ∈ d.podMounts) {value : String}
    (hpath : (pathJoin m.mountPath "default-address/address").toList.all isCommandPart = true)
    (hvalue : (pod.volume m.name "default-address/address").map trimBreaks = some value) :
    Expands (pod.context d) (nodeAddressCmd m.mountPath) value :=
  expands_cat hpath ((Pod.output_cat hm _).trans hvalue)

namespace Pod.Provides

theorem expands_address (h : pod.Provides d v) :
    Expands (pod.context d) (nodeAddressCmd kubedoopListenerBrokerDir) v.address :=
  expands_nodeAddress d.mem_podMounts_listenerBroker (by decide) h.address

theorem expands_bootstrapAddress (h : pod.Provides d v)
    (hk : d.kafkaSecurity.isKerberosEnabled = true) :
    Expands (pod.context d) (nodeAddressCmd kubedoopListenerBootstrapDir) v.bootstrapAddress :=
  expands_nodeAddress d.mem_podMounts_listenerBootstrap (by decide) (h.bootstrapAddress hk)

theorem expands_port (h : pod.Provides d v) :
    Expands (pod.context d) (nodePortCmd kubedoopListenerBrokerDir d.kafkaSecurity.clientPortName)
      v.port := by
  have hpath : (pathJoin (pathJoin kubedoopListenerBrokerDir "default-address/ports")
      d.kafkaSecurity.clientPortName).toList.all isCommandPart = true := by
    unfold KafkaSecurity.clientPortName
    split <;> decide
  have hjoin : pathJoin (pathJoin kubedoopListenerBrokerDir "default-address/ports")
      d.kafkaSecurity.clientPortName = pathJoin kubedoopListenerBrokerDir
        (pathJoin "default-address/ports" d.kafkaSecurity.clientPortName) := by
    unfold KafkaSecurity.clientPortName
    split <;> decide
  refine expands_cat hpath ?_
  rw [hjoin]
  exact (Pod.output_cat d.mem_podMounts_listenerBroker _).trans h.port

end Pod.Provides

theorem expands_podFqdn {ns obj : String} (hns : ∀ c ∈ ns.toList, isLabelChar c = true)
    (hobj : ∀ c ∈ obj.toList, isLabelChar c = true) :
    Expands (pod.context d) (podFqdn ns obj)
      (pod.podName ++ "." ++ obj ++ "." ++ ns ++ ".svc.cluster.local") := by
  have hdot : Expands (pod.context d) "." "." := Expands.text (by decide)
  have hdomain : Expands (pod.context d) ".svc.cluster.local" ".svc.cluster.local" :=
    Expands.text (by decide)
  have hname : Expands (pod.context d) "$POD_NAME." (pod.podName ++ ".") := by
    have hparameter := Expands.parameter (by decide) Pod.parameter_podName hdot (by decide)
    simpa only [String.reduceAppend] using hparameter
  exact (((hname.append (expands_label hobj)).append hdot).append (expands_label hns)).append hdomain

/-! ### The listeners -/

theorem expands_name {ctx : Context} (n : KafkaListenerName) : Expands ctx n.string n.string :=
  Expands.text (by cases n <;> decide)

theorem expands_protocol {ctx : Context} (p : KafkaListenerProtocol) : Expands ctx p.string p.string :=
  Expands.text (by cases p <;> decide)

theorem expands_listener {ctx : Context} (n : KafkaListenerName) {host port host' port' : String}
    (hhost : Expands ctx host host') (hport : Expands ctx port port') :
    Expands ctx (KafkaListener.string ⟨n, host, port⟩) (KafkaListener.string ⟨n, host', port'⟩) := by
  have hsep : Expands ctx "://" "://" := Expands.text (by decide)
  have hcolon : Expands ctx ":" ":" := Expands.text (by decide)
  exact ((((expands_name n).append hsep).append hhost).append hcolon).append hport

theorem expands_protocolMapString {ctx : Context}
    (order : List (KafkaListenerName × KafkaListenerProtocol)) :
    Expands ctx (KafkaListenerConfig.listenerSecurityProtocolMapString order)
      (KafkaListenerConfig.listenerSecurityProtocolMapString order) := by
  have hcomma : Expands ctx "," "," := Expands.text (by decide)
  have hcolon : Expands ctx ":" ":" := Expands.text (by decide)
  refine hcomma.intercalate ?_
  intro e _
  exact ((expands_name e.1).append hcolon).append (expands_protocol e.2)

theorem expands_listenersString {ctx : Context} (k : KafkaSecurity) (ns obj : String) :
    Expands ctx (getKafkaListenerConfig ns k obj).listenersString
      (getKafkaListenerConfig ns k obj).listenersString := by
  have hcomma : Expands ctx "," "," := Expands.text (by decide)
  have hlocal : Expands ctx listenerLocalAddress listenerLocalAddress := Expands.text (by decide)
  rw [KafkaListenerConfig.listenersString, k.getKafkaListenerConfig_listeners]
  refine hcomma.intercalate ?_
  intro l hl
  obtain ⟨n, -, rfl⟩ := List.mem_map.mp hl
  exact expands_listener n hlocal (expands_port _)

/-- The listener as a broker advertises it: between the brokers by the name of the pod, and all others
at the address and the port of the broker's own listener volume. -/
def Pod.advertised (pod : Pod) (v : PodValues) (d : KafkaContainerBuilder) :
    KafkaListenerName → KafkaListener
  | .internal =>
      ⟨.internal, pod.podName ++ "." ++ d.groupSvcName ++ "." ++ d.kubeNamespace ++ ".svc.cluster.local",
        toString d.kafkaSecurity.internalPort⟩
  | n => ⟨n, v.address, v.port⟩

def Pod.advertisedListeners (pod : Pod) (v : PodValues) (d : KafkaContainerBuilder) :
    List KafkaListener :=
  d.kafkaSecurity.listenerNames.map (pod.advertised v d)

theorem Pod.Provides.expands_advertised (h : pod.Provides d v)
    (hns : ∀ c ∈ d.kubeNamespace.toList, isLabelChar c = true)
    (hobj : ∀ c ∈ d.groupSvcName.toList, isLabelChar c = true) (n : KafkaListenerName) :
    Expands (pod.context d) (d.kafkaSecurity.advertised d.kubeNamespace d.groupSvcName n).string
      (pod.advertised v d n).string := by
  cases n with
  | internal => exact expands_listener _ (expands_podFqdn hns hobj) (KafkaOperator.expands_port _)
  | client | clientAuth | bootstrap => exact expands_listener _ h.expands_address h.expands_port

theorem Pod.Provides.expands_advertisedListenersString (h : pod.Provides d v)
    (hns : ∀ c ∈ d.kubeNamespace.toList, isLabelChar c = true)
    (hobj : ∀ c ∈ d.groupSvcName.toList, isLabelChar c = true) :
    Expands (pod.context d)
      (getKafkaListenerConfig d.kubeNamespace d.kafkaSecurity d.groupSvcName).advertisedListenersString
      (",".intercalate ((pod.advertisedListeners v d).map KafkaListener.string)) := by
  have hcomma : Expands (pod.context d) "," "," := Expands.text (by decide)
  rw [KafkaListenerConfig.advertisedListenersString, KafkaSecurity.getKafkaListenerConfig_advertised,
    Pod.advertisedListeners, List.map_map, List.map_map]
  refine hcomma.intercalate ?_
  intro n _
  exact h.expands_advertised hns hobj n

/-! ### The JAAS entries -/

/-- The JAAS entry of a listener with its address and realm. -/
def jaasConfig (listener address realm : String) : String :=
  KafkaContainerBuilder.jaasKey listener
    ++ ("com.sun.security.auth.module.Krb5LoginModule required useKeyTab=true storeKey=true isInitiator=false keyTab=\"/kubedoop/kerberos/keytab\" principal=\""
    ++ "kafka" ++ "/" ++ address ++ ("@" ++ (realm ++ "\";")))

theorem expands_jaas {ctx : Context} (listener : String) {address value realm : String}
    (hlistener : ∀ c ∈ listener.toList, isLabelChar c = true) (haddress : Expands ctx address value)
    (hrealm : ctx.parameter "KERBEROS_REALM" = some realm) :
    Expands ctx (jaasEscaped listener address) (jaasConfig listener value realm) := by
  have hquote : Expands ctx "\\\"" "\"" := Expands.escape (c := '"') (by decide)
  have hkey : Expands ctx (KafkaContainerBuilder.jaasKey listener)
      (KafkaContainerBuilder.jaasKey listener) :=
    ((Expands.text (s := "listener.name.") (by decide)).append (expands_label hlistener)).append
      (Expands.text (s := ".gssapi.sasl.jaas.config=") (by decide))
  have hmodule := (((((Expands.text (s := "com.sun.security.auth.module.Krb5LoginModule required useKeyTab=true storeKey=true isInitiator=false keyTab=")
    (by decide)).append hquote).append
    (Expands.text (s := "/kubedoop/kerberos/keytab") (by decide))).append hquote).append
    (Expands.text (s := " principal=") (by decide))).append hquote
  simp only [String.reduceAppend] at hmodule
  -- the quote that ends the principal also ends the name of the variable
  have hend := hquote.append (Expands.text (s := ";") (by decide))
  have hrealm' := (Expands.text (s := "@") (by decide)).append
    (Expands.parameter (by decide) hrealm hend (by decide))
  simp only [String.reduceAppend] at hrealm'
  have hservice : Expands ctx "kafka" "kafka" := Expands.text (by decide)
  have hslash : Expands ctx "/" "/" := Expands.text (by decide)
  exact hkey.append ((((hmodule.append hservice).append hslash).append haddress).append hrealm')

/-! ### The command -/

theorem evaluated_override {ctx : Context} {s : String} {ts : List Token} (h : Evaluated ctx s ts)
    {text value : String} (hvalue : Expands ctx text value) :
    Evaluated ctx (s ++ overrideText text) (ts ++ overridePair value) := by
  have hflag : isWord "--override" = true := by decide
  have htext : s ++ overrideText text = s ++ " " ++ "--override" ++ " " ++ ("\"" ++ text ++ "\"") := by
    have hopen : " --override \"" = " " ++ "--override" ++ " " ++ "\"" := by
      simp only [String.reduceAppend]
    simp only [overrideText, hopen, String.append_assoc]
  rw [htext, overridePair, List.append_cons]
  exact (h.word hflag).quoted hvalue

theorem evaluated_serverCommand {ctx : Context} {zookeeper listeners advertised protocols : String}
    {listeners' advertised' protocols' : String} (hz : ctx.parameter "ZOOKEEPER" = some zookeeper)
    (hl : Expands ctx listeners listeners') (ha : Expands ctx advertised advertised')
    (hp : Expands ctx protocols protocols') :
    Evaluated ctx (KafkaContainerBuilder.serverCommand listeners advertised protocols)
      ([.word "bin/kafka-server-start.sh", .word "/kubedoop/config/server.properties"]
        ++ overridePair ("zookeeper.connect=" ++ zookeeper)
        ++ overridePair ("listeners=" ++ listeners')
        ++ overridePair ("advertised.listeners=" ++ advertised')
        ++ overridePair ("listener.security.protocol.map=" ++ protocols')) := by
  have hscript : isWord "bin/kafka-server-start.sh" = true := by decide
  have hfile : isWord "/kubedoop/config/server.properties" = true := by decide
  have hhead : Evaluated ctx ("bin/kafka-server-start.sh" ++ " " ++ "/kubedoop/config/server.properties")
      [.word "bin/kafka-server-start.sh", .word "/kubedoop/config/server.properties"] :=
    (Evaluated.first hscript).word hfile
  have hzookeeper : Expands ctx "zookeeper.connect=$\x7bZOOKEEPER\x7d"
      ("zookeeper.connect=" ++ zookeeper) := by
    have hexpands := (Expands.text (s := "zookeeper.connect=") (by decide)).append
      (Expands.brace (by decide) hz)
    simpa only [String.reduceSingleton, String.reduceAppend] using hexpands
  have hlisteners := (Expands.text (s := "listeners=") (by decide)).append hl
  have hadvertised := (Expands.text (s := "advertised.listeners=") (by decide)).append ha
  have hprotocols := (Expands.text (s := "listener.security.protocol.map=") (by decide)).append hp
  rw [serverCommand_eq]
  exact (evaluated_override (evaluated_override (evaluated_override (evaluated_override hhead
    hzookeeper) hlisteners) hadvertised) hprotocols).blank

/-- The arguments for Kerberos. -/
def jaasArguments (v : PodValues) : List Token :=
  overridePair (jaasConfig "client" v.address v.realm)
    ++ overridePair (jaasConfig "bootstrap" v.bootstrapAddress v.realm)

theorem Pod.Provides.evaluated_kerberosArgs (h : pod.Provides d v)
    (hk : d.kafkaSecurity.isKerberosEnabled = true) {s : String} {ts : List Token}
    (hs : Evaluated (pod.context d) s ts) :
    Evaluated (pod.context d) (s ++ KafkaContainerBuilder.kerberosArgs) (ts ++ jaasArguments v) := by
  have hclient := expands_jaas "client" (List.all_eq_true.mp (by decide)) h.expands_address
    (h.parameter_realm hk)
  have hbootstrap := expands_jaas "bootstrap" (List.all_eq_true.mp (by decide))
    (h.expands_bootstrapAddress hk) (h.parameter_realm hk)
  rw [KafkaContainerBuilder.kerberosArgs, jaasOverride_eq, jaasOverride_eq, ← String.append_assoc,
    jaasArguments, ← List.append_assoc]
  exact evaluated_override (evaluated_override hs hclient) hbootstrap

theorem evaluate_background {ctx : Context} {s : String} {ts : List Token} (h : Evaluated ctx s ts) :
    evaluate ctx (s ++ " &") = some (ts ++ [.operator "&"]) := by
  have htext : s ++ " &" = s ++ " " ++ String.singleton '&' := by
    rw [String.append_assoc]
    rfl
  rw [htext]
  exact h.evaluate_operator (by decide) (by decide)

end Context

/-! ### The broker -/

/-- What the broker is started with. -/
def brokerArguments (d : KafkaContainerBuilder) (pod : Pod) (v : PodValues)
    (order : List (KafkaListenerName × KafkaListenerProtocol)) : List Token :=
  [.word "bin/kafka-server-start.sh", .word "/kubedoop/config/server.properties"]
    ++ overridePair ("zookeeper.connect=" ++ v.zookeeper)
    ++ overridePair ("listeners="
      ++ (getKafkaListenerConfig d.kubeNamespace d.kafkaSecurity d.groupSvcName).listenersString)
    ++ overridePair ("advertised.listeners="
      ++ ",".intercalate ((pod.advertisedListeners v d).map KafkaListener.string))
    ++ overridePair ("listener.security.protocol.map="
      ++ KafkaListenerConfig.listenerSecurityProtocolMapString order)
    ++ (if d.kafkaSecurity.isKerberosEnabled then jaasArguments v else [])

/-- The lines of the script before the launch command. -/
def KafkaContainerBuilder.preparation (d : KafkaContainerBuilder) (op : OperatorGo) : List String :=
  ["set -x", op.commonBashTrapFunctions, op.removeVectorShutdownFileCommand, "prepare_signal_handlers"]
    ++ (if d.kafkaSecurity.isKerberosEnabled then
        ["export KERBEROS_REALM=$(grep -oP 'default_realm = \\K.*' " ++ kubedoopKerberosKrb5Path ++ ")"]
      else [])

theorem KafkaContainerBuilder.commandArgs_of_launchCommand (d : KafkaContainerBuilder) (op : OperatorGo)
    (order : List (KafkaListenerName × KafkaListenerProtocol)) {cmd : String}
    (h : d.launchCommand
      (getKafkaListenerConfig d.kubeNamespace d.kafkaSecurity d.groupSvcName).listenersString
      (getKafkaListenerConfig d.kubeNamespace d.kafkaSecurity d.groupSvcName).advertisedListenersString
      (KafkaListenerConfig.listenerSecurityProtocolMapString order) = .ok cmd) :
    d.commandArgs op order = .ok ["\n".intercalate (d.preparation op ++
      [cmd, "wait_for_termination", op.createVectorShutdownFileCommand])] := by
  rw [commandArgs]
  simp only [h, Outcome.ok_bind, Outcome.pure_eq, preparation]
  cases d.kafkaSecurity.isKerberosEnabled <;> rfl

section Reading

variable {pod : Pod} {d : KafkaContainerBuilder} {v : PodValues}

theorem Pod.advertised_separable (haddress : ',' ∉ v.address.toList) (hport : ':' ∉ v.port.toList)
    (hcomma : ',' ∉ v.port.toList) (hname : ',' ∉ pod.podName.toList)
    (hns : ∀ c ∈ d.kubeNamespace.toList, isLabelChar c = true)
    (hobj : ∀ c ∈ d.groupSvcName.toList, isLabelChar c = true) (n : KafkaListenerName) :
    (pod.advertised v d n).named.Separable := by
  have hlabel : ∀ {s : String}, (∀ c ∈ s.toList, isLabelChar c = true) → ',' ∉ s.toList := by
    intro s hs hmem
    exact absurd (hs _ hmem) (by decide)
  have hnode : ∀ n, (KafkaListener.named ⟨n, v.address, v.port⟩).Separable := fun n =>
    ⟨n.string_separable.1, n.string_separable.2, haddress, hport, hcomma⟩
  cases n with
  | internal =>
      refine ⟨(KafkaListenerName.string_separable _).1, (KafkaListenerName.string_separable _).2, ?_,
        notMem_repr (by decide) _, notMem_repr (by decide) _⟩
      simp only [KafkaListener.named, Pod.advertised, String.toList_append, List.mem_append, not_or]
      exact ⟨⟨⟨⟨⟨hname, by decide⟩, hlabel hobj⟩, by decide⟩, hlabel hns⟩, by decide⟩
  | client | clientAuth | bootstrap => exact hnode _

end Reading

/-- **What a broker is started with.**  For all security settings of a cluster, in every pod for which
the outside has filled in its part, the shell evaluates the launch command of the script: the
expansions of the listener configuration have become the addresses of the pod, and reading the
advertised listeners gives them back. -/
theorem broker_arguments (cluster : KafkaCluster) (d : KafkaContainerBuilder)
    (hk : newKafkaSecurity cluster = .ok d.kafkaSecurity)
    (hns : ∀ c ∈ d.kubeNamespace.toList, isLabelChar c = true)
    (hobj : ∀ c ∈ d.groupSvcName.toList, isLabelChar c = true) (pod : Pod) (v : PodValues)
    (hpod : pod.Provides d v) (op : OperatorGo)
    (order : List (KafkaListenerName × KafkaListenerProtocol)) :
    (∃ cmd, d.commandArgs op order = .ok ["\n".intercalate (d.preparation op ++
        [cmd, "wait_for_termination", op.createVectorShutdownFileCommand])] ∧
      evaluate (pod.context d) cmd = some (brokerArguments d pod v order ++ [.operator "&"])) ∧
    (',' ∉ pod.podName.toList → ',' ∉ v.address.toList → ':' ∉ v.port.toList → ',' ∉ v.port.toList →
      parseListeners (",".intercalate ((pod.advertisedListeners v d).map KafkaListener.string)) =
        some ((pod.advertisedListeners v d).map KafkaListener.named)) := by
  constructor
  · have hserver := evaluated_serverCommand hpod.parameter_zookeeper
      (expands_listenersString d.kafkaSecurity d.kubeNamespace d.groupSvcName)
      (hpod.expands_advertisedListenersString hns hobj) (expands_protocolMapString order)
    cases henabled : d.kafkaSecurity.isKerberosEnabled with
    | false =>
        refine ⟨_, d.commandArgs_of_launchCommand op order (d.launchCommand_plain henabled _ _ _), ?_⟩
        rw [brokerArguments, henabled, if_neg Bool.false_ne_true, List.append_nil]
        exact evaluate_background hserver
    | true =>
        have hauth := d.getKerbersoAuth_of_newKafkaSecurity hk henabled
        refine ⟨_, d.commandArgs_of_launchCommand op order
          (d.launchCommand_kerberos henabled hauth _ _ _), ?_⟩
        rw [brokerArguments, henabled, if_pos rfl]
        exact evaluate_background (hpod.evaluated_kerberosArgs henabled hserver)
  · intro hname haddress hport hcomma
    have hjoin := parseListeners_join (l := (pod.advertisedListeners v d).map KafkaListener.named) (by
      intro x hx
      obtain ⟨l, hl, rfl⟩ := List.mem_map.mp hx
      obtain ⟨n, -, rfl⟩ := List.mem_map.mp hl
      exact Pod.advertised_separable haddress hport hcomma hname hns hobj n)
    rw [List.map_map] at hjoin
    exact hjoin

/-- A pod of the cluster with Kerberos. -/
def kerberosPod : Pod where
  podName := "simple-broker-default-0"
  hostIP := "172.18.0.2"
  configMap name key :=
    if (name, key) = ("kafka-znode", "ZOOKEEPER") then some "zookeeper:2282/kafka" else none
  volume name path :=
    if (name, path) = ("listener-broker", "default-address/address") then some "172.18.0.2\n"
    else if (name, path) = ("listener-broker", "default-address/ports/kafka-tls") then some "31093\n"
    else if (name, path) = ("listener-bootstrap", "default-address/address") then
      some "bootstrap.default.svc.cluster.local\n"
    else if (name, path) = ("listener-kerberos", "krb5.conf") then
      some "[libdefaults]\ndefault_realm = KUBEDOOP.DEV\nudp_preference_limit = 1\n"
    else none

def kerberosValues : PodValues where
  zookeeper := "zookeeper:2282/kafka"
  address := "172.18.0.2"
  port := "31093"
  bootstrapAddress := "bootstrap.default.svc.cluster.local"
  realm := "KUBEDOOP.DEV"

open KafkaContainerBuilder in
def kerberosContainer : KafkaContainerBuilder :=
  newKafkaContainer "kafka-znode" kerberosSecurity "default" "simple-broker-default"

/-- The `BOOTSTRAP` listener is advertised at the address of the broker's volume, while its principal
is made from the address of the bootstrap volume. -/
theorem broker_arguments_kerberos :
    kerberosPod.Provides kerberosContainer kerberosValues ∧
      (∃ cmd, evaluate (kerberosPod.context kerberosContainer) cmd =
        some (brokerArguments kerberosContainer kerberosPod kerberosValues [] ++ [.operator "&"])) ∧
      parseListeners (",".intercalate
          ((kerberosPod.advertisedListeners kerberosValues kerberosContainer).map KafkaListener.string)) =
        some [⟨"CLIENT", "172.18.0.2", "31093"⟩,
          ⟨"INTERNAL", "simple-broker-default-0.simple-broker-default.default.svc.cluster.local", "19093"⟩,
          ⟨"BOOTSTRAP", "172.18.0.2", "31093"⟩] := by
  have hpod : kerberosPod.Provides kerberosContainer kerberosValues := by
    constructor <;> decide
  obtain ⟨⟨cmd, -, hcmd⟩, hparse⟩ := broker_arguments KafkaContainerBuilder.kerberosCluster
    kerberosContainer rfl (List.all_eq_true.mp (by decide)) (List.all_eq_true.mp (by decide))
    kerberosPod kerberosValues hpod (.reference (fun _ => true)) []
  refine ⟨hpod, ⟨cmd, hcmd⟩, (hparse (by decide) (by decide) (by decide) (by decide)).trans ?_⟩
  decide

end KafkaOperator
