import KafkaOperator.GoStrings
import KafkaOperator.Pod

/-! # TLS material

Which listeners speak TLS, which of them get a key store and a trust store in
`server.properties`, and which stores are mounted into the kafka container are three case
analyses in three files.  `KafkaSecurity.stores` is the second one in closed form: the
listeners that get stores, with the directory of the stores.  Against it the other two are
compared: `TlsComplete` says that all three fit together, and `tls_complete_iff` when they do. -/

namespace KafkaOperator

open Go

/-! ### Keys of a store -/

inductive StoreKind where
  | keystore
  | truststore
deriving DecidableEq, Repr

def StoreKind.string : StoreKind → String
  | .keystore => "keystore"
  | .truststore => "truststore"

/-- The file of a store in the directory of its volume. -/
def StoreKind.file : StoreKind → String
  | .keystore => "/keystore.p12"
  | .truststore => "/truststore.p12"

/-- The part that the keys of a listener's store have in common. -/
def storeName (n : KafkaListenerName) (kind : StoreKind) : String :=
  "listener.name." ++ toLower n.string ++ ".ssl." ++ kind.string

/-- The keys of a listener's stores, from the name of the listener. -/
def storeKeys (n : KafkaListenerName) : StoreKeys where
  keyStoreLocation := storeName n .keystore ++ ".location"
  keyStorePassword := storeName n .keystore ++ ".password"
  keyStoreType := storeName n .keystore ++ ".type"
  trustStoreLocation := storeName n .truststore ++ ".location"
  trustStorePassword := storeName n .truststore ++ ".password"
  trustStoreType := storeName n .truststore ++ ".type"

theorem storeKeys_client : storeKeys .client = clientSSL := by
  simp only [storeKeys, clientSSL, StoreKeys.mk.injEq]
  decide

theorem storeKeys_clientAuth : storeKeys .clientAuth = clientAuthSSL := by
  simp only [storeKeys, clientAuthSSL, StoreKeys.mk.injEq]
  decide

theorem storeKeys_internal : storeKeys .internal = interSSL := by
  simp only [storeKeys, interSSL, StoreKeys.mk.injEq]
  decide

theorem storeKeys_bootstrap : storeKeys .bootstrap = bootstrapSSL := by
  simp only [storeKeys, bootstrapSSL, StoreKeys.mk.injEq]
  decide

theorem storeName_inj {n m : KafkaListenerName} {a b : StoreKind}
    (h : storeName n a = storeName m b) : n = m ∧ a = b := by
  cases n <;> cases m <;> cases a <;> cases b <;>
    first | exact ⟨rfl, rfl⟩ | exact absurd h (by decide)

/-- All six keys are set. -/
structure HasStores (config : Map String String) (keys : StoreKeys) : Prop where
  keyStoreLocation : (config.get keys.keyStoreLocation).isSome
  keyStorePassword : (config.get keys.keyStorePassword).isSome
  keyStoreType : (config.get keys.keyStoreType).isSome
  trustStoreLocation : (config.get keys.trustStoreLocation).isSome
  trustStorePassword : (config.get keys.trustStorePassword).isSome
  trustStoreType : (config.get keys.trustStoreType).isSome

/-! ### The settings in closed form -/

/-- The value that the stores of a listener give to a key whose store is `p`. -/
def storeEntry (value : StoreKind → String → String) (p : String)
    (e : KafkaListenerName × String) : Option String :=
  if p = storeName e.1 .truststore then some (value .truststore e.2)
  else if p = storeName e.1 .keystore then some (value .keystore e.2)
  else none

theorem storeEntry_eq_some {value : StoreKind → String → String} {p v : String}
    {e : KafkaListenerName × String} (h : storeEntry value p e = some v) :
    ∃ kind, p = storeName e.1 kind ∧ v = value kind e.2 := by
  unfold storeEntry at h
  split_ifs at h with ht hk
  · exact ⟨.truststore, ht, (Option.some.inj h).symm⟩
  · exact ⟨.keystore, hk, (Option.some.inj h).symm⟩

theorem storeEntry_self (value : StoreKind → String → String) (n : KafkaListenerName)
    (kind : StoreKind) (dir : String) :
    storeEntry value (storeName n kind) (n, dir) = some (value kind dir) := by
  cases kind with
  | truststore => exact if_pos rfl
  | keystore =>
      have hne : storeName n .keystore ≠ storeName n .truststore := by
        intro h
        cases (storeName_inj h).2
      simp [storeEntry, hne]

/-- What the six assignments of a listener do to a key with the given ending. -/
structure StoreSuffix (password suffix : String) (value : StoreKind → String → String) : Prop where
  setStores : ∀ (config : Map String String) (n : KafkaListenerName) (dir p : String),
    (setStores config (storeKeys n) dir password).get (p ++ suffix) =
      (storeEntry value p (n, dir)).or (config.get (p ++ suffix))
  other : ∀ p, p ++ suffix ∉ [clientAuthSSLClientAuth, interSSLClientAuth, interBrokerListenerName,
    "sasl.enabled.mechanisms", "sasl.kerberos.service.name", "sasl.mechanism.inter.broker.protocol"]

theorem storeSuffix_location (password : String) :
    StoreSuffix password ".location" (fun kind dir => dir ++ kind.file) where
  setStores config n dir p := by
    have hp : ∀ q, p ++ ".location" ≠ q ++ ".password" :=
      append_ne_append_of_not_suffix (by decide) (by decide) p
    have ht : ∀ q, p ++ ".location" ≠ q ++ ".type" :=
      append_ne_append_of_not_suffix (by decide) (by decide) p
    simp only [KafkaOperator.setStores, storeKeys, Map.get_set, String.append_left_inj, hp, ht,
      if_false, storeEntry]
    split_ifs <;> rfl
  other := append_notMem_of_not_suffix (by decide)

theorem storeSuffix_password (password : String) :
    StoreSuffix password ".password" (fun _ _ => password) where
  setStores config n dir p := by
    have hl : ∀ q, p ++ ".password" ≠ q ++ ".location" :=
      append_ne_append_of_not_suffix (by decide) (by decide) p
    have ht : ∀ q, p ++ ".password" ≠ q ++ ".type" :=
      append_ne_append_of_not_suffix (by decide) (by decide) p
    simp only [KafkaOperator.setStores, storeKeys, Map.get_set, String.append_left_inj, hl, ht,
      if_false, storeEntry]
    split_ifs <;> rfl
  other := append_notMem_of_not_suffix (by decide)

theorem storeSuffix_type (password : String) :
    StoreSuffix password ".type" (fun _ _ => pkcs12) where
  setStores config n dir p := by
    have hl : ∀ q, p ++ ".type" ≠ q ++ ".location" :=
      append_ne_append_of_not_suffix (by decide) (by decide) p
    have hp : ∀ q, p ++ ".type" ≠ q ++ ".password" :=
      append_ne_append_of_not_suffix (by decide) (by decide) p
    simp only [KafkaOperator.setStores, storeKeys, Map.get_set, String.append_left_inj, hl, hp,
      if_false, storeEntry]
    split_ifs <;> rfl
  other := append_notMem_of_not_suffix (by decide)

/-- A block that gives a listener its stores under a condition. -/
theorem get_ite_stores {value : StoreKind → String → String} {b : Bool} {n : KafkaListenerName}
    {dir p key : String} {m config : Map String String}
    (h : m.get key = (storeEntry value p (n, dir)).or (config.get key)) :
    (if b then m else config).get key =
      ((if b then [(n, dir)] else []).findSome? (storeEntry value p)).or (config.get key) := by
  cases b with
  | false => rfl
  | true => rw [if_pos rfl, if_pos rfl, List.findSome?_singleton, h]

namespace KafkaSecurity

variable (k : KafkaSecurity)

/-- The listeners that get stores, with the directory of the stores. -/
def stores : List (KafkaListenerName × String) :=
  (if k.tlsInternalSecretClass != "" then [(.internal, kubedoopTLSKeyStoreInternalDir)] else []) ++
  ((if k.isKerberosEnabled then [(.bootstrap, kubedoopTLSKeyStoreServerDir)] else []) ++
  (if k.tlsClientAuthenticationClass != "" then [(.clientAuth, kubedoopTLSKeyStoreServerDir)]
    else if k.tlsServerSecretClass != "" then [(.client, kubedoopTLSKeyStoreServerDir)] else []))

/-- The settings under a location, password or type key are those of the listeners with stores. -/
theorem configSettings_get {suffix : String} {value : StoreKind → String → String}
    (hv : StoreSuffix k.sslStorePassword suffix value) (p : String) :
    k.configSettings.get (p ++ suffix) = k.stores.findSome? (storeEntry value p) := by
  have hne := hv.other p
  simp only [List.mem_cons, List.not_mem_nil, or_false, not_or] at hne
  obtain ⟨h₁, h₂, h₃, h₄, h₅, h₆⟩ := hne
  -- the settings are a chain of blocks, the last of which decides first
  have hclient : (if k.tlsClientAuthenticationClass != "" then
      (KafkaOperator.setStores Map.empty (storeKeys .clientAuth) kubedoopTLSKeyStoreServerDir
        k.sslStorePassword).set clientAuthSSLClientAuth "required"
      else if k.tlsServerSecretClass != "" then
        KafkaOperator.setStores Map.empty (storeKeys .client) kubedoopTLSKeyStoreServerDir
          k.sslStorePassword
      else Map.empty).get (p ++ suffix) =
      (if k.tlsClientAuthenticationClass != "" then [(.clientAuth, kubedoopTLSKeyStoreServerDir)]
        else if k.tlsServerSecretClass != "" then [(.client, kubedoopTLSKeyStoreServerDir)]
        else []).findSome? (storeEntry value p) := by
    split_ifs
    · rw [Map.get_set_ne _ _ h₁, hv.setStores, List.findSome?_singleton, Map.get_empty,
        Option.or_none]
    · rw [hv.setStores, List.findSome?_singleton, Map.get_empty, Option.or_none]
    · rfl
  have hsasl : ∀ m : Map String String, (if k.isKerberosEnabled then
      ((m.set "sasl.enabled.mechanisms" "GSSAPI").set "sasl.kerberos.service.name" "kafka").set
        "sasl.mechanism.inter.broker.protocol" "GSSAPI" else m).get (p ++ suffix) =
      m.get (p ++ suffix) := by
    intro m
    split_ifs
    · rw [Map.get_set_ne _ _ h₆, Map.get_set_ne _ _ h₅, Map.get_set_ne _ _ h₄]
    · rfl
  simp only [configSettings, stores, ← storeKeys_client, ← storeKeys_clientAuth,
    ← storeKeys_internal, ← storeKeys_bootstrap, List.findSome?_append]
  rw [Map.get_set_ne _ _ h₃, get_ite_stores (by rw [Map.get_set_ne _ _ h₂, hv.setStores]), hsasl,
    get_ite_stores (hv.setStores _ _ _ _), hclient]

/-- A listener with stores has its settings. -/
theorem configSettings_isSome {suffix : String} {value : StoreKind → String → String}
    (hv : StoreSuffix k.sslStorePassword suffix value) {e : KafkaListenerName × String}
    (he : e ∈ k.stores) (kind : StoreKind) :
    (k.configSettings.get (storeName e.1 kind ++ suffix)).isSome := by
  rw [k.configSettings_get hv, List.findSome?_isSome_iff]
  refine ⟨e, he, ?_⟩
  rw [storeEntry_self value e.1 kind e.2]
  rfl

/-- A setting belongs to a listener with stores. -/
theorem configSettings_eq_some {suffix : String} {value : StoreKind → String → String}
    (hv : StoreSuffix k.sslStorePassword suffix value) {p v : String}
    (h : k.configSettings.get (p ++ suffix) = some v) :
    ∃ e ∈ k.stores, ∃ kind, p = storeName e.1 kind ∧ v = value kind e.2 := by
  rw [k.configSettings_get hv] at h
  obtain ⟨e, he, hev⟩ := List.exists_of_findSome?_eq_some h
  exact ⟨e, he, storeEntry_eq_some hev⟩

/-- A store with a location is a store of a listener, and has the password of the cluster. -/
theorem configSettings_store {p v : String}
    (h : k.configSettings.get (p ++ ".location") = some v) :
    (∃ e ∈ k.stores, ∃ kind, p = storeName e.1 kind ∧ v = e.2 ++ kind.file) ∧
      k.configSettings.get (p ++ ".password") = some k.sslStorePassword := by
  obtain ⟨e, he, kind, rfl, rfl⟩ := k.configSettings_eq_some (storeSuffix_location _) h
  refine ⟨⟨e, he, kind, rfl, rfl⟩, ?_⟩
  obtain ⟨w, hw⟩ := Option.isSome_iff_exists.mp
    (k.configSettings_isSome (storeSuffix_password _) he kind)
  obtain ⟨-, -, -, -, rfl⟩ := k.configSettings_eq_some (storeSuffix_password _) hw
  exact hw

/-- The listeners with all six settings are those with stores. -/
theorem hasStores_iff (n : KafkaListenerName) :
    HasStores k.configSettings (storeKeys n) ↔ ∃ dir, (n, dir) ∈ k.stores := by
  constructor
  · intro h
    obtain ⟨v, hv⟩ := Option.isSome_iff_exists.mp h.keyStoreLocation
    obtain ⟨e, he, kind, hname, -⟩ := k.configSettings_eq_some (storeSuffix_location _) hv
    obtain ⟨rfl, -⟩ := storeName_inj hname
    exact ⟨e.2, he⟩
  · rintro ⟨dir, h⟩
    have hlocation := k.configSettings_isSome (storeSuffix_location _) h
    have hpassword := k.configSettings_isSome (storeSuffix_password _) h
    have htype := k.configSettings_isSome (storeSuffix_type _) h
    exact ⟨hlocation .keystore, hpassword .keystore, htype .keystore, hlocation .truststore,
      hpassword .truststore, htype .truststore⟩

end KafkaSecurity

/-! ### Volumes and mounts -/

/-- The password annotation of a store volume is there exactly if there is a password. -/
theorem createTlsKeystoreVolume_password (c : Constants)
    (volumeName secretClass password lifetime : String) :
    (createTlsKeystoreVolume c volumeName secretClass password lifetime).annotations.get
      c.annotationSecretsPKCS12Password = given "" password := by
  have hne := c.secretAnnotations_nodup
  simp only [List.nodup_cons, List.mem_cons, not_or] at hne
  obtain ⟨⟨-, -, h₁, -⟩, ⟨-, h₂, -⟩, ⟨h₃, -⟩, -⟩ := hne
  by_cases hp : password = ""
  · simp [createTlsKeystoreVolume, SecretVolumeBuilder.build, SecretVolumeBuilder.setAnnotations,
      Volume.annotations, Map.ofList, hp, Ne.symm h₁, Ne.symm h₂, Ne.symm h₃]
  · simp [createTlsKeystoreVolume, SecretVolumeBuilder.build, SecretVolumeBuilder.addAnnotation,
      Volume.annotations, hp, given]

namespace StatefulSet

/-- The container at index `i` is the kafka container and has the mount. -/
def KafkaMounts (sts : StatefulSet) (i : ℕ) (mount : VolumeMount) : Prop :=
  ∃ x, sts.template.containers[i]? = some x ∧ x.name = "kafka" ∧ mount ∈ x.volumeMounts

theorem getContainer_some {sts : StatefulSet} {i : ℕ}
    (h : getContainer sts.template.containers "kafka" = some i) :
    ∃ x, sts.template.containers[i]? = some x ∧ x.name = "kafka" := by
  obtain ⟨hi, hx, -⟩ := List.findIdx?_eq_some_iff_getElem.mp h
  exact ⟨_, List.getElem?_eq_getElem hi, by simpa using hx⟩

end StatefulSet

/-- Container `i` is the kafka container and mounts a declared store volume with the password
at the directory. -/
structure StoreProvided (c : Constants) (i : ℕ) (volumeName dir password : String)
    (sts : StatefulSet) : Prop where
  mount : sts.KafkaMounts i ⟨volumeName, dir⟩
  volume : ∃ v ∈ sts.template.volumes, v.name = volumeName ∧
    v.annotations.get c.annotationSecretsPKCS12Password = given "" password

namespace KafkaSecurity

variable {c : Constants} {k : KafkaSecurity} {i : ℕ} {sts : StatefulSet}

/-- The store of each volume that is added is provided. -/
theorem withKeystores_provides (hi : getContainer sts.template.containers "kafka" = some i)
    (lifetime : String) {l : List Keystore} {s : Keystore} (hs : s ∈ l) :
    StoreProvided c i s.volumeName s.dir k.sslStorePassword
      (k.withKeystores c lifetime i l sts) := by
  obtain ⟨x, hx, hn⟩ := StatefulSet.getContainer_some hi
  refine ⟨⟨x.addVolumeMounts (l.map (·.mount)), ?_, hn, ?_⟩, s.volume c k lifetime, ?_,
    createTlsKeystoreVolume_name _ _ _ _ _, createTlsKeystoreVolume_password _ _ _ _ _⟩
  · simp [withKeystores, hx]
  · exact List.mem_append_right _ (List.mem_map_of_mem hs)
  · exact List.mem_append_right _ (List.mem_map_of_mem hs)

theorem server_mem_keystores (h : k.tlsServerSecretClass ≠ "") :
    ⟨k.tlsServerSecretClass, kubedoopTLSKeyStoreServerDirName, kubedoopTLSKeyStoreServerDir⟩ ∈
      k.keystores := by
  simp [keystores, h]

theorem internal_mem_keystores (h : k.tlsInternalSecretClass ≠ "") :
    ⟨k.tlsInternalSecretClass, kubedoopTLSKeyStoreInternalDirName,
      kubedoopTLSKeyStoreInternalDir⟩ ∈ k.keystores := by
  simp [keystores, h]

/-- Each listener with stores has them in the directory of a volume, if Kerberos comes with a
server secret class. -/
theorem exists_keystore_of_mem_stores (ha : k.tlsClientAuthenticationClass = "")
    (hk : k.isKerberosEnabled = true → k.tlsServerSecretClass ≠ "")
    {e : KafkaListenerName × String} (he : e ∈ k.stores) : ∃ s ∈ k.keystores, s.dir = e.2 := by
  simp only [stores, List.mem_append] at he
  rcases he with he | he | he
  · split_ifs at he with hi
    · obtain rfl := List.mem_singleton.mp he
      exact ⟨_, internal_mem_keystores (bne_iff_ne.mp hi), rfl⟩
    · cases he
  · split_ifs at he with hke
    · obtain rfl := List.mem_singleton.mp he
      exact ⟨_, server_mem_keystores (hk hke), rfl⟩
    · cases he
  · split_ifs at he with hc hs
    · exact absurd ha (bne_iff_ne.mp hc)
    · obtain rfl := List.mem_singleton.mp he
      exact ⟨_, server_mem_keystores (bne_iff_ne.mp hs), rfl⟩
    · cases he

end KafkaSecurity

/-! ### Completeness -/

/-- The kafka container mounts a declared volume at the directory of the location, and the
volume's password annotation is the password, absent if that is empty. -/
def StoreMounted (c : Constants) (sts : StatefulSet) (location password : String) : Prop :=
  ∃ x ∈ sts.template.containers, x.name = "kafka" ∧ ∃ mount ∈ x.volumeMounts,
    (∃ file, location = mount.mountPath ++ "/" ++ file) ∧
    ∃ v ∈ sts.template.volumes, v.name = mount.name ∧
      v.annotations.get c.annotationSecretsPKCS12Password =
        if password = "" then none else some password

theorem StoreProvided.storeMounted {c : Constants} {i : ℕ} {volumeName dir password : String}
    {sts : StatefulSet} (h : StoreProvided c i volumeName dir password sts) (kind : StoreKind) :
    StoreMounted c sts (dir ++ kind.file) password := by
  obtain ⟨x, hx, hn, hm⟩ := h.mount
  refine ⟨x, List.mem_of_getElem? hx, hn, _, hm, ?_, h.volume⟩
  have hfile : kind.file = "/" ++ (kind.string ++ ".p12") := by cases kind <;> decide
  exact ⟨kind.string ++ ".p12", by rw [hfile, String.append_assoc]⟩

/-- The TLS material of a cluster is complete: a listener with protocol `SSL` has all settings
of its two stores, and every store in the settings lies in a directory that the kafka
container of a StatefulSet built with these settings mounts from a declared volume, whose
password is the one in the settings. -/
structure TlsComplete (op : OperatorGo) (k : KafkaSecurity) : Prop where
  settings : ∀ ns obj n,
    (getKafkaListenerConfig ns k obj).listenerSecurityProtocolMap.get n = some .ssl →
      HasStores k.configSettings (storeKeys n)
  mounted : ∀ (b : StatefulSetBuilder) order h sts, b.kafkaTlsSecurity = k →
    (b.build op order h).1 = .ok sts → ∀ store location,
      k.configSettings.get (store ++ ".location") = some location →
        ∃ password, k.configSettings.get (store ++ ".password") = some password ∧
          StoreMounted op.consts sts location password

namespace KafkaSecurity

variable (k : KafkaSecurity)

/-- The listeners with stores, without client certificate authentication. -/
theorem exists_mem_stores_iff (ha : k.tlsClientAuthenticationClass = "") (n : KafkaListenerName) :
    (∃ dir, (n, dir) ∈ k.stores) ↔ match n with
      | .client => k.tlsServerSecretClass ≠ ""
      | .clientAuth => False
      | .internal => k.tlsInternalSecretClass ≠ ""
      | .bootstrap => k.isKerberosEnabled = true := by
  simp only [stores, ha, bne_self_eq_false, Bool.false_eq_true, if_false, bne_iff_ne]
  by_cases hs : k.tlsServerSecretClass = "" <;> cases hk : k.isKerberosEnabled <;>
    by_cases hi : k.tlsInternalSecretClass = "" <;> cases n <;> simp [hs, hi]

/-- The listeners with protocol `SSL`, without client certificate authentication. -/
theorem protocol_ssl_iff (ha : k.tlsClientAuthenticationClass = "") (ns obj : String)
    (n : KafkaListenerName) :
    (getKafkaListenerConfig ns k obj).listenerSecurityProtocolMap.get n = some .ssl ↔ match n with
      | .client => k.tlsServerSecretClass ≠ "" ∨ k.isKerberosEnabled = true
      | .clientAuth => False
      | .internal => k.tlsInternalSecretClass ≠ "" ∨ k.isKerberosEnabled = true
      | .bootstrap => k.isKerberosEnabled = true := by
  rw [k.getKafkaListenerConfig_protocol]
  cases hk : k.isKerberosEnabled <;> cases n <;>
    simp [listenerNames, clientListener, protocolOf, tlsEnabled, ha, hk]

/-- The listeners with protocol `SSL` have their settings exactly if Kerberos comes with both
secret classes. -/
theorem ssl_hasStores_iff (ha : k.tlsClientAuthenticationClass = "") (ns obj : String) :
    (∀ n, (getKafkaListenerConfig ns k obj).listenerSecurityProtocolMap.get n = some .ssl →
      HasStores k.configSettings (storeKeys n)) ↔
    (k.isKerberosEnabled = true → k.tlsServerSecretClass ≠ "" ∧ k.tlsInternalSecretClass ≠ "") := by
  simp only [k.hasStores_iff, k.exists_mem_stores_iff ha, k.protocol_ssl_iff ha]
  constructor
  · intro h hk
    exact ⟨h .client (.inr hk), h .internal (.inr hk)⟩
  · intro h n hn
    cases n with
    | client => exact hn.elim id (fun hk => (h hk).1)
    | clientAuth => exact hn
    | internal => exact hn.elim id (fun hk => (h hk).2)
    | bootstrap => exact hn

end KafkaSecurity

/-- **TLS material is complete** exactly for the clusters that do not enable Kerberos or set
both secret classes. -/
theorem tls_complete_iff (op : OperatorGo) (cluster : KafkaCluster) (k : KafkaSecurity)
    (hk : newKafkaSecurity cluster = .ok k) :
    TlsComplete op k ↔
      (k.isKerberosEnabled = true → k.tlsServerSecretClass ≠ "" ∧ k.tlsInternalSecretClass ≠ "") := by
  have ha := newKafkaSecurity_clientAuth hk
  constructor
  · intro h
    exact (k.ssl_hasStores_iff ha "" "").mp (h.settings "" "")
  · intro hboth
    refine ⟨fun ns obj => (k.ssl_hasStores_iff ha ns obj).mpr hboth, ?_⟩
    rintro b order h sts rfl hb store location hloc
    obtain ⟨⟨⟨n, dir⟩, he, kind, -, rfl⟩, hpw⟩ := KafkaSecurity.configSettings_store _ hloc
    obtain ⟨s, hs, rfl⟩ :=
      KafkaSecurity.exists_keystore_of_mem_stores ha (fun hke => (hboth hke).1) he
    obtain ⟨config, -, hfrom⟩ := Outcome.bind_eq_ok.mp hb
    obtain ⟨w, t, i, -, -, hi, rfl⟩ := StatefulSetBuilder.buildFrom_eq_ok hfrom
    refine ⟨_, hpw, ?_⟩
    exact StoreProvided.storeMounted (KafkaSecurity.withKeystores_provides (i := i) hi _ hs) kind

/-- A cluster with Kerberos and no TLS settings. -/
def kerberosOnlyCluster : KafkaCluster :=
  .sample [⟨"kerberos", some ⟨"kerberos"⟩⟩] none ⟨none, none, none⟩

/-- Its security settings. -/
def kerberosOnlySecurity : KafkaSecurity where
  kafkaAuthentications := [⟨"kerberos", some ⟨"kerberos"⟩⟩]
  resolvedAnthenticationClass := ""
  internalSecretClass := ""
  serverSecretClass := ""
  sslStorePassword := ""
  kerberosAuth := some ⟨some ⟨kerberosOnlyCluster⟩⟩

theorem tls_complete_iff_kerberosOnly :
    ¬ TlsComplete (.reference fun _ => false) kerberosOnlySecurity := by
  rw [tls_complete_iff _ kerberosOnlyCluster kerberosOnlySecurity rfl]
  decide

/-- The client listener of that cluster has protocol `SSL` and no key store, and the key store
of its bootstrap listener lies in a directory for which no volume is added. -/
theorem kerberosOnly_incomplete :
    newKafkaSecurity kerberosOnlyCluster = .ok kerberosOnlySecurity ∧
    (getKafkaListenerConfig "default" kerberosOnlySecurity
      "kafkacluster-sample-broker-default").listenerSecurityProtocolMap.get .client = some .ssl ∧
    kerberosOnlySecurity.configSettings.get "listener.name.client.ssl.keystore.location" = none ∧
    kerberosOnlySecurity.configSettings.get "listener.name.bootstrap.ssl.keystore.location" =
      some "/kubedoop/tls_keystore_server/keystore.p12" ∧
    ∀ c sts lifetime,
      kerberosOnlySecurity.addVolumeAndVolumeMounts c sts lifetime = .ok sts := by
  refine ⟨rfl, rfl, ?_, ?_, fun c sts lifetime => rfl⟩
  · decide
  · decide

end KafkaOperator
