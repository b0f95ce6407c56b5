import KafkaOperator.OperatorGo

/-! # Security settings

`internal/security` and the helpers it uses: which of Kerberos, server TLS and internal TLS
a cluster has switched on, the ports and port names that follow, the settings for
`server.properties`, and the secret volumes with the certificates and keytabs. -/

namespace KafkaOperator

open Go

/-! ### Directories and volume names -/

def kubedoopTLSKeyStoreServerDir : String := kubedoopRoot ++ "/tls_keystore_server"
def kubedoopTLSKeyStoreServerDirName : String := "tls-keystore-server"
def kubedoopTLSKeyStoreInternalDir : String := kubedoopRoot ++ "/tls_keystore_internal"
def kubedoopTLSKeyStoreInternalDirName : String := "tls-keystore-internal"
def pkcs12 : String := "PKCS12"
def secretStorageClass : String := "secrets.kubedoop.dev"

/-! ### Kerberos -/

/-- The entry enables Kerberos: it names a non-empty secret class. -/
def KafkaAuthenticationSpec.enablesKerberos (a : KafkaAuthenticationSpec) : Bool :=
  match a.kerberos with
  | some p => p.kerberosSecretClass != ""
  | none => false

structure KafkaRole where
  cluster : KafkaCluster

namespace KafkaRole

def kerberosServiceName : String := "kafka"

/-- The class of the first entry that enables Kerberos. -/
def firstKerberosClass : List KafkaAuthenticationSpec → String
  | [] => ""
  | a :: auths => match a.kerberos with
    | some p => if p.kerberosSecretClass != "" then p.kerberosSecretClass else firstKerberosClass auths
    | none => firstKerberosClass auths

def getKerberosSecretClass (r : KafkaRole) : Outcome String := do
  let cc ← Outcome.deref r.cluster.spec.clusterConfig
  pure (firstKerberosClass cc.authentication)

end KafkaRole

/-- `Role` is a pointer. -/
structure KerberosAuthentication where
  role : Option KafkaRole

namespace KerberosAuthentication

def getVolumeMount : List VolumeMount := [⟨kubedoopKerberosName, kubedoopKerberosDir⟩]

def getEnvs : List EnvVar :=
  [⟨"KRB5_CONFIG", .value kubedoopKerberosKrb5Path⟩,
    ⟨"KAFKA_OPTS", .value ("-Djava.security.krb5.conf=" ++ kubedoopKerberosKrb5Path)⟩]

/-- The scope annotation: one listener scope for each of the two listener volumes. -/
def scopeStr : String :=
  let s := [kubedoopListenerBroker, kubedoopListenerBootstrap].foldl
    (fun s x => s ++ "," ++ "listener-volume=" ++ x) ""
  String.ofList (s.toList.drop 1) -- remove leading ","

def getVolumes (c : Constants) (k : KerberosAuthentication) : Outcome (List Volume) := do
  let role ← Outcome.deref k.role
  let secretClass ← role.getKerberosSecretClass
  pure [⟨kubedoopKerberosName, .ephemeral
    { annotations := Map.ofList [(c.annotationSecretsClass, secretClass),
        (c.annotationSecretsScope, scopeStr),
        (c.annotationSecretsKerberosServiceNames, KafkaRole.kerberosServiceName)]
      labels := none
      storageClassName := secretStorageClass }⟩]

end KerberosAuthentication

/-! ### The settings of a cluster -/

structure KafkaSecurity where
  kafkaAuthentications : List KafkaAuthenticationSpec
  resolvedAnthenticationClass : String
  internalSecretClass : String
  serverSecretClass : String
  sslStorePassword : String
  kerberosAuth : Option KerberosAuthentication

namespace KafkaSecurity

variable (k : KafkaSecurity)

def isKerberosEnabled : Bool := k.kafkaAuthentications.any (·.enablesKerberos)

def tlsServerSecretClass : String := k.serverSecretClass

def tlsClientAuthenticationClass : String := k.resolvedAnthenticationClass

def tlsInternalSecretClass : String :=
  if k.internalSecretClass != "" then k.internalSecretClass else ""

def tlsEnabled : Bool := k.tlsClientAuthenticationClass != "" || k.tlsServerSecretClass != ""

def clientPort : ℕ := if k.tlsEnabled then securityClientPort else KafkaOperator.clientPort

def bootstrapPort : ℕ := if k.tlsEnabled then bootstrapSecurePort else KafkaOperator.bootstrapPort

def clientPortName : String :=
  if k.tlsEnabled then secureClientPortName else KafkaOperator.clientPortName

def bootstrapPortName : String := KafkaOperator.bootstrapPortName

def internalPort : ℕ :=
  if k.tlsInternalSecretClass != "" || k.isKerberosEnabled then securityInternalPort
  else KafkaOperator.internalPort

def getKerberosAuth : Outcome (Option KerberosAuthentication) :=
  if k.isKerberosEnabled then
    match k.kerberosAuth with
    | none => .err "kerberos is enabled, but has a nil kerberos auth in KafkaSecurit"
    | some a => .ok (some a)
  else .ok none

end KafkaSecurity

/-- The settings `NewKafkaSecurity` reads off a cluster. -/
def newKafkaSecurity (cluster : KafkaCluster) : Outcome KafkaSecurity := do
  let cc ← Outcome.deref cluster.spec.clusterConfig
  let k : KafkaSecurity :=
    { kafkaAuthentications := cc.authentication
      resolvedAnthenticationClass := "" -- unsupport currently
      internalSecretClass := ""
      serverSecretClass := ""
      sslStorePassword := ""
      kerberosAuth := none }
  let k := match cc.tls with
    | some t => { k with
        internalSecretClass := t.internalSecretClass
        serverSecretClass := t.serverSecretClass
        sslStorePassword := t.sslStorePassword }
    | none => k
  pure (if k.isKerberosEnabled then { k with kerberosAuth := some ⟨some ⟨cluster⟩⟩ } else k)

/-- `NewKafkaSecurity` in closed form.  Client certificate authentication is never on, and the
Kerberos authentication is there exactly if the list enables Kerberos. -/
theorem newKafkaSecurity_eq {cluster : KafkaCluster} {k : KafkaSecurity}
    (h : newKafkaSecurity cluster = .ok k) : ∃ cc, cluster.spec.clusterConfig = some cc ∧ k =
      { kafkaAuthentications := cc.authentication
        resolvedAnthenticationClass := ""
        internalSecretClass := (cc.tls.map (·.internalSecretClass)).getD ""
        serverSecretClass := (cc.tls.map (·.serverSecretClass)).getD ""
        sslStorePassword := (cc.tls.map (·.sslStorePassword)).getD ""
        kerberosAuth := if cc.authentication.any (·.enablesKerberos) then some ⟨some ⟨cluster⟩⟩
          else none } := by
  obtain ⟨cc, hcc, hk⟩ := Outcome.bind_eq_ok.mp h
  refine ⟨cc, Outcome.deref_eq_ok.mp hcc, ?_⟩
  have hk' := (Outcome.ok.inj hk).symm
  rw [hk']
  cases cc.tls <;> cases he : cc.authentication.any (·.enablesKerberos) <;>
    simp [KafkaSecurity.isKerberosEnabled, he]

theorem newKafkaSecurity_clientAuth {cluster : KafkaCluster} {k : KafkaSecurity}
    (h : newKafkaSecurity cluster = .ok k) : k.tlsClientAuthenticationClass = "" := by
  obtain ⟨cc, -, rfl⟩ := newKafkaSecurity_eq h
  rfl

theorem newKafkaSecurity_kerberosAuth {cluster : KafkaCluster} {k : KafkaSecurity}
    (h : newKafkaSecurity cluster = .ok k) (hk : k.isKerberosEnabled = true) :
    k.kerberosAuth = some ⟨some ⟨cluster⟩⟩ := by
  obtain ⟨cc, -, rfl⟩ := newKafkaSecurity_eq h
  exact if_pos hk

/-! ### Settings for `server.properties` -/

/-- The keys of a listener's key store and trust store. -/
structure StoreKeys where
  keyStoreLocation : String
  keyStorePassword : String
  keyStoreType : String
  trustStoreLocation : String
  trustStorePassword : String
  trustStoreType : String

def clientSSL : StoreKeys where
  keyStoreLocation := "listener.name.client.ssl.keystore.location"
  keyStorePassword := "listener.name.client.ssl.keystore.password"
  keyStoreType := "listener.name.client.ssl.keystore.type"
  trustStoreLocation := "listener.name.client.ssl.truststore.location"
  trustStorePassword := "listener.name.client.ssl.truststore.password"
  trustStoreType := "listener.name.client.ssl.truststore.type"

def clientAuthSSL : StoreKeys where
  keyStoreLocation := "listener.name.client_auth.ssl.keystore.location"
  keyStorePassword := "listener.name.client_auth.ssl.keystore.password"
  keyStoreType := "listener.name.client_auth.ssl.keystore.type"
  trustStoreLocation := "listener.name.client_auth.ssl.truststore.location"
  trustStorePassword := "listener.name.client_auth.ssl.truststore.password"
  trustStoreType := "listener.name.client_auth.ssl.truststore.type"

def interSSL : StoreKeys where
  keyStoreLocation := "listener.name.internal.ssl.keystore.location"
  keyStorePassword := "listener.name.internal.ssl.keystore.password"
  keyStoreType := "listener.name.internal.ssl.keystore.type"
  trustStoreLocation := "listener.name.internal.ssl.truststore.location"
  trustStorePassword := "listener.name.internal.ssl.truststore.password"
  trustStoreType := "listener.name.internal.ssl.truststore.type"

def bootstrapSSL : StoreKeys where
  keyStoreLocation := "listener.name.bootstrap.ssl.keystore.location"
  keyStorePassword := "listener.name.bootstrap.ssl.keystore.password"
  keyStoreType := "listener.name.bootstrap.ssl.keystore.type"
  trustStoreLocation := "listener.name.bootstrap.ssl.truststore.location"
  trustStorePassword := "listener.name.bootstrap.ssl.truststore.password"
  trustStoreType := "listener.name.bootstrap.ssl.truststore.type"

def clientAuthSSLClientAuth : String := "listener.name.client_auth.ssl.client.auth"
def interSSLClientAuth : String := "listener.name.internal.ssl.client.auth"
def interBrokerListenerName : String := "inter.broker.listener.name"

/-- The six assignments for a listener whose stores lie in `dir`. -/
def setStores (config : Map String String) (keys : StoreKeys) (dir password : String) :
    Map String String :=
  (((((config.set keys.keyStoreLocation (dir ++ "/keystore.p12")).set
    keys.keyStorePassword password).set
    keys.keyStoreType pkcs12).set
    keys.trustStoreLocation (dir ++ "/truststore.p12")).set
    keys.trustStorePassword password).set
    keys.trustStoreType pkcs12

def KafkaSecurity.configSettings (k : KafkaSecurity) : Map String String :=
  let config : Map String String := Map.empty
  -- client tls with authentication, or client tls without authentication
  let config :=
    if k.tlsClientAuthenticationClass != "" then
      (setStores config clientAuthSSL kubedoopTLSKeyStoreServerDir k.sslStorePassword).set
        clientAuthSSLClientAuth "required"
    else if k.tlsServerSecretClass != "" then
      setStores config clientSSL kubedoopTLSKeyStoreServerDir k.sslStorePassword
    else config
  let config :=
    if k.isKerberosEnabled then
      setStores config bootstrapSSL kubedoopTLSKeyStoreServerDir k.sslStorePassword
    else config
  let config :=
    if k.isKerberosEnabled then
      ((config.set "sasl.enabled.mechanisms" "GSSAPI").set
        "sasl.kerberos.service.name" "kafka").set
        "sasl.mechanism.inter.broker.protocol" "GSSAPI"
    else config
  let config :=
    if k.tlsInternalSecretClass != "" then
      (setStores config interSSL kubedoopTLSKeyStoreInternalDir k.sslStorePassword).set
        interSSLClientAuth "required"
    else config
  config.set interBrokerListenerName "INTERNAL"

/-! ### Secret volumes -/

/-- `util.SecretVolumeBuilder`; the annotations may be nil. -/
structure SecretVolumeBuilder where
  volumeName : String
  annotations : Option (Map String String)

namespace SecretVolumeBuilder

def addAnnotation (b : SecretVolumeBuilder) (key value : String) : SecretVolumeBuilder :=
  { b with annotations := some ((b.annotations.getD Map.empty).set key value) }

def setAnnotations (b : SecretVolumeBuilder) (m : Map String String) : SecretVolumeBuilder :=
  { b with annotations := some m }

def build (b : SecretVolumeBuilder) : Volume :=
  ⟨b.volumeName, .ephemeral
    { annotations := b.annotations.getD Map.empty
      labels := none
      storageClassName := secretStorageClass }⟩

end SecretVolumeBuilder

def createTlsKeystoreVolume (c : Constants)
    (volumeName secretClass sslStorePassword requestedSecretLifeTime : String) : Volume :=
  let builder : SecretVolumeBuilder := ⟨volumeName, none⟩
  let secretScopes := [c.listenerVolumeScope ++ "=" ++ kubedoopListenerBroker,
    c.listenerVolumeScope ++ "=" ++ kubedoopListenerBootstrap, c.podScope, c.nodeScope]
  let builder := if requestedSecretLifeTime != "" then
      builder.addAnnotation c.annotationSecretCertLifeTime requestedSecretLifeTime
    else builder
  let builder := builder.setAnnotations (Map.ofList [(c.annotationSecretsClass, secretClass),
    (c.annotationSecretsScope, c.commonDelimiter.intercalate secretScopes),
    (c.annotationSecretsFormat, c.tlsP12)])
  let builder := if sslStorePassword != "" then
      builder.addAnnotation c.annotationSecretsPKCS12Password sslStorePassword
    else builder
  builder.build

/-! ### Adding the volumes to a StatefulSet -/

/-- The index of the first container with the given name; `none` stands for a nil pointer. -/
def getContainer (containers : List Container) (name : String) : Option ℕ :=
  containers.findIdx? (fun c => c.name = name)

def StatefulSet.addVolume (sts : StatefulSet) (v : Volume) : StatefulSet :=
  { sts with template := { sts.template with volumes := sts.template.volumes ++ [v] } }

def Container.addVolumeMount (c : Container) (m : VolumeMount) : Container :=
  { c with volumeMounts := c.volumeMounts ++ [m] }

/-- Append a mount to the container a pointer from `getContainer` points to. -/
def StatefulSet.addVolumeMount (sts : StatefulSet) (container : Option ℕ)
    (volumeName mountPath : String) : Outcome StatefulSet := do
  let i ← Outcome.deref container
  pure { sts with template := { sts.template with
    containers := sts.template.containers.modify i (·.addVolumeMount ⟨volumeName, mountPath⟩) } }

/-- One of the two blocks of `AddVolumeAndVolumeMounts`: a volume with stores and its mount in
the kafka container, if the secret class is set. -/
def KafkaSecurity.addKeystore (c : Constants) (k : KafkaSecurity) (kafkaContainer : Option ℕ)
    (secretClass volumeName dir requestLifeTime : String) (sts : StatefulSet) :
    Outcome StatefulSet :=
  if secretClass != "" then
    (sts.addVolume (createTlsKeystoreVolume c volumeName secretClass k.sslStorePassword
      requestLifeTime)).addVolumeMount kafkaContainer volumeName dir
  else pure sts

def KafkaSecurity.addVolumeAndVolumeMounts (c : Constants) (k : KafkaSecurity) (sts : StatefulSet)
    (requestLifeTime : String) : Outcome StatefulSet := do
  let kafkaContainer := getContainer sts.template.containers "kafka"
  let sts ← k.addKeystore c kafkaContainer k.tlsServerSecretClass
    kubedoopTLSKeyStoreServerDirName kubedoopTLSKeyStoreServerDir requestLifeTime sts
  k.addKeystore c kafkaContainer k.tlsInternalSecretClass
    kubedoopTLSKeyStoreInternalDirName kubedoopTLSKeyStoreInternalDir requestLifeTime sts

end KafkaOperator
