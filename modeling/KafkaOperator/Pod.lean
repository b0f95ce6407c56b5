import KafkaOperator.NoCrash

/-! # What the `Build` of a StatefulSet returns

`StatefulSetBuilder.Build` adds containers, volumes and claims to a builder, has operator-go
assemble the pod template, and adds the TLS volumes to the assembled object.  The parts are named
here once: `workload_eq_ok` for what was added, `addVolumeAndVolumeMounts_eq` for the TLS volumes,
and `buildFrom_eq_ok` for the whole. -/

namespace KafkaOperator

open Go

/-! ### The TLS volumes -/

theorem createTlsKeystoreVolume_name (c : Constants)
    (volumeName secretClass password lifetime : String) :
    (createTlsKeystoreVolume c volumeName secretClass password lifetime).name = volumeName := by
  unfold createTlsKeystoreVolume
  split_ifs <;> rfl

/-- A volume with key stores: the secret class it is filled from, its name, and the directory it
is mounted at. -/
structure Keystore where
  secretClass : String
  volumeName : String
  dir : String
deriving DecidableEq, Repr

namespace Keystore

variable (s : Keystore)

def volume (c : Constants) (k : KafkaSecurity) (lifetime : String) : Volume :=
  createTlsKeystoreVolume c s.volumeName s.secretClass k.sslStorePassword lifetime

def mount : VolumeMount := ⟨s.volumeName, s.dir⟩

end Keystore

def Container.addVolumeMounts (c : Container) (ms : List VolumeMount) : Container :=
  { c with volumeMounts := c.volumeMounts ++ ms }

namespace KafkaSecurity

variable (k : KafkaSecurity)

/-- The volumes with key stores that a cluster's pods get: one for each secret class that is
set. -/
def keystores : List Keystore :=
  [⟨k.tlsServerSecretClass, kubedoopTLSKeyStoreServerDirName, kubedoopTLSKeyStoreServerDir⟩,
    ⟨k.tlsInternalSecretClass, kubedoopTLSKeyStoreInternalDirName,
      kubedoopTLSKeyStoreInternalDir⟩].filter (fun s => s.secretClass != "")

/-- Add volumes with key stores to the pods, and mount them in the container `i`. -/
def withKeystores (c : Constants) (lifetime : String) (i : ℕ) (l : List Keystore)
    (sts : StatefulSet) : StatefulSet :=
  { sts with template := { sts.template with
    containers := sts.template.containers.modify i (·.addVolumeMounts (l.map (·.mount)))
    volumes := sts.template.volumes ++ l.map (·.volume c k lifetime) } }

theorem withKeystores_nil (c : Constants) (lifetime : String) (i : ℕ) (sts : StatefulSet) :
    k.withKeystores c lifetime i [] sts = sts := by
  have hid : (fun x : Container => x.addVolumeMounts []) = id := by
    funext x
    simp [Container.addVolumeMounts]
  simp [withKeystores, hid]

theorem withKeystores_append (c : Constants) (lifetime : String) (i : ℕ) (l l' : List Keystore)
    (sts : StatefulSet) :
    k.withKeystores c lifetime i l' (k.withKeystores c lifetime i l sts) =
      k.withKeystores c lifetime i (l ++ l') sts := by
  simp [withKeystores, List.modify_modify_eq, Function.comp_def, Container.addVolumeMounts]

theorem addKeystore_eq (c : Constants) (i : ℕ) (s : Keystore) (lifetime : String)
    (sts : StatefulSet) :
    k.addKeystore c (some i) s.secretClass s.volumeName s.dir lifetime sts =
      .ok (k.withKeystores c lifetime i ([s].filter (fun s => s.secretClass != "")) sts) := by
  unfold addKeystore
  split_ifs with hclass
  · rw [List.filter_cons_of_pos (by exact hclass)]
    rfl
  · rw [List.filter_cons_of_neg (by exact hclass), List.filter_nil, k.withKeystores_nil]
    rfl

/-- **The TLS volumes**, where the kafka container is container `i`. -/
theorem addVolumeAndVolumeMounts_eq (c : Constants) {sts : StatefulSet} {i : ℕ}
    (hi : getContainer sts.template.containers "kafka" = some i) (lifetime : String) :
    k.addVolumeAndVolumeMounts c sts lifetime =
      .ok (k.withKeystores c lifetime i k.keystores sts) := by
  simp only [addVolumeAndVolumeMounts, hi]
  rw [k.addKeystore_eq c i ⟨k.tlsServerSecretClass, _, _⟩, Outcome.ok_bind,
    k.addKeystore_eq c i ⟨k.tlsInternalSecretClass, _, _⟩, k.withKeystores_append,
    ← List.filter_append]
  rfl

end KafkaSecurity

/-! ### The command of the main container -/

namespace KafkaContainerBuilder

variable {d : KafkaContainerBuilder}

theorem launchCommand_server {listeners advertised protocols cmd : String}
    (h : d.launchCommand listeners advertised protocols = .ok cmd) :
    ∃ rest, cmd = serverCommand listeners advertised protocols ++ rest := by
  cases hk : d.kafkaSecurity.isKerberosEnabled with
  | false =>
      rw [d.launchCommand_plain hk] at h
      exact ⟨" &", (Outcome.ok.inj h).symm⟩
  | true =>
      cases ha : d.getKerbersoAuth with
      | none =>
          rw [d.launchCommand_nilAuth hk ha] at h
          cases h
      | some a =>
          rw [d.launchCommand_kerberos hk ha, String.append_assoc] at h
          exact ⟨_, (Outcome.ok.inj h).symm⟩

/-- The single argument of the container: the server command, for the listeners of the builder, with
text around it. -/
theorem commandArgs_eq_ok {op : OperatorGo}
    {order : List (KafkaListenerName × KafkaListenerProtocol)} {args : List String}
    (h : d.commandArgs op order = .ok args) :
    ∃ p q, args = [p ++ serverCommand
      (getKafkaListenerConfig d.kubeNamespace d.kafkaSecurity d.groupSvcName).listenersString
      (getKafkaListenerConfig d.kubeNamespace d.kafkaSecurity d.groupSvcName).advertisedListenersString
      (KafkaListenerConfig.listenerSecurityProtocolMapString order) ++ q] := by
  obtain ⟨cmd, hcmd, h⟩ := Outcome.bind_eq_ok.mp h
  obtain rfl := Outcome.ok.inj h
  obtain ⟨rest, rfl⟩ := launchCommand_server hcmd
  generalize (if d.kafkaSecurity.isKerberosEnabled = true then _ else _ : List String) = before
  obtain ⟨p, q, hpq⟩ := intercalate_context "\n" before
    ["wait_for_termination", op.createVectorShutdownFileCommand]
  refine ⟨p, rest ++ q, ?_⟩
  rw [hpq]
  simp only [String.append_assoc]

end KafkaContainerBuilder

/-! ### What is added to the builder -/

namespace StatefulSetBuilder

variable (op : OperatorGo) (b : StatefulSetBuilder)

/-- The builder of the main container. -/
def kafkaContainer (cc : ClusterConfigSpec) : KafkaContainerBuilder :=
  newKafkaContainer cc.zookeeperConfigMapName b.kafkaTlsSecurity b.kubeNamespace b.info.getFullName

/-- The main container: everything but its arguments and resources is the container builder's. -/
structure MainContainer (order : List (KafkaListenerName × KafkaListenerProtocol))
    (v : BrokersConfigSpec) (main : Container) : Prop where
  name : main.name = "kafka"
  built : ∃ cc rgc, b.clusterConfig = some cc ∧ v.roleGroupConfigSpec = some rgc ∧
    (b.kafkaContainer cc).commandArgs op order = .ok main.args ∧
    main.env = (b.kafkaContainer cc).containerEnv ∧
    main.volumeMounts = (b.kafkaContainer cc).volumeMount ∧
    main.ports = kafkaContainerPorts b.kafkaTlsSecurity ∧ main.resources = rgc.resources

/-- The volumes that `Volumes` returns. -/
structure PodVolumes (volumes : List Volume) : Prop where
  names : volumes.map (·.name) = [kubedoopLogDirName, kubedoopLogConfigDirName,
    kubedoopConfigDirName, kubedoopListenerBroker] ++
      if b.kafkaTlsSecurity.isKerberosEnabled then [kubedoopKerberosName] else []
  logConfig : ⟨kubedoopLogConfigDirName, .configMap (roleGroupConfigMapName b.info)⟩ ∈ volumes
  config : ⟨kubedoopConfigDirName, .configMap (roleGroupConfigMapName b.info)⟩ ∈ volumes
  configMap : ∀ v ∈ volumes, ∀ n, v.source = .configMap n → n = roleGroupConfigMapName b.info

/-- The workload before operator-go assembles the pod template. -/
structure BuiltWorkload (order : List (KafkaListenerName × KafkaListenerProtocol))
    (overrides : Option OverridesSpec) (v : BrokersConfigSpec) (w : Workload) : Prop where
  overrides_eq : w.overrides = overrides
  parts : ∃ main volumes rgc enabled, MainContainer op b order v main ∧ PodVolumes b volumes ∧
    v.roleGroupConfigSpec = some rgc ∧ isVectorEnable rgc.logging = .ok enabled ∧
    w.containers = main :: (if enabled then
      [op.vectorContainer kubedoopConfigDirName kubedoopLogDirName b.image] else []) ∧
    w.volumes = volumes ++ (if enabled then
      op.vectorVolumes kubedoopConfigDirName kubedoopLogDirName b.image else [])
  claims : w.volumeClaimTemplates.map (·.name) = [kubedoopListenerBootstrap, kubedoopKafkaDataDirName]

variable {op b}

theorem createMainContainer_eq_ok {order : List (KafkaListenerName × KafkaListenerProtocol)}
    {v : BrokersConfigSpec} {main : Container} (h : b.createMainContainer op order v = .ok main) :
    MainContainer op b order v main := by
  obtain ⟨cc, hcc, h⟩ := Outcome.bind_eq_ok.mp h
  obtain ⟨args, hargs, h⟩ := Outcome.bind_eq_ok.mp h
  obtain ⟨rgc, hrgc, h⟩ := Outcome.bind_eq_ok.mp h
  obtain rfl := Outcome.ok.inj h
  exact ⟨rfl, cc, rgc, Outcome.deref_eq_ok.mp hcc, Outcome.deref_eq_ok.mp hrgc, hargs, rfl, rfl, rfl,
    rfl⟩

theorem volumes_eq_ok {v : BrokersConfigSpec} {volumes : List Volume}
    (h : b.volumes op v = .ok volumes) : PodVolumes b volumes := by
  obtain ⟨source, hsource, h⟩ := Outcome.bind_eq_ok.mp h
  obtain ⟨a, -, hsource⟩ := Outcome.bind_eq_ok.mp hsource
  obtain rfl := Outcome.ok.inj hsource
  cases hk : b.kafkaTlsSecurity.isKerberosEnabled with
  | false =>
      simp only [hk, Bool.false_eq_true, if_false] at h
      obtain rfl := Outcome.ok.inj h
      exact ⟨by simp [hk], by simp, by simp, by simp⟩
  | true =>
      simp only [hk, if_true] at h
      obtain ⟨auth, -, h⟩ := Outcome.bind_eq_ok.mp h
      obtain ⟨kerberos, hkerberos, h⟩ := Outcome.bind_eq_ok.mp h
      obtain ⟨role, -, hkerberos⟩ := Outcome.bind_eq_ok.mp hkerberos
      obtain ⟨secretClass, -, hkerberos⟩ := Outcome.bind_eq_ok.mp hkerberos
      obtain rfl := Outcome.ok.inj hkerberos
      obtain rfl := Outcome.ok.inj h
      exact ⟨by simp [hk], by simp, by simp, by simp⟩

theorem bootstrapListenerPvc_name {pvc : PersistentVolumeClaim}
    (h : b.bootstrapListenerPvc op = .ok pvc) : pvc.name = kubedoopListenerBootstrap := by
  obtain ⟨a, -, h⟩ := Outcome.bind_eq_ok.mp h
  obtain rfl := Outcome.ok.inj h
  rfl

theorem dataPvc_name {v : BrokersConfigSpec} {pvc : PersistentVolumeClaim}
    (h : b.dataPvc op v = .ok pvc) : pvc.name = kubedoopKafkaDataDirName := by
  obtain ⟨rgc, -, h⟩ := Outcome.bind_eq_ok.mp h
  obtain ⟨resources, -, h⟩ := Outcome.bind_eq_ok.mp h
  obtain rfl := Outcome.ok.inj h
  rfl

/-- **What `Build` adds** before it calls `GetObject`. -/
theorem workload_eq_ok {order : List (KafkaListenerName × KafkaListenerProtocol)}
    {overrides : Option OverridesSpec} {v : BrokersConfigSpec} {w : Workload}
    (h : b.workload op order overrides v = .ok w) : BuiltWorkload op b order overrides v w := by
  obtain ⟨main, hmain, h⟩ := Outcome.bind_eq_ok.mp h
  obtain ⟨listenerPvc, hlistener, h⟩ := Outcome.bind_eq_ok.mp h
  obtain ⟨dataPvc, hdata, h⟩ := Outcome.bind_eq_ok.mp h
  obtain ⟨volumes, hvolumes, h⟩ := Outcome.bind_eq_ok.mp h
  obtain ⟨rgc, hrgc, h⟩ := Outcome.bind_eq_ok.mp h
  obtain ⟨enabled, henabled, h⟩ := Outcome.bind_eq_ok.mp h
  have hclaims : [listenerPvc, dataPvc].map (·.name) =
      [kubedoopListenerBootstrap, kubedoopKafkaDataDirName] := by
    rw [List.map_cons, List.map_cons, bootstrapListenerPvc_name hlistener, dataPvc_name hdata]
    rfl
  cases enabled with
  | false =>
      obtain rfl := Outcome.ok.inj h
      exact ⟨rfl, ⟨main, volumes, rgc, false, createMainContainer_eq_ok hmain,
        volumes_eq_ok hvolumes, Outcome.deref_eq_ok.mp hrgc, henabled, rfl,
        (List.append_nil _).symm⟩, hclaims⟩
  | true =>
      obtain rfl := Outcome.ok.inj h
      exact ⟨rfl, ⟨main, volumes, rgc, true, createMainContainer_eq_ok hmain,
        volumes_eq_ok hvolumes, Outcome.deref_eq_ok.mp hrgc, henabled, rfl, rfl⟩, hclaims⟩

/-! ### The StatefulSet -/

/-- **What `Build` returns**: the object around the assembled pod template, with the TLS volumes of
the merged certificate lifetime. -/
theorem buildFrom_eq_ok {order : List (KafkaListenerName × KafkaListenerProtocol)}
    {overrides : Option OverridesSpec} {v : BrokersConfigSpec} {sts : StatefulSet}
    (h : b.buildFrom op order overrides v = .ok sts) :
    ∃ w t i, b.workload op order overrides v = .ok w ∧ op.getPodTemplate w = .ok t ∧
      getContainer t.containers "kafka" = some i ∧
      sts = b.kafkaTlsSecurity.withKeystores op.consts v.requestedSecretLifeTime i
        b.kafkaTlsSecurity.keystores
        { name := b.info.getFullName
          kubeNamespace := b.kubeNamespace
          labels := op.labels b.info
          replicas := b.replicas
          serviceName := b.info.getFullName
          podManagementPolicy := "Parallel"
          template := { t with serviceAccountName := serviceAccountName b.info.clusterName }
          volumeClaimTemplates := w.volumeClaimTemplates } := by
  obtain ⟨w, hw, h⟩ := Outcome.bind_eq_ok.mp h
  obtain ⟨sts₀, hobject, h⟩ := Outcome.bind_eq_ok.mp h
  obtain ⟨t, ht, hobject⟩ := Outcome.bind_eq_ok.mp hobject
  obtain rfl := Outcome.ok.inj hobject
  -- the template has a kafka container, since the workload has one
  obtain ⟨c, hc, hname⟩ := workload_container hw
  obtain ⟨c', hc', hname'⟩ := op.getPodTemplate_containers w t ht c hc
  obtain ⟨i, hi⟩ := Option.isSome_iff_exists.mp
    (getContainer_isSome ⟨c', hc', hname'.trans hname⟩)
  rw [KafkaSecurity.addVolumeAndVolumeMounts_eq _ _ (i := i) hi] at h
  exact ⟨w, t, i, hw, ht, hi, (Outcome.ok.inj h).symm⟩

end StatefulSetBuilder

end KafkaOperator
