import KafkaOperator.PodReferences

/-! # The annotations of the TLS volumes

`CreateTlsKeystoreVolume` first adds the requested certificate lifetime to the annotations of its
builder and then replaces them all.  So the volume has every annotation but that one
(`createTlsKeystoreVolume_annotations`), and `tls_volumes_complete_iff` says which volumes are
complete: those that nobody asked a lifetime for.  A registered role group always asks for one, since
an empty lifetime is filled with the default (`effectiveConfig_requestedSecretLifeTime`). -/

namespace KafkaOperator

open Go Relation

/-! ### What was asked for -/

namespace Constants

variable (c : Constants)

/-- The scopes of a TLS volume: those of the two listener volumes, the pod and the node. -/
def secretScopes : List String :=
  [c.listenerVolumeScope ++ "=" ++ kubedoopListenerBroker,
    c.listenerVolumeScope ++ "=" ++ kubedoopListenerBootstrap, c.podScope, c.nodeScope]

/-- The common delimiter is one letter, and no scope has it. -/
structure Delimits (d : Char) : Prop where
  delimiter : c.commonDelimiter = String.singleton d
  scopes : ∀ s ∈ c.secretScopes, d ∉ s.toList

/-- The annotations of a TLS volume that has all it was asked for. -/
def tlsAnnotations (secretClass password lifetime : String) : Map String String :=
  let m := Map.ofList [(c.annotationSecretsClass, secretClass),
    (c.annotationSecretsScope, c.commonDelimiter.intercalate c.secretScopes),
    (c.annotationSecretsFormat, c.tlsP12)]
  let m := if password != "" then m.set c.annotationSecretsPKCS12Password password else m
  if lifetime != "" then m.set c.annotationSecretCertLifeTime lifetime else m

variable {c}

/-- The keys of the annotations other than the scope, and those other than the lifetime. -/
theorem annotation_ne : c.annotationSecretsScope ≠ c.annotationSecretsFormat ∧
    c.annotationSecretsScope ≠ c.annotationSecretsPKCS12Password ∧
    c.annotationSecretsScope ≠ c.annotationSecretCertLifeTime ∧
    c.annotationSecretCertLifeTime ≠ c.annotationSecretsClass ∧
    c.annotationSecretCertLifeTime ≠ c.annotationSecretsFormat ∧
    c.annotationSecretCertLifeTime ≠ c.annotationSecretsPKCS12Password := by
  have hne := c.secretAnnotations_nodup
  simp only [List.nodup_cons, List.mem_cons, not_or] at hne
  obtain ⟨⟨-, -, -, h₁, -⟩, ⟨h₂, h₃, h₄, -⟩, ⟨-, h₅, -⟩, ⟨h₆, -⟩, -⟩ := hne
  exact ⟨h₂, h₃, h₄, Ne.symm h₁, Ne.symm h₅, Ne.symm h₆⟩

theorem tlsAnnotations_lifetime (secretClass password lifetime : String) :
    (c.tlsAnnotations secretClass password lifetime).get c.annotationSecretCertLifeTime =
      given "" lifetime := by
  obtain ⟨-, -, h₁, h₂, h₃, h₄⟩ := c.annotation_ne
  unfold tlsAnnotations given
  by_cases hl : lifetime = ""
  · by_cases hp : password = "" <;> simp [hl, hp, Map.ofList, Ne.symm h₁, h₂, h₃, h₄]
  · simp [hl]

theorem tlsAnnotations_scope (secretClass password lifetime : String) :
    (c.tlsAnnotations secretClass password lifetime).get c.annotationSecretsScope =
      some (c.commonDelimiter.intercalate c.secretScopes) := by
  obtain ⟨h₁, h₂, h₃, -⟩ := c.annotation_ne
  unfold tlsAnnotations
  by_cases hl : lifetime = "" <;> by_cases hp : password = "" <;>
    simp [hl, hp, Map.ofList, h₁, h₂, h₃]

/-- Splitting the joined scopes gives them back. -/
theorem Delimits.split_scopes {d : Char} (h : c.Delimits d) :
    split d (c.commonDelimiter.intercalate c.secretScopes) = c.secretScopes := by
  rw [h.delimiter]
  exact split_intercalate (List.cons_ne_nil _ _) h.scopes

end Constants

/-! ### What a volume has -/

/-- **The lifetime is lost**: the annotations are those of a volume without one. -/
theorem createTlsKeystoreVolume_annotations (c : Constants)
    (volumeName secretClass password lifetime : String) :
    (createTlsKeystoreVolume c volumeName secretClass password lifetime).annotations =
      c.tlsAnnotations secretClass password "" := by
  unfold createTlsKeystoreVolume
  by_cases hl : lifetime = "" <;> by_cases hp : password = "" <;>
    simp [hl, hp, Constants.tlsAnnotations, SecretVolumeBuilder.build,
      SecretVolumeBuilder.addAnnotation, SecretVolumeBuilder.setAnnotations, Volume.annotations,
      Constants.secretScopes]

theorem createTlsKeystoreVolume_complete_iff (c : Constants)
    (volumeName secretClass password lifetime : String) :
    (createTlsKeystoreVolume c volumeName secretClass password lifetime).annotations =
      c.tlsAnnotations secretClass password lifetime ↔ lifetime = "" := by
  rw [createTlsKeystoreVolume_annotations]
  constructor
  · intro heq
    have hget := congrArg (·.get c.annotationSecretCertLifeTime) heq
    simp only [Constants.tlsAnnotations_lifetime, given_self] at hget
    exact given_eq_none.mp hget.symm
  · rintro rfl
    rfl

/-- The scope annotation is the list of the scopes. -/
def Volume.HasScopes (c : Constants) (d : Char) (v : Volume) : Prop :=
  ∃ text, v.annotations.get c.annotationSecretsScope = some text ∧ split d text = c.secretScopes

/-- The volume has the lifetime, and the scopes. -/
structure Volume.CarriesSettings (c : Constants) (d : Char) (lifetime : String) (v : Volume) :
    Prop where
  lifetime : v.annotations.get c.annotationSecretCertLifeTime = some lifetime
  scopes : v.HasScopes c d

theorem createTlsKeystoreVolume_hasScopes {c : Constants} {d : Char} (hd : c.Delimits d)
    (volumeName secretClass password lifetime : String) :
    (createTlsKeystoreVolume c volumeName secretClass password lifetime).HasScopes c d := by
  refine ⟨_, ?_, hd.split_scopes⟩
  rw [createTlsKeystoreVolume_annotations]
  exact Constants.tlsAnnotations_scope _ _ _

theorem createTlsKeystoreVolume_lifetime (c : Constants)
    (volumeName secretClass password lifetime : String) :
    (createTlsKeystoreVolume c volumeName secretClass password lifetime).annotations.get
      c.annotationSecretCertLifeTime = none := by
  rw [createTlsKeystoreVolume_annotations, Constants.tlsAnnotations_lifetime]
  exact given_self ""

/-! ### The lifetime of a role group -/

/-- The lifetime that a role group asks for: its own, else the role's, else the default. -/
def BrokersSpec.requestedLifetime (spec : BrokersSpec) (name : String) : String :=
  (((spec.ownConfig name).bind (fun u => given "" u.requestedSecretLifeTime)).or
    (spec.config.bind (fun u => given "" u.requestedSecretLifeTime))).getD "1d"

theorem override_eq_getD {d x : String} : override "" d x = (given "" x).getD d := by
  unfold override given
  split_ifs <;> rfl

/-- Merging and filling, for the lifetime. -/
theorem mergedConfig_requestedSecretLifeTime (c : Constants) (m : MergeRules) (clusterName : String)
    (role own : Option BrokersConfigSpec) :
    (mergedConfig c m clusterName role own).requestedSecretLifeTime =
      ((own.bind (fun u => given "" u.requestedSecretLifeTime)).or
        (role.bind (fun u => given "" u.requestedSecretLifeTime))).getD "1d" := by
  have hfield : FieldWise (BrokersConfigSpec.merge m) (fun u => given "" u.requestedSecretLifeTime) :=
    MergesAs.comp (FieldWise.override "") _ (fun _ _ => rfl)
  rw [← mergePtr_right, ← MergesAs.ptr hfield role own]
  show override "" "1d" _ = _
  rw [override_eq_getD]
  cases mergePtr (BrokersConfigSpec.merge m) role own <;> rfl

theorem effectiveConfig_requestedSecretLifeTime (spec : BrokersSpec) (c : Constants) (m : MergeRules)
    (clusterName : String) (filled : Bool) (name : String) :
    (spec.effectiveConfig c m clusterName filled name).requestedSecretLifeTime =
      spec.requestedLifetime name := by
  rw [BrokersSpec.effectiveConfig, mergedConfig_requestedSecretLifeTime, BrokersSpec.requestedLifetime,
    BrokersSpec.roleConfig]
  generalize (spec.ownConfig name).bind _ = own
  -- filling the role's object first makes no difference to the value that wins
  cases own with
  | some lifetime => rfl
  | none =>
      cases filled with
      | false => rfl
      | true =>
          cases spec.config with
          | none => rfl
          | some u =>
              show (given "" (override "" "1d" u.requestedSecretLifeTime)).getD "1d" = _
              rw [← override_eq_getD, override_idem, override_eq_getD]
              rfl

/-! ### The volumes of a StatefulSet -/

/-- The volumes that `Build` adds to the pods after operator-go has assembled their template. -/
def StatefulSetBuilder.AddsVolumes (op : OperatorGo) (b : StatefulSetBuilder)
    (order : List (KafkaListenerName × KafkaListenerProtocol)) (h : Heap) (sts : StatefulSet)
    (added : List Volume) : Prop :=
  ∃ v w t, b.brokerConfig.bind h.configs.read = some v ∧
    b.workload op order (b.overrides.bind h.overrides.read) v = .ok w ∧
    op.getPodTemplate w = .ok t ∧ sts.template.volumes = t.volumes ++ added

namespace KafkaSecurity

variable (k : KafkaSecurity)

theorem keystores_eq_nil : k.keystores = [] ↔
    k.tlsServerSecretClass = "" ∧ k.tlsInternalSecretClass = "" := by
  simp [keystores, List.filter_eq_nil_iff]

/-- The TLS volumes carry a lifetime exactly if there are none. -/
theorem keystores_carry_iff {c : Constants} {d : Char} (lifetime asked : String) :
    (∀ v ∈ k.keystores.map (·.volume c k lifetime), v.CarriesSettings c d asked) ↔
      k.keystores = [] := by
  constructor
  · intro hall
    rw [List.eq_nil_iff_forall_not_mem]
    intro s hs
    have hlost := createTlsKeystoreVolume_lifetime c s.volumeName s.secretClass k.sslStorePassword
      lifetime
    have hget := (hall _ (List.mem_map_of_mem hs)).lifetime
    exact Option.some_ne_none _ (hget.symm.trans hlost)
  · intro hnil v hv
    rw [hnil] at hv
    cases hv

end KafkaSecurity

/-- The specification names a secret class for TLS. -/
def KafkaClusterSpec.UsesTls (s : KafkaClusterSpec) : Prop :=
  ∃ cc tls, s.clusterConfig = some cc ∧ cc.tls = some tls ∧
    (tls.serverSecretClass ≠ "" ∨ tls.internalSecretClass ≠ "")

theorem newKafkaSecurity_keystores {cluster : KafkaCluster} {k : KafkaSecurity}
    (h : newKafkaSecurity cluster = .ok k) : k.keystores = [] ↔ ¬ cluster.spec.UsesTls := by
  obtain ⟨cc, hcc, rfl⟩ := newKafkaSecurity_eq h
  rw [KafkaSecurity.keystores_eq_nil]
  unfold KafkaClusterSpec.UsesTls KafkaSecurity.tlsServerSecretClass
    KafkaSecurity.tlsInternalSecretClass
  cases htls : cc.tls with
  | none => simp [hcc, htls]
  | some tls => simp [hcc, htls]

namespace StatefulSetBuilder

variable {op : OperatorGo} {b : StatefulSetBuilder} {h : Heap}
  {order : List (KafkaListenerName × KafkaListenerProtocol)} {sts : StatefulSet}

/-- The volumes that `Build` adds are those of the key stores. -/
theorem addsVolumes_iff {added : List Volume} (hsts : (b.build op order h).1 = .ok sts) :
    b.AddsVolumes op order h sts added ↔ ∃ v, b.brokerConfig.bind h.configs.read = some v ∧
      added = b.kafkaTlsSecurity.keystores.map
        (·.volume op.consts b.kafkaTlsSecurity v.requestedSecretLifeTime) := by
  obtain ⟨v, hv, hfrom⟩ := Outcome.bind_eq_ok.mp hsts
  replace hv := Outcome.deref_eq_ok.mp hv
  obtain ⟨w, t, i, hw, ht, -, rfl⟩ := buildFrom_eq_ok hfrom
  constructor
  · rintro ⟨v', w', t', hv', hw', ht', hvolumes⟩
    obtain rfl := Option.some.inj (hv.symm.trans hv')
    obtain rfl := Outcome.ok.inj (hw.symm.trans hw')
    obtain rfl := Outcome.ok.inj (ht.symm.trans ht')
    exact ⟨v, hv, (List.append_cancel_left hvolumes).symm⟩
  · rintro ⟨v', hv', rfl⟩
    obtain rfl := Option.some.inj (hv.symm.trans hv')
    exact ⟨v, w, t, hv, hw, ht, rfl⟩

end StatefulSetBuilder

/-- The TLS volumes of a role group: one for each secret class of the cluster, made with the lifetime
that the group asks for. -/
theorem RegistersIn.addsVolumes_iff {op : OperatorGo} {cluster : KafkaCluster} {spec : BrokersSpec}
    {res : ClusterResources} {h h' : Heap} (hreg : RegistersIn op cluster spec res h)
    {b : RoleGroupResources} (hb : b ∈ res.roleGroups)
    (hrun : ReflTransGen (BuildStep op res.roleGroups) h h')
    {order : List (KafkaListenerName × KafkaListenerProtocol)} {sts : StatefulSet}
    (hsts : (b.statefulSet.build op order h').1 = .ok sts) {added : List Volume} :
    b.statefulSet.AddsVolumes op order h' sts added ↔ ∃ k, newKafkaSecurity cluster = .ok k ∧
      added = k.keystores.map
        (·.volume op.consts k (spec.requestedLifetime b.configMap.info.roleGroupName)) := by
  obtain ⟨k, image, hk, -, hnode⟩ := hreg.node
  obtain ⟨name, filled, -, hbuilt⟩ := hreg.built hb
  obtain ⟨config, -, hconfig, hread, -, -⟩ := hbuilt.config
  have hsecurity : b.statefulSet.kafkaTlsSecurity = k := by
    obtain ⟨_, _, _, rfl⟩ := hbuilt.registered
    rw [hnode]
    rfl
  have hv : b.statefulSet.brokerConfig.bind h'.configs.read =
      some (spec.effectiveConfig op.consts op.rules cluster.name filled name) := by
    rw [hconfig, ((PodInv.of_registers hreg).run hrun).configs]
    exact hread
  rw [StatefulSetBuilder.addsVolumes_iff hsts, hv, hsecurity, hbuilt.roleGroupName]
  constructor
  · rintro ⟨v, hv', rfl⟩
    obtain rfl := Option.some.inj hv'
    exact ⟨k, hk, by rw [effectiveConfig_requestedSecretLifeTime]⟩
  · rintro ⟨k', hk', rfl⟩
    obtain rfl := Outcome.ok.inj (hk.symm.trans hk')
    exact ⟨_, rfl, by rw [effectiveConfig_requestedSecretLifeTime]⟩

/-- **What reaches the TLS volumes.**  A volume has exactly the annotations it was asked for if and
only if no lifetime was asked for.  The TLS volumes of a role group have the four scopes; they carry
the group's lifetime too if and only if the cluster uses no TLS. -/
theorem tls_volumes_complete_iff (op : OperatorGo) :
    (∀ volumeName secretClass password lifetime,
      (createTlsKeystoreVolume op.consts volumeName secretClass password lifetime).annotations =
        op.consts.tlsAnnotations secretClass password lifetime ↔ lifetime = "") ∧
    ∀ cluster spec res h, RegistersIn op cluster spec res h → ∀ b ∈ res.roleGroups,
      ∀ h' order sts added, ReflTransGen (BuildStep op res.roleGroups) h h' →
        (b.statefulSet.build op order h').1 = .ok sts →
        b.statefulSet.AddsVolumes op order h' sts added → ∀ d, op.consts.Delimits d →
        (∀ v ∈ added, v.HasScopes op.consts d) ∧
          ((∀ v ∈ added, v.CarriesSettings op.consts d
              (spec.requestedLifetime b.configMap.info.roleGroupName)) ↔
            ¬ cluster.spec.UsesTls) := by
  refine ⟨createTlsKeystoreVolume_complete_iff op.consts, ?_⟩
  intro cluster spec res h hreg b hb h' order sts added hrun hsts hadd d hd
  obtain ⟨k, hk, rfl⟩ := (hreg.addsVolumes_iff hb hrun hsts).mp hadd
  refine ⟨?_, (k.keystores_carry_iff _ _).trans (newKafkaSecurity_keystores hk)⟩
  intro v hv
  obtain ⟨s, -, rfl⟩ := List.mem_map.mp hv
  exact createTlsKeystoreVolume_hasScopes hd _ _ _ _

/-! ### A cluster with TLS -/

theorem reference_delimits : Constants.reference.Delimits ',' where
  delimiter := by decide
  scopes := by decide

theorem securedCluster_usesTls : securedCluster.spec.UsesTls :=
  ⟨_, _, rfl, rfl, .inl (by decide)⟩

/-- The registration of the secured cluster, and the StatefulSet of its role group. -/
theorem securedCluster_addsVolumes :
    ∃ res h, RegistersIn (.reference (fun _ => false)) securedCluster securedBrokers res h ∧
      ∃ b ∈ res.roleGroups, b.configMap.info.roleGroupName = "default" ∧ ∀ order, ∃ sts added,
        (b.statefulSet.build (.reference (fun _ => false)) order h).1 = .ok sts ∧
        b.statefulSet.AddsVolumes (.reference (fun _ => false)) order h sts added := by
  obtain ⟨res, h, hreg⟩ := securedCluster_registers (fun _ => false)
  obtain ⟨b, hb, hname⟩ := hreg.exists_built "default" (by decide)
  obtain ⟨k, image, hk, -, -⟩ := hreg.node
  refine ⟨res, h, hreg, b, hb, hname, fun order => ?_⟩
  obtain ⟨sts, hsts⟩ := securedCluster_statefulSet_ok hreg hb order
  exact ⟨sts, _, hsts, (hreg.addsVolumes_iff hb .refl hsts).mpr ⟨k, hk, rfl⟩⟩

theorem tls_volumes_complete_iff_secured :
    ∃ res h, RegistersIn (.reference (fun _ => false)) securedCluster securedBrokers res h ∧
      ∃ b ∈ res.roleGroups, ∀ order, ∃ sts added,
        (b.statefulSet.build (.reference (fun _ => false)) order h).1 = .ok sts ∧
        b.statefulSet.AddsVolumes (.reference (fun _ => false)) order h sts added ∧
        (∀ v ∈ added, v.HasScopes .reference ',') ∧
        ¬ ∀ v ∈ added, v.CarriesSettings .reference ',' (securedBrokers.requestedLifetime "default") := by
  obtain ⟨res, h, hreg, b, hb, hname, hbuild⟩ := securedCluster_addsVolumes
  refine ⟨res, h, hreg, b, hb, fun order => ?_⟩
  obtain ⟨sts, added, hsts, hadd⟩ := hbuild order
  obtain ⟨hscopes, hcarry⟩ := (tls_volumes_complete_iff (.reference (fun _ => false))).2 _ _ res h hreg
    b hb h order sts added .refl hsts hadd ',' reference_delimits
  rw [hname] at hcarry
  exact ⟨sts, added, hsts, hadd, hscopes, fun hall => hcarry.mp hall securedCluster_usesTls⟩

/-- The role group asks for the default lifetime of a day, and its TLS volumes carry none. -/
theorem securedCluster_loses_lifetime :
    (createTlsKeystoreVolume .reference kubedoopTLSKeyStoreServerDirName "tls" "changeit"
      "1d").annotations.get Constants.reference.annotationSecretCertLifeTime = none ∧
    securedBrokers.requestedLifetime "default" = "1d" ∧
    ∃ res h, RegistersIn (.reference (fun _ => false)) securedCluster securedBrokers res h ∧
      ∃ b ∈ res.roleGroups, b.configMap.info.roleGroupName = "default" ∧ ∀ order, ∃ sts added,
        (b.statefulSet.build (.reference (fun _ => false)) order h).1 = .ok sts ∧
        b.statefulSet.AddsVolumes (.reference (fun _ => false)) order h sts added ∧ added ≠ [] ∧
        ∀ v ∈ added, v.annotations.get Constants.reference.annotationSecretCertLifeTime = none := by
  refine ⟨createTlsKeystoreVolume_lifetime _ _ _ _ _, by decide, ?_⟩
  obtain ⟨res, h, hreg, b, hb, hname, hbuild⟩ := securedCluster_addsVolumes
  refine ⟨res, h, hreg, b, hb, hname, fun order => ?_⟩
  obtain ⟨sts, added, hsts, hadd⟩ := hbuild order
  obtain ⟨k, hk, rfl⟩ := (hreg.addsVolumes_iff hb .refl hsts).mp hadd
  refine ⟨sts, _, hsts, hadd, ?_, ?_⟩
  · intro hnil
    exact (newKafkaSecurity_keystores hk).mp (List.map_eq_nil_iff.mp hnil) securedCluster_usesTls
  · intro v hv
    obtain ⟨s, -, rfl⟩ := List.mem_map.mp hv
    exact createTlsKeystoreVolume_lifetime _ _ _ _ _

end KafkaOperator
