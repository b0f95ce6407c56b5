import KafkaOperator.NoCrash

/-! # The views of Kerberos

Whether a cluster uses Kerberos is decided in two places: `IsKerberosEnabled` looks through the
authentication list that `NewKafkaSecurity` kept, and `GetKerberosSecretClass` looks through the one
of the cluster.  Five call sites ask the first and then use what depends on the second without a
check.

Both loops stop at the same entry (`firstKerberosClass_first`, `firstKerberosClass_none`), so the
answers agree for every list: `kerberos_views_agree`. -/

namespace KafkaOperator

open Go

/-! ### The two loops -/

/-- The class of the first entry that has a non-empty one. -/
def FirstClass (auths : List KafkaAuthenticationSpec) (secretClass : String) : Prop :=
  secretClass ≠ "" ∧ ∃ before e p after, auths = before ++ e :: after ∧
    (∀ x ∈ before, ∀ q, x.kerberos = some q → q.kerberosSecretClass = "") ∧
    e.kerberos = some p ∧ p.kerberosSecretClass = secretClass

namespace KafkaRole

/-- The loops treat the head of the list alike. -/
theorem firstKerberosClass_cons (a : KafkaAuthenticationSpec) (auths : List KafkaAuthenticationSpec) :
    (∃ p, a.kerberos = some p ∧ p.kerberosSecretClass ≠ "" ∧ a.enablesKerberos = true ∧
      firstKerberosClass (a :: auths) = p.kerberosSecretClass) ∨
    ((∀ q, a.kerberos = some q → q.kerberosSecretClass = "") ∧ a.enablesKerberos = false ∧
      firstKerberosClass (a :: auths) = firstKerberosClass auths) := by
  unfold KafkaAuthenticationSpec.enablesKerberos
  cases ha : a.kerberos with
  | none => exact .inr ⟨(fun q hq => nomatch hq), rfl, by simp [firstKerberosClass, ha]⟩
  | some p =>
      by_cases hp : p.kerberosSecretClass = ""
      · refine .inr ⟨?_, by simp [hp], by simp [firstKerberosClass, ha, hp]⟩
        rintro q ⟨⟩
        exact hp
      · exact .inl ⟨p, rfl, hp, by simp [hp], by simp [firstKerberosClass, ha, hp]⟩

theorem firstKerberosClass_first {auths : List KafkaAuthenticationSpec}
    (h : auths.any (·.enablesKerberos) = true) : FirstClass auths (firstKerberosClass auths) := by
  induction auths with
  | nil => cases h
  | cons a auths ih =>
      rcases firstKerberosClass_cons a auths with ⟨p, ha, hp, -, hfirst⟩ | ⟨hempty, hno, hfirst⟩
      · rw [hfirst]
        exact ⟨hp, [], a, p, auths, rfl, (fun x hx => nomatch hx), ha, rfl⟩
      · rw [List.any_cons, hno, Bool.false_or] at h
        obtain ⟨hne, before, e, p, after, rfl, hbefore, he, hp⟩ := ih h
        rw [hfirst]
        refine ⟨hne, a :: before, e, p, after, rfl, ?_, he, hp⟩
        intro x hx
        rcases List.mem_cons.mp hx with rfl | hx
        · exact hempty
        · exact hbefore x hx

theorem firstKerberosClass_none {auths : List KafkaAuthenticationSpec}
    (h : auths.any (·.enablesKerberos) = false) : firstKerberosClass auths = "" := by
  induction auths with
  | nil => rfl
  | cons a auths ih =>
      rw [List.any_cons, Bool.or_eq_false_iff] at h
      rcases firstKerberosClass_cons a auths with ⟨p, -, -, hyes, -⟩ | ⟨-, -, hfirst⟩
      · rw [h.1] at hyes
        cases hyes
      · rw [hfirst]
        exact ih h.2

end KafkaRole

/-! ### Agreement -/

/-- What the call sites rely on: where they ask for the Kerberos authentication they get one with a
role, the launch command and the volumes do not panic, and the Kerberos volume has a class. -/
structure KerberosUsable (op : OperatorGo) (k : KafkaSecurity) : Prop where
  container : ∀ d : KafkaContainerBuilder, d.kafkaSecurity = k →
    ∃ a, d.getKerbersoAuth = some a ∧ a.role.isSome
  launch : ∀ d : KafkaContainerBuilder, d.kafkaSecurity = k → ∀ listeners advertised protocols,
    ∃ cmd, d.launchCommand listeners advertised protocols = .ok cmd
  volumes : ∀ (b : StatefulSetBuilder) config, b.kafkaTlsSecurity = k → (b.volumes op config).Safe ∧
    ∀ vs, b.volumes op config = .ok vs → ∃ v ∈ vs, v.name = kubedoopKerberosName ∧
      ∃ secretClass, secretClass ≠ "" ∧
        v.annotations.get op.consts.annotationSecretsClass = some secretClass

/-- The four views of Kerberos agree, and where it is enabled the Kerberos volume has the class of
the first entry that has one. -/
structure KerberosAgrees (op : OperatorGo) (cluster : KafkaCluster) (k : KafkaSecurity) : Prop where
  auth : k.isKerberosEnabled = true ↔ k.kerberosAuth ≠ none
  getAuth : k.isKerberosEnabled = true ↔ ∃ a, k.getKerberosAuth = .ok (some a)
  secretClass : k.isKerberosEnabled = true ↔
    ∃ s, (⟨cluster⟩ : KafkaRole).getKerberosSecretClass = .ok s ∧ s ≠ ""
  annotation : k.isKerberosEnabled = true → ∃ cc secretClass v a,
    cluster.spec.clusterConfig = some cc ∧ FirstClass cc.authentication secretClass ∧
    k.kerberosAuth = some a ∧ a.getVolumes op.consts = .ok [v] ∧ v.name = kubedoopKerberosName ∧
    v.annotations.get op.consts.annotationSecretsClass = some secretClass
  usable : k.isKerberosEnabled = true → KerberosUsable op k

/-- The Kerberos volume of a cluster. -/
theorem KerberosAuthentication.getVolumes_eq (c : Constants) {cluster : KafkaCluster}
    {cc : ClusterConfigSpec} (hcc : cluster.spec.clusterConfig = some cc) :
    ∃ v, KerberosAuthentication.getVolumes c ⟨some ⟨cluster⟩⟩ = .ok [v] ∧
      v.name = kubedoopKerberosName ∧ v.annotations.get c.annotationSecretsClass =
        some (KafkaRole.firstKerberosClass cc.authentication) := by
  have hne := c.secretAnnotations_nodup
  simp only [List.nodup_cons, List.mem_cons, not_or] at hne
  obtain ⟨⟨hscope, -, -, -, hnames, -⟩, -⟩ := hne
  refine ⟨_, by simp [getVolumes, KafkaRole.getKerberosSecretClass, hcc]; rfl, rfl, ?_⟩
  simp [Volume.annotations, Map.ofList, hscope, hnames]

section Agree

variable {cluster : KafkaCluster} {k : KafkaSecurity} {cc : ClusterConfigSpec}

theorem newKafkaSecurity_isKerberosEnabled (h : newKafkaSecurity cluster = .ok k)
    (hcc : cluster.spec.clusterConfig = some cc) :
    k.isKerberosEnabled = cc.authentication.any (·.enablesKerberos) := by
  obtain ⟨cc', hcc', rfl⟩ := newKafkaSecurity_eq h
  obtain rfl := Option.some.inj (hcc.symm.trans hcc')
  rfl

/-- Without Kerberos there is no authentication. -/
theorem newKafkaSecurity_kerberosAuth_none (h : newKafkaSecurity cluster = .ok k)
    (hk : k.isKerberosEnabled = false) : k.kerberosAuth = none := by
  obtain ⟨cc, -, rfl⟩ := newKafkaSecurity_eq h
  exact if_neg (by rw [show cc.authentication.any _ = false from hk]; exact Bool.false_ne_true)

theorem newKafkaSecurity_getKerberosAuth (h : newKafkaSecurity cluster = .ok k)
    (hk : k.isKerberosEnabled = true) : k.getKerberosAuth = .ok (some ⟨some ⟨cluster⟩⟩) := by
  rw [KafkaSecurity.getKerberosAuth, if_pos hk, newKafkaSecurity_kerberosAuth h hk]

theorem kerberosUsable (op : OperatorGo) (h : newKafkaSecurity cluster = .ok k)
    (hcc : cluster.spec.clusterConfig = some cc) (hk : k.isKerberosEnabled = true) :
    KerberosUsable op k := by
  have hauth := newKafkaSecurity_kerberosAuth h hk
  obtain ⟨v, hv, hname, hclass⟩ := KerberosAuthentication.getVolumes_eq op.consts hcc
  have hfirst := KafkaRole.firstKerberosClass_first
    ((newKafkaSecurity_isKerberosEnabled h hcc).symm.trans hk)
  constructor
  case container =>
    rintro d rfl
    exact ⟨_, d.getKerbersoAuth_of_newKafkaSecurity h hk, rfl⟩
  case launch =>
    rintro d rfl listeners advertised protocols
    exact ⟨_, d.launchCommand_kerberos hk (d.getKerbersoAuth_of_newKafkaSecurity h hk) _ _ _⟩
  case volumes =>
    rintro b config rfl
    unfold StatefulSetBuilder.volumes
    simp only [hk, if_true, hauth, Outcome.deref_some, Outcome.ok_bind, hv]
    constructor
    · exact Outcome.Safe.bind (Outcome.Safe.bind
        (ListenerOperatorVolumeSourceBuilder.annotation_safe _ _) (fun _ _ => by simp))
        (fun _ _ => by simp)
    · intro vs hvs
      obtain ⟨source, -, hvs⟩ := Outcome.bind_eq_ok.mp hvs
      obtain rfl := Outcome.ok.inj hvs
      exact ⟨v, by simp, hname, _, hfirst.1, hclass⟩

end Agree

/-- **The views of Kerberos agree**, for every authentication list, and whoever uses the Kerberos
authentication of a cluster that enables it finds one with a class. -/
theorem kerberos_views_agree (op : OperatorGo) (cluster : KafkaCluster) (k : KafkaSecurity)
    (h : newKafkaSecurity cluster = .ok k) : KerberosAgrees op cluster k := by
  obtain ⟨cc, hcc, -⟩ := newKafkaSecurity_eq h
  have henabled := newKafkaSecurity_isKerberosEnabled h hcc
  have hclass : (⟨cluster⟩ : KafkaRole).getKerberosSecretClass =
      .ok (KafkaRole.firstKerberosClass cc.authentication) := by
    rw [KafkaRole.getKerberosSecretClass, hcc]
    rfl
  cases hk : k.isKerberosEnabled with
  | true =>
      have hauth := newKafkaSecurity_kerberosAuth h hk
      have hfirst := KafkaRole.firstKerberosClass_first (henabled.symm.trans hk)
      obtain ⟨v, hv, hname, hannotation⟩ := KerberosAuthentication.getVolumes_eq op.consts hcc
      exact ⟨iff_of_true hk (by rw [hauth]; exact Option.some_ne_none _),
        iff_of_true hk ⟨_, newKafkaSecurity_getKerberosAuth h hk⟩,
        iff_of_true hk ⟨_, hclass, hfirst.1⟩,
        fun _ => ⟨cc, _, v, _, hcc, hfirst, hauth, hv, hname, hannotation⟩,
        fun _ => kerberosUsable op h hcc hk⟩
  | false =>
      have hnot : ¬ k.isKerberosEnabled = true := by simp [hk]
      have hnone := KafkaRole.firstKerberosClass_none (henabled.symm.trans hk)
      refine ⟨iff_of_false hnot (not_not.mpr (newKafkaSecurity_kerberosAuth_none h hk)),
        iff_of_false hnot ?_, iff_of_false hnot ?_, fun hyes => absurd hyes hnot,
        fun hyes => absurd hyes hnot⟩
      · rintro ⟨a, ha⟩
        rw [KafkaSecurity.getKerberosAuth, if_neg hnot] at ha
        cases ha
      · rintro ⟨s, hs, hne⟩
        obtain rfl := Outcome.ok.inj (hclass.symm.trans hs)
        exact hne hnone

/-- A cluster with four entries: none with Kerberos, one without a class, and two with one. -/
def mixedAuthCluster : KafkaCluster :=
  .sample [⟨"ldap", none⟩, ⟨"kerberos", some ⟨""⟩⟩, ⟨"kerberos", some ⟨"first"⟩⟩,
    ⟨"kerberos", some ⟨"second"⟩⟩] none ⟨none, none, none⟩

/-- Its Kerberos volume has the class of the third entry. -/
theorem kerberos_views_agree_mixed :
    ∃ k, newKafkaSecurity mixedAuthCluster = .ok k ∧ k.isKerberosEnabled = true ∧
      (∃ a, k.getKerberosAuth = .ok (some a)) ∧
      (⟨mixedAuthCluster⟩ : KafkaRole).getKerberosSecretClass = .ok "first" ∧
      KerberosUsable (.reference fun _ => false) k := by
  have hagrees := kerberos_views_agree (.reference fun _ => false) mixedAuthCluster _ rfl
  exact ⟨_, rfl, rfl, hagrees.getAuth.mp rfl, rfl, hagrees.usable rfl⟩

end KafkaOperator
