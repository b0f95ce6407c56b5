import KafkaOperator.Pod

/-! # The references of a pod

The kafka container refers to volumes by name and to files by path, and the two `Build`s of a role
group decide separately which volumes and which files there are.  `PodClosed` says that nothing
is missing: every mount has its volume, every file that the container is started with is an item
of the ConfigMap it mounts, and the vector container comes with its configuration.

`pod_references_closed` proves it for every registered role group, in whatever order everything
was visited and built.  Two things carry it: the defaults are filled into the overrides whatever
the user wrote (`registerResources_filled`), and `Build`s of other groups take none of them away
(`PodInv.run`). -/

namespace KafkaOperator

open Go Relation

/-! ### Filled overrides -/

section Filled

variable (op : OperatorGo) (r : BrokerReconciler)

/-- The overrides behind the pointer have the defaults. -/
def HoldsFilled (ref : Ref Path) (h : Heap) : Prop :=
  h.overrides.Holds ref (OverridesSpec.Filled op.consts)

variable {op r}

theorem onConfigs_keeps_filled {α : Type} (m : Prog (Store Path BrokersConfigSpec) α)
    (ref : Ref Path) : Prog.Keeps (HoldsFilled op ref) (Heap.onConfigs m) :=
  Heap.onConfigs_keeps (fun s => s.Holds ref (OverridesSpec.Filled op.consts)) m

theorem onOverrides_keeps_filled {α : Type} {m : Prog (Store Path OverridesSpec) α} {ref : Ref Path}
    (h : Prog.Keeps (fun s => s.Holds ref (OverridesSpec.Filled op.consts)) m) :
    Prog.Keeps (HoldsFilled op ref) (Heap.onOverrides m) :=
  Heap.onOverrides_keeps h

theorem mergeFromUserConfig_keeps (o : Orders) (config overrides : Option (Ref Path))
    (clusterName : String) (ref : Ref Path) :
    Prog.Keeps (HoldsFilled op ref)
      (BrokerReconciler.mergeFromUserConfig op o config overrides clusterName) := by
  refine .bind (onConfigs_keeps_filled _ ref) (fun _ => ?_)
  refine .bind (onConfigs_keeps_filled _ ref) (fun _ => ?_)
  refine .bind (onOverrides_keeps_filled (orNew_keeps (fun _ v hs => hs.alloc v) _ _)) (fun _ => ?_)
  refine onOverrides_keeps_filled (.update (fun u v hv s p hs => hs.write ?_))
  exact mergeOverrides_filled o rfl hv

theorem registerRoleGroup_keeps (orders : String → Orders)
    (e : String × Option BrokersRoleGroupSpec) (ref : Ref Path) :
    Prog.Keeps (HoldsFilled op ref) (r.registerRoleGroup op orders e) := by
  have halloc : ∀ (s : Store Path OverridesSpec) v,
      s.Holds ref (OverridesSpec.Filled op.consts) →
        (s.alloc v).Holds ref (OverridesSpec.Filled op.consts) := fun _ v hs => hs.alloc v
  refine .bind (.lift _) (fun _ => .bind (onConfigs_keeps_filled _ ref) (fun _ => ?_))
  refine .bind (onOverrides_keeps_filled (fun s hs => mergeObject_keeps halloc _ _ _ _ s hs))
    (fun _ => ?_)
  refine .bind (onOverrides_keeps_filled (orNew_keeps halloc _ _)) (fun _ => ?_)
  refine .bind (onConfigs_keeps_filled _ ref) (fun _ => ?_)
  refine .bind (mergeFromUserConfig_keeps _ _ _ _ _) (fun _ => ?_)
  exact .bind (onConfigs_keeps_filled _ ref) (fun _ => .pure _)

/-- After `MergeFromUserConfig` the overrides have the defaults. -/
theorem mergeFromUserConfig_filled {o : Orders} {config overrides : Ref Path} {clusterName : String}
    {h h' : Heap} {u : Unit}
    (hrun : BrokerReconciler.mergeFromUserConfig op o (some config) (some overrides) clusterName h =
      (.ok u, h')) : HoldsFilled op overrides h' := by
  obtain ⟨_, p, s, w, w', -, hnew, hw, hw', rfl⟩ :=
    BrokerReconciler.mergeFromUserConfig_eq_ok.mp hrun
  obtain ⟨hp, rfl⟩ := Prod.mk.inj hnew
  obtain rfl := Outcome.ok.inj hp
  exact Store.holds_write hw (mergeOverrides_filled o rfl hw')

/-- The builders of a role group point to overrides with the defaults. -/
theorem registerRoleGroup_filled {orders : String → Orders}
    {e : String × Option BrokersRoleGroupSpec} {h h' : Heap} {b : RoleGroupResources}
    (hrun : r.registerRoleGroup op orders e h = (.ok b, h')) :
    ∃ ref, b.configMap.overrides = some ref ∧ HoldsFilled op ref h' := by
  obtain ⟨_, h₁, -, hrun⟩ := Prog.bind_eq_ok.mp hrun
  obtain ⟨_, h₂, -, hrun⟩ := Prog.bind_eq_ok.mp hrun
  obtain ⟨_, h₃, -, hrun⟩ := Prog.bind_eq_ok.mp hrun
  obtain ⟨overrides, h₄, -, hrun⟩ := Prog.bind_eq_ok.mp hrun
  obtain ⟨config, h₅, -, hrun⟩ := Prog.bind_eq_ok.mp hrun
  obtain ⟨_, h₆, hmerge, hrun⟩ := Prog.bind_eq_ok.mp hrun
  have hfilled := mergeFromUserConfig_filled hmerge
  obtain ⟨v, h₇, hload, hrun⟩ := Prog.bind_eq_ok.mp hrun
  obtain ⟨hb, rfl⟩ := Prod.mk.inj hrun
  obtain rfl := Outcome.ok.inj hb
  obtain ⟨-, rfl⟩ := Prod.mk.inj hload
  exact ⟨overrides, rfl, hfilled⟩

/-- **The run of `RegisterResources`** leaves every role group with overrides that have the
defaults: each iteration fills its own and takes none away. -/
theorem registerResources_filled {orders : String → Orders}
    {l : List (String × Option BrokersRoleGroupSpec)} {h h' : Heap} {bs : List RoleGroupResources}
    (hrun : r.registerResources op orders l h = (.ok bs, h')) :
    ∀ b ∈ bs, ∃ ref, b.configMap.overrides = some ref ∧ HoldsFilled op ref h' := by
  have hvisit : Triple True True (fun _ => True) (Prog.visit (r.registerRoleGroup op orders) l)
      (fun bs h => ∀ b ∈ bs, ∃ ref, b.configMap.overrides = some ref ∧ HoldsFilled op ref h) := by
    refine (Triple.visit (fun _ bs h => ∀ b ∈ bs, ∃ ref, b.configMap.overrides = some ref ∧
      HoldsFilled op ref h) ?_).conseq (fun _ _ _ hb => nomatch hb) (fun _ _ => id)
    intro done e rest bs _ h hbs
    have hkeeps (ref : Ref Path) : Prog.Keeps (HoldsFilled op ref) (r.registerRoleGroup op orders e) :=
      registerRoleGroup_keeps orders e ref
    rcases hstep : r.registerRoleGroup op orders e h with ⟨o, h'⟩
    cases o with
    | ok b =>
        intro b' hb'
        rcases List.mem_append.mp hb' with hb' | hb'
        · obtain ⟨ref, href, hfilled⟩ := hbs b' hb'
          have hkept := hkeeps ref h hfilled
          rw [hstep] at hkept
          exact ⟨ref, href, hkept⟩
        · obtain rfl := List.mem_singleton.mp hb'
          exact registerRoleGroup_filled hstep
    | err e => trivial
    | panic => trivial
  obtain ⟨_, h₁, hspec, hrun⟩ := Prog.bind_eq_ok.mp hrun
  exact hvisit.elim trivial hrun

end Filled

/-! ### Runs of builds -/

theorem OverridesSpec.exists_of_property {u : OverridesSpec} {file key : String}
    (h : (u.property file key).isSome) : ∃ m f, u.configOverrides = some m ∧
      m.get file = some (some f) ∧ (f.get key).isSome ∧ u.property file key = f.get key := by
  unfold property at h ⊢
  cases hm : u.configOverrides with
  | none => simp [hm] at h
  | some m =>
      cases hf : m.get file with
      | none => simp [hm, hf] at h
      | some d =>
          cases d with
          | none => simp [hm, hf] at h
          | some f => exact ⟨m, f, rfl, hf, by simpa [hm, hf] using h, by simp [hf]⟩

/-- Copying settings into one file takes no default away. -/
theorem OverridesSpec.Filled.copy {c : Constants} {u : OverridesSpec} (hu : u.Filled c)
    {m : Map String (Option (Map String String))} (hm : u.configOverrides = some m) {file : String}
    {data : Map String String} (hdata : m.get file = some (some data))
    {settings : Map String String} {l : List (String × String)} (hl : settings.Ranges l) :
    (u.withFile m file (data.copy l)).Filled c := by
  intro file' configs key hfile hkey
  obtain ⟨m', f, hm', hf, hfkey, -⟩ := exists_of_property (hu file' configs key hfile hkey)
  obtain rfl := Option.some.inj (hm.symm.trans hm')
  by_cases he : file' = file
  · subst he
    obtain rfl := Option.some.inj (Option.some.inj (hdata.symm.trans hf))
    simp [property, withFile, Map.get_copy hl, hfkey]
  · simp [property, withFile, he, hf, hfkey]

section Builds

variable (op : OperatorGo) (bs : List RoleGroupResources) (s : Store Path BrokersConfigSpec)

/-- No configuration changes, and the overrides behind every registered builder have the
defaults. -/
structure PodInv (h : Heap) : Prop where
  configs : h.configs = s
  overrides : ∀ b ∈ bs, ∃ ref, b.configMap.overrides = some ref ∧ HoldsFilled op ref h

variable {op bs s} {b : RoleGroupResources} {h : Heap}

/-- The file that the overrides hold for one with defaults. -/
theorem PodInv.file (hinv : PodInv op bs s h) (hb : b ∈ bs) (file key : String)
    {configs : Map String String} (hfile : (defaultFiles op.consts).get file = some configs)
    (hkey : (configs.get key).isSome) : ∃ ref u m data, b.configMap.overrides = some ref ∧
      h.overrides.read ref = some u ∧ u.Filled op.consts ∧ u.configOverrides = some m ∧
      m.get file = some (some data) ∧ (data.get key).isSome := by
  obtain ⟨ref, href, u, hu, hfilled⟩ := hinv.overrides b hb
  obtain ⟨m, data, hm, hdata, hget, -⟩ :=
    OverridesSpec.exists_of_property (hfilled file configs key hfile hkey)
  exact ⟨ref, u, m, data, href, hu, hfilled, hm, hdata, hget⟩

theorem PodInv.buildServerProperties (hinv : PodInv op bs s h) (hb : b ∈ bs) (o : Orders) :
    ∃ content h', b.configMap.buildServerProperties o h = (.ok content, h') ∧
      content.isEmpty = false ∧ PodInv op bs s h' := by
  obtain ⟨ref, u, m, data, href, hu, hfilled, hm, hdata, hkey⟩ :=
    hinv.file hb serverPropertiesFilename "controlled.shutdown.enable" rfl rfl
  have hl := o.entries.ranges b.configMap.kafkaSecurity.configSettings
  refine ⟨_, _, b.configMap.buildServerProperties_eq o href hu hm hdata,
    Content.isEmpty_properties "controlled.shutdown.enable" ?_, hinv.configs, fun b' hb' => ?_⟩
  · rw [Map.get_copy hl, Option.isSome_or, hkey, Bool.or_true]
  · obtain ⟨ref', href', hholds⟩ := hinv.overrides b' hb'
    exact ⟨ref', href', hholds.write (hfilled.copy hm hdata hl)⟩

theorem PodInv.buildSecurityProperties (hinv : PodInv op bs s h) (hb : b ∈ bs) :
    ∃ content, b.configMap.buildSecurityProperties h = (.ok content, h) ∧
      content.isEmpty = false := by
  obtain ⟨ref, u, m, data, href, hu, -, hm, hdata, hkey⟩ :=
    hinv.file hb securityPropertiesFilename "networkaddress.cache.ttl" rfl rfl
  refine ⟨.properties data, ?_, Content.isEmpty_properties _ hkey⟩
  simp [KafkaConfigmapBuilder.buildSecurityProperties, KafkaConfigmapBuilder.userOverrides, href, hu,
    hm, hdata]

theorem PodInv.keeps (hb : b ∈ bs) (o : Orders) (f : PropertyFile) :
    Prog.Keeps (PodInv op bs s) (b.configMap.buildFile op o f) := by
  cases f with
  | server =>
      intro h hinv
      obtain ⟨content, h', hrun, -, hinv'⟩ := hinv.buildServerProperties hb o
      show PodInv op bs s (b.configMap.buildServerProperties o h).2
      rwa [hrun]
  | security => exact .reads _
  | log4j => exact .reads _

/-- **Any run of builds** keeps the defaults in the overrides. -/
theorem PodInv.run {h' : Heap} (hinv : PodInv op bs s h)
    (hrun : ReflTransGen (BuildStep op bs) h h') : PodInv op bs s h' :=
  builds_keep (fun _ hb o f => PodInv.keeps hb o f) hrun hinv

end Builds

/-! ### The items of the ConfigMap -/

/-- The names of the volumes and claims that the repository gives to a pod. -/
def podVolumeNames : List String :=
  [kubedoopLogDirName, kubedoopLogConfigDirName, kubedoopConfigDirName, kubedoopListenerBroker,
    kubedoopKerberosName, kubedoopTLSKeyStoreServerDirName, kubedoopTLSKeyStoreInternalDirName,
    kubedoopListenerBootstrap, kubedoopKafkaDataDirName]

/-- What is assumed of operator-go's generators and of its vector container. -/
structure PodAssumptions (op : OperatorGo) : Prop where
  log4j : ∀ l text, op.log4jContent l = .ok text → text ≠ ""
  vectorYaml : ∀ n c r g a text, op.makeVectorYaml n c r g a = .ok text → text ≠ ""
  vectorContainer : ∀ image,
    (op.vectorContainer kubedoopConfigDirName kubedoopLogDirName image).name ≠ "kafka"
  vectorVolumes_nodup : ∀ image,
    ((op.vectorVolumes kubedoopConfigDirName kubedoopLogDirName image).map (·.name)).Nodup
  vectorVolumes_fresh : ∀ image,
    ∀ v ∈ op.vectorVolumes kubedoopConfigDirName kubedoopLogDirName image, v.name ∉ podVolumeNames

/-- The file is an item, and not an empty one. -/
def Provides (data : Map String Content) (file : String) : Prop :=
  ∃ content, data.get file = some content ∧ content.isEmpty = false

theorem Provides.set {data : Map String Content} {file file' : String} {content : Content}
    (h : Provides data file) (hne : file ≠ file') : Provides (data.set file' content) file := by
  obtain ⟨c, hc, hempty⟩ := h
  exact ⟨c, by rw [Map.get_set_ne _ _ hne, hc], hempty⟩

theorem provides_set (data : Map String Content) (file : String) {content : Content}
    (h : content.isEmpty = false) : Provides (data.set file content) file :=
  ⟨content, Map.get_set_self _ _ _, h⟩

theorem PropertyFile.filename_injective : Function.Injective PropertyFile.filename := by
  intro a b h
  cases a <;> cases b <;> first | rfl | exact absurd h (by decide)

theorem PropertyFile.filename_ne_vector (f : PropertyFile) : f.filename ≠ vectorConfigFilename := by
  cases f <;> decide

section ConfigMap

variable {op : OperatorGo} {bs : List RoleGroupResources} {s : Store Path BrokersConfigSpec}
  {b : RoleGroupResources}

/-- No function of a file returns an empty text. -/
theorem buildFile_not_isEmpty (hop : PodAssumptions op) (hb : b ∈ bs) (o : Orders)
    (f : PropertyFile) : Triple op.LogFails False (PodInv op bs s) (b.configMap.buildFile op o f)
      (fun content h => content.isEmpty = false ∧ PodInv op bs s h) := by
  cases f with
  | server =>
      refine Triple.of_run (fun h hinv => ?_)
      obtain ⟨content, h', hrun, hempty, hinv'⟩ := hinv.buildServerProperties hb o
      exact ⟨content, h', hrun, hempty, hinv'⟩
  | security =>
      refine Triple.of_run (fun h hinv => ?_)
      obtain ⟨content, hrun, hempty⟩ := hinv.buildSecurityProperties hb
      exact ⟨content, h, hrun, hempty, hinv⟩
  | log4j =>
      refine Triple.reads (fun _ _ hpanic => (op.log4jContent_safe _).map Content.text hpanic)
        (fun _ e _ herr => ⟨_, e, Outcome.map_eq_err.mp herr⟩) (fun h content hinv hok => ?_)
      obtain ⟨text, htext, hcontent⟩ := Outcome.bind_eq_ok.mp hok
      obtain rfl := Outcome.ok.inj hcontent
      exact ⟨decide_eq_false (hop.log4j _ text htext), hinv⟩

/-- The loop over the files adds every one of them. -/
theorem buildFiles_provides (hop : PodAssumptions op) (hb : b ∈ bs) (o : Orders)
    (l : List PropertyFile) (data : Map String Content) :
    Triple op.LogFails False (PodInv op bs s) (b.configMap.buildFiles op o data l)
      (fun data' h => PodInv op bs s h ∧
        (∀ f, f ∈ l ∨ Provides data f.filename → Provides data' f.filename) ∧
        data'.get vectorConfigFilename = data.get vectorConfigFilename) := by
  induction l generalizing data with
  | nil =>
      exact Triple.pure (fun h hinv => ⟨hinv, fun f hf => hf.resolve_left (by simp), rfl⟩)
  | cons f l ih =>
      refine Triple.bind (buildFile_not_isEmpty hop hb o f)
        (fun content => Triple.assuming (fun hempty => ?_))
      rw [hempty]
      refine (ih (data.set f.filename content)).conseq (fun _ => id) ?_
      rintro data' h ⟨hinv, hprovides, hvector⟩
      refine ⟨hinv, fun f' hf' => hprovides f' ?_, ?_⟩
      · by_cases he : f' = f
        · subst he
          exact .inr (provides_set _ _ hempty)
        · rcases hf' with hf' | hf'
          · exact .inl ((List.mem_cons.mp hf').resolve_left he)
          · exact .inr (hf'.set (PropertyFile.filename_injective.ne he))
      · rw [hvector, Map.get_set_ne _ _ f.filename_ne_vector.symm]

/-- With vector enabled, the vector configuration is not empty. -/
theorem buildVectorConfig_ne (hop : PodAssumptions op) {cm : KafkaConfigmapBuilder} {h : Heap}
    (henabled : cm.vectorEnabled h = .ok true) {config : String}
    (hconfig : (cm.buildVectorConfig op h).1 = .ok config) : config ≠ "" := by
  obtain ⟨c, hc, henabled⟩ := Outcome.bind_eq_ok.mp henabled
  rw [Outcome.deref_eq_ok] at hc
  cases hlogging : c.logging with
  | none =>
      rw [hlogging] at henabled
      cases henabled
  | some l =>
      rw [hlogging] at henabled
      have hagent : l.enableVectorAgent = some true := Outcome.deref_eq_ok.mp henabled
      simp only [KafkaConfigmapBuilder.buildVectorConfig, Prog.reads_apply, hc, hlogging, hagent,
        Option.bind_some, if_true] at hconfig
      obtain ⟨cc, -, hconfig⟩ := Outcome.bind_eq_ok.mp hconfig
      split_ifs at hconfig
      exact hop.vectorYaml _ _ _ _ _ _ hconfig

/-- `vector.yaml` is added exactly if vector is enabled. -/
theorem buildVector_provides (hop : PodAssumptions op) {I : Heap → Prop}
    (cm : KafkaConfigmapBuilder) {data : Map String Content}
    (hdata : data.get vectorConfigFilename = none) :
    Triple True True I (cm.buildVector op data)
      (fun data' h => I h ∧
        (∀ f : PropertyFile, Provides data f.filename → Provides data' f.filename) ∧
        ∃ enabled, cm.vectorEnabled h = .ok enabled ∧
          ((data'.get vectorConfigFilename).isSome ↔ enabled = true)) := by
  refine Triple.bind (Q := fun enabled h => I h ∧ cm.vectorEnabled h = .ok enabled)
    (Triple.reads (fun _ _ _ => trivial) (fun _ _ _ _ => trivial) (fun h e hI he => ⟨hI, he⟩))
    (fun enabled => ?_)
  cases enabled with
  | false =>
      exact Triple.pure (fun h hh => ⟨hh.1, fun _ hf => hf, false, hh.2, by simp [hdata]⟩)
  | true =>
      refine Triple.bind (Q := fun config h => config ≠ "" ∧ I h ∧ cm.vectorEnabled h = .ok true)
        (Triple.reads (fun _ _ _ => trivial) (fun _ _ _ _ => trivial) (fun h config hh hconfig => ?_))
        (fun config => Triple.assuming (fun hne => Triple.pure (fun h hh => ?_)))
      · exact ⟨buildVectorConfig_ne hop hh.2 hconfig, hh⟩
      · rw [if_neg hne]
        refine ⟨hh.1, fun f hf => hf.set f.filename_ne_vector, true, hh.2, ?_⟩
        rw [Map.get_set_self]
        simp

/-- **The `Build` of a ConfigMap**: it has every file, and `vector.yaml` exactly if vector is
enabled. -/
theorem build_provides (hop : PodAssumptions op) (hb : b ∈ bs) (o : Orders) (files : FileOrder) :
    Triple True True (PodInv op bs s) (b.configMap.build op o files)
      (fun cm h => PodInv op bs s h ∧ cm.name = roleGroupConfigMapName b.configMap.info ∧
        (∀ f : PropertyFile, Provides cm.data f.filename) ∧
        ∃ enabled, b.configMap.vectorEnabled h = .ok enabled ∧
          ((cm.data.get vectorConfigFilename).isSome ↔ enabled = true)) := by
  have hfiles : ∀ f, f ∈ files.list := by
    intro f
    rw [files.perm.mem_iff]
    cases f <;> decide
  have hall : Triple True True (PodInv op bs s) (b.configMap.buildFiles op o Map.empty files.list)
      (fun data h => ((∀ f : PropertyFile, Provides data f.filename) ∧
        data.get vectorConfigFilename = none) ∧ PodInv op bs s h) := by
    refine ((buildFiles_provides hop hb o files.list Map.empty).weaken (fun _ => trivial)
      False.elim).conseq (fun _ => id) ?_
    rintro data h ⟨hinv, hprovides, hvector⟩
    exact ⟨⟨fun f => hprovides f (.inl (hfiles f)), hvector⟩, hinv⟩
  refine Triple.bind hall (fun data => Triple.assuming (fun hdata => ?_))
  refine Triple.bind (buildVector_provides hop b.configMap hdata.2)
    (fun data' => Triple.pure (fun h hh => ?_))
  exact ⟨hh.1, rfl, fun f => hh.2.1 f (hdata.1 f), hh.2.2⟩

/-- Without vector the `Build` returns, if the log configuration does. -/
theorem build_ok (hop : PodAssumptions op) (hlog : ¬ op.LogFails) (hb : b ∈ bs) {h : Heap}
    (hinv : PodInv op bs s h)
    (hvector : ∀ h', PodInv op bs s h' → b.configMap.vectorEnabled h' = .ok false) (o : Orders)
    (files : FileOrder) : ∃ cm, (b.configMap.build op o files h).1 = .ok cm := by
  obtain ⟨data, h', hfiles, hinv', -⟩ :=
    ((buildFiles_provides hop hb o files.list Map.empty).weaken hlog id).total hinv
  have henabled : Prog.reads b.configMap.vectorEnabled h' = (.ok false, h') := by
    rw [Prog.reads_apply, hvector h' hinv']
  have hdata : b.configMap.buildVector op data h' = (.ok data, h') := Prog.bind_of_ok henabled
  have hbuild : b.configMap.build op o files h =
      (.ok ⟨roleGroupConfigMapName b.configMap.info, op.labels b.configMap.info, data⟩, h') :=
    (Prog.bind_of_ok hfiles).trans (Prog.bind_of_ok hdata)
  exact ⟨_, congrArg Prod.fst hbuild⟩

end ConfigMap

/-! ### The StatefulSet -/

/-- The pod template has the containers and volumes that were added to the builder, in whatever
order: what the overrides, if there are any, do to them is not considered. -/
def TemplateKeeps (op : OperatorGo) (overrides : Option OverridesSpec) : Prop :=
  ∀ w t, w.overrides = overrides → op.getPodTemplate w = .ok t →
    t.containers.Perm w.containers ∧ t.volumes.Perm w.volumes

theorem templateKeeps_of_podPlain (op : OperatorGo) {overrides : Option OverridesSpec}
    (h : ∀ u, overrides = some u → u.PodPlain) : TemplateKeeps op overrides := by
  rintro w t rfl ht
  exact op.getPodTemplate_plain w t ht h

/-- The names of the volumes and of the claims. -/
def StatefulSet.volumeNames (sts : StatefulSet) : List String :=
  sts.template.volumes.map (·.name) ++ sts.volumeClaimTemplates.map (·.name)

/-- The text contains the path. -/
def Mentions (text path : String) : Prop := path.toList <:+: text.toList

theorem Mentions.context {text path : String} (h : Mentions text path) (p q : String) :
    Mentions (p ++ text ++ q) path :=
  List.IsInfix.trans h (infix_of_eq_append p q rfl)

/-- The container sees the file of the ConfigMap at the directory. -/
structure FileProvided (sts : StatefulSet) (cm : ConfigMap) (c : Container) (dir file : String) :
    Prop where
  mounted : ∃ m ∈ c.volumeMounts, m.mountPath = dir ∧
    ∃ v ∈ sts.template.volumes, v.name = m.name ∧ v.source = .configMap cm.name
  item : Provides cm.data file

/-- What the kafka container refers to is there. -/
structure ContainerClosed (sts : StatefulSet) (cm : ConfigMap) (c : Container) : Prop where
  mounts : ∀ m ∈ c.volumeMounts, sts.volumeNames.count m.name = 1
  paths_nodup : (c.volumeMounts.map (·.mountPath)).Nodup
  configMap : ∀ m ∈ c.volumeMounts, ∀ v ∈ sts.template.volumes, v.name = m.name →
    ∀ n, v.source = .configMap n → n = cm.name
  server : (∃ arg ∈ c.args, Mentions arg (kubedoopConfigDir ++ "/" ++ serverFileName)) ∧
    FileProvided sts cm c kubedoopConfigDir serverFileName
  security : (∃ text, ⟨envJvmArgs, .value text⟩ ∈ c.env ∧
      Mentions text (kubedoopConfigDir ++ "/security.properties")) ∧
    FileProvided sts cm c kubedoopConfigDir "security.properties"
  log4j : (∃ text, ⟨envKafkaLog4jOpts, .value text⟩ ∈ c.env ∧
      Mentions text (kubedoopLogConfigDir ++ "/" ++ log4jFileName)) ∧
    FileProvided sts cm c kubedoopLogConfigDir log4jFileName

/-- The pod's references are closed. -/
structure PodClosed (op : OperatorGo) (image : Image) (sts : StatefulSet) (cm : ConfigMap) : Prop where
  volumeNames_nodup : sts.volumeNames.Nodup
  kafka : ∃ c, sts.template.containers.filter (fun x => x.name = "kafka") = [c] ∧
    ContainerClosed sts cm c
  vector : op.vectorContainer kubedoopConfigDirName kubedoopLogDirName image ∈
      sts.template.containers ↔ (cm.data.get vectorConfigFilename).isSome

/-! ### What the container refers to -/

namespace KafkaContainerBuilder

theorem serverCommand_startsWith (listeners advertised protocols : String) :
    ∃ rest, serverCommand listeners advertised protocols =
      "bin/kafka-server-start.sh " ++ (kubedoopConfigDir ++ "/" ++ serverFileName) ++ rest := by
  refine ⟨" --override \"zookeeper.connect=$\x7bZOOKEEPER\x7d\" --override \"listeners=" ++ listeners
      ++ "\" --override \"advertised.listeners=" ++ advertised
      ++ "\" --override \"listener.security.protocol.map=" ++ protocols ++ "\" ", ?_⟩
  unfold serverCommand
  simp only [String.append_assoc]

theorem mentions_serverCommand (listeners advertised protocols : String) :
    Mentions (serverCommand listeners advertised protocols)
      (kubedoopConfigDir ++ "/" ++ serverFileName) := by
  obtain ⟨rest, h⟩ := serverCommand_startsWith listeners advertised protocols
  exact infix_of_eq_append "bin/kafka-server-start.sh " rest h

/-- The argument of the container starts the broker with `server.properties`. -/
theorem commandArgs_mentions {d : KafkaContainerBuilder} {op : OperatorGo}
    {order : List (KafkaListenerName × KafkaListenerProtocol)} {args : List String}
    (h : d.commandArgs op order = .ok args) :
    ∃ arg ∈ args, Mentions arg (kubedoopConfigDir ++ "/" ++ serverFileName) := by
  obtain ⟨p, q, rfl⟩ := commandArgs_eq_ok h
  exact ⟨_, List.mem_singleton_self _, (mentions_serverCommand _ _ _).context p q⟩

/-- The variables every kafka container has. -/
theorem mem_containerEnv (zookeeper ns obj : String) (k : KafkaSecurity) :
    ⟨envKafkaLog4jOpts,
        .value ("-Dlog4j.configuration=file:" ++ kubedoopLogConfigDir ++ "/" ++ log4jFileName)⟩ ∈
      (newKafkaContainer zookeeper k ns obj).containerEnv ∧
    ⟨envJvmArgs, .value ("-Djava.security.properties=" ++ kubedoopConfigDir ++
        "/security.properties -javaagent:" ++ kubedoopRoot ++ "/jmx/jmx_prometheus_javaagent.jar=" ++
        toString metricsPort ++ ":" ++ kubedoopRoot ++ "/jmx/config.yaml")⟩ ∈
      (newKafkaContainer zookeeper k ns obj).containerEnv := by
  unfold containerEnv newKafkaContainer
  simp only [Option.bind_none]
  split_ifs
  · constructor
    · exact List.mem_append_left _ (by simp only [List.mem_cons, true_or, or_true])
    · exact List.mem_append_left _ (by simp only [List.mem_cons, true_or, or_true])
  · constructor
    · simp only [List.mem_cons, true_or, or_true]
    · simp only [List.mem_cons, true_or, or_true]

theorem containerEnv_jvmArgs (zookeeper ns obj : String) (k : KafkaSecurity) :
    ∃ text, ⟨envJvmArgs, .value text⟩ ∈ (newKafkaContainer zookeeper k ns obj).containerEnv ∧
      Mentions text (kubedoopConfigDir ++ "/security.properties") := by
  refine ⟨_, (mem_containerEnv zookeeper ns obj k).2, infix_of_eq_append
    "-Djava.security.properties=" (" -javaagent:" ++ kubedoopRoot ++
      "/jmx/jmx_prometheus_javaagent.jar=" ++ toString metricsPort ++ ":" ++ kubedoopRoot ++
      "/jmx/config.yaml") ?_⟩
  have hfile : "/security.properties -javaagent:" = "/security.properties" ++ " -javaagent:" := by
    decide
  rw [hfile]
  simp only [String.append_assoc]

theorem containerEnv_log4j (zookeeper ns obj : String) (k : KafkaSecurity) :
    ∃ text, ⟨envKafkaLog4jOpts, .value text⟩ ∈ (newKafkaContainer zookeeper k ns obj).containerEnv ∧
      Mentions text (kubedoopLogConfigDir ++ "/" ++ log4jFileName) := by
  refine ⟨_, (mem_containerEnv zookeeper ns obj k).1,
    infix_of_eq_append "-Dlog4j.configuration=file:" "" ?_⟩
  simp only [String.append_assoc, String.append_empty]

/-- The mounts of the main container. -/
theorem volumeMount_eq (d : KafkaContainerBuilder) : d.volumeMount =
    [⟨kubedoopKafkaDataDirName, kubedoopDataDir⟩, ⟨kubedoopConfigDirName, kubedoopConfigDir⟩,
      ⟨kubedoopLogDirName, kubedoopLogDir⟩, ⟨kubedoopLogConfigDirName, kubedoopLogConfigDir⟩,
      ⟨kubedoopListenerBroker, kubedoopListenerBrokerDir⟩,
      ⟨kubedoopListenerBootstrap, kubedoopListenerBootstrapDir⟩] ++
    if d.kafkaSecurity.isKerberosEnabled then [⟨kubedoopKerberosName, kubedoopKerberosDir⟩] else [] := by
  unfold volumeMount
  split_ifs
  · rfl
  · rfl

end KafkaContainerBuilder

/-! ### The pod -/

namespace KafkaSecurity

variable (k : KafkaSecurity)

theorem keystores_volumeNames (c : Constants) (lifetime : String) :
    (k.keystores.map (·.volume c k lifetime)).map (·.name) = k.keystores.map (·.volumeName) := by
  rw [List.map_map]
  exact List.map_congr_left (fun s _ => createTlsKeystoreVolume_name _ _ _ _ _)

theorem keystores_sublist {α : Type} (f : Keystore → α) : (k.keystores.map f).Sublist
    [f ⟨k.tlsServerSecretClass, kubedoopTLSKeyStoreServerDirName, kubedoopTLSKeyStoreServerDir⟩,
      f ⟨k.tlsInternalSecretClass, kubedoopTLSKeyStoreInternalDirName,
        kubedoopTLSKeyStoreInternalDir⟩] :=
  List.filter_sublist.map f

/-- The names of the volumes that a pod gets from this repository, with the claims. -/
def podVolumes : List String :=
  [kubedoopLogDirName, kubedoopLogConfigDirName, kubedoopConfigDirName, kubedoopListenerBroker] ++
    (if k.isKerberosEnabled then [kubedoopKerberosName] else []) ++
    k.keystores.map (·.volumeName) ++ [kubedoopListenerBootstrap, kubedoopKafkaDataDirName]

theorem podVolumes_sublist : k.podVolumes.Sublist podVolumeNames := by
  have hkerberos : (if k.isKerberosEnabled then [kubedoopKerberosName] else []).Sublist
      [kubedoopKerberosName] := by
    split_ifs
    · exact List.Sublist.refl _
    · exact List.nil_sublist _
  exact (((List.Sublist.refl _).append hkerberos).append
    (k.keystores_sublist (·.volumeName))).append (List.Sublist.refl _)

theorem podVolumes_nodup : k.podVolumes.Nodup :=
  k.podVolumes_sublist.nodup (by decide)

end KafkaSecurity

namespace KafkaContainerBuilder

variable (d : KafkaContainerBuilder)

/-- The mounts of the kafka container once the TLS volumes are there. -/
def podMounts : List VolumeMount := d.volumeMount ++ d.kafkaSecurity.keystores.map (·.mount)

theorem podMounts_name_mem : ∀ m ∈ d.podMounts, m.name ∈ d.kafkaSecurity.podVolumes := by
  intro m hm
  rw [podMounts, volumeMount_eq, List.mem_append, List.mem_append] at hm
  rw [KafkaSecurity.podVolumes, List.mem_append, List.mem_append, List.mem_append]
  rcases hm with (hm | hm) | hm
  · simp only [List.mem_cons, List.not_mem_nil, or_false] at hm
    rcases hm with rfl | rfl | rfl | rfl | rfl | rfl
    all_goals simp only [List.mem_cons, true_or, or_true]
  · split_ifs at hm ⊢
    · obtain rfl := List.mem_singleton.mp hm
      exact .inl (.inl (.inr (List.mem_singleton_self _)))
    · cases hm
  · obtain ⟨s, hs, rfl⟩ := List.mem_map.mp hm
    exact .inl (.inr (List.mem_map_of_mem hs))

theorem podMounts_path_nodup : (d.podMounts.map (·.mountPath)).Nodup := by
  have hsub : (d.podMounts.map (·.mountPath)).Sublist
      [kubedoopDataDir, kubedoopConfigDir, kubedoopLogDir, kubedoopLogConfigDir,
        kubedoopListenerBrokerDir, kubedoopListenerBootstrapDir, kubedoopKerberosDir,
        kubedoopTLSKeyStoreServerDir, kubedoopTLSKeyStoreInternalDir] := by
    rw [podMounts, volumeMount_eq, List.map_append, List.map_append, List.map_map]
    have hkerberos : (List.map (·.mountPath) (if d.kafkaSecurity.isKerberosEnabled then
        [(⟨kubedoopKerberosName, kubedoopKerberosDir⟩ : VolumeMount)] else [])).Sublist
        [kubedoopKerberosDir] := by
      split_ifs
      · exact List.Sublist.refl _
      · exact List.nil_sublist _
    exact (hkerberos.append (d.kafkaSecurity.keystores_sublist (·.dir))).append_left
      [kubedoopDataDir, kubedoopConfigDir, kubedoopLogDir, kubedoopLogConfigDir,
        kubedoopListenerBrokerDir, kubedoopListenerBootstrapDir]
  exact hsub.nodup (by decide)

end KafkaContainerBuilder

/-- The built StatefulSet, where the template has what was added: the main container, volumes and
claims, with vector where it is enabled, and the TLS volumes. -/
structure BuiltPod (op : OperatorGo) (b : StatefulSetBuilder)
    (order : List (KafkaListenerName × KafkaListenerProtocol)) (v : BrokersConfigSpec)
    (sts : StatefulSet) (enabled : Bool) (main : Container) (volumes : List Volume) : Prop where
  mainContainer : b.MainContainer op order v main
  podVolumes : b.PodVolumes volumes
  vectorEnabled : ∃ rgc, v.roleGroupConfigSpec = some rgc ∧ isVectorEnable rgc.logging = .ok enabled
  containers_perm : sts.template.containers.Perm
    (main.addVolumeMounts (b.kafkaTlsSecurity.keystores.map (·.mount)) :: (if enabled then
      [op.vectorContainer kubedoopConfigDirName kubedoopLogDirName b.image] else []))
  volumes_perm : sts.template.volumes.Perm (volumes ++ (if enabled then
      op.vectorVolumes kubedoopConfigDirName kubedoopLogDirName b.image else []) ++
    b.kafkaTlsSecurity.keystores.map
      (·.volume op.consts b.kafkaTlsSecurity v.requestedSecretLifeTime))
  claims : sts.volumeClaimTemplates.map (·.name) =
    [kubedoopListenerBootstrap, kubedoopKafkaDataDirName]

/-- Changing the first element that has a property, where only one has it and the order is another. -/
theorem modify_findIdx?_perm {α : Type} {p : α → Bool} {l rest : List α} {a : α} {i : ℕ}
    (hperm : l.Perm (a :: rest)) (hrest : ∀ x ∈ rest, p x = false) (hi : l.findIdx? p = some i)
    (f : α → α) : (l.modify i f).Perm (f a :: rest) := by
  obtain ⟨hlt, hp, -⟩ := List.findIdx?_eq_some_iff_getElem.mp hi
  have hsplit : l = l.take i ++ l[i] :: l.drop (i + 1) := by
    rw [List.getElem_cons_drop, List.take_append_drop]
  have ha : l[i] = a := by
    rcases List.mem_cons.mp (hperm.mem_iff.mp (List.getElem_mem hlt)) with h | h
    · exact h
    · rw [hrest _ h] at hp
      cases hp
  rw [ha] at hsplit
  have hothers : (l.take i ++ l.drop (i + 1)).Perm rest := by
    rw [hsplit] at hperm
    exact (List.perm_middle.symm.trans hperm).cons_inv
  rw [List.modify_eq_take_cons_drop hlt, ha]
  exact List.perm_middle.trans (hothers.cons _)

theorem StatefulSetBuilder.buildFrom_pod {op : OperatorGo} {b : StatefulSetBuilder}
    {order : List (KafkaListenerName × KafkaListenerProtocol)}
    {overrides : Option OverridesSpec} {v : BrokersConfigSpec} {sts : StatefulSet}
    (hother : (op.vectorContainer kubedoopConfigDirName kubedoopLogDirName b.image).name ≠ "kafka")
    (hkeeps : TemplateKeeps op overrides) (h : b.buildFrom op order overrides v = .ok sts) :
    ∃ enabled main volumes, BuiltPod op b order v sts enabled main volumes := by
  obtain ⟨w, t, i, hw, ht, hi, rfl⟩ := buildFrom_eq_ok h
  replace hw := workload_eq_ok hw
  obtain ⟨main, volumes, rgc, enabled, hmain, hvolumes, hrgc, henabled, hc, hv⟩ := hw.parts
  obtain ⟨hcontainers, htvolumes⟩ := hkeeps w t hw.overrides_eq ht
  rw [hc] at hcontainers
  rw [hv] at htvolumes
  refine ⟨enabled, main, volumes, hmain, hvolumes, ⟨rgc, hrgc, henabled⟩, ?_, ?_, hw.claims⟩
  · -- the kafka container is the only one of its name
    refine modify_findIdx?_perm hcontainers (fun x hx => ?_) hi _
    split_ifs at hx
    · obtain rfl := List.mem_singleton.mp hx
      exact decide_eq_false hother
    · cases hx
  · exact htvolumes.append_right _

section Closed

variable {op : OperatorGo} {b : StatefulSetBuilder}
  {order : List (KafkaListenerName × KafkaListenerProtocol)} {v : BrokersConfigSpec}
  {sts : StatefulSet} {enabled : Bool} {main : Container} {volumes : List Volume}

/-- The names of volumes and claims: the repository's, and vector's. -/
theorem BuiltPod.volumeNames_perm (hpod : BuiltPod op b order v sts enabled main volumes) :
    sts.volumeNames.Perm (b.kafkaTlsSecurity.podVolumes ++ (if enabled then
      (op.vectorVolumes kubedoopConfigDirName kubedoopLogDirName b.image).map (·.name) else [])) := by
  have hvector : (if enabled then op.vectorVolumes kubedoopConfigDirName kubedoopLogDirName b.image
      else []).map (·.name) = if enabled then
        (op.vectorVolumes kubedoopConfigDirName kubedoopLogDirName b.image).map (·.name) else [] := by
    split_ifs <;> rfl
  refine ((hpod.volumes_perm.map (·.name)).append_right _).trans ?_
  rw [hpod.claims, List.map_append, List.map_append, hvector,
    hpod.podVolumes.names, KafkaSecurity.keystores_volumeNames, KafkaSecurity.podVolumes]
  simp only [List.append_assoc]
  refine List.Perm.append_left _ (List.Perm.append_left _ ?_)
  rw [← List.append_assoc (List.map _ _)]
  exact List.perm_append_comm.trans (by rw [List.append_assoc])

theorem BuiltPod.volumeNames_nodup (hop : PodAssumptions op)
    (hpod : BuiltPod op b order v sts enabled main volumes) : sts.volumeNames.Nodup := by
  rw [hpod.volumeNames_perm.nodup_iff, List.nodup_append']
  refine ⟨b.kafkaTlsSecurity.podVolumes_nodup, ?_, ?_⟩
  · split_ifs
    · exact hop.vectorVolumes_nodup _
    · exact List.nodup_nil
  · intro name hname hvector
    split_ifs at hvector
    · obtain ⟨x, hx, rfl⟩ := List.mem_map.mp hvector
      exact hop.vectorVolumes_fresh _ x hx (b.kafkaTlsSecurity.podVolumes_sublist.subset hname)
    · cases hvector

/-- The kafka container as it is built. -/
theorem BuiltPod.volumeMounts (hpod : BuiltPod op b order v sts enabled main volumes) :
    ∃ cc, b.clusterConfig = some cc ∧ (b.kafkaContainer cc).commandArgs op order = .ok main.args ∧
      main.env = (b.kafkaContainer cc).containerEnv ∧
      (main.addVolumeMounts (b.kafkaTlsSecurity.keystores.map (·.mount))).volumeMounts =
        (b.kafkaContainer cc).podMounts := by
  obtain ⟨cc, rgc, hcc, -, hargs, henv, hmounts, -, -⟩ := hpod.mainContainer.built
  refine ⟨cc, hcc, hargs, henv, ?_⟩
  rw [Container.addVolumeMounts, hmounts]
  rfl

/-- A file of the ConfigMap under the volume that mounts it. -/
theorem BuiltPod.fileProvided (hpod : BuiltPod op b order v sts enabled main volumes)
    {cm : ConfigMap} (hname : cm.name = roleGroupConfigMapName b.info) {c : Container}
    {volume dir file : String} (hmount : ⟨volume, dir⟩ ∈ c.volumeMounts)
    (hvolume : ⟨volume, .configMap (roleGroupConfigMapName b.info)⟩ ∈ volumes)
    (hfile : Provides cm.data file) : FileProvided sts cm c dir file := by
  refine ⟨⟨_, hmount, rfl, ⟨volume, .configMap (roleGroupConfigMapName b.info)⟩, ?_, rfl,
    by rw [hname]⟩, hfile⟩
  rw [hpod.volumes_perm.mem_iff]
  exact List.mem_append_left _ (List.mem_append_left _ hvolume)

/-- A volume that the kafka container mounts is filled from no other ConfigMap. -/
theorem BuiltPod.configMap_eq (hop : PodAssumptions op)
    (hpod : BuiltPod op b order v sts enabled main volumes) {x : Volume}
    (hx : x ∈ sts.template.volumes) (hmem : x.name ∈ b.kafkaTlsSecurity.podVolumes) {n : String}
    (hn : x.source = .configMap n) : n = roleGroupConfigMapName b.info := by
  rw [hpod.volumes_perm.mem_iff, List.mem_append, List.mem_append] at hx
  rcases hx with (hx | hx) | hx
  · exact hpod.podVolumes.configMap x hx n hn
  · -- a volume of vector has another name
    split_ifs at hx
    · refine absurd ?_ (hop.vectorVolumes_fresh _ x hx)
      exact b.kafkaTlsSecurity.podVolumes_sublist.subset hmem
    · cases hx
  · obtain ⟨s, -, rfl⟩ := List.mem_map.mp hx
    cases hn

theorem BuiltPod.containerClosed (hop : PodAssumptions op)
    (hpod : BuiltPod op b order v sts enabled main volumes) {cm : ConfigMap}
    (hname : cm.name = roleGroupConfigMapName b.info)
    (hfiles : ∀ f : PropertyFile, Provides cm.data f.filename) :
    ContainerClosed sts cm (main.addVolumeMounts (b.kafkaTlsSecurity.keystores.map (·.mount))) := by
  obtain ⟨cc, -, hargs, henv, hmounts⟩ := hpod.volumeMounts
  have hmem : ∀ m ∈ (b.kafkaContainer cc).podMounts, m.name ∈ b.kafkaTlsSecurity.podVolumes :=
    (b.kafkaContainer cc).podMounts_name_mem
  have hconfig : ⟨kubedoopConfigDirName, kubedoopConfigDir⟩ ∈ (b.kafkaContainer cc).podMounts := by
    rw [KafkaContainerBuilder.podMounts, KafkaContainerBuilder.volumeMount_eq]
    simp
  have hlog : ⟨kubedoopLogConfigDirName, kubedoopLogConfigDir⟩ ∈
      (b.kafkaContainer cc).podMounts := by
    rw [KafkaContainerBuilder.podMounts, KafkaContainerBuilder.volumeMount_eq]
    simp
  rw [← hmounts] at hmem hconfig hlog
  constructor
  case mounts =>
    intro m hm
    refine List.count_eq_one_of_mem (hpod.volumeNames_nodup hop) ?_
    exact hpod.volumeNames_perm.mem_iff.mpr (List.mem_append_left _ (hmem m hm))
  case paths_nodup =>
    rw [hmounts]
    exact (b.kafkaContainer cc).podMounts_path_nodup
  case configMap =>
    intro m hm x hx hxm n hn
    rw [hname]
    exact hpod.configMap_eq hop hx (hxm ▸ hmem m hm) hn
  case server =>
    exact ⟨KafkaContainerBuilder.commandArgs_mentions hargs,
      hpod.fileProvided hname hconfig hpod.podVolumes.config (hfiles .server)⟩
  case security =>
    refine ⟨?_, hpod.fileProvided hname hconfig hpod.podVolumes.config (hfiles .security)⟩
    show ∃ text, _ ∈ main.env ∧ _
    rw [henv]
    exact KafkaContainerBuilder.containerEnv_jvmArgs _ _ _ _
  case log4j =>
    refine ⟨?_, hpod.fileProvided hname hlog hpod.podVolumes.logConfig (hfiles .log4j)⟩
    show ∃ text, _ ∈ main.env ∧ _
    rw [henv]
    exact KafkaContainerBuilder.containerEnv_log4j _ _ _ _

/-- **A built pod is closed**, if the ConfigMap has the files and `vector.yaml` exactly where vector
is enabled. -/
theorem BuiltPod.podClosed (hop : PodAssumptions op)
    (hpod : BuiltPod op b order v sts enabled main volumes) {cm : ConfigMap}
    (hname : cm.name = roleGroupConfigMapName b.info)
    (hfiles : ∀ f : PropertyFile, Provides cm.data f.filename)
    (hvector : (cm.data.get vectorConfigFilename).isSome ↔ enabled = true) :
    PodClosed op b.image sts cm := by
  have hkafka : (main.addVolumeMounts (b.kafkaTlsSecurity.keystores.map (·.mount))).name = "kafka" :=
    hpod.mainContainer.name
  have hother := hop.vectorContainer b.image
  refine ⟨hpod.volumeNames_nodup hop, ⟨_, ?_, hpod.containerClosed hop hname hfiles⟩, ?_⟩
  · apply List.perm_singleton.mp
    refine (hpod.containers_perm.filter _).trans ?_
    cases enabled <;> simp [hkafka, hother]
  · rw [hvector, hpod.containers_perm.mem_iff]
    constructor
    · intro hmem
      rcases List.mem_cons.mp hmem with he | hmem
      · exact absurd (congrArg (·.name) he ▸ hkafka) hother
      · by_contra hdisabled
        rw [if_neg hdisabled] at hmem
        cases hmem
    · rintro rfl
      exact List.mem_cons_of_mem _ (List.mem_singleton_self _)

end Closed

/-! ### The registered role groups -/

theorem PodInv.of_registers {op : OperatorGo} {cluster : KafkaCluster} {spec : BrokersSpec}
    {res : ClusterResources} {h : Heap} (hreg : RegistersIn op cluster spec res h) :
    PodInv op res.roleGroups h.configs h := by
  obtain ⟨orders, l, -, hrun⟩ := hreg.run
  obtain ⟨_, _, -, -, -, hbrokers⟩ := Reconciler.registerResources_eq_ok hrun
  exact ⟨rfl, registerResources_filled hbrokers⟩

/-- **The pod's references are closed**: for every cluster and every role group, whatever its
configuration and the overrides of its properties are, in whatever order everything was visited, and
whatever was built before each of the two `Build`s.  Of overrides of the pod it is asked that they
leave the containers and volumes as they are. -/
theorem pod_references_closed (op : OperatorGo) (hop : PodAssumptions op) (cluster : KafkaCluster)
    (spec : BrokersSpec) (res : ClusterResources) (h : Heap)
    (hreg : RegistersIn op cluster spec res h) :
    (∀ name, (spec.groups.get name).isSome →
      ∃ b ∈ res.roleGroups, b.configMap.info.roleGroupName = name) ∧
    ∀ b ∈ res.roleGroups, ∀ h₁ h₂, ReflTransGen (BuildStep op res.roleGroups) h h₁ →
      ReflTransGen (BuildStep op res.roleGroups) h h₂ →
      ∀ o files cm order sts, (b.configMap.build op o files h₁).1 = .ok cm →
        (b.statefulSet.build op order h₂).1 = .ok sts →
        TemplateKeeps op (b.statefulSet.overrides.bind h₂.overrides.read) →
        PodClosed op b.statefulSet.image sts cm := by
  refine ⟨hreg.exists_built, ?_⟩
  intro b hb h₁ h₂ hrun₁ hrun₂ o files cm order sts hcm hsts hkeeps
  have hinv := PodInv.of_registers hreg
  obtain ⟨name, filled, -, hbuilt⟩ := hreg.built hb
  obtain ⟨config, hcmConfig, hstsConfig, hread, -, -⟩ := hbuilt.config
  obtain ⟨hinv', hname, hfiles, enabled', henabled', hvector⟩ :=
    (build_provides hop hb o files).elim (hinv.run hrun₁) (Prod.ext hcm rfl)
  -- both builders read the same configuration
  obtain ⟨v, hv, hfrom⟩ := Outcome.bind_eq_ok.mp hsts
  rw [Outcome.deref_eq_ok, hstsConfig, (hinv.run hrun₂).configs, Option.bind_some, hread] at hv
  obtain rfl := Option.some.inj hv
  obtain ⟨enabled, main, volumes, hpod⟩ :=
    StatefulSetBuilder.buildFrom_pod (hop.vectorContainer _) hkeeps hfrom
  obtain ⟨rgc, hrgc, henabled⟩ := hpod.vectorEnabled
  have hsame : enabled' = enabled := by
    rw [KafkaConfigmapBuilder.vectorEnabled, KafkaConfigmapBuilder.roleGroupConfig, hcmConfig,
      hinv'.configs, Option.bind_some, hread, Option.bind_some, hrgc, Outcome.deref_some,
      Outcome.ok_bind, henabled] at henabled'
    exact (Outcome.ok.inj henabled').symm
  subst hsame
  have hinfo : b.configMap.info = b.statefulSet.info := by
    obtain ⟨_, _, _, rfl⟩ := hbuilt.registered
    rfl
  rw [hinfo] at hname
  exact hpod.podClosed hop hname hfiles hvector

/-- The library of the reference instance meets the assumptions. -/
theorem reference_podAssumptions (shares : String → Bool) :
    PodAssumptions (.reference shares) where
  log4j l text h := by
    obtain rfl := Outcome.ok.inj h
    decide
  vectorYaml n c r g a text h := by
    obtain rfl := Outcome.ok.inj h
    decide
  vectorContainer image := by
    show "vector" ≠ "kafka"
    decide
  vectorVolumes_nodup image := List.nodup_nil
  vectorVolumes_fresh image x hx := nomatch hx

/-- A cluster with Kerberos, both TLS classes and one role group. -/
def securedBrokers : BrokersSpec := .single none none "default" ⟨1, none, none⟩

def securedCluster : KafkaCluster :=
  .sample [⟨"kerberos", some ⟨"kerberos"⟩⟩] (some ⟨"tls", "tls", "changeit"⟩) securedBrokers

theorem securedCluster_admitted : Admitted securedCluster securedBrokers where
  brokers := rfl
  clusterConfig := rfl
  image := ⟨_, rfl, rfl⟩
  entries := BrokersSpec.single_entries
  noNilFiles := BrokersSpec.single_noNilFiles (fun _ hu => nomatch hu) (fun _ hu => nomatch hu)

theorem securedCluster_registers (shares : String → Bool) :
    ∃ res h, RegistersIn (.reference shares) securedCluster securedBrokers res h := by
  obtain ⟨o⟩ : Nonempty Orders := inferInstance
  obtain ⟨l, hl⟩ := securedBrokers.groups.exists_ranges
  obtain ⟨res, h, hrun⟩ := securedCluster_admitted.registerResources_total
    (OperatorGo.reference_not_mergeFails shares) (fun _ => o) hl
  exact ⟨res, h, rfl, _, l, hl, hrun⟩

/-- Its role group is built from the defaults. -/
theorem securedBrokers_effectiveConfig (c : Constants) (m : MergeRules) (clusterName : String)
    (filled : Bool) (name : String) : securedBrokers.effectiveConfig c m clusterName filled name =
      BrokersConfigSpec.zero.withDefaults c clusterName := by
  have hown : securedBrokers.ownConfig name = none := by
    rw [BrokersSpec.ownConfig, securedBrokers, BrokersSpec.single_get]
    split_ifs <;> rfl
  rw [BrokersSpec.effectiveConfig_of_ownConfig_none _ _ _ _ hown]
  rfl

/-- `Build` returns a StatefulSet for that role group. -/
theorem securedCluster_statefulSet_ok {shares : String → Bool} {res : ClusterResources} {h : Heap}
    (hreg : RegistersIn (.reference shares) securedCluster securedBrokers res h)
    {b : RoleGroupResources} (hb : b ∈ res.roleGroups)
    (order : List (KafkaListenerName × KafkaListenerProtocol)) :
    ∃ sts, (b.statefulSet.build (.reference shares) order h).1 = .ok sts := by
  obtain ⟨k, image, hk, himage, hnode⟩ := hreg.node
  obtain ⟨name, filled, -, hbuilt⟩ := hreg.built hb
  rw [securedBrokers_effectiveConfig] at hbuilt
  obtain ⟨config, -, hconfig, hread, -, -⟩ := hbuilt.config
  simp only [StatefulSetBuilder.build, Prog.reads_apply, hconfig, Option.bind_some, hread,
    Outcome.deref_some, Outcome.ok_bind]
  obtain ⟨replicas, overrides, config', rfl⟩ := hbuilt.registered
  obtain rfl := Outcome.ok.inj hk
  rw [hnode]
  exact ⟨_, rfl⟩

/-- Both `Build`s of that role group return, and the pod is closed. -/
theorem pod_references_closed_secured :
    ∃ res h, RegistersIn (.reference (fun _ => true)) securedCluster securedBrokers res h ∧
      ∃ b ∈ res.roleGroups, ∀ o files order, ∃ cm sts,
        (b.configMap.build (.reference (fun _ => true)) o files h).1 = .ok cm ∧
        (b.statefulSet.build (.reference (fun _ => true)) order h).1 = .ok sts ∧
        PodClosed (.reference (fun _ => true)) b.statefulSet.image sts cm := by
  have hop := reference_podAssumptions (fun _ => true)
  obtain ⟨res, h, hreg⟩ := securedCluster_registers (fun _ => true)
  obtain ⟨hgroups, hclosed⟩ := pod_references_closed _ hop _ _ res h hreg
  obtain ⟨b, hb, -⟩ := hgroups "default" (by decide)
  refine ⟨res, h, hreg, b, hb, fun o files order => ?_⟩
  obtain ⟨name, filled, -, hbuilt⟩ := hreg.built hb
  rw [securedBrokers_effectiveConfig] at hbuilt
  obtain ⟨config, hcmConfig, -, hread, -, -⟩ := hbuilt.config
  obtain ⟨cm, hcm⟩ := build_ok hop (OperatorGo.reference_not_logFails _) hb (.of_registers hreg)
    (fun h' hinv' => by
      simp only [KafkaConfigmapBuilder.vectorEnabled, KafkaConfigmapBuilder.roleGroupConfig, hcmConfig,
        hinv'.configs, Option.bind_some, hread]
      rfl) o files
  obtain ⟨sts, hsts⟩ := securedCluster_statefulSet_ok hreg hb order
  refine ⟨cm, sts, hcm, hsts, hclosed b hb h h .refl .refl o files cm order sts hcm hsts ?_⟩
  intro w t _ ht
  obtain rfl := Outcome.ok.inj ht
  exact ⟨List.perm_insertionSort _ _, List.perm_insertionSort _ _⟩

end KafkaOperator
