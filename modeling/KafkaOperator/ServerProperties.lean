import KafkaOperator.RoleGroups
import Mathlib.Logic.Relation

/-! # The effective server.properties

`buildServerProperties` copies the security settings into the map that the overrides hold for
`server.properties`, in place.  Role groups may share that map, so a `Build` writes to what
another group reads later.  What it writes are the same settings for every group, and a later
`Build` writes them again: `BuildsInv` says that up to these keys the overrides behind every
builder are the ones of its group, and it survives any sequence of `Build`s (`BuildsInv.run`).

`serverProperties_effective` gives the value of every key in the rendered file. -/

namespace KafkaOperator

open Go Relation

/-! ### One file -/

/-- The overrides with the files `m` and one more file. -/
def OverridesSpec.withFile (u : OverridesSpec) (m : Map String (Option (Map String String)))
    (file : String) (data : Map String String) : OverridesSpec :=
  { u with configOverrides := some (m.set file (some data)) }

namespace KafkaConfigmapBuilder

variable (op : OperatorGo) (b : KafkaConfigmapBuilder)

/-- The settings are copied into the map that the overrides hold for the file. -/
theorem buildServerProperties_eq (o : Orders) {h : Heap} {ref : Ref Path} {u : OverridesSpec}
    {m : Map String (Option (Map String String))} {data : Map String String}
    (href : b.overrides = some ref) (hu : h.overrides.read ref = some u)
    (hm : u.configOverrides = some m) (hf : m.get serverPropertiesFilename = some (some data)) :
    b.buildServerProperties o h =
      (.ok (.properties (data.copy (o.entries.list b.kafkaSecurity.configSettings))),
        { h with overrides := h.overrides.write ref (u.withFile m serverPropertiesFilename
            (data.copy (o.entries.list b.kafkaSecurity.configSettings))) }) := by
  have huser : b.userOverrides h = some u := by simp [userOverrides, href, hu]
  simp only [buildServerProperties, href, huser, hm, hf, OverridesSpec.withFile]

/-- What `buildServerProperties` does to the heap: nothing, or it sets the one file in the overrides
that the builder points to. -/
theorem buildServerProperties_heap (o : Orders) (h : Heap) :
    (b.buildServerProperties o h).2 = h ∨ ∃ ref u m data, h.overrides.read ref = some u ∧
      u.configOverrides = some m ∧ (b.buildServerProperties o h).2 =
        { h with overrides := h.overrides.write ref (u.withFile m serverPropertiesFilename data) } := by
  simp only [buildServerProperties]
  split
  case h_1 r u hr hu =>
      have hread : h.overrides.read r = some u := by simpa [userOverrides, hr] using hu
      split
      case h_1 m hm =>
          split
          · exact .inr ⟨r, u, m, _, hread, hm, rfl⟩
          · split_ifs <;> exact .inl rfl
      case h_2 => exact .inl rfl
  case h_2 => exact .inl rfl

/-- What `buildServerProperties` renders, and what it leaves in the overrides. -/
theorem buildServerProperties_run (o : Orders) {h : Heap} {ref : Ref Path} {u : OverridesSpec}
    (href : b.overrides = some ref) (hu : h.overrides.read ref = some u)
    (hfile : u.HasFile serverPropertiesFilename) :
    ∃ data u', b.buildServerProperties o h =
        (.ok (.properties data), { h with overrides := h.overrides.write ref u' }) ∧
      (∀ key, data.get key =
        (b.kafkaSecurity.configSettings.get key).or (u.property serverPropertiesFilename key)) ∧
      (∀ key, u'.property serverPropertiesFilename key = data.get key) ∧
      u'.HasFile serverPropertiesFilename := by
  obtain ⟨m, f, hm, hf⟩ := hfile
  refine ⟨_, _, b.buildServerProperties_eq o href hu hm hf, fun key => ?_, fun key => ?_, ?_⟩
  · rw [Map.get_copy (o.entries.ranges _)]
    simp [OverridesSpec.property, hm, hf]
  · simp [OverridesSpec.property, OverridesSpec.withFile]
  · exact ⟨_, _, rfl, Map.get_set_self _ _ _⟩

theorem buildSecurityProperties_run (h : Heap) :
    ∃ content, b.buildSecurityProperties h = (.ok content, h) := by
  simp only [buildSecurityProperties, Prog.reads_apply]
  split
  · split
    · exact ⟨_, rfl⟩
    · exact ⟨_, rfl⟩
  · exact ⟨_, rfl⟩

/-- What the vector part of `Build` dereferences is there. -/
structure VectorReady (h : Heap) : Prop where
  clusterConfig : b.clusterConfig.isSome
  logging : ∃ c, b.roleGroupConfig h = some c ∧ ∀ l, c.logging = some l → l.enableVectorAgent.isSome

variable {b}

theorem VectorReady.vectorEnabled_safe {h : Heap} (hr : b.VectorReady h) :
    (b.vectorEnabled h).Safe := by
  obtain ⟨c, hc, hl⟩ := hr.logging
  simp only [vectorEnabled, hc, Outcome.deref_some, Outcome.ok_bind]
  cases hlog : c.logging with
  | none => simp [isVectorEnable]
  | some l =>
      obtain ⟨e, he⟩ := Option.isSome_iff_exists.mp (hl l hlog)
      simp [isVectorEnable, he]

theorem VectorReady.buildVectorConfig_safe {h : Heap} (hr : b.VectorReady h) :
    (b.buildVectorConfig op h).1.Safe := by
  obtain ⟨cc, hcc⟩ := Option.isSome_iff_exists.mp hr.clusterConfig
  simp only [buildVectorConfig, Prog.reads_apply, hcc, Outcome.deref_some, Outcome.ok_bind]
  split
  · split_ifs
    · simp
    · exact op.makeVectorYaml_safe _ _ _ _ _
    · simp
  · simp

end KafkaConfigmapBuilder

/-! ### The value of a key -/

namespace BrokersSpec

variable (spec : BrokersSpec) (c : Constants) (k : KafkaSecurity)

/-- The value a key of `server.properties` should have for a role group: the security settings
win over the group's own overrides, these over the role's, and these over the default. -/
def serverProperty (name key : String) : Option String :=
  (k.configSettings.get key).or ((spec.ownProperty name serverPropertiesFilename key).or
    ((spec.roleProperty serverPropertiesFilename key).or
      (defaultProperty c serverPropertiesFilename key)))

/-- The overrides of a role group, up to the security settings. -/
structure ServerOverrides (name : String) (u : OverridesSpec) : Prop where
  property : ∀ key, (k.configSettings.get key).or (u.property serverPropertiesFilename key) =
    spec.serverProperty c k name key
  hasFile : u.HasFile serverPropertiesFilename

/-- Writing the settings into the map is not visible. -/
theorem ServerOverrides.write {name : String} {u u' : OverridesSpec}
    (h : spec.ServerOverrides c k name u) (hfile : u'.HasFile serverPropertiesFilename)
    (hu : ∀ key, u'.property serverPropertiesFilename key =
      (k.configSettings.get key).or (u.property serverPropertiesFilename key)) :
    spec.ServerOverrides c k name u' := by
  refine ⟨fun key => ?_, hfile⟩
  rw [hu, ← h.property, ← Option.or_assoc, Option.or_self]

end BrokersSpec

/-! ### Runs of builds -/

/-- One `Build` of a registered ConfigMap or StatefulSet, whatever comes of it. -/
inductive BuildStep (op : OperatorGo) (bs : List RoleGroupResources) : Heap → Heap → Prop where
  | configMap {b : RoleGroupResources} (hb : b ∈ bs) (o : Orders) (files : FileOrder) (h : Heap) :
      BuildStep op bs h (b.configMap.build op o files h).2
  | statefulSet {b : RoleGroupResources} (hb : b ∈ bs)
      (order : List (KafkaListenerName × KafkaListenerProtocol)) (h : Heap) :
      BuildStep op bs h (b.statefulSet.build op order h).2

section Keeps

variable {op : OperatorGo} {I : Heap → Prop}

theorem buildFiles_keeps {cm : KafkaConfigmapBuilder} {o : Orders}
    (hfile : ∀ f, Prog.Keeps I (cm.buildFile op o f)) (data : Map String Content)
    (l : List PropertyFile) : Prog.Keeps I (cm.buildFiles op o data l) := by
  induction l generalizing data with
  | nil => exact .pure _
  | cons f l ih => exact .bind (hfile f) (fun _ => ih _)

theorem buildVector_keeps (cm : KafkaConfigmapBuilder) (data : Map String Content) :
    Prog.Keeps I (cm.buildVector op data) := by
  refine .bind (.reads _) (fun enabled => ?_)
  cases enabled with
  | false => exact .pure _
  | true => exact .bind (.reads _) (fun _ => .pure _)

/-- A `Build` keeps what the functions of its files keep, also where it fails. -/
theorem build_keeps {cm : KafkaConfigmapBuilder} {o : Orders}
    (hfile : ∀ f, Prog.Keeps I (cm.buildFile op o f)) (files : FileOrder) :
    Prog.Keeps I (cm.build op o files) :=
  .bind (buildFiles_keeps hfile _ _) (fun data =>
    .bind (buildVector_keeps cm data) (fun _ => .pure _))

/-- **The rule for runs of builds**: they keep what the functions of the files keep. -/
theorem builds_keep {bs : List RoleGroupResources}
    (hfile : ∀ b ∈ bs, ∀ o f, Prog.Keeps I (b.configMap.buildFile op o f)) {h h' : Heap}
    (hrun : ReflTransGen (BuildStep op bs) h h') (hI : I h) : I h' := by
  induction hrun with
  | refl => exact hI
  | tail _ hstep ih =>
      cases hstep with
      | configMap hb o files => exact build_keeps (hfile _ hb o) files _ ih
      | statefulSet hb order => exact ih

end Keeps

section Builds

variable (op : OperatorGo) (r : BrokerReconciler) (spec : BrokersSpec)
  (bs : List RoleGroupResources) (s : Store Path BrokersConfigSpec)

/-- No configuration changes, and the overrides behind every registered builder are those of its
group, up to the settings. -/
structure BuildsInv (h : Heap) : Prop where
  configs : h.configs = s
  security : ∀ b ∈ bs, b.configMap.kafkaSecurity = r.kafkaTlsSecurity
  overrides : ∀ b ∈ bs, ∃ ref u, b.configMap.overrides = some ref ∧ h.overrides.read ref = some u ∧
    spec.ServerOverrides op.consts r.kafkaTlsSecurity b.configMap.info.roleGroupName u

variable {op r spec bs s} {b : RoleGroupResources}

/-- The file a builder renders binds every key as it should. -/
theorem BuildsInv.buildServerProperties {h : Heap} (hinv : BuildsInv op r spec bs s h) (hb : b ∈ bs)
    (o : Orders) : ∃ data h', b.configMap.buildServerProperties o h = (.ok (.properties data), h') ∧
      (∀ key, data.get key = spec.serverProperty op.consts r.kafkaTlsSecurity
        b.configMap.info.roleGroupName key) ∧ BuildsInv op r spec bs s h' := by
  obtain ⟨ref, u, href, hu, hover⟩ := hinv.overrides b hb
  obtain ⟨data, u', hrun, hdata, hu', hfile⟩ :=
    b.configMap.buildServerProperties_run o href hu hover.hasFile
  rw [hinv.security b hb] at hdata
  refine ⟨data, _, hrun, fun key => (hdata key).trans (hover.property key), hinv.configs,
    hinv.security, ?_⟩
  intro b' hb'
  obtain ⟨ref', w, href', hw, hover'⟩ := hinv.overrides b' hb'
  by_cases hne : ref' = ref
  · -- both builders use one object
    subst hne
    obtain rfl := Option.some.inj (hw.symm.trans hu)
    exact ⟨ref', u', href', Store.read_write_self u' hw,
      hover'.write _ _ _ hfile (fun key => (hu' key).trans (hdata key))⟩
  · exact ⟨ref', w, href', (Store.read_write_ne _ u' hne).trans hw, hover'⟩

theorem BuildsInv.keeps (hb : b ∈ bs) (o : Orders) (f : PropertyFile) :
    Prog.Keeps (BuildsInv op r spec bs s) (b.configMap.buildFile op o f) := by
  cases f with
  | server =>
      intro h hinv
      obtain ⟨data, h', hrun, -, hinv'⟩ := hinv.buildServerProperties hb o
      show BuildsInv op r spec bs s (b.configMap.buildServerProperties o h).2
      rwa [hrun]
  | security => exact .reads _
  | log4j => exact .reads _

/-- **Any run of builds** keeps the invariant. -/
theorem BuildsInv.run {h h' : Heap} (hinv : BuildsInv op r spec bs s h)
    (hrun : ReflTransGen (BuildStep op bs) h h') : BuildsInv op r spec bs s h' :=
  builds_keep (fun _ hb o f => BuildsInv.keeps hb o f) hrun hinv

/-! ### The ConfigMap -/

variable (op r spec b) in
/-- The data hold a `server.properties` that binds every key as it should. -/
def ServerRendered (data : Map String Content) : Prop :=
  ∃ entries, data.get serverPropertiesFilename = some (.properties entries) ∧
    ∀ key, entries.get key =
      spec.serverProperty op.consts r.kafkaTlsSecurity b.configMap.info.roleGroupName key

theorem ServerRendered.set {data : Map String Content} (h : ServerRendered op r spec b data)
    {file : String} (hfile : file ≠ serverPropertiesFilename) (content : Content) :
    ServerRendered op r spec b (data.set file content) := by
  obtain ⟨entries, hget, hentries⟩ := h
  exact ⟨entries, by rw [Map.get_set_ne _ _ hfile.symm, hget], hentries⟩

/-- The file is not empty, since some keys have defaults. -/
theorem serverProperty_isEmpty {c : Constants} {k : KafkaSecurity} {name : String}
    {entries : Map String String} (h : ∀ key, entries.get key = spec.serverProperty c k name key) :
    (Content.properties entries).isEmpty = false := by
  have hdefault : defaultProperty c serverPropertiesFilename "controlled.shutdown.enable" =
      some "true" := rfl
  apply Content.isEmpty_properties "controlled.shutdown.enable"
  rw [h, BrokersSpec.serverProperty, hdefault]
  simp

/-- With these configurations the log configuration of the builder cannot be generated. -/
def KafkaConfigmapBuilder.LogFails (cm : KafkaConfigmapBuilder) (op : OperatorGo)
    (s : Store Path BrokersConfigSpec) : Prop :=
  ∃ h e, h.configs = s ∧ op.log4jContent (cm.containerLogging h) = .err e

theorem KafkaConfigmapBuilder.LogFails.library {cm : KafkaConfigmapBuilder}
    (h : cm.LogFails op s) : op.LogFails := by
  obtain ⟨_, e, -, herr⟩ := h
  exact ⟨_, e, herr⟩

/-- Rendering one file does not panic, and fails only if the log configuration does. -/
theorem buildFile_spec {E : Prop} (hE : b.configMap.LogFails op s → E) (hb : b ∈ bs) (o : Orders)
    (f : PropertyFile) {p : Prop} :
    Triple E False (fun h => BuildsInv op r spec bs s h ∧ p) (b.configMap.buildFile op o f)
      (fun content h => (f = .server → ∃ entries, content = .properties entries ∧
        ∀ key, entries.get key = spec.serverProperty op.consts r.kafkaTlsSecurity
          b.configMap.info.roleGroupName key) ∧ BuildsInv op r spec bs s h ∧ p) := by
  cases f with
  | server =>
      refine Triple.of_run (fun h hh => ?_)
      obtain ⟨data, h', hrun, hdata, hinv'⟩ := hh.1.buildServerProperties hb o
      exact ⟨_, h', hrun, fun _ => ⟨data, rfl, hdata⟩, hinv', hh.2⟩
  | security =>
      refine Triple.of_run (fun h hh => ?_)
      obtain ⟨content, hcontent⟩ := b.configMap.buildSecurityProperties_run h
      exact ⟨content, h, hcontent, by simp, hh⟩
  | log4j =>
      refine Triple.reads (fun h hh hpanic => (op.log4jContent_safe _).map Content.text hpanic)
        (fun h e hh herr => hE ?_) (fun h content hh _ => ⟨by simp, hh⟩)
      exact ⟨h, e, hh.1.configs, Outcome.map_eq_err.mp herr⟩

theorem buildFiles_spec {E : Prop} (hE : b.configMap.LogFails op s → E) (hb : b ∈ bs) (o : Orders)
    (data : Map String Content) (l : List PropertyFile) :
    Triple E False
      (fun h => BuildsInv op r spec bs s h ∧ (.server ∈ l ∨ ServerRendered op r spec b data))
      (b.configMap.buildFiles op o data l)
      (fun data' h => BuildsInv op r spec bs s h ∧ ServerRendered op r spec b data') := by
  induction l generalizing data with
  | nil => exact Triple.pure (fun h hh => ⟨hh.1, hh.2.resolve_left (by simp)⟩)
  | cons f l ih =>
      refine Triple.bind (buildFile_spec hE hb o f) (fun content => Triple.assuming (fun hcontent => ?_))
      refine (ih _).conseq (fun h hh => ⟨hh.1, ?_⟩) (fun _ _ => id)
      by_cases hf : f = .server
      · obtain ⟨entries, rfl, hentries⟩ := hcontent hf
        subst hf
        right
        rw [serverProperty_isEmpty hentries]
        exact ⟨entries, Map.get_set_self _ _ _, hentries⟩
      · rcases hh.2 with hmem | hdata
        · exact .inl ((List.mem_cons.mp hmem).resolve_left (Ne.symm hf))
        · right
          split
          · exact hdata
          · exact hdata.set (by cases f <;> first | decide | exact absurd rfl hf) content

/-- `VectorReady` keeps the vector part from panicking. -/
theorem buildVector_spec {X : Prop} {I : Heap → Prop} (data : Map String Content)
    (hready : ∀ h, I h → ¬ b.configMap.VectorReady h → X) :
    Triple True X (fun h => I h ∧ ServerRendered op r spec b data) (b.configMap.buildVector op data)
      (fun data' h => I h ∧ ServerRendered op r spec b data') := by
  refine Triple.bind (Triple.reads
    (fun h hh hpanic => hready h hh.1 (fun hr => hr.vectorEnabled_safe hpanic))
    (fun _ _ _ _ => trivial) (fun h enabled hh _ => hh)) (fun enabled => ?_)
  cases enabled with
  | false => exact Triple.pure (fun h hh => hh)
  | true =>
      refine Triple.bind (Triple.reads
        (fun h hh hpanic => hready h hh.1 (fun hr => hr.buildVectorConfig_safe op hpanic))
        (fun _ _ _ _ => trivial) (fun h config hh _ => hh)) (fun config => ?_)
      refine Triple.pure (fun h hh => ⟨hh.1, ?_⟩)
      split
      · exact hh.2
      · exact hh.2.set (by decide) _

/-- **One `Build`**: it panics only where vector is not ready, and renders the file. -/
theorem build_spec {X : Prop} (hb : b ∈ bs) (o : Orders) (files : FileOrder)
    (hready : ∀ h, BuildsInv op r spec bs s h → ¬ b.configMap.VectorReady h → X) :
    Triple True X (BuildsInv op r spec bs s) (b.configMap.build op o files)
      (fun cm h => BuildsInv op r spec bs s h ∧ ServerRendered op r spec b cm.data) := by
  have hserver : PropertyFile.server ∈ files.list := files.perm.mem_iff.mpr (by simp)
  refine Triple.bind (((buildFiles_spec (fun _ => trivial) hb o Map.empty files.list).conseq
    (fun h hh => ⟨hh, .inl hserver⟩) (fun _ _ => id)).weaken id False.elim) (fun data => ?_)
  refine Triple.bind (buildVector_spec data hready) (fun data' => ?_)
  exact Triple.pure (fun h hh => hh)

/-! ### After the registration -/

variable {l : List (String × Option BrokersRoleGroupSpec)} {h : Heap}

/-- The registration establishes the invariant. -/
theorem BuildsInv.of_registered (hc : ConfigsInv op r spec l bs h.configs)
    (ho : OverridesInv op spec l bs h.overrides) : BuildsInv op r spec bs h.configs h := by
  refine ⟨rfl, ?_, ?_⟩
  · intro b hb
    obtain ⟨_, _, _, -, hbuilt⟩ := hc.built.of_mem hb
    obtain ⟨_, _, _, rfl⟩ := hbuilt.registered
    rfl
  · intro b hb
    obtain ⟨_, e, _, -, hbuilt⟩ := ho.built.of_mem hb
    obtain ⟨ref, hcm, -, ⟨u, hu, hgroup⟩, -, -⟩ := hbuilt.overrides
    refine ⟨ref, u, hcm, hu, fun key => ?_, hgroup.hasFile _ _ rfl⟩
    rw [hbuilt.roleGroupName, hgroup.property]
    rfl

end Builds

/-- **The effective server.properties.**  Whatever the other role groups are, in whatever order
everything is visited, and whatever was built before: the file that `Build` renders for a role
group binds each key to the security setting, else to the group's own override, else to the
role's, else to the default, and binds no other key. -/
theorem serverProperties_effective (op : OperatorGo) (r : BrokerReconciler) (spec : BrokersSpec)
    (hspec : r.spec = some spec) (hnil : spec.NoNilFiles) (orders : String → Orders)
    (l : List (String × Option BrokersRoleGroupSpec)) (hl : spec.groups.Ranges l)
    (bs : List RoleGroupResources) (h h' : Heap)
    (hrun : r.registerResources op orders l spec.load = (.ok bs, h))
    (hbuilds : ReflTransGen (BuildStep op bs) h h') (name : String)
    (hname : (spec.groups.get name).isSome) :
    (∃ b ∈ bs, b.configMap.info.roleGroupName = name) ∧
    ∀ b ∈ bs, b.configMap.info.roleGroupName = name → ∀ o : Orders,
      (∃ data h'', b.configMap.buildServerProperties o h' = (.ok (.properties data), h'') ∧
        ∀ key, data.get key = spec.serverProperty op.consts r.kafkaTlsSecurity name key) ∧
      ∀ files cm h'', b.configMap.build op o files h' = (.ok cm, h'') →
        ∃ data, cm.data.get serverPropertiesFilename = some (.properties data) ∧
          ∀ key, data.get key = spec.serverProperty op.consts r.kafkaTlsSecurity name key := by
  have htriple := registerResources_spec op (X := True) hspec orders hl
    (fun _ => trivial) (fun _ => trivial)
  obtain ⟨hc, ho⟩ := htriple.elim rfl hrun
  have hinv := (BuildsInv.of_registered hc (ho hnil)).run hbuilds
  constructor
  · obtain ⟨entry, hentry⟩ := Option.isSome_iff_exists.mp hname
    obtain ⟨done, rest, rfl⟩ := List.mem_iff_append.mp ((hl.2 name entry).mpr hentry)
    obtain ⟨b, hb, hbuilt⟩ := hc.built.exists_of_split rfl
    exact ⟨b, hb, hbuilt.roleGroupName⟩
  · rintro b hb rfl o
    constructor
    · obtain ⟨data, h'', hserver, hdata, -⟩ := hinv.buildServerProperties hb o
      exact ⟨data, h'', hserver, hdata⟩
    · intro files cm h'' hbuild
      exact ((build_spec hb o files (X := True) (fun _ _ _ => trivial)).elim hinv hbuild).2

/-- A role that overrides a property, with one role group. -/
def overriddenSpec : BrokersSpec :=
  .single none (some ⟨none, none, some (Map.ofList
    [(serverPropertiesFilename, some (Map.ofList [("num.partitions", "3")]))]), none⟩)
    "default" ⟨1, none, none⟩

theorem overriddenSpec_noNilFiles : overriddenSpec.NoNilFiles := by
  refine BrokersSpec.single_noNilFiles ?_ (fun _ hu => nomatch hu)
  rintro u hu m hm file hfile
  obtain rfl := Option.some.inj hu
  obtain rfl := Option.some.inj hm
  simp only [Map.ofList, List.foldl_cons, List.foldl_nil, Map.get_set] at hfile
  split_ifs at hfile <;> cases hfile

/-- The second `Build` of the group's ConfigMap, with the role's override and a default. -/
theorem serverProperties_effective_example :
    ∃ (orders : String → Orders) (bs : List RoleGroupResources) (h : Heap),
      (BrokerReconciler.sample "kafka" overriddenSpec).registerResources
        (.reference (fun _ => true)) orders [("default", some ⟨1, none, none⟩)] overriddenSpec.load =
          (.ok bs, h) ∧
      ∃ b ∈ bs, ∀ o files, ∃ data h'', b.configMap.buildServerProperties o
          (b.configMap.build (.reference (fun _ => true)) o files h).2 =
            (.ok (.properties data), h'') ∧
        data.get "num.partitions" = some "3" ∧
        data.get "controlled.shutdown.enable" = some "true" := by
  obtain ⟨order⟩ : Nonempty Orders := inferInstance
  obtain ⟨bs, h, hrun, -, -⟩ := registerResources_total _
    (r := .sample "kafka" overriddenSpec) (OperatorGo.reference_not_mergeFails (fun _ => true)) rfl
    (fun _ => order) BrokersSpec.single_ranges BrokersSpec.single_entries overriddenSpec_noNilFiles
  refine ⟨fun _ => order, bs, h, hrun, ?_⟩
  have heffective := fun h' hbuilds => serverProperties_effective (.reference (fun _ => true))
    (.sample "kafka" overriddenSpec) overriddenSpec rfl overriddenSpec_noNilFiles (fun _ => order) _
    BrokersSpec.single_ranges bs h h' hrun hbuilds "default" (by decide)
  obtain ⟨b, hb, hname⟩ := (heffective h .refl).1
  refine ⟨b, hb, fun o files => ?_⟩
  obtain ⟨⟨data, h'', hserver, hdata⟩, -⟩ :=
    (heffective _ (.single (.configMap hb o files h))).2 b hb hname o
  exact ⟨data, h'', hserver, by rw [hdata]; decide, by rw [hdata]; decide⟩

end KafkaOperator
