import KafkaOperator.OperatorGo

/-! # Default configuration

`internal/controller/cluster_config.go`: the default configuration of a cluster and how it is
filled into the configuration and the overrides of a role group.

The source fills defaults in place; here each function returns what it leaves behind, and
panics where the source would dereference nil or write to a nil map.  On the defaults the
controller uses it does neither: `mergeBaseConfig_default` computes the result as
`BrokersConfigSpec.withDefaults`, and `mergeOverrides_default` says what it does to the
overrides, for every order of visiting the files and their entries. -/

namespace KafkaOperator

open Go

def roleName : String := "broker"
def serverPropertiesFilename : String := "server.properties"
def securityPropertiesFilename : String := "security.properties"
def log4jPropertiesFilename : String := "log4j.properties"
def vectorConfigFilename : String := "vector.yaml"

/-! ### The defaults -/

/-- The three computations a configuration contributes to the overrides. -/
structure OverrideConfiguration where
  computeEnv : Outcome (Map String String)
  computeFile : Outcome (Map String (Map String String))
  computeCli : Outcome (List String)

/-- `RoleGroupConfigSpec` is embedded by value. -/
structure KafkaConfig where
  roleGroupConfigSpec : RoleGroupConfigSpec
  bootstrapListenerClass : String
  brokerListenerClass : String
  requestedSecretLifetime : String

/-- The default properties files. -/
def defaultFiles (c : Constants) : Map String (Map String String) :=
  Map.ofList [
    (serverPropertiesFilename, Map.ofList [
      ("zookeeper.connection.timeout.ms", "18000"),
      ("controlled.shutdown.enable", "true"),
      ("log.dirs", pathJoin c.kubedoopDataDir "topicdata")]),
    (securityPropertiesFilename, Map.ofList [
      ("networkaddress.cache.ttl", "30"),
      ("networkaddress.cache.negative.ttl", "0")])]

def KafkaConfig.overrideConfiguration (c : Constants) (_ : KafkaConfig) : OverrideConfiguration where
  computeEnv := .err "unimplemented"
  computeFile := .ok (defaultFiles c)
  computeCli := .err "unimplemented"

def defaultAffinity (c : Constants) (role crName : String) : Affinity where
  weight := 70
  matchLabels := [(c.labelKubernetesInstance, crName), (c.labelKubernetesComponent, role)]
  topologyKey := "kubernetes.io/hostname"

def defaultResources : ResourcesSpec where
  cpu := some ⟨1, 1 / 4⟩
  memory := some ⟨2 ^ 30⟩
  storage := some ⟨2 * 2 ^ 30, ""⟩

def defaultKafkaConfig (c : Constants) (clusterName : String) : KafkaConfig where
  roleGroupConfigSpec :=
    { affinity := some (.marshal (defaultAffinity c roleName clusterName))
      gracefulShutdownTimeout := "30s"
      logging := some ⟨Map.empty, some false⟩
      resources := some defaultResources }
  bootstrapListenerClass := "cluster-internal"
  brokerListenerClass := "cluster-internal"
  requestedSecretLifetime := "1d"

/-! ### Filling in the base configuration -/

def mergeResources (userResources : ResourcesSpec) (defaultResources : Option ResourcesSpec) :
    Outcome ResourcesSpec := do
  let cpu ← match userResources.cpu with
    | none => (·.cpu) <$> Outcome.deref defaultResources
    | some x => pure (some x)
  let memory ← match userResources.memory with
    | none => (·.memory) <$> Outcome.deref defaultResources
    | some x => pure (some x)
  let storage ← match userResources.storage with
    | none => (·.storage) <$> Outcome.deref defaultResources
    | some x => pure (some x)
  pure ⟨cpu, memory, storage⟩

def defaultRoleGroupConfigSpec (d : KafkaConfig) : RoleGroupConfigSpec where
  affinity := d.roleGroupConfigSpec.affinity
  gracefulShutdownTimeout := d.roleGroupConfigSpec.gracefulShutdownTimeout
  logging := d.roleGroupConfigSpec.logging
  resources := d.roleGroupConfigSpec.resources

/-- What `mergeBaseConfig` leaves in a configuration that is not nil. -/
def mergeBaseConfig (userConfig : BrokersConfigSpec) (d : KafkaConfig) :
    Outcome BrokersConfigSpec := do
  let rgc := userConfig.roleGroupConfigSpec.getD (defaultRoleGroupConfigSpec d)
  let resources ← match rgc.resources with
    | none => pure d.roleGroupConfigSpec.resources
    | some r => some <$> mergeResources r d.roleGroupConfigSpec.resources
  pure
    { roleGroupConfigSpec := some { rgc with resources := resources }
      brokerListenerClass :=
        if userConfig.brokerListenerClass = "" then d.brokerListenerClass
        else userConfig.brokerListenerClass
      bootstrapListenerClass :=
        if userConfig.bootstrapListenerClass = "" then d.bootstrapListenerClass
        else userConfig.bootstrapListenerClass
      requestedSecretLifeTime :=
        if userConfig.requestedSecretLifeTime = "" then d.requestedSecretLifetime
        else userConfig.requestedSecretLifeTime }

/-! ### Filling in the overrides -/

/-- The orders in which the loops over maps run. -/
structure Orders where
  files : Map.Order String (Map String String)
  entries : Map.Order String String

instance : Nonempty Orders := ⟨⟨Classical.arbitrary _, Classical.arbitrary _⟩⟩

/-- What a file of the overrides becomes; a nil map can only take no entries at all. -/
def mergeFile (o : Orders) (user : Option (Option (Map String String)))
    (configs : Map String String) : Outcome (Option (Map String String)) :=
  match user with
  | none => .ok (some configs)
  | some (some m) => .ok (some (m.fill (o.entries.list configs)))
  | some none => if configs.keys = ∅ then .ok none else .panic

/-- The loop over the default files. -/
def mergeFiles (o : Orders) (m : Map String (Option (Map String String))) :
    List (String × Map String String) → Outcome (Map String (Option (Map String String)))
  | [] => pure m
  | e :: l => do
      let f ← mergeFile o (m.get e.1) e.2
      mergeFiles o (m.set e.1 f) l

/-- Append the commands that are not there yet. -/
def mergeCli (user : List String) (cliConfig : List String) : List String :=
  cliConfig.foldl (fun l cmd => if cmd ∈ l then l else l ++ [cmd]) user

/-- What `mergeOverrides` leaves in overrides that are not nil. -/
def mergeOverrides (o : Orders) (userOverrides : OverridesSpec) (d : OverrideConfiguration) :
    Outcome OverridesSpec := do
  let cli := userOverrides.cliOverrides.getD []
  let env := userOverrides.envOverrides.getD Map.empty
  let files := userOverrides.configOverrides.getD Map.empty
  let cli := match d.computeCli with
    | .ok cliConfig => mergeCli cli cliConfig
    | _ => cli
  let env := match d.computeEnv with
    | .ok envConfig => env.fill (o.entries.list envConfig)
    | _ => env
  let files ← match d.computeFile with
    | .ok fileConfig => mergeFiles o files (o.files.list fileConfig)
    | _ => pure files
  pure
    { cliOverrides := some cli
      envOverrides := some env
      configOverrides := some files
      podOverrides := userOverrides.podOverrides }

/-! ### The base configuration with defaults -/

/-- Resources with the parts that are missing taken from the defaults. -/
def ResourcesSpec.withDefaults (r : ResourcesSpec) : ResourcesSpec where
  cpu := r.cpu.or defaultResources.cpu
  memory := r.memory.or defaultResources.memory
  storage := r.storage.or defaultResources.storage

/-- The role group part of a configuration with defaults. -/
def roleGroupConfigWithDefaults (c : Constants) (clusterName : String) :
    Option RoleGroupConfigSpec → RoleGroupConfigSpec
  | none => (defaultKafkaConfig c clusterName).roleGroupConfigSpec
  | some r => { r with resources := some ((r.resources.getD ⟨none, none, none⟩).withDefaults) }

namespace BrokersConfigSpec

variable (c : Constants) (clusterName : String)

/-- A configuration with defaults. -/
def withDefaults (u : BrokersConfigSpec) : BrokersConfigSpec where
  roleGroupConfigSpec := some (roleGroupConfigWithDefaults c clusterName u.roleGroupConfigSpec)
  brokerListenerClass := override "" "cluster-internal" u.brokerListenerClass
  bootstrapListenerClass := override "" "cluster-internal" u.bootstrapListenerClass
  requestedSecretLifeTime := override "" "1d" u.requestedSecretLifeTime

end BrokersConfigSpec

theorem mergeResources_default (r : ResourcesSpec) :
    mergeResources r (some defaultResources) = .ok r.withDefaults := by
  obtain ⟨cpu, memory, storage⟩ := r
  cases cpu <;> cases memory <;> cases storage <;> rfl

theorem mergeBaseConfig_default (c : Constants) (clusterName : String) (u : BrokersConfigSpec) :
    mergeBaseConfig u (defaultKafkaConfig c clusterName) = .ok (u.withDefaults c clusterName) := by
  obtain ⟨rgc, broker, bootstrap, lifetime⟩ := u
  cases rgc with
  | none => rfl
  | some r =>
      obtain ⟨affinity, timeout, logging, resources⟩ := r
      cases resources with
      | none => rfl
      | some x =>
          have hx := mergeResources_default x
          simp only [mergeBaseConfig, defaultKafkaConfig, Option.getD_some, hx]
          rfl

theorem ResourcesSpec.withDefaults_idem (r : ResourcesSpec) :
    r.withDefaults.withDefaults = r.withDefaults := by
  simp [ResourcesSpec.withDefaults, Option.or_assoc]

/-- Filling defaults in twice changes nothing. -/
theorem BrokersConfigSpec.withDefaults_idem (c : Constants) (clusterName : String)
    (u : BrokersConfigSpec) :
    (u.withDefaults c clusterName).withDefaults c clusterName = u.withDefaults c clusterName := by
  obtain ⟨rgc, broker, bootstrap, lifetime⟩ := u
  simp only [withDefaults, override_idem, mk.injEq, and_true]
  cases rgc with
  | none => rfl
  | some r => simp [roleGroupConfigWithDefaults, ResourcesSpec.withDefaults_idem]

/-! ### The overrides with defaults -/

/-- A file after `mergeFile`, where it is not bound to a nil map. -/
def mergedFile (o : Orders) (user : Option (Option (Map String String)))
    (configs : Map String String) : Map String String :=
  match user with
  | some (some m) => m.fill (o.entries.list configs)
  | _ => configs

theorem mergeFile_eq (o : Orders) {user : Option (Option (Map String String))}
    (hu : user ≠ some none) (configs : Map String String) :
    mergeFile o user configs = .ok (some (mergedFile o user configs)) := by
  match user, hu with
  | none, _ => rfl
  | some (some m), _ => rfl

theorem get_mergedFile (o : Orders) (user : Option (Option (Map String String)))
    (configs : Map String String) (key : String) :
    (mergedFile o user configs).get key =
      (user.bind (fun d => d.bind (fun f => f.get key))).or (configs.get key) := by
  match user with
  | none => rfl
  | some none => rfl
  | some (some m) => exact Map.get_fill (o.entries.ranges configs) m key

/-- The loop over the files treats every file by itself. -/
theorem mergeFiles_spec (o : Orders) (l : List (String × Map String String))
    (hl : (l.map Prod.fst).Nodup) (m : Map String (Option (Map String String)))
    (hm : ∀ file, m.get file ≠ some none) :
    ∃ m', mergeFiles o m l = .ok m' ∧ ∀ file, m'.get file =
      match (l.find? (fun e => e.1 = file)).map Prod.snd with
      | none => m.get file
      | some configs => some (some (mergedFile o (m.get file) configs)) := by
  induction l generalizing m with
  | nil => exact ⟨m, rfl, fun _ => rfl⟩
  | cons e l ih =>
      obtain ⟨file₀, configs₀⟩ := e
      simp only [List.map_cons, List.nodup_cons] at hl
      have hset : ∀ file, (m.set file₀ (some (mergedFile o (m.get file₀) configs₀))).get file ≠
          some none := by
        intro file
        rw [Map.get_set]
        split_ifs
        · simp
        · exact hm file
      obtain ⟨m', hm', hget⟩ := ih hl.2 _ hset
      refine ⟨m', ?_, fun file => ?_⟩
      · simpa only [mergeFiles, mergeFile_eq o (hm file₀), Outcome.ok_bind] using hm'
      · rw [hget, Map.get_set]
        by_cases hf : file = file₀
        · subst hf
          have hnone : l.find? (fun e => e.1 = file) = none := by
            simp only [List.find?_eq_none, decide_eq_true_eq]
            exact fun e he hek => hl.1 (List.mem_map.mpr ⟨e, he, hek⟩)
          simp [hnone]
        · simp [hf, Ne.symm hf]

/-- What filling `files` into the overrides `u` leaves behind. -/
structure MergedOverrides (u : OverridesSpec) (files : Map String (Map String String))
    (v : OverridesSpec) : Prop where
  property : ∀ file key,
    v.property file key = (u.property file key).or ((files.get file).bind (fun f => f.get key))
  noNilFile : v.NoNilFile
  hasFile : ∀ file f, files.get file = some f → v.HasFile file
  podOverrides : v.podOverrides = u.podOverrides

theorem getD_configOverrides_ne {u : OverridesSpec} (hu : u.NoNilFile) (file : String) :
    (u.configOverrides.getD Map.empty).get file ≠ some none := by
  cases hc : u.configOverrides with
  | none => simp
  | some m => exact hu m hc file

/-- **Filling in the overrides** keeps what the user set, adds the defaults for the other keys,
and leaves no default file without a map. -/
theorem mergeOverrides_spec (o : Orders) (u : OverridesSpec) (hu : u.NoNilFile)
    (d : OverrideConfiguration) (files : Map String (Map String String))
    (hd : d.computeFile = .ok files) :
    ∃ v, mergeOverrides o u d = .ok v ∧ MergedOverrides u files v := by
  have hm := getD_configOverrides_ne hu
  obtain ⟨m', hm', hget⟩ := mergeFiles_spec o (o.files.list files) (o.files.ranges files).1 _ hm
  simp only [(o.files.ranges files).find] at hget
  obtain ⟨v, hv, hfiles, hpod⟩ : ∃ v, mergeOverrides o u d = .ok v ∧
      v.configOverrides = some m' ∧ v.podOverrides = u.podOverrides := by
    simp [mergeOverrides, hd, hm']
  refine ⟨v, hv, ?_⟩
  constructor
  case property =>
    intro file key
    have hu' : u.property file key = ((u.configOverrides.getD Map.empty).get file).bind
        (fun d => d.bind (fun f => f.get key)) := by
      cases hc : u.configOverrides <;> simp [OverridesSpec.property, hc]
    rw [hu', OverridesSpec.property, hfiles, Option.bind_some, hget]
    cases hf : files.get file with
    | none => simp
    | some configs => exact get_mergedFile o _ configs key
  case noNilFile =>
    intro m hmm file
    obtain rfl := Option.some.inj (hfiles.symm.trans hmm)
    rw [hget]
    cases hf : files.get file with
    | none => exact hm file
    | some configs => simp
  case hasFile =>
    intro file f hf
    exact ⟨m', mergedFile o ((u.configOverrides.getD Map.empty).get file) f, hfiles, by rw [hget, hf]⟩
  case podOverrides => exact hpod

/-- Each file is merged by itself, also where others are bound to nil maps. -/
theorem mergeFiles_get (o : Orders) {l : List (String × Map String String)}
    (hl : (l.map Prod.fst).Nodup) {m m' : Map String (Option (Map String String))}
    (h : mergeFiles o m l = .ok m') :
    (∀ e ∈ l, ∃ f, mergeFile o (m.get e.1) e.2 = .ok f ∧ m'.get e.1 = some f) ∧
      ∀ file, file ∉ l.map Prod.fst → m'.get file = m.get file := by
  induction l generalizing m with
  | nil =>
      obtain rfl := Outcome.ok.inj h
      exact ⟨by simp, fun _ _ => rfl⟩
  | cons e l ih =>
      rw [List.map_cons, List.nodup_cons] at hl
      obtain ⟨f, hf, hrest⟩ := Outcome.bind_eq_ok.mp h
      obtain ⟨hmem, hkeep⟩ := ih hl.2 hrest
      constructor
      · intro e' he'
        rcases List.mem_cons.mp he' with rfl | he'
        · exact ⟨f, hf, by rw [hkeep _ hl.1, Map.get_set_self]⟩
        · have hne : e'.1 ≠ e.1 := fun he => hl.1 (he ▸ List.mem_map_of_mem he')
          obtain ⟨f', hf', hget⟩ := hmem e' he'
          rw [Map.get_set_ne _ _ hne] at hf'
          exact ⟨f', hf', hget⟩
      · intro file hfile
        rw [List.map_cons, List.mem_cons, not_or] at hfile
        rw [hkeep file hfile.2, Map.get_set_ne _ _ hfile.1]

/-- A file that was merged binds every key that the defaults bind. -/
theorem mergeFile_isSome (o : Orders) {user : Option (Option (Map String String))}
    {configs : Map String String} {f : Option (Map String String)}
    (h : mergeFile o user configs = .ok f) {key : String} (hkey : (configs.get key).isSome) :
    ∃ m, f = some m ∧ (m.get key).isSome := by
  match user, h with
  | none, h => exact ⟨configs, (Outcome.ok.inj h).symm, hkey⟩
  | some (some m), h =>
      refine ⟨_, (Outcome.ok.inj h).symm, ?_⟩
      rw [Map.get_fill (o.entries.ranges configs), Option.isSome_or, hkey, Bool.or_true]
  | some none, h =>
      have hne : configs.keys ≠ ∅ := Finset.ne_empty_of_mem ((configs.mem_keys key).mpr hkey)
      rw [mergeFile, if_neg hne] at h
      cases h

/-! ### Filling in twice -/

theorem fill_self {m : Map String String} {configs : Map String String} (o : Orders)
    (h : ∀ key, (m.get key).or (configs.get key) = m.get key) :
    m.fill (o.entries.list configs) = m := by
  apply Map.ext_get
  intro key
  rw [Map.get_fill (o.entries.ranges configs)]
  exact h key

/-- A file that was filled once is not changed by filling it again, in whatever order. -/
theorem mergeFile_idem {o : Orders} (o' : Orders) {user : Option (Option (Map String String))}
    {configs : Map String String} {f : Option (Map String String)}
    (h : mergeFile o user configs = .ok f) : mergeFile o' (some f) configs = .ok f := by
  match user, h with
  | none, h =>
      obtain rfl := Outcome.ok.inj h
      rw [mergeFile, fill_self o' (fun key => Option.or_self)]
  | some (some m), h =>
      obtain rfl := Outcome.ok.inj h
      rw [mergeFile, fill_self o' (fun key => ?_)]
      rw [Map.get_fill (o.entries.ranges configs), Option.or_assoc, Option.or_self]
  | some none, h =>
      by_cases hc : configs.keys = ∅
      · rw [mergeFile, if_pos hc] at h
        obtain rfl := Outcome.ok.inj h
        rw [mergeFile, if_pos hc]
      · rw [mergeFile, if_neg hc] at h
        cases h

/-- The loop changes nothing if no iteration does. -/
theorem mergeFiles_of_merged (o : Orders) {l : List (String × Map String String)}
    {m : Map String (Option (Map String String))}
    (h : ∀ e ∈ l, ∃ f, m.get e.1 = some f ∧ mergeFile o (some f) e.2 = .ok f) :
    mergeFiles o m l = .ok m := by
  induction l with
  | nil => rfl
  | cons e l ih =>
      obtain ⟨f, hget, hf⟩ := h e List.mem_cons_self
      have hset : m.set e.1 f = m := by
        apply Map.ext_get
        intro file
        rw [Map.get_set]
        split_ifs with hfile
        · rw [hfile, hget]
        · rfl
      rw [mergeFiles, hget, hf, Outcome.ok_bind, hset]
      exact ih (fun e' he' => h e' (List.mem_cons_of_mem _ he'))

/-- **Filling in the overrides twice** changes nothing: neither computation for the command line and
the environment is implemented, and each file is filled once. -/
theorem mergeOverrides_idem {o : Orders} (o' : Orders) {c : Constants} {d : KafkaConfig}
    {u v : OverridesSpec} (h : mergeOverrides o u (d.overrideConfiguration c) = .ok v) :
    mergeOverrides o' v (d.overrideConfiguration c) = .ok v := by
  obtain ⟨m, hm, h⟩ := Outcome.bind_eq_ok.mp h
  obtain rfl := Outcome.ok.inj h
  have hagain : mergeFiles o' m (o'.files.list (defaultFiles c)) = .ok m := by
    apply mergeFiles_of_merged
    intro e he
    have hget := ((o'.files.ranges (defaultFiles c)).2 e.1 e.2).mp he
    have hranges := o.files.ranges (defaultFiles c)
    obtain ⟨f, hf, hfile⟩ := (mergeFiles_get o hranges.1 hm).1 e ((hranges.2 e.1 e.2).mpr hget)
    exact ⟨f, hfile, mergeFile_idem o' hf⟩
  simp only [mergeOverrides, KafkaConfig.overrideConfiguration, Option.getD_some, hagain,
    Outcome.ok_bind]
  rfl

/-- Every property that the default files give has a value. -/
def OverridesSpec.Filled (c : Constants) (u : OverridesSpec) : Prop :=
  ∀ file configs key, (defaultFiles c).get file = some configs → (configs.get key).isSome →
    (u.property file key).isSome

/-- Filling in the overrides gives every default property a value, whatever they were before. -/
theorem mergeOverrides_filled (o : Orders) {c : Constants} {u v : OverridesSpec}
    {d : OverrideConfiguration} (hd : d.computeFile = .ok (defaultFiles c))
    (h : mergeOverrides o u d = .ok v) : v.Filled c := by
  intro file configs key hfile hkey
  simp only [mergeOverrides, hd] at h
  obtain ⟨m, hm, h⟩ := Outcome.bind_eq_ok.mp h
  obtain rfl := Outcome.ok.inj h
  have hranges := o.files.ranges (defaultFiles c)
  obtain ⟨f, hf, hget⟩ := (mergeFiles_get o hranges.1 hm).1 (file, configs)
    ((hranges.2 file configs).mpr hfile)
  obtain ⟨data, rfl, hdata⟩ := mergeFile_isSome o hf hkey
  simpa [OverridesSpec.property, hget] using hdata

theorem mergeFiles_ne_err (o : Orders) (l : List (String × Map String String))
    (m : Map String (Option (Map String String))) (e : String) : mergeFiles o m l ≠ .err e := by
  induction l generalizing m with
  | nil => simp [mergeFiles]
  | cons x l ih =>
      have hfile : ∀ e, mergeFile o (m.get x.1) x.2 ≠ .err e := by
        intro e
        unfold mergeFile
        split
        · simp
        · simp
        · split_ifs <;> simp
      simp only [mergeFiles]
      cases hf : mergeFile o (m.get x.1) x.2 with
      | ok f => simpa using ih _
      | err e' => exact absurd hf (hfile e')
      | panic => simp

/-- Filling in the overrides never returns an error. -/
theorem mergeOverrides_ne_err (o : Orders) (u : OverridesSpec) (d : OverrideConfiguration)
    (e : String) : mergeOverrides o u d ≠ .err e := by
  unfold mergeOverrides
  cases hd : d.computeFile with
  | ok files =>
      simp only
      cases hf : mergeFiles o (u.configOverrides.getD Map.empty) (o.files.list files) with
      | ok m => simp
      | err e' => exact absurd hf (mergeFiles_ne_err o _ _ e')
      | panic => simp
  | err e' => simp
  | panic => simp

end KafkaOperator
