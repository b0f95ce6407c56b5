import KafkaOperator.Role

/-! # Are the defaults filled in completely?

`MergeFromUserConfig` fills the defaults of nine fields into a configuration.  For six of them it
looks at the field.  The affinity, the shutdown timeout and the logging settings it fills in only
where the whole role group part is missing, so a user who sets one field of that part loses the
defaults of these three.  `default_filling_iff` says exactly when every field ends up with the user's
value or else the default one.  That a second call changes nothing holds in any case
(`mergeFromUserConfig_again`). -/

namespace KafkaOperator

open Go

/-! ### The fields with a default -/

inductive DefaultField where
  | affinity | gracefulShutdownTimeout | logging
  | cpu | memory | storage
  | bootstrapListenerClass | brokerListenerClass | requestedSecretLifeTime
deriving DecidableEq, Repr

def DefaultField.Value : DefaultField → Type
  | .affinity => RawExtension
  | .logging => LoggingSpec
  | .cpu => CPUResource
  | .memory => MemoryResource
  | .storage => StorageResource
  | .gracefulShutdownTimeout | .bootstrapListenerClass | .brokerListenerClass
  | .requestedSecretLifeTime => String

/-- The value of a field of the role group part, if it is set. -/
def RoleGroupConfigSpec.value (r : RoleGroupConfigSpec) : (f : DefaultField) → Option f.Value
  | .affinity => r.affinity
  | .gracefulShutdownTimeout => (given "" r.gracefulShutdownTimeout : Option String)
  | .logging => r.logging
  | .cpu => r.resources.bind (·.cpu)
  | .memory => r.resources.bind (·.memory)
  | .storage => r.resources.bind (·.storage)
  | .bootstrapListenerClass | .brokerListenerClass | .requestedSecretLifeTime => none

/-- The value of a field, if it is set. -/
def BrokersConfigSpec.value (u : BrokersConfigSpec) : (f : DefaultField) → Option f.Value
  | .bootstrapListenerClass => (given "" u.bootstrapListenerClass : Option String)
  | .brokerListenerClass => (given "" u.brokerListenerClass : Option String)
  | .requestedSecretLifeTime => (given "" u.requestedSecretLifeTime : Option String)
  | f => u.roleGroupConfigSpec.bind (·.value f)

/-- The defaults as a configuration. -/
def KafkaConfig.toBrokersConfigSpec (d : KafkaConfig) : BrokersConfigSpec where
  roleGroupConfigSpec := some d.roleGroupConfigSpec
  brokerListenerClass := d.brokerListenerClass
  bootstrapListenerClass := d.bootstrapListenerClass
  requestedSecretLifeTime := d.requestedSecretLifetime

/-- Every field of `v` has the value that `u` sets, or else the default one. -/
def FilledFrom (d : KafkaConfig) (u v : BrokersConfigSpec) : Prop :=
  ∀ f, v.value f = (u.value f).or (d.toBrokersConfigSpec.value f)

/-- The fields that are filled in only together with the whole role group part. -/
def DefaultField.whole : List DefaultField := [.affinity, .gracefulShutdownTimeout, .logging]

/-- The role group part is missing, or it sets all of these fields. -/
def BrokersConfigSpec.SetsWhole (u : BrokersConfigSpec) : Prop :=
  u.roleGroupConfigSpec = none ∨ ∀ f ∈ DefaultField.whole, (u.value f).isSome

/-! ### The configuration with defaults -/

section WithDefaults

variable (c : Constants) (clusterName : String)

/-- Every field has a default. -/
theorem defaultKafkaConfig_value_isSome (f : DefaultField) :
    ((defaultKafkaConfig c clusterName).toBrokersConfigSpec.value f).isSome := by
  cases f <;> rfl

theorem given_override_default {d x : String} (hd : d ≠ "") :
    given "" (override "" d x) = (given "" x).or (given "" d) := by
  unfold override given
  by_cases hx : x = "" <;> simp [hx, hd]

/-- A part of the resources: missing with the role group part, with the resources, or alone. -/
theorem roleGroupConfigWithDefaults_part {α : Type} (part : ResourcesSpec → Option α)
    (hnone : part ⟨none, none, none⟩ = none)
    (hpart : ∀ r, part (ResourcesSpec.withDefaults r) = (part r).or (part defaultResources))
    (rgc : Option RoleGroupConfigSpec) :
    (roleGroupConfigWithDefaults c clusterName rgc).resources.bind part =
      (rgc.bind (fun r => r.resources.bind part)).or (part defaultResources) := by
  cases rgc with
  | none => rfl
  | some r =>
      show part (ResourcesSpec.withDefaults (r.resources.getD ⟨none, none, none⟩)) =
        (r.resources.bind part).or (part defaultResources)
      rw [hpart]
      cases r.resources with
      | none => rw [Option.getD_none, hnone, Option.bind_none]
      | some x => rfl

/-- The fields that are looked at one by one. -/
theorem withDefaults_value_single (u : BrokersConfigSpec) {f : DefaultField}
    (hf : f ∉ DefaultField.whole) : (u.withDefaults c clusterName).value f =
      (u.value f).or ((defaultKafkaConfig c clusterName).toBrokersConfigSpec.value f) := by
  cases f with
  | affinity | gracefulShutdownTimeout | logging => exact absurd (by decide) hf
  | cpu | memory | storage =>
      exact roleGroupConfigWithDefaults_part c clusterName _ rfl (fun _ => rfl) _
  | bootstrapListenerClass | brokerListenerClass | requestedSecretLifeTime =>
      exact given_override_default (by decide)

/-- The other fields are the user's as soon as the user has a role group part. -/
theorem withDefaults_value_whole {u : BrokersConfigSpec} {f : DefaultField}
    (hf : f ∈ DefaultField.whole) : (u.withDefaults c clusterName).value f =
      if u.roleGroupConfigSpec.isSome then u.value f
      else (defaultKafkaConfig c clusterName).toBrokersConfigSpec.value f := by
  obtain ⟨rgc, broker, bootstrap, lifetime⟩ := u
  cases f with
  | affinity | gracefulShutdownTimeout | logging => cases rgc <;> rfl
  | _ => exact absurd hf (by decide)

theorem value_eq_none_of_missing {u : BrokersConfigSpec} (hnone : u.roleGroupConfigSpec = none)
    {f : DefaultField} (hf : f ∈ DefaultField.whole) : u.value f = none := by
  obtain ⟨rgc, broker, bootstrap, lifetime⟩ := u
  obtain rfl : rgc = none := hnone
  cases f with
  | affinity | gracefulShutdownTimeout | logging => rfl
  | _ => exact absurd hf (by decide)

/-- Filling is complete exactly if nothing is lost with the role group part. -/
theorem withDefaults_filledFrom_iff (u : BrokersConfigSpec) :
    FilledFrom (defaultKafkaConfig c clusterName) u (u.withDefaults c clusterName) ↔ u.SetsWhole := by
  constructor
  · intro hfilled
    by_cases hnone : u.roleGroupConfigSpec = none
    · exact .inl hnone
    · refine .inr (fun f hf => ?_)
      have hvalue := hfilled f
      rw [withDefaults_value_whole c clusterName hf, if_pos (Option.isSome_iff_ne_none.mpr hnone)]
        at hvalue
      rw [hvalue, Option.isSome_or, defaultKafkaConfig_value_isSome, Bool.or_true]
  · intro hsets f
    by_cases hf : f ∈ DefaultField.whole
    · rw [withDefaults_value_whole c clusterName hf]
      by_cases hnone : u.roleGroupConfigSpec = none
      · rw [hnone, value_eq_none_of_missing hnone hf, Option.none_or]
        rfl
      · obtain ⟨x, hx⟩ := Option.isSome_iff_exists.mp (hsets.resolve_left hnone f hf)
        rw [if_pos (Option.isSome_iff_ne_none.mpr hnone), hx, Option.some_or]
    · exact withDefaults_value_single c clusterName u hf

end WithDefaults

/-! ### One call -/

section Call

variable {op : OperatorGo} {o o' : Orders} {config : Ref Path} {overrides : Option (Ref Path)}
  {clusterName : String} {h h' : Heap}

/-- The call returns, unless the overrides bind a file to a nil map. -/
theorem mergeFromUserConfig_returns (op : OperatorGo) (o : Orders) (overrides : Option (Ref Path))
    (clusterName : String) {u : BrokersConfigSpec} (hu : h.configs.read config = some u)
    (hoverrides : ∀ ref, overrides = some ref →
      ∃ w, h.overrides.read ref = some w ∧ w.NoNilFile) :
    ∃ h', BrokerReconciler.mergeFromUserConfig op o (some config) overrides clusterName h =
      (.ok (), h') := by
  obtain ⟨ref, s, w, hnew, hw, hnil⟩ : ∃ ref s w,
      orNew overrides OverridesSpec.zero h.overrides = (.ok ref, s) ∧ s.read ref = some w ∧
        w.NoNilFile := by
    cases overrides with
    | none => exact ⟨_, _, _, rfl, Store.read_alloc_next _ _, fun m hm => nomatch hm⟩
    | some ref =>
        obtain ⟨w, hw, hnil⟩ := hoverrides ref rfl
        exact ⟨ref, _, w, rfl, hw, hnil⟩
  obtain ⟨w', hw', -⟩ := mergeOverrides_spec o w hnil
    ((defaultKafkaConfig op.consts clusterName).overrideConfiguration op.consts) _ rfl
  exact ⟨_, BrokerReconciler.mergeFromUserConfig_eq_ok.mpr ⟨u, ref, s, w, w', hu, hnew, hw, hw', rfl⟩⟩

/-- **A second call changes nothing**, in whatever order it visits the files: every object keeps its
value.  If there are no overrides, it fills in a new object that nobody sees. -/
theorem mergeFromUserConfig_again (o' : Orders)
    (hrun : BrokerReconciler.mergeFromUserConfig op o (some config) overrides clusterName h =
      (.ok (), h')) :
    ∃ h'', BrokerReconciler.mergeFromUserConfig op o' (some config) overrides clusterName h' =
      (.ok (), h'') ∧ h''.configs = h'.configs ∧ h'.overrides.Extends h''.overrides := by
  obtain ⟨u, ref, s, w, w', hu, hnew, hw, hw', rfl⟩ :=
    BrokerReconciler.mergeFromUserConfig_eq_ok.mp hrun
  have hread : (h.configs.write config (u.withDefaults op.consts clusterName)).read config =
      some (u.withDefaults op.consts clusterName) := Store.read_write_self _ hu
  have hconfigs : (h.configs.write config (u.withDefaults op.consts clusterName)).write config
      ((u.withDefaults op.consts clusterName).withDefaults op.consts clusterName) =
        h.configs.write config (u.withDefaults op.consts clusterName) := by
    rw [BrokersConfigSpec.withDefaults_idem]
    exact Store.write_self hread
  cases overrides with
  | some p =>
      obtain ⟨hp, rfl⟩ := Prod.mk.inj hnew
      obtain rfl := Outcome.ok.inj hp
      have hoverrides : (h.overrides.write p w').read p = some w' := Store.read_write_self _ hw
      refine ⟨_, BrokerReconciler.mergeFromUserConfig_eq_ok.mpr ⟨_, p, _, w', w', hread, rfl,
        hoverrides, mergeOverrides_idem o' hw', rfl⟩, hconfigs, ?_⟩
      show (h.overrides.write p w').Extends ((h.overrides.write p w').write p w')
      rw [Store.write_self hoverrides]
      exact fun _ _ => id
  | none =>
      obtain ⟨v, hv, -⟩ := mergeOverrides_spec o' .zero (fun m hm => nomatch hm)
        ((defaultKafkaConfig op.consts clusterName).overrideConfiguration op.consts) _ rfl
      exact ⟨_, BrokerReconciler.mergeFromUserConfig_eq_ok.mpr ⟨_, _, _, _, v, hread, rfl,
        Store.read_alloc_next _ _, hv, rfl⟩, hconfigs, Store.extends_alloc_write _ _ _⟩

/-! ### Filling in the defaults -/

/-- What filling in the defaults should do to a configuration that was `u`: give every field the
user's value or else the default one, and have nothing to do when it is called again. -/
structure FillsDefaults (op : OperatorGo) (config : Ref Path) (overrides : Option (Ref Path))
    (clusterName : String) (u : BrokersConfigSpec) (h' : Heap) : Prop where
  fields : ∃ v, h'.configs.read config = some v ∧
    FilledFrom (defaultKafkaConfig op.consts clusterName) u v
  again : ∀ o', ∃ h'', BrokerReconciler.mergeFromUserConfig op o' (some config) overrides clusterName
    h' = (.ok (), h'') ∧ h''.configs = h'.configs ∧ h'.overrides.Extends h''.overrides

/-- **When the defaults are filled in**: exactly if the role group part is missing as a whole, or
sets the affinity, the shutdown timeout and the logging. -/
theorem default_filling_iff {u : BrokersConfigSpec} (hu : h.configs.read config = some u)
    (hrun : BrokerReconciler.mergeFromUserConfig op o (some config) overrides clusterName h =
      (.ok (), h')) :
    FillsDefaults op config overrides clusterName u h' ↔ u.SetsWhole := by
  have hread : h'.configs.read config = some (u.withDefaults op.consts clusterName) := by
    obtain ⟨u', _, _, _, _, hu', -, -, -, rfl⟩ := BrokerReconciler.mergeFromUserConfig_eq_ok.mp hrun
    obtain rfl := Option.some.inj (hu.symm.trans hu')
    exact Store.read_write_self _ hu
  rw [← withDefaults_filledFrom_iff op.consts clusterName]
  constructor
  · rintro ⟨⟨v, hv, hfilled⟩, -⟩
    obtain rfl := Option.some.inj (hread.symm.trans hv)
    exact hfilled
  · exact fun hfilled => ⟨⟨_, hread, hfilled⟩, fun o' => mergeFromUserConfig_again o' hrun⟩

end Call

/-! ### Users who set some of the fields -/

/-- The heap with one configuration. -/
def Heap.single (u : BrokersConfigSpec) : Heap where
  configs := ⟨fun _ => none, [u]⟩
  overrides := ⟨fun _ => none, []⟩

/-- Its only configuration. -/
theorem Heap.single_returns (u : BrokersConfigSpec) :
    ∃ o h', BrokerReconciler.mergeFromUserConfig (.reference (fun _ => false)) o (some (.fresh 0)) none
      "kafka" (.single u) = (.ok (), h') := by
  obtain ⟨o⟩ : Nonempty Orders := inferInstance
  obtain ⟨h', hrun⟩ := mergeFromUserConfig_returns (.reference (fun _ => false)) o none "kafka"
    (rfl : (Heap.single u).configs.read (.fresh 0) = some u) (fun ref href => nomatch href)
  exact ⟨o, h', hrun⟩

/-- A configuration that sets the three fields, a CPU resource and a listener class, and leaves the
rest to the defaults. -/
def partlySetConfig : BrokersConfigSpec where
  roleGroupConfigSpec := some ⟨some (.json "\x7b\x7d"), "2m", some ⟨Map.empty, some true⟩,
    some ⟨some ⟨2, 1⟩, none, none⟩⟩
  brokerListenerClass := ""
  bootstrapListenerClass := "external-stable"
  requestedSecretLifeTime := ""

theorem default_filling_iff_partly :
    ∃ o h', BrokerReconciler.mergeFromUserConfig (.reference (fun _ => false)) o (some (.fresh 0)) none
        "kafka" (.single partlySetConfig) = (.ok (), h') ∧
      FillsDefaults (.reference (fun _ => false)) (.fresh 0) none "kafka" partlySetConfig h' := by
  obtain ⟨o, h', hrun⟩ := Heap.single_returns partlySetConfig
  refine ⟨o, h', hrun, (default_filling_iff rfl hrun).mpr (.inr (fun f hf => ?_))⟩
  simp only [DefaultField.whole, List.mem_cons, List.not_mem_nil, or_false] at hf
  rcases hf with rfl | rfl | rfl <;> rfl

/-- A configuration that sets the timeout and leaves the rest to the defaults. -/
def timeoutConfig : BrokersConfigSpec := ⟨some ⟨none, "2m", none, none⟩, "", "", ""⟩

/-- It gets neither the anti-affinity nor the logging settings, though both have defaults. -/
theorem timeoutConfig_not_filled :
    ∃ o h' v, BrokerReconciler.mergeFromUserConfig (.reference (fun _ => false)) o (some (.fresh 0)) none
        "kafka" (.single timeoutConfig) = (.ok (), h') ∧ h'.configs.read (.fresh 0) = some v ∧
      (timeoutConfig.value .affinity).isNone ∧ (v.value .affinity).isNone ∧
      ((defaultKafkaConfig .reference "kafka").toBrokersConfigSpec.value .affinity).isSome ∧
      (timeoutConfig.value .logging).isNone ∧ (v.value .logging).isNone ∧
      ((defaultKafkaConfig .reference "kafka").toBrokersConfigSpec.value .logging).isSome := by
  obtain ⟨o, h', hrun⟩ := Heap.single_returns timeoutConfig
  obtain ⟨u, _, _, _, _, hu, -, -, -, rfl⟩ := BrokerReconciler.mergeFromUserConfig_eq_ok.mp hrun
  obtain rfl := Option.some.inj hu
  exact ⟨o, _, _, hrun, Store.read_write_self _ hu, rfl, rfl, rfl, rfl, rfl, rfl⟩

end KafkaOperator
