import KafkaOperator.Isolation

/-! # Are the role's settings inherited?

A group's own setting wins over the role's, setting by setting, and the defaults that are filled in
later only go where nothing is set (`mergedConfig_setting`).  That is so for the objects that the
operator gets and merges.  The manifest is another matter.  The API server fills the schema's defaults
into the group's configuration first, and where the group gives a part of its resources, a quantity
that it leaves out is a zero quantity; in the merge both look like settings of the group.  An empty
text, on the other hand, looks like no setting at all.  `inherits_iff` says exactly for which
manifests every setting arrives. -/

namespace KafkaOperator

open Go

/-- The settings of which `MergeFromUserConfig` fills in an empty one. -/
def Setting.filledIn : List Setting :=
  [.bootstrapListenerClass, .brokerListenerClass, .requestedSecretLifeTime]

section Keep

variable (c : Constants) (m : MergeRules) (clusterName : String)

theorem ResourcesSpec.withDefaults_bind {α : Type} (part : ResourcesSpec → Option α)
    {read : α → Option Value} {v : Value} {r : ResourcesSpec}
    (hpart : ∀ x, part r = some x → part r.withDefaults = some x)
    (h : (part r).bind read = some v) : (part r.withDefaults).bind read = some v := by
  obtain ⟨x, hx, hread⟩ := Option.bind_eq_some_iff.mp h
  rw [hpart x hx]
  exact hread

/-- What a role group part sets is kept when the defaults are filled in. -/
theorem roleGroupConfigWithDefaults_setting {x : RoleGroupConfigSpec} {f : Setting} {v : Value}
    (h : x.setting f = some v) :
    (roleGroupConfigWithDefaults c clusterName (some x)).setting f = some v := by
  have hres : ∀ {read : ResourcesSpec → Option Value}, x.resources.bind read = some v →
      (∀ r, read r = some v → read r.withDefaults = some v) →
      (some ((x.resources.getD ⟨none, none, none⟩).withDefaults)).bind read = some v := by
    intro read hread hkeep
    obtain ⟨r, hr, hv⟩ := Option.bind_eq_some_iff.mp hread
    rw [hr]
    exact hkeep r hv
  cases f with
  | cpuMax | cpuMin =>
      exact hres h (fun r => ResourcesSpec.withDefaults_bind ResourcesSpec.cpu
        (fun x hx => by simp [ResourcesSpec.withDefaults, hx]))
  | memoryLimit =>
      exact hres h (fun r => ResourcesSpec.withDefaults_bind ResourcesSpec.memory
        (fun x hx => by simp [ResourcesSpec.withDefaults, hx]))
  | storageCapacity | storageClass =>
      exact hres h (fun r => ResourcesSpec.withDefaults_bind ResourcesSpec.storage
        (fun x hx => by simp [ResourcesSpec.withDefaults, hx]))
  | _ => exact h

theorem text_setting_override {d x : String} {v : Value} (h : some (Value.text x) = some v)
    (hv : v ≠ .text "") : some (Value.text (override "" d x)) = some v := by
  obtain rfl := Option.some.inj h
  rw [override_of_ne d (fun hx => hv (congrArg Value.text hx))]

/-- What a configuration sets is kept when the defaults are filled in, except for an empty text. -/
theorem BrokersConfigSpec.withDefaults_setting {u : BrokersConfigSpec} {f : Setting} {v : Value}
    (h : u.setting f = some v) (htext : f ∈ Setting.filledIn → v ≠ .text "")
    (hpart : f = .gracefulShutdownTimeout → v = .text "" → u.roleGroupConfigSpec.isSome) :
    (u.withDefaults c clusterName).setting f = some v := by
  have hkeep : (u.roleGroupConfigSpec.getD .zero).setting f = some v →
      (roleGroupConfigWithDefaults c clusterName u.roleGroupConfigSpec).setting f = some v := by
    intro hf
    cases hu : u.roleGroupConfigSpec with
    | some x =>
        rw [hu] at hf
        exact roleGroupConfigWithDefaults_setting c clusterName hf
    | none =>
        -- without the part, only the timeout reads as a value
        rw [hu] at hf hpart
        cases f with
        | gracefulShutdownTimeout => cases hpart rfl (Option.some.inj hf).symm
        | _ => cases hf
  cases f with
  | bootstrapListenerClass | brokerListenerClass | requestedSecretLifeTime =>
      exact text_setting_override h (htext (by decide))
  | _ => exact hkeep h

/-- An empty text of these settings is not kept. -/
theorem BrokersConfigSpec.withDefaults_filledIn (u : BrokersConfigSpec) {f : Setting}
    (hf : f ∈ Setting.filledIn) : (u.withDefaults c clusterName).setting f ≠ some (.text "") := by
  have hoverride : ∀ d x : String, d ≠ "" → some (Value.text (override "" d x)) ≠ some (.text "") := by
    intro d x hd h
    have hempty := Value.text.inj (Option.some.inj h)
    by_cases hx : x = ""
    · exact hd (by simpa [override, hx] using hempty)
    · exact hx ((override_of_ne d hx).symm.trans hempty)
  cases f with
  | bootstrapListenerClass | brokerListenerClass => exact hoverride "cluster-internal" _ (by decide)
  | requestedSecretLifeTime => exact hoverride "1d" _ (by decide)
  | _ => simp [Setting.filledIn] at hf

/-- **Precedence of the objects**: a setting of what a group is built from is what the merge makes of
the role's and the group's. -/
theorem mergedConfig_setting {role own : Option BrokersConfigSpec} {f : Setting} {v : Value}
    (h : mergePtr (Value.merge m) (role.bind (·.setting f)) (own.bind (·.setting f)) = some v)
    (htext : f ∈ Setting.filledIn → v ≠ .text "")
    (hpart : f = .gracefulShutdownTimeout → v = .text "" →
      ((mergePtr (BrokersConfigSpec.merge m) role own).bind (·.roleGroupConfigSpec)).isSome) :
    (mergedConfig c m clusterName role own).setting f = some v := by
  rw [← (BrokersConfigSpec.merge_setting m f).ptr role own] at h
  obtain ⟨u, hu, hv⟩ := Option.bind_eq_some_iff.mp h
  unfold mergedConfig
  rw [hu] at hpart ⊢
  exact BrokersConfigSpec.withDefaults_setting c clusterName hv htext hpart

end Keep

/-! ### Merging values -/

section Value

variable {m : MergeRules} {a b : Value}

theorem Value.merge_empty : Value.merge m a (.text "") = a := if_pos rfl

theorem Value.merge_of_ne (hb : b ≠ .text "") (hraw : ∀ y, b ≠ .raw y) : Value.merge m a b = b := by
  unfold merge
  rw [if_neg hb]
  split
  · exact absurd rfl (hraw _)
  · rfl

end Value

namespace BrokersConfigManifest

variable {M : BrokersConfigManifest} {f : Setting} {y : RawExtension}

/-- The affinity is the only raw setting. -/
theorem sets_raw (h : M.sets f = some (.raw y)) : f = .affinity := by
  cases f with
  | affinity => rfl
  | logLevel n t =>
      obtain ⟨l, -, h⟩ := Option.bind_eq_some_iff.mp h
      obtain ⟨x, -, h⟩ := Option.bind_eq_some_iff.mp h
      cases t <;> simp [LoggingConfigManifest.sets, Option.bind_eq_some_iff] at h
  | _ => simp [sets, Option.bind_eq_some_iff] at h

theorem leftOut_ne_raw : M.leftOut f ≠ some (.raw y) := by
  intro h
  cases f with
  | logLevel n t =>
      obtain ⟨l, -, h⟩ := Option.bind_eq_some_iff.mp h
      obtain ⟨x, -, h⟩ := Option.bind_eq_some_iff.mp h
      cases t <;> simp [LoggingConfigManifest.leftOut] at h
  | _ => simp [leftOut] at h

end BrokersConfigManifest

/-! ### Inheritance from manifests -/

section Inherits

variable (c : Constants) (m : MergeRules) (clusterName : String)
  (role own : Option BrokersConfigManifest)

/-- Every setting has the value the group's manifest sets, or else the one the role's manifest
sets. -/
def Arrives (v : BrokersConfigSpec) : Prop :=
  ∀ f w, (own.bind (·.sets f)).or (role.bind (·.sets f)) = some w → v.setting f = some w

/-- Whenever the group is registered, it is built from a configuration in which every setting
arrives. -/
def Inherits : Prop :=
  ∀ b h, GroupRun c m clusterName (role.map (·.admission)) (own.map (·.admission)) b h →
    ∃ v, b.BuiltFrom h v ∧ Arrives role own v

/-- What the manifests have to be for every setting to arrive. -/
structure Inheritable : Prop where
  /-- Where the group leaves a setting out of an object it has, neither the schema's default nor a
  zero quantity takes the place of another value of the role. -/
  leftOut : ∀ f d w, own.bind (·.sets f) = none → own.bind (·.leftOut f) = some d →
    role.bind (·.sets f) = some w → d = .text "" ∨ w = d
  /-- Where the group sets an empty text, the role has no other text to win over it. -/
  emptyText : ∀ f w, own.bind (·.sets f) = some (.text "") →
    role.bind (fun R => (R.sets f).or (R.leftOut f)) = some w → w = .text ""
  /-- Listener classes and lifetime are not set to the empty text. -/
  filledIn : ∀ f ∈ Setting.filledIn, (own.bind (·.sets f)).or (role.bind (·.sets f)) ≠ some (.text "")
  /-- Where both set an affinity, the group's wins. -/
  affinity : ∀ x y, role.bind (·.affinity) = some x → own.bind (·.affinity) = some y →
    m.affinity x y = y
  part : PartKept m role own

theorem admission_bind_setting (o : Option BrokersConfigManifest) (f : Setting) :
    (o.map (·.admission)).bind (·.setting f) = (o.bind (·.sets f)).or (o.bind (·.leftOut f)) := by
  cases o with
  | none => rfl
  | some M => exact M.admission_setting f

variable {m role own} {f : Setting} {w : Value}

/-- A setting of the role that the operator gets. -/
theorem role_setting (h : (role.map (·.admission)).bind (·.setting f) = some w) :
    role.bind (fun R => (R.sets f).or (R.leftOut f)) = some w := by
  cases role with
  | none => exact h
  | some R => exact (R.admission_setting f).symm.trans h

/-- What the group sets wins in the merge. -/
theorem Inheritable.merge_own (hinh : Inheritable m role own) (hown : own.bind (·.sets f) = some w)
    {x : Value} (hrole : (role.map (·.admission)).bind (·.setting f) = some x) :
    Value.merge m x w = w := by
  by_cases hempty : w = .text ""
  · subst hempty
    rw [Value.merge_empty]
    exact hinh.emptyText f x hown (role_setting hrole)
  by_cases hraw : ∃ y, w = .raw y
  · -- two affinities
    obtain ⟨y, rfl⟩ := hraw
    obtain ⟨G, rfl, hG⟩ := Option.bind_eq_some_iff.mp hown
    obtain rfl := BrokersConfigManifest.sets_raw hG
    obtain ⟨R, rfl, hR⟩ := Option.bind_eq_some_iff.mp (role_setting hrole)
    rw [BrokersConfigManifest.leftOut, Option.or_none] at hR
    obtain ⟨x', hx', rfl⟩ := Option.map_eq_some_iff.mp hR
    obtain ⟨y', hy', hyy'⟩ := Option.map_eq_some_iff.mp hG
    obtain rfl := Value.raw.inj hyy'
    exact congrArg Value.raw (hinh.affinity x' y' hx' hy')
  · exact Value.merge_of_ne hempty (fun y hy => hraw ⟨y, hy⟩)

/-- What the manifests set is what the merge makes of it. -/
theorem Inheritable.value (hinh : Inheritable m role own)
    (h : (own.bind (·.sets f)).or (role.bind (·.sets f)) = some w) :
    mergePtr (Value.merge m) ((role.map (·.admission)).bind (·.setting f))
      ((own.map (·.admission)).bind (·.setting f)) = some w := by
  cases hown : own.bind (·.sets f) with
  | some w' =>
      rw [hown, Option.some_or] at h
      obtain rfl := Option.some.inj h
      rw [admission_bind_setting own, hown, Option.some_or]
      cases hrole : (role.map (·.admission)).bind (·.setting f) with
      | none => rfl
      | some x => exact congrArg some (hinh.merge_own hown hrole)
  | none =>
      rw [hown, Option.none_or] at h
      rw [admission_bind_setting own, admission_bind_setting role, hown, h, Option.some_or,
        Option.none_or]
      cases hleft : own.bind (·.leftOut f) with
      | none => rfl
      | some d =>
          refine congrArg some ?_
          by_cases hempty : d = .text ""
          · rw [hempty, Value.merge_empty]
          · obtain rfl := (hinh.leftOut f d w hown hleft h).resolve_left hempty
            refine Value.merge_of_ne hempty ?_
            rintro y rfl
            obtain ⟨G, -, hG⟩ := Option.bind_eq_some_iff.mp hleft
            exact BrokersConfigManifest.leftOut_ne_raw hG

/-- The embedded part of the merged configuration is there. -/
theorem PartKept.merged_isSome (hkept : PartKept m role own) (h : role.isSome ∨ own.isSome) :
    ((mergePtr (BrokersConfigSpec.merge m) (role.map (·.admission)) (own.map (·.admission))).bind
      (·.roleGroupConfigSpec)).isSome := by
  cases role with
  | none =>
      cases own with
      | none => simp at h
      | some G => exact Option.isSome_iff_exists.mpr ⟨_, G.admission_part⟩
  | some R =>
      cases own with
      | none => exact Option.isSome_iff_exists.mpr ⟨_, R.admission_part⟩
      | some G => exact hkept.isSome rfl rfl

/-! #### What arriving needs -/

section Needs

variable {c clusterName} (h : Arrives role own
  (mergedConfig c m clusterName (role.map (·.admission)) (own.map (·.admission))))

include h

/-- A value that the merge comes to, and that is not an empty text, is the one to arrive. -/
theorem Arrives.eq_merged {v : Value} (hne : v ≠ .text "")
    (hvalue : mergePtr (Value.merge m) ((role.map (·.admission)).bind (·.setting f))
      ((own.map (·.admission)).bind (·.setting f)) = some v)
    (hw : (own.bind (·.sets f)).or (role.bind (·.sets f)) = some w) : w = v := by
  have hv := mergedConfig_setting c m clusterName hvalue (fun _ => hne)
    (fun _ hempty => absurd hempty hne)
  exact Option.some.inj ((h f w hw).symm.trans hv)

theorem Arrives.leftOut {d : Value} (hown : own.bind (·.sets f) = none)
    (hleft : own.bind (·.leftOut f) = some d) (hrole : role.bind (·.sets f) = some w) :
    d = .text "" ∨ w = d := by
  rw [or_iff_not_imp_left]
  intro hne
  refine h.eq_merged hne ?_ (by rw [hown, hrole, Option.none_or])
  rw [admission_bind_setting, admission_bind_setting, hown, hleft, hrole]
  refine congrArg some (Value.merge_of_ne hne ?_)
  rintro y rfl
  obtain ⟨G, -, hG⟩ := Option.bind_eq_some_iff.mp hleft
  exact BrokersConfigManifest.leftOut_ne_raw hG

theorem Arrives.emptyText (hown : own.bind (·.sets f) = some (.text ""))
    (hrole : role.bind (fun R => (R.sets f).or (R.leftOut f)) = some w) : w = .text "" := by
  by_contra hne
  refine hne (h.eq_merged (f := f) hne ?_ (by rw [hown, Option.some_or])).symm
  obtain ⟨R, rfl, hR⟩ := Option.bind_eq_some_iff.mp hrole
  rw [admission_bind_setting own, hown, Option.some_or, Option.map_some, Option.bind_some,
    R.admission_setting, hR]
  exact congrArg some Value.merge_empty

theorem Arrives.affinity {x y : RawExtension} (hx : role.bind (·.affinity) = some x)
    (hy : own.bind (·.affinity) = some y) : m.affinity x y = y := by
  have hown : own.bind (·.sets .affinity) = some (.raw y) := by
    obtain ⟨G, rfl, hG⟩ := Option.bind_eq_some_iff.mp hy
    exact congrArg (Option.map Value.raw) hG
  refine (Value.raw.inj (h.eq_merged (f := .affinity) (by simp) ?_ (by rw [hown, Option.some_or]))).symm
  obtain ⟨R, rfl, hR⟩ := Option.bind_eq_some_iff.mp hx
  have hrole : R.sets .affinity = some (.raw x) := congrArg (Option.map Value.raw) hR
  rw [admission_bind_setting own, hown, Option.some_or, Option.map_some, Option.bind_some,
    R.admission_setting, hrole]
  rfl

/-- If the part were lost, the timeout would be the default one. -/
theorem Arrives.part : PartKept m role own := by
  rintro R G rfl rfl hR hG
  by_contra hdrops
  have hnone : (BrokersConfigSpec.merge m R.admission G.admission).roleGroupConfigSpec = none := by
    show m.mergePart _ _ = none
    rw [m.mergePart_eq_none, R.admission_part, G.admission_part, R.emptyPart_iff.mp hR,
      G.emptyPart_iff.mp hG]
    exact ⟨rfl, Bool.eq_false_of_not_eq_true hdrops⟩
  have hset : ((some G).bind (·.sets .gracefulShutdownTimeout)).or
      ((some R).bind (·.sets .gracefulShutdownTimeout)) = some (.text "") := by
    show (G.gracefulShutdownTimeout.map Value.text).or _ = _
    rw [hG.gracefulShutdownTimeout]
    rfl
  have htimeout := h .gracefulShutdownTimeout (.text "") hset
  change some (Value.text (roleGroupConfigWithDefaults c clusterName
    (BrokersConfigSpec.merge m R.admission G.admission).roleGroupConfigSpec).gracefulShutdownTimeout)
      = _ at htimeout
  rw [hnone] at htimeout
  exact absurd (Value.text.inj (Option.some.inj htimeout)) (show "30s" ≠ "" by decide)

theorem Arrives.inheritable : Inheritable m role own where
  leftOut _ _ _ := h.leftOut
  emptyText _ _ := h.emptyText
  filledIn f hf hempty :=
    BrokersConfigSpec.withDefaults_filledIn c clusterName _ hf (h f _ hempty)
  affinity _ _ := h.affinity
  part := h.part

end Needs

/-- Where the manifests are such, everything arrives. -/
theorem Inheritable.arrives (hinh : Inheritable m role own) : Arrives role own
    (mergedConfig c m clusterName (role.map (·.admission)) (own.map (·.admission))) := by
  intro f w hw
  refine mergedConfig_setting c m clusterName (hinh.value hw) ?_ ?_
  · rintro hf rfl
    exact hinh.filledIn f hf hw
  · intro _ _
    apply hinh.part.merged_isSome
    by_contra hnone
    simp only [not_or, Option.not_isSome_iff_eq_none] at hnone
    rw [hnone.1, hnone.2] at hw
    cases hw

variable (m role own)

/-- **When the role's settings are inherited**: exactly if nothing stands in the group's configuration
for a setting of the role that the group leaves out, no empty text is to win over another one, and
where both levels set an affinity or write only an empty timeout the merge keeps the group's. -/
theorem inherits_iff : Inherits c m clusterName role own ↔ Inheritable m role own := by
  constructor
  · intro hinh
    -- one run is enough to see what arrives
    obtain ⟨orders⟩ : Nonempty Orders := inferInstance
    obtain ⟨b, h, hrun, hbuilt⟩ := (pairRun_mergedConfig c m clusterName (role.map (·.admission))
      (own.map (·.admission)) (fun _ => orders) false).groupRun
    obtain ⟨v, hv, harrives⟩ := hinh b h hrun
    obtain rfl := hv.unique hbuilt
    exact harrives.inheritable
  · intro hinh b h hrun
    have hbuilt := hrun.builtFrom
    rw [hinh.part.mergedConfig_fill, or_self] at hbuilt
    exact ⟨_, hbuilt, hinh.arrives c clusterName⟩

end Inherits

/-- A role that chooses its listener class and its timeout, and a group that says neither. -/
def roleManifest : BrokersConfigManifest :=
  ⟨none, some "2m", none, none, some "external-unstable", none, none⟩

def groupManifest : BrokersConfigManifest := ⟨none, none, none, none, none, some "external-stable", none⟩

/-- The group gets the schema's defaults in place of the role's settings. -/
theorem roleManifest_not_inherited :
    ∃ (orders : String → Orders) (v : BrokersConfigSpec),
      PairRun .reference .reference "kafka" (some roleManifest.admission) (some groupManifest.admission)
        orders false v ∧
      groupManifest.sets .brokerListenerClass = none ∧
      roleManifest.sets .brokerListenerClass = some (.text "external-unstable") ∧
      v.setting .brokerListenerClass = some (.text "cluster-internal") ∧
      groupManifest.sets .gracefulShutdownTimeout = none ∧
      roleManifest.sets .gracefulShutdownTimeout = some (.text "2m") ∧
      v.setting .gracefulShutdownTimeout = some (.text "30s") := by
  obtain ⟨orders⟩ : Nonempty Orders := inferInstance
  exact ⟨_, _, pairRun_mergedConfig .reference .reference "kafka" (some roleManifest.admission)
    (some groupManifest.admission) (fun _ => orders) false, by decide⟩

end KafkaOperator
