import KafkaOperator.Role

/-! # What the role groups are built from

`RegisterResources` visits the role groups one after the other and fills defaults into
objects that several groups may share.  Here the loop is run: for every order of visiting and
every choice of sharing, `registerResources_spec` gives the configuration and the overrides
that each group's builders point to in the end.

The configuration of a group is `effectiveConfig`: the role's configuration merged with the
group's own one, with defaults.  It depends on one bit of the history, whether an earlier group
without a configuration of its own had the defaults filled into the role's object itself. -/

namespace KafkaOperator

open Go

/-- The role's configuration merged with a group's own one, with defaults. -/
def mergedConfig (c : Constants) (m : MergeRules) (clusterName : String)
    (role own : Option BrokersConfigSpec) : BrokersConfigSpec :=
  ((mergePtr (BrokersConfigSpec.merge m) role own).getD .zero).withDefaults c clusterName

/-- The embedded part of what is merged for a group, before the defaults are filled in. -/
def mergedPart (m : MergeRules) (role own : Option BrokersConfigSpec) : Option RoleGroupConfigSpec :=
  (mergePtr (BrokersConfigSpec.merge m) role own).bind (·.roleGroupConfigSpec)

theorem mergedConfig_roleGroupConfig (c : Constants) (m : MergeRules) (clusterName : String)
    (role own : Option BrokersConfigSpec) :
    (mergedConfig c m clusterName role own).roleGroupConfigSpec =
      some (roleGroupConfigWithDefaults c clusterName (mergedPart m role own)) := by
  unfold mergedConfig mergedPart
  cases mergePtr (BrokersConfigSpec.merge m) role own <;> rfl

/-- A field of the embedded part that needs the part to be there. -/
theorem mergedPart_bind {α : Type} {l : α → α → α} {g : RoleGroupConfigSpec → Option α}
    {m : MergeRules} (hzero : g .zero = none) (h : MergesAs (RoleGroupConfigSpec.merge m) l g)
    (role own : Option BrokersConfigSpec) : (mergedPart m role own).bind g =
      mergePtr l ((role.bind (·.roleGroupConfigSpec)).bind g)
        ((own.bind (·.roleGroupConfigSpec)).bind g) := by
  cases role with
  | none => rfl
  | some R =>
      cases own with
      | none => exact (mergePtr_none_right _ _).symm
      | some G => exact m.mergePart_bind _ _ hzero h

namespace BrokersSpec

variable (spec : BrokersSpec) (c : Constants) (m : MergeRules) (clusterName : String)

/-! ### Configurations -/

/-- The role's configuration, with the defaults filled in or as the user wrote it. -/
def roleConfig (filled : Bool) : Option BrokersConfigSpec :=
  if filled then spec.config.map (·.withDefaults c clusterName) else spec.config

/-- The configuration a role group is built from. -/
def effectiveConfig (filled : Bool) (name : String) : BrokersConfigSpec :=
  mergedConfig c m clusterName (spec.roleConfig c clusterName filled) (spec.ownConfig name)

/-- Visiting the group fills the defaults into the role's own object. -/
def fillsRole (op : OperatorGo) (name : String) : Bool :=
  op.sharesConfig name && (spec.ownConfig name).isNone

theorem roleConfig_isNone (filled : Bool) :
    spec.roleConfig c clusterName filled = none ↔ spec.config = none := by
  cases filled <;> simp [roleConfig]

/-- Filling the role's configuration once or twice is the same. -/
theorem roleConfig_withDefaults (filled : Bool) :
    (spec.roleConfig c clusterName filled).map (·.withDefaults c clusterName) =
      spec.roleConfig c clusterName true := by
  cases filled with
  | false => rfl
  | true =>
      cases hc : spec.config <;> simp [roleConfig, hc, BrokersConfigSpec.withDefaults_idem]

/-- A group without a configuration of its own gets the role's, whatever came before. -/
theorem effectiveConfig_of_ownConfig_none {name : String} (h : spec.ownConfig name = none)
    (filled : Bool) : effectiveConfig spec c m clusterName filled name =
      ((spec.roleConfig c clusterName true).getD (BrokersConfigSpec.zero.withDefaults c clusterName)) := by
  rw [← spec.roleConfig_withDefaults c clusterName filled, effectiveConfig, mergedConfig, h,
    mergePtr_none_right]
  cases spec.roleConfig c clusterName filled <;> rfl

end BrokersSpec

/-! ### What one iteration leaves of the objects -/

section MergedInto

variable {α : Type} {merge : α → α → Outcome α} {zero : α} {share : Bool} {name : String}
  {Post : α → α → Prop} {s s' : Store Path α} {ref : Ref Path}

/-- An object of the input is shared only by its owner, and the role's only by groups without
an object of their own. -/
theorem MergePlace.owner (h : MergePlace share .role (.group name) s ref) :
    (ref = .given .role → s.given (.group name) = none) ∧
      ∀ g, ref = .given (.group g) → g = name := by
  cases h with
  | role a hshare hrole hgroup => exact ⟨fun _ => hgroup, by simp⟩
  | group b hshare hrole hgroup => exact ⟨by simp, by simp⟩
  | fresh n hnew hshare => exact ⟨by simp, by simp⟩

/-- A place of the input keeps its object unless that is the merged one. -/
theorem MergedInto.given_of_ne
    (h : MergedInto merge zero share .role (.group name) Post s ref s') {p : Path}
    (hne : ref ≠ .given p) : s'.given p = s.given p := by
  cases hp : s.given p with
  | none => exact h.absent p hp
  | some w => exact h.keeps (.given p) w hne.symm hp

/-- The role's object is written to exactly if it is shared with the group. -/
theorem MergedInto.role_cases
    (h : MergedInto merge zero share .role (.group name) Post s ref s') :
    (ref = .given .role ∧ share = true ∧ s.given (.group name) = none ∧ s.given .role ≠ none) ∨
      (s'.given .role = s.given .role ∧
        (share = true → s.given (.group name) = none → s.given .role = none)) := by
  cases h.place with
  | role a hshare hrole hgroup => exact .inl ⟨rfl, hshare, hgroup, by simp [hrole]⟩
  | group b hshare hrole hgroup => exact .inr ⟨h.given_of_ne (by simp), fun _ _ => hrole⟩
  | fresh n hnew hshare =>
      refine .inr ⟨h.given_of_ne (by simp), fun hs hg => ?_⟩
      simpa [hg] using hshare hs

/-- An older object keeps its value unless it is the role's or the group's, and shared. -/
theorem MergedInto.read_cases
    (h : MergedInto merge zero share .role (.group name) Post s ref s') {old : Ref Path} {w : α}
    (hold : s.read old = some w) :
    s'.read old = some w ∨ (ref = old ∧ (old = .given .role ∨ old = .given (.group name))) := by
  by_cases hne : old = ref
  · subst hne
    right
    cases h.place with
    | role a hshare hrole hgroup => exact ⟨rfl, .inl rfl⟩
    | group b hshare hrole hgroup => exact ⟨rfl, .inr rfl⟩
    | fresh n hnew hshare =>
        rw [hnew] at hold
        cases hold
  · exact .inl (h.keeps old w hne hold)

/-- The groups that are still to be visited keep what the user gave them. -/
theorem MergedInto.group_step
    (h : MergedInto merge zero share .role (.group name) Post s ref s') {own : String → Option α}
    {done : List (String × Option BrokersRoleGroupSpec)} {entry : Option BrokersRoleGroupSpec}
    (hown : ∀ g, g ∉ done.map Prod.fst → s.given (.group g) = own g) :
    ∀ g, g ∉ (done ++ [(name, entry)]).map Prod.fst → s'.given (.group g) = own g := by
  intro g hg
  simp only [List.map_append, List.map_cons, List.map_nil, List.mem_append, List.mem_singleton,
    not_or] at hg
  rw [h.given_of_ne (fun he => hg.2 (h.place.owner.2 g he)), hown g hg.1]

end MergedInto

/-! ### The configurations of a run -/

/-- The merged value under the library's assumptions. -/
theorem MergeValue.eq_mergePtr {op : OperatorGo} {a b : Option BrokersConfigSpec}
    {v : BrokersConfigSpec} (h : MergeValue op.mergeConfig .zero a b v) :
    v = (mergePtr (BrokersConfigSpec.merge op.rules) a b).getD .zero := by
  cases h with
  | zero => rfl
  | left a => rfl
  | right b => rfl
  | both hv => exact op.mergeConfig_value _ _ _ hv

section Run

variable (op : OperatorGo) (r : BrokerReconciler) (spec : BrokersSpec)

/-- The builders of a group point to a configuration with the given value; a group shares an
object of the input only if it is its own or, without one of its own, the role's. -/
structure BuiltFromConfig (s : Store Path BrokersConfigSpec) (name : String)
    (v : BrokersConfigSpec) (b : RoleGroupResources) : Prop where
  registered : ∃ replicas overrides config, b = r.roleGroupResources op replicas
    (r.roleGroupInfo name) overrides config v.bootstrapListenerClass
  config : ∃ config, b.configMap.brokerConfig = some config ∧
    b.statefulSet.brokerConfig = some config ∧ s.read config = some v ∧
    (config = .given .role → spec.ownConfig name = none) ∧
    ∀ g, config = .given (.group g) → g = name

/-- After the groups of `done` have been visited. -/
structure ConfigsInv (done : List (String × Option BrokersRoleGroupSpec))
    (bs : List RoleGroupResources) (s : Store Path BrokersConfigSpec) : Prop where
  role : s.given .role =
    spec.roleConfig op.consts r.clusterName (done.any (fun e => spec.fillsRole op e.1))
  group : ∀ name, name ∉ done.map Prod.fst → s.given (.group name) = spec.ownConfig name
  built : Visited (fun before e b => BuiltFromConfig op r spec s e.1 (spec.effectiveConfig op.consts
    op.rules r.clusterName (before.any (fun e => spec.fillsRole op e.1)) e.1) b) done bs

variable {op r spec}

theorem BuiltFromConfig.roleGroupName {s : Store Path BrokersConfigSpec} {name : String}
    {v : BrokersConfigSpec} {b : RoleGroupResources} (hb : BuiltFromConfig op r spec s name v b) :
    b.configMap.info.roleGroupName = name := by
  obtain ⟨_, _, _, rfl⟩ := hb.registered
  rfl

/-- The builders of a group that was visited before another one keep their configuration. -/
theorem BuiltFromConfig.step {h h' : Heap} {name name' : String} {v w : BrokersConfigSpec}
    {b : RoleGroupResources} {ref : Ref Path} {share : Bool}
    (hb : BuiltFromConfig op r spec h.configs name' v b) (hne : name ≠ name')
    (hc : MergedInto op.mergeConfig .zero share .role (.group name)
      (fun u v => v = u.withDefaults op.consts r.clusterName) h.configs ref h'.configs)
    (hw : h'.configs.read ref = some w) (hshared : ref = .given .role →
      spec.ownConfig name' = none → w = v) : BuiltFromConfig op r spec h'.configs name' v b := by
  obtain ⟨config, hcm, hsts, hread, hrole, hgroup⟩ := hb.config
  refine ⟨hb.registered, config, hcm, hsts, ?_, hrole, hgroup⟩
  rcases hc.read_cases hread with h | ⟨rfl, h | h⟩
  · exact h
  · rw [hw, hshared h (hrole h)]
  · exact absurd (hgroup name h) hne

/-- The role's configuration after one more group: it has the defaults from the first group on
that shares it. -/
theorem roleConfig_step {h h' : Heap} {name : String} {ref : Ref Path} {filled : Bool}
    (hc : MergedInto op.mergeConfig .zero (op.sharesConfig name) .role (.group name)
      (fun u v => v = u.withDefaults op.consts r.clusterName) h.configs ref h'.configs)
    (hrole : h.configs.given .role = spec.roleConfig op.consts r.clusterName filled)
    (hown : h.configs.given (.group name) = spec.ownConfig name)
    (hv : h'.configs.read ref = some (spec.effectiveConfig op.consts op.rules r.clusterName filled name)) :
    h'.configs.given .role =
      spec.roleConfig op.consts r.clusterName (filled || spec.fillsRole op name) := by
  rcases hc.role_cases with ⟨rfl, hshare, hnone, hsome⟩ | ⟨hsame, hnone⟩
  · -- the role's object is the merged one, and has the defaults now
    have hfills : spec.fillsRole op name = true := by
      simp [BrokersSpec.fillsRole, hshare, ← hown, hnone]
    rw [hfills, Bool.or_true]
    rw [hrole, Ne, spec.roleConfig_isNone, ← spec.roleConfig_isNone op.consts r.clusterName true]
      at hsome
    obtain ⟨w, hw⟩ := Option.ne_none_iff_exists'.mp hsome
    rw [spec.effectiveConfig_of_ownConfig_none _ _ _ (hown.symm.trans hnone), hw] at hv
    exact hv.trans hw.symm
  · rw [hsame, hrole]
    cases hfills : spec.fillsRole op name with
    | false => rw [Bool.or_false]
    | true =>
        simp only [BrokersSpec.fillsRole, Bool.and_eq_true, Option.isNone_iff_eq_none] at hfills
        have hnil := hnone hfills.1 (hown.trans hfills.2)
        rw [hrole, spec.roleConfig_isNone] at hnil
        simp [BrokersSpec.roleConfig, hnil]

/-- The iteration for one more group. -/
theorem ConfigsInv.step {done : List (String × Option BrokersRoleGroupSpec)}
    {bs : List RoleGroupResources} {h h' : Heap} {name : String}
    {entry : Option BrokersRoleGroupSpec} {rg : BrokersRoleGroupSpec} {b : RoleGroupResources}
    (hinv : ConfigsInv op r spec done bs h.configs) (hname : name ∉ done.map Prod.fst)
    (hstep : r.RegisterStep op name rg h b h') :
    ConfigsInv op r spec (done ++ [(name, entry)]) (bs ++ [b]) h'.configs := by
  obtain ⟨config, overrides, hc, -, v, hv, rfl⟩ := hstep.step
  set F := done.any (fun e => spec.fillsRole op e.1) with hF
  have hown := hinv.group name hname
  have howner := hc.place.owner
  rw [hown] at howner
  -- the value of the merged object
  have hvalue : v = spec.effectiveConfig op.consts op.rules r.clusterName F name := by
    obtain ⟨u, w, hu, rfl, hw⟩ := hc.value
    rw [hinv.role, hown] at hu
    rw [← Option.some.inj (hw.symm.trans hv), hu.eq_mergePtr]
    rfl
  constructor
  case role =>
    simp only [List.any_append, ← hF, List.any_cons, List.any_nil, Bool.or_false]
    exact roleConfig_step hc hinv.role hown (hvalue ▸ hv)
  case group => exact hc.group_step hinv.group
  case built =>
    refine .snoc (hinv.built.imp (fun before e b' he hb' => hb'.step ?_ hc hv ?_)) ?_
    · rintro rfl
      exact hname (List.mem_map_of_mem he)
    · intro hrole hnone
      rw [hvalue, spec.effectiveConfig_of_ownConfig_none _ _ _ (howner.1 hrole),
        spec.effectiveConfig_of_ownConfig_none _ _ _ hnone]
    · rw [← hF, ← hvalue]
      exact ⟨⟨_, _, _, rfl⟩, config, rfl, rfl, hv, howner.1, howner.2⟩

end Run

/-! ### The overrides of a run -/

/-- The value the default files give to a key. -/
def defaultProperty (c : Constants) (file key : String) : Option String :=
  ((defaultFiles c).get file).bind (fun f => f.get key)

namespace BrokersSpec

variable (spec : BrokersSpec) (c : Constants)

def roleProperty (file key : String) : Option String :=
  spec.overridesSpec.bind (fun o => o.property file key)

def ownProperty (name file key : String) : Option String :=
  (spec.ownOverrides name).bind (fun o => o.property file key)

/-- No overrides bind a file to a nil map. -/
structure NoNilFiles : Prop where
  role : ∀ u, spec.overridesSpec = some u → u.NoNilFile
  group : ∀ name u, spec.ownOverrides name = some u → u.NoNilFile

/-- The role's overrides, up to defaults that were filled in. -/
structure RoleOverrides (o : Option OverridesSpec) : Prop where
  property : ∀ file key, (o.bind (fun u => u.property file key)).or (defaultProperty c file key) =
    (spec.roleProperty file key).or (defaultProperty c file key)
  noNilFile : ∀ u, o = some u → u.NoNilFile

/-- The overrides a role group is built from: its own value of a key, else the role's, else the
default. -/
structure GroupOverrides (name : String) (u : OverridesSpec) : Prop where
  property : ∀ file key, u.property file key =
    (spec.ownProperty name file key).or
      ((spec.roleProperty file key).or (defaultProperty c file key))
  noNilFile : u.NoNilFile
  hasFile : ∀ file f, (defaultFiles c).get file = some f → u.HasFile file

end BrokersSpec

theorem MergeValue.property {op : OperatorGo} {a b : Option OverridesSpec} {v : OverridesSpec}
    (h : MergeValue op.mergeOverridesSpec .zero a b v) (ha : ∀ u, a = some u → u.NoNilFile)
    (hb : ∀ u, b = some u → u.NoNilFile) (file key : String) :
    v.property file key =
      (b.bind (fun u => u.property file key)).or (a.bind (fun u => u.property file key)) := by
  cases h with
  | zero => rfl
  | left a => rfl
  | right b => simp
  | both hv => exact op.mergeOverridesSpec_property _ _ _ file key hv (ha _ rfl) (hb _ rfl)

section Run

variable (op : OperatorGo) (spec : BrokersSpec)

/-- The builders of a group point to overrides with the group's values. -/
structure BuiltFromOverrides (s : Store Path OverridesSpec) (name : String)
    (b : RoleGroupResources) : Prop where
  roleGroupName : b.configMap.info.roleGroupName = name
  overrides : ∃ ref, b.configMap.overrides = some ref ∧ b.statefulSet.overrides = some ref ∧
    (∃ u, s.read ref = some u ∧ spec.GroupOverrides op.consts name u) ∧
    (ref = .given .role → spec.ownOverrides name = none) ∧
    ∀ g, ref = .given (.group g) → g = name

/-- After the groups of `done` have been visited. -/
structure OverridesInv (done : List (String × Option BrokersRoleGroupSpec))
    (bs : List RoleGroupResources) (s : Store Path OverridesSpec) : Prop where
  role : spec.RoleOverrides op.consts (s.given .role)
  group : ∀ name, name ∉ done.map Prod.fst → s.given (.group name) = spec.ownOverrides name
  built : Visited (fun _ e b => BuiltFromOverrides op spec s e.1 b) done bs

variable {op spec} {r : BrokerReconciler}

/-- The merged overrides hold the group's values. -/
theorem groupOverrides_of_mergeValue {s : Store Path OverridesSpec} {name : String}
    {u w : OverridesSpec} (hrole : spec.RoleOverrides op.consts (s.given .role))
    (hown : s.given (.group name) = spec.ownOverrides name)
    (hnil : ∀ x, s.given (.group name) = some x → x.NoNilFile)
    (hu : MergeValue op.mergeOverridesSpec .zero (s.given .role) (s.given (.group name)) u)
    (hw : MergedOverrides u (defaultFiles op.consts) w) : spec.GroupOverrides op.consts name w where
  property file key := by
    have hr := hrole.property file key
    rw [hw.property, hu.property hrole.noNilFile hnil, hown, Option.or_assoc]
    exact congrArg _ hr
  noNilFile := hw.noNilFile
  hasFile := hw.hasFile

/-- What a group without overrides of its own leaves in the role's object. -/
theorem BrokersSpec.GroupOverrides.roleOverrides {name : String} {w : OverridesSpec}
    (hw : spec.GroupOverrides op.consts name w) (hnone : spec.ownOverrides name = none) :
    spec.RoleOverrides op.consts (some w) := by
  have hown : spec.ownProperty name = fun _ _ => none := by
    funext file key
    simp [BrokersSpec.ownProperty, hnone]
  refine ⟨fun file key => ?_, fun x hx => ?_⟩
  · rw [Option.bind_some, hw.property, hown, Option.none_or, Option.or_assoc, Option.or_self]
  · obtain rfl := Option.some.inj hx
    exact hw.noNilFile

/-- The builders of a group that was visited before another one keep their overrides. -/
theorem BuiltFromOverrides.step {h h' : Heap} {name name' : String} {w : OverridesSpec}
    {b : RoleGroupResources} {ref : Ref Path} {share : Bool}
    {Post : OverridesSpec → OverridesSpec → Prop}
    (hb : BuiltFromOverrides op spec h.overrides name' b) (hne : name ≠ name')
    (ho : MergedInto op.mergeOverridesSpec .zero share .role (.group name) Post h.overrides ref
      h'.overrides)
    (hw : h'.overrides.read ref = some w) (hvalue : spec.GroupOverrides op.consts name w)
    (hshared : ref = .given .role → spec.ownOverrides name = none) :
    BuiltFromOverrides op spec h'.overrides name' b := by
  obtain ⟨old, hcm, hsts, ⟨x, hx, hgx⟩, hrole, hgroup⟩ := hb.overrides
  refine ⟨hb.roleGroupName, old, hcm, hsts, ?_, hrole, hgroup⟩
  rcases ho.read_cases hx with hkeep | ⟨rfl, hold | hold⟩
  · exact ⟨x, hkeep, hgx⟩
  · -- both groups use the role's object, so both have no value of their own
    refine ⟨w, hw, ⟨fun file key => ?_, hvalue.noNilFile, hvalue.hasFile⟩⟩
    rw [hvalue.property, BrokersSpec.ownProperty, BrokersSpec.ownProperty, hshared hold, hrole hold]
  · exact absurd (hgroup name hold) hne

/-- The iteration for one more group. -/
theorem OverridesInv.step {done : List (String × Option BrokersRoleGroupSpec)}
    {bs : List RoleGroupResources} {h h' : Heap} {name : String}
    {entry : Option BrokersRoleGroupSpec} {rg : BrokersRoleGroupSpec} {b : RoleGroupResources}
    (hnil : spec.NoNilFiles) (hinv : OverridesInv op spec done bs h.overrides)
    (hname : name ∉ done.map Prod.fst) (hstep : r.RegisterStep op name rg h b h') :
    OverridesInv op spec (done ++ [(name, entry)]) (bs ++ [b]) h'.overrides := by
  obtain ⟨config, ref, -, ho, v, -, rfl⟩ := hstep.step
  have hown := hinv.group name hname
  have howner := ho.place.owner
  rw [hown] at howner
  obtain ⟨u, w, hu, hpost, hw⟩ := ho.value
  have hgroup : ∀ x, h.overrides.given (.group name) = some x → x.NoNilFile :=
    fun x hx => hnil.group name x (hown.symm.trans hx)
  have hmerged := hpost (BrokerReconciler.mergeValue_noNilFile hinv.role.noNilFile hgroup hu)
  have hvalue := groupOverrides_of_mergeValue hinv.role hown hgroup hu hmerged
  constructor
  case role =>
    rcases ho.role_cases with ⟨rfl, -, hnone, -⟩ | ⟨hsame, -⟩
    · have hread : h'.overrides.given .role = some w := hw
      rw [hread]
      exact hvalue.roleOverrides (hown.symm.trans hnone)
    · rw [hsame]
      exact hinv.role
  case group => exact ho.group_step hinv.group
  case built =>
    refine .snoc (hinv.built.imp (fun _ e b' he hb' => hb'.step ?_ ho hw hvalue howner.1)) ?_
    · rintro rfl
      exact hname (List.mem_map_of_mem he)
    · exact ⟨rfl, ref, rfl, rfl, ⟨w, hw, hvalue⟩, howner.1, howner.2⟩

/-! ### The whole loop -/

/-- **The run of `RegisterResources`**: it fails only if the library's merge does, panics only on
a nil entry or a file bound to a nil map, and leaves every group's builders with the
configuration and the overrides of that group. -/
theorem registerResources_spec (op : OperatorGo) {X : Prop} (hspec : r.spec = some spec)
    (orders : String → Orders) {l : List (String × Option BrokersRoleGroupSpec)}
    (hl : spec.groups.Ranges l)
    (hentry : (∃ name, spec.groups.get name = some none) → X) (hnil : ¬ spec.NoNilFiles → X) :
    Triple op.MergeFails X (fun h => h = spec.load) (r.registerResources op orders l)
      (fun bs h => ConfigsInv op r spec l bs h.configs ∧
        (spec.NoNilFiles → OverridesInv op spec l bs h.overrides)) := by
  unfold BrokerReconciler.registerResources
  refine Triple.bind (Q := fun _ h => h = spec.load)
    (fun h hh => by rw [hspec]; exact hh) (fun _ => ?_)
  refine (Triple.visit (fun done bs h => ConfigsInv op r spec done bs h.configs ∧
    (spec.NoNilFiles → OverridesInv op spec done bs h.overrides)) ?_).conseq ?_ (fun _ _ => id)
  · rintro done ⟨name, entry⟩ rest bs rfl
    have hname : name ∉ done.map Prod.fst := by
      have := hl.1
      rw [List.map_append, List.nodup_append'] at this
      exact fun hmem => this.2.2 hmem (by simp)
    rintro h ⟨hc, ho⟩
    have hnone : entry = none → X := by
      rintro rfl
      exact hentry ⟨name, (hl.2 name none).mp (by simp)⟩
    have hfile : ∀ u, MergeValue op.mergeOverridesSpec .zero (h.overrides.given .role)
        (h.overrides.given (.group name)) u → ¬ u.NoNilFile → X := by
      intro u hu hfile
      refine hnil (fun hn => hfile ?_)
      exact BrokerReconciler.mergeValue_noNilFile (ho hn).role.noNilFile
        (fun x hx => hn.group name x (((ho hn).group name hname).symm.trans hx)) hu
    refine (r.registerRoleGroup_spec op orders name entry h hnone hfile).conseq (fun _ => id) ?_ h rfl
    rintro b h' ⟨rg, -, hstep⟩
    exact ⟨hc.step hname hstep, fun hn => (ho hn).step hn hname hstep⟩
  · rintro h rfl
    exact ⟨⟨rfl, fun _ _ => rfl, .nil⟩, fun hn => ⟨⟨fun _ _ => rfl, hn.role⟩, fun _ _ => rfl, .nil⟩⟩

/-- With a library whose merge does not fail, a specification without nil entries and nil files
is registered. -/
theorem registerResources_total (op : OperatorGo) (hfail : ¬ op.MergeFails)
    (hspec : r.spec = some spec) (orders : String → Orders) {l : List (String × Option BrokersRoleGroupSpec)}
    (hl : spec.groups.Ranges l) (hentry : ∀ name, spec.groups.get name ≠ some none)
    (hnil : spec.NoNilFiles) :
    ∃ bs h, r.registerResources op orders l spec.load = (.ok bs, h) ∧
      ConfigsInv op r spec l bs h.configs ∧ OverridesInv op spec l bs h.overrides := by
  have htriple := registerResources_spec op (r := r) (X := False) hspec orders hl
    (fun ⟨name, hname⟩ => hentry name hname) (fun h => h hnil)
  obtain ⟨bs, h, hrun, hc, ho⟩ := (htriple.weaken hfail id).total rfl
  exact ⟨bs, h, hrun, hc, ho hnil⟩

end Run

/-! ### A role with one group -/

namespace BrokersSpec

/-- A role with one role group. -/
def single (config : Option BrokersConfigSpec) (overrides : Option OverridesSpec) (name : String)
    (rg : BrokersRoleGroupSpec) : BrokersSpec :=
  ⟨config, some (Map.ofList [(name, some rg)]), overrides⟩

variable {config : Option BrokersConfigSpec} {overrides : Option OverridesSpec} {name : String}
  {rg : BrokersRoleGroupSpec}

theorem single_get (g : String) :
    (single config overrides name rg).groups.get g = if g = name then some (some rg) else none := rfl

theorem single_ranges : (single config overrides name rg).groups.Ranges [(name, some rg)] :=
  Map.ranges_ofList (by simp)

theorem single_entries (g : String) : (single config overrides name rg).groups.get g ≠ some none := by
  rw [single_get]
  split_ifs <;> simp

theorem single_noNilFiles (hrole : ∀ u, overrides = some u → u.NoNilFile)
    (hgroup : ∀ u, rg.overridesSpec = some u → u.NoNilFile) :
    (single config overrides name rg).NoNilFiles := by
  refine ⟨hrole, fun g u hu => hgroup u ?_⟩
  rw [ownOverrides, single_get] at hu
  split_ifs at hu
  · simpa using hu
  · simp at hu

end BrokersSpec

end KafkaOperator
