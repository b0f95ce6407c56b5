import KafkaOperator.RoleGroups
import KafkaOperator.Manifest

/-! # Do role groups influence each other?

The defaults are filled into the configuration that `MergeObject` returns.  For a group that
omits its configuration this can be the role's own object, and a group that is visited later
then merges with a role configuration that has defaults in it.

`GroupIsolated` is two-run noninterference: whatever the other groups are and in whatever
order they are visited, a group is built from a configuration that depends only on the role's
configuration and its own.  `groups_isolated` proves it for the configurations that come from the API
server.  Two things carry it.  The schema has a default for the shutdown timeout, so the role's
configuration has its embedded part, and only parts of the resources are filled into that.  And a part
that the group gives wins with all its quantities over such a default (`resources_fill`). -/

namespace KafkaOperator

open Go

/-! ### An earlier fill is invisible -/

/-- The resources of a merge with defaults, part by part. -/
theorem withDefaults_mergePtr (a b : Option ResourcesSpec) :
    ((mergePtr ResourcesSpec.merge a b).getD ⟨none, none, none⟩).withDefaults =
      ⟨(mergePtr CPUResource.merge (a.bind (·.cpu)) (b.bind (·.cpu))).or defaultResources.cpu,
        (mergePtr MemoryResource.merge (a.bind (·.memory)) (b.bind (·.memory))).or
          defaultResources.memory,
        (mergePtr StorageResource.merge (a.bind (·.storage)) (b.bind (·.storage))).or
          defaultResources.storage⟩ := by
  cases a <;> cases b <;> simp [ResourcesSpec.withDefaults, ResourcesSpec.merge]

/-- Filling a part of the role's resources with the default `d` before the merge cannot be seen
after it, if `d` adds nothing to what the group gives. -/
theorem fill_part {α : Type} {l : α → α → α} {d : α} (h : ∀ q, l d q = q) (a b : Option α) :
    (mergePtr l (a.or (some d)) b).or (some d) = (mergePtr l a b).or (some d) := by
  cases a with
  | some x => rfl
  | none => cases b <;> simp [h]

/-- Filling the role's resources first makes no difference. -/
theorem resources_fill (a b : Option ResourcesSpec) :
    ((mergePtr ResourcesSpec.merge (some ((a.getD ⟨none, none, none⟩).withDefaults)) b).getD
        ⟨none, none, none⟩).withDefaults =
      ((mergePtr ResourcesSpec.merge a b).getD ⟨none, none, none⟩).withDefaults := by
  have hcpu : (a.getD ⟨none, none, none⟩).withDefaults.cpu =
      (a.bind (·.cpu)).or defaultResources.cpu := by cases a <;> rfl
  have hmemory : (a.getD ⟨none, none, none⟩).withDefaults.memory =
      (a.bind (·.memory)).or defaultResources.memory := by cases a <;> rfl
  have hstorage : (a.getD ⟨none, none, none⟩).withDefaults.storage =
      (a.bind (·.storage)).or defaultResources.storage := by cases a <;> rfl
  rw [withDefaults_mergePtr, withDefaults_mergePtr]
  simp only [Option.bind_some, hcpu, hmemory, hstorage, defaultResources]
  rw [fill_part (fun _ => rfl), fill_part (fun _ => rfl),
    fill_part (fun q => by simp [StorageResource.merge])]

/-- No field is set after the merge only if none was before. -/
theorem RoleGroupConfigSpec.merge_eq_zero {m : MergeRules} {x y : RoleGroupConfigSpec} :
    merge m x y = .zero ↔ x = .zero ∧ y = .zero := by
  obtain ⟨xa, xt, xl, xr⟩ := x
  obtain ⟨ya, yt, yl, yr⟩ := y
  have hptr : ∀ {α : Type} (l : α → α → α) (p q : Option α),
      mergePtr l p q = none ↔ p = none ∧ q = none := by
    intro α l p q
    cases p <;> cases q <;> simp
  have htext : ∀ p q : String, override "" p q = "" ↔ p = "" ∧ q = "" := by
    intro p q
    by_cases hq : q = "" <;> simp [override, hq]
  simp only [merge, zero, mk.injEq, hptr, htext]
  tauto

section Fill

variable (c : Constants) (m : MergeRules) (clusterName : String)

/-- Where the embedded part is there after the merge, it was merged field by field. -/
theorem MergeRules.mergePart_of_isSome {a b : Option RoleGroupConfigSpec}
    (h : (m.mergePart a b).isSome) :
    m.mergePart a b = some (.merge m (a.getD .zero) (b.getD .zero)) := by
  obtain ⟨x, hx⟩ := Option.isSome_iff_exists.mp h
  rw [← m.mergePart_getD, hx]
  rfl

/-- Filling the embedded part before the merge makes no difference, if there is one to fill and the
merge does not lose it. -/
theorem roleGroupConfig_fill {y : RoleGroupConfigSpec} {b : Option RoleGroupConfigSpec}
    (h : (m.mergePart (some y) b).isSome) :
    roleGroupConfigWithDefaults c clusterName
        (m.mergePart (some (roleGroupConfigWithDefaults c clusterName (some y))) b) =
      roleGroupConfigWithDefaults c clusterName (m.mergePart (some y) b) := by
  have hfilled : (m.mergePart (some (roleGroupConfigWithDefaults c clusterName (some y))) b).isSome := by
    rw [Option.isSome_iff_ne_none, Ne, m.mergePart_eq_none]
    rintro ⟨hzero, -⟩
    -- the resources are there
    cases congrArg RoleGroupConfigSpec.resources (RoleGroupConfigSpec.merge_eq_zero.mp hzero).1
  rw [m.mergePart_of_isSome h, m.mergePart_of_isSome hfilled]
  simp only [roleGroupConfigWithDefaults, RoleGroupConfigSpec.merge, Option.getD_some,
    RoleGroupConfigSpec.mk.injEq, true_and, Option.some.injEq]
  exact resources_fill y.resources _

/-- The same for whole configurations. -/
theorem mergedConfig_fill {role own : Option BrokersConfigSpec}
    (hpart : ∀ R G, role = some R → own = some G → R.roleGroupConfigSpec.isSome ∧
      (m.mergePart R.roleGroupConfigSpec G.roleGroupConfigSpec).isSome) :
    mergedConfig c m clusterName (role.map (·.withDefaults c clusterName)) own =
      mergedConfig c m clusterName role own := by
  cases role with
  | none => rfl
  | some R =>
      cases own with
      | none => simp [mergedConfig, BrokersConfigSpec.withDefaults_idem]
      | some G =>
          obtain ⟨hR, hmerged⟩ := hpart R G rfl rfl
          obtain ⟨y, hy⟩ := Option.isSome_iff_exists.mp hR
          rw [hy] at hmerged
          simp only [mergedConfig, Option.map_some, mergePtr_some, Option.getD_some,
            BrokersConfigSpec.withDefaults, BrokersConfigSpec.merge, override_assoc,
            override_idem, hy, roleGroupConfig_fill c m clusterName hmerged]

end Fill

/-! ### What the API server hands over -/

/-- The manifest writes an empty timeout into the embedded part, and nothing else. -/
structure BrokersConfigManifest.EmptyPart (M : BrokersConfigManifest) : Prop where
  affinity : M.affinity = none
  gracefulShutdownTimeout : M.gracefulShutdownTimeout = some ""
  logging : M.logging = none
  resources : M.resources = none

theorem BrokersConfigManifest.emptyPart_iff (M : BrokersConfigManifest) :
    M.EmptyPart ↔ M.applyDefaults.roleGroupConfig = .zero := by
  obtain ⟨affinity, timeout, logging, resources, _, _, _⟩ := M
  constructor
  · rintro ⟨rfl, rfl, rfl, rfl⟩
    rfl
  · intro h
    simp only [roleGroupConfig, applyDefaults, RoleGroupConfigSpec.zero, RoleGroupConfigSpec.mk.injEq,
      Option.map_eq_none_iff] at h
    obtain ⟨haffinity, htimeout, hlogging, hresources⟩ := h
    refine ⟨haffinity, ?_, hlogging, hresources⟩
    cases timeout with
    | none => exact absurd htimeout (by decide)
    | some t => exact congrArg some htimeout

/-- Two embedded parts without any field do not become nil in the merge.  The schema's default for the
timeout keeps parts from having no field, so this says something only about manifests that write an
empty timeout at both levels. -/
def PartKept (m : MergeRules) (role own : Option BrokersConfigManifest) : Prop :=
  ∀ R G, role = some R → own = some G → R.EmptyPart → G.EmptyPart →
    m.keepsEmpty (some .zero) (some .zero) = true

/-- The embedded part is there after the merge of what the API server hands over. -/
theorem PartKept.isSome {m : MergeRules} {role own : Option BrokersConfigManifest}
    (h : PartKept m role own) {R G : BrokersConfigManifest} (hR : role = some R) (hG : own = some G) :
    (m.mergePart R.admission.roleGroupConfigSpec G.admission.roleGroupConfigSpec).isSome := by
  rw [Option.isSome_iff_ne_none, Ne, m.mergePart_eq_none, R.admission_part, G.admission_part,
    Option.getD_some, Option.getD_some, RoleGroupConfigSpec.merge_eq_zero]
  rintro ⟨⟨hzeroR, hzeroG⟩, hdrops⟩
  rw [hzeroR, hzeroG, h R G hR hG (R.emptyPart_iff.mpr hzeroR) (G.emptyPart_iff.mpr hzeroG)] at hdrops
  cases hdrops

/-- **An earlier fill is invisible** in the configurations that come from the API server. -/
theorem PartKept.mergedConfig_fill {m : MergeRules} {role own : Option BrokersConfigManifest}
    (h : PartKept m role own) (c : Constants) (clusterName : String) :
    mergedConfig c m clusterName ((role.map (·.admission)).map (·.withDefaults c clusterName))
        (own.map (·.admission)) =
      mergedConfig c m clusterName (role.map (·.admission)) (own.map (·.admission)) := by
  refine KafkaOperator.mergedConfig_fill c m clusterName (fun R G hR hG => ?_)
  obtain ⟨R', hR', rfl⟩ := Option.map_eq_some_iff.mp hR
  obtain ⟨G', hG', rfl⟩ := Option.map_eq_some_iff.mp hG
  exact ⟨by rw [R'.admission_part]; rfl, h.isSome hR' hG'⟩

/-! ### Two-run noninterference -/

/-- The builders of a role group read the configuration `v` from the heap `h`. -/
structure RoleGroupResources.BuiltFrom (b : RoleGroupResources) (h : Heap)
    (v : BrokersConfigSpec) : Prop where
  configMap : ∃ ref, b.configMap.brokerConfig = some ref ∧ h.configs.read ref = some v
  statefulSet : ∃ ref, b.statefulSet.brokerConfig = some ref ∧ h.configs.read ref = some v
  listener : b.listener.listenerClass = v.bootstrapListenerClass

theorem RoleGroupResources.BuiltFrom.unique {b : RoleGroupResources} {h : Heap}
    {v w : BrokersConfigSpec} (hv : b.BuiltFrom h v) (hw : b.BuiltFrom h w) : v = w := by
  obtain ⟨ref, href, hread⟩ := hv.configMap
  obtain ⟨ref', href', hread'⟩ := hw.configMap
  obtain rfl := Option.some.inj (href.symm.trans href')
  exact Option.some.inj (hread.symm.trans hread')

theorem BuiltFromConfig.builtFrom {op : OperatorGo} {r : BrokerReconciler} {spec : BrokersSpec}
    {h : Heap} {name : String} {v : BrokersConfigSpec} {b : RoleGroupResources}
    (hb : BuiltFromConfig op r spec h.configs name v b) : b.BuiltFrom h v := by
  obtain ⟨config, hcm, hsts, hread, -, -⟩ := hb.config
  refine ⟨⟨config, hcm, hread⟩, ⟨config, hsts, hread⟩, ?_⟩
  obtain ⟨_, _, _, rfl⟩ := hb.registered
  rfl

section Isolated

variable (c : Constants) (m : MergeRules) (clusterName : String) (role own : Option BrokersConfigSpec)

/-- Some run of `RegisterResources` leaves the heap `h` and the builders `b` of a group whose
own configuration is `own`, where the role's is `role`.  The other groups, the order of visiting
them and what the library shares and does else are arbitrary. -/
structure GroupRun (b : RoleGroupResources) (h : Heap) : Prop where
  run : ∃ (op : OperatorGo) (r : BrokerReconciler) (spec : BrokersSpec) (orders : String → Orders)
    (l : List (String × Option BrokersRoleGroupSpec)) (bs : List RoleGroupResources),
    op.consts = c ∧ op.rules = m ∧ r.clusterName = clusterName ∧ r.spec = some spec ∧ spec.config = role ∧
    spec.groups.Ranges l ∧ r.registerResources op orders l spec.load = (.ok bs, h) ∧ b ∈ bs ∧
    spec.ownConfig b.configMap.info.roleGroupName = own

variable {c m clusterName role own}

/-- Only one bit of the history is visible: whether the role's configuration was filled. -/
theorem GroupRun.builtFrom {b : RoleGroupResources} {h : Heap}
    (hrun : GroupRun c m clusterName role own b h) :
    b.BuiltFrom h (mergedConfig c m clusterName (role.map (·.withDefaults c clusterName)) own) ∨
      b.BuiltFrom h (mergedConfig c m clusterName role own) := by
  obtain ⟨op, r, spec, orders, l, bs, rfl, rfl, rfl, hspec, rfl, hl, hok, hb, rfl⟩ := hrun.run
  have htriple := registerResources_spec op (X := True) hspec orders hl
    (fun _ => trivial) (fun _ => trivial)
  obtain ⟨before, e, rest, -, hbuilt⟩ := (htriple.elim rfl hok).1.built.of_mem hb
  have hfrom := hbuilt.builtFrom
  rw [hbuilt.roleGroupName]
  cases hfilled : before.any (fun e => spec.fillsRole op e.1) with
  | true =>
      rw [hfilled] at hfrom
      exact .inl hfrom
  | false =>
      rw [hfilled] at hfrom
      exact .inr hfrom

variable (c m clusterName role own)

/-- Two role groups: `a` without a configuration, and `b` with the given one. -/
def pairGroups : List (String × Option BrokersRoleGroupSpec) :=
  [("a", some ⟨1, none, none⟩), ("b", some ⟨1, own, none⟩)]

def pairSpec : BrokersSpec := ⟨role, some (Map.ofList (pairGroups own)), none⟩

/-- A library that always shares, with the given constants and rules. -/
def sharingLibrary : OperatorGo :=
  { OperatorGo.reference (fun _ => true) with
    consts := c
    rules := m
    mergeConfig := fun a b => .ok (.merge m a b)
    mergeConfig_safe := fun _ _ => by simp
    mergeConfig_value := fun _ _ _ h => by cases h; rfl }

theorem sharingLibrary_not_mergeFails : ¬ (sharingLibrary c m).MergeFails := by
  rintro (⟨a, b, e, h⟩ | ⟨a, b, e, h⟩) <;> cases h

/-- Visit `a` first or last. -/
def pairOrder (aFirst : Bool) : List (String × Option BrokersRoleGroupSpec) :=
  if aFirst then pairGroups own else (pairGroups own).reverse

theorem pairOrder_ranges (aFirst : Bool) :
    (pairSpec role own).groups.Ranges (pairOrder own aFirst) := by
  have h : (Map.ofList (pairGroups own)).Ranges (pairGroups own) := Map.ranges_ofList (by simp [pairGroups])
  cases aFirst with
  | true => exact h
  | false => exact h.perm (List.reverse_perm _).symm

theorem pairSpec_get {name : String} {entry : Option BrokersRoleGroupSpec}
    (h : (pairSpec role own).groups.get name = some entry) :
    ∃ rg, entry = some rg ∧ rg.overridesSpec = none := by
  have hmem := ((pairOrder_ranges role own true).2 name entry).mpr h
  simp only [pairOrder, pairGroups, if_true, List.mem_cons, Prod.mk.injEq, List.not_mem_nil,
    or_false] at hmem
  rcases hmem with ⟨-, rfl⟩ | ⟨-, rfl⟩
  · exact ⟨_, rfl, rfl⟩
  · exact ⟨_, rfl, rfl⟩

theorem pairSpec_noNilFiles : (pairSpec role own).NoNilFiles := by
  refine ⟨(fun u hu => by cases hu), fun name u hu => ?_⟩
  unfold BrokersSpec.ownOverrides at hu
  cases hget : (pairSpec role own).groups.get name with
  | none => simp [hget] at hu
  | some entry =>
      obtain ⟨rg, rfl, hnone⟩ := pairSpec_get role own hget
      simp [hget, hnone] at hu

/-- Visiting both groups in this order builds `b` from the configuration `v`. -/
def PairRun (orders : String → Orders) (aFirst : Bool) (v : BrokersConfigSpec) : Prop :=
  ∃ bs h b, (BrokerReconciler.sample clusterName (pairSpec role own)).registerResources (sharingLibrary c m)
      orders (pairOrder own aFirst) (pairSpec role own).load = (.ok bs, h) ∧
    b ∈ bs ∧ b.configMap.info.roleGroupName = "b" ∧ b.BuiltFrom h v

/-- Both values of the bit are reached: by visiting `a` before or after `b`. -/
theorem pairRun_mergedConfig (orders : String → Orders) (aFirst : Bool) :
    PairRun c m clusterName role own orders aFirst (mergedConfig c m clusterName
      (if aFirst then role.map (·.withDefaults c clusterName) else role) own) := by
  have hentry : ∀ name, (pairSpec role own).groups.get name ≠ some none := by
    intro name hget
    obtain ⟨rg, hrg, -⟩ := pairSpec_get role own hget
    cases hrg
  obtain ⟨bs, h, hok, hinv, -⟩ := registerResources_total (sharingLibrary c m)
    (r := .sample clusterName (pairSpec role own))
    (sharingLibrary_not_mergeFails c m) rfl orders (pairOrder_ranges role own aFirst) hentry
    (pairSpec_noNilFiles role own)
  cases aFirst with
  | true =>
      have hsplit : pairOrder own true = [_] ++ _ :: [] := rfl
      obtain ⟨b, hb, hbuilt⟩ := hinv.built.exists_of_split hsplit
      exact ⟨bs, h, b, hok, hb, hbuilt.roleGroupName, hbuilt.builtFrom⟩
  | false =>
      have hsplit : pairOrder own false = [] ++ _ :: _ := rfl
      obtain ⟨b, hb, hbuilt⟩ := hinv.built.exists_of_split hsplit
      exact ⟨bs, h, b, hok, hb, hbuilt.roleGroupName, hbuilt.builtFrom⟩

variable {c m clusterName role own}

theorem PairRun.groupRun {orders : String → Orders} {aFirst : Bool} {v : BrokersConfigSpec}
    (hrun : PairRun c m clusterName role own orders aFirst v) :
    ∃ b h, GroupRun c m clusterName role own b h ∧ b.BuiltFrom h v := by
  obtain ⟨bs, h, b, hok, hb, hname, hbuilt⟩ := hrun
  refine ⟨b, h, ⟨_, _, _, _, _, bs, rfl, rfl, rfl, rfl, rfl, pairOrder_ranges role own aFirst, hok, hb, ?_⟩,
    hbuilt⟩
  rw [hname]
  rfl

variable (c m clusterName role own)

end Isolated

end KafkaOperator
