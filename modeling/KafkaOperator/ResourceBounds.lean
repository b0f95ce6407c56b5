import KafkaOperator.DefaultFilling
import KafkaOperator.Isolation
import KafkaOperator.Manifest

/-! # Are the merged resources satisfiable?

The schema lets every quantity be set alone, but the defaults are filled in part by part: a CPU part
without a maximum stays without one, and a memory part without a limit too.  What counts is the last
level that gives the part, since a part that the group gives wins with all its quantities.  The storage
capacity has a default in the schema and is always there.

`resources_satisfiable_iff` says for which manifests the resources that a role group is built from are
satisfiable, whatever the other groups are and in whatever order they are visited. -/

namespace KafkaOperator

open Go

/-! ### What the manifests say -/

/-- The quantity is positive if it is set. -/
def PositiveIfSet (q : Option Quantity) : Prop := ∀ x, q = some x → 0 < x

structure CPUManifest.Positive (x : CPUManifest) : Prop where
  max : PositiveIfSet x.max
  min : PositiveIfSet x.min

/-- All quantities that are set are positive. -/
structure BrokersConfigManifest.Positive (m : BrokersConfigManifest) : Prop where
  cpu : ∀ x, m.cpu = some x → x.Positive
  memory : ∀ x, m.memory = some x → PositiveIfSet x.limit
  storage : ∀ x, m.storage = some x → PositiveIfSet x.capacity

/-- The field-wise merge of two CPU parts, as the manifests have them. -/
def CPUManifest.merge (a b : CPUManifest) : CPUManifest := ⟨b.max.or a.max, b.min.or a.min⟩

section Manifests

variable (role own : Option BrokersConfigManifest)

/-- The CPU part of the role merged field by field with that of the group. -/
def mergedCpu : Option CPUManifest :=
  mergePtr CPUManifest.merge (role.bind (·.cpu)) (own.bind (·.cpu))

/-- The manifests make sense: quantities are positive, and the CPU request does not exceed the
maximum where both are set. -/
structure SoundResources : Prop where
  role_positive : ∀ m, role = some m → m.Positive
  own_positive : ∀ m, own = some m → m.Positive
  ordered : ∀ x lo hi, mergedCpu role own = some x → x.min = some lo → x.max = some hi → lo ≤ hi

/-- The CPU part of the last level that gives one. -/
def lastCpu : Option CPUManifest := (own.bind (·.cpu)).or (role.bind (·.cpu))

def lastMemory : Option MemoryManifest := (own.bind (·.memory)).or (role.bind (·.memory))

/-- No quantity is missing that the defaults do not fill in: the last level that gives a CPU part sets
its maximum, and the last one that gives a memory part its limit. -/
structure CompleteResources : Prop where
  cpuMax : ∀ x, lastCpu role own = some x → x.max.isSome
  memoryLimit : ∀ x, lastMemory role own = some x → x.limit.isSome

end Manifests

/-! ### What the resources have to be -/

def CPUResource.Satisfiable (x : CPUResource) : Prop := 0 < x.max ∧ x.min ≤ x.max

/-- The resources of a configuration can be satisfied. -/
structure BrokersConfigSpec.Satisfiable (v : BrokersConfigSpec) : Prop where
  cpu : ∃ x : CPUResource, v.value .cpu = some x ∧ x.Satisfiable
  memory : ∃ x : MemoryResource, v.value .memory = some x ∧ 0 < x.limit
  storage : ∃ x : StorageResource, v.value .storage = some x ∧ 0 < x.capacity

/-! ### The parts of a merged configuration -/

section Parts

variable {α : Type} (part : ResourcesSpec → Option α)

/-- A part of the resources of a configuration. -/
def BrokersConfigSpec.resource (u : BrokersConfigSpec) : Option α :=
  u.roleGroupConfigSpec.bind (fun r => r.resources.bind part)

/-- A part of the resources that is merged by `merge` and has the default `d`. -/
structure MergedPart (merge : α → α → α) (d : α) : Prop where
  none : part ⟨none, none, none⟩ = none
  default : part defaultResources = some d
  withDefaults : ∀ r, part (ResourcesSpec.withDefaults r) = (part r).or (part defaultResources)
  merge : ∀ a b, part (ResourcesSpec.merge a b) = mergePtr merge (part a) (part b)

/-- The defaults, as a manifest would have them. -/
def defaultCpuManifest : CPUManifest := ⟨some 1, some (1 / 4)⟩

def defaultMemoryManifest : MemoryManifest := ⟨some (2 ^ 30)⟩

theorem cpu_mergedPart :
    MergedPart ResourcesSpec.cpu CPUResource.merge defaultCpuManifest.decode :=
  ⟨rfl, rfl, fun _ => rfl, fun _ _ => rfl⟩

theorem memory_mergedPart :
    MergedPart ResourcesSpec.memory MemoryResource.merge defaultMemoryManifest.decode :=
  ⟨rfl, rfl, fun _ => rfl, fun _ _ => rfl⟩

theorem storage_mergedPart :
    MergedPart ResourcesSpec.storage StorageResource.merge ⟨2 * 2 ^ 30, ""⟩ :=
  ⟨rfl, rfl, fun _ => rfl, fun _ _ => rfl⟩

variable {part} {merge : α → α → α} {d : α} (h : MergedPart part merge d)

include h

theorem MergedPart.withDefaults_resource (c : Constants) (clusterName : String) (u : BrokersConfigSpec) :
    (u.withDefaults c clusterName).resource part = (u.resource part).or (some d) := by
  rw [← h.default]
  exact roleGroupConfigWithDefaults_part c clusterName part h.none h.withDefaults _

/-- A part of what a role group is built from. -/
theorem MergedPart.mergedConfig_resource (c : Constants) (m : MergeRules) (clusterName : String)
    (role own : Option BrokersConfigSpec) : (mergedConfig c m clusterName role own).resource part =
      (mergePtr merge (role.bind (·.resource part)) (own.bind (·.resource part))).or (some d) := by
  have hresources : MergesAs (RoleGroupConfigSpec.merge m) merge (fun r => r.resources.bind part) :=
    (show MergesAs ResourcesSpec.merge merge part from h.merge).ptr.comp RoleGroupConfigSpec.resources
      (fun _ _ => rfl)
  have hfilled := roleGroupConfigWithDefaults_part c clusterName part h.none h.withDefaults
    (mergedPart m role own)
  rw [mergedPart_bind rfl hresources, h.default, Option.bind_assoc, Option.bind_assoc] at hfilled
  rw [BrokersConfigSpec.resource, mergedConfig_roleGroupConfig]
  exact hfilled

/-- A fill of the role's configuration before the merge does not change it. -/
theorem MergedPart.mergedConfig_fill_resource (hd : ∀ q, merge d q = q) (c : Constants) (m : MergeRules)
    (clusterName : String) (role own : Option BrokersConfigSpec) :
    (mergedConfig c m clusterName (role.map (·.withDefaults c clusterName)) own).resource part =
      (mergedConfig c m clusterName role own).resource part := by
  rw [h.mergedConfig_resource, h.mergedConfig_resource]
  cases role with
  | none => rfl
  | some R =>
      rw [Option.map_some, Option.bind_some, Option.bind_some, h.withDefaults_resource]
      exact fill_part hd _ _

end Parts

/-! ### Admission -/

/-- A part of the resources that the operator gets. -/
theorem admission_resource {α β : Type} {part : ResourcesSpec → Option α}
    {manifestPart : ResourcesManifest → Option β} {decode : β → α}
    (h : ∀ r, part (ResourcesManifest.decode r.applyDefaults) = (manifestPart r).map decode)
    (o : Option BrokersConfigManifest) : (o.map (·.admission)).bind (·.resource part) =
      (o.bind (fun m => m.resources.bind manifestPart)).map decode := by
  cases o with
  | none => rfl
  | some m =>
      show m.admission.roleGroupConfigSpec.bind _ = (m.resources.bind manifestPart).map decode
      rw [m.admission_part]
      show ((m.resources.map ResourcesManifest.applyDefaults).map ResourcesManifest.decode).bind part = _
      cases m.resources with
      | none => rfl
      | some r => exact h r

theorem admission_cpu (o : Option BrokersConfigManifest) :
    (o.map (·.admission)).bind (·.resource ResourcesSpec.cpu) =
      (o.bind (·.cpu)).map CPUManifest.decode :=
  admission_resource (fun _ => rfl) o

theorem admission_memory (o : Option BrokersConfigManifest) :
    (o.map (·.admission)).bind (·.resource ResourcesSpec.memory) =
      (o.bind (·.memory)).map MemoryManifest.decode :=
  admission_resource (fun _ => rfl) o

theorem admission_storage (o : Option BrokersConfigManifest) :
    (o.map (·.admission)).bind (·.resource ResourcesSpec.storage) =
      (o.bind (·.storage)).map (fun s => s.applyDefaults.decode) :=
  admission_resource (fun _ => Option.map_map ..) o

/-! ### Single parts -/

theorem PositiveIfSet.or {p q : Option Quantity} (hp : PositiveIfSet p) (hq : PositiveIfSet q) :
    PositiveIfSet (p.or q) := by
  intro x hx
  cases p with
  | none => exact hq x hx
  | some y => exact hp x hx

theorem getD_pos_iff {q : Option Quantity} (hq : PositiveIfSet q) : 0 < q.getD 0 ↔ q.isSome := by
  cases q with
  | none => simp
  | some x => simpa using hq x rfl

/-- A CPU part can be satisfied exactly if it has a maximum. -/
theorem CPUManifest.decode_satisfiable {x : CPUManifest} (hx : x.Positive)
    (hordered : ∀ lo hi, x.min = some lo → x.max = some hi → lo ≤ hi) :
    x.decode.Satisfiable ↔ x.max.isSome := by
  constructor
  · exact fun h => (getD_pos_iff hx.max).mp h.1
  · intro hmax
    refine ⟨(getD_pos_iff hx.max).mpr hmax, ?_⟩
    obtain ⟨hi, hhi⟩ := Option.isSome_iff_exists.mp hmax
    show x.min.getD 0 ≤ x.max.getD 0
    rw [hhi, Option.getD_some]
    cases hlo : x.min with
    | none => exact (hx.max hi hhi).le
    | some lo => exact hordered lo hi hlo hhi

theorem defaultCpu_satisfiable : defaultCpuManifest.decode.Satisfiable := by
  constructor <;> norm_num [CPUManifest.decode, defaultCpuManifest]

theorem defaultMemory_positive : 0 < defaultMemoryManifest.decode.limit := by
  norm_num [MemoryManifest.decode, defaultMemoryManifest]

/-- A part that wins as a whole: the last one given, else the default. -/
theorem MergedPart.mergedConfig_last {α β : Type} {part : ResourcesSpec → Option β} {decode : α → β}
    {d : α} {merge : β → β → β} (h : MergedPart part merge (decode d)) (hright : ∀ a b, merge a b = b)
    (c : Constants) (m : MergeRules) (clusterName : String) {u v : Option BrokersConfigSpec}
    {r g : Option α} (hu : u.bind (·.resource part) = r.map decode)
    (hv : v.bind (·.resource part) = g.map decode) :
    (mergedConfig c m clusterName u v).resource part = some (decode ((g.or r).getD d)) := by
  rw [h.mergedConfig_resource, hu, hv]
  cases r <;> cases g <;> simp [hright]

/-! ### The resources of a role group -/

section Group

variable {role own : Option BrokersConfigManifest} (hs : SoundResources role own) (c : Constants)
  (m : MergeRules) (clusterName : String)

/-- What holds of a part of every manifest holds of the part, if there is one. -/
theorem forall_of_bind {α β : Type} {o : Option α} {f : α → Option β} {p : β → Prop}
    (h : ∀ a, o = some a → ∀ b, f a = some b → p b) : ∀ b, o.bind f = some b → p b := by
  intro b hb
  obtain ⟨a, ha, hf⟩ := Option.bind_eq_some_iff.mp hb
  exact h a ha b hf

/-- What holds of a part at both levels holds of the last one given. -/
theorem forall_of_or {α : Type} {g r : Option α} {p : α → Prop} (hg : ∀ x, g = some x → p x)
    (hr : ∀ x, r = some x → p x) : ∀ x, g.or r = some x → p x := by
  intro x hx
  cases g with
  | none => exact hr x hx
  | some y => exact hg x hx

theorem storage_positive {o : Option BrokersConfigManifest} (ho : ∀ m, o = some m → m.Positive) :
    ∀ x, (o.map (·.admission)).bind (·.resource ResourcesSpec.storage) = some x → 0 < x.capacity := by
  intro x hx
  rw [admission_storage] at hx
  obtain ⟨s, hstorage, rfl⟩ := Option.map_eq_some_iff.mp hx
  have hs := forall_of_bind (fun m hm => (ho m hm).storage) s hstorage
  have hdefault : PositiveIfSet (some (10 * 2 ^ 30)) := by
    rintro q ⟨⟩
    norm_num
  refine (getD_pos_iff (hs.or hdefault)).mpr ?_
  cases s.capacity <;> rfl

/-- The storage capacity is always positive, since the schema fills it in where there is storage. -/
theorem mergedConfig_storage {u v : Option BrokersConfigSpec}
    (hu : ∀ x, u.bind (·.resource ResourcesSpec.storage) = some x → 0 < x.capacity)
    (hv : ∀ x, v.bind (·.resource ResourcesSpec.storage) = some x → 0 < x.capacity) :
    ∃ x : StorageResource, (mergedConfig c m clusterName u v).value .storage = some x ∧
      0 < x.capacity := by
  have hmerge : ∀ a b : StorageResource, 0 < a.capacity → 0 < b.capacity → 0 < (a.merge b).capacity :=
    fun a b _ hb => hb
  have hpositive := mergePtr_forall hmerge hu hv
  show ∃ x, (mergedConfig c m clusterName u v).resource ResourcesSpec.storage = some x ∧ _
  rw [storage_mergedPart.mergedConfig_resource]
  cases hx : mergePtr StorageResource.merge (u.bind (·.resource ResourcesSpec.storage))
      (v.bind (·.resource ResourcesSpec.storage)) with
  | none => exact ⟨_, rfl, by norm_num⟩
  | some x => exact ⟨x, rfl, hpositive x hx⟩

/-- Whether the resources can be satisfied does not depend on a fill for another group. -/
theorem mergedConfig_fill_satisfiable (u v : Option BrokersConfigSpec) :
    (mergedConfig c m clusterName (u.map (·.withDefaults c clusterName)) v).Satisfiable ↔
      (mergedConfig c m clusterName u v).Satisfiable := by
  have hcpu := cpu_mergedPart.mergedConfig_fill_resource (fun _ => rfl) c m clusterName u v
  have hmemory := memory_mergedPart.mergedConfig_fill_resource (fun _ => rfl) c m clusterName u v
  have hstorage := storage_mergedPart.mergedConfig_fill_resource
    (fun q => by simp [StorageResource.merge]) c m clusterName u v
  constructor
  · rintro ⟨⟨x, hx, hsat⟩, ⟨y, hy, hlimit⟩, z, hz, hcapacity⟩
    exact ⟨⟨x, hcpu.symm.trans hx, hsat⟩, ⟨y, hmemory.symm.trans hy, hlimit⟩, z, hstorage.symm.trans hz,
      hcapacity⟩
  · rintro ⟨⟨x, hx, hsat⟩, ⟨y, hy, hlimit⟩, z, hz, hcapacity⟩
    exact ⟨⟨x, hcpu.trans hx, hsat⟩, ⟨y, hmemory.trans hy, hlimit⟩, z, hstorage.trans hz, hcapacity⟩

include hs

/-- In the last CPU part, the request does not exceed the maximum. -/
theorem SoundResources.lastCpu_ordered {x : CPUManifest} (hx : lastCpu role own = some x)
    {lo hi : Quantity} (hlo : x.min = some lo) (hhi : x.max = some hi) : lo ≤ hi := by
  cases hg : own.bind (·.cpu) with
  | none =>
      rw [lastCpu, hg, Option.none_or] at hx
      exact hs.ordered x lo hi (by rw [mergedCpu, hx, hg, mergePtr_none_right]) hlo hhi
  | some g =>
      rw [lastCpu, hg, Option.some_or] at hx
      obtain rfl := Option.some.inj hx
      cases hr : role.bind (·.cpu) with
      | none => exact hs.ordered g lo hi (by rw [mergedCpu, hr, hg, mergePtr_none_left]) hlo hhi
      | some r =>
          refine hs.ordered (r.merge g) lo hi (by rw [mergedCpu, hr, hg, mergePtr_some]) ?_ ?_
          · rw [CPUManifest.merge, hlo, Option.some_or]
          · rw [CPUManifest.merge, hhi, Option.some_or]

/-- The CPU part of the group. -/
theorem SoundResources.cpu_satisfiable_iff :
    (((lastCpu role own).getD defaultCpuManifest).decode).Satisfiable ↔
      ∀ x, lastCpu role own = some x → x.max.isSome := by
  have hpositive : ∀ x, lastCpu role own = some x → x.Positive :=
    forall_of_or (forall_of_bind (fun m hm => (hs.own_positive m hm).cpu))
      (forall_of_bind (fun m hm => (hs.role_positive m hm).cpu))
  cases hx : lastCpu role own with
  | none => exact iff_of_true defaultCpu_satisfiable (fun x hx' => nomatch hx')
  | some x =>
      rw [Option.getD_some, CPUManifest.decode_satisfiable (hpositive x hx)
        (fun lo hi => hs.lastCpu_ordered hx)]
      simp

/-- The memory part of the group. -/
theorem SoundResources.memory_positive_iff :
    0 < ((lastMemory role own).getD defaultMemoryManifest).decode.limit ↔
      ∀ x, lastMemory role own = some x → x.limit.isSome := by
  have hpositive : ∀ x, lastMemory role own = some x → PositiveIfSet x.limit :=
    forall_of_or (forall_of_bind (fun m hm => (hs.own_positive m hm).memory))
      (forall_of_bind (fun m hm => (hs.role_positive m hm).memory))
  cases hx : lastMemory role own with
  | none => exact iff_of_true defaultMemory_positive (fun x hx' => nomatch hx')
  | some x =>
      show 0 < x.limit.getD 0 ↔ _
      rw [getD_pos_iff (hpositive x hx)]
      simp

/-- The resources of the group can be satisfied exactly if the manifests are complete. -/
theorem SoundResources.satisfiable_iff :
    (mergedConfig c m clusterName (role.map (·.admission)) (own.map (·.admission))).Satisfiable ↔
      CompleteResources role own := by
  have hcpu : (mergedConfig c m clusterName (role.map (·.admission)) (own.map (·.admission))).value .cpu =
      some ((lastCpu role own).getD defaultCpuManifest).decode :=
    cpu_mergedPart.mergedConfig_last (fun _ _ => rfl) c m clusterName (admission_cpu role)
      (admission_cpu own)
  have hmemory : (mergedConfig c m clusterName (role.map (·.admission))
      (own.map (·.admission))).value .memory =
      some ((lastMemory role own).getD defaultMemoryManifest).decode :=
    memory_mergedPart.mergedConfig_last (fun _ _ => rfl) c m clusterName (admission_memory role)
      (admission_memory own)
  constructor
  · rintro ⟨⟨x, hx, hsat⟩, ⟨y, hy, hlimit⟩, -⟩
    obtain rfl := Option.some.inj (hcpu.symm.trans hx)
    obtain rfl := Option.some.inj (hmemory.symm.trans hy)
    exact ⟨hs.cpu_satisfiable_iff.mp hsat, hs.memory_positive_iff.mp hlimit⟩
  · rintro ⟨hmax, hlimit⟩
    exact ⟨⟨_, hcpu, hs.cpu_satisfiable_iff.mpr hmax⟩, ⟨_, hmemory, hs.memory_positive_iff.mpr hlimit⟩,
      mergedConfig_storage c m clusterName (storage_positive hs.role_positive)
        (storage_positive hs.own_positive)⟩

end Group

/-- Whatever the other groups are and in whatever order they are visited, the group is built from
resources that can be satisfied. -/
def ResourcesSatisfiable (c : Constants) (m : MergeRules) (clusterName : String)
    (role own : Option BrokersConfigManifest) : Prop :=
  ∀ b h, GroupRun c m clusterName (role.map (·.admission)) (own.map (·.admission)) b h →
    ∃ v, b.BuiltFrom h v ∧ v.Satisfiable

/-- **When merged resources stay satisfiable**: exactly if the last level that gives a CPU part sets
its maximum, and the last one that gives a memory part its limit. -/
theorem resources_satisfiable_iff (c : Constants) (m : MergeRules) (clusterName : String)
    {role own : Option BrokersConfigManifest} (hs : SoundResources role own) :
    ResourcesSatisfiable c m clusterName role own ↔ CompleteResources role own := by
  rw [← hs.satisfiable_iff c m clusterName]
  constructor
  · intro hall
    obtain ⟨orders⟩ : Nonempty Orders := inferInstance
    obtain ⟨b, h, hrun, hbuilt⟩ := (pairRun_mergedConfig c m clusterName (role.map (·.admission))
      (own.map (·.admission)) (fun _ => orders) false).groupRun
    obtain ⟨v, hv, hsat⟩ := hall b h hrun
    rwa [hv.unique hbuilt] at hsat
  · intro hsat b h hrun
    rcases hrun.builtFrom with hbuilt | hbuilt
    · exact ⟨_, hbuilt, (mergedConfig_fill_satisfiable c m clusterName _ _).mpr hsat⟩
    · exact ⟨_, hbuilt, hsat⟩

/-! ### Manifests with and without a maximum -/

/-- A configuration that gives only resources. -/
def BrokersConfigManifest.ofResources (r : ResourcesManifest) : BrokersConfigManifest :=
  ⟨none, none, none, some r, none, none, none⟩

/-- A role with a CPU maximum and a memory limit, and a group with a CPU part of its own. -/
def boundedRole : BrokersConfigManifest :=
  .ofResources ⟨some ⟨some 2, none⟩, some ⟨some (4 * 2 ^ 30)⟩, none⟩

def boundedGroup : BrokersConfigManifest := .ofResources ⟨some ⟨some 1, some (1 / 2)⟩, none, none⟩

theorem boundedRole_sound : SoundResources (some boundedRole) (some boundedGroup) where
  role_positive := by
    rintro m ⟨⟩
    refine ⟨?_, ?_, fun x hx => nomatch hx⟩
    · rintro x ⟨⟩
      exact ⟨fun q hq => by cases hq; norm_num, fun q hq => nomatch hq⟩
    · rintro x ⟨⟩ q ⟨⟩
      norm_num
  own_positive := by
    rintro m ⟨⟩
    refine ⟨?_, fun x hx => (nomatch hx), fun x hx => (nomatch hx)⟩
    rintro x ⟨⟩
    exact ⟨fun q hq => by cases hq; norm_num, fun q hq => by cases hq; norm_num⟩
  ordered := by
    rintro x lo hi ⟨⟩ ⟨⟩ ⟨⟩
    norm_num

theorem resources_satisfiable_iff_bounded :
    SoundResources (some boundedRole) (some boundedGroup) ∧
      ResourcesSatisfiable .reference .reference "kafka" (some boundedRole) (some boundedGroup) := by
  refine ⟨boundedRole_sound,
    (resources_satisfiable_iff .reference .reference "kafka" boundedRole_sound).mpr ⟨?_, ?_⟩⟩
  · rintro x ⟨⟩
    rfl
  · rintro x ⟨⟩
    rfl

/-- A group that sets only a CPU request. -/
def requestingGroup : BrokersConfigManifest := .ofResources ⟨some ⟨none, some (1 / 2)⟩, none, none⟩

/-- It is built with a request above a maximum of zero. -/
theorem requestingGroup_unsatisfiable :
    SoundResources none (some requestingGroup) ∧
    ∃ (orders : String → Orders) (v : BrokersConfigSpec),
      PairRun .reference .reference "kafka" none (some requestingGroup.admission) orders false v ∧
      v.value .cpu = some (⟨0, 1 / 2⟩ : CPUResource) := by
  refine ⟨⟨fun m hm => (nomatch hm), ?_, ?_⟩, ?_⟩
  · rintro m ⟨⟩
    refine ⟨?_, fun x hx => (nomatch hx), fun x hx => (nomatch hx)⟩
    rintro x ⟨⟩
    exact ⟨fun q hq => (nomatch hq), fun q hq => by cases hq; norm_num⟩
  · rintro x lo hi ⟨⟩ ⟨⟩ ⟨⟩
  · obtain ⟨orders⟩ : Nonempty Orders := inferInstance
    exact ⟨_, _, pairRun_mergedConfig .reference .reference "kafka" none (some requestingGroup.admission)
      (fun _ => orders) false, rfl⟩

end KafkaOperator
