import KafkaOperator.Kube
import KafkaOperator.GoMerge

/-! # The merge of two configurations

`BrokersConfigSpec.merge m a b` is what operator-go's `MergeObject` makes of two configurations.  It
goes by the keys of the encoded objects, and the right object wins where it has a key:

* an empty text is not encoded, so the right text wins where it is not empty;
* a quantity is always encoded, the zero quantity as `0`, so a part of the resources that the right
  object has wins with all its quantities;
* what a pointer or the entry of a map leads to is merged in turn.

Two points are left open, and `MergeRules` says what the library does there: what becomes of two
affinities, and whether the embedded part is nil after a merge in which none of its fields is set.

`Setting` enumerates the settings a configuration consists of, down to single quantities and log
levels, and `BrokersConfigSpec.setting` reads one; `merge_setting` says how each of them is
merged. -/

namespace KafkaOperator

open Go

/-! ### The merge -/

def LogLevelSpec.merge (a b : LogLevelSpec) : LogLevelSpec := ⟨override "" a.level b.level⟩

def LoggingConfigSpec.merge (a b : LoggingConfigSpec) : LoggingConfigSpec where
  loggers := Map.mergeWith LogLevelSpec.merge a.loggers b.loggers
  console := mergePtr LogLevelSpec.merge a.console b.console
  file := mergePtr LogLevelSpec.merge a.file b.file

def LoggingSpec.merge (a b : LoggingSpec) : LoggingSpec where
  containers := Map.mergeWith LoggingConfigSpec.merge a.containers b.containers
  enableVectorAgent := mergePtr (fun _ y => y) a.enableVectorAgent b.enableVectorAgent

-- quantities are encoded also where they are zero
def CPUResource.merge (_ b : CPUResource) : CPUResource := ⟨b.max, b.min⟩

def MemoryResource.merge (_ b : MemoryResource) : MemoryResource := ⟨b.limit⟩

def StorageResource.merge (a b : StorageResource) : StorageResource :=
  ⟨b.capacity, override "" a.storageClass b.storageClass⟩

def ResourcesSpec.merge (a b : ResourcesSpec) : ResourcesSpec where
  cpu := mergePtr CPUResource.merge a.cpu b.cpu
  memory := mergePtr MemoryResource.merge a.memory b.memory
  storage := mergePtr StorageResource.merge a.storage b.storage

/-- Where the merge of two configurations is open. -/
structure MergeRules where
  /-- What becomes of two affinities, which are raw JSON. -/
  affinity : RawExtension → RawExtension → RawExtension
  /-- Whether the embedded part is there after a merge of these two in which no field of it is set. -/
  keepsEmpty : Option RoleGroupConfigSpec → Option RoleGroupConfigSpec → Bool

def RoleGroupConfigSpec.merge (m : MergeRules) (a b : RoleGroupConfigSpec) : RoleGroupConfigSpec where
  affinity := mergePtr m.affinity a.affinity b.affinity
  gracefulShutdownTimeout := override "" a.gracefulShutdownTimeout b.gracefulShutdownTimeout
  logging := mergePtr LoggingSpec.merge a.logging b.logging
  resources := mergePtr ResourcesSpec.merge a.resources b.resources

/-- No field is set. -/
def RoleGroupConfigSpec.isZero (x : RoleGroupConfigSpec) : Bool :=
  x.affinity.isNone && x.gracefulShutdownTimeout == "" && x.logging.isNone && x.resources.isNone

/-- The embedded part, whose fields are encoded next to the others. -/
def MergeRules.mergePart (m : MergeRules) (a b : Option RoleGroupConfigSpec) :
    Option RoleGroupConfigSpec :=
  if (RoleGroupConfigSpec.merge m (a.getD .zero) (b.getD .zero)).isZero && !m.keepsEmpty a b then none
  else some (RoleGroupConfigSpec.merge m (a.getD .zero) (b.getD .zero))

def BrokersConfigSpec.merge (m : MergeRules) (a b : BrokersConfigSpec) : BrokersConfigSpec where
  roleGroupConfigSpec := m.mergePart a.roleGroupConfigSpec b.roleGroupConfigSpec
  brokerListenerClass := override "" a.brokerListenerClass b.brokerListenerClass
  bootstrapListenerClass := override "" a.bootstrapListenerClass b.bootstrapListenerClass
  requestedSecretLifeTime := override "" a.requestedSecretLifeTime b.requestedSecretLifeTime

/-! ### The embedded part -/

theorem RoleGroupConfigSpec.isZero_iff {x : RoleGroupConfigSpec} : x.isZero = true ↔ x = .zero := by
  obtain ⟨affinity, timeout, logging, resources⟩ := x
  simp [isZero, zero, and_assoc]

namespace MergeRules

variable (m : MergeRules) (a b : Option RoleGroupConfigSpec)

/-- The fields of the part, wherever it is. -/
theorem mergePart_getD :
    (m.mergePart a b).getD .zero = RoleGroupConfigSpec.merge m (a.getD .zero) (b.getD .zero) := by
  unfold mergePart
  split_ifs with h
  · rw [Bool.and_eq_true, RoleGroupConfigSpec.isZero_iff] at h
    exact h.1.symm
  · rfl

/-- The part is nil only if no field of it is set. -/
theorem mergePart_eq_none : m.mergePart a b = none ↔
    RoleGroupConfigSpec.merge m (a.getD .zero) (b.getD .zero) = .zero ∧ m.keepsEmpty a b = false := by
  unfold mergePart
  rw [← RoleGroupConfigSpec.isZero_iff]
  split_ifs with h <;> simpa using h

/-- A field that needs the part to be there. -/
theorem mergePart_bind {α : Type} {n : α → α → α} {g : RoleGroupConfigSpec → Option α}
    (hzero : g .zero = none) (h : MergesAs (RoleGroupConfigSpec.merge m) n g) :
    (m.mergePart a b).bind g = mergePtr n (a.bind g) (b.bind g) := by
  have hread : ∀ o : Option RoleGroupConfigSpec, o.bind g = g (o.getD .zero) := by
    intro o
    cases o with
    | none => exact hzero.symm
    | some x => rfl
  rw [hread, hread a, hread b, mergePart_getD]
  exact h _ _

end MergeRules

/-! ### Settings -/

/-- What a log level is for: a handler or a named logger. -/
inductive LogTarget where
  | console
  | file
  | logger (name : String)
deriving DecidableEq, Repr

/-- The settings of a `BrokersConfigSpec`. -/
inductive Setting where
  | bootstrapListenerClass
  | brokerListenerClass
  | requestedSecretLifeTime
  | gracefulShutdownTimeout
  | affinity
  | enableVectorAgent
  | logLevel (container : String) (target : LogTarget)
  | cpuMax
  | cpuMin
  | memoryLimit
  | storageCapacity
  | storageClass
deriving DecidableEq, Repr

/-- The value of a setting. -/
inductive Value where
  | text (s : String)
  | raw (r : RawExtension)
  | flag (b : Bool)
  | quantity (q : Quantity)
deriving DecidableEq

/-- How two values of a setting are merged: the right one wins, unless it is an empty text. -/
def Value.merge (m : MergeRules) (a b : Value) : Value :=
  if b = .text "" then a else match a, b with
    | .raw x, .raw y => .raw (m.affinity x y)
    | _, _ => b

def LogLevelSpec.setting (l : LogLevelSpec) : Option Value := some (.text l.level)

def LoggingConfigSpec.setting (t : LogTarget) (c : LoggingConfigSpec) : Option Value :=
  match t with
  | .console => c.console.bind LogLevelSpec.setting
  | .file => c.file.bind LogLevelSpec.setting
  | .logger n => (c.loggers.get n).bind LogLevelSpec.setting

/-- The value of a setting, `none` where the object that holds it is not there. -/
def RoleGroupConfigSpec.setting (f : Setting) (c : RoleGroupConfigSpec) : Option Value :=
  match f with
  | .gracefulShutdownTimeout => some (.text c.gracefulShutdownTimeout)
  | .affinity => c.affinity.bind (fun x => some (.raw x))
  | .enableVectorAgent => c.logging.bind (fun l => l.enableVectorAgent.bind (fun x => some (.flag x)))
  | .logLevel n t => c.logging.bind (fun l => (l.containers.get n).bind (LoggingConfigSpec.setting t))
  | .cpuMax => c.resources.bind (fun r => r.cpu.bind (fun x => some (.quantity x.max)))
  | .cpuMin => c.resources.bind (fun r => r.cpu.bind (fun x => some (.quantity x.min)))
  | .memoryLimit => c.resources.bind (fun r => r.memory.bind (fun x => some (.quantity x.limit)))
  | .storageCapacity => c.resources.bind (fun r => r.storage.bind (fun x => some (.quantity x.capacity)))
  | .storageClass => c.resources.bind (fun r => r.storage.bind (fun x => some (.text x.storageClass)))
  | _ => none

/-- The value of a setting, `none` where the object that holds it is not there. -/
def BrokersConfigSpec.setting (f : Setting) (c : BrokersConfigSpec) : Option Value :=
  match f with
  | .bootstrapListenerClass => some (.text c.bootstrapListenerClass)
  | .brokerListenerClass => some (.text c.brokerListenerClass)
  | .requestedSecretLifeTime => some (.text c.requestedSecretLifeTime)
  | f => (c.roleGroupConfigSpec.getD .zero).setting f

/-! ### Every setting is merged -/

section Merged

variable (m : MergeRules)

/-- A text field of a record. -/
theorem mergesAs_text {α : Type} {l : α → α → α} (f : α → String)
    (hf : ∀ a b, f (l a b) = override "" (f a) (f b)) :
    MergesAs l (Value.merge m) (fun a => some (.text (f a))) := by
  intro a b
  show some (Value.text (f (l a b))) = some (Value.merge m (.text (f a)) (.text (f b)))
  rw [hf]
  unfold override Value.merge
  simp only [Value.text.injEq]
  split_ifs <;> rfl

/-- A quantity of a record: the right one wins. -/
theorem mergesAs_quantity {α : Type} {l : α → α → α} (f : α → Quantity)
    (hf : ∀ a b, f (l a b) = f b) :
    MergesAs l (Value.merge m) (fun a => some (.quantity (f a))) :=
  fun a b => congrArg (fun q => some (Value.quantity q)) (hf a b)

theorem LogLevelSpec.merge_setting : MergesAs merge (Value.merge m) setting :=
  mergesAs_text m level (fun _ _ => rfl)

theorem LoggingConfigSpec.merge_setting (t : LogTarget) : MergesAs merge (Value.merge m) (setting t) := by
  cases t with
  | console => exact (LogLevelSpec.merge_setting m).ptr.comp console (fun _ _ => rfl)
  | file => exact (LogLevelSpec.merge_setting m).ptr.comp file (fun _ _ => rfl)
  | logger n => exact ((LogLevelSpec.merge_setting m).map n).comp loggers (fun _ _ => rfl)

/-- A setting that a part of the resources holds. -/
theorem ResourcesSpec.merge_setting {α : Type} {l : α → α → α} {g : α → Option Value}
    (h : MergesAs l (Value.merge m) g) (f : ResourcesSpec → Option α)
    (hf : ∀ a b, f (a.merge b) = mergePtr l (f a) (f b)) :
    MergesAs (RoleGroupConfigSpec.merge m) (Value.merge m)
      (fun c => c.resources.bind (fun r => (f r).bind g)) :=
  (h.ptr.comp f hf).ptr.comp RoleGroupConfigSpec.resources (fun _ _ => rfl)

theorem RoleGroupConfigSpec.merge_setting (f : Setting) :
    MergesAs (merge m) (Value.merge m) (setting f) := by
  cases f with
  | gracefulShutdownTimeout => exact mergesAs_text m gracefulShutdownTimeout (fun _ _ => rfl)
  | affinity =>
      have h : MergesAs m.affinity (Value.merge m) (fun x => some (.raw x)) := fun _ _ => rfl
      exact h.ptr.comp affinity (fun _ _ => rfl)
  | enableVectorAgent =>
      have h : MergesAs (fun _ y : Bool => y) (Value.merge m) (fun x => some (.flag x)) := fun _ _ => rfl
      exact (h.ptr.comp LoggingSpec.enableVectorAgent (fun _ _ => rfl)).ptr.comp logging (fun _ _ => rfl)
  | logLevel n t =>
      exact (((LoggingConfigSpec.merge_setting m t).map n).comp LoggingSpec.containers
        (fun _ _ => rfl)).ptr.comp logging (fun _ _ => rfl)
  | cpuMax =>
      exact ResourcesSpec.merge_setting m (mergesAs_quantity m CPUResource.max (fun _ _ => rfl))
        ResourcesSpec.cpu (fun _ _ => rfl)
  | cpuMin =>
      exact ResourcesSpec.merge_setting m (mergesAs_quantity m CPUResource.min (fun _ _ => rfl))
        ResourcesSpec.cpu (fun _ _ => rfl)
  | memoryLimit =>
      exact ResourcesSpec.merge_setting m (mergesAs_quantity m MemoryResource.limit (fun _ _ => rfl))
        ResourcesSpec.memory (fun _ _ => rfl)
  | storageCapacity =>
      exact ResourcesSpec.merge_setting m (mergesAs_quantity m (l := StorageResource.merge)
        StorageResource.capacity (fun _ _ => rfl))
        ResourcesSpec.storage (fun _ _ => rfl)
  | storageClass =>
      exact ResourcesSpec.merge_setting m (mergesAs_text m StorageResource.storageClass (fun _ _ => rfl))
        ResourcesSpec.storage (fun _ _ => rfl)
  | bootstrapListenerClass | brokerListenerClass | requestedSecretLifeTime => exact fun _ _ => rfl

/-- **Every setting is merged separately**: where only one of the configurations has the object that
holds it, that one counts, and two values are merged by `Value.merge`. -/
theorem BrokersConfigSpec.merge_setting (f : Setting) :
    MergesAs (merge m) (Value.merge m) (setting f) := by
  have hpart := (RoleGroupConfigSpec.merge_setting m f).comp (l := merge m)
    (fun u => u.roleGroupConfigSpec.getD .zero) (fun a b => m.mergePart_getD _ _)
  cases f with
  | bootstrapListenerClass => exact mergesAs_text m bootstrapListenerClass (fun _ _ => rfl)
  | brokerListenerClass => exact mergesAs_text m brokerListenerClass (fun _ _ => rfl)
  | requestedSecretLifeTime => exact mergesAs_text m requestedSecretLifeTime (fun _ _ => rfl)
  | _ => exact hpart

end Merged

end KafkaOperator
