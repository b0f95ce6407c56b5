import KafkaOperator.ConfigMerge

/-! # Broker configurations as manifests

What a user writes under `config`, before the API server and the decoder have seen it: every
field is there or not.  The API server fills the defaults that the schema declares
(`config/crd/bases/kafka.kubedoop.dev_kafkaclusters.yaml`) into the objects that are there
(`applyDefaults`), and the decoder makes a `BrokersConfigSpec` of the result, in which a missing
text or quantity is a zero value (`decode`).

`admission_setting` says what comes out, setting by setting: what the manifest sets, else what the
schema or the decoder puts in the place of a field that is left out of an object the manifest has. -/

namespace KafkaOperator

open Go

/-! ### Manifests -/

/-- The log levels that the schema admits. -/
inductive LogLevel where
  | fatal | error | warn | info | debug | trace
deriving DecidableEq, Repr

def LogLevel.text : LogLevel → String
  | .fatal => "FATAL"
  | .error => "ERROR"
  | .warn => "WARN"
  | .info => "INFO"
  | .debug => "DEBUG"
  | .trace => "TRACE"

structure LogLevelManifest where
  level : Option LogLevel

structure LoggingConfigManifest where
  loggers : Map String LogLevelManifest
  console : Option LogLevelManifest
  file : Option LogLevelManifest

structure LoggingManifest where
  containers : Map String LoggingConfigManifest
  enableVectorAgent : Option Bool

structure CPUManifest where
  max : Option Quantity
  min : Option Quantity

structure MemoryManifest where
  limit : Option Quantity

structure StorageManifest where
  capacity : Option Quantity
  storageClass : Option String

structure ResourcesManifest where
  cpu : Option CPUManifest
  memory : Option MemoryManifest
  storage : Option StorageManifest

/-- The fields of `RoleGroupConfigSpec` are written next to the others. -/
structure BrokersConfigManifest where
  affinity : Option RawExtension
  gracefulShutdownTimeout : Option String
  logging : Option LoggingManifest
  resources : Option ResourcesManifest
  brokerListenerClass : Option String
  bootstrapListenerClass : Option String
  requestedSecretLifeTime : Option String

/-! ### The defaults of the schema -/

def LogLevelManifest.applyDefaults (l : LogLevelManifest) : LogLevelManifest :=
  ⟨l.level.or (some .info)⟩

def LoggingConfigManifest.applyDefaults (c : LoggingConfigManifest) : LoggingConfigManifest where
  loggers := c.loggers.map LogLevelManifest.applyDefaults
  console := c.console.map LogLevelManifest.applyDefaults
  file := c.file.map LogLevelManifest.applyDefaults

def LoggingManifest.applyDefaults (l : LoggingManifest) : LoggingManifest :=
  { l with containers := l.containers.map LoggingConfigManifest.applyDefaults }

/-- The default is `10Gi`. -/
def StorageManifest.applyDefaults (s : StorageManifest) : StorageManifest :=
  { s with capacity := s.capacity.or (some (10 * 2 ^ 30)) }

def ResourcesManifest.applyDefaults (r : ResourcesManifest) : ResourcesManifest :=
  { r with storage := r.storage.map StorageManifest.applyDefaults }

def BrokersConfigManifest.applyDefaults (m : BrokersConfigManifest) : BrokersConfigManifest :=
  { m with
    gracefulShutdownTimeout := m.gracefulShutdownTimeout.or (some "30s")
    logging := m.logging.map LoggingManifest.applyDefaults
    resources := m.resources.map ResourcesManifest.applyDefaults
    brokerListenerClass := m.brokerListenerClass.or (some "cluster-internal") }

/-! ### Decoding -/

def LogLevelManifest.decode (l : LogLevelManifest) : LogLevelSpec := ⟨(l.level.map LogLevel.text).getD ""⟩

def LoggingConfigManifest.decode (c : LoggingConfigManifest) : LoggingConfigSpec where
  loggers := c.loggers.map LogLevelManifest.decode
  console := c.console.map LogLevelManifest.decode
  file := c.file.map LogLevelManifest.decode

def LoggingManifest.decode (l : LoggingManifest) : LoggingSpec where
  containers := l.containers.map LoggingConfigManifest.decode
  enableVectorAgent := l.enableVectorAgent

def CPUManifest.decode (c : CPUManifest) : CPUResource := ⟨c.max.getD 0, c.min.getD 0⟩

def MemoryManifest.decode (m : MemoryManifest) : MemoryResource := ⟨m.limit.getD 0⟩

def StorageManifest.decode (s : StorageManifest) : StorageResource :=
  ⟨s.capacity.getD 0, s.storageClass.getD ""⟩

def ResourcesManifest.decode (r : ResourcesManifest) : ResourcesSpec where
  cpu := r.cpu.map CPUManifest.decode
  memory := r.memory.map MemoryManifest.decode
  storage := r.storage.map StorageManifest.decode

namespace BrokersConfigManifest

variable (m : BrokersConfigManifest)

def roleGroupConfig : RoleGroupConfigSpec where
  affinity := m.affinity
  gracefulShutdownTimeout := m.gracefulShutdownTimeout.getD ""
  logging := m.logging.map LoggingManifest.decode
  resources := m.resources.map ResourcesManifest.decode

/-- The embedded pointer is allocated when one of its fields is there. -/
def decode : BrokersConfigSpec where
  roleGroupConfigSpec :=
    if m.affinity.isSome || m.gracefulShutdownTimeout.isSome || m.logging.isSome ||
      m.resources.isSome then some m.roleGroupConfig else none
  brokerListenerClass := m.brokerListenerClass.getD ""
  bootstrapListenerClass := m.bootstrapListenerClass.getD ""
  requestedSecretLifeTime := m.requestedSecretLifeTime.getD ""

/-- The configuration the operator gets. -/
def admission : BrokersConfigSpec := m.applyDefaults.decode

/-- The embedded object is always allocated, since the schema has a default for the timeout. -/
theorem admission_part : m.admission.roleGroupConfigSpec = some m.applyDefaults.roleGroupConfig := by
  have htimeout : m.applyDefaults.gracefulShutdownTimeout.isSome := by
    show (m.gracefulShutdownTimeout.or (some "30s")).isSome = true
    cases m.gracefulShutdownTimeout <;> rfl
  unfold admission decode
  rw [htimeout, Bool.or_true, Bool.true_or, Bool.true_or, if_pos rfl]

/-! ### The parts of the resources -/

def cpu : Option CPUManifest := m.resources.bind (·.cpu)

def memory : Option MemoryManifest := m.resources.bind (·.memory)

def storage : Option StorageManifest := m.resources.bind (·.storage)

end BrokersConfigManifest

/-! ### What a manifest sets -/

def LoggingConfigManifest.sets (t : LogTarget) (c : LoggingConfigManifest) : Option Value :=
  let level := fun (l : LogLevelManifest) => l.level.map (fun x => Value.text x.text)
  match t with
  | .console => c.console.bind level
  | .file => c.file.bind level
  | .logger n => (c.loggers.get n).bind level

/-- What the manifest itself gives for a setting, an empty text or a zero quantity included. -/
def BrokersConfigManifest.sets (m : BrokersConfigManifest) : Setting → Option Value
  | .bootstrapListenerClass => m.bootstrapListenerClass.map .text
  | .brokerListenerClass => m.brokerListenerClass.map .text
  | .requestedSecretLifeTime => m.requestedSecretLifeTime.map .text
  | .gracefulShutdownTimeout => m.gracefulShutdownTimeout.map .text
  | .affinity => m.affinity.map .raw
  | .enableVectorAgent => m.logging.bind (fun l => l.enableVectorAgent.map .flag)
  | .logLevel n t => m.logging.bind (fun l => (l.containers.get n).bind (LoggingConfigManifest.sets t))
  | .cpuMax => m.cpu.bind (fun x => x.max.map .quantity)
  | .cpuMin => m.cpu.bind (fun x => x.min.map .quantity)
  | .memoryLimit => m.memory.bind (fun x => x.limit.map .quantity)
  | .storageCapacity => m.storage.bind (fun x => x.capacity.map .quantity)
  | .storageClass => m.storage.bind (fun x => x.storageClass.map .text)

def LoggingConfigManifest.leftOut (t : LogTarget) (c : LoggingConfigManifest) : Option Value :=
  let info := fun (_ : LogLevelManifest) => Value.text LogLevel.info.text
  match t with
  | .console => c.console.map info
  | .file => c.file.map info
  | .logger n => (c.loggers.get n).map info

/-- What the operator finds in the place of a setting that the manifest leaves out of an object it
has: the schema's default, else the zero value. -/
def BrokersConfigManifest.leftOut (m : BrokersConfigManifest) : Setting → Option Value
  | .brokerListenerClass => some (.text "cluster-internal")
  | .gracefulShutdownTimeout => some (.text "30s")
  | .bootstrapListenerClass | .requestedSecretLifeTime => some (.text "")
  | .affinity | .enableVectorAgent => none
  | .logLevel n t =>
      m.logging.bind (fun l => (l.containers.get n).bind (LoggingConfigManifest.leftOut t))
  | .cpuMax | .cpuMin => m.cpu.map (fun _ => .quantity 0)
  | .memoryLimit => m.memory.map (fun _ => .quantity 0)
  | .storageCapacity => m.storage.map (fun _ => .quantity (10 * 2 ^ 30))
  | .storageClass => m.storage.map (fun _ => .text "")

/-! ### What the operator gets -/

/-- A field of an object, which the manifest gives or leaves out. -/
theorem some_getD {α β : Type} (w : α → β) (z : α) (x : Option α) :
    some (w (x.getD z)) = (x.map w).or (some (w z)) := by
  cases x <;> rfl

/-- An object that need not be there passes on what is known of its fields. -/
theorem bind_admission {α β : Type} {fill : α → β} {read : β → Option Value}
    {sets leftOut : α → Option Value} (h : ∀ a, read (fill a) = (sets a).or (leftOut a))
    (o : Option α) : (o.map fill).bind read = (o.bind sets).or (o.bind leftOut) := by
  cases o with
  | none => rfl
  | some a => exact h a

theorem LogLevelManifest.admission_setting (l : LogLevelManifest) :
    l.applyDefaults.decode.setting =
      (l.level.map (fun x => Value.text x.text)).or (some (.text LogLevel.info.text)) := by
  obtain ⟨level⟩ := l
  cases level <;> rfl

theorem LoggingConfigManifest.admission_setting (t : LogTarget) (c : LoggingConfigManifest) :
    c.applyDefaults.decode.setting t = (c.sets t).or (c.leftOut t) := by
  have hlevel : ∀ o : Option LogLevelManifest,
      ((o.map LogLevelManifest.applyDefaults).map LogLevelManifest.decode).bind LogLevelSpec.setting =
        (o.bind (fun l => l.level.map (fun x => Value.text x.text))).or
          (o.map (fun _ => Value.text LogLevel.info.text)) := by
    intro o
    cases o with
    | none => rfl
    | some l => exact l.admission_setting
  cases t with
  | console => exact hlevel c.console
  | file => exact hlevel c.file
  | logger n => exact hlevel (c.loggers.get n)

namespace BrokersConfigManifest

variable (m : BrokersConfigManifest)

/-- A field of the embedded part. -/
theorem admission_part_setting (f : Setting) :
    (m.admission.roleGroupConfigSpec.getD .zero).setting f =
      m.applyDefaults.roleGroupConfig.setting f := by
  rw [m.admission_part, Option.getD_some]

/-- A field of a part of the resources. -/
theorem admission_resources {α β : Type} {part : ResourcesManifest → Option α}
    {read : ResourcesSpec → Option β} {g : β → Option Value} {sets : α → Option Value} {d : Value}
    {decode : α → β} (hread : ∀ r, read (ResourcesManifest.applyDefaults r).decode = (part r).map decode)
    (hg : ∀ a, g (decode a) = (sets a).or (some d)) :
    m.applyDefaults.roleGroupConfig.resources.bind (fun r => (read r).bind g) =
      ((m.resources.bind part).bind sets).or ((m.resources.bind part).map (fun _ => d)) := by
  show ((m.resources.map _).map _).bind _ = _
  cases m.resources with
  | none => rfl
  | some r =>
      show (read r.applyDefaults.decode).bind g = _
      rw [hread]
      cases hpart : part r with
      | none => simp [hpart]
      | some a => simpa [hpart] using hg a

/-- **What the operator gets**: what the manifest sets, and what comes in the place of what it leaves
out. -/
theorem admission_setting (f : Setting) :
    m.admission.setting f = (m.sets f).or (m.leftOut f) := by
  cases f with
  | bootstrapListenerClass => exact some_getD Value.text "" m.bootstrapListenerClass
  | requestedSecretLifeTime => exact some_getD Value.text "" m.requestedSecretLifeTime
  | brokerListenerClass =>
      obtain ⟨_, _, _, _, broker, _, _⟩ := m
      cases broker <;> rfl
  | gracefulShutdownTimeout =>
      refine (m.admission_part_setting .gracefulShutdownTimeout).trans ?_
      obtain ⟨_, timeout, _, _, _, _, _⟩ := m
      cases timeout <;> rfl
  | affinity =>
      refine (m.admission_part_setting .affinity).trans ?_
      obtain ⟨affinity, _, _, _, _, _, _⟩ := m
      cases affinity <;> rfl
  | enableVectorAgent =>
      refine (m.admission_part_setting .enableVectorAgent).trans ?_
      obtain ⟨_, _, logging, _, _, _, _⟩ := m
      cases logging with
      | none => rfl
      | some l =>
          obtain ⟨_, enable⟩ := l
          cases enable <;> rfl
  | logLevel n t =>
      refine (m.admission_part_setting (.logLevel n t)).trans ?_
      have hcontainer : ∀ l : LoggingManifest,
          (l.applyDefaults.decode.containers.get n).bind (LoggingConfigSpec.setting t) =
            ((l.containers.get n).bind (LoggingConfigManifest.sets t)).or
              ((l.containers.get n).bind (LoggingConfigManifest.leftOut t)) := by
        intro l
        show (((l.containers.get n).map LoggingConfigManifest.applyDefaults).map
          LoggingConfigManifest.decode).bind (LoggingConfigSpec.setting t) = _
        rw [Option.map_map]
        exact bind_admission (LoggingConfigManifest.admission_setting t) (l.containers.get n)
      show ((m.logging.map LoggingManifest.applyDefaults).map LoggingManifest.decode).bind _ = _
      rw [Option.map_map]
      exact bind_admission hcontainer m.logging
  | cpuMax =>
      refine (m.admission_part_setting .cpuMax).trans ?_
      exact m.admission_resources (fun _ => rfl) (fun a => some_getD Value.quantity 0 a.max)
  | cpuMin =>
      refine (m.admission_part_setting .cpuMin).trans ?_
      exact m.admission_resources (fun _ => rfl) (fun a => some_getD Value.quantity 0 a.min)
  | memoryLimit =>
      refine (m.admission_part_setting .memoryLimit).trans ?_
      exact m.admission_resources (fun _ => rfl) (fun a => some_getD Value.quantity 0 a.limit)
  | storageCapacity =>
      refine (m.admission_part_setting .storageCapacity).trans ?_
      refine m.admission_resources (fun _ => Option.map_map ..) (fun a => ?_)
      obtain ⟨capacity, _⟩ := a
      cases capacity <;> rfl
  | storageClass =>
      refine (m.admission_part_setting .storageClass).trans ?_
      exact m.admission_resources (fun _ => Option.map_map ..)
        (fun a => some_getD Value.text "" a.storageClass)

end BrokersConfigManifest

end KafkaOperator
