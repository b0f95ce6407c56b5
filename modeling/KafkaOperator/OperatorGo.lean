import KafkaOperator.ConfigMerge
import KafkaOperator.GoStore
import KafkaOperator.GoStrings

/-! # What the controller relies on in operator-go

The library's code is not part of this repository.  What the controller calls is a
parameter `op : OperatorGo`; the facts it relies on are the fields of that structure that
are propositions.  The results hold for every such `op`.

* `mergeConfig`, `mergeOverridesSpec` give the value of `MergeObject` on two objects (or an
  error); where the value of a configuration is open, `rules` says what it is.  Whether a call with
  only one non-nil argument returns that argument itself or a copy of it is open too:
  `sharesConfig` and `sharesOverrides` decide it for the call made for each role group.
* `getPodTemplate` assembles the pod template from what was added to the builder, in an order of
  its own; overrides of the pod are merged in container by container.
* Labels and annotations of a role group are some maps, and not nil.  Those of the metadata of
  another object come from its owner.
* The generators of log and vector configuration return a text or an error.

`reference` is one such library, with the behaviour the controller meets in practice. -/

namespace KafkaOperator

open Go

/-! ### Names -/

/-- `reconciler.RoleGroupInfo`. -/
structure RoleGroupInfo where
  clusterName : String
  roleName : String
  roleGroupName : String
deriving DecidableEq, Repr

/-- `<cluster>-<role>-<group>`. -/
def RoleGroupInfo.getFullName (i : RoleGroupInfo) : String :=
  i.clusterName ++ "-" ++ i.roleName ++ "-" ++ i.roleGroupName

/-! ### Overrides -/

namespace OverridesSpec

/-- The value the overrides give to a key of a file. -/
def property (o : OverridesSpec) (file key : String) : Option String :=
  o.configOverrides.bind (fun m => (m.get file).bind (fun d => d.bind (fun f => f.get key)))

/-- No file is bound to a nil map. -/
def NoNilFile (o : OverridesSpec) : Prop :=
  ∀ m, o.configOverrides = some m → ∀ file, m.get file ≠ some none

/-- The overrides ask for no change of a pod template: nothing is given for the pod, for commands or
for environment variables. -/
structure PodPlain (u : OverridesSpec) : Prop where
  pod : u.podOverrides = none
  cli : u.cliOverrides.getD [] = []
  env : u.envOverrides.getD Map.empty = Map.empty

/-- The file is bound to a map. -/
def HasFile (o : OverridesSpec) (file : String) : Prop :=
  ∃ m f, o.configOverrides = some m ∧ m.get file = some (some f)

/-- The recursive merge of two overrides; a list is appended. -/
def merge (a b : OverridesSpec) : OverridesSpec where
  cliOverrides := mergePtr (· ++ ·) a.cliOverrides b.cliOverrides
  envOverrides := mergePtr (Map.mergeWith (fun _ y => y)) a.envOverrides b.envOverrides
  configOverrides := mergePtr (Map.mergeWith (mergePtr (Map.mergeWith (fun _ y => y))))
    a.configOverrides b.configOverrides
  podOverrides := mergePtr (fun _ y => y) a.podOverrides b.podOverrides

theorem merge_property (file key : String) : FieldWise merge (fun o => o.property file key) := by
  have h := (((MergesAs.plain (fun _ y : String => y)).map key).ptr.map file).ptr.comp (l := merge)
    configOverrides (fun _ _ => rfl)
  simpa only [FieldWise, property, Option.bind_fun_some] using h

theorem PodPlain.merge {a b : OverridesSpec} (ha : a.PodPlain) (hb : b.PodPlain) :
    (merge a b).PodPlain := by
  constructor
  case pod => simp [OverridesSpec.merge, ha.pod, hb.pod]
  case cli => exact mergePtr_getD rfl ha.cli hb.cli
  case env =>
    refine mergePtr_getD ?_ ha.env hb.env
    ext1 k
    simp [Map.get_mergeWith]

theorem merge_noNilFile {a b : OverridesSpec} (ha : a.NoNilFile) (hb : b.NoNilFile) :
    (merge a b).NoNilFile := by
  intro m hm file hf
  cases hx : a.configOverrides with
  | none =>
      simp only [merge, hx, mergePtr_none_left] at hm
      exact hb m hm file hf
  | some x =>
      cases hy : b.configOverrides with
      | none =>
          simp only [merge, hx, hy, mergePtr_none_right] at hm
          exact ha m (hx.trans hm) file hf
      | some y =>
          simp only [merge, hx, hy, mergePtr_some, Option.some.injEq] at hm
          rw [← hm, Map.get_mergeWith] at hf
          cases hxf : x.get file with
          | none =>
              simp only [hxf] at hf
              exact hb y hy file hf
          | some v =>
              cases hyf : y.get file with
              | none =>
                  simp only [hxf, hyf, Option.some.injEq] at hf
                  exact ha x hx file (hf ▸ hxf)
              | some w =>
                  simp only [hxf, hyf, Option.some.injEq] at hf
                  cases v with
                  | none => exact ha x hx file hxf
                  | some v => cases w <;> simp [mergePtr] at hf

end OverridesSpec

/-! ### Workload builders -/

/-- The state of a `builder.StatefulSet`: what has been added to it so far. -/
structure Workload where
  containers : List Container
  volumes : List Volume
  volumeClaimTemplates : List PersistentVolumeClaim
  overrides : Option OverridesSpec
  roleGroupConfig : Option RoleGroupConfigSpec

namespace Workload

def addContainer (w : Workload) (c : Container) : Workload :=
  { w with containers := w.containers ++ [c] }

def addVolumes (w : Workload) (vs : List Volume) : Workload :=
  { w with volumes := w.volumes ++ vs }

def addVolumeClaimTemplates (w : Workload) (cs : List PersistentVolumeClaim) : Workload :=
  { w with volumeClaimTemplates := w.volumeClaimTemplates ++ cs }

end Workload

/-! ### The library -/

/-- The constants of `operator-go/pkg/constants` that the controller uses. -/
structure Constants where
  annotationSecretsClass : String
  annotationSecretsScope : String
  annotationSecretsFormat : String
  annotationSecretsPKCS12Password : String
  annotationSecretCertLifeTime : String
  annotationSecretsKerberosServiceNames : String
  annotationListenersClass : String
  annotationListenerName : String
  listenerVolumeScope : String
  podScope : String
  nodeScope : String
  commonDelimiter : String
  tlsP12 : String
  listenerStorageClass : String
  clusterInternal : String
  kubedoopDataDir : String
  labelKubernetesInstance : String
  labelKubernetesComponent : String
  /-- The annotation keys of a secret volume are different keys. -/
  secretAnnotations_nodup : [annotationSecretsClass, annotationSecretsScope,
    annotationSecretsFormat, annotationSecretsPKCS12Password, annotationSecretCertLifeTime,
    annotationSecretsKerberosServiceNames].Nodup
  listenersClass_ne : annotationListenersClass ≠ ""
  listenerName_ne : annotationListenerName ≠ ""

/-- operator-go, as far as the controller calls it. -/
structure OperatorGo where
  consts : Constants
  buildVersion : String
  rules : MergeRules
  mergeConfig : BrokersConfigSpec → BrokersConfigSpec → Outcome BrokersConfigSpec
  mergeConfig_safe : ∀ a b, (mergeConfig a b).Safe
  mergeConfig_value : ∀ a b v, mergeConfig a b = .ok v → v = .merge rules a b
  sharesConfig : String → Bool
  mergeOverridesSpec : OverridesSpec → OverridesSpec → Outcome OverridesSpec
  mergeOverridesSpec_safe : ∀ a b, (mergeOverridesSpec a b).Safe
  mergeOverridesSpec_property : ∀ a b v file key, mergeOverridesSpec a b = .ok v →
    a.NoNilFile → b.NoNilFile → v.property file key = (b.property file key).or (a.property file key)
  mergeOverridesSpec_noNilFile : ∀ a b v, mergeOverridesSpec a b = .ok v →
    a.NoNilFile → b.NoNilFile → v.NoNilFile
  sharesOverrides : String → Bool
  labels : RoleGroupInfo → Map String String
  annotations : RoleGroupInfo → Map String String
  objectMetaLabels : (ownerLabels : Map String String) → (name : String) → Map String String
  getPodTemplate : Workload → Outcome PodTemplate
  getPodTemplate_safe : ∀ w, (getPodTemplate w).Safe
  getPodTemplate_containers : ∀ w t, getPodTemplate w = .ok t →
    ∀ c ∈ w.containers, ∃ c' ∈ t.containers, c'.name = c.name
  getPodTemplate_plain : ∀ w t, getPodTemplate w = .ok t →
    (∀ u, w.overrides = some u → u.PodPlain) →
      t.containers.Perm w.containers ∧ t.volumes.Perm w.volumes
  log4jContent : Option LoggingConfigSpec → Outcome String
  log4jContent_safe : ∀ l, (log4jContent l).Safe
  makeVectorYaml : (kubeNamespace clusterName roleName roleGroupName aggregator : String) →
    Outcome String
  makeVectorYaml_safe : ∀ n c r g a, (makeVectorYaml n c r g a).Safe
  vectorContainer : (configDirName logDirName : String) → Image → Container
  vectorVolumes : (configDirName logDirName : String) → Image → List Volume
  commonBashTrapFunctions : String
  removeVectorShutdownFileCommand : String
  createVectorShutdownFileCommand : String

/-- `MergeObject` can return an error. -/
def OperatorGo.MergeFails (op : OperatorGo) : Prop :=
  (∃ a b e, op.mergeConfig a b = .err e) ∨ ∃ a b e, op.mergeOverridesSpec a b = .err e

/-- The log configuration generator can return an error. -/
def OperatorGo.LogFails (op : OperatorGo) : Prop := ∃ l e, op.log4jContent l = .err e

/-- `MergeObject` on pointers, for objects whose values merge by `merge`.  Called with one
non-nil argument it returns that argument if `share`, and a copy of it otherwise. -/
def mergeObject {π α : Type} (merge : α → α → Outcome α) (share : Bool) (l r : Option (Ref π)) :
    Prog (Store π α) (Option (Ref π)) :=
  let one (p : Ref π) : Prog (Store π α) (Option (Ref π)) :=
    if share then pure (some p) else do
      let v ← Prog.load (some p)
      let q ← Prog.new v
      pure (some q)
  match l, r with
  | none, none => pure none
  | some p, none => one p
  | none, some q => one q
  | some p, some q => do
      let a ← Prog.load (some p)
      let b ← Prog.load (some q)
      let v ← Prog.lift (merge a b)
      let x ← Prog.new v
      pure (some x)

/-! ### A reference instance -/

/-- The constants with the values the repository's manifests use. -/
def Constants.reference : Constants where
  annotationSecretsClass := "secrets.kubedoop.dev/class"
  annotationSecretsScope := "secrets.kubedoop.dev/scope"
  annotationSecretsFormat := "secrets.kubedoop.dev/format"
  annotationSecretsPKCS12Password := "secrets.kubedoop.dev/tlsPKCS12Password"
  annotationSecretCertLifeTime := "secrets.kubedoop.dev/autoTlsCertLifetime"
  annotationSecretsKerberosServiceNames := "secrets.kubedoop.dev/kerberosServiceNames"
  annotationListenersClass := "listeners.kubedoop.dev/class"
  annotationListenerName := "listeners.kubedoop.dev/listenerName"
  listenerVolumeScope := "listener-volume"
  podScope := "pod"
  nodeScope := "node"
  commonDelimiter := ","
  tlsP12 := "tls-p12"
  listenerStorageClass := "listeners.kubedoop.dev"
  clusterInternal := "cluster-internal"
  kubedoopDataDir := "/kubedoop/data/"
  labelKubernetesInstance := "app.kubernetes.io/instance"
  labelKubernetesComponent := "app.kubernetes.io/component"
  secretAnnotations_nodup := by decide
  listenersClass_ne := by decide
  listenerName_ne := by decide

/-- A merge that replaces affinities, and in which an embedded part without any field is nil. -/
def MergeRules.reference : MergeRules where
  affinity _ y := y
  keepsEmpty _ _ := false

/-- A library that shares the only non-nil argument of `MergeObject` for the role groups that
`shares` says, that sorts containers and volumes by their names, and whose generators always return
a text. -/
def OperatorGo.reference (shares : String → Bool) : OperatorGo where
  consts := .reference
  buildVersion := "0.0.0-dev"
  rules := .reference
  mergeConfig a b := .ok (.merge .reference a b)
  mergeConfig_safe _ _ := by simp
  mergeConfig_value _ _ _ h := by cases h; rfl
  sharesConfig := shares
  mergeOverridesSpec a b := .ok (a.merge b)
  mergeOverridesSpec_safe _ _ := by simp
  mergeOverridesSpec_property a b v file key h _ _ := by
    cases h
    exact (OverridesSpec.merge_property file key).eq_or a b
  mergeOverridesSpec_noNilFile a b v h ha hb := by
    cases h
    exact OverridesSpec.merge_noNilFile ha hb
  sharesOverrides := shares
  labels i := Map.ofList [("app.kubernetes.io/instance", i.clusterName),
    ("app.kubernetes.io/component", i.roleName), ("app.kubernetes.io/role-group", i.roleGroupName)]
  annotations _ := Map.empty
  objectMetaLabels ownerLabels _ := ownerLabels
  getPodTemplate w := .ok ⟨w.containers.insertionSort (fun a b => a.name ≤ b.name),
    w.volumes.insertionSort (fun a b => a.name ≤ b.name), ""⟩
  getPodTemplate_safe _ := by simp
  getPodTemplate_containers w t h c hc := by
    cases h
    exact ⟨c, (List.perm_insertionSort _ _).mem_iff.mpr hc, rfl⟩
  getPodTemplate_plain w t h _ := by
    cases h
    exact ⟨List.perm_insertionSort _ _, List.perm_insertionSort _ _⟩
  log4jContent _ := .ok "log4j.rootLogger=INFO"
  log4jContent_safe _ := by simp
  makeVectorYaml _ _ _ _ _ := .ok "data_dir: /kubedoop/vector"
  makeVectorYaml_safe _ _ _ _ _ := by simp
  vectorContainer _ _ image := ⟨"vector", image, [], [], [], [], none, none, none, []⟩
  vectorVolumes _ _ _ := []
  commonBashTrapFunctions := "trap handle_term_signal TERM"
  removeVectorShutdownFileCommand := "rm -f /kubedoop/log/_vector/shutdown"
  createVectorShutdownFileCommand := "mkdir -p /kubedoop/log/_vector && touch /kubedoop/log/_vector/shutdown"

theorem OperatorGo.reference_not_mergeFails (shares : String → Bool) :
    ¬ (OperatorGo.reference shares).MergeFails := by
  rintro (⟨a, b, e, h⟩ | ⟨a, b, e, h⟩) <;> cases h

theorem OperatorGo.reference_not_logFails (shares : String → Bool) :
    ¬ (OperatorGo.reference shares).LogFails := by
  rintro ⟨l, e, h⟩
  cases h

end KafkaOperator
