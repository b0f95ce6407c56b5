import KafkaOperator.Builders
import KafkaOperator.History

/-! # The Listener builder

`internal/pkg/listener_builder.go`: a builder that is configured by options and by setters and
returns a Listener each time `GetObject` is called.

Label maps are shared: the caller keeps the map it gives to `SetExtraPodSelectorLabels`, and
`AddExtraPodSelectorLabel` writes to it.  So a `BuilderState` holds all label maps there are by name,
and the builder has the names of its own labels and of the extra ones.  A call that makes a map is
given a name that is not in use.  Port lists are values: what is appended to a slice is written
behind the part that anyone else has.

Calls come in any number and order, the calls of `GetObject` among them.  `run_tracks` says what they
leave, by the history of the calls (`History.lean`); `Resembles` says that the calls of `GetObject`
leave no trace.  The value given to `SetPublishNotReadyAddresses` is kept, but `GetObject` does not
read it, so that the builder loses nothing exactly if an unset field stands for that value
(`loses_nothing_iff`). -/

namespace KafkaOperator

open Go

/-- A Listener with the field of its spec for addresses that are not ready, which may be unset. -/
structure ListenerObject extends Listener where
  publishNotReadyAddresses : Option Bool

structure ListenerBuilderOptions (ρ : Type) where
  containerPorts : List ContainerPort
  publishNotReadyAddresses : Bool
  extraPodSelectorLabels : Option ρ

/-- `&ListenerBuilderOptions{}` after the options have been applied in turn. -/
def applyOptions {ρ : Type} (options : List (ListenerBuilderOptions ρ → ListenerBuilderOptions ρ)) :
    ListenerBuilderOptions ρ :=
  options.foldl (fun opts opt => opt opts) ⟨[], false, none⟩

/-- `pkg.GenericBuilder`, with its label maps by name; a nil map has none. -/
structure SharedBuilder (ρ : Type) where
  name : String
  kubeNamespace : String
  labels : ρ
  listenerClass : String
  ports : List ListenerPort
  extraPodSelectorLabels : Option ρ
  publishNotReadyAddress : Bool

def newListenerBuilder {ρ : Type} (name kubeNamespace : String) (labels : ρ) (listenerClass : String)
    (options : List (ListenerBuilderOptions ρ → ListenerBuilderOptions ρ)) : SharedBuilder ρ where
  name := name
  kubeNamespace := kubeNamespace
  labels := labels
  listenerClass := listenerClass
  ports := containerPortToListenerPort (applyOptions options).containerPorts
  extraPodSelectorLabels := (applyOptions options).extraPodSelectorLabels
  publishNotReadyAddress := (applyOptions options).publishNotReadyAddresses

/-- The builder and the label maps that it and its callers have.  Names stand for maps, those of the
builder in particular. -/
structure BuilderState (ρ : Type) where
  maps : ρ → Option (Map String String)
  builder : SharedBuilder ρ
  labels_live : (maps builder.labels).isSome
  extra_live : builder.extraPodSelectorLabels.all (fun e => (maps e).isSome)

/-- The calls; those that make a map have its name. -/
inductive Call (ρ : Type) where
  | setListenerClass (listenerClass : String)
  | setPorts (ports : List ListenerPort)
  | setExtraPodSelectorLabels (labels : Option ρ)
  | setPublishNotReadyAddresses (publishNotReadyAddresses : Bool)
  | addPort (port : ListenerPort)
  | addExtraPodSelectorLabel (new : ρ) (key value : String)
  | getObject (new : ρ)

namespace Call

variable {ρ : Type}

def classSet : Call ρ → Option String
  | .setListenerClass listenerClass => some listenerClass
  | _ => none

def portsSet : Call ρ → Option (List ListenerPort)
  | .setPorts ports => some ports
  | _ => none

def extraSet : Call ρ → Option (Option ρ)
  | .setExtraPodSelectorLabels labels => some labels
  | _ => none

def publishSet : Call ρ → Option Bool
  | .setPublishNotReadyAddresses b => some b
  | _ => none

def portAdded : Call ρ → Option ListenerPort
  | .addPort port => some port
  | _ => none

def labelAdded : Call ρ → Option (String × String)
  | .addExtraPodSelectorLabel _ key value => some (key, value)
  | _ => none

def isGetObject : Call ρ → Bool
  | .getObject _ => true
  | _ => false

/-- The maps that the call is given. -/
def given : Call ρ → List ρ
  | .setExtraPodSelectorLabels labels => labels.toList
  | _ => []

/-- The maps that it makes. -/
def made : Call ρ → List ρ
  | .addExtraPodSelectorLabel new _ _ => [new]
  | .getObject new => [new]
  | _ => []

def names (c : Call ρ) : List ρ := c.given ++ c.made

end Call

namespace BuilderState

variable {ρ : Type}

theorem isSome_of_extra {σ : BuilderState ρ} {e : ρ} (h : σ.builder.extraPodSelectorLabels = some e) :
    (σ.maps e).isSome := by
  have hlive := σ.extra_live
  rw [h] at hlive
  exact hlive

/-- The builder with the contents of its maps. -/
def value (σ : BuilderState ρ) : GenericBuilder where
  name := σ.builder.name
  kubeNamespace := σ.builder.kubeNamespace
  baseLabels := (σ.maps σ.builder.labels).getD Map.empty
  listenerClass := σ.builder.listenerClass
  ports := σ.builder.ports
  extraPodSelectorLabels := σ.builder.extraPodSelectorLabels.bind σ.maps
  publishNotReadyAddress := σ.builder.publishNotReadyAddress

/-- The entries of the extra labels; a nil map has none. -/
def extraContents (σ : BuilderState ρ) : Map String String :=
  σ.value.extraPodSelectorLabels.getD Map.empty

/-! ### The operations -/

def setListenerClass (σ : BuilderState ρ) (listenerClass : String) : BuilderState ρ :=
  { σ with builder := { σ.builder with listenerClass := listenerClass } }

def setPorts (σ : BuilderState ρ) (ports : List ListenerPort) : BuilderState ρ :=
  { σ with builder := { σ.builder with ports := ports } }

def setExtraPodSelectorLabels (σ : BuilderState ρ) (labels : Option ρ)
    (h : labels.all (fun e => (σ.maps e).isSome)) : BuilderState ρ :=
  { σ with builder := { σ.builder with extraPodSelectorLabels := labels }, extra_live := h }

def setPublishNotReadyAddresses (σ : BuilderState ρ) (b : Bool) : BuilderState ρ :=
  { σ with builder := { σ.builder with publishNotReadyAddress := b } }

def addPort (σ : BuilderState ρ) (port : ListenerPort) : BuilderState ρ :=
  { σ with builder := { σ.builder with ports := σ.builder.ports ++ [port] } }

theorem labels_ne_new {σ : BuilderState ρ} {new : ρ} (hnew : σ.maps new = none) : σ.builder.labels ≠ new := by
  rintro rfl
  have hlive := σ.labels_live
  rw [hnew] at hlive
  cases hlive

theorem extra_ne_new {σ : BuilderState ρ} {new e : ρ} (hnew : σ.maps new = none)
    (he : σ.builder.extraPodSelectorLabels = some e) : e ≠ new := by
  rintro rfl
  have hlive := isSome_of_extra he
  rw [hnew] at hlive
  cases hlive

variable [DecidableEq ρ]

/-- The maps when the extra ones have been made, if they were nil. -/
def mapsWithExtra (σ : BuilderState ρ) (new : ρ) : ρ → Option (Map String String) :=
  if σ.builder.extraPodSelectorLabels.isNone then Function.update σ.maps new (some Map.empty) else σ.maps

theorem isSome_update {maps : ρ → Option (Map String String)} {v : Option (Map String String)} {r x : ρ}
    (hv : v.isSome) (hx : (maps x).isSome) : (Function.update maps r v x).isSome := by
  rw [Function.update_apply]
  split
  · exact hv
  · exact hx

theorem isSome_mapsWithExtra {σ : BuilderState ρ} {new r : ρ} (h : (σ.maps r).isSome) :
    (σ.mapsWithExtra new r).isSome := by
  unfold mapsWithExtra
  split_ifs
  · exact isSome_update rfl h
  · exact h

theorem isSome_mapsWithExtra_getD (σ : BuilderState ρ) (new : ρ) :
    (σ.mapsWithExtra new (σ.builder.extraPodSelectorLabels.getD new)).isSome := by
  cases he : σ.builder.extraPodSelectorLabels with
  | none => simp [mapsWithExtra, he]
  | some e => exact isSome_mapsWithExtra (isSome_of_extra he)

def addExtraPodSelectorLabel (σ : BuilderState ρ) (new : ρ) (key value : String) : BuilderState ρ :=
  { σ with
    maps := modifyAt (σ.mapsWithExtra new) (σ.builder.extraPodSelectorLabels.getD new) (·.set key value)
    builder :=
      { σ.builder with extraPodSelectorLabels := some (σ.builder.extraPodSelectorLabels.getD new) }
    labels_live := isSome_modifyAt.trans (isSome_mapsWithExtra σ.labels_live)
    extra_live := isSome_modifyAt.trans (σ.isSome_mapsWithExtra_getD new) }

/-- The maps when the labels have been cloned and the extra ones written to the clone. -/
def mapsWithClone (o : Orders) (σ : BuilderState ρ) (new : ρ) : ρ → Option (Map String String) :=
  let maps := Function.update σ.maps new (σ.maps σ.builder.labels)
  match σ.builder.extraPodSelectorLabels with
  | none => maps
  | some e => (o.entries.list ((maps e).getD Map.empty)).foldl
      (fun maps entry => modifyAt maps new (·.set entry.1 entry.2)) maps

theorem mapsWithClone_of_none {o : Orders} {σ : BuilderState ρ} {new : ρ}
    (h : σ.builder.extraPodSelectorLabels = none) :
    σ.mapsWithClone o new = Function.update σ.maps new (σ.maps σ.builder.labels) := by
  rw [mapsWithClone, h]

/-- The loop over the extra labels writes them all to the clone. -/
theorem mapsWithClone_of_some {o : Orders} {σ : BuilderState ρ} {new e : ρ}
    (h : σ.builder.extraPodSelectorLabels = some e) :
    σ.mapsWithClone o new = modifyAt (Function.update σ.maps new (σ.maps σ.builder.labels)) new
      (fun m => m.copy (o.entries.list
        ((Function.update σ.maps new (σ.maps σ.builder.labels) e).getD Map.empty))) := by
  rw [mapsWithClone, h]
  exact foldl_modifyAt (fun (m : Map String String) (entry : String × String) => m.set entry.1 entry.2) _ _

theorem isSome_mapsWithClone {o : Orders} {σ : BuilderState ρ} {new r : ρ} (h : (σ.maps r).isSome) :
    (σ.mapsWithClone o new r).isSome := by
  have hclone := isSome_update (r := new) σ.labels_live h
  cases he : σ.builder.extraPodSelectorLabels with
  | none => rwa [mapsWithClone_of_none he]
  | some e => rwa [mapsWithClone_of_some he, isSome_modifyAt]

/-- `GetObject`, and the maps it leaves.  The flag for addresses that are not ready is not read. -/
def getObject (o : Orders) (σ : BuilderState ρ) (new : ρ) : ListenerObject × BuilderState ρ :=
  ({ name := σ.builder.name
     kubeNamespace := σ.builder.kubeNamespace
     labels := (σ.mapsWithClone o new new).getD Map.empty
     className := σ.builder.listenerClass
     ports := σ.builder.ports
     ingressAddresses := none
     publishNotReadyAddresses := none },
   { σ with
     maps := σ.mapsWithClone o new
     labels_live := isSome_mapsWithClone σ.labels_live
     extra_live := by
       cases h : σ.builder.extraPodSelectorLabels with
       | none => rfl
       | some e => exact isSome_mapsWithClone (isSome_of_extra h) })

/-- One call.  There is none with the name of a new map in use, or with one that no map has. -/
def step (o : Orders) (σ : BuilderState ρ) : Call ρ → Option (BuilderState ρ)
  | .setListenerClass c => some (σ.setListenerClass c)
  | .setPorts ports => some (σ.setPorts ports)
  | .setExtraPodSelectorLabels labels =>
      if h : labels.all (fun e => (σ.maps e).isSome) then some (σ.setExtraPodSelectorLabels labels h)
      else none
  | .setPublishNotReadyAddresses b => some (σ.setPublishNotReadyAddresses b)
  | .addPort port => some (σ.addPort port)
  | .addExtraPodSelectorLabel new key value =>
      if (σ.maps new).isNone then some (σ.addExtraPodSelectorLabel new key value) else none
  | .getObject new => if (σ.maps new).isNone then some (σ.getObject o new).2 else none

def run (o : Orders) (σ : BuilderState ρ) (calls : List (Call ρ)) : Option (BuilderState ρ) :=
  calls.foldlM (step o) σ

/-! ### What the operations do to the maps -/

section Maps

variable {o : Orders} {σ : BuilderState ρ} {new : ρ}

theorem mapsWithClone_ne {r : ρ} (h : r ≠ new) : σ.mapsWithClone o new r = σ.maps r := by
  cases he : σ.builder.extraPodSelectorLabels with
  | none => rw [mapsWithClone_of_none he, Function.update_of_ne h]
  | some e => rw [mapsWithClone_of_some he, modifyAt_ne h, Function.update_of_ne h]

/-- `GetObject` changes no map that was there. -/
theorem getObject_maps_ne {r : ρ} (h : r ≠ new) : (σ.getObject o new).2.maps r = σ.maps r :=
  mapsWithClone_ne h

/-- The clone has the labels of the value-level builder. -/
theorem mapsWithClone_new (hnew : σ.maps new = none) :
    σ.mapsWithClone o new new = some (σ.value.getObject o).labels := by
  obtain ⟨base, hbase⟩ := Option.isSome_iff_exists.mp σ.labels_live
  cases hextra : σ.builder.extraPodSelectorLabels with
  | none =>
      rw [mapsWithClone_of_none hextra, Function.update_self, hbase]
      simp [GenericBuilder.getObject, value, hextra, hbase]
  | some e =>
      obtain ⟨extra, he⟩ := Option.isSome_iff_exists.mp (isSome_of_extra hextra)
      rw [mapsWithClone_of_some hextra, modifyAt_self, Function.update_self,
        Function.update_of_ne (extra_ne_new hnew hextra), hbase, he]
      simp [GenericBuilder.getObject, value, hextra, hbase, he]

/-- Up to the new field, `GetObject` is that of the builder with the contents of its maps. -/
theorem getObject_toListener (hnew : σ.maps new = none) :
    (σ.getObject o new).1.toListener = σ.value.getObject o := by
  rw [getObject, mapsWithClone_new hnew]
  rfl

/-- It leaves the builder and the contents of its maps as they were. -/
theorem getObject_value (hnew : σ.maps new = none) : (σ.getObject o new).2.value = σ.value := by
  have hlabels : σ.mapsWithClone o new σ.builder.labels = σ.maps σ.builder.labels :=
    mapsWithClone_ne (labels_ne_new hnew)
  have hextra : σ.builder.extraPodSelectorLabels.bind (σ.mapsWithClone o new) =
      σ.builder.extraPodSelectorLabels.bind σ.maps := by
    cases he : σ.builder.extraPodSelectorLabels with
    | none => rfl
    | some e => exact mapsWithClone_ne (extra_ne_new hnew he)
  simp only [value, getObject, hlabels, hextra]

theorem mapsWithExtra_ne {r : ρ} (h : r ≠ new) : σ.mapsWithExtra new r = σ.maps r := by
  unfold mapsWithExtra
  split_ifs
  · exact Function.update_of_ne h _ _
  · rfl

theorem addExtra_maps_ne {r : ρ} (h : r ≠ σ.builder.extraPodSelectorLabels.getD new) (hnew : r ≠ new)
    (key v : String) : (σ.addExtraPodSelectorLabel new key v).maps r = σ.maps r :=
  (modifyAt_ne h).trans (mapsWithExtra_ne hnew)

/-- A label that is added is written to the extra labels. -/
theorem extraContents_addExtra (key v : String) :
    (σ.addExtraPodSelectorLabel new key v).extraContents = σ.extraContents.set key v := by
  cases he : σ.builder.extraPodSelectorLabels with
  | none => simp [extraContents, value, addExtraPodSelectorLabel, mapsWithExtra, he, modifyAt_self]
  | some e =>
      obtain ⟨extra, hm⟩ := Option.isSome_iff_exists.mp (isSome_of_extra he)
      simp [extraContents, value, addExtraPodSelectorLabel, mapsWithExtra, he, modifyAt_self, hm]

end Maps

/-! ### What one call does -/

section Step

variable {o : Orders} {σ σ' : BuilderState ρ} {c : Call ρ} {new : ρ}

theorem step_setExtra {labels : Option ρ}
    (h : σ.step o (.setExtraPodSelectorLabels labels) = some σ') :
    ∃ hl, σ.setExtraPodSelectorLabels labels hl = σ' := by
  simp only [step, Option.dite_none_right_eq_some, Option.some.injEq] at h
  exact h

theorem step_addExtra {key value : String}
    (h : σ.step o (.addExtraPodSelectorLabel new key value) = some σ') :
    σ.maps new = none ∧ σ.addExtraPodSelectorLabel new key value = σ' := by
  simp only [step, Option.ite_none_right_eq_some, Option.isNone_iff_eq_none, Option.some.injEq] at h
  exact h

theorem step_getObject (h : σ.step o (.getObject new) = some σ') :
    σ.maps new = none ∧ (σ.getObject o new).2 = σ' := by
  simp only [step, Option.ite_none_right_eq_some, Option.isNone_iff_eq_none, Option.some.injEq] at h
  exact h

/-- A call can be made whenever the maps it is given are there and the names of those it makes are
not: nothing in the builder fails. -/
theorem step_isSome_iff : (σ.step o c).isSome ↔
    (∀ r ∈ c.given, (σ.maps r).isSome) ∧ ∀ r ∈ c.made, σ.maps r = none := by
  cases c with
  | setExtraPodSelectorLabels labels => cases labels <;> simp [step, Call.given, Call.made]
  | addExtraPodSelectorLabel new key value => simp [step, Call.given, Call.made]
  | getObject new => simp [step, Call.given, Call.made]
  | setListenerClass | setPorts | setPublishNotReadyAddresses | addPort =>
      simp [step, Call.given, Call.made]

/-- The fields of the builder that are not maps. -/
theorem step_builder (h : σ.step o c = some σ') :
    σ'.builder.labels = σ.builder.labels ∧
      σ'.builder.listenerClass = c.classSet.getD σ.builder.listenerClass ∧
      σ'.builder.ports = c.portsSet.getD (σ.builder.ports ++ c.portAdded.toList) ∧
      σ'.builder.publishNotReadyAddress = c.publishSet.getD σ.builder.publishNotReadyAddress := by
  cases c with
  | setListenerClass listenerClass =>
      obtain rfl := Option.some.inj h
      exact ⟨rfl, rfl, (List.append_nil _).symm, rfl⟩
  | setPorts ports =>
      obtain rfl := Option.some.inj h
      exact ⟨rfl, rfl, rfl, rfl⟩
  | setExtraPodSelectorLabels labels =>
      obtain ⟨-, rfl⟩ := step_setExtra h
      exact ⟨rfl, rfl, (List.append_nil _).symm, rfl⟩
  | setPublishNotReadyAddresses b =>
      obtain rfl := Option.some.inj h
      exact ⟨rfl, rfl, (List.append_nil _).symm, rfl⟩
  | addPort port =>
      obtain rfl := Option.some.inj h
      exact ⟨rfl, rfl, rfl, rfl⟩
  | addExtraPodSelectorLabel new key value =>
      obtain ⟨-, rfl⟩ := step_addExtra h
      exact ⟨rfl, rfl, (List.append_nil _).symm, rfl⟩
  | getObject new =>
      obtain ⟨-, rfl⟩ := step_getObject h
      exact ⟨rfl, rfl, (List.append_nil _).symm, rfl⟩

/-- A call that does not set the extra labels adds what it adds to them. -/
theorem step_extraContents (h : σ.step o c = some σ') (hset : c.extraSet = none) :
    σ'.extraContents = σ.extraContents.copy c.labelAdded.toList := by
  cases c with
  | setExtraPodSelectorLabels labels => cases hset
  | addExtraPodSelectorLabel new key value =>
      obtain ⟨-, rfl⟩ := step_addExtra h
      exact extraContents_addExtra key value
  | getObject new =>
      obtain ⟨hnew, rfl⟩ := step_getObject h
      unfold extraContents
      rw [getObject_value hnew]
      rfl
  | setListenerClass | setPorts | setPublishNotReadyAddresses | addPort =>
      obtain rfl := Option.some.inj h
      rfl

/-- No map goes away. -/
theorem step_live (h : σ.step o c = some σ') {r : ρ} (hr : (σ.maps r).isSome) :
    (σ'.maps r).isSome := by
  cases c with
  | setExtraPodSelectorLabels labels =>
      obtain ⟨-, rfl⟩ := step_setExtra h
      exact hr
  | addExtraPodSelectorLabel new key value =>
      obtain ⟨-, rfl⟩ := step_addExtra h
      exact isSome_modifyAt.trans (isSome_mapsWithExtra hr)
  | getObject new =>
      obtain ⟨-, rfl⟩ := step_getObject h
      exact isSome_mapsWithClone hr
  | setListenerClass | setPorts | setPublishNotReadyAddresses | addPort =>
      obtain rfl := Option.some.inj h
      exact hr

/-- The labels of the builder stay as they are, as long as they are not the extra labels, too. -/
theorem step_ownLabels (h : σ.step o c = some σ')
    (hextra : σ.builder.extraPodSelectorLabels ≠ some σ.builder.labels)
    (hset : c.extraSet ≠ some (some σ.builder.labels)) :
    σ'.maps σ.builder.labels = σ.maps σ.builder.labels ∧
      σ'.builder.extraPodSelectorLabels ≠ some σ.builder.labels := by
  cases c with
  | setExtraPodSelectorLabels labels =>
      obtain ⟨-, rfl⟩ := step_setExtra h
      exact ⟨rfl, fun he => hset (congrArg some he)⟩
  | addExtraPodSelectorLabel new key value =>
      obtain ⟨hnew, rfl⟩ := step_addExtra h
      have hne : σ.builder.labels ≠ σ.builder.extraPodSelectorLabels.getD new := by
        cases he : σ.builder.extraPodSelectorLabels with
        | none => exact labels_ne_new hnew
        | some e =>
            rintro rfl
            exact hextra he
      exact ⟨addExtra_maps_ne hne (labels_ne_new hnew) key value,
        fun he => hne (Option.some.inj he).symm⟩
  | getObject new =>
      obtain ⟨hnew, rfl⟩ := step_getObject h
      exact ⟨getObject_maps_ne (labels_ne_new hnew), hextra⟩
  | setListenerClass | setPorts | setPublishNotReadyAddresses | addPort =>
      obtain rfl := Option.some.inj h
      exact ⟨rfl, hextra⟩

end Step

/-! ### What a run leaves -/

/-- The builder as the history of its calls has it. -/
structure Tracks (o : Orders) (σ₀ : BuilderState ρ) (calls : List (Call ρ)) (σ : BuilderState ρ) :
    Prop where
  labels : σ.builder.labels = σ₀.builder.labels
  listenerClass : σ.builder.listenerClass = lastSet Call.classSet σ₀.builder.listenerClass calls
  ports : σ.builder.ports = lastSet Call.portsSet σ₀.builder.ports calls
    ++ (since Call.portsSet calls).filterMap Call.portAdded
  publish : σ.builder.publishNotReadyAddress =
    lastSet Call.publishSet σ₀.builder.publishNotReadyAddress calls
  extra : ∃ τ, run o σ₀ (upToLast Call.extraSet calls) = some τ ∧
    σ.extraContents = τ.extraContents.copy ((since Call.extraSet calls).filterMap Call.labelAdded)

theorem copy_append (m : Map String String) (l l' : List (String × String)) :
    m.copy (l ++ l') = (m.copy l).copy l' := List.foldl_append

section Run

variable {o : Orders} {σ₀ σ τ : BuilderState ρ} {calls : List (Call ρ)}

theorem Tracks.next {c : Call ρ} (hrun : run o σ₀ (calls ++ [c]) = some σ) (h : Tracks o σ₀ calls τ)
    (hstep : τ.step o c = some σ) : Tracks o σ₀ (calls ++ [c]) σ := by
  obtain ⟨hlabels, hclass, hports, hpublish⟩ := step_builder hstep
  constructor
  case labels => exact hlabels.trans h.labels
  case listenerClass => rw [lastSet_snoc, hclass, h.listenerClass]
  case publish => rw [lastSet_snoc, hpublish, h.publish]
  case ports =>
    rw [hports, lastSet_snoc]
    cases hset : c.portsSet with
    | none =>
        rw [since_snoc_other hset, List.filterMap_append, h.ports, Option.getD_none, Option.getD_none,
          List.append_assoc]
        cases hadded : c.portAdded <;> simp [hadded]
    | some ports => rw [since_snoc_set hset, List.filterMap_nil, List.append_nil]; rfl
  case extra =>
    cases hset : c.extraSet with
    | none =>
        obtain ⟨τ₀, hτ₀, hcontents⟩ := h.extra
        refine ⟨τ₀, by rwa [upToLast_snoc_other hset], ?_⟩
        rw [since_snoc_other hset, List.filterMap_append, copy_append, ← hcontents,
          step_extraContents hstep hset]
        cases hadded : c.labelAdded <;> simp [hadded]
    | some labels =>
        refine ⟨σ, by rwa [upToLast_snoc_set hset], ?_⟩
        rw [since_snoc_set hset]
        rfl

/-- Every run leaves what the history of its calls says. -/
theorem run_tracks (h : run o σ₀ calls = some σ) : Tracks o σ₀ calls σ := by
  refine run_induction (P := fun calls σ => Tracks o σ₀ calls σ) ?_ ?_ h
  · exact ⟨rfl, rfl, (List.append_nil _).symm, rfl, σ₀, rfl, rfl⟩
  · intro calls τ c σ hτ htracks hstep
    exact htracks.next (run_snoc.mpr ⟨τ, hτ, hstep⟩) hstep

/-- The labels of the builder are those it had, unless they were given to it as extra labels. -/
theorem run_ownLabels (h : run o σ₀ calls = some σ)
    (hextra : σ₀.builder.extraPodSelectorLabels ≠ some σ₀.builder.labels)
    (hset : .setExtraPodSelectorLabels (some σ₀.builder.labels) ∉ calls) :
    σ.maps σ₀.builder.labels = σ₀.maps σ₀.builder.labels := by
  refine (run_induction (P := fun calls σ =>
    .setExtraPodSelectorLabels (some σ₀.builder.labels) ∉ calls →
      σ.maps σ₀.builder.labels = σ₀.maps σ₀.builder.labels ∧
        σ.builder.labels = σ₀.builder.labels ∧
        σ.builder.extraPodSelectorLabels ≠ some σ₀.builder.labels) ?_ ?_ h hset).1
  · exact fun _ => ⟨rfl, rfl, hextra⟩
  · intro calls τ c σ hτ ih hstep hset
    rw [List.mem_append, not_or, List.mem_singleton] at hset
    obtain ⟨hmaps, hlabels, hne⟩ := ih hset.1
    have hc : c.extraSet ≠ some (some τ.builder.labels) := by
      rw [hlabels]
      cases c with
      | setExtraPodSelectorLabels labels =>
          intro he
          exact hset.2 (congrArg _ (Option.some.inj he).symm)
      | _ => exact fun he => nomatch he
    obtain ⟨hmaps', hne'⟩ := step_ownLabels hstep (hlabels ▸ hne) hc
    rw [hlabels] at hmaps' hne'
    exact ⟨hmaps'.trans hmaps, (step_builder hstep).1.trans hlabels, hne'⟩

theorem run_live (h : run o σ₀ calls = some σ) {r : ρ} (hr : (σ₀.maps r).isSome) :
    (σ.maps r).isSome :=
  run_induction (P := fun _ σ => (σ.maps r).isSome) hr (fun _ _ _ _ _ ih hstep => step_live hstep ih) h

end Run

/-! ### The calls of `GetObject` leave no trace -/

/-- The states differ in maps that the builder does not have. -/
structure Resembles (hidden : Set ρ) (σ τ : BuilderState ρ) : Prop where
  builder : σ.builder = τ.builder
  maps : ∀ r ∉ hidden, σ.maps r = τ.maps r
  labels : σ.builder.labels ∉ hidden
  extra : ∀ e, σ.builder.extraPodSelectorLabels = some e → e ∉ hidden

section Resembles

variable {o : Orders} {hidden : Set ρ} {σ σ' τ : BuilderState ρ} {calls : List (Call ρ)}

omit [DecidableEq ρ] in
theorem Resembles.value (h : Resembles hidden σ τ) : τ.value = σ.value := by
  have hlabels := h.maps _ h.labels
  have hextra : σ.builder.extraPodSelectorLabels.bind σ.maps =
      σ.builder.extraPodSelectorLabels.bind τ.maps := by
    cases he : σ.builder.extraPodSelectorLabels with
    | none => rfl
    | some e => exact h.maps e (h.extra e he)
  simp only [BuilderState.value, ← h.builder, hlabels, hextra]

theorem Resembles.setExtra (h : Resembles hidden σ τ) {labels : Option ρ}
    (hvisible : ∀ e, labels = some e → e ∉ hidden)
    (hstep : σ.step o (.setExtraPodSelectorLabels labels) = some σ') :
    ∃ τ', τ.step o (.setExtraPodSelectorLabels labels) = some τ' ∧ Resembles hidden σ' τ' := by
  obtain ⟨hl, rfl⟩ := step_setExtra hstep
  have hl' : labels.all (fun e => (τ.maps e).isSome) := by
    cases labels with
    | none => rfl
    | some e =>
        rw [Option.all_some, ← h.maps e (hvisible e rfl)]
        exact hl
  refine ⟨τ.setExtraPodSelectorLabels labels hl', dif_pos hl', ?_⟩
  exact ⟨congrArg (fun b => { b with extraPodSelectorLabels := labels }) h.builder, h.maps, h.labels,
    hvisible⟩

theorem Resembles.mapsWithExtra (h : Resembles hidden σ τ) (new : ρ) {r : ρ} (hr : r ∉ hidden) :
    σ.mapsWithExtra new r = τ.mapsWithExtra new r := by
  unfold BuilderState.mapsWithExtra
  rw [← h.builder]
  split_ifs
  · rw [Function.update_apply, Function.update_apply, h.maps r hr]
  · exact h.maps r hr

theorem Resembles.addExtra (h : Resembles hidden σ τ) {new : ρ} (hvisible : new ∉ hidden)
    {key v : String} (hstep : σ.step o (.addExtraPodSelectorLabel new key v) = some σ') :
    ∃ τ', τ.step o (.addExtraPodSelectorLabel new key v) = some τ' ∧ Resembles hidden σ' τ' := by
  obtain ⟨hnew, rfl⟩ := step_addExtra hstep
  have hnew' : τ.maps new = none := (h.maps new hvisible).symm.trans hnew
  refine ⟨τ.addExtraPodSelectorLabel new key v, if_pos (Option.isNone_iff_eq_none.mpr hnew'), ?_⟩
  constructor
  case builder =>
    exact congrArg (fun b : SharedBuilder ρ =>
      { b with extraPodSelectorLabels := some (b.extraPodSelectorLabels.getD new) }) h.builder
  case maps =>
    intro r hr
    simp only [addExtraPodSelectorLabel, modifyAt, ← h.builder, h.mapsWithExtra new hr]
  case labels => exact h.labels
  case extra =>
    rintro e ⟨⟩
    cases he : σ.builder.extraPodSelectorLabels with
    | none => exact hvisible
    | some e => exact h.extra e he

/-- A setter that is given no hidden map does the same in both states. -/
theorem Resembles.setter (h : Resembles hidden σ τ) {c : Call ρ} (hc : c.isGetObject = false)
    (hnames : ∀ r ∈ c.names, r ∉ hidden) (hstep : σ.step o c = some σ') :
    ∃ τ', τ.step o c = some τ' ∧ Resembles hidden σ' τ' := by
  cases c with
  | getObject new => cases hc
  | setExtraPodSelectorLabels labels =>
      refine h.setExtra (fun e he => ?_) hstep
      subst he
      exact hnames e (List.mem_singleton_self e)
  | addExtraPodSelectorLabel new key v =>
      exact h.addExtra (hnames new (List.mem_singleton_self new)) hstep
  | setListenerClass c =>
      obtain rfl := Option.some.inj hstep
      exact ⟨_, rfl, congrArg (fun b => { b with listenerClass := c }) h.builder, h.maps, h.labels, h.extra⟩
  | setPorts ports =>
      obtain rfl := Option.some.inj hstep
      exact ⟨_, rfl, congrArg (fun b => { b with ports := ports }) h.builder, h.maps, h.labels, h.extra⟩
  | setPublishNotReadyAddresses b =>
      obtain rfl := Option.some.inj hstep
      exact ⟨_, rfl, congrArg (fun g => { g with publishNotReadyAddress := b }) h.builder, h.maps,
        h.labels, h.extra⟩
  | addPort port =>
      obtain rfl := Option.some.inj hstep
      exact ⟨_, rfl, congrArg (fun b : SharedBuilder ρ => { b with ports := b.ports ++ [port] }) h.builder,
        h.maps, h.labels, h.extra⟩

/-- `GetObject` makes a hidden map. -/
theorem Resembles.getObject (h : Resembles hidden σ τ) {new : ρ} (hnew : new ∈ hidden)
    (hstep : σ.step o (.getObject new) = some σ') : Resembles hidden σ' τ := by
  obtain ⟨-, rfl⟩ := step_getObject hstep
  refine ⟨h.builder, fun r hr => ?_, h.labels, h.extra⟩
  have hne : r ≠ new := by
    rintro rfl
    exact hr hnew
  exact (getObject_maps_ne hne).trans (h.maps r hr)

theorem Resembles.run (h : Resembles hidden σ τ)
    (hcalls : ∀ c ∈ calls, ∀ r ∈ c.names, if c.isGetObject then r ∈ hidden else r ∉ hidden)
    (hrun : σ.run o calls = some σ') :
    ∃ τ', τ.run o (calls.filter (fun c => !c.isGetObject)) = some τ' ∧ Resembles hidden σ' τ' := by
  induction calls generalizing σ τ with
  | nil =>
      obtain rfl := Option.some.inj hrun
      exact ⟨τ, rfl, h⟩
  | cons c calls ih =>
      obtain ⟨σ₁, hstep, hnext⟩ := Option.bind_eq_some_iff.mp hrun
      have hc := hcalls c List.mem_cons_self
      have hrest := fun x hx => hcalls x (List.mem_cons_of_mem c hx)
      cases hget : c.isGetObject with
      | true =>
          rw [List.filter_cons_of_neg (by simp [hget])]
          cases c with
          | getObject new =>
              exact ih (h.getObject (hc new (List.mem_singleton_self new)) hstep) hrest hnext
          | _ => cases hget
      | false =>
          obtain ⟨τ₁, hτ₁, h₁⟩ := h.setter hget (fun r hr => by simpa [hget] using hc r hr) hstep
          obtain ⟨τ', hτ', h'⟩ := ih h₁ hrest hnext
          refine ⟨τ', ?_, h'⟩
          rw [List.filter_cons_of_pos (by simp [hget])]
          exact Option.bind_eq_some_iff.mpr ⟨τ₁, hτ₁, hτ'⟩

/-- The name of a map that `GetObject` makes was not in use before. -/
theorem new_of_mem_run (hrun : σ.run o calls = some σ') {new : ρ} (hmem : .getObject new ∈ calls) :
    σ.maps new = none := by
  obtain ⟨before, after, rfl⟩ := List.append_of_mem hmem
  rw [BuilderState.run, List.foldlM_append] at hrun
  obtain ⟨τ, hbefore, hafter⟩ := Option.bind_eq_some_iff.mp hrun
  obtain ⟨τ', hstep, -⟩ := Option.bind_eq_some_iff.mp hafter
  have hnew := (step_getObject hstep).1
  by_contra hne
  have hlive := run_live hbefore (Option.isSome_iff_ne_none.mpr hne)
  rw [hnew] at hlive
  cases hlive

/-- Without the calls of `GetObject` the builder is left as it is with them, if the maps of their
results are not used. -/
theorem run_without_getObject (hrun : σ.run o calls = some σ')
    (hunused : ∀ new, .getObject new ∈ calls → ∀ c ∈ calls, c.isGetObject = false → new ∉ c.names) :
    ∃ τ, σ.run o (calls.filter (fun c => !c.isGetObject)) = some τ ∧ τ.value = σ'.value := by
  have hself : Resembles {new | .getObject new ∈ calls} σ σ := by
    refine ⟨rfl, fun _ _ => rfl, fun hmem => ?_, fun e he hmem => ?_⟩
    · exact labels_ne_new (new_of_mem_run hrun hmem) rfl
    · exact extra_ne_new (new_of_mem_run hrun hmem) he rfl
  have hcalls : ∀ c ∈ calls, ∀ r ∈ c.names, if c.isGetObject then r ∈ {new | .getObject new ∈ calls}
      else r ∉ {new | .getObject new ∈ calls} := by
    intro c hc r hr
    cases hget : c.isGetObject with
    | false =>
        rw [if_neg Bool.false_ne_true]
        exact fun hmem => hunused r hmem c hc hget hr
    | true =>
        rw [if_pos rfl]
        cases c with
        | getObject new =>
            obtain rfl := List.mem_singleton.mp hr
            exact hc
        | _ => cases hget
  obtain ⟨τ, hτ, hresembles⟩ := hself.run hcalls hrun
  exact ⟨τ, hτ, hresembles.value⟩

end Resembles

/-! ### Nothing is lost but one flag -/

/-- What `GetObject` returns after the calls `calls`, which led from `σ₀` to `σ`: the last class, the
last ports and those added since, the labels of the builder below the extra labels last set, as they
were then, and those added since, and the last flag, where `absent` is the flag that an unset field
stands for.  And it changes neither the builder, nor the maps there are, nor what comes later. -/
structure LosesNothing (o : Orders) (absent : Bool) (σ₀ : BuilderState ρ) (calls : List (Call ρ))
    (σ : BuilderState ρ) (new : ρ) : Prop where
  className : (σ.getObject o new).1.className =
    lastSet Call.classSet σ₀.builder.listenerClass calls
  ports : (σ.getObject o new).1.ports = lastSet Call.portsSet σ₀.builder.ports calls
    ++ (since Call.portsSet calls).filterMap Call.portAdded
  labels : ∃ τ, run o σ₀ (upToLast Call.extraSet calls) = some τ ∧
    ∀ key, (σ.getObject o new).1.labels.get key =
      ((τ.extraContents.copy ((since Call.extraSet calls).filterMap Call.labelAdded)).get key).or
        (σ.value.baseLabels.get key)
  baseLabels : σ₀.builder.extraPodSelectorLabels ≠ some σ₀.builder.labels →
    .setExtraPodSelectorLabels (some σ₀.builder.labels) ∉ calls →
    σ.value.baseLabels = σ₀.value.baseLabels
  publish : (σ.getObject o new).1.publishNotReadyAddresses.getD absent =
    lastSet Call.publishSet σ₀.builder.publishNotReadyAddress calls
  builderKept : (σ.getObject o new).2.builder = σ.builder
  mapsKept : ∀ r ≠ new, (σ.getObject o new).2.maps r = σ.maps r
  noTrace : (∀ r, .getObject r ∈ calls → ∀ c ∈ calls, c.isGetObject = false → r ∉ c.names) →
    ∃ τ, run o σ₀ (calls.filter (fun c => !c.isGetObject)) = some τ ∧
      τ.value.baseLabels = σ.value.baseLabels ∧
      ∀ new', τ.maps new' = none → (τ.getObject o new').1 = (σ.getObject o new).1

theorem getObject_fst {o : Orders} {σ : BuilderState ρ} {new : ρ} (hnew : σ.maps new = none) :
    (σ.getObject o new).1 = ⟨σ.value.getObject o, none⟩ :=
  congrArg (fun l => (⟨l, none⟩ : ListenerObject)) (getObject_toListener hnew)

omit [DecidableEq ρ] in
/-- The extra labels go over those of the builder. -/
theorem value_getObject_labels (o : Orders) (σ : BuilderState ρ) (key : String) :
    (σ.value.getObject o).labels.get key =
      (σ.extraContents.get key).or (σ.value.baseLabels.get key) := by
  unfold extraContents GenericBuilder.getObject
  cases σ.value.extraPodSelectorLabels with
  | none => simp
  | some extra => exact Map.get_copy (o.entries.ranges extra) _ key

/-- All of it holds for every run, but for the flag, which depends on how an unset field is read. -/
theorem losesNothing_of_publish {o : Orders} {absent : Bool} {σ₀ σ : BuilderState ρ}
    {calls : List (Call ρ)} (hrun : run o σ₀ calls = some σ) {new : ρ} (hnew : σ.maps new = none)
    (hpublish : lastSet Call.publishSet σ₀.builder.publishNotReadyAddress calls = absent) :
    LosesNothing o absent σ₀ calls σ new := by
  have htracks := run_tracks hrun
  constructor
  case className => exact htracks.listenerClass
  case ports => exact htracks.ports
  case labels =>
    obtain ⟨τ, hτ, hcontents⟩ := htracks.extra
    refine ⟨τ, hτ, fun key => ?_⟩
    rw [getObject_fst hnew, ← hcontents]
    exact value_getObject_labels o σ key
  case baseLabels =>
    intro hextra hset
    unfold value
    rw [htracks.labels, run_ownLabels hrun hextra hset]
  case publish => exact hpublish.symm
  case builderKept => rfl
  case mapsKept => exact fun r hr => getObject_maps_ne hr
  case noTrace =>
    intro hunused
    obtain ⟨τ, hτ, hvalue⟩ := run_without_getObject hrun hunused
    refine ⟨τ, hτ, by rw [hvalue], fun new' hnew' => ?_⟩
    rw [getObject_fst hnew', getObject_fst hnew, hvalue]

end BuilderState

open BuilderState

/-- **When the Listener builder loses no option.**  For all options and all sequences of calls, the
result of `GetObject` has everything that was set and added, exactly if the last value for addresses
that are not ready is the one that an unset field stands for: `GetObject` never sets it. -/
theorem loses_nothing_iff {ρ : Type} [DecidableEq ρ] (o : Orders) (absent : Bool)
    (maps : ρ → Option (Map String String)) (name kubeNamespace : String) (labels : ρ)
    (listenerClass : String) (options : List (ListenerBuilderOptions ρ → ListenerBuilderOptions ρ))
    (hlabels : (maps labels).isSome)
    (hextra : (applyOptions options).extraPodSelectorLabels.all (fun e => (maps e).isSome))
    (calls : List (Call ρ)) (σ : BuilderState ρ)
    (hrun : run o ⟨maps, newListenerBuilder name kubeNamespace labels listenerClass options, hlabels,
      hextra⟩ calls = some σ) (new : ρ) (hnew : σ.maps new = none) :
    LosesNothing o absent ⟨maps, newListenerBuilder name kubeNamespace labels listenerClass options,
        hlabels, hextra⟩ calls σ new ↔
      lastSet Call.publishSet (applyOptions options).publishNotReadyAddresses calls = absent :=
  ⟨fun h => h.publish.symm, fun h => losesNothing_of_publish hrun hnew h⟩

/-! ### The bootstrap Listener -/

/-- The option of `NewRoleGroupBootstrapListenerReconciler`; `extra` is the map it makes. -/
def bootstrapOption {ρ : Type} (k : KafkaSecurity) (extra : ρ) (lbo : ListenerBuilderOptions ρ) :
    ListenerBuilderOptions ρ :=
  { lbo with
    containerPorts := kafkaContainerPorts k
    publishNotReadyAddresses := true
    extraPodSelectorLabels := some extra }

/-- Its builder, with the labels as map `0` and the extra ones as map `1`. -/
def bootstrapState (op : OperatorGo) (ownerLabels : Map String String)
    (kubeNamespace bootstrapListenerClass : String) (info : RoleGroupInfo) (k : KafkaSecurity) :
    BuilderState ℕ where
  maps
    | 0 => some (op.objectMetaLabels ownerLabels (bootstrapListenerName info))
    | 1 => some (Map.ofList [(labelListenerBootstrap, labelValueTrue)])
    | _ => none
  builder := newListenerBuilder (bootstrapListenerName info) kubeNamespace 0 bootstrapListenerClass
    [bootstrapOption k 1]
  labels_live := rfl
  extra_live := rfl

/-- It is the builder of `Builders.lean`. -/
theorem bootstrapState_value (op : OperatorGo) (ownerLabels : Map String String)
    (kubeNamespace bootstrapListenerClass : String) (info : RoleGroupInfo) (k : KafkaSecurity) :
    (bootstrapState op ownerLabels kubeNamespace bootstrapListenerClass info k).value =
      newRoleGroupBootstrapListener op ownerLabels kubeNamespace bootstrapListenerClass info k := rfl

/-- The builder of a cluster without security. -/
def plainBootstrap : BuilderState ℕ :=
  bootstrapState (.reference fun _ => false) Map.empty "default" "cluster-internal"
    ⟨"kafkacluster-sample", roleName, "default"⟩ ⟨[], "", "", "", "", none⟩

/-- A port and a label are added and a Listener is built in between. -/
def plainCalls : List (Call ℕ) :=
  [.addPort ⟨"jmx", 9999, "TCP"⟩, .getObject 2, .addExtraPodSelectorLabel 3 "team" "a",
    .setPublishNotReadyAddresses false]

theorem loses_nothing_iff_plain : ∃ (o : Orders) (σ : BuilderState ℕ),
    run o plainBootstrap plainCalls = some σ ∧ σ.maps 4 = none ∧
      LosesNothing o false plainBootstrap plainCalls σ 4 := by
  obtain ⟨o⟩ : Nonempty Orders := inferInstance
  let σ := ((plainBootstrap.addPort ⟨"jmx", 9999, "TCP"⟩).getObject o 2).2
  have hclone : ∀ r ≠ 2, σ.maps r = plainBootstrap.maps r := fun r hr => getObject_maps_ne hr
  have hstep : σ.step o (.addExtraPodSelectorLabel 3 "team" "a") =
      some (σ.addExtraPodSelectorLabel 3 "team" "a") :=
    if_pos (Option.isNone_iff_eq_none.mpr (hclone 3 (by decide)))
  have hrun : run o plainBootstrap plainCalls =
      some ((σ.addExtraPodSelectorLabel 3 "team" "a").setPublishNotReadyAddresses false) := by
    show (σ.step o (.addExtraPodSelectorLabel 3 "team" "a") >>= fun τ =>
      run o τ [.setPublishNotReadyAddresses false]) = _
    rw [hstep]
    rfl
  have hnew : (σ.addExtraPodSelectorLabel 3 "team" "a").maps 4 = none :=
    (addExtra_maps_ne (show 4 ≠ 1 by decide) (by decide) _ _).trans (hclone 4 (by decide))
  refine ⟨o, _, hrun, hnew, ?_⟩
  exact (loses_nothing_iff o false plainBootstrap.maps _ "default" 0 "cluster-internal"
    [bootstrapOption ⟨[], "", "", "", "", none⟩ 1] rfl rfl plainCalls _ hrun 4 hnew).mpr rfl

/-- The bootstrap Listener is to publish addresses that are not ready and does not say so; and where
an unset field means that they are published, nobody can say that they are not to be. -/
theorem publishNotReadyAddresses_lost : plainBootstrap.builder.publishNotReadyAddress = true ∧
    ∃ o : Orders, (plainBootstrap.getObject o 2).1.publishNotReadyAddresses = none ∧
      ¬ LosesNothing o false plainBootstrap [] plainBootstrap 2 ∧
      ¬ LosesNothing o true plainBootstrap [.setPublishNotReadyAddresses false]
        (plainBootstrap.setPublishNotReadyAddresses false) 2 := by
  obtain ⟨o⟩ : Nonempty Orders := inferInstance
  refine ⟨rfl, o, rfl, fun h => ?_, fun h => ?_⟩
  · exact Bool.false_ne_true h.publish
  · exact Bool.false_ne_true h.publish.symm

end KafkaOperator
