import KafkaOperator.ControlLoop
import KafkaOperator.Names

/-! # The API server

The objects the controller writes, and the server that holds them.  An object is stored under its
kind, namespace and name.  A StatefulSet and a Listener have a status that other controllers write;
an update keeps it (`keepStatus`).  Owner references and resource versions are not represented.

The controller writes through `CreateOrUpdate` of operator-go.  `Client` is what is assumed of it,
and `Client.createOrUpdate_of_ok` and `Client.createOrUpdate_snd` say what follows: a call that
returns has ensured the object, and any other has done so or nothing.

`ApiServer.list` is what a `List` of Listeners returns: all Listeners of all namespaces, in an order
the server leaves open.  It is the state in which `DiscoveryBuilder.Build` was modelled, so what is
proved there holds of the Listeners that are stored here. -/

namespace KafkaOperator

open Go

/-! ### Objects -/

deriving instance DecidableEq for ClaimTemplate
deriving instance DecidableEq for VolumeSource
deriving instance DecidableEq for Volume
deriving instance DecidableEq for PersistentVolumeClaim
deriving instance DecidableEq for Container
deriving instance DecidableEq for PodTemplate
deriving instance DecidableEq for StatefulSet
deriving instance DecidableEq for Content
deriving instance DecidableEq for ConfigMap
deriving instance DecidableEq for IngressAddress
deriving instance DecidableEq for Listener

/-- `corev1.Service`, as far as `builder.BaseServiceBuilder` fills it in. -/
structure Service where
  name : String
  kubeNamespace : String
  labels : Map String String
  annotations : Map String String
  selector : Map String String
  ports : List ContainerPort
  headless : Bool
  listenerClass : String
  publishNotReadyAddresses : Bool
deriving DecidableEq

structure ObjectKey where
  kind : Kind
  kubeNamespace : String
  name : String
deriving DecidableEq, Repr

/-- The objects the controller writes; `readyReplicas` is the status of a StatefulSet. -/
inductive Object where
  | serviceAccount (kubeNamespace name : String)
  | service (s : Service)
  | configMap (kubeNamespace : String) (cm : ConfigMap)
  | statefulSet (sts : StatefulSet) (readyReplicas : ℤ)
  | listener (l : Listener)
deriving DecidableEq

namespace Object

def key : Object → ObjectKey
  | serviceAccount ns name => ⟨.serviceAccount, ns, name⟩
  | service s => ⟨.service, s.kubeNamespace, s.name⟩
  | configMap ns cm => ⟨.configMap, ns, cm.name⟩
  | statefulSet sts _ => ⟨.statefulSet, sts.kubeNamespace, sts.name⟩
  | listener l => ⟨.listener, l.kubeNamespace, l.name⟩

/-- The object as an update writes it: with the status of the one that is there. -/
def keepStatus : (new old : Object) → Object
  | statefulSet sts _, statefulSet _ readyReplicas => statefulSet sts readyReplicas
  | listener l, listener old => listener { l with ingressAddresses := old.ingressAddresses }
  | new, _ => new

def listener? : Object → Option Listener
  | listener l => some l
  | _ => none

/-- Updates keep the status. -/
def update : Update key where
  merge := keepStatus
  key_merge o old := by cases o <;> cases old <;> rfl
  merge_merge o old := by cases o <;> cases old <;> rfl
  merge_self o := by cases o <;> rfl

@[simp] theorem update_merge (o old : Object) : update.merge o old = o.keepStatus old := rfl

/-- The object without its status. -/
def spec : Object → Object
  | statefulSet sts _ => statefulSet sts 0
  | listener l => listener { l with ingressAddresses := none }
  | o => o

theorem update_sets : update.Sets spec where
  spec_merge o old := by cases o <;> cases old <;> rfl
  merge_eq_iff o old := by
    cases o <;> cases old <;> simp [keepStatus, spec]
    case listener.listener l old =>
      constructor
      · intro h
        rw [← h]
        exact ⟨rfl, rfl, rfl, rfl, rfl⟩
      · rintro ⟨hname, hns, hlabels, hclass, hports⟩
        cases l
        cases old
        simp_all

/-- A Listener whose addresses the listener operator has published. -/
def publish (addresses : List IngressAddress) : Object → Object
  | listener l => listener { l with ingressAddresses := some addresses }
  | o => o

/-- A StatefulSet whose ready replicas its controller has reported. -/
def report (readyReplicas : ℤ) : Object → Object
  | statefulSet sts _ => statefulSet sts readyReplicas
  | o => o

theorem key_publish (addresses : List IngressAddress) (o : Object) : (o.publish addresses).key = o.key := by
  cases o <;> rfl

theorem spec_publish (addresses : List IngressAddress) (o : Object) :
    (o.publish addresses).spec = o.spec := by
  cases o <;> rfl

theorem key_report (n : ℤ) (o : Object) : (o.report n).key = o.key := by
  cases o <;> rfl

theorem spec_report (n : ℤ) (o : Object) : (o.report n).spec = o.spec := by
  cases o <;> rfl

theorem listener?_eq_some {o : Object} {l : Listener} : o.listener? = some l ↔ o = .listener l := by
  cases o <;> simp [listener?]

theorem listener?_of_kind {o : Object} (h : o.key.kind ≠ .listener) : o.listener? = none := by
  cases o <;> first | rfl | exact absurd rfl h

/-- The status of a Listener is what its update leaves; a new one has none. -/
theorem keepStatus_listener {l : Listener} {old : Object} {l' : Listener}
    (h : (listener l).keepStatus old = .listener l') :
    l' = l ∨ ∃ lold, old = .listener lold ∧ l' = { l with ingressAddresses := lold.ingressAddresses } := by
  cases old with
  | listener lold => exact .inr ⟨lold, rfl, (listener.inj h).symm⟩
  | _ => exact .inl (listener.inj h).symm

end Object

/-! ### The server -/

/-- The objects the API server holds. -/
abbrev ApiServer := Inventory Object.key

namespace ApiServer

/-- The Listeners of all namespaces. -/
def listeners (s : ApiServer) : Map ObjectKey Listener := s.objects.filterMap Object.listener?

theorem get_listeners {s : ApiServer} {k : ObjectKey} {l : Listener} :
    s.listeners.get k = some l ↔ s.get k = some (.listener l) := by
  unfold listeners
  rw [Map.get_filterMap, Option.bind_eq_some_iff]
  constructor
  · rintro ⟨o, ho, hl⟩
    rw [Object.listener?_eq_some] at hl
    rwa [hl] at ho
  · intro h
    exact ⟨_, h, rfl⟩

/-- A listing of the Listeners, in the order the server chooses. -/
def list (s : ApiServer) (items : Map.Order ObjectKey Listener) : ApiState where
  listeners := (items.list s.listeners).map Prod.snd
  nodup := by
    obtain ⟨hnodup, hmem⟩ := items.ranges s.listeners
    have hkeys : ∀ e ∈ items.list s.listeners, e.1 = ⟨.listener, e.2.kubeNamespace, e.2.name⟩ := by
      rintro ⟨k, l⟩ he
      exact (Inventory.key_of_get (get_listeners.mp ((hmem k l).mp he))).symm
    rw [List.map_map]
    refine List.Nodup.of_map (fun e : String × String => (⟨.listener, e.1, e.2⟩ : ObjectKey)) ?_
    rw [List.map_map]
    have hfst : (items.list s.listeners).map
        ((fun e : String × String => (⟨.listener, e.1, e.2⟩ : ObjectKey)) ∘
          (fun l : Listener => (l.kubeNamespace, l.name)) ∘ Prod.snd) =
        (items.list s.listeners).map Prod.fst := by
      refine List.map_congr_left (fun e he => ?_)
      exact (hkeys e he).symm
    rwa [hfst]

theorem mem_list {s : ApiServer} {items : Map.Order ObjectKey Listener} {l : Listener} :
    l ∈ (s.list items).listeners ↔
      s.get ⟨.listener, l.kubeNamespace, l.name⟩ = some (.listener l) := by
  have hmem := (items.ranges s.listeners).2
  constructor
  · intro h
    obtain ⟨⟨k, l'⟩, he, rfl⟩ := List.mem_map.mp h
    have hget := get_listeners.mp ((hmem k l').mp he)
    obtain rfl : _ = k := Inventory.key_of_get hget
    exact hget
  · intro h
    exact List.mem_map.mpr ⟨(_, l), (hmem _ l).mpr (get_listeners.mpr h), rfl⟩

/-- Only a write of a Listener changes the Listeners. -/
theorem listeners_put {s : ApiServer} {o : Object} (h : o.key.kind ≠ .listener) :
    listeners (s.put o) = s.listeners := by
  have hget : ∀ (t : ApiServer) k, (listeners t).get k = (t.get k).bind Object.listener? :=
    fun _ _ => rfl
  ext1 k
  rw [hget, hget, Inventory.get_put]
  split
  · next hk =>
      subst hk
      cases hold : s.get o.key with
      | none => simp [Object.listener?_of_kind h]
      | some old =>
          have hkind : old.key.kind ≠ .listener := by rwa [Inventory.key_of_get hold]
          simp [Object.listener?_of_kind h, Object.listener?_of_kind hkind]
  · rfl

theorem list_put {s : ApiServer} {o : Object} (h : o.key.kind ≠ .listener)
    (items : Map.Order ObjectKey Listener) : list (s.put o) items = s.list items := by
  unfold list
  simp only [listeners_put h]

/-- What can go wrong with a write: it is refused, or made without the caller hearing of it. -/
inductive Fault where
  | rejected (msg : String)
  | unanswered (msg : String)
deriving DecidableEq, Repr

/-- `client.CreateOrUpdate` of operator-go, which is known by what it promises; the flag says that
something was written.  How it fails is up to it, for every fault. -/
structure Client where
  createOrUpdate : Option Fault → Object → Prog ApiServer Bool
  /-- Only the object that was asked for is written, and nothing is deleted. -/
  get_ne : ∀ fault o s k, k ≠ o.key → (createOrUpdate fault o s).2.get k = s.get k
  /-- That object is left as it was, or it is as it was asked for, with the status it had. -/
  get_key : ∀ fault o s, (createOrUpdate fault o s).2.get o.key = s.get o.key ∨
    (createOrUpdate fault o s).2.get o.key = some ((s.get o.key).elim o o.keepStatus)
  /-- Where it returns, the object is as asked for, and the flag says that it was not so before. -/
  returns : ∀ fault o s b, (createOrUpdate fault o s).1 = .ok b →
    (createOrUpdate fault o s).2.specAt Object.spec o.key = some o.spec ∧
      (b = false ↔ s.specAt Object.spec o.key = some o.spec)
  /-- It returns where nothing goes wrong. -/
  answers : ∀ o s, ∃ b, (createOrUpdate none o s).1 = .ok b
  /-- Of what is stored it looks at that object only, and not at its status. -/
  looks_at : ∀ fault o s s', s.specAt Object.spec o.key = s'.specAt Object.spec o.key →
    (createOrUpdate fault o s).1 = (createOrUpdate fault o s').1 ∧
      (createOrUpdate fault o s).2.specAt Object.spec o.key =
        (createOrUpdate fault o s').2.specAt Object.spec o.key

namespace Client

variable (c : Client) (fault : Option Fault) (o : Object) (s : ApiServer)

/-- What `createOrUpdate` stores under the key of its object. -/
theorem get_createOrUpdate_key : (s.createOrUpdate Object.update o).2.get o.key =
    some ((s.get o.key).elim o o.keepStatus) := by
  unfold Inventory.createOrUpdate
  cases hget : s.get o.key with
  | none => exact Inventory.get_put_self s o
  | some old =>
      by_cases hold : o.keepStatus old = old
      · simp only [Object.update_merge, hold, if_true, Option.elim_some, hget]
      · have hkey : (o.keepStatus old).key = o.key := Object.update.key_merge o old
        simp only [Object.update_merge, hold, if_false, Option.elim_some]
        rw [← hkey, Inventory.get_put_self]

/-- Whatever goes wrong, the server is as before or has the object. -/
theorem createOrUpdate_snd : (c.createOrUpdate fault o s).2 = s ∨
    (c.createOrUpdate fault o s).2 = (s.createOrUpdate Object.update o).2 := by
  rcases c.get_key fault o s with hkept | hwritten
  · left
    ext1 k
    by_cases hk : k = o.key
    · rw [hk, hkept]
    · exact c.get_ne fault o s k hk
  · right
    ext1 k
    by_cases hk : k = o.key
    · rw [hk, hwritten, get_createOrUpdate_key]
    · rw [c.get_ne fault o s k hk, Inventory.get_createOrUpdate_ne hk]

variable {c fault o s}

/-- **A call that returns** has ensured the object. -/
theorem createOrUpdate_of_ok {b : Bool} (h : (c.createOrUpdate fault o s).1 = .ok b) :
    c.createOrUpdate fault o s =
      (.ok (s.createOrUpdate Object.update o).1, (s.createOrUpdate Object.update o).2) := by
  obtain ⟨hstored, hflag⟩ := c.returns fault o s b h
  have hheld : s.Holds Object.update o ↔ s.specAt Object.spec o.key = some o.spec :=
    Inventory.holds_iff_specAt Object.update_sets
  refine Prod.ext ?_ ?_
  · rw [← hheld, ← Inventory.createOrUpdate_fst] at hflag
    rw [h]
    congr 1
    cases b with
    | false => exact (hflag.mp rfl).symm
    | true => simpa using hflag
  · rcases c.createOrUpdate_snd fault o s with hsame | hwritten
    · rw [hsame] at hstored ⊢
      rw [Inventory.createOrUpdate_of_holds (hheld.mpr hstored)]
    · exact hwritten

theorem createOrUpdate_none (c : Client) (o : Object) (s : ApiServer) : c.createOrUpdate none o s =
    (.ok (s.createOrUpdate Object.update o).1, (s.createOrUpdate Object.update o).2) := by
  obtain ⟨b, hb⟩ := c.answers o s
  exact createOrUpdate_of_ok hb

/-- A client that fails exactly where there is a fault. -/
def reference : Client where
  createOrUpdate fault o s := match fault with
    | none => (.ok (s.createOrUpdate Object.update o).1, (s.createOrUpdate Object.update o).2)
    | some (.rejected msg) => (.err msg, s)
    | some (.unanswered msg) => (.err msg, (s.createOrUpdate Object.update o).2)
  get_ne fault o s k hk := by
    match fault with
    | none => exact Inventory.get_createOrUpdate_ne hk
    | some (.rejected _) => rfl
    | some (.unanswered _) => exact Inventory.get_createOrUpdate_ne hk
  get_key fault o s := by
    match fault with
    | none => exact .inr (get_createOrUpdate_key o s)
    | some (.rejected _) => exact .inl rfl
    | some (.unanswered _) => exact .inr (get_createOrUpdate_key o s)
  returns fault o s b h := by
    match fault, h with
    | none, h =>
        obtain rfl := Outcome.ok.inj h
        refine ⟨?_, ?_⟩
        · exact (Inventory.holds_iff_specAt Object.update_sets).mp Inventory.holds_createOrUpdate
        · rw [Inventory.createOrUpdate_fst, Inventory.holds_iff_specAt Object.update_sets]
    | some (.rejected _), h => cases h
    | some (.unanswered _), h => cases h
  answers o s := ⟨_, rfl⟩
  looks_at fault o s s' h := by
    have hwritten : (s.createOrUpdate Object.update o).2.specAt Object.spec o.key =
        (s'.createOrUpdate Object.update o).2.specAt Object.spec o.key := by
      rw [Inventory.specAt_createOrUpdate Object.update_sets,
        Inventory.specAt_createOrUpdate Object.update_sets, if_pos rfl, if_pos rfl]
    match fault with
    | none =>
        refine ⟨?_, hwritten⟩
        show Outcome.ok _ = Outcome.ok _
        rw [Inventory.createOrUpdate_fst_congr Object.update_sets h]
    | some (.rejected _) => exact ⟨rfl, h⟩
    | some (.unanswered _) => exact ⟨rfl, hwritten⟩

end Client

end ApiServer

end KafkaOperator
