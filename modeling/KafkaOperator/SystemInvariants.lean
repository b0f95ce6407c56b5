import KafkaOperator.Completion
import KafkaOperator.System

/-! # Invariants of the system

What holds after every run, from the order in which a pass works and from what it never does.

A StatefulSet names the ServiceAccount of its pods and its governing Service, and its pods mount the
ConfigMap of its own name.  Each is reconciled before the StatefulSet, and a pass that does not get so
far does not write the StatefulSet; so they are there whenever a StatefulSet is, in every interleaving
of passes that are given up or fail at any point (`references_exist`).  (The Listener that its claim
template names comes after it.)

No pass deletes anything.  What belonged to a role group that is no longer specified stays as it was,
and its addresses stay in the discovery ConfigMaps (`removed_group_stays`). -/

namespace KafkaOperator

open Go

/-! ### References -/

/-- The objects that have to be there for the pods of a StatefulSet to start. -/
def Object.references : Object → List ObjectKey
  | statefulSet sts _ =>
      [⟨.serviceAccount, sts.kubeNamespace, sts.template.serviceAccountName⟩,
        ⟨.service, sts.kubeNamespace, sts.serviceName⟩,
        ⟨.configMap, sts.kubeNamespace, sts.name⟩]
  | _ => []

/-- The references of the object that is built. -/
def ResourceReconciler.references : ResourceReconciler → List ObjectKey
  | statefulSet b _ =>
      [⟨.serviceAccount, b.kubeNamespace, b.info.clusterName⟩,
        ⟨.service, b.kubeNamespace, b.info.getFullName⟩,
        ⟨.configMap, b.kubeNamespace, b.info.getFullName⟩]
  | _ => []

/-- A status is not a reference. -/
theorem Object.references_of_spec {o o' : Object} (h : o.spec = o'.spec) :
    o.references = o'.references := by
  cases o <;> cases o' <;> simp [Object.spec] at h <;> simp [Object.references, h]

theorem ResourceReconciler.references_of_desired {lib : Library} {i : StepInput}
    {r : ResourceReconciler} {h : Heap} {api : ApiServer} {o : Object}
    (ho : r.desired lib i h api = .ok o) : o.references = r.references := by
  cases r with
  | statefulSet b stopped =>
      obtain ⟨sts, hsts, rfl⟩ := desired_statefulSet ho
      obtain ⟨hname, hns, hservice, haccount⟩ := build_statefulSet_names hsts
      simp only [Object.references, references, hname, hns, hservice, haccount]
      cases stopped <;> rfl
  | configMap b =>
      obtain ⟨cm, -, rfl⟩ := desired_configMap ho
      rfl
  | discovery ns b =>
      obtain ⟨cm, -, -, rfl⟩ := desired_discovery ho
      rfl
  | serviceAccount ns name => rw [← Outcome.ok.inj ho]; rfl
  | service ns b => rw [← Outcome.ok.inj ho]; rfl
  | listener b => rw [← Outcome.ok.inj ho]; rfl

theorem Object.kind_of_mem_references {o : Object} {k : ObjectKey} (hk : k ∈ o.references) :
    k.kind ≠ .statefulSet ∧ k.kind ≠ .listener := by
  cases o with
  | statefulSet sts n =>
      simp only [references, List.mem_cons, List.not_mem_nil, or_false] at hk
      rcases hk with rfl | rfl | rfl <;> exact ⟨nofun, nofun⟩
  | _ => cases hk

theorem ResourceReconciler.kind_of_mem_references {r : ResourceReconciler} {k : ObjectKey}
    (hk : k ∈ r.references) : k.kind ≠ .statefulSet ∧ k.kind ≠ .listener := by
  cases r with
  | statefulSet b stopped =>
      simp only [references, List.mem_cons, List.not_mem_nil, or_false] at hk
      rcases hk with rfl | rfl | rfl <;> exact ⟨nofun, nofun⟩
  | _ => cases hk

/-- **The order of registration**: the references of a StatefulSet are registered before it. -/
theorem RegistersIn.backed {op : OperatorGo} {cluster : KafkaCluster} {spec : BrokersSpec}
    {res : ClusterResources} {h : Heap} (hreg : RegistersIn op cluster spec res h)
    (there : ObjectKey → Prop) :
    Backed ResourceReconciler.key ResourceReconciler.references there res.reconcilers := by
  obtain ⟨k, image, -, hnode, hsa, -, -⟩ := hreg.parts
  rw [ClusterResources.reconcilers_eq]
  refine ⟨nofun, Backed.append (Backed.flatMap (fun b hb => ?_)) ⟨nofun, nofun, trivial⟩⟩
  obtain ⟨name, filled, -, hbuilt⟩ := hreg.built hb
  obtain ⟨_, _, _, rfl⟩ := hbuilt.registered
  have haccount : res.serviceAccount = res.node.clusterName := by rw [hsa, hnode]; rfl
  simp [RoleGroupResources.reconcilers, Backed, ResourceReconciler.references,
    ResourceReconciler.key, BrokerReconciler.roleGroupResources, newRoleGroupService,
    BrokerReconciler.roleGroupInfo, roleGroupConfigMapName, haccount]

/-- Every reference of a stored object is stored. -/
def ApiServer.Closed (api : ApiServer) : Prop :=
  ∀ k o, api.get k = some o → ∀ k' ∈ o.references, (api.get k').isSome

/-- All references are stored, and those of what is still to be written are stored or will be before
it. -/
structure System.ReferencesExist (s : System) : Prop where
  closed : ApiServer.Closed s.api
  backed : ∀ c, Backed ResourceReconciler.key ResourceReconciler.references
    (fun k => (s.api.get k).isSome) (s.workers c).todo

namespace System

variable {lib : Library} {s : System}

/-- A change of the API server under which what is referred to stays. -/
theorem ReferencesExist.backed_mono (hinv : s.ReferencesExist) {api : ApiServer}
    (hapi : ∀ k, k.kind ≠ .statefulSet → k.kind ≠ .listener → (s.api.get k).isSome → (api.get k).isSome)
    (c : ClusterKey) : Backed ResourceReconciler.key ResourceReconciler.references
      (fun k => (api.get k).isSome) (s.workers c).todo := by
  refine (hinv.backed c).mono (fun r _ k hk hthere => ?_)
  obtain ⟨hsts, hlistener⟩ := ResourceReconciler.kind_of_mem_references hk
  exact hapi k hsts hlistener hthere

/-- What a reconcile leaves: every object that was there, and the references of what it wrote. -/
theorem closed_reconcile (lib : Library) (i : StepInput) (h : Heap) {r : ResourceReconciler}
    {api : ApiServer} (hclosed : ApiServer.Closed api) (hr : ∀ k ∈ r.references, (api.get k).isSome) :
    ApiServer.Closed (r.reconcile lib i ⟨h, api⟩).2.api ∧
      ∀ k, (api.get k).isSome → ((r.reconcile lib i ⟨h, api⟩).2.api.get k).isSome := by
  rcases ResourceReconciler.reconcile_api lib i r h api with heq | ⟨o, ho, heq⟩
  · rw [heq]
    exact ⟨hclosed, fun _ => id⟩
  · rw [heq]
    have hkeep : ∀ k, (api.get k).isSome → ((api.createOrUpdate Object.update o).2.get k).isSome :=
      fun k => Inventory.isSome_createOrUpdate
    refine ⟨fun k v hv k' hk' => hkeep k' ?_, hkeep⟩
    by_cases hk : k = o.key
    · -- what was written has the references of the resource
      have hspec := Inventory.specAt_createOrUpdate Object.update_sets o api k
      rw [Inventory.specAt, hv, if_pos hk] at hspec
      rw [Object.references_of_spec (Option.some.inj hspec),
        ResourceReconciler.references_of_desired ho] at hk'
      exact hr k' hk'
    · rw [Inventory.get_createOrUpdate_ne hk] at hv
      exact hclosed k v hv k' hk'

theorem ReferencesExist.request (hinv : s.ReferencesExist) {c : ClusterKey} (i : PassInput)
    (stored : Option { cluster : KafkaCluster // cluster.namespacedName = c }) :
    (s.next lib (.request c i stored)).ReferencesExist := by
  refine ⟨hinv.closed, fun c' => ?_⟩
  by_cases hc : c' = c
  · subst hc
    simp only [System.next, Function.update_self]
    rcases Worker.start_cases lib i stored with ⟨cluster, res, h, -, -, hrun, -, htodo⟩ | ⟨htodo, -⟩
    · obtain ⟨spec, hreg⟩ := registersIn_of_register hrun
      rw [htodo]
      exact hreg.backed _
    · rw [htodo]
      trivial
  · simp only [System.next, Function.update_of_ne hc]
    exact hinv.backed c'

theorem ReferencesExist.step (hinv : s.ReferencesExist) (c : ClusterKey) (i : StepInput) :
    (s.next lib (.step c i)).ReferencesExist := by
  cases htodo : (s.workers c).todo with
  | nil =>
      have hsame : s.next lib (.step c i) = s := by
        simp only [System.next, Worker.step_of_nil lib i _ _ htodo, Function.update_eq_self]
      rwa [hsame]
  | cons r rest =>
      obtain ⟨-, hapi, hrest⟩ := (s.workers c).step_of_cons lib i s.api htodo
      have hbacked := hinv.backed c
      rw [htodo] at hbacked
      obtain ⟨hclosed, hkeep⟩ := closed_reconcile lib i (s.workers c).heap hinv.closed hbacked.1
      rw [← hapi] at hclosed hkeep
      refine ⟨hclosed, fun c' => ?_⟩
      by_cases hc : c' = c
      · subst hc
        simp only [System.next, Function.update_self, hrest]
        split_ifs with hzero
        · -- the pass goes on, so the object of the first resource is there now
          refine hbacked.2.mono (fun _ _ k _ hk => hk.elim (hkeep k) ?_)
          rintro rfl
          obtain ⟨o, ho, -, hstored⟩ := ResourceReconciler.reconcile_eq_ok hzero
          obtain ⟨v, hv, -⟩ := (Inventory.holds_createOrUpdate :
            (s.api.createOrUpdate Object.update o).2.Holds Object.update o)
          rw [hapi, hstored, ← ResourceReconciler.key_of_desired ho, hv]
          rfl
        · trivial
      · simp only [System.next, Function.update_of_ne hc]
        exact hinv.backed_mono (fun k _ _ => hkeep k) c'

theorem ReferencesExist.status (hinv : s.ReferencesExist) {e : Event}
    (he : ∀ c, e.concerns c = false) : (s.next lib e).ReferencesExist := by
  obtain ⟨hworkers, hspec⟩ := next_status lib s he
  have hsome : ∀ k, ((s.next lib e).api.get k).isSome = (s.api.get k).isSome := by
    intro k
    have hk := congrArg Option.isSome (hspec k)
    simpa [Inventory.specAt] using hk
  refine ⟨fun k o ho k' hk' => ?_, fun c => ?_⟩
  · have hk := hspec k
    rw [Inventory.specAt, Inventory.specAt, ho, Option.map_some, eq_comm, Option.map_eq_some_iff] at hk
    obtain ⟨o', ho', hsame⟩ := hk
    rw [hsome]
    exact hinv.closed k o' ho' k' (by rwa [Object.references_of_spec hsame])
  · rw [hworkers]
    exact hinv.backed_mono (fun k _ _ hk => by rwa [hsome]) c

theorem ReferencesExist.remove (hinv : s.ReferencesExist) (c : ClusterKey) {p : Purpose}
    (hp : p.kind = .statefulSet ∨ p.kind = .listener) :
    (s.next lib (.remove c p)).ReferencesExist := by
  have hkeep : ∀ k : ObjectKey, k.kind ≠ .statefulSet → k.kind ≠ .listener → (s.api.get k).isSome →
      ((s.api.remove (c.objectKey p)).get k).isSome := by
    intro k hsts hlistener hk
    rw [Inventory.get_remove, if_neg]
    · exact hk
    · rintro rfl
      exact hp.elim hsts hlistener
  refine ⟨fun k o ho k' hk' => ?_, fun c' => hinv.backed_mono hkeep c'⟩
  change (s.api.remove (c.objectKey p)).get k = some o at ho
  rw [Inventory.get_remove] at ho
  split_ifs at ho
  obtain ⟨hsts, hlistener⟩ := Object.kind_of_mem_references hk'
  exact hkeep k' hsts hlistener (hinv.closed k o ho k' hk')

/-- **Every event keeps the references**, if no ServiceAccount, Service or ConfigMap is removed. -/
theorem ReferencesExist.next (hinv : s.ReferencesExist) {e : Event}
    (he : ∀ c p, e = .remove c p → p.kind = .statefulSet ∨ p.kind = .listener) :
    (s.next lib e).ReferencesExist := by
  cases e with
  | request c i stored => exact hinv.request i stored
  | step c i => exact hinv.step c i
  | publish c g addresses => exact hinv.status (fun _ => rfl)
  | report c g n => exact hinv.status (fun _ => rfl)
  | remove c p => exact hinv.remove c (he c p rfl)

end System

/-- **References exist.**  From a system in which no pass is going on and every StatefulSet has its
ServiceAccount, its Service and its ConfigMap, every run in which none of these is removed by someone
else leads to one in which every StatefulSet has them: whichever passes over whichever clusters were
interleaved, however they failed, and however the clusters' names collide. -/
theorem references_exist (lib : Library) (es : List Event)
    (hkept : ∀ c p, Event.remove c p ∈ es → p.kind = .statefulSet ∨ p.kind = .listener)
    (s : System) (hidle : ∀ c, (s.workers c).todo = []) (hclosed : ApiServer.Closed s.api) :
    ApiServer.Closed (es.foldl (System.next lib) s).api := by
  have hstart : s.ReferencesExist := ⟨hclosed, fun c => by rw [hidle c]; trivial⟩
  have hrun : (es.foldl (System.next lib) s).ReferencesExist := by
    refine List.foldlRecOn es (System.next lib) hstart (fun s hinv e he => hinv.next ?_)
    rintro c p rfl
    exact hkept c p he
  exact hrun.closed

/-- Passes over the sample cluster, from an empty API server, until its StatefulSet is stored: what it
refers to is there. -/
theorem references_exist_secured : ∃ (i : PassInput) (n : ℕ) (api : ApiServer) (sts : StatefulSet)
    (ready : ℤ), api = ((List.replicate n (passEvents .reference i
        (some ⟨securedCluster, rfl⟩))).flatten.foldl (System.next .reference)
      ⟨fun _ => .idle .empty, Inventory.empty⟩).api ∧
    api.get (securedCluster.namespacedName.objectKey (.statefulSet "default")) =
      some (.statefulSet sts ready) ∧
    ∀ k ∈ (Object.statefulSet sts ready).references, (api.get k).isSome := by
  obtain ⟨i, hget, hquiet⟩ := PassInput.exists_quiet
  obtain ⟨res, h, hrun, hreg, hvector⟩ := securedCluster_register i
  have hclosed := references_exist .reference (List.replicate res.reconcilers.length
    (passEvents .reference i (some ⟨securedCluster, rfl⟩))).flatten (fun c p he => by
      rcases of_mem_passes he with heq | ⟨r, heq⟩ <;> cases heq)
    ⟨fun _ => .idle .empty, Inventory.empty⟩ (fun _ => rfl) (fun k o ho => by cases ho)
  have hsettled := securedCluster_admitted.settled_passes hget hquiet hrun
    (Library.reference_reliableFor _ _ _) hvector securedBrokers_metrics (published_empty _)
  have hpasses := run_passes .reference i (some ⟨securedCluster, rfl⟩) res.reconcilers.length
    ⟨fun _ => .idle .empty, Inventory.empty⟩
  obtain ⟨b, hb, hname⟩ := hreg.exists_built "default" rfl
  obtain ⟨sts, ready, hstored, -⟩ := hreg.stored_statefulSet hsettled hb
  rw [hreg.statefulSet_key hb, hreg.statefulSet_info hb, hname] at hstored
  rw [hpasses] at hclosed
  exact ⟨i, res.reconcilers.length, _, sts, ready, hpasses.symm, hstored, hclosed _ _ hstored⟩

/-! ### Objects that no pass writes -/

namespace Worker

variable {lib : Library} {P : Purpose → Prop} {c : ClusterKey} {w : Worker c}

/-- What is left of the pass writes no object of these purposes: no resource has its key, or one
before it cannot be built, which ends the pass.  `I` holds of the heaps of the pass. -/
def Spares (lib : Library) (P : Purpose → Prop) (w : Worker c) : Prop :=
  ∃ I : Heap → Prop, I w.heap ∧ (∀ r ∈ w.todo, ∀ i h, I h → I (r.heapAfter lib i h)) ∧
    Guarded (fun r => ∀ i h api o, I h → r.desired lib i h api ≠ .ok o)
      (fun r => ∃ p, P p ∧ c.objectKey p = r.key) w.todo

theorem spares_of_ne (h : ∀ r ∈ w.todo, ∀ p, P p → c.objectKey p ≠ r.key) : w.Spares lib P :=
  ⟨fun _ => True, trivial, fun _ _ _ _ _ => trivial,
    Guarded.of_forall (fun r hr ⟨p, hp, hkey⟩ => h r hr p hp hkey)⟩

theorem spares_of_nil (h : w.todo = []) : w.Spares lib P :=
  spares_of_ne (fun r hr => by rw [h] at hr; cases hr)

theorem Spares.step (hw : w.Spares lib P) (i : StepInput) (api : ApiServer) :
    (w.step lib i api).1.Spares lib P ∧ ∀ p, P p →
      (w.step lib i api).2.specAt Object.spec (c.objectKey p) =
        api.specAt Object.spec (c.objectKey p) := by
  cases htodo : w.todo with
  | nil =>
      rw [step_of_nil lib i w api htodo]
      exact ⟨hw, fun _ _ => rfl⟩
  | cons r rest =>
      obtain ⟨I, hI, hkeeps, hguarded⟩ := hw
      obtain ⟨hheap, hapi, hrest⟩ := w.step_of_cons lib i api htodo
      rw [htodo] at hkeeps hguarded
      rcases hguarded with hfails | ⟨hkey, hguarded⟩
      · -- nothing is built, so nothing is written and the pass is over
        obtain ⟨hne, hworld⟩ := ResourceReconciler.reconcile_of_fail (fun o => hfails i w.heap api o hI)
        rw [if_neg (hne _)] at hrest
        rw [hapi, hworld]
        exact ⟨spares_of_nil hrest, fun _ _ => rfl⟩
      · constructor
        · by_cases hzero : (r.reconcile lib i ⟨w.heap, api⟩).1 = .ok .zero
          · rw [if_pos hzero] at hrest
            refine ⟨I, ?_, ?_, ?_⟩
            · rw [hheap]
              exact hkeeps r (by simp) i w.heap hI
            · rw [hrest]
              exact fun r' hr' => hkeeps r' (List.mem_cons_of_mem _ hr')
            · rwa [hrest]
          · rw [if_neg hzero] at hrest
            exact spares_of_nil hrest
        · intro p hp
          rw [hapi, Inventory.specAt, ResourceReconciler.reconcile_get_ne (fun h => hkey ⟨p, hp, h⟩)]
          rfl

end Worker

/-- The objects of these purposes are as in `s₀`, and the pass that is going on spares them. -/
structure System.Spared (lib : Library) (P : Purpose → Prop) (c : ClusterKey) (s₀ s : System) :
    Prop where
  spec : ∀ p, P p →
    s.api.specAt Object.spec (c.objectKey p) = s₀.api.specAt Object.spec (c.objectKey p)
  worker : (s.workers c).Spares lib P

section Spared

variable {lib : Library} {P : Purpose → Prop} {c : ClusterKey} {s₀ s : System}

/-- **Every event spares the objects**, if every pass over the cluster does and nobody else removes
them.  Services are left out, because two of a cluster can have one key. -/
theorem System.Spared.next (hspared : System.Spared lib P c s₀ s)
    (hkind : ∀ p, P p → p.kind ≠ .service) {e : Event} (hapart : e.cluster = c ∨ Apart c e.cluster)
    (hstart : ∀ i stored, e = .request c i stored → (Worker.start lib i stored).Spares lib P)
    (hremove : ∀ p, e = .remove c p → ¬ P p) : System.Spared lib P c s₀ (s.next lib e) := by
  have hkeys : e.cluster ≠ c → ∀ p p', c.objectKey p ≠ e.cluster.objectKey p' :=
    fun hne => apart_iff.mp (hapart.resolve_left hne)
  cases e with
  | request c' i stored =>
      refine ⟨hspared.spec, ?_⟩
      by_cases hc : c' = c
      · subst hc
        simp only [System.next, Function.update_self]
        exact hstart i stored rfl
      · simp only [System.next, Function.update_of_ne (Ne.symm hc)]
        exact hspared.worker
  | step c' i =>
      by_cases hc : c' = c
      · subst hc
        obtain ⟨hworker, hspec⟩ := hspared.worker.step i s.api
        refine ⟨fun p hp => (hspec p hp).trans (hspared.spec p hp), ?_⟩
        simp only [System.next, Function.update_self]
        exact hworker
      · refine ⟨fun p hp => ?_, ?_⟩
        · rw [← hspared.spec p hp]
          refine System.specAt_step_ne (fun r hr => ?_)
          obtain ⟨p', hkey, -⟩ := (s.workers c').owned r (List.mem_of_mem_head? hr)
          rw [hkey]
          exact hkeys hc p p'
        · simp only [System.next, Function.update_of_ne (Ne.symm hc)]
          exact hspared.worker
  | publish c' g' addresses =>
      obtain ⟨hworkers, hspec⟩ := System.next_status lib s (e := .publish c' g' addresses) (fun _ => rfl)
      exact ⟨fun p hp => (hspec _).trans (hspared.spec p hp), by rw [hworkers]; exact hspared.worker⟩
  | report c' g' n =>
      obtain ⟨hworkers, hspec⟩ := System.next_status lib s (e := .report c' g' n) (fun _ => rfl)
      exact ⟨fun p hp => (hspec _).trans (hspared.spec p hp), by rw [hworkers]; exact hspared.worker⟩
  | remove c' p' =>
      refine ⟨fun p hp => ?_, hspared.worker⟩
      rw [← hspared.spec p hp]
      show (s.api.remove _).specAt _ _ = _
      rw [Inventory.specAt_remove, if_neg]
      by_cases hc : c' = c
      · subst hc
        intro heq
        obtain rfl := objectKey_inj (hkind p hp) heq
        exact hremove p rfl hp
      · exact hkeys hc p p'

/-- A run in which every pass over the cluster spares the objects leaves them as they were. -/
theorem System.spared_run (lib : Library) (hkind : ∀ p, P p → p.kind ≠ .service) {es : List Event}
    (hapart : ∀ e ∈ es, e.cluster = c ∨ Apart c e.cluster)
    (hstart : ∀ i stored, Event.request c i stored ∈ es → (Worker.start lib i stored).Spares lib P)
    (hremove : ∀ p, Event.remove c p ∈ es → ¬ P p) (hidle : (s.workers c).todo = []) :
    ∀ p, P p → (es.foldl (System.next lib) s).api.specAt Object.spec (c.objectKey p) =
      s.api.specAt Object.spec (c.objectKey p) := by
  have hbegin : System.Spared lib P c s s := ⟨fun _ _ => rfl, Worker.spares_of_nil hidle⟩
  have hrun : System.Spared lib P c s (es.foldl (System.next lib) s) := by
    refine List.foldlRecOn es (System.next lib) hbegin
      (fun t ht e he => ht.next hkind (hapart e he) ?_ ?_)
    · rintro i stored rfl
      exact hstart i stored he
    · rintro p rfl
      exact hremove p he
  exact hrun.spec

end Spared

/-! ### Role groups that are no longer specified -/

/-- A registration without the role group has none of its objects. -/
theorem RegistersIn.key_ne {op : OperatorGo} {cluster : KafkaCluster} {spec : BrokersSpec}
    {res : ClusterResources} {h : Heap} (hreg : RegistersIn op cluster spec res h) {g : String}
    (hg : cluster.roleGroups.get g = none) {r : ResourceReconciler} (hr : r ∈ res.reconcilers)
    {p : Purpose} (hp : p.group = some g) (hkind : p.kind ≠ .service) :
    cluster.namespacedName.objectKey p ≠ r.key := by
  intro hkey
  obtain ⟨p', hkey', -, hgroup⟩ := hreg.exists_purpose hr
  obtain rfl := objectKey_inj hkind (hkey.trans hkey')
  have hsome := hgroup g hp
  rw [KafkaCluster.roleGroups, hreg.brokers] at hg
  rw [show spec.groups.get g = none from hg] at hsome
  cases hsome

/-- A pass that reads a specification without the role group spares its objects. -/
theorem Worker.start_spares_group {lib : Library} {c : ClusterKey} {g : String} (i : PassInput)
    {stored : Option { cluster : KafkaCluster // cluster.namespacedName = c }}
    (hgone : ∀ cluster, stored = some cluster → cluster.val.roleGroups.get g = none) :
    (Worker.start lib i stored).Spares lib (fun p => p.group = some g ∧ p.kind ≠ .service) := by
  rcases Worker.start_cases lib i stored with ⟨cluster, res, h, rfl, -, hrun, -, htodo⟩ | ⟨htodo, -⟩
  · obtain ⟨spec, hreg⟩ := registersIn_of_register hrun
    refine Worker.spares_of_ne (fun r hr p ⟨hp, hkind⟩ => ?_)
    rw [htodo] at hr
    have hne := hreg.key_ne (hgone cluster rfl) hr hp hkind
    rwa [cluster.property] at hne
  · exact Worker.spares_of_nil htodo

/-- **A role group that is no longer specified stays.**  In every run in which no pass over the
cluster reads a specification with the role group, and nobody else removes its objects: its ConfigMap,
its StatefulSet (with its replicas) and its Listener stay as they were; and whatever addresses are
published for the Listener meanwhile, every discovery ConfigMap that is built from the resulting API
server lists them. -/
theorem removed_group_stays (lib : Library) (c : ClusterKey) (g : String) (es : List Event)
    (hgone : ∀ i cluster, Event.request c i (some cluster) ∈ es → cluster.val.roleGroups.get g = none)
    (hremove : ∀ p, Event.remove c p ∈ es → p.group ≠ some g)
    (hapart : ∀ e ∈ es, e.cluster = c ∨ Apart c e.cluster) (s : System)
    (hidle : (s.workers c).todo = []) :
    (∀ p, p.group = some g → p.kind ≠ .service →
      (es.foldl (System.next lib) s).api.specAt Object.spec (c.objectKey p) =
        s.api.specAt Object.spec (c.objectKey p)) ∧
    ∀ l, s.api.get (c.objectKey (.bootstrapListener g)) = some (.listener l) →
      l.labels.get labelListenerBootstrap = some labelValueTrue →
      ∃ l', (es.foldl (System.next lib) s).api.get (c.objectKey (.bootstrapListener g)) =
          some (.listener l') ∧
        ∀ (d : DiscoveryBuilder) items cm,
          d.buildIn (ApiServer.list (es.foldl (System.next lib) s).api items) = .ok cm →
          ∃ hosts, cm.data = Map.empty.set kafkaDiscoveryKey
              (.text (DiscoveryBuilder.makeBootstrapServers hosts)) ∧
            ∀ a ∈ l'.ingressAddresses.getD [], ∃ port, a.ports.get d.portName = some port ∧
              ⟨a.address, port⟩ ∈ hosts := by
  have hkept := System.spared_run (P := fun p => p.group = some g ∧ p.kind ≠ .service) lib
    (fun p hp => hp.2) hapart
    (fun i stored he => Worker.start_spares_group i (fun cluster heq => hgone i cluster (heq ▸ he)))
    (fun p he hp => hremove p he hp.1) hidle
  refine ⟨fun p hp hkind => hkept p ⟨hp, hkind⟩, fun l hl hlabel => ?_⟩
  have hspec := hkept (.bootstrapListener g) ⟨rfl, by simp [Purpose.kind]⟩
  rw [Inventory.specAt, Inventory.specAt, hl, Option.map_some, Option.map_eq_some_iff] at hspec
  obtain ⟨o, ho, hsame⟩ := hspec
  cases o with
  | listener l' =>
      simp only [Object.spec, Object.listener.injEq, Listener.mk.injEq] at hsame
      obtain ⟨-, -, hlabels, -⟩ := hsame
      refine ⟨l', ho, fun d items cm hcm => ?_⟩
      obtain ⟨hports, rfl⟩ := buildIn_eq_ok hcm
      exact ⟨_, rfl, fun a ha => exists_host hports ho (by rw [hlabels, hlabel]) ha⟩
  | _ => cases hsame

/-- The Listener of a role group `old`. -/
def oldListener : Listener where
  name := "kafkacluster-sample-broker-old-bootstrap"
  kubeNamespace := "default"
  labels := Map.empty.set labelListenerBootstrap labelValueTrue
  className := "cluster-internal"
  ports := []
  ingressAddresses := none

/-- The sample cluster has no role group `old`; the addresses that are published for it are listed. -/
theorem removed_group_stays_secured : ∃ (i : PassInput) (api : ApiServer) (l' : Listener),
    api = ([.request securedCluster.namespacedName i (some ⟨securedCluster, rfl⟩),
        .publish securedCluster.namespacedName "old" [⟨"10.0.0.1", Map.empty.set "kafka" 9092⟩],
        .step securedCluster.namespacedName (i.step (.serviceAccount "default" "kafkacluster-sample"))
      ].foldl (System.next Library.reference)
      ⟨fun _ => .idle .empty, Inventory.empty.put (.listener oldListener)⟩).api ∧
    api.get (securedCluster.namespacedName.objectKey (.bootstrapListener "old")) =
      some (.listener l') := by
  obtain ⟨i, -, -⟩ := PassInput.exists_quiet
  have hkey : securedCluster.namespacedName.objectKey (.bootstrapListener "old") =
      (Object.listener oldListener).key := by decide
  obtain ⟨l', hl', -⟩ := (removed_group_stays Library.reference
    securedCluster.namespacedName "old"
    [.request securedCluster.namespacedName i (some ⟨securedCluster, rfl⟩),
      .publish securedCluster.namespacedName "old" [⟨"10.0.0.1", Map.empty.set "kafka" 9092⟩],
      .step securedCluster.namespacedName (i.step (.serviceAccount "default" "kafkacluster-sample"))]
    (fun i cluster he => by
      simp only [List.mem_cons, List.not_mem_nil, or_false, Event.request.injEq, reduceCtorEq,
        heq_eq_eq, true_and, Option.some.injEq] at he
      rw [he.2]
      rfl)
    (fun p he => by simp at he)
    (fun e he => by
      simp only [List.mem_cons, List.not_mem_nil, or_false] at he
      rcases he with rfl | rfl | rfl <;> exact .inl rfl)
    ⟨fun _ => .idle .empty, Inventory.empty.put (.listener oldListener)⟩ rfl).2 oldListener
    (by rw [hkey, Inventory.get_put_self]) rfl
  exact ⟨i, _, l', rfl, hl'⟩

end KafkaOperator
