import KafkaOperator.Settling

/-! # What a finished pass leaves

What can be read off the result of one pass, whatever the API server held before.

* `reconcile_done_iff`: where every write asks for another pass, `Reconcile` reports that nothing is
  left to do exactly if every registered object is stored as it should be and every role group has
  as many ready replicas as its specification asks for; and then it has written nothing.
* `discovery_after_pass`: where the resources are reconciled to the end, both discovery ConfigMaps
  list exactly the addresses of the labelled Listeners that are then stored, those of the cluster's
  own role groups among them. -/

namespace KafkaOperator

open Go

/-! ### Replicas -/

/-- The StatefulSet of a role group has the replicas of the specification. -/
theorem registerRoleGroup_replicas {op : OperatorGo} {r : BrokerReconciler}
    {orders : String → Orders} {e : String × Option BrokersRoleGroupSpec} {b : RoleGroupResources}
    {h h' : Heap} (hrun : r.registerRoleGroup op orders e h = (.ok b, h')) :
    ∃ rg, e.2 = some rg ∧ b.statefulSet.replicas = rg.replicas ∧
      b.statefulSet.info = r.roleGroupInfo e.1 := by
  obtain ⟨rg, h₁, hrg, hrun⟩ := Prog.bind_eq_ok.mp hrun
  obtain ⟨_, h₂, -, hrun⟩ := Prog.bind_eq_ok.mp hrun
  obtain ⟨_, h₃, -, hrun⟩ := Prog.bind_eq_ok.mp hrun
  obtain ⟨_, h₄, -, hrun⟩ := Prog.bind_eq_ok.mp hrun
  obtain ⟨_, h₅, -, hrun⟩ := Prog.bind_eq_ok.mp hrun
  obtain ⟨_, h₆, -, hrun⟩ := Prog.bind_eq_ok.mp hrun
  obtain ⟨_, h₇, -, hrun⟩ := Prog.bind_eq_ok.mp hrun
  obtain rfl := Outcome.ok.inj (Prod.mk.inj hrun).1
  exact ⟨rg, Outcome.deref_eq_ok.mp (Prod.mk.inj hrg).1, rfl, rfl⟩

section Registered

variable {lib : Library} {cluster : KafkaCluster} {spec : BrokersSpec} {res : ClusterResources}
  {h : Heap}

/-- Every role group of the specification has a StatefulSet with its replicas. -/
theorem RegistersIn.replicas (hreg : RegistersIn lib.op cluster spec res h) :
    ∃ l, spec.groups.Ranges l ∧ Visited (fun _ e b => ∃ rg, e.2 = some rg ∧
      b.statefulSet.replicas = rg.replicas ∧ b.statefulSet.info = res.node.roleGroupInfo e.1)
      l res.roleGroups := by
  obtain ⟨orders, l, hl, hrun⟩ := hreg.run
  obtain ⟨k, image, -, -, -, hbrokers⟩ := Reconciler.registerResources_eq_ok hrun
  obtain ⟨_, h₁, -, hvisit⟩ := Prog.bind_eq_ok.mp hbrokers
  refine ⟨l, hl, ?_⟩
  refine (Triple.visit (E := True) (X := True) (fun done bs _ => Visited (fun _ e b => ∃ rg,
    e.2 = some rg ∧ b.statefulSet.replicas = rg.replicas ∧
      b.statefulSet.info = res.node.roleGroupInfo e.1) done bs) ?_).elim Visited.nil hvisit
  intro done e rest bs _ s hs
  rcases hstep : res.node.registerRoleGroup lib.op orders e s with ⟨o, s'⟩
  cases o with
  | ok b => exact hs.snoc (registerRoleGroup_replicas hstep)
  | err msg => trivial
  | panic => trivial

/-! ### Ready -/

/-- All resources are ready exactly if each is. -/
theorem ready_eq_zero_iff (lib : Library) (res : ClusterResources) (api : ApiServer) :
    (res.ready lib api).1 = .ok .zero ↔ ∀ r ∈ res.reconcilers, (r.ready lib api).1 = .ok .zero := by
  rw [ClusterResources.ready_eq]
  induction res.reconcilers with
  | nil => simp [reconcileAll]
  | cons r rs ih =>
      rw [reconcileAll_cons, List.forall_mem_cons]
      by_cases hzero : (r.ready lib api).1 = .ok .zero
      · rw [Prog.andThen_of_zero (Prod.ext hzero (r.ready_snd lib api))]
        simp [hzero, ih]
      · rw [Prog.andThen_of_ne hzero]
        simp [hzero]

/-- Only StatefulSets can be not ready. -/
theorem ResourceReconciler.ready_zero {r : ResourceReconciler} (hr : r.key.kind ≠ .statefulSet)
    (lib : Library) (api : ApiServer) : (r.ready lib api).1 = .ok .zero := by
  cases r with
  | statefulSet b stopped => exact absurd rfl hr
  | _ => simp only [ResourceReconciler.ready, lib.readyResource_eq, Prog.pure_apply]

/-- The key of a registered StatefulSet. -/
theorem RegistersIn.statefulSet_key (hreg : RegistersIn lib.op cluster spec res h)
    {b : RoleGroupResources} (hb : b ∈ res.roleGroups) :
    (⟨.statefulSet, b.statefulSet.kubeNamespace, b.statefulSet.info.getFullName⟩ : ObjectKey) =
      cluster.namespacedName.objectKey (.statefulSet b.statefulSet.info.roleGroupName) := by
  obtain ⟨k, image, -, -, hnode⟩ := hreg.node
  obtain ⟨name, filled, -, hbuilt⟩ := hreg.built hb
  obtain ⟨_, _, _, rfl⟩ := hbuilt.registered
  have hfull := getFullName_eq cluster.name name
  rw [hnode]
  simp only [BrokerReconciler.roleGroupResources, BrokerReconciler.roleGroupInfo,
    Reconciler.newBrokerReconciler, newClusterReconciler, ClusterKey.objectKey, Purpose.kind,
    resourceName, KafkaCluster.namespacedName, hfull]

/-- The two builders of a role group are for the same group. -/
theorem RegistersIn.statefulSet_info (hreg : RegistersIn lib.op cluster spec res h)
    {b : RoleGroupResources} (hb : b ∈ res.roleGroups) : b.statefulSet.info = b.configMap.info := by
  obtain ⟨name, filled, -, hbuilt⟩ := hreg.built hb
  obtain ⟨_, _, _, rfl⟩ := hbuilt.registered
  rfl

/-- In a settled state the StatefulSet of a role group is stored with the group's replicas. -/
theorem RegistersIn.stored_statefulSet (hreg : RegistersIn lib.op cluster spec res h)
    {input : ResourceReconciler → StepInput} {api : ApiServer}
    (hsettled : Settled Object.update (res.plan lib input h) api) {b : RoleGroupResources}
    (hb : b ∈ res.roleGroups) :
    ∃ sts n, api.get ⟨.statefulSet, b.statefulSet.kubeNamespace, b.statefulSet.info.getFullName⟩ =
      some (.statefulSet sts n) ∧ sts.replicas = b.statefulSet.replicas := by
  have hmem : ResourceReconciler.statefulSet b.statefulSet b.stopped ∈ res.reconcilers :=
    res.mem_reconcilers.mpr (.inr (.inl ⟨b, hb, by simp [RoleGroupResources.reconcilers]⟩))
  obtain ⟨h', ht⟩ := exists_mem_plan hmem
  obtain ⟨o, ho, v, hv, hmerge⟩ := hsettled _ ht
  rw [Task.key_desired _ _ _ ho] at hv
  obtain ⟨sts, hsts, rfl⟩ := ResourceReconciler.desired_statefulSet ho
  rw [hreg.not_stopped hb] at hsts
  obtain ⟨config, -, hbuild⟩ := Outcome.bind_eq_ok.mp hsts
  have hreplicas : sts.replicas = b.statefulSet.replicas := by
    obtain ⟨w, t, n, -, -, -, rfl⟩ := StatefulSetBuilder.buildFrom_eq_ok hbuild
    rfl
  cases v with
  | statefulSet sts' n =>
      obtain ⟨rfl, -⟩ := Object.statefulSet.inj hmerge
      exact ⟨sts, n, hv, hreplicas⟩
  | _ => cases hmerge

/-- In a settled state all is ready exactly if every role group has its replicas. -/
theorem RegistersIn.ready_iff (hreg : RegistersIn lib.op cluster spec res h)
    {input : ResourceReconciler → StepInput} {api : ApiServer}
    (hsettled : Settled Object.update (res.plan lib input h) api) :
    (res.ready lib api).1 = .ok .zero ↔ ∀ g rg, spec.groups.get g = some (some rg) →
      ∃ sts, api.get (cluster.namespacedName.objectKey (.statefulSet g)) =
        some (.statefulSet sts rg.replicas) := by
  obtain ⟨l, hl, hvisited⟩ := hreg.replicas
  rw [ready_eq_zero_iff]
  constructor
  · intro hready g rg hg
    obtain ⟨done, rest, rfl⟩ := List.mem_iff_append.mp ((hl.2 g (some rg)).mpr hg)
    obtain ⟨b, hb, rg', hrg, hreplicas, hinfo⟩ := hvisited.exists_of_split rfl
    obtain rfl := Option.some.inj hrg
    have hkey := hreg.statefulSet_key hb
    rw [hinfo] at hkey
    obtain ⟨sts, n, hget, hsts⟩ := hreg.stored_statefulSet hsettled hb
    have hzero := hready (.statefulSet b.statefulSet b.stopped)
      (res.mem_reconcilers.mpr (.inr (.inl ⟨b, hb, by simp [RoleGroupResources.reconcilers]⟩)))
    obtain rfl := (lib.readyStatefulSet_iff _ api sts n hget).mp hzero
    rw [hinfo, hkey, hsts, hreplicas] at hget
    exact ⟨sts, hget⟩
  · intro hall r hr
    rcases res.mem_reconcilers.mp hr with rfl | ⟨b, hb, hr⟩ | rfl | rfl
    · exact ResourceReconciler.ready_zero (by simp [ResourceReconciler.key]) lib api
    · simp only [RoleGroupResources.reconcilers, List.mem_cons, List.not_mem_nil, or_false] at hr
      rcases hr with rfl | rfl | rfl | rfl | rfl
      · exact ResourceReconciler.ready_zero (by simp [ResourceReconciler.key]) lib api
      · exact ResourceReconciler.ready_zero (by simp [ResourceReconciler.key]) lib api
      · obtain ⟨before, e, rest, rfl, rg, hrg, hreplicas, hinfo⟩ := hvisited.of_mem hb
        have hgroup := (hl.2 e.1 e.2).mp (by simp)
        rw [hrg] at hgroup
        obtain ⟨sts', hstored⟩ := hall e.1 rg hgroup
        obtain ⟨sts, n, hget, hsts⟩ := hreg.stored_statefulSet hsettled hb
        have hkey := hreg.statefulSet_key hb
        have hname : b.statefulSet.info.roleGroupName = e.1 := by rw [hinfo]; rfl
        refine (lib.readyStatefulSet_iff _ api sts n hget).mpr ?_
        rw [hkey, hname, hstored] at hget
        obtain ⟨rfl, rfl⟩ := Object.statefulSet.inj (Option.some.inj hget)
        exact hreplicas.symm.trans hsts.symm
      · exact ResourceReconciler.ready_zero (by simp [ResourceReconciler.key]) lib api
      · exact ResourceReconciler.ready_zero (by simp [ResourceReconciler.key]) lib api
    · exact ResourceReconciler.ready_zero (by simp [ResourceReconciler.key]) lib api
    · exact ResourceReconciler.ready_zero (by simp [ResourceReconciler.key]) lib api

/-- **When `Reconcile` is done.**  Where every write asks for another pass: the result says that
nothing is left to do exactly if the cluster is registered, every registered object is stored as it
should be, and every role group has as many ready replicas as it asks for; and then nothing has been
written. -/
theorem reconcile_done_iff (lib : Library) (hmutation : lib.onMutation = .requeue) (i : PassInput)
    (hget : i.getFault = none) (hquiet : ∀ r, (i.step r).Quiet) (cluster : KafkaCluster)
    (api : ApiServer) :
    ((reconcile lib i (some cluster) api).1 = .ok .zero ↔
      ∃ res h, cluster.register lib i = (.ok res, h) ∧
        Settled Object.update (res.plan lib i.step h) api ∧
        ∀ g rg, cluster.roleGroups.get g = some (some rg) →
          ∃ sts, api.get (cluster.namespacedName.objectKey (.statefulSet g)) =
            some (.statefulSet sts rg.replicas)) ∧
    ((reconcile lib i (some cluster) api).1 = .ok .zero →
      (reconcile lib i (some cluster) api).2 = api) := by
  rcases hrun : cluster.register lib i with ⟨o, h⟩
  cases o with
  | ok res =>
      obtain ⟨spec, hreg⟩ := registersIn_of_register hrun
      have hgroups := cluster.roleGroups_eq hreg.brokers
      have hiff : (reconcile lib i (some cluster) api).1 = .ok .zero ↔
          Settled Object.update (res.plan lib i.step h) api ∧ (res.ready lib api).1 = .ok .zero := by
        constructor
        · intro hzero
          obtain ⟨-, hne, -⟩ := reconcile_registered hget hquiet hrun api
          rw [hmutation] at hne
          have hsettled : Settled Object.update (res.plan lib i.step h) api := by
            by_contra hnot
            have hloop := mt reconcileAll_eq_zero_iff.mp hnot
            exact hloop ((hne hloop).symm.trans hzero)
          rw [reconcile_of_settled hget hquiet hrun hsettled] at hzero
          exact ⟨hsettled, hzero⟩
        · rintro ⟨hsettled, hready⟩
          rwa [reconcile_of_settled hget hquiet hrun hsettled]
      constructor
      · rw [hiff, hgroups]
        constructor
        · rintro ⟨hsettled, hready⟩
          exact ⟨res, h, rfl, hsettled, (hreg.ready_iff hsettled).mp hready⟩
        · rintro ⟨res', h', heq, hsettled, hall⟩
          obtain ⟨hres, rfl⟩ := Prod.mk.inj heq
          obtain rfl := Outcome.ok.inj hres
          exact ⟨hsettled, (hreg.ready_iff hsettled).mpr hall⟩
      · intro hzero
        rw [reconcile_of_settled hget hquiet hrun (hiff.mp hzero).1]
  | _ =>
      have hnot : (reconcile lib i (some cluster) api).1 ≠ .ok .zero := by
        simp [reconcile, hget, hrun]
      exact ⟨iff_of_false hnot (by rintro ⟨res, h', heq, -⟩; cases heq), fun hzero => absurd hzero hnot⟩

/-- The ready replicas of a StatefulSet do not matter to what is built. -/
theorem desired_report (i : StepInput) (r : ResourceReconciler) {k : ObjectKey}
    (hk : k.kind ≠ .listener) (n : ℤ) (api : ApiServer) :
    r.desired lib i h (api.modify k (Object.report n)) = r.desired lib i h api := by
  unfold Inventory.modify
  cases hget : api.get k with
  | none => rfl
  | some o =>
      refine desired_put i r (fun _ => ?_)
      rwa [Object.key_report, Inventory.key_of_get hget]

/-- A settled state stays settled when ready replicas are reported. -/
theorem settled_report {input : ResourceReconciler → StepInput} {rs : List ResourceReconciler}
    {api : ApiServer} (hsettled : Settled Object.update (plan lib input rs h) api) {k : ObjectKey}
    (hk : k.kind ≠ .listener) (n : ℤ) :
    Settled Object.update (plan lib input rs h) (api.modify k (Object.report n)) := by
  intro t ht
  obtain ⟨o, ho, hold⟩ := hsettled t ht
  obtain ⟨r, -, h', -, rfl⟩ := mem_plan ht
  refine ⟨o, (desired_report (input r) r hk n api).trans ho, ?_⟩
  rw [Inventory.holds_iff_specAt Object.update_sets] at hold ⊢
  rwa [Inventory.specAt_modify (Object.key_report n) (Object.spec_report n)]

/-- Of a cluster with Kerberos and TLS: over an empty API server `Reconcile` is not done; it is over
one that is settled and on which the one replica was reported ready. -/
theorem reconcile_done_iff_secured : ∃ i : PassInput, (∀ r, (i.step r).Quiet) ∧
    (reconcile .reference i (some securedCluster) Inventory.empty).1 ≠ .ok .zero ∧
    ∃ api, reconcile .reference i (some securedCluster) api = (.ok .zero, api) := by
  obtain ⟨i, res, h, api, hget, hquiet, hrun, hreg, hsettled⟩ := securedCluster_settled
  have hdone := fun api => reconcile_done_iff .reference rfl i hget hquiet securedCluster api
  refine ⟨i, hquiet, fun hzero => ?_, ?_⟩
  · obtain ⟨res, h, -, -, hready⟩ := (hdone Inventory.empty).1.mp hzero
    obtain ⟨sts, hsts⟩ := hready "default" _ rfl
    cases hsts
  · obtain ⟨b, hb, hname⟩ := hreg.exists_built "default" rfl
    obtain ⟨sts, n, hstored, -⟩ := hreg.stored_statefulSet hsettled hb
    rw [hreg.statefulSet_key hb, hreg.statefulSet_info hb, hname] at hstored
    have hall := settled_report hsettled (k := securedCluster.namespacedName.objectKey
      (.statefulSet "default")) (by simp [ClusterKey.objectKey, Purpose.kind]) 1
    have hzero := (hdone _).1.mpr ⟨res, h, hrun, hall, fun g rg hg => ?_⟩
    · exact ⟨_, Prod.ext hzero ((hdone _).2 hzero)⟩
    · -- there is one role group, with one replica
      change securedBrokers.groups.get g = _ at hg
      rw [securedBrokers, BrokersSpec.single_get] at hg
      split_ifs at hg with hdefault
      obtain rfl := Option.some.inj (Option.some.inj hg)
      rw [hdefault, Inventory.get_modify (Object.key_report 1), if_pos rfl, hstored]
      exact ⟨sts, rfl⟩

/-! ### Discovery -/

/-- Of the keys of a cluster only those of Services can be those of two resources. -/
theorem RegistersIn.keys_pairwise (hreg : RegistersIn lib.op cluster spec res h) :
    res.reconcilers.Pairwise (fun r r' => r.key.kind ≠ .service → r.key ≠ r'.key) := by
  obtain ⟨l, hl, hkeys⟩ := keys_reconcilers hreg
  have hpurposes : ((purposes (l.map Prod.fst)).map cluster.namespacedName.objectKey).Pairwise
      (fun k k' => k.kind ≠ .service → k ≠ k') := by
    rw [List.pairwise_map]
    exact (purposes_nodup hl.1).imp (fun {p p'} hne hkind heq => hne (objectKey_inj hkind heq))
  rw [← hkeys, List.pairwise_map] at hpurposes
  exact hpurposes

/-- After a loop that was run to its end, every object that is not a Service is as it should be. -/
theorem RegistersIn.upToDate_of_zero (hreg : RegistersIn lib.op cluster spec res h)
    {input : ResourceReconciler → StepInput} (hquiet : ∀ r, (input r).Quiet) {api : ApiServer}
    {w : World} (hzero : res.reconcile lib input ⟨h, api⟩ = (.ok .zero, w)) {r : ResourceReconciler}
    (hr : r ∈ res.reconcilers) (hkind : r.key.kind ≠ .service) :
    ∃ h', (r.task lib (input r) h').UpToDate Object.update w.api := by
  obtain ⟨hfst, hsnd⟩ := reconcileAll_plan lib hquiet res.reconcilers h api
  rw [← ClusterResources.reconcile_eq, hzero] at hfst hsnd
  obtain ⟨pre, post, hsplit⟩ := List.mem_iff_append.mp hr
  have hkeys := hreg.keys_pairwise
  have hlast := res.discovery_last
  rw [hsplit, List.pairwise_append] at hkeys hlast
  obtain ⟨h', hplan⟩ := plan_append lib input pre (r :: post) h
  rw [hsplit, hplan] at hfst hsnd
  have hloop : reconcileAll (Task.run Object.update lib.onMutation) (plan lib input pre h ++
      r.task lib (input r) h' :: plan lib input post (r.heapAfter lib (input r) h')) api =
      (.ok .zero, w.api) := Prod.ext hfst.symm hsnd.symm
  refine ⟨h', Go.upToDate_of_zero hloop ?_ ?_⟩
  · intro s v hv
    refine desired_put _ r (fun hdisc => ?_)
    rw [hv]
    exact kind_of_isDiscovery hdisc
  · intro t' ht'
    obtain ⟨r', hr', h'', -, rfl⟩ := mem_plan ht'
    refine ⟨(List.pairwise_cons.mp hkeys.2.1).1 r' hr' hkind, fun s v hv => ?_⟩
    refine desired_put _ r (fun hdisc => ?_)
    rw [hv]
    exact kind_of_isDiscovery ((List.pairwise_cons.mp hlast.2.1).1 r' hr' hdisc)

/-- The bootstrap Listener of a role group is stored with its label. -/
theorem stored_listener {lib : Library} {i : StepInput} {op : OperatorGo}
    {ownerLabels : Map String String} {ns listenerClass : String}
    {info : RoleGroupInfo} {k : KafkaSecurity} {h : Heap} {api : ApiServer}
    (hdone : ((ResourceReconciler.listener (newRoleGroupBootstrapListener op ownerLabels ns
      listenerClass info k)).task lib i h).UpToDate Object.update api) :
    ∃ l, api.get ⟨.listener, ns, bootstrapListenerName info⟩ = some (.listener l) ∧
      l.labels.get labelListenerBootstrap = some labelValueTrue := by
  obtain ⟨o, ho, v, hv, hmerge⟩ := hdone
  rw [Task.key_desired _ _ _ ho] at hv
  obtain rfl := Outcome.ok.inj ho
  cases v with
  | listener l =>
      have hl := Object.listener.inj hmerge
      refine ⟨l, hv, ?_⟩
      rw [← congrArg Listener.labels hl]
      show (Map.copy _ _).get labelListenerBootstrap = _
      rw [Map.get_copy (i.orders.entries.ranges _)]
      rfl
  | _ => cases hmerge

/-- A discovery ConfigMap that is built is that of the labelled Listeners, and all of their addresses
have the port. -/
theorem buildIn_eq_ok {d : DiscoveryBuilder} {st : ApiState} {cm : ConfigMap}
    (hcm : d.buildIn st = .ok cm) :
    PortPublished d.portName (addresses (st.listMatching labelListenerBootstrap labelValueTrue)) ∧
    cm = ⟨d.name, d.labels, Map.empty.set kafkaDiscoveryKey (.text (d.servers
      (st.listMatching labelListenerBootstrap labelValueTrue)))⟩ := by
  have hports : PortPublished d.portName
      (addresses (st.listMatching labelListenerBootstrap labelValueTrue)) := by
    by_contra hnot
    rw [DiscoveryBuilder.buildIn, d.build_of_not_published hnot] at hcm
    cases hcm
  rw [DiscoveryBuilder.buildIn, d.build_of_published hports] at hcm
  exact ⟨hports, (Outcome.ok.inj hcm).symm⟩

/-- The discovery ConfigMap is stored with the addresses of the labelled Listeners. -/
theorem stored_discovery {i : StepInput} {ns : String} {d : DiscoveryBuilder} {h : Heap}
    {api : ApiServer}
    (hdone : ((ResourceReconciler.discovery ns d).task lib i h).UpToDate Object.update api) :
    PortPublished d.portName
      (addresses ((api.list i.items).listMatching labelListenerBootstrap labelValueTrue)) ∧
    api.get ⟨.configMap, ns, d.name⟩ = some (.configMap ns ⟨d.name, d.labels,
      Map.empty.set kafkaDiscoveryKey (.text (d.servers
        ((api.list i.items).listMatching labelListenerBootstrap labelValueTrue)))⟩) := by
  obtain ⟨o, ho, v, hv, hmerge⟩ := hdone
  rw [Task.key_desired _ _ _ ho] at hv
  obtain ⟨cm, -, hcm, rfl⟩ := ResourceReconciler.desired_discovery ho
  obtain ⟨hports, rfl⟩ := buildIn_eq_ok hcm
  refine ⟨hports, ?_⟩
  cases v <;> first | cases hmerge; exact hv | cases hmerge

/-- The entries of a listing of the stored Listeners. -/
theorem mem_hosts_iff {api : ApiServer} {items : Map.Order ObjectKey Listener} {portName host : String}
    {port : ℤ} :
    (⟨host, port⟩ : HostPort) ∈ (addresses ((api.list items).listMatching labelListenerBootstrap
      labelValueTrue)).filterMap (hostPort portName) ↔
      ∃ k l a, api.get k = some (.listener l) ∧
        l.labels.get labelListenerBootstrap = some labelValueTrue ∧
        a ∈ l.ingressAddresses.getD [] ∧ a.address = host ∧ a.ports.get portName = some port := by
  simp only [List.mem_filterMap, addresses, List.mem_flatMap, ApiState.listMatching,
    List.mem_filter, ApiServer.mem_list, hostPort, Option.map_eq_some_iff, HostPort.mk.injEq,
    decide_eq_true_eq]
  constructor
  · rintro ⟨a, ⟨l, ⟨hl, hlabel⟩, ha⟩, p, hp, rfl, rfl⟩
    exact ⟨_, l, a, hl, hlabel, ha, rfl, hp⟩
  · rintro ⟨k, l, a, hl, hlabel, ha, rfl, hp⟩
    obtain rfl : _ = k := Inventory.key_of_get hl
    exact ⟨a, ⟨l, ⟨hl, hlabel⟩, ha⟩, port, hp, rfl, rfl⟩

/-- Every address of a stored and labelled Listener is among the entries. -/
theorem exists_host {api : ApiServer} {items : Map.Order ObjectKey Listener} {portName : String}
    (hports : PortPublished portName
      (addresses ((api.list items).listMatching labelListenerBootstrap labelValueTrue)))
    {k : ObjectKey} {l : Listener} (hl : api.get k = some (.listener l))
    (hlabel : l.labels.get labelListenerBootstrap = some labelValueTrue) {a : IngressAddress}
    (ha : a ∈ l.ingressAddresses.getD []) : ∃ port, a.ports.get portName = some port ∧
      ⟨a.address, port⟩ ∈ (addresses ((api.list items).listMatching labelListenerBootstrap
        labelValueTrue)).filterMap (hostPort portName) := by
  have hlisted : l ∈ (api.list items).listMatching labelListenerBootstrap labelValueTrue := by
    refine List.mem_filter.mpr ⟨ApiServer.mem_list.mpr ?_, by simp [hlabel]⟩
    rwa [← Inventory.key_of_get hl] at hl
  obtain ⟨port, hport⟩ := Option.isSome_iff_exists.mp
    (hports a (List.mem_flatMap.mpr ⟨l, hlisted, ha⟩))
  exact ⟨port, hport, mem_hosts_iff.mpr ⟨_, l, a, hl, hlabel, ha, rfl, hport⟩⟩

/-- After a loop that was run to its end, the Listener of every role group is stored with its
label. -/
theorem RegistersIn.stored_listener (hreg : RegistersIn lib.op cluster spec res h)
    {input : ResourceReconciler → StepInput} (hquiet : ∀ r, (input r).Quiet) {api : ApiServer}
    {w : World} (hzero : res.reconcile lib input ⟨h, api⟩ = (.ok .zero, w)) {g : String}
    (hg : (spec.groups.get g).isSome) :
    ∃ l, w.api.get (cluster.namespacedName.objectKey (.bootstrapListener g)) = some (.listener l) ∧
      l.labels.get labelListenerBootstrap = some labelValueTrue := by
  obtain ⟨k, image, -, -, hnode⟩ := hreg.node
  obtain ⟨b, hb, hname⟩ := hreg.exists_built g hg
  obtain ⟨name, filled, -, hbuilt⟩ := hreg.built hb
  obtain rfl : g = name := hname.symm.trans hbuilt.roleGroupName
  have hmem : ResourceReconciler.listener b.listener ∈ res.reconcilers :=
    res.mem_reconcilers.mpr (.inr (.inl ⟨b, hb, by simp [RoleGroupResources.reconcilers]⟩))
  obtain ⟨h', hdone⟩ := hreg.upToDate_of_zero hquiet hzero hmem (by simp [ResourceReconciler.key])
  obtain ⟨_, _, _, rfl⟩ := hbuilt.registered
  have hfull := getFullName_eq cluster.name g
  have hkey : (⟨.listener, res.node.kubeNamespace, bootstrapListenerName (res.node.roleGroupInfo g)⟩ :
      ObjectKey) = cluster.namespacedName.objectKey (.bootstrapListener g) := by
    rw [hnode]
    simp only [bootstrapListenerName, BrokerReconciler.roleGroupInfo, Reconciler.newBrokerReconciler,
      newClusterReconciler, ClusterKey.objectKey, Purpose.kind, resourceName,
      KafkaCluster.namespacedName, hfull, String.append_assoc]
  rw [← hkey]
  exact KafkaOperator.stored_listener hdone

/-- **What a pass that was run to its end has published.**  Both discovery ConfigMaps hold one entry
for each address of the labelled Listeners that are stored when the pass ends, and no other; the
Listener of each role group of the cluster is one of them. -/
theorem discovery_after_pass (lib : Library) (i : PassInput) (hquiet : ∀ r, (i.step r).Quiet)
    (cluster : KafkaCluster) (res : ClusterResources) (h : Heap)
    (hrun : cluster.register lib i = (.ok res, h)) (api : ApiServer) (w : World)
    (hzero : res.reconcile lib i.step ⟨h, api⟩ = (.ok .zero, w)) (d : DiscoveryBuilder)
    (hd : d = res.discovery ∨ d = res.nodePortDiscovery) :
    ∃ hosts, w.api.get ⟨.configMap, cluster.kubeNamespace, d.name⟩ =
        some (.configMap cluster.kubeNamespace ⟨d.name, cluster.labels, Map.empty.set kafkaDiscoveryKey
          (.text (DiscoveryBuilder.makeBootstrapServers hosts))⟩) ∧
      (∀ host port, (⟨host, port⟩ : HostPort) ∈ hosts ↔ ∃ k l a, w.api.get k = some (.listener l) ∧
        l.labels.get labelListenerBootstrap = some labelValueTrue ∧
        a ∈ l.ingressAddresses.getD [] ∧ a.address = host ∧ a.ports.get d.portName = some port) ∧
      ∀ g, (cluster.roleGroups.get g).isSome → ∃ l,
        w.api.get (cluster.namespacedName.objectKey (.bootstrapListener g)) = some (.listener l) ∧
        ∀ a ∈ l.ingressAddresses.getD [], ∃ port, a.ports.get d.portName = some port ∧
          ⟨a.address, port⟩ ∈ hosts := by
  obtain ⟨spec, hreg⟩ := registersIn_of_register hrun
  obtain ⟨k, image, -, hnode, -, hdisc, hnodePort⟩ := hreg.parts
  have hns : res.node.kubeNamespace = cluster.kubeNamespace := by rw [hnode]; rfl
  have hlabels : d.labels = cluster.labels := by
    rcases hd with rfl | rfl
    · rw [hdisc]; rfl
    · rw [hnodePort]; rfl
  have hmem : ResourceReconciler.discovery res.node.kubeNamespace d ∈ res.reconcilers := by
    rw [ClusterResources.mem_reconcilers]
    rcases hd with rfl | rfl <;> simp
  obtain ⟨h', hdone⟩ := hreg.upToDate_of_zero hquiet hzero hmem (by simp [ResourceReconciler.key])
  obtain ⟨hports, hstored⟩ := stored_discovery hdone
  generalize (i.step (ResourceReconciler.discovery res.node.kubeNamespace d)).items = items
    at hports hstored
  rw [hns, hlabels] at hstored
  refine ⟨_, hstored, fun host port => mem_hosts_iff, fun g hg => ?_⟩
  have hgroups := cluster.roleGroups_eq hreg.brokers
  obtain ⟨l, hl, hlabel⟩ := hreg.stored_listener hquiet hzero (hgroups ▸ hg)
  exact ⟨l, hl, fun a ha => exists_host hports hl hlabel ha⟩

end Registered

/-- A pass over a settled API server runs to its end, and the Listener of the role group is stored
then. -/
theorem discovery_after_pass_secured : ∃ (i : PassInput) (res : ClusterResources) (h : Heap)
    (api : ApiServer) (w : World) (hosts : List HostPort) (l : Listener),
    res.reconcile .reference i.step ⟨h, api⟩ = (.ok .zero, w) ∧
    w.api.get ⟨.configMap, "default", res.discovery.name⟩ = some (.configMap "default"
      ⟨res.discovery.name, securedCluster.labels, Map.empty.set kafkaDiscoveryKey
        (.text (DiscoveryBuilder.makeBootstrapServers hosts))⟩) ∧
    w.api.get (securedCluster.namespacedName.objectKey (.bootstrapListener "default")) =
      some (.listener l) := by
  obtain ⟨i, res, h, api, -, hquiet, hrun, -, hsettled⟩ := securedCluster_settled
  have hzero : (res.reconcile .reference i.step ⟨h, api⟩).1 = .ok .zero := by
    rw [ClusterResources.reconcile_eq, (reconcileAll_plan _ hquiet res.reconcilers h _).1]
    exact congrArg Prod.fst (reconcileAll_of_settled hsettled)
  obtain ⟨hosts, hstored, -, hgroups⟩ := discovery_after_pass .reference i hquiet securedCluster res
    h hrun api _ (Prod.ext hzero rfl) res.discovery (.inl rfl)
  obtain ⟨l, hl, -⟩ := hgroups "default" rfl
  exact ⟨i, res, h, api, _, hosts, l, Prod.ext hzero rfl, hstored, hl⟩

end KafkaOperator
