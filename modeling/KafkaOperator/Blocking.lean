import KafkaOperator.SystemInvariants
import KafkaOperator.Wanted

/-! # A role group that cannot be built

A pass stops at the first resource whose `Build` fails.  The ConfigMap of a role group that enables
vector, in a cluster that names no aggregator, can never be built (`Admitted.configMap_fails`).  The
role groups are visited in any order, so other groups may get their objects in some pass, but what
comes after that ConfigMap in every order is never written: the group's own StatefulSet and Listener,
and the discovery ConfigMaps of the whole cluster.

`vector_without_aggregator_blocks` says this of every run, with passes over other clusters
interleaved; and that no pass over the cluster ever ends with the zero result. -/

namespace KafkaOperator

open Go

/-! ### The setting of the user -/

/-- The role group enables vector, and the cluster names no aggregator. -/
structure KafkaCluster.VectorWithoutAggregator (cluster : KafkaCluster) (g : String) : Prop where
  admitted : ∃ spec, Admitted cluster spec ∧ (spec.groups.get g).isSome ∧
    spec.vectorAgent g = some true
  aggregator : ∀ cc, cluster.spec.clusterConfig = some cc → cc.vectorAggregatorConfigMapName = ""

/-! ### The resource that fails -/

section Registered

variable {lib : Library} {cluster : KafkaCluster} {g : String} {spec : BrokersSpec}
  {res : ClusterResources} {h : Heap} {b : RoleGroupResources}

/-- The configuration that the group's ConfigMap is built from enables vector. -/
theorem Admitted.vector_enabled (hadm : Admitted cluster spec)
    (hreg : RegistersIn lib.op cluster spec res h) (hb : b ∈ res.roleGroups)
    (hagent : spec.vectorAgent b.configMap.info.roleGroupName = some true) :
    ∃ x, isVectorEnable x.logging = .ok true ∧
      ∀ h', h'.configs = h.configs → b.configMap.roleGroupConfig h' = some x := by
  obtain ⟨v, x, config, hcm, -, hread, hx, -, -⟩ := hadm.supplied hreg hb
  have hconfig : ∀ h', h'.configs = h.configs → b.configMap.roleGroupConfig h' = some x := by
    intro h' hsame
    simp [KafkaConfigmapBuilder.roleGroupConfig, hcm, hsame, hread, hx]
  refine ⟨x, ?_, hconfig⟩
  obtain ⟨g, filled, -, hbuilt⟩ := hreg.built hb
  rw [hbuilt.roleGroupName] at hagent
  have hmerged := mergedConfig_roleGroupConfig lib.op.consts lib.op.rules cluster.name
    (spec.roleConfig lib.op.consts cluster.name filled) (spec.ownConfig g)
  obtain rfl := Option.some.inj ((hconfig h rfl).symm.trans (hbuilt.roleGroupConfig hmerged))
  obtain ⟨d, -, hvalue⟩ := enableVectorAgent_effective _ _ _ spec filled g hmerged
  rw [hagent, Option.some_or] at hvalue
  obtain ⟨l, hl, henable⟩ := Option.bind_eq_some_iff.mp hvalue
  rw [hl, isVectorEnable, henable, Outcome.deref_some]

/-- **The ConfigMap of the role group is never built**, whatever was built before it and whatever
operator-go makes of the log configuration. -/
theorem KafkaCluster.VectorWithoutAggregator.configMap_fails
    (hvector : cluster.VectorWithoutAggregator g)
    (hreg : RegistersIn lib.op cluster spec res h) (hb : b ∈ res.roleGroups)
    (hname : b.configMap.info.roleGroupName = g) {node : BrokerReconciler} {h' : Heap}
    (hinv : BuildsInv lib.op node spec res.roleGroups h.configs h') (i : StepInput) (api : ApiServer)
    (o : Object) : (ResourceReconciler.configMap b.configMap).desired lib i h' api ≠ .ok o := by
  obtain ⟨spec', hadm, -, hagent⟩ := hvector.admitted
  obtain rfl := Option.some.inj (hreg.brokers.symm.trans hadm.brokers)
  rw [← hname] at hagent
  obtain ⟨x, henabled, hconfig⟩ := hadm.vector_enabled hreg hb hagent
  obtain ⟨cc, hcc⟩ := Option.isSome_iff_exists.mp hadm.clusterConfig
  obtain ⟨-, -, -, -, -, -, -, -, hcluster⟩ := hadm.supplied hreg hb
  intro ho
  obtain ⟨cm, hbuild, -⟩ := ResourceReconciler.desired_configMap ho
  have hkept := buildFiles_keeps (BuildsInv.keeps hb i.orders) Map.empty i.files.list h' hinv
  rcases hfiles : b.configMap.buildFiles lib.op i.orders Map.empty i.files.list h' with ⟨outcome, h₁⟩
  rw [hfiles] at hkept
  rw [KafkaConfigmapBuilder.build] at hbuild
  cases outcome with
  | ok data =>
      -- the files are rendered, and the vector part fails
      have hwithout := (KafkaConfigmapBuilder.buildVector_outcome lib.op (hconfig h₁ hkept.configs)
        (hcluster.trans hcc) data).2.1 henabled (hvector.aggregator cc hcc)
      rw [Prog.bind_of_ok hfiles, Prog.bind_of_err hwithout] at hbuild
      cases hbuild
  | err e =>
      rw [Prog.bind_of_err hfiles] at hbuild
      cases hbuild
  | panic =>
      rw [Prog.bind_of_panic hfiles] at hbuild
      cases hbuild

/-- What a role group without its ConfigMap keeps from being written: its own objects besides its
Services, and discovery. -/
def Purpose.BlockedBy (g : String) (p : Purpose) : Prop :=
  (p.group = some g ∨ p.isDiscovery = true) ∧ p.kind ≠ .service

/-- **The order of registration**: what is blocked comes after the ConfigMap of the role group. -/
theorem RegistersIn.blocked_after (hreg : RegistersIn lib.op cluster spec res h)
    (hb : b ∈ res.roleGroups) (hname : b.configMap.info.roleGroupName = g) :
    ∃ pre post, res.reconcilers = pre ++ .configMap b.configMap :: post ∧
      ∀ p, p.BlockedBy g → ∃ r ∈ ResourceReconciler.configMap b.configMap :: post,
        r.key = cluster.namespacedName.objectKey p := by
  obtain ⟨k, image, -, hnode, -, hdisc, hnodePort⟩ := hreg.parts
  have hns : res.node.kubeNamespace = cluster.kubeNamespace := by rw [hnode]; rfl
  have hkey : (⟨res.node.kubeNamespace, res.node.clusterName⟩ : ClusterKey) =
      cluster.namespacedName := by rw [hnode]; rfl
  obtain ⟨before, after, hsplit⟩ := List.mem_iff_append.mp hb
  refine ⟨.serviceAccount res.node.kubeNamespace res.serviceAccount ::
      (before.flatMap (fun b => b.reconcilers res.node.kubeNamespace) ++
        [.service res.node.kubeNamespace b.service]),
    [.statefulSet b.statefulSet b.stopped, .listener b.listener,
      .service res.node.kubeNamespace b.metricsService] ++
      (after.flatMap (fun b => b.reconcilers res.node.kubeNamespace) ++
        [.discovery res.node.kubeNamespace res.discovery,
          .discovery res.node.kubeNamespace res.nodePortDiscovery]), ?_, ?_⟩
  · rw [ClusterResources.reconcilers_eq, hsplit]
    simp [RoleGroupResources.reconcilers]
  · rintro p ⟨hp, hkind⟩
    rcases hp with hgroup | hdiscovery
    · -- a key of the role group, and not of a Service
      obtain ⟨name, filled, -, hbuilt⟩ := hreg.built hb
      obtain rfl := hbuilt.roleGroupName.symm.trans hname
      have hmem : cluster.namespacedName.objectKey p ∈
          (b.reconcilers res.node.kubeNamespace).map ResourceReconciler.key := by
        obtain ⟨_, _, _, rfl⟩ := hbuilt.registered
        rw [keys_roleGroupResources (by rw [hnode]; rfl), hkey]
        exact List.mem_map_of_mem (group_of_mem_groupPurposes.mpr hgroup)
      obtain ⟨r, hr, hrkey⟩ := List.mem_map.mp hmem
      have hservice : ∀ ns sb, r ≠ .service ns sb := by
        rintro ns sb rfl
        exact hkind (congrArg ObjectKey.kind hrkey).symm
      refine ⟨r, ?_, hrkey⟩
      simp only [RoleGroupResources.reconcilers, List.mem_cons, List.not_mem_nil, or_false] at hr
      rcases hr with rfl | rfl | rfl | rfl | rfl
      · exact (hservice _ _ rfl).elim
      · simp
      · simp
      · simp
      · exact (hservice _ _ rfl).elim
    · cases p with
      | discovery =>
          refine ⟨.discovery res.node.kubeNamespace res.discovery, by simp, ?_⟩
          simp only [ResourceReconciler.key, hns, hdisc]
          rfl
      | nodePortDiscovery =>
          refine ⟨.discovery res.node.kubeNamespace res.nodePortDiscovery, by simp, ?_⟩
          simp only [ResourceReconciler.key, hns, hnodePort]
          rfl
      | _ => cases hdiscovery

/-- What comes before the ConfigMap of the role group is not blocked. -/
theorem RegistersIn.exists_split (hreg : RegistersIn lib.op cluster spec res h)
    (hb : b ∈ res.roleGroups) (hname : b.configMap.info.roleGroupName = g) :
    ∃ pre post, res.reconcilers = pre ++ .configMap b.configMap :: post ∧
      ∀ r ∈ pre, ¬ ∃ p, p.BlockedBy g ∧ cluster.namespacedName.objectKey p = r.key := by
  obtain ⟨pre, post, hsplit, hafter⟩ := hreg.blocked_after hb hname
  have hpairs := hreg.keys_pairwise
  rw [hsplit, List.pairwise_append] at hpairs
  refine ⟨pre, post, hsplit, ?_⟩
  rintro r hr ⟨p, hp, hkey⟩
  obtain ⟨r', hr', hkey'⟩ := hafter p hp
  have hkind : r.key.kind ≠ .service := by
    rw [← hkey]
    exact hp.2
  exact hpairs.2.2 r hr r' hr' hkind (hkey.symm.trans hkey'.symm)

end Registered

/-! ### Runs -/

/-- A pass that reads such a specification spares what is blocked. -/
theorem Worker.start_spares_blocked {lib : Library} {c : ClusterKey} {g : String}
    (i : PassInput) {stored : Option { cluster : KafkaCluster // cluster.namespacedName = c }}
    (hvector : ∀ cluster, stored = some cluster → cluster.val.VectorWithoutAggregator g) :
    (Worker.start lib i stored).Spares lib (Purpose.BlockedBy g) := by
  rcases Worker.start_cases lib i stored with
    ⟨cluster, res, h, rfl, -, hrun, hheap, htodo⟩ | ⟨htodo, -⟩
  · obtain ⟨spec, hreg⟩ := registersIn_of_register hrun
    have hcluster := hvector cluster rfl
    obtain ⟨spec', hadm, hgroup, -⟩ := hcluster.admitted
    obtain rfl := Option.some.inj (hreg.brokers.symm.trans hadm.brokers)
    obtain ⟨node, hinv⟩ := hadm.buildsInv hreg
    obtain ⟨b, hb, hname⟩ := hreg.exists_built g hgroup
    obtain ⟨pre, post, hsplit, hpre⟩ := hreg.exists_split hb hname
    refine ⟨BuildsInv lib.op node spec res.roleGroups h.configs, ?_, ?_, ?_⟩
    · rw [hheap]
      exact hinv
    · rw [htodo]
      exact fun r hr i h => heapAfter_keeps hr i
    · rw [htodo, hsplit, ← cluster.property]
      exact Guarded.of_append hpre
        (fun i h api o hinv' => hcluster.configMap_fails hreg hb hname hinv' i api o)
  · exact Worker.spares_of_nil htodo

/-- The loop over the resources of such a cluster does not come to its end. -/
theorem KafkaCluster.VectorWithoutAggregator.reconcile_ne_zero {cluster : KafkaCluster} {g : String}
    (hvector : cluster.VectorWithoutAggregator g) {lib : Library} {i : PassInput}
    {res : ClusterResources} {h : Heap} (hrun : cluster.register lib i = (.ok res, h))
    (input : ResourceReconciler → StepInput) (api : ApiServer) :
    (res.reconcile lib input ⟨h, api⟩).1 ≠ .ok .zero := by
  intro hzero
  obtain ⟨spec, hreg⟩ := registersIn_of_register hrun
  obtain ⟨spec', hadm, hgroup, -⟩ := hvector.admitted
  obtain rfl := Option.some.inj (hreg.brokers.symm.trans hadm.brokers)
  obtain ⟨node, hinv⟩ := hadm.buildsInv hreg
  obtain ⟨b, hb, hname⟩ := hreg.exists_built g hgroup
  rw [ClusterResources.reconcile_eq] at hzero
  have hmem : .configMap b.configMap ∈ res.reconcilers :=
    res.mem_reconcilers.mpr (.inr (.inl ⟨b, hb, by simp [RoleGroupResources.reconcilers]⟩))
  -- a loop that goes on has not come to the ConfigMap
  suffices hdone : ∃ w : World, BuildsInv lib.op node spec res.roleGroups h.configs w.heap ∧
      .configMap b.configMap ∉ res.reconcilers by
    obtain ⟨w, -, hnot⟩ := hdone
    exact hnot hmem
  refine ⟨_, reconcileAll_zero_induction (I := fun done w =>
    BuildsInv lib.op node spec res.roleGroups h.configs w.heap ∧ .configMap b.configMap ∉ done)
    ?_ ⟨hinv, List.not_mem_nil⟩ (Prod.ext hzero rfl)⟩
  rintro done r rest w w' hsplit ⟨hinv', hnot⟩ hr
  obtain rfl : (r.reconcile lib (input r) ⟨w.heap, w.api⟩).2 = w' := congrArg Prod.snd hr
  refine ⟨?_, ?_⟩
  · rw [ResourceReconciler.reconcile_heap]
    exact heapAfter_keeps (by simp [hsplit]) (input r) hinv'
  · simp only [List.mem_append, List.mem_singleton, not_or]
    refine ⟨hnot, ?_⟩
    rintro rfl
    have hfail := ResourceReconciler.reconcile_of_fail (fun o =>
      hvector.configMap_fails hreg hb hname hinv' (input (.configMap b.configMap)) w.api o)
    exact hfail.1 _ (congrArg Prod.fst hr)

/-- No pass over such a cluster is ever done. -/
theorem KafkaCluster.VectorWithoutAggregator.not_done {cluster : KafkaCluster} {g : String}
    (hvector : cluster.VectorWithoutAggregator g) {lib : Library} (i : PassInput)
    (api : ApiServer) : (reconcile lib i (some cluster) api).1 ≠ .ok .zero := by
  cases hget : i.getFault with
  | some msg => simp [reconcile, hget]
  | none =>
      rcases hrun : cluster.register lib i with ⟨o, h⟩
      cases o with
      | ok res =>
          have hne := hvector.reconcile_ne_zero hrun i.step api
          simp only [reconcile, hget, hrun, Prog.andThen_of_ne hne]
          exact hne
      | err msg => simp [reconcile, hget, hrun]
      | panic => simp [reconcile, hget, hrun]

/-- **A role group with vector and no aggregator blocks the cluster.**  In every run in which all
passes over the cluster read a specification with such a group, interleaved in any way with passes
over other clusters: the group's ConfigMap, StatefulSet and Listener and both discovery ConfigMaps
stay as they were, in whatever orders the role groups are visited; and no pass ends with the zero
result. -/
theorem vector_without_aggregator_blocks (lib : Library) (c : ClusterKey) (g : String)
    (es : List Event)
    (hvector : ∀ i cluster, Event.request c i (some cluster) ∈ es →
      cluster.val.VectorWithoutAggregator g)
    (hremove : ∀ p, Event.remove c p ∈ es → ¬ p.BlockedBy g)
    (hapart : ∀ e ∈ es, e.cluster = c ∨ Apart c e.cluster) (s : System)
    (hidle : (s.workers c).todo = []) :
    (∀ p, p.BlockedBy g →
      (es.foldl (System.next lib) s).api.specAt Object.spec (c.objectKey p) =
        s.api.specAt Object.spec (c.objectKey p)) ∧
    ∀ i cluster, Event.request c i (some cluster) ∈ es →
      ∀ api, (reconcile lib i (some cluster.val) api).1 ≠ .ok .zero := by
  constructor
  · refine System.spared_run lib (fun p hp => hp.2) hapart (fun i stored he => ?_) hremove hidle
    exact Worker.start_spares_blocked i (fun cluster heq => hvector i cluster (heq ▸ he))
  · intro i cluster he api
    exact (hvector i cluster he).not_done i api

theorem vectorCluster_withoutAggregator : vectorCluster.VectorWithoutAggregator "default" where
  admitted := ⟨vectorBrokers, vectorCluster_admitted, rfl, rfl⟩
  aggregator cc hcc := by
    obtain rfl := Option.some.inj hcc
    rfl

/-- Any number of passes over the cluster, each of which requeues after its write. -/
theorem vector_without_aggregator_blocks_default : ∃ i : PassInput, ∀ n : ℕ,
    ((List.replicate n (passEvents .reference i (some ⟨vectorCluster, rfl⟩))).flatten.foldl
        (System.next .reference) ⟨fun _ => .idle .empty, Inventory.empty⟩).api.specAt Object.spec
          (vectorCluster.namespacedName.objectKey .discovery) = none := by
  obtain ⟨i, -, -⟩ := PassInput.exists_quiet
  refine ⟨i, fun n => (vector_without_aggregator_blocks .reference vectorCluster.namespacedName
    "default" _ ?_ ?_ ?_ _ rfl).1 .discovery ⟨.inr rfl, by simp [Purpose.kind]⟩⟩
  · intro j cluster he
    rcases of_mem_passes he with heq | ⟨r, heq⟩
    · simp only [Event.request.injEq, heq_eq_eq, Option.some.injEq] at heq
      rw [heq.2.2]
      exact vectorCluster_withoutAggregator
    · cases heq
  · intro p he
    rcases of_mem_passes he with heq | ⟨r, heq⟩ <;> cases heq
  · intro e he
    rcases of_mem_passes he with rfl | ⟨r, rfl⟩ <;> exact .inl rfl

end KafkaOperator
