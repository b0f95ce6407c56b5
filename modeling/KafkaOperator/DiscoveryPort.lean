import KafkaOperator.Agreement
import KafkaOperator.Discovery

/-! # Discovery finds its own port

The name under which `Build` looks for a port is decided in `discovery.go`.  It finds it among the
ports of an address, which the listener operator publishes under the names in the spec of the
Listener, which are the names of the container ports, which `util.go` decides.  Nothing but these
two conversions links the two decisions.

`discovery_finds_port` says that they agree for every value of the security settings, and that what
is found is the port of a listener that the broker opens for clients. -/

namespace KafkaOperator

open Go

namespace KafkaSecurity

variable (k : KafkaSecurity)

/-- The listener whose port is published. -/
def discoveredListener : KafkaListenerName :=
  if k.isKerberosEnabled then .bootstrap else k.clientListener

/-- The container port whose name is looked up. -/
def discoveredPort : ContainerPort :=
  if k.isKerberosEnabled then ⟨bootstrapPortName, k.bootstrapPort, "TCP"⟩
  else ⟨k.clientPortName, k.clientPort, "TCP"⟩

theorem discoveredListener_mem : k.discoveredListener ∈ k.listenerNames := by
  unfold discoveredListener
  split_ifs with hk
  · simp [listenerNames, hk]
  · exact k.clientListener_mem

theorem discoveredPort_mem : k.discoveredPort ∈ kafkaContainerPorts k := by
  unfold discoveredPort kafkaContainerPorts
  split_ifs with hk
  · exact List.mem_append_right _ (List.mem_singleton_self _)
  · exact List.mem_cons_self

theorem discoveredPort_containerPort :
    k.discoveredPort.containerPort = k.portOf k.discoveredListener := by
  unfold discoveredPort discoveredListener
  split_ifs with hk
  · rfl
  · exact k.portOf_clientListener.symm

/-- A name is declared once, so a port that has it is the one. -/
theorem eq_discoveredPort {p : ContainerPort} (hp : p ∈ kafkaContainerPorts k)
    (hname : p.name = k.discoveredPort.name) : p = k.discoveredPort :=
  List.inj_on_of_nodup_map k.containerPorts_name_nodup hp k.discoveredPort_mem hname

theorem discoveredListener_eq :
    if k.isKerberosEnabled then k.discoveredListener = .bootstrap
    else k.discoveredListener = .client ∨ k.discoveredListener = .clientAuth := by
  unfold discoveredListener clientListener
  split_ifs with hk hc
  · rfl
  · exact .inr rfl
  · exact .inl rfl

end KafkaSecurity

theorem DiscoveryBuilder.portName_eq (b : DiscoveryBuilder) :
    b.portName = b.kafkaSecurity.discoveredPort.name := by
  unfold portName KafkaSecurity.discoveredPort
  split_ifs with hk <;> rfl

/-! ### Listeners of the operator -/

/-- The Listener was built for a role group with these security settings; the status it has got
since is any. -/
def Listener.BuiltWith (op : OperatorGo) (k : KafkaSecurity) (l : Listener) : Prop :=
  ∃ (ownerLabels : Map String String) (kubeNamespace bootstrapListenerClass : String)
    (info : RoleGroupInfo) (o : Orders),
    l = { (newRoleGroupBootstrapListener op ownerLabels kubeNamespace bootstrapListenerClass info
        k).getObject o with ingressAddresses := l.ingressAddresses }

/-- Every address publishes the ports of the spec under their names, and no other. -/
def Listener.PublishesSpec (l : Listener) : Prop :=
  ∀ a ∈ l.ingressAddresses.getD [], ∀ name,
    (a.ports.get name).isSome ↔ name ∈ l.ports.map (·.name)

theorem Listener.BuiltWith.ports_name {op : OperatorGo} {k : KafkaSecurity} {l : Listener}
    (h : l.BuiltWith op k) : l.ports.map (·.name) = (kafkaContainerPorts k).map (·.name) := by
  obtain ⟨labels, ns, cls, info, o, h⟩ := h
  have hports : l.ports = containerPortToListenerPort (kafkaContainerPorts k) :=
    congrArg Listener.ports h
  rw [hports, containerPortToListenerPort, List.map_map]
  rfl

theorem portPublished_discoveredPort {op : OperatorGo} {k : KafkaSecurity} {items : List Listener}
    (hbuilt : ∀ l ∈ items, l.BuiltWith op k) (hpublished : ∀ l ∈ items, l.PublishesSpec) :
    PortPublished k.discoveredPort.name (addresses items) := by
  intro a ha
  obtain ⟨l, hl, ha⟩ := List.mem_flatMap.mp ha
  rw [hpublished l hl a ha, (hbuilt l hl).ports_name]
  exact List.mem_map_of_mem k.discoveredPort_mem

/-- **Discovery finds its own port.**  On Listeners of any number and with any addresses, built with
the security settings of the discovery builder, `Build` succeeds; exactly one container port has the
name it looks up, and exactly one listener of the broker binds that port: `BOOTSTRAP` with Kerberos,
and else `CLIENT` or `CLIENT_AUTH`. -/
theorem discovery_finds_port (op : OperatorGo) (k : KafkaSecurity) (items : List Listener)
    (hbuilt : ∀ l ∈ items, l.BuiltWith op k) (hpublished : ∀ l ∈ items, l.PublishesSpec)
    (b : DiscoveryBuilder) (hb : b.kafkaSecurity = k) :
    (∃ cm, b.build (.ok items) = .ok cm) ∧
      (∃! p, p ∈ kafkaContainerPorts k ∧ p.name = b.portName) ∧
      ∀ p ∈ kafkaContainerPorts k, p.name = b.portName → ∀ kubeNamespace objectName,
        ∃ l ∈ (getKafkaListenerConfig kubeNamespace k objectName).listeners,
          l.port = toString p.containerPort ∧
          (∀ l' ∈ (getKafkaListenerConfig kubeNamespace k objectName).listeners,
            l'.port = toString p.containerPort → l' = l) ∧
          if k.isKerberosEnabled then l.name = .bootstrap
          else l.name = .client ∨ l.name = .clientAuth := by
  subst hb
  have hname := b.portName_eq
  generalize b.kafkaSecurity = k at hbuilt hname ⊢
  refine ⟨?_, ⟨k.discoveredPort, ⟨k.discoveredPort_mem, hname.symm⟩, ?_⟩, ?_⟩
  case refine_1 =>
    exact ⟨_, b.build_of_published (hname ▸ portPublished_discoveredPort hbuilt hpublished)⟩
  case refine_2 =>
    rintro p ⟨hp, hpn⟩
    exact k.eq_discoveredPort hp (hpn.trans hname)
  case refine_3 =>
    intro p hp hpn ns obj
    obtain rfl := k.eq_discoveredPort hp (hpn.trans hname)
    have hmem : ⟨k.discoveredListener, listenerLocalAddress, toString (k.portOf k.discoveredListener)⟩ ∈
        (getKafkaListenerConfig ns k obj).listeners := by
      rw [k.getKafkaListenerConfig_listeners]
      exact List.mem_map_of_mem k.discoveredListener_mem
    have hunique := k.existsUnique_listener ns obj k.discoveredListener_mem
    rw [k.discoveredPort_containerPort]
    refine ⟨_, hmem, rfl, fun l' hl' hport => ?_, k.discoveredListener_eq⟩
    exact hunique.unique ⟨hl', hport⟩ ⟨hmem, rfl⟩

/-- The bootstrap Listener of the team's cluster, reachable under two addresses. -/
def reachableListener (o : Orders) : Listener :=
  { (newRoleGroupBootstrapListener (.reference fun _ => false) Map.empty "default" "cluster-internal"
      ⟨"kafkacluster-sample", roleName, "default"⟩ teamBuilder.kafkaSecurity).getObject o with
    ingressAddresses := some
      [⟨"10.0.0.1", Map.ofList [("kafka", 31092), ("metrics", 30606)]⟩,
        ⟨"10.0.0.2", Map.ofList [("metrics", 30606), ("kafka", 32092)]⟩] }

theorem discovery_finds_port_reachable :
    ∃ l : Listener, l.BuiltWith (.reference fun _ => false) teamBuilder.kafkaSecurity ∧
    l.PublishesSpec ∧ ∃ cm, teamBuilder.build (.ok [l]) = .ok cm := by
  obtain ⟨o⟩ : Nonempty Orders := inferInstance
  have hbuilt : (reachableListener o).BuiltWith (.reference fun _ => false)
      teamBuilder.kafkaSecurity := ⟨_, _, _, _, o, rfl⟩
  have hpublished : (reachableListener o).PublishesSpec := by
    intro a ha name
    rw [hbuilt.ports_name]
    have hports : (kafkaContainerPorts teamBuilder.kafkaSecurity).map (·.name) = ["kafka", "metrics"] := by
      decide
    rw [hports]
    obtain rfl | rfl := List.mem_pair.mp ha <;>
      by_cases hk : name = "kafka" <;> by_cases hm : name = "metrics" <;> simp [Map.ofList, hk, hm]
  refine ⟨reachableListener o, hbuilt, hpublished, ?_⟩
  exact (discovery_finds_port (.reference fun _ => false) teamBuilder.kafkaSecurity [reachableListener o]
    (fun l hl => List.mem_singleton.mp hl ▸ hbuilt) (fun l hl => List.mem_singleton.mp hl ▸ hpublished)
    teamBuilder rfl).1

end KafkaOperator
