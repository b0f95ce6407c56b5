import Mathlib
import KafkaOperator.Discovery

/-! # The discovery value

`DiscoveryBuilder.Build` writes the bootstrap servers of the Listeners as one text.

* `discovery_exact`: it fails exactly if an address has no port of the name it looks for; otherwise
  the text has one server for each address, in the order of the list, and can be read back
  (`decodeServers`), also where hosts contain colons.
* `discovery_order_iff`: nothing sorts the list, so the text follows its order.  Whether there is an
  error does not depend on the order, nor which servers there are; the text itself does not depend on
  it exactly if any two Listeners give the same text in both orders. -/

namespace KafkaOperator

open Go

namespace DiscoveryBuilder

/-! ### Reading the value back -/

/-- A server of the value: the host before the last colon, and the port. -/
def decodeServer (s : String) : Option HostPort := do
  let (host, port) ← cutLast ':' s
  let port ← port.toInt?
  pure ⟨host, port⟩

/-- The servers of the value; the empty text has none. -/
def decodeServers (s : String) : Option (List HostPort) :=
  if s = "" then some [] else (split ',' s).mapM decodeServer

theorem not_mem_toString {c : Char} (hdigit : c.isDigit = false) (hne : c ≠ '-') (p : ℤ) :
    c ∉ (toString p).toList := by
  intro hc
  rcases isDigit_of_mem_toString hc with h | h
  · rw [hdigit] at h
    cases h
  · exact hne h

theorem decodeServer_server (h : HostPort) : decodeServer (server h) = some h := by
  have hcut : cutLast ':' (server h) = some (h.host, toString h.port) :=
    cutLast_append h.host (not_mem_toString (by decide) (by decide) h.port)
  have hport : (toString h.port).toInt? = some h.port := Int.toInt?_repr h.port
  simp only [decodeServer, hcut, hport, Option.bind_eq_bind, Option.bind_some]
  rfl

/-- A server has a comma only if its host has one. -/
theorem comma_notMem_server {h : HostPort} (hhost : ',' ∉ h.host.toList) :
    ',' ∉ (server h).toList := by
  have hport := not_mem_toString (c := ',') (by decide) (by decide) h.port
  simp only [server, String.toList_append, List.mem_append, not_or]
  exact ⟨⟨hhost, by decide⟩, hport⟩

theorem mapM_decodeServer (hosts : List HostPort) :
    (hosts.map server).mapM decodeServer = some hosts := by
  induction hosts with
  | nil => rfl
  | cons h hosts ih =>
      rw [List.map_cons, List.mapM_cons, decodeServer_server, ih]
      rfl

/-- **The value can be read back**, if no host contains a comma. -/
theorem decodeServers_makeBootstrapServers {hosts : List HostPort}
    (h : ∀ x ∈ hosts, ',' ∉ x.host.toList) :
    decodeServers (makeBootstrapServers hosts) = some hosts := by
  cases hosts with
  | nil => rfl
  | cons x hosts =>
      have hne : makeBootstrapServers (x :: hosts) ≠ "" := by
        intro hempty
        have hlen := congrArg String.length hempty
        have hserver : (server x).length ≠ 0 := fun h0 =>
          server_ne_empty x (String.length_eq_zero_iff.mp h0)
        rw [makeBootstrapServers, List.map_cons, length_intercalate_cons, String.length_empty] at hlen
        omega
      have hsplit : split ',' (makeBootstrapServers (x :: hosts)) = (x :: hosts).map server := by
        refine split_intercalate (by simp) ?_
        intro s hs
        obtain ⟨y, hy, rfl⟩ := List.mem_map.mp hs
        exact comma_notMem_server (h y hy)
      rw [decodeServers, if_neg hne, hsplit, mapM_decodeServer]

/-! ### The value is exact -/

/-- The pair for an address. -/
def IsHostPort (portName : String) (a : IngressAddress) (h : HostPort) : Prop :=
  h.host = a.address ∧ a.ports.get portName = some h.port

/-- One pair for each address, in order. -/
theorem forall₂_hostPort {portName : String} {addrs : List IngressAddress}
    (h : PortPublished portName addrs) :
    List.Forall₂ (IsHostPort portName) addrs (addrs.filterMap (hostPort portName)) := by
  induction addrs with
  | nil => exact .nil
  | cons a addrs ih =>
      obtain ⟨port, hport⟩ := Option.isSome_iff_exists.mp (h a List.mem_cons_self)
      have hpair : hostPort portName a = some ⟨a.address, port⟩ := by
        rw [hostPort, hport]
        rfl
      rw [List.filterMap_cons_some hpair]
      exact .cons ⟨rfl, hport⟩ (ih (fun a' ha' => h a' (List.mem_cons_of_mem _ ha')))

theorem not_portPublished_iff {portName : String} {items : List Listener} :
    ¬ PortPublished portName (addresses items) ↔
      ∃ l ∈ items, ∃ a ∈ l.ingressAddresses.getD [], a.ports.get portName = none := by
  simp only [PortPublished, addresses, List.mem_flatMap, not_forall, Option.not_isSome_iff_eq_none,
    exists_prop]
  constructor
  · rintro ⟨a, ⟨l, hl, ha⟩, hnone⟩
    exact ⟨l, hl, a, ha, hnone⟩
  · rintro ⟨l, hl, a, ha, hnone⟩
    exact ⟨a, ⟨l, hl, ha⟩, hnone⟩

theorem listenerHosts_err_iff {items : List Listener} {portName : String} :
    (∃ e, listenerHosts items portName = .err e) ↔ ¬ PortPublished portName (addresses items) := by
  rw [listenerHosts_eq]
  by_cases h : PortPublished portName (addresses items)
  · simp [h]
  · simp [h]

/-- **Discovery is exact.**  `listenerHosts` fails exactly if an address of a Listener has no port of
the name, and then `Build` returns no ConfigMap.  Otherwise it gives one pair for each address, in the
order of the list, and `Build` publishes them.  The published text can be read back wherever no
host contains a comma. -/
theorem discovery_exact (items : List Listener) (portName : String) :
    ((∃ e, listenerHosts items portName = .err e) ↔
      ∃ l ∈ items, ∃ a ∈ l.ingressAddresses.getD [], a.ports.get portName = none) ∧
    (∀ b : DiscoveryBuilder, b.portName = portName → (∃ e, listenerHosts items portName = .err e) →
      ∃ e, b.build (.ok items) = .err e) ∧
    ((¬ ∃ e, listenerHosts items portName = .err e) → ∃ hosts,
      listenerHosts items portName = .ok hosts ∧
      List.Forall₂ (IsHostPort portName) (items.flatMap (fun l => l.ingressAddresses.getD [])) hosts ∧
      ∀ b : DiscoveryBuilder, b.portName = portName → ∃ cm, b.build (.ok items) = .ok cm ∧
        cm.data.get kafkaDiscoveryKey = some (.text (makeBootstrapServers hosts))) ∧
    ∀ hosts : List HostPort, (∀ h ∈ hosts, ',' ∉ h.host.toList) →
      decodeServers (makeBootstrapServers hosts) = some hosts := by
  refine ⟨listenerHosts_err_iff.trans not_portPublished_iff, ?_, ?_,
    fun hosts => decodeServers_makeBootstrapServers⟩
  · rintro b rfl herr
    exact ⟨_, b.build_of_not_published (listenerHosts_err_iff.mp herr)⟩
  · intro hok
    have hpublished := not_not.mp (mt listenerHosts_err_iff.mpr hok)
    refine ⟨_, (listenerHosts_eq items portName).trans (if_pos hpublished),
      forall₂_hostPort hpublished, ?_⟩
    rintro b rfl
    exact ⟨_, b.build_of_published hpublished, Map.get_set_self _ _ _⟩

/-! ### The order of the list -/

/-- The servers of one Listener. -/
def listenerServers (portName : String) (l : Listener) : List String :=
  ((l.ingressAddresses.getD []).filterMap (hostPort portName)).map server

theorem servers_eq (b : DiscoveryBuilder) (items : List Listener) :
    b.servers items = ",".intercalate (items.flatMap (listenerServers b.portName)) := by
  rw [servers, makeBootstrapServers, addresses, List.filterMap_flatMap, List.map_flatMap]
  rfl

theorem portPublished_perm {portName : String} {items items' : List Listener}
    (hperm : items'.Perm items) :
    PortPublished portName (addresses items') ↔ PortPublished portName (addresses items) := by
  have haddrs : (addresses items').Perm (addresses items) := hperm.flatMap_right _
  exact ⟨fun h a ha => h a (haddrs.mem_iff.mpr ha), fun h a ha => h a (haddrs.mem_iff.mp ha)⟩

variable (b : DiscoveryBuilder)

theorem build_err_iff {items : List Listener} :
    (∃ e, b.build (.ok items) = .err e) ↔ ¬ PortPublished b.portName (addresses items) := by
  by_cases h : PortPublished b.portName (addresses items)
  · rw [b.build_of_published h]
    simp [h]
  · rw [b.build_of_not_published h]
    simp [h]

/-- Two lists that can be published give the same ConfigMap exactly if they give the same text. -/
theorem build_eq_iff {items items' : List Listener}
    (h : PortPublished b.portName (addresses items))
    (h' : PortPublished b.portName (addresses items')) :
    b.build (.ok items') = b.build (.ok items) ↔ b.servers items' = b.servers items := by
  rw [b.build_of_published h, b.build_of_published h']
  constructor
  · intro heq
    have hdata := congrArg (fun cm : ConfigMap => cm.data.get kafkaDiscoveryKey) (Outcome.ok.inj heq)
    simpa using hdata
  · intro heq
    rw [heq]

/-- **The order of the list.**  A permutation of the Listeners changes neither whether `Build` fails
nor which servers it publishes.  It changes nothing at all, whatever it is, exactly if `Build` fails
or any two of the Listeners give the same text in both orders. -/
theorem discovery_order_iff (items : List Listener) :
    (∀ items' : List Listener, items'.Perm items →
      ((∃ e, b.build (.ok items') = .err e) ↔ ∃ e, b.build (.ok items) = .err e) ∧
      (items'.flatMap (listenerServers b.portName)).Perm
        (items.flatMap (listenerServers b.portName)) ∧
      ∀ cm, b.build (.ok items') = .ok cm → cm.data.get kafkaDiscoveryKey =
        some (.text (",".intercalate (items'.flatMap (listenerServers b.portName))))) ∧
    ((∀ items' : List Listener, items'.Perm items → b.build (.ok items') = b.build (.ok items)) ↔
      (∃ e, b.build (.ok items) = .err e) ∨
        items.Pairwise (JoinCommute "," (listenerServers b.portName))) := by
  constructor
  · intro items' hperm
    refine ⟨?_, hperm.flatMap_right _, ?_⟩
    · rw [build_err_iff, build_err_iff, portPublished_perm hperm]
    · intro cm hcm
      have hpublished : PortPublished b.portName (addresses items') := by
        by_contra hnot
        rw [b.build_of_not_published hnot] at hcm
        cases hcm
      rw [b.build_of_published hpublished] at hcm
      obtain rfl := Outcome.ok.inj hcm
      rw [← b.servers_eq]
      exact Map.get_set_self _ _ _
  · rw [build_err_iff]
    by_cases h : PortPublished b.portName (addresses items)
    · have hsame : (∀ items' : List Listener, items'.Perm items →
          b.build (.ok items') = b.build (.ok items)) ↔ ∀ items' : List Listener, items'.Perm items →
            ",".intercalate (items'.flatMap (listenerServers b.portName)) =
              ",".intercalate (items.flatMap (listenerServers b.portName)) := by
        refine forall_congr' fun items' => imp_congr_right fun hperm => ?_
        rw [b.build_eq_iff h ((portPublished_perm hperm).mpr h), b.servers_eq, b.servers_eq]
      rw [hsame, intercalate_flatMap_perm_iff, or_iff_right (not_not.mpr h)]
    · refine iff_of_true (fun items' hperm => ?_) (.inl h)
      rw [b.build_of_not_published h, b.build_of_not_published (mt (portPublished_perm hperm).mp h)]

end DiscoveryBuilder

/-! ### Listeners of several role groups -/

/-- The bootstrap Listener of a role group, with one address. -/
def groupListener (group address : String) : Listener :=
  { teamListener "default" address with
    name := "kafkacluster-sample-broker-" ++ group ++ "-bootstrap" }

/-- Two Listeners with an IPv4 and an IPv6 address, and one without addresses. -/
def mixedListeners : List Listener :=
  [groupListener "a" "10.0.0.1", { groupListener "b" "" with ingressAddresses := none },
    groupListener "c" "fd00::1"]

theorem discovery_exact_mixed :
    ∃ hosts, DiscoveryBuilder.listenerHosts mixedListeners "kafka" = .ok hosts ∧
      hosts = [⟨"10.0.0.1", 9092⟩, ⟨"fd00::1", 9092⟩] ∧
      DiscoveryBuilder.decodeServers (DiscoveryBuilder.makeBootstrapServers hosts) = some hosts := by
  have hrun : DiscoveryBuilder.listenerHosts mixedListeners "kafka" =
      .ok [⟨"10.0.0.1", 9092⟩, ⟨"fd00::1", 9092⟩] := rfl
  obtain ⟨-, -, hok, hread⟩ := DiscoveryBuilder.discovery_exact mixedListeners "kafka"
  obtain ⟨hosts, hhosts, -, -⟩ := hok (by simp [hrun])
  obtain rfl := Outcome.ok.inj (hrun.symm.trans hhosts)
  exact ⟨_, hhosts, rfl, hread _ (by decide)⟩

/-- Two Listeners with the same address. -/
def sameListeners : List Listener := [groupListener "a" "10.0.0.1", groupListener "b" "10.0.0.1"]

/-- They can be listed in any order. -/
theorem discovery_order_iff_same : ∀ items : List Listener, items.Perm sameListeners →
    teamBuilder.build (.ok items) = teamBuilder.build (.ok sameListeners) := by
  have hpairwise : sameListeners.Pairwise
      (JoinCommute "," (DiscoveryBuilder.listenerServers teamBuilder.portName)) := by
    rw [sameListeners, List.pairwise_pair]
    rfl
  exact (teamBuilder.discovery_order_iff sameListeners).2.mpr (.inr hpairwise)

/-- Two Listeners with different addresses cannot. -/
theorem discovery_depends_on_order :
    [groupListener "b" "10.0.0.2", groupListener "a" "10.0.0.1"].Perm
        [groupListener "a" "10.0.0.1", groupListener "b" "10.0.0.2"] ∧
    (∃ cm, teamBuilder.build (.ok [groupListener "a" "10.0.0.1", groupListener "b" "10.0.0.2"]) =
        .ok cm ∧
      cm.data.get kafkaDiscoveryKey = some (.text "10.0.0.1:9092,10.0.0.2:9092")) ∧
    ∃ cm, teamBuilder.build (.ok [groupListener "b" "10.0.0.2", groupListener "a" "10.0.0.1"]) =
        .ok cm ∧
      cm.data.get kafkaDiscoveryKey = some (.text "10.0.0.2:9092,10.0.0.1:9092") :=
  ⟨List.Perm.swap _ _ _, ⟨_, rfl, rfl⟩, ⟨_, rfl, rfl⟩⟩

end KafkaOperator
