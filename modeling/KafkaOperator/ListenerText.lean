import KafkaOperator.GoStrings
import KafkaOperator.Listener

/-! # Reading listeners back from their text

A broker gets its listeners as one text, `NAME://HOST:PORT` joined by commas.  The name of a
listener is any string in the source, so `NamedListener` is a listener with such a name; the
listeners of `Listener.lean`, whose names are the four constants, are a case of it
(`KafkaListener.named_string`).

`parseListeners` reads the text: it is split at the commas, and each part at its first `://` and
then at its last colon.  It gives back the listeners if no part of them has a separator that ends it
(`Separable`); the host may have colons, slashes and blanks (`parseListeners_join`).  The listeners
of `getKafkaListenerConfig` are of this form, whatever the names, as long as these have no comma
(`getKafkaListenerConfig_separable`). -/

namespace KafkaOperator

open Go

/-- `KafkaListener` with any string for a name. -/
structure NamedListener where
  name : String
  host : String
  port : String
deriving DecidableEq, Repr

def NamedListener.string (l : NamedListener) : String :=
  l.name ++ "://" ++ l.host ++ ":" ++ l.port

/-- The two lists of `KafkaListenerConfig`. -/
structure NamedListenerConfig where
  listeners : List NamedListener
  advertisedListeners : List NamedListener
deriving DecidableEq, Repr

namespace NamedListenerConfig

def listenersString (c : NamedListenerConfig) : String :=
  ",".intercalate (c.listeners.map NamedListener.string)

def advertisedListenersString (c : NamedListenerConfig) : String :=
  ",".intercalate (c.advertisedListeners.map NamedListener.string)

end NamedListenerConfig

/-! ### The constants among the names -/

def KafkaListener.named (l : KafkaListener) : NamedListener := ⟨l.name.string, l.host, l.port⟩

def KafkaListenerConfig.named (c : KafkaListenerConfig) : NamedListenerConfig where
  listeners := c.listeners.map KafkaListener.named
  advertisedListeners := c.advertisedListeners.map KafkaListener.named

theorem KafkaListener.named_string (l : KafkaListener) : l.named.string = l.string := rfl

theorem KafkaListenerConfig.named_listenersString (c : KafkaListenerConfig) :
    c.named.listenersString = c.listenersString := by
  rw [NamedListenerConfig.listenersString, named, List.map_map]
  exact congrArg _ (List.map_congr_left (fun l _ => l.named_string))

theorem KafkaListenerConfig.named_advertisedListenersString (c : KafkaListenerConfig) :
    c.named.advertisedListenersString = c.advertisedListenersString := by
  rw [NamedListenerConfig.advertisedListenersString, named, List.map_map]
  exact congrArg _ (List.map_congr_left (fun l _ => l.named_string))

/-! ### The parser -/

/-- Read one listener: the name ends at the first `://`, the host at the last colon. -/
def parseListener (s : String) : Option NamedListener := do
  let (name, address) ← cut "://" s
  let (host, port) ← cutLast ':' address
  some ⟨name, host, port⟩

/-- Read a list of listeners; there are none in the empty text. -/
def parseListeners (s : String) : Option (List NamedListener) :=
  if s = "" then some [] else (split ',' s).mapM parseListener

/-- No part of the listener has a separator that would end it. -/
structure NamedListener.Separable (l : NamedListener) : Prop where
  nameColon : ':' ∉ l.name.toList
  nameComma : ',' ∉ l.name.toList
  hostComma : ',' ∉ l.host.toList
  portColon : ':' ∉ l.port.toList
  portComma : ',' ∉ l.port.toList

namespace NamedListener

variable {l : NamedListener}

theorem Separable.parse (h : l.Separable) : parseListener l.string = some l := by
  have hcut : cut "://" l.string = some (l.name, l.host ++ String.singleton ':' ++ l.port) := by
    have hstring : l.string = l.name ++ "://" ++ (l.host ++ String.singleton ':' ++ l.port) := by
      simp only [string, String.append_assoc]
      rfl
    rw [hstring]
    exact cut_append rfl h.nameColon _
  have hlast := cutLast_append l.host h.portColon
  simp only [parseListener, hcut, hlast, Option.bind_eq_bind, Option.bind_some]

theorem Separable.comma (h : l.Separable) : ',' ∉ l.string.toList := by
  simp only [string, String.toList_append, List.mem_append, not_or]
  exact ⟨⟨⟨⟨h.nameComma, by decide⟩, h.hostComma⟩, by decide⟩, h.portComma⟩

/-- The text of a listener is longer than its separators. -/
theorem string_ne_empty (l : NamedListener) : l.string ≠ "" := by
  intro h
  have hlen := congrArg String.length h
  simp only [string, String.length_append] at hlen
  have hsep : "://".length = 3 := rfl
  have hempty : "".length = 0 := rfl
  omega

end NamedListener

/-- Reading undoes joining. -/
theorem parseListeners_join {l : List NamedListener} (h : ∀ x ∈ l, x.Separable) :
    parseListeners (",".intercalate (l.map NamedListener.string)) = some l := by
  cases l with
  | nil => rfl
  | cons x l =>
      have hne : ",".intercalate ((x :: l).map NamedListener.string) ≠ "" := by
        intro he
        have hlen := congrArg String.length he
        rw [List.map_cons, length_intercalate_cons] at hlen
        have hx : x.string.length ≠ 0 := mt String.length_eq_zero_iff.mp x.string_ne_empty
        have hempty : "".length = 0 := rfl
        omega
      have hcomma : ∀ s ∈ (x :: l).map NamedListener.string, ',' ∉ s.toList := by
        intro s hs
        obtain ⟨y, hy, rfl⟩ := List.mem_map.mp hs
        exact (h y hy).comma
      have hsplit := split_intercalate (List.map_eq_nil_iff.not.mpr (List.cons_ne_nil x l)) hcomma
      rw [parseListeners, if_neg hne]
      exact (congrArg (List.mapM parseListener) hsplit).trans
        (mapM_map_eq_some (fun y hy => (h y hy).parse))

/-! ### The listeners of a broker -/

theorem KafkaListenerName.string_separable (n : KafkaListenerName) :
    ':' ∉ n.string.toList ∧ ',' ∉ n.string.toList := by
  cases n <;> decide

theorem notMem_repr {c : Char} (hc : c.isDigit = false) (n : ℕ) : c ∉ (toString n).toList := by
  intro h
  rw [isDigit_of_mem_repr h] at hc
  exact Bool.false_ne_true hc.symm

theorem listenerLocalAddress_comma : ',' ∉ listenerLocalAddress.toList := by decide

theorem nodeAddressCmd_comma : ',' ∉ (nodeAddressCmd kubedoopListenerBrokerDir).toList := by decide

namespace KafkaSecurity

variable (k : KafkaSecurity) {ns obj : String}

theorem listener_separable (n : KafkaListenerName) (p : ℕ) :
    (KafkaListener.named ⟨n, listenerLocalAddress, toString p⟩).Separable where
  nameColon := n.string_separable.1
  nameComma := n.string_separable.2
  hostComma := listenerLocalAddress_comma
  portColon := notMem_repr (by decide) p
  portComma := notMem_repr (by decide) p

theorem podFqdn_comma (hns : ',' ∉ ns.toList) (hobj : ',' ∉ obj.toList) :
    ',' ∉ (podFqdn ns obj).toList := by
  simp only [podFqdn, String.toList_append, List.mem_append, not_or]
  exact ⟨⟨⟨⟨by decide, hobj⟩, by decide⟩, hns⟩, by decide⟩

theorem nodePortCmd_separable : ':' ∉ (nodePortCmd kubedoopListenerBrokerDir k.clientPortName).toList ∧
    ',' ∉ (nodePortCmd kubedoopListenerBrokerDir k.clientPortName).toList := by
  unfold clientPortName
  split <;> decide

theorem advertised_separable (hns : ',' ∉ ns.toList) (hobj : ',' ∉ obj.toList)
    (n : KafkaListenerName) : (k.advertised ns obj n).named.Separable := by
  have hnode : ∀ n, (KafkaListener.named ⟨n, nodeAddressCmd kubedoopListenerBrokerDir,
      nodePortCmd kubedoopListenerBrokerDir k.clientPortName⟩).Separable := by
    intro n
    exact ⟨n.string_separable.1, n.string_separable.2, nodeAddressCmd_comma, k.nodePortCmd_separable.1,
      k.nodePortCmd_separable.2⟩
  cases n with
  | internal =>
      exact ⟨(KafkaListenerName.string_separable _).1, (KafkaListenerName.string_separable _).2,
        podFqdn_comma hns hobj, notMem_repr (by decide) _, notMem_repr (by decide) _⟩
  | client => exact hnode _
  | clientAuth => exact hnode _
  | bootstrap => exact hnode _

/-- Names without a comma give listeners that can be read back. -/
theorem getKafkaListenerConfig_separable (hns : ',' ∉ ns.toList) (hobj : ',' ∉ obj.toList) :
    (∀ l ∈ (getKafkaListenerConfig ns k obj).named.listeners, l.Separable) ∧
      ∀ l ∈ (getKafkaListenerConfig ns k obj).named.advertisedListeners, l.Separable := by
  constructor
  · intro l hl
    rw [KafkaListenerConfig.named, getKafkaListenerConfig_listeners, List.map_map] at hl
    obtain ⟨n, -, rfl⟩ := List.mem_map.mp hl
    exact listener_separable n _
  · intro l hl
    rw [KafkaListenerConfig.named, getKafkaListenerConfig_advertised, List.map_map] at hl
    obtain ⟨n, -, rfl⟩ := List.mem_map.mp hl
    exact k.advertised_separable hns hobj n

/-- The two texts that the broker is started with determine its listeners. -/
theorem getKafkaListenerConfig_readable (hns : ',' ∉ ns.toList) (hobj : ',' ∉ obj.toList) :
    parseListeners (getKafkaListenerConfig ns k obj).listenersString =
        some (getKafkaListenerConfig ns k obj).named.listeners ∧
      parseListeners (getKafkaListenerConfig ns k obj).advertisedListenersString =
        some (getKafkaListenerConfig ns k obj).named.advertisedListeners := by
  obtain ⟨hlisteners, hadvertised⟩ := k.getKafkaListenerConfig_separable hns hobj
  rw [← KafkaListenerConfig.named_listenersString, ← KafkaListenerConfig.named_advertisedListenersString]
  exact ⟨parseListeners_join hlisteners, parseListeners_join hadvertised⟩

end KafkaSecurity

/-- **Listener lists survive their string form**: both texts of a configuration are read back to its
lists, of whatever length, and every listener of a broker is of the form this needs. -/
theorem listeners_survive_text :
    (∀ c : NamedListenerConfig, (∀ l ∈ c.listeners, l.Separable) →
      parseListeners c.listenersString = some c.listeners) ∧
    (∀ c : NamedListenerConfig, (∀ l ∈ c.advertisedListeners, l.Separable) →
      parseListeners c.advertisedListenersString = some c.advertisedListeners) ∧
    ∀ (ns : String) (k : KafkaSecurity) (obj : String), ',' ∉ ns.toList → ',' ∉ obj.toList →
      ∀ l, l ∈ (getKafkaListenerConfig ns k obj).listeners ∨
        l ∈ (getKafkaListenerConfig ns k obj).advertisedListeners → l.named.Separable := by
  refine ⟨fun c h => parseListeners_join h, fun c h => parseListeners_join h, ?_⟩
  intro ns k obj hns hobj l hl
  obtain ⟨hlisteners, hadvertised⟩ := k.getKafkaListenerConfig_separable hns hobj
  rcases hl with hl | hl
  · exact hlisteners l.named (List.mem_map_of_mem hl)
  · exact hadvertised l.named (List.mem_map_of_mem hl)

/-- A host with colons, slashes and blanks, and no advertised listener. -/
def colonConfig : NamedListenerConfig where
  listeners := [⟨"CLIENT", "$(cat a://b c)", "9092"⟩, ⟨"INTERNAL", "::1", "$(cat port)"⟩]
  advertisedListeners := []

theorem listeners_survive_text_colons :
    (∀ l ∈ colonConfig.listeners, l.Separable) ∧
      parseListeners colonConfig.listenersString = some colonConfig.listeners ∧
      parseListeners "" = some colonConfig.advertisedListeners ∧
      (KafkaListener.named ⟨.internal, podFqdn "default" "broker", "19092"⟩).Separable := by
  have hsep : ∀ l ∈ colonConfig.listeners, l.Separable := by
    intro l hl
    rw [colonConfig, List.mem_cons, List.mem_singleton] at hl
    rcases hl with rfl | rfl <;> constructor <;> decide
  have hinternal : (⟨.internal, podFqdn "default" "broker", "19092"⟩ : KafkaListener) ∈
      (getKafkaListenerConfig "default" ⟨[], "", "", "", "", none⟩ "broker").advertisedListeners := by
    decide
  refine ⟨hsep, listeners_survive_text.1 colonConfig hsep, ?_, ?_⟩
  · exact listeners_survive_text.2.1 colonConfig (fun l hl => absurd hl List.not_mem_nil)
  · exact listeners_survive_text.2.2 "default" _ "broker" (by decide) (by decide) _ (.inr hinternal)

end KafkaOperator
