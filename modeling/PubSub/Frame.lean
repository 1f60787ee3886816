import PubSub.Aliases
import Mathlib.Data.List.Forall2

/-!
# What a message leaves of its receiver

A message that reaches the receiver itself changes payloads and nothing else: names,
flags, states and the lists of topics and devices stay. The receiver must be a host, or
a node that publishes its births, since any other node would take in new devices.
-/

namespace PubSub
set_option autoImplicit false

namespace Topic
variable {P : Platform}

/-- `t` is `s` with another payload, which keeps the alias numbers, and it is `s` if that
is a STATE topic of the receiver. -/
structure PayloadOnly (s t : Topic P) : Prop where
  base : t = { s with payload := t.payload }
  state : s.publish = true → s.messageType = str "STATE" → t = s
  aliases : s.payload.KeepsAliases t.payload

theorem PayloadOnly.refl (t : Topic P) : PayloadOnly t t := ⟨rfl, fun _ _ => rfl, .refl _⟩

theorem PayloadOnly.messageType {s t : Topic P} (h : PayloadOnly s t) :
    t.messageType = s.messageType := by rw [h.base]

theorem PayloadOnly.publish {s t : Topic P} (h : PayloadOnly s t) : t.publish = s.publish := by
  rw [h.base]

theorem PayloadOnly.nameSpace {s t : Topic P} (h : PayloadOnly s t) :
    t.nameSpace = s.nameSpace := by rw [h.base]

theorem PayloadOnly.trans {r s t : Topic P} (hrs : PayloadOnly r s) (hst : PayloadOnly s t) :
    PayloadOnly r t where
  base := by
    rw [hst.base, hrs.base]
  state hpublish htype := by
    rw [hst.state (hrs.publish.trans hpublish) (hrs.messageType.trans htype)]
    exact hrs.state hpublish htype
  aliases := hrs.aliases.trans hst.aliases

theorem payloadOnly_of_unpublished {f : Payload P → Payload P} {t : Topic P}
    (hf : ∀ p : Payload P, p.KeepsAliases (f p)) (h : t.publish = false) :
    PayloadOnly t (t.onPayload f) :=
  ⟨rfl, fun hpublish => absurd (h.symm.trans hpublish) (by simp), hf t.payload⟩

theorem payloadOnly_of_type {f : Payload P → Payload P} {t : Topic P} {messageType : Str}
    (hf : ∀ p : Payload P, p.KeepsAliases (f p))
    (h : TopicList.hasMessageType messageType t = true)
    (hne : lower (cString messageType) ≠ lower (cString (str "STATE"))) :
    PayloadOnly t (t.onPayload f) := by
  refine ⟨rfl, fun _ htype => ?_, hf t.payload⟩
  rw [TopicList.hasMessageType_ne htype hne] at h
  cases h

end Topic

namespace TopicList
variable {P : Platform}

def PayloadsOnly (list changed : TopicList P) : Prop :=
  List.Forall₂ Topic.PayloadOnly list changed

theorem PayloadsOnly.refl (list : TopicList P) : PayloadsOnly list list :=
  List.forall₂_same.mpr fun t _ => Topic.PayloadOnly.refl t

theorem PayloadsOnly.trans {r s t : TopicList P} (hrs : PayloadsOnly r s)
    (hst : PayloadsOnly s t) : PayloadsOnly r t :=
  @forall₂_trans P Topic.PayloadOnly (fun _ _ _ => Topic.PayloadOnly.trans) _ _ _ hrs hst

theorem payloadsOnly_update {messageType : Str} {f : Topic P → Topic P} {list : TopicList P}
    (hf : ∀ t, list.getTopicByMessageType messageType = some t → Topic.PayloadOnly t (f t)) :
    PayloadsOnly list (list.update messageType f) :=
  forall₂_update Topic.PayloadOnly.refl hf

theorem payloadsOnly_receive (messageType : Str) {store : Payload P → Payload P}
    (hstore : ∀ p : Payload P, p.KeepsAliases (store p)) (list : TopicList P) :
    PayloadsOnly list (list.receive messageType store) := by
  unfold receive
  split
  · exact .refl list
  · rename_i t ht
    split
    · exact .refl list
    · rename_i hpublish
      apply payloadsOnly_update
      intro s hs
      rw [ht] at hs
      rw [← Option.some.inj hs]
      exact Topic.payloadOnly_of_unpublished hstore (by simpa using hpublish)

theorem payloadsOnly_update_type {messageType : Str} {f : Payload P → Payload P}
    (hf : ∀ p : Payload P, p.KeepsAliases (f p))
    (hne : lower (cString messageType) ≠ lower (cString (str "STATE"))) (list : TopicList P) :
    PayloadsOnly list (list.update messageType fun t => t.onPayload f) :=
  payloadsOnly_update fun _ ht => Topic.payloadOnly_of_type hf (List.find?_some ht) hne

theorem payloadsOnly_receiveDeath {birthType deathType : Str} {store : Payload P → Payload P}
    (hstore : ∀ p : Payload P, p.KeepsAliases (store p))
    (hbirth : lower (cString birthType) ≠ lower (cString (str "STATE")))
    (hdeath : lower (cString deathType) ≠ lower (cString (str "STATE"))) (list : TopicList P) :
    PayloadsOnly list (list.receiveDeath birthType deathType store) := by
  unfold receiveDeath
  split
  · split
    · exact .refl list
    · exact (payloadsOnly_update_type hstore hdeath list).trans
        (payloadsOnly_update_type Payload.keepsAliases_setAllMetricsInvalid hbirth _)
  · exact .refl list

theorem PayloadsOnly.forall_topics {Q : Topic P → Prop}
    (hQ : ∀ s t, Topic.PayloadOnly s t → Q s → Q t) {list changed : TopicList P}
    (h : PayloadsOnly list changed) (hlist : ∀ t ∈ list, Q t) : ∀ t ∈ changed, Q t :=
  forall_related hQ h hlist

end TopicList

namespace SparkplugNode
variable {P : Platform}

/-- `e` is `d` with other payloads in its topics. -/
structure DevicePayloadsOnly (d e : SparkplugDevice P) : Prop where
  base : e = { d with topicList := e.topicList }
  topics : d.topicList.PayloadsOnly e.topicList

theorem DevicePayloadsOnly.refl (d : SparkplugDevice P) : DevicePayloadsOnly d d :=
  ⟨rfl, .refl _⟩

/-- `m` is `n` with other payloads in its topics and in the topics of its devices. -/
structure PayloadsOnly (n m : SparkplugNode P) : Prop where
  base : m = { n with topicList := m.topicList, deviceList := m.deviceList }
  topics : n.topicList.PayloadsOnly m.topicList
  devices : List.Forall₂ (fun a b => b.1 = a.1 ∧ DevicePayloadsOnly a.2 b.2)
    n.deviceList.entries m.deviceList.entries

theorem same_devices (n : SparkplugNode P) :
    List.Forall₂ (fun a b => b.1 = a.1 ∧ DevicePayloadsOnly a.2 b.2)
      n.deviceList.entries n.deviceList.entries :=
  List.forall₂_same.mpr fun a _ => ⟨rfl, .refl a.2⟩

theorem PayloadsOnly.refl (n : SparkplugNode P) : PayloadsOnly n n :=
  ⟨rfl, .refl _, same_devices n⟩

/-- Every device is still there, under its key and with its flags. -/
theorem PayloadsOnly.device {n m : SparkplugNode P} (h : n.PayloadsOnly m)
    {e : Str × SparkplugDevice P} (he : e ∈ m.deviceList.entries) :
    ∃ d ∈ n.deviceList.entries, DevicePayloadsOnly d.2 e.2 := by
  have hdevices := h.devices
  generalize n.deviceList.entries = ds at hdevices ⊢
  generalize m.deviceList.entries = es at hdevices he
  induction hdevices with
  | nil => cases he
  | cons hab _ ih =>
    rcases List.mem_cons.mp he with rfl | he
    · exact ⟨_, List.mem_cons_self, hab.2⟩
    · obtain ⟨d, hd, hde⟩ := ih he
      exact ⟨d, List.mem_cons_of_mem _ hd, hde⟩

theorem PayloadsOnly.statuses {n m : SparkplugNode P} (h : n.PayloadsOnly m) :
    m.deviceList.entries.map (fun e => (e.1, e.2.status)) =
      n.deviceList.entries.map (fun e => (e.1, e.2.status)) := by
  have hdevices := h.devices
  generalize n.deviceList.entries = ds at hdevices ⊢
  generalize m.deviceList.entries = es at hdevices ⊢
  induction hdevices with
  | nil => rfl
  | cons hab _ ih =>
    have hstatus := congrArg SparkplugDevice.status hab.2.base
    rw [List.map_cons, List.map_cons, ih, hab.1, hstatus]
    rfl

theorem payloadsOnly_onTopics {f : TopicList P → TopicList P}
    (hf : ∀ list, TopicList.PayloadsOnly list (f list)) (n : SparkplugNode P) :
    PayloadsOnly n (n.onTopics f) :=
  ⟨rfl, hf n.topicList, same_devices n⟩

theorem devices_updateFirst {f : SparkplugDevice P → SparkplugDevice P}
    (hf : ∀ d, DevicePayloadsOnly d (f d)) (p : Str → SparkplugDevice P → Bool)
    (es : List (Str × SparkplugDevice P)) :
    List.Forall₂ (fun a b => b.1 = a.1 ∧ DevicePayloadsOnly a.2 b.2)
      es (Entries.updateFirst p f es) := by
  induction es with
  | nil => exact .nil
  | cons e es ih =>
    unfold Entries.updateFirst
    split
    · exact .cons ⟨rfl, hf e.2⟩ (List.forall₂_same.mpr fun a _ => ⟨rfl, .refl a.2⟩)
    · exact .cons ⟨rfl, .refl e.2⟩ ih

theorem payloadsOnly_onDevice {f : TopicList P → TopicList P}
    (hf : ∀ list, TopicList.PayloadsOnly list (f list)) (d : Str) (n : SparkplugNode P) :
    PayloadsOnly n (n.onDevice d f) := by
  unfold onDevice
  split
  · exact .refl n
  · refine ⟨rfl, .refl _, ?_⟩
    exact devices_updateFirst (fun d => ⟨rfl, hf d.topicList⟩) _ _

end SparkplugNode

namespace Receiver
variable {P : Platform}

/-- The receiver takes no new devices of its own out of messages. -/
def TakesNoDevices (n : SparkplugNode P) : Prop :=
  n.isHost = true ∨
    (n.topicList.getTopicByMessageType (str "NBIRTH")).any Topic.publish = true

theorem payloadsOnly_deviceBirth {n : SparkplugNode P} (h : TakesNoDevices n) (d : Str)
    (now : UInt64) (body : BodyList) : n.PayloadsOnly (deviceBirth d now body n) := by
  unfold deviceBirth
  split
  · exact .refl n
  · rename_i t ht
    split
    · exact .refl n
    · rename_i hpublish
      have hhost : n.isHost = true := by
        rcases h with h | h
        · exact h
        · simp [ht, hpublish] at h
      have hframe := SparkplugNode.payloadsOnly_onDevice (n := n) (d := d)
        (TopicList.payloadsOnly_receive (str "DBIRTH")
          (Payload.keepsAliases_receiveProtobuf true now body))
      cases n.getDevice d with
      | none => simpa [SparkplugNode.createDevice, hhost] using hframe
      | some _ => exact hframe

theorem Change.payloadsOnly {messageType : Str} {now : UInt64} {body : BodyList}
    {f : SparkplugNode P → SparkplugNode P} {target : Target}
    (hf : Change messageType now body target f) {n : SparkplugNode P} (h : TakesNoDevices n) :
    n.PayloadsOnly (f n) := by
  have hcreate := Payload.keepsAliases_receiveProtobuf (P := P) true now body
  have hupdate := Payload.keepsAliases_receiveProtobuf (P := P) false now body
  cases hf with
  | state _ _ =>
    exact SparkplugNode.payloadsOnly_onTopics
      (TopicList.payloadsOnly_receive _ (Payload.keepsAliases_receiveJson body)) n
  | birth _ =>
    exact SparkplugNode.payloadsOnly_onTopics (TopicList.payloadsOnly_receive _ hcreate) n
  | death _ =>
    exact SparkplugNode.payloadsOnly_onTopics
      (TopicList.payloadsOnly_receiveDeath hcreate (by decide) (by decide)) n
  | command =>
    exact SparkplugNode.payloadsOnly_onTopics
      (TopicList.payloadsOnly_update_type hupdate (by decide)) n
  | data _ => exact SparkplugNode.payloadsOnly_onTopics (TopicList.payloadsOnly_receive _ hupdate) n
  | deviceBirth _ device => exact payloadsOnly_deviceBirth h device now body
  | deviceDeath _ device =>
    exact SparkplugNode.payloadsOnly_onDevice
      (TopicList.payloadsOnly_receiveDeath hcreate (by decide) (by decide)) device n
  | deviceUpdate _ device =>
    exact SparkplugNode.payloadsOnly_onDevice (TopicList.payloadsOnly_receive _ hcreate) device n

/-- The receiver itself after a message. -/
theorem self_message {r : Receiver P} (h : TakesNoDevices r.self) (topicName : Str)
    (now : UInt64) (body : BodyList) :
    r.self.PayloadsOnly (r.message topicName now body).self := by
  have heffect := r.effect_message topicName now body
  generalize r.message topicName now body = next at heffect ⊢
  cases heffect with
  | ensured hs =>
    rw [hs.self_eq]
    exact .refl _
  | @changed s target f hs hf =>
    rw [← hs.self_eq] at h ⊢
    cases target with
    | self => exact hf.payloadsOnly h
    | remote i => exact .refl _

end Receiver
end PubSub
