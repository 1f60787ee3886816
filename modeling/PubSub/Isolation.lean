import PubSub.NodeTask
import PubSub.HostTopics
import PubSub.Reference

/-!
# Addressing isolation

A message topic names an address, and a place is a client of the receiver or one of its
devices. A message changes nothing at the places that its address does not cover, but
for node commands that are meant for a mirrored node.
-/

namespace PubSub
set_option autoImplicit false

inductive Address where
  | host (hostName : Str)
  | node (group name : Str)
  | device (group node name : Str)
  deriving DecidableEq

/-- Where payloads are: in the topics of a client, or of a device of a client. -/
inductive Place where
  | client (target : Target)
  | device (target : Target) (key : Str)

namespace Address
variable (P : Platform)

def ofTopic (topicName : Str) : Option Address :=
  let t := Receiver.parseTopic P topicName
  if t.messageType = str "STATE" then some (.host t.nodeId)
  else if t.messageType ∈ [str "NBIRTH", str "NDEATH", str "NCMD", str "NDATA"] then
    some (.node t.groupId t.nodeId)
  else if t.messageType ∈ [str "DBIRTH", str "DDEATH", str "DCMD", str "DDATA"] then
    some (.device t.groupId t.nodeId t.deviceId)
  else none

variable {P}

def coversClient (a : Address) (n : SparkplugNode P) : Bool :=
  match a with
  | .host h => Receiver.isHostNamed h n
  | .node g k => Receiver.isNodeNamed g k n
  | .device _ _ _ => false

/-- The devices of a node belong to the node's address. -/
def coversDevice (a : Address) (key : Str) (n : SparkplugNode P) : Bool :=
  match a with
  | .host h => Receiver.isHostNamed h n
  | .node g k => Receiver.isNodeNamed g k n
  | .device g k d => Receiver.isNodeNamed g k n && P.iEquals d key

def covers (a : Address) (r : Receiver P) : Place → Bool
  | .client target => (r.get? target).any a.coversClient
  | .device target key => (r.get? target).any (a.coversDevice key)

end Address

namespace Receiver
variable {P : Platform}

def topicsAt (r : Receiver P) : Place → Option (TopicList P)
  | .client target => (r.get? target).map fun n => n.topicList
  | .device target key =>
    (r.get? target).bind fun n => (n.deviceList.get? key).map fun d => d.topicList

/-- The topics at every place outside the address, and with them the payloads, are the
same afterwards. -/
def Isolated (a : Address) (before after : Receiver P) : Prop :=
  ∀ place topics, a.covers before place = false → before.topicsAt place = some topics →
    after.topicsAt place = some topics

theorem Isolated.refl (a : Address) (r : Receiver P) : Isolated a r r :=
  fun _ _ _ h => h

theorem get?_addRemote {r : Receiver P} {target : Target} {n c : SparkplugNode P}
    (h : r.get? target = some n) : (r.addRemote c).get? target = some n := by
  cases target with
  | self => exact h
  | remote i =>
    have hlt := (List.getElem?_eq_some_iff.mp h).1
    simp only [addRemote, get?] at h ⊢
    rw [List.getElem?_append_left hlt, h]

theorem topicsAt_target {r : Receiver P} {place : Place} {topics : TopicList P}
    (h : r.topicsAt place = some topics) :
    ∃ target n, r.get? target = some n ∧
      (place = .client target ∧ n.topicList = topics ∨
        ∃ key d, place = .device target key ∧ n.deviceList.get? key = some d ∧
          d.topicList = topics) := by
  cases place with
  | client target =>
    obtain ⟨n, hn, htopics⟩ := Option.map_eq_some_iff.mp h
    exact ⟨target, n, hn, .inl ⟨rfl, htopics⟩⟩
  | device target key =>
    obtain ⟨n, hn, hdev⟩ := Option.bind_eq_some_iff.mp h
    obtain ⟨d, hd, htopics⟩ := Option.map_eq_some_iff.mp hdev
    exact ⟨target, n, hn, .inr ⟨key, d, rfl, hd, htopics⟩⟩

/-- A client that is added to the node list disturbs nobody. -/
theorem Isolated.of_addRemote {a : Address} {r s : Receiver P} {c : SparkplugNode P}
    (h : Isolated a (r.addRemote c) s) : Isolated a r s := by
  intro place topics hcovers htopics
  obtain ⟨target, n, hn, ⟨rfl, hlist⟩ | ⟨key, d, rfl, hd, hlist⟩⟩ := topicsAt_target htopics
  · apply h
    · simpa [Address.covers, get?_addRemote hn, hn] using hcovers
    · simp [topicsAt, get?_addRemote hn, hlist]
  · apply h
    · simpa [Address.covers, get?_addRemote hn, hn] using hcovers
    · simp [topicsAt, get?_addRemote hn, hd, hlist]

/-- A change of the client a lookup returned, which keeps what the address does not
cover. -/
theorem isolated_update {a : Address} {r : Receiver P} {target : Target}
    {n : SparkplugNode P} {f : SparkplugNode P → SparkplugNode P} (hn : r.get? target = some n)
    (hclient : a.coversClient n = true ∨ (f n).topicList = n.topicList)
    (hdevice : ∀ key d, n.deviceList.get? key = some d → a.coversDevice key n = true ∨
      ∃ e, (f n).deviceList.get? key = some e ∧ e.topicList = d.topicList) :
    Isolated a r (r.update target f) := by
  intro place topics hcovers htopics
  obtain ⟨other, c, hc, hplace⟩ := topicsAt_target htopics
  by_cases hother : other = target
  · subst hother
    have hcn : c = n := Option.some.inj (hc.symm.trans hn)
    subst hcn
    rcases hplace with ⟨rfl, hlist⟩ | ⟨key, d, rfl, hd, hlist⟩
    · rcases hclient with hcov | hsame
      · simp [Address.covers, hc, hcov] at hcovers
      · simp [topicsAt, get?_update_self hc, hsame, hlist]
    · rcases hdevice key d hd with hcov | ⟨e, he, hsame⟩
      · simp [Address.covers, hc, hcov] at hcovers
      · simp [topicsAt, get?_update_self hc, he, hsame, hlist]
  · rcases hplace with ⟨rfl, hlist⟩ | ⟨key, d, rfl, hd, hlist⟩
    · simp [topicsAt, get?_update_ne hother, hc, hlist]
    · simp [topicsAt, get?_update_ne hother, hc, hd, hlist]

theorem isolated_ensureNode {a : Address} {r s : Receiver P} {g k : Str} {now : UInt64}
    (h : Isolated a (r.ensureNode g k now) s) : Isolated a r s := by
  unfold ensureNode at h
  split at h
  · exact h
  · exact h.of_addRemote

theorem isolated_ensureHost {a : Address} {r s : Receiver P} {k : Str} {now : UInt64}
    (h : Isolated a (r.ensureHost k now) s) : Isolated a r s := by
  unfold ensureHost at h
  split at h
  · exact h
  · exact h.of_addRemote

/-- A handler that changes the topics of the node the message is addressed to. -/
theorem isolated_onNode (r : Receiver P) (g k : Str) (f : SparkplugNode P → SparkplugNode P) :
    Isolated (.node g k) r (r.onNode g k f) := by
  unfold onNode
  split
  · exact .refl _ r
  · rename_i target ht
    obtain ⟨n, hn, hnamed⟩ := getNode_spec ht
    exact isolated_update hn (.inl hnamed) fun _ _ _ => .inl hnamed

/-- A handler that leaves everything but one device of the node it is addressed to. -/
theorem isolated_onNode_device (r : Receiver P) {g k d : Str}
    {f : SparkplugNode P → SparkplugNode P} (htopics : ∀ n, (f n).topicList = n.topicList)
    (hdevices : ∀ n key e, P.foldKey key ≠ P.foldKey d → n.deviceList.get? key = some e →
      (f n).deviceList.get? key = some e) :
    Isolated (.device g k d) r (r.onNode g k f) := by
  unfold onNode
  split
  · exact .refl _ r
  · rename_i target ht
    obtain ⟨n, hn, hnamed⟩ := getNode_spec ht
    apply isolated_update hn (.inr (htopics n))
    intro key e he
    by_cases hkey : P.foldKey d = P.foldKey key
    · left
      simp [Address.coversDevice, hnamed, hkey]
    · exact .inr ⟨e, hdevices n key e (fun h => hkey h.symm) he, rfl⟩

theorem onDevice_topicList (d : Str) (f : TopicList P → TopicList P) (n : SparkplugNode P) :
    (n.onDevice d f).topicList = n.topicList := by
  obtain ⟨devices, hframe⟩ := n.onDevice_frame d f
  rw [hframe]

theorem onDevice_get?_ne {d key : Str} (f : TopicList P → TopicList P) {n : SparkplugNode P}
    {e : SparkplugDevice P} (h : P.foldKey key ≠ P.foldKey d)
    (he : n.deviceList.get? key = some e) : (n.onDevice d f).deviceList.get? key = some e := by
  unfold SparkplugNode.onDevice
  split
  · exact he
  · exact (FoldedMap.get?_update_ne _ _ h).trans he

theorem createDevice_topicList (d : Str) (now : UInt64) (n : SparkplugNode P) :
    (n.createDevice d now).topicList = n.topicList := by
  obtain ⟨devices, hframe⟩ := n.createDevice_frame d now
  rw [hframe]

theorem deviceBirth_topicList (d : Str) (now : UInt64) (body : BodyList) (n : SparkplugNode P) :
    (deviceBirth d now body n).topicList = n.topicList := by
  obtain ⟨devices, hframe⟩ := deviceBirth_frame d now body n
  rw [hframe]

theorem createDevice_get? {key : Str} (d : Str) (now : UInt64) {n : SparkplugNode P}
    {e : SparkplugDevice P} (he : n.deviceList.get? key = some e) :
    (n.createDevice d now).deviceList.get? key = some e := by
  unfold SparkplugNode.createDevice
  split
  · exact he
  · split
    · exact he
    · exact FoldedMap.get?_insert_of_some he

theorem isolated_deviceBirth (r : Receiver P) (g k d : Str) (now : UInt64) (body : BodyList) :
    Isolated (.device g k d) r (r.onNode g k (deviceBirth d now body)) := by
  apply isolated_onNode_device
  · intro n
    exact deviceBirth_topicList d now body n
  · intro n key e hkey he
    apply deviceBirth_keeps (Q := fun n => n.deviceList.get? key = some e) _ _ he
    · intro m hm
      exact createDevice_get? d now hm
    · intro m hm
      exact onDevice_get?_ne _ hkey hm

/-- A node command for a mirrored node, at a receiver that publishes births itself. -/
def strayCommand (topicName : Str) (r : Receiver P) : Bool :=
  let t := parseTopic P topicName
  decide (t.messageType = str "NCMD") &&
    (match r.getNode t.groupId t.nodeId with
      | some (.remote _) => true
      | _ => false) &&
    (r.self.topicList.getTopicByMessageType (str "NBIRTH")).any Topic.publish

theorem isolated_command {r : Receiver P} {g k : Str} (now : UInt64) (body : BodyList)
    (h : (match r.getNode g k with | some (.remote _) => true | _ => false) = true →
      (r.self.topicList.getTopicByMessageType (str "NBIRTH")).any Topic.publish = false) :
    Isolated (.node g k) r (r.handleNodeCommandMessage g k now body) := by
  unfold handleNodeCommandMessage
  split
  · exact .refl _ r
  · rename_i target ht
    split
    · exact .refl _ r
    · rename_i t htopic
      split
      · rename_i hpublish
        cases target with
        | self =>
          obtain ⟨n, hn, hnamed⟩ := getNode_spec ht
          exact isolated_update hn (.inl hnamed) fun _ _ _ => .inl hnamed
        | remote i =>
          have hfalse := h (by rw [ht])
          simp [htopic, hpublish] at hfalse
      · exact .refl _ r

theorem isolated_state (r : Receiver P) (h : Str) (now : UInt64) (body : BodyList) :
    Isolated (.host h) r (r.handleStateMessage h now body) := by
  unfold handleStateMessage
  split
  · exact .refl _ r
  · dsimp only
    split
    · exact isolated_ensureHost (.refl _ _)
    · rename_i target ht
      obtain ⟨n, hn, hnamed⟩ := getHost_spec ht
      exact isolated_ensureHost
        (isolated_update hn (.inl hnamed) fun _ _ _ => .inl hnamed)

theorem isolated_birth (r : Receiver P) (g k : Str) (now : UInt64) (body : BodyList) :
    Isolated (.node g k) r (r.handleNodeBirthMessage g k now body) := by
  unfold handleNodeBirthMessage
  split
  · exact .refl _ r
  · exact isolated_ensureNode (isolated_onNode _ g k _)

theorem isolated_handleDeviceBirth (r : Receiver P) (g k d : Str) (now : UInt64)
    (body : BodyList) : Isolated (.device g k d) r (r.handleDeviceBirthMessage g k d now body) := by
  unfold handleDeviceBirthMessage
  split
  · exact .refl _ r
  · exact isolated_ensureNode (isolated_deviceBirth _ g k d now body)

theorem isolated_onDevice (r : Receiver P) (g k d : Str) (f : TopicList P → TopicList P) :
    Isolated (.device g k d) r (r.onNode g k fun n => n.onDevice d f) :=
  isolated_onNode_device r (onDevice_topicList d f) fun _ _ _ hkey he =>
    onDevice_get?_ne f hkey he

theorem isolated_deviceUpdate (r : Receiver P) (g k d : Str) (now : UInt64)
    (body : BodyList) : Isolated (.device g k d) r (r.handleDeviceUpdate g k d now body) := by
  unfold handleDeviceUpdate
  split
  · exact .refl _ r
  · exact isolated_ensureNode (isolated_onDevice _ g k d _)

theorem isolated_deviceDeath (r : Receiver P) (g k d : Str) (now : UInt64)
    (body : BodyList) :
    Isolated (.device g k d) r (r.handleDeviceDeathMessage g k d now body) := by
  unfold handleDeviceDeathMessage
  split
  · exact .refl _ r
  · exact isolated_onDevice r g k d _

/-- Every handler keeps to the address of the message. -/
theorem isolated_message {r : Receiver P} {topicName : Str} {a : Address} (now : UInt64)
    (body : BodyList) (ha : Address.ofTopic P topicName = some a)
    (hstray : r.strayCommand topicName = false) :
    Isolated a r (r.message topicName now body) := by
  have hhandled := r.handled_message topicName now body
  unfold Address.ofTopic at ha
  unfold strayCommand at hstray
  dsimp only at ha hstray
  generalize r.message topicName now body = next at hhandled ⊢
  generalize parseTopic P topicName = t at ha hstray hhandled
  have hnode : t.messageType ∈ [str "NBIRTH", str "NDEATH", str "NCMD", str "NDATA"] →
      a = .node t.groupId t.nodeId := by
    intro hmem
    have hne : t.messageType ≠ str "STATE" := by
      intro hstate
      rw [hstate] at hmem
      revert hmem
      decide
    rw [if_neg hne, if_pos hmem] at ha
    exact (Option.some.inj ha).symm
  have hdevice : t.messageType ∈ [str "DBIRTH", str "DDEATH", str "DCMD", str "DDATA"] →
      a = .device t.groupId t.nodeId t.deviceId := by
    intro hmem
    have hne : t.messageType ≠ str "STATE" := by
      intro hstate
      rw [hstate] at hmem
      revert hmem
      decide
    have hnmem : ¬ t.messageType ∈ [str "NBIRTH", str "NDEATH", str "NCMD", str "NDATA"] := by
      intro hother
      simp only [List.mem_cons, List.not_mem_nil, or_false] at hmem hother
      rcases hmem with h | h | h | h <;> rw [h] at hother <;> revert hother <;> decide
    rw [if_neg hne, if_neg hnmem, if_pos hmem] at ha
    exact (Option.some.inj ha).symm
  cases hhandled with
  | state h =>
    rw [if_pos h] at ha
    rw [← Option.some.inj ha]
    exact isolated_state r _ now body
  | nodeBirth h =>
    rw [hnode (by simp [h])]
    exact isolated_birth r _ _ now body
  | nodeDeath h =>
    rw [hnode (by simp [h])]
    exact isolated_onNode r _ _ _
  | nodeCommand h =>
    rw [hnode (by simp [h])]
    apply isolated_command
    intro hremote
    simpa [h, hremote] using hstray
  | nodeData h =>
    rw [hnode (by simp [h])]
    exact isolated_onNode r _ _ _
  | deviceBirth h =>
    rw [hdevice (by simp [h])]
    exact isolated_handleDeviceBirth r _ _ _ now body
  | deviceDeath h =>
    rw [hdevice (by simp [h])]
    exact isolated_deviceDeath r _ _ _ now body
  | deviceCommand h =>
    rw [hdevice (by simp [h])]
    exact isolated_deviceUpdate r _ _ _ now body
  | deviceData h =>
    rw [hdevice (by simp [h])]
    exact isolated_deviceUpdate r _ _ _ now body
  | other _ => exact .refl a r

theorem message_command {topicName : Str} (h : (parseTopic P topicName).messageType = str "NCMD")
    (now : UInt64) (body : BodyList) (r : Receiver P) : r.message topicName now body =
      r.handleNodeCommandMessage (parseTopic P topicName).groupId
        (parseTopic P topicName).nodeId now body := by
  unfold message
  dsimp only
  rw [h, if_neg (by decide), if_neg (by decide), if_neg (by decide), if_pos rfl]

/-- A stray command reaches the NBIRTH topic of the receiver itself. -/
theorem not_isolated_of_stray {r : Receiver P} {topicName : Str} {a : Address} (now : UInt64)
    (ha : Address.ofTopic P topicName = some a) (hstray : r.strayCommand topicName = true) :
    ∃ body, ¬ Isolated a r (r.message topicName now body) := by
  unfold strayCommand at hstray
  unfold Address.ofTopic at ha
  dsimp only at hstray ha
  simp only [Bool.and_eq_true, decide_eq_true_eq] at hstray
  obtain ⟨⟨htype, hremote⟩, hpublish⟩ := hstray
  have hmessage := fun body => message_command htype now body r
  rw [htype, if_neg (by decide), if_pos (by simp)] at ha
  generalize parseTopic P topicName = t at hremote ha hmessage
  cases htarget : r.getNode t.groupId t.nodeId with
  | none => simp [htarget] at hremote
  | some target =>
    cases target with
    | self => simp [htarget] at hremote
    | remote i =>
      cases hbirth : r.self.topicList.getTopicByMessageType (str "NBIRTH") with
      | none => simp [hbirth] at hpublish
      | some birth =>
        have hbirthPublish : birth.publish = true := by simpa [hbirth] using hpublish
        have hself : isNodeNamed t.groupId t.nodeId r.self = false := by
          unfold getNode at htarget
          split at htarget
          · cases htarget
          · split at htarget
            · cases htarget
            · rename_i hnot
              simpa using hnot
        refine ⟨birth.payload.body ++ [0], fun hisolated => ?_⟩
        have hcovers : a.covers r (.client .self) = false := by
          rw [← Option.some.inj ha]
          simpa [Address.covers, get?, Address.coversClient] using hself
        have hafter := hisolated (.client .self) r.self.topicList hcovers rfl
        rw [hmessage] at hafter
        unfold handleNodeCommandMessage at hafter
        rw [htarget] at hafter
        dsimp only at hafter
        rw [hbirth] at hafter
        dsimp only at hafter
        rw [if_pos hbirthPublish] at hafter
        have hlist : (r.self.topicList.update (str "NBIRTH") fun t => t.onPayload
            (Payload.receiveProtobuf false now (birth.payload.body ++ [0]))) =
              r.self.topicList := Option.some.inj hafter
        have hfound := @TopicList.find_update_self P (str "NBIRTH")
          (fun t => t.onPayload
            (Payload.receiveProtobuf false now (birth.payload.body ++ [0])))
          (fun _ => rfl) r.self.topicList
        rw [hlist, hbirth] at hfound
        have hbody := congrArg (fun t => t.payload.body) (Option.some.inj hfound)
        simp only [Topic.onPayload_payload, Payload.receiveProtobuf_body] at hbody
        have hlength := congrArg List.length hbody
        simp at hlength

/-- A host publishes no births of its own, so no command is stray. -/
theorem not_stray_host {r : Receiver P} {state : Topic P}
    (h : SparkplugHost.Owns r.self state) (topicName : Str) :
    r.strayCommand topicName = false := by
  unfold strayCommand
  simp [h.not_publishing]

end Receiver

namespace Receiver
variable {P : Platform}

/-- A message with this topic name keeps to the address in the name, whatever its body. -/
def KeepsToAddress (topicName : Str) (r : Receiver P) : Prop :=
  ∀ a now body, Address.ofTopic P topicName = some a → Isolated a r (r.message topicName now body)

theorem keepsToAddress_iff (topicName : Str) (r : Receiver P) :
    r.KeepsToAddress topicName ↔ r.strayCommand topicName = false := by
  refine ⟨fun hkeeps => ?_, fun hstray a now body ha => isolated_message now body ha hstray⟩
  by_contra hstray
  have hstray : r.strayCommand topicName = true := by simpa using hstray
  have htype : (parseTopic P topicName).messageType = str "NCMD" := by
    unfold strayCommand at hstray
    simp only [Bool.and_eq_true, decide_eq_true_eq] at hstray
    exact hstray.1.1
  have ha : Address.ofTopic P topicName =
      some (.node (parseTopic P topicName).groupId (parseTopic P topicName).nodeId) := by
    unfold Address.ofTopic
    dsimp only
    rw [htype, if_neg (by decide), if_pos (by simp)]
  obtain ⟨body, hbody⟩ := not_isolated_of_stray 0 ha hstray
  exact hbody (hkeeps _ 0 body ha)

end Receiver

/-- In every reachable state a node keeps to the address of a message just when the
message is not a command for a mirrored node; a host always does. -/
theorem messages_keep_to_their_address (P : Platform) :
    (∀ now setups (es : List (NodeEvent P)) topicName,
      (run NodeSys.step (NodeSys.init now setups) es).receiver.KeepsToAddress topicName ↔
        (run NodeSys.step (NodeSys.init now setups) es).receiver.strayCommand topicName = false) ∧
    (∀ hostName now setups es topicName,
      (run HostSys.step (HostSys.init (P := P) hostName now setups) es).receiver.KeepsToAddress
        topicName) := by
  refine ⟨?_, ?_⟩
  · intro now setups es topicName
    exact Receiver.keepsToAddress_iff topicName _
  · intro hostName now setups es topicName
    obtain ⟨state, hstate⟩ := HostSys.owns_run (P := P) hostName now setups es
    exact (Receiver.keepsToAddress_iff topicName _).mpr
      (Receiver.not_stray_host hstate.self topicName)

namespace Isolation

def nodeSetup : List Setup := [.group (str "G"), .name (str "N")]

/-- A node that is connected and has taken in the birth of another node. -/
def mirrorsNode : List (NodeEvent Platform.reference) :=
  [.start, .work 0 {}, .work 0 {}, .work 0 {}, .link .accepted, .callback true .mqtt311,
    .work 0 {}, .work 0 {}, .message (str "spBv1.0/G/NBIRTH/B") []]

end Isolation

open Isolation in
/-- A command for the mirrored node `B` reaches the NBIRTH topic of the node `N`. -/
theorem command_reaches_other_node :
    Address.ofTopic .reference (str "spBv1.0/G/NCMD/B") = some (.node (str "G") (str "B")) ∧
    ¬ Receiver.Isolated (.node (str "G") (str "B"))
      (run NodeSys.step (NodeSys.init 0 nodeSetup) mirrorsNode).receiver
      ((run NodeSys.step (NodeSys.init 0 nodeSetup) mirrorsNode).receiver.message
        (str "spBv1.0/G/NCMD/B") 0 [0]) := by
  refine ⟨by decide +kernel, ?_⟩
  generalize hr : (run NodeSys.step (NodeSys.init 0 nodeSetup) mirrorsNode).receiver = r
  intro h
  have hcovers : (Address.node (str "G") (str "B")).covers r (.client .self) = false := by
    rw [← hr]
    decide +kernel
  have hafter := h (.client .self) r.self.topicList hcovers rfl
  have hbodies := congrArg (Option.map (List.map fun t => t.payload.body)) hafter
  rw [← hr] at hbodies
  revert hbodies
  decide +kernel

end PubSub
