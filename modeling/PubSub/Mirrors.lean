import PubSub.Receiver
import PubSub.Shared.Run

/-!
# The mirrored nodes of a receiver

A message makes a new mirror, or it changes one mirror through the function of its handler.
So a property that new mirrors have and that these functions keep holds of all the mirrors
after any sequence of messages.
-/

namespace PubSub
set_option autoImplicit false

/-- A message as it reaches the receiver. -/
structure Delivery where
  topicName : Str
  now : UInt64
  body : BodyList

namespace Delivery

/-- The parts of the topic name. -/
def topic (P : Platform) (m : Delivery) : Topic P := Receiver.parseTopic P m.topicName

end Delivery

namespace Receiver
variable {P : Platform}

def deliver (r : Receiver P) (m : Delivery) : Receiver P := r.message m.topicName m.now m.body

/-- A property of mirrors that every handler keeps. -/
structure MirrorInvariant (Q : SparkplugNode P → Prop) : Prop where
  host : ∀ name now, Q { SparkplugHost.create now with name := name }
  node : ∀ group name now, Q { SparkplugNode.create now with group := group, name := name }
  state : ∀ body n, Q n →
    Q (n.onTopics fun list => list.receive (str "STATE") (Payload.receiveJson body))
  birth : ∀ now body n, Q n → Q (n.onTopics fun list =>
    list.receive (str "NBIRTH") (Payload.receiveProtobuf true now body))
  death : ∀ now body n, Q n → Q (n.onTopics fun list =>
    list.receiveDeath (str "NBIRTH") (str "NDEATH") (Payload.receiveProtobuf true now body))
  data : ∀ now body n, Q n → Q (n.onTopics fun list =>
    list.receive (str "NBIRTH") (Payload.receiveProtobuf false now body))
  deviceBirth : ∀ device now body n, Q n → Q (deviceBirth device now body n)
  deviceDeath : ∀ device now body n, Q n → Q (n.onDevice device fun list =>
    list.receiveDeath (str "DBIRTH") (str "DDEATH") (Payload.receiveProtobuf true now body))
  deviceUpdate : ∀ device now body n, Q n → Q (n.onDevice device fun list =>
    list.receive (str "DBIRTH") (Payload.receiveProtobuf true now body))

/-- All the mirrors have the property. -/
def Mirrors (Q : SparkplugNode P → Prop) (r : Receiver P) : Prop := ∀ n ∈ r.nodeList, Q n

variable {Q : SparkplugNode P → Prop}

theorem Mirrors.addRemote {r : Receiver P} (h : r.Mirrors Q) {n : SparkplugNode P} (hn : Q n) :
    (r.addRemote n).Mirrors Q := by
  intro m hm
  rcases List.mem_append.mp hm with hm | hm
  · exact h m hm
  · rw [List.mem_singleton.mp hm]
    exact hn

theorem Mirrors.update {r : Receiver P} (h : r.Mirrors Q) (target : Target)
    {f : SparkplugNode P → SparkplugNode P} (hf : ∀ n, Q n → Q (f n)) :
    (r.update target f).Mirrors Q := by
  cases target with
  | self => exact h
  | remote i =>
    intro m hm
    obtain ⟨j, hj⟩ := List.mem_iff_getElem?.mp hm
    simp only [Receiver.update, List.getElem?_modify] at hj
    obtain ⟨n, hn, hnm⟩ := Option.map_eq_some_iff.mp hj
    have hQ := h n (List.mem_of_getElem? hn)
    split at hnm
    · rw [← hnm]
      exact hf n hQ
    · rw [← hnm]
      exact hQ

theorem Mirrors.ensureNode {r : Receiver P} (h : r.Mirrors Q) (hQ : MirrorInvariant Q)
    (group node : Str) (now : UInt64) : (r.ensureNode group node now).Mirrors Q := by
  unfold Receiver.ensureNode
  split
  · exact h
  · exact h.addRemote (hQ.node group node now)

theorem Mirrors.ensureHost {r : Receiver P} (h : r.Mirrors Q) (hQ : MirrorInvariant Q)
    (host : Str) (now : UInt64) : (r.ensureHost host now).Mirrors Q := by
  unfold Receiver.ensureHost
  split
  · exact h
  · exact h.addRemote (hQ.host host now)

theorem Mirrors.ensured {r s : Receiver P} (h : r.Mirrors Q) (hQ : MirrorInvariant Q)
    {now : UInt64} (hs : Ensured r now s) : s.Mirrors Q := by
  cases hs with
  | known => exact h
  | host _ => exact h.ensureHost hQ _ now
  | node _ _ => exact h.ensureNode hQ _ _ now

theorem MirrorInvariant.change (hQ : MirrorInvariant Q) {messageType : Str} {now : UInt64}
    {body : BodyList} {i : Nat} {f : SparkplugNode P → SparkplugNode P}
    (hf : Change messageType now body (.remote i) f) : ∀ n, Q n → Q (f n) := by
  cases hf with
  | state _ _ => exact hQ.state body
  | birth _ => exact hQ.birth now body
  | death _ => exact hQ.death now body
  | data _ => exact hQ.data now body
  | deviceBirth _ device => exact hQ.deviceBirth device now body
  | deviceDeath _ device => exact hQ.deviceDeath device now body
  | deviceUpdate _ device => exact hQ.deviceUpdate device now body

/-- The property holds of all the mirrors after a message. -/
theorem Mirrors.message {r : Receiver P} (h : r.Mirrors Q) (hQ : MirrorInvariant Q)
    (topicName : Str) (now : UInt64) (body : BodyList) :
    (r.message topicName now body).Mirrors Q := by
  have heffect := r.effect_message topicName now body
  generalize r.message topicName now body = next at heffect ⊢
  cases heffect with
  | ensured hs => exact h.ensured hQ hs
  | @changed s target f hs hf =>
    have hensured := h.ensured hQ hs
    cases target with
    | self => exact hensured
    | remote i => exact hensured.update _ (hQ.change hf)

/-- The property holds of all the mirrors after a sequence of messages. -/
theorem Mirrors.run {r : Receiver P} (h : r.Mirrors Q) (hQ : MirrorInvariant Q)
    (ms : List Delivery) : (run deliver r ms).Mirrors Q := by
  have hstep : ∀ (r : Receiver P) (m : Delivery), r.Mirrors Q → (r.deliver m).Mirrors Q :=
    fun r m hr => hr.message hQ m.topicName m.now m.body
  exact run_preserves hstep ms h

/-- The client that a lookup of the names finds. -/
def findNode (group node : Str) (r : Receiver P) : Option (SparkplugNode P) :=
  (r.getNode group node).bind fun target => r.get? target

/-- The NBIRTH topic that messages of the node are stored in. -/
def nodeBirth (group node : Str) (r : Receiver P) : Option (Topic P) :=
  (r.findNode group node).bind fun n => n.topicList.getTopicByMessageType (str "NBIRTH")

section Lookup
variable {r : Receiver P} {group node : Str}

theorem findNode_of_none (h : r.getNode group node = none) : r.findNode group node = none := by
  rw [findNode, h]
  rfl

theorem getNode_update (target : Target) {f : SparkplugNode P → SparkplugNode P}
    (hf : ∀ n, (f n).group = n.group ∧ (f n).name = n.name) :
    (r.update target f).getNode group node = r.getNode group node := by
  have hnamed : ∀ n, isNodeNamed group node (f n) = isNodeNamed group node n := by
    intro n
    rw [isNodeNamed, isNodeNamed, (hf n).1, (hf n).2]
  cases target with
  | self => simp only [getNode, Receiver.update, hnamed]
  | remote i =>
    have hindex : (r.nodeList.modify i f).findIdx? (isNodeNamed group node) =
        r.nodeList.findIdx? (isNodeNamed group node) := by
      generalize r.nodeList = nodes
      induction nodes generalizing i with
      | nil => simp
      | cons n ns ih =>
        cases i with
        | zero => simp [List.findIdx?_cons, hnamed]
        | succ i => simp [List.findIdx?_cons, ih]
    simp only [getNode, Receiver.update, hindex]

theorem findNode_onNode {f : SparkplugNode P → SparkplugNode P}
    (hf : ∀ n, (f n).group = n.group ∧ (f n).name = n.name) :
    (r.onNode group node f).findNode group node = (r.findNode group node).map f := by
  unfold onNode
  cases htarget : r.getNode group node with
  | none =>
    rw [findNode_of_none htarget]
    rfl
  | some target =>
    obtain ⟨n, hn, -⟩ := getNode_spec htarget
    simp only [findNode, getNode_update target hf, htarget, Option.bind_some, hn,
      get?_update_self hn, Option.map_some]

theorem findNode_ensureNode_none (hgroup : group ≠ []) (hnode : node ≠ [])
    (h : r.getNode group node = none) (now : UInt64) :
    (r.ensureNode group node now).findNode group node =
      some { SparkplugNode.create now with group := group, name := node } := by
  have hnames : ¬ (group = [] ∨ node = []) := not_or.mpr ⟨hgroup, hnode⟩
  have hself : isNodeNamed group node r.self = false := by
    cases hnamed : isNodeNamed group node r.self with
    | false => rfl
    | true => simp [getNode, hnames, hnamed] at h
  have hlist : r.nodeList.findIdx? (isNodeNamed group node) = none := by
    simpa [getNode, hnames, hself] using h
  let n : SparkplugNode P := { SparkplugNode.create now with group := group, name := node }
  have hnew : isNodeNamed group node n = true := by
    simp [isNodeNamed, n]
  have hadded : (r.nodeList ++ [n]).findIdx? (isNodeNamed group node) =
      some r.nodeList.length := by
    simp [List.findIdx?_append, hlist, List.findIdx?_cons, hnew]
  have hfound : (r.addRemote n).getNode group node = some (.remote r.nodeList.length) := by
    simp [getNode, hnames, addRemote, hself, hadded]
  unfold ensureNode
  rw [h]
  change (r.addRemote n).findNode group node = some n
  rw [findNode, hfound]
  simp [get?, addRemote]

theorem ensureNode_some {target : Target} (h : r.getNode group node = some target)
    (now : UInt64) : r.ensureNode group node now = r := by
  unfold ensureNode
  rw [h]

end Lookup

end Receiver

namespace TopicList
variable {P : Platform}

/-- A message is stored in the topic of its type unless the client publishes that one. -/
theorem find_receive (messageType : Str) (store : Payload P → Payload P) (list : TopicList P) :
    getTopicByMessageType messageType (list.receive messageType store) =
      (getTopicByMessageType messageType list).map fun t =>
        if t.publish then t else t.onPayload store := by
  unfold receive
  cases ht : getTopicByMessageType messageType list with
  | none => exact ht
  | some t =>
    dsimp only [Option.map_some]
    split
    · exact ht
    · have hstored := @find_update_self P messageType (fun t => t.onPayload store)
        (fun _ => rfl) list
      rw [hstored, ht]
      rfl

/-- A message is stored nowhere else. -/
theorem find_receive_ne {messageType other : Str}
    (hne : lower (cString messageType) ≠ lower (cString other)) (store : Payload P → Payload P)
    (list : TopicList P) :
    getTopicByMessageType other (list.receive messageType store) =
      getTopicByMessageType other list := by
  unfold receive
  split
  · rfl
  · split
    · rfl
    · exact find_update_ne (f := fun t => t.onPayload store) (fun _ => rfl) hne list

theorem find_receiveDeath_ne {birthType deathType other : Str}
    (hbirth : lower (cString birthType) ≠ lower (cString other))
    (hdeath : lower (cString deathType) ≠ lower (cString other)) (store : Payload P → Payload P)
    (list : TopicList P) :
    getTopicByMessageType other (list.receiveDeath birthType deathType store) =
      getTopicByMessageType other list := by
  unfold receiveDeath
  split
  · split
    · rfl
    · exact (find_update_ne (f := Topic.setAllMetricsInvalid) (fun _ => rfl) hbirth _).trans
        (find_update_ne (f := fun t => t.onPayload store) (fun _ => rfl) hdeath list)
  · rfl

end TopicList

namespace Receiver
variable {P : Platform} {r : Receiver P} {group node : Str}

theorem nodeBirth_received (store : Payload P → Payload P) :
    (r.onNode group node fun n =>
        n.onTopics fun list => list.receive (str "NBIRTH") store).nodeBirth group node =
      (r.nodeBirth group node).map fun t => if t.publish then t else t.onPayload store := by
  have hstored := @findNode_onNode P r group node
    (fun n => n.onTopics fun list => list.receive (str "NBIRTH") store) fun _ => ⟨rfl, rfl⟩
  unfold nodeBirth
  rw [hstored]
  cases r.findNode group node with
  | none => rfl
  | some n => exact TopicList.find_receive _ store n.topicList

/-- What an NBIRTH leaves in the mirror: it goes into the topic that is there, or into the
topic of a new mirror. -/
theorem nodeBirth_handleNodeBirth (hgroup : group ≠ []) (hnode : node ≠ []) (now : UInt64)
    (body : BodyList) :
    (r.handleNodeBirthMessage group node now body).nodeBirth group node =
      ((r.ensureNode group node now).nodeBirth group node).map fun t =>
        if t.publish then t else t.onPayload (Payload.receiveProtobuf true now body) := by
  unfold handleNodeBirthMessage
  rw [if_neg (not_or.mpr ⟨hgroup, hnode⟩)]
  exact nodeBirth_received _

theorem nodeBirth_handleNodeData (now : UInt64) (body : BodyList) :
    (r.handleNodeDataMessage group node now body).nodeBirth group node =
      (r.nodeBirth group node).map fun t =>
        if t.publish then t else t.onPayload (Payload.receiveProtobuf false now body) :=
  nodeBirth_received _

/-- The mirror of a node that was never seen. -/
theorem nodeBirth_ensureNode_none (hgroup : group ≠ []) (hnode : node ≠ [])
    (h : r.getNode group node = none) (now : UInt64) :
    ∃ t, (r.ensureNode group node now).nodeBirth group node = some t ∧ t.publish = false ∧
      t.payload.metricList = FoldedMap.empty := by
  obtain ⟨t, ht, hpublish, hempty⟩ := SparkplugNode.create_birth (P := P) now
  refine ⟨t, ?_, hpublish, hempty⟩
  rw [nodeBirth, findNode_ensureNode_none hgroup hnode h now]
  exact ht

theorem message_nodeBirth {topicName : Str}
    (h : (parseTopic P topicName).messageType = str "NBIRTH") (now : UInt64) (body : BodyList) :
    r.message topicName now body =
      r.handleNodeBirthMessage (parseTopic P topicName).groupId (parseTopic P topicName).nodeId
        now body := by
  unfold message
  dsimp only
  rw [h, if_neg (by decide), if_pos rfl]

theorem message_nodeData {topicName : Str}
    (h : (parseTopic P topicName).messageType = str "NDATA") (now : UInt64) (body : BodyList) :
    r.message topicName now body =
      r.handleNodeDataMessage (parseTopic P topicName).groupId (parseTopic P topicName).nodeId
        now body := by
  unfold message
  dsimp only
  rw [h, if_neg (by decide), if_neg (by decide), if_neg (by decide), if_neg (by decide),
    if_pos rfl]

end Receiver
end PubSub
