import PubSub.AliasUniqueness

/-!
# Calls of DoPublish in steps

The worker of a node and the threads that stop its devices publish at the same time. A call
of `DoPublish` takes a sequence number, generates the body and hands the message over in
three steps, and the other threads run in between.
-/

namespace PubSub
set_option autoImplicit false

namespace SparkplugTopic
variable {P : Platform}

def number (sequenceNumber : UInt8) (t : Topic P) : Topic P :=
  if isState t then t
  else t.onPayload fun p => { p with sequenceNumber := sequenceNumber.toUInt64 }

def generateBody (t : Topic P) : Topic P :=
  if isState t then (t.onPayload Payload.generateJson).cacheTopic
  else (t.onPayload Payload.generateProtobuf).cacheTopic

theorem doPublish_steps (sequenceNumber : UInt8) (t : Topic P) :
    doPublish sequenceNumber t = generateBody (number sequenceNumber t) := by
  unfold doPublish generate generateBody number
  cases hstate : isState t with
  | true => simp only [if_true, hstate]
  | false =>
    have hnumbered : isState (t.onPayload fun p =>
        { p with sequenceNumber := sequenceNumber.toUInt64 }) = false := hstate
    rw [if_neg Bool.false_ne_true, if_neg Bool.false_ne_true, hnumbered,
      if_neg Bool.false_ne_true]
    rfl

@[simp] theorem number_messageType (sequenceNumber : UInt8) (t : Topic P) :
    (number sequenceNumber t).messageType = t.messageType := by
  unfold number
  split <;> rfl

@[simp] theorem generateBody_messageType (t : Topic P) :
    (generateBody t).messageType = t.messageType := by
  unfold generateBody
  split <;> rfl

@[simp] theorem number_nameSpace (sequenceNumber : UInt8) (t : Topic P) :
    (number sequenceNumber t).nameSpace = t.nameSpace := by
  unfold number
  split <;> rfl

@[simp] theorem generateBody_nameSpace (t : Topic P) :
    (generateBody t).nameSpace = t.nameSpace := by
  unfold generateBody
  split <;> rfl

end SparkplugTopic

namespace Topic
variable {P : Platform}

def stamp (now : UInt64) (t : Topic P) : Topic P := t.onPayload fun p => p.setTimestamp now false

@[simp] theorem stamp_messageType (now : UInt64) (t : Topic P) :
    (t.stamp now).messageType = t.messageType := rfl

/-- What a message takes from the payload: its sequence number and its body. -/
def content (t : Topic P) : UInt64 × BodyList := (t.payload.sequenceNumber, t.payload.body)

end Topic

namespace TopicList
variable {P : Platform}

def content (messageType : Str) (list : TopicList P) : Option (UInt64 × BodyList) :=
  (list.getTopicByMessageType messageType).map Topic.content

/-- A change that leaves type and content of the topic it finds. -/
theorem content_update {messageType : Str} {f : Topic P → Topic P} {list : TopicList P}
    (hf : ∀ t, list.getTopicByMessageType messageType = some t →
      (f t).messageType = t.messageType ∧ (f t).content = t.content) (other : Str) :
    (list.update messageType f).content other = list.content other := by
  induction list with
  | nil => rfl
  | cons a as ih =>
    cases ha : hasMessageType messageType a with
    | true =>
      have hfound : getTopicByMessageType messageType (a :: as) = some a := by
        simp [getTopicByMessageType, ha]
      obtain ⟨htype, hcontent⟩ := hf a hfound
      have hupdate : update messageType f (a :: as) = f a :: as := by
        simp [update, List.findIdx_cons, ha]
      have hsame : hasMessageType other (f a) = hasMessageType other a := by
        rw [hasMessageType, htype]
        rfl
      rw [hupdate]
      unfold content getTopicByMessageType
      cases hother : hasMessageType other a with
      | true =>
        rw [List.find?_cons_of_pos (hsame.trans hother), List.find?_cons_of_pos hother]
        exact congrArg some hcontent
      | false =>
        rw [List.find?_cons_of_neg (by simp [hsame, hother]),
          List.find?_cons_of_neg (by simp [hother])]
    | false =>
      rw [update_cons_ne _ _ ha]
      have hrest := ih fun t ht => hf t (by rw [find_cons_ne _ ha, ht])
      unfold content at hrest ⊢
      cases hother : hasMessageType other a with
      | true => simp [getTopicByMessageType, hother]
      | false => rw [find_cons_ne _ hother, find_cons_ne _ hother, hrest]

theorem content_map {f : Topic P → Topic P} (htype : ∀ t, (f t).messageType = t.messageType)
    (hcontent : ∀ t, (f t).content = t.content) (messageType : Str) (list : TopicList P) :
    content messageType (list.map f) = list.content messageType := by
  have hcomp : hasMessageType messageType ∘ f = hasMessageType messageType := by
    funext t
    exact congrArg (P.iEquals messageType) (htype t)
  rw [content, getTopicByMessageType, List.find?_map, hcomp, Option.map_map]
  exact congrArg (fun g => Option.map g _) (funext hcontent)

end TopicList

namespace MessageKind

def messageType : MessageKind → Str
  | .nodeBirth => str "NBIRTH"
  | .nodeDeath => str "NDEATH"
  | .deviceBirth _ => str "DBIRTH"
  | .deviceDeath _ => str "DDEATH"
  | .state => str "STATE"

def device : MessageKind → Option Str
  | .deviceBirth key | .deviceDeath key => some key
  | _ => none

/-- Which topic of a node is published. -/
def topicKey (P : Platform) (k : MessageKind) : Option (List Nat) × Str :=
  (k.device.map P.foldKey, k.messageType)

def messageTypes : List Str :=
  [str "NBIRTH", str "NDEATH", str "DBIRTH", str "DDEATH", str "STATE"]

theorem messageType_mem (k : MessageKind) : k.messageType ∈ messageTypes := by
  cases k <;> simp [messageTypes, messageType]

theorem messageType_ne {j k : MessageKind} (h : j.messageType ≠ k.messageType) :
    lower (cString j.messageType) ≠ lower (cString k.messageType) := by
  have hall : ∀ a ∈ messageTypes, ∀ b ∈ messageTypes, a ≠ b →
      lower (cString a) ≠ lower (cString b) := by decide
  exact hall _ j.messageType_mem _ k.messageType_mem h

theorem messageType_ne_state {k : MessageKind} (h : k ≠ .state) :
    k.messageType ≠ MessageKind.state.messageType := by
  cases k with
  | nodeBirth => decide
  | nodeDeath => decide
  | deviceBirth key => exact (by decide : str "DBIRTH" ≠ str "STATE")
  | deviceDeath key => exact (by decide : str "DDEATH" ≠ str "STATE")
  | state => exact absurd rfl h

end MessageKind

namespace SparkplugNode
variable {P : Platform}

def topicAt (k : MessageKind) (n : SparkplugNode P) : Option (Topic P) :=
  match k.device with
  | none => n.topicList.getTopicByMessageType k.messageType
  | some key =>
    (n.deviceList.get? key).bind fun d => d.topicList.getTopicByMessageType k.messageType

/-- A change made through a pointer to the topic. -/
def onTopicAt (k : MessageKind) (f : Topic P → Topic P) (n : SparkplugNode P) :
    SparkplugNode P :=
  match k.device with
  | none => n.onTopics fun list => list.update k.messageType f
  | some key => n.updateDevice key (SparkplugDevice.onTopics fun list => list.update k.messageType f)

def contentAt (k : MessageKind) (n : SparkplugNode P) : Option (UInt64 × BodyList) :=
  (n.topicAt k).map Topic.content

@[simp] theorem onTopicAt_sequenceNumber (k : MessageKind) (f : Topic P → Topic P)
    (n : SparkplugNode P) : (n.onTopicAt k f).sequenceNumber = n.sequenceNumber := by
  unfold onTopicAt
  split <;> rfl

theorem onTopicAt_counted (k : MessageKind) (f : Topic P → Topic P) (n : SparkplugNode P)
    (counter : UInt8) : { n with sequenceNumber := counter }.onTopicAt k f =
      { n.onTopicAt k f with sequenceNumber := counter } := by
  unfold onTopicAt
  split <;> rfl

theorem topicAt_onTopicAt (k : MessageKind) {f : Topic P → Topic P}
    (hf : ∀ t, (f t).messageType = t.messageType) (n : SparkplugNode P) :
    (n.onTopicAt k f).topicAt k = (n.topicAt k).map f := by
  unfold topicAt onTopicAt
  cases k.device with
  | none => exact TopicList.find_update_self hf n.topicList
  | some key =>
    change ((n.deviceList.update key _).get? key).bind _ = ((n.deviceList.get? key).bind _).map f
    rw [FoldedMap.get?_update_self]
    cases n.deviceList.get? key with
    | none => rfl
    | some d => exact TopicList.find_update_self hf d.topicList

theorem onTopicAt_onTopicAt (k : MessageKind) {f : Topic P → Topic P}
    (hf : ∀ t, (f t).messageType = t.messageType) (g : Topic P → Topic P)
    (n : SparkplugNode P) : (n.onTopicAt k f).onTopicAt k g = n.onTopicAt k (g ∘ f) := by
  unfold onTopicAt
  cases k.device with
  | none =>
    have hlist : (n.topicList.update k.messageType f).update k.messageType g =
        n.topicList.update k.messageType (g ∘ f) := TopicList.update_update hf g n.topicList
    exact congrArg (fun list => { n with topicList := list }) hlist
  | some key =>
    have hmap : (n.deviceList.update key (SparkplugDevice.onTopics fun list =>
        list.update k.messageType f)).update key (SparkplugDevice.onTopics fun list =>
          list.update k.messageType g) =
        n.deviceList.update key (SparkplugDevice.onTopics fun list =>
          list.update k.messageType (g ∘ f)) := by
      rw [FoldedMap.update_update]
      congr 1
      funext d
      exact congrArg (fun list => { d with topicList := list })
        (TopicList.update_update hf g d.topicList)
    exact congrArg (fun devices => { n with deviceList := devices }) hmap

theorem topicAt_onTopicAt_ne {j k : MessageKind} (h : j.topicKey P ≠ k.topicKey P)
    {f : Topic P → Topic P} (hf : ∀ t, (f t).messageType = t.messageType)
    (n : SparkplugNode P) : (n.onTopicAt k f).topicAt j = n.topicAt j := by
  have htypes : j.device.map P.foldKey = k.device.map P.foldKey →
      lower (cString k.messageType) ≠ lower (cString j.messageType) := by
    intro hdevice
    apply MessageKind.messageType_ne
    intro htype
    exact h (Prod.ext hdevice htype.symm)
  unfold topicAt onTopicAt
  cases hj : j.device with
  | none =>
    cases hk : k.device with
    | none => exact TopicList.find_update_ne hf (htypes (by rw [hj, hk])) n.topicList
    | some key => rfl
  | some other =>
    cases hk : k.device with
    | none => rfl
    | some key =>
      change ((n.deviceList.update key _).get? other).bind _ = (n.deviceList.get? other).bind _
      rw [FoldedMap.get?_update]
      split
      · rename_i hkey
        have hne := htypes (by rw [hj, hk, Option.map_some, Option.map_some, hkey])
        cases n.deviceList.get? other with
        | none => rfl
        | some d => exact TopicList.find_update_ne hf hne d.topicList
      · rfl

/-- Only the topic of a host takes no sequence number. -/
theorem isState_of_topicAt {k : MessageKind} {n : SparkplugNode P} {t : Topic P}
    (h : n.topicAt k = some t) (hk : k ≠ .state) : SparkplugTopic.isState t = false := by
  have hfound : ∃ list : TopicList P, list.getTopicByMessageType k.messageType = some t := by
    unfold topicAt at h
    split at h
    · exact ⟨_, h⟩
    · obtain ⟨d, _, hd⟩ := Option.bind_eq_some_iff.mp h
      exact ⟨_, hd⟩
  obtain ⟨list, hlist⟩ := hfound
  have htype : TopicList.hasMessageType k.messageType t = true := List.find?_some hlist
  have hkey := (P.iEquals_iff _ _).mp htype
  have hne := MessageKind.messageType_ne (MessageKind.messageType_ne_state hk)
  apply decide_eq_false
  intro hstate
  exact P.foldKey_ne hne (hkey.trans (congrArg P.foldKey hstate))

end SparkplugNode

/-- A call of `DoPublish` that has not taken its number yet. -/
structure EnteredCall where
  byWorker : Bool
  kind : MessageKind
  deriving DecidableEq

structure NumberedCall extends EnteredCall where
  number : UInt8
  generated : Bool := false
  deriving DecidableEq

def NumberedCall.withBody (c : NumberedCall) : NumberedCall := { c with generated := true }

/-- What is left to do in the state function that the worker is in. -/
inductive WorkerTask where
  | startSubscription
  | publishNodeBirth
  | publishNodeDeath
  | online
  | pollDevices
  | poll (key : Str)
  | deviceOnline (key : Str)
  | deviceOffline (key : Str)
  | leave (started : Nat)
  | loop
  deriving DecidableEq

/-- A node with its calls of `DoPublish`, the numbered ones in the order of their numbers,
and with the messages that `MQTTAsync_sendMessage` took. -/
structure PublishSys (P : Platform) where
  node : NodeSys P
  tasks : List WorkerTask := []
  entered : List EnteredCall := []
  numbered : List NumberedCall := []
  accepted : List MqttMessage := []
  refused : Nat := 0

inductive PublishEvent (P : Platform) where
  | act (a : NodeAct P)
  | work (elapsed : Nat) (io : Outcomes)
  | stopDevice (device : Str)
  | take (i : Nat)
  | generate (i : Nat)
  | send (i : Nat) (accepted : Bool)

namespace NodeSys
variable {P : Platform}

/-- The state functions that publish, line by line. -/
def publishTasks (s : NodeSys P) : Option (List WorkerTask) :=
  match s.phase, s.nodeState with
  | .body, .waitOnConnect =>
    if s.isConnected then
      some [.startSubscription, .publishNodeBirth, .online, .pollDevices, .loop]
    else none
  | .body, .online =>
    if s.leaves then some [.pollDevices, .publishNodeDeath, .leave s.clock, .loop]
    else some [.pollDevices, .loop]
  | _, _ => none

end NodeSys

namespace PublishSys
variable {P : Platform}

def self (s : PublishSys P) : SparkplugNode P := s.node.self

def withSelf (n : SparkplugNode P) (s : PublishSys P) : PublishSys P :=
  { s with node := s.node.withSelf n }

def enter (c : EnteredCall) (s : PublishSys P) : PublishSys P :=
  { s with entered := s.entered ++ [c] }

/-- `PublishNodeBirth` and `PublishNodeDeath` up to the call of `DoPublish`. -/
def publishNode (kind : MessageKind) (s : PublishSys P) : PublishSys P :=
  if s.node.isConnected then
    match s.self.topicAt kind with
    | none => s
    | some _ =>
      (s.withSelf (s.self.onTopicAt kind (Topic.stamp s.node.now))).enter ⟨true, kind⟩
  else s

def publishDevice (byWorker : Bool) (kind : MessageKind) (d : SparkplugDevice P)
    (s : PublishSys P) : PublishSys P :=
  match s.self.topicAt kind with
  | none => s
  | some _ =>
    let s := s.withSelf (s.self.onTopicAt kind fun t =>
      (t.setTopic (d.topicPath kind.messageType s.self.name)).stamp s.node.now)
    if s.node.isConnected then s.enter ⟨byWorker, kind⟩ else s

/-- `Poll`; what follows a publication is left to the next tasks. -/
def pollDevice (key : Str) (s : PublishSys P) : PublishSys P :=
  match s.self.deviceList.get? key with
  | none => s
  | some d =>
    match d.deviceState with
    | .online =>
      if !d.inService || !s.node.isOnline || !s.self.inService then
        let s := s.publishDevice true (.deviceDeath key) d
        { s with tasks := .deviceOffline key :: s.tasks }
      else s
    | .offline =>
      if d.inService || s.node.isOnline then
        let s := s.publishDevice true (.deviceBirth key) d
        { s with tasks := .deviceOnline key :: s.tasks }
      else s
    | .idle => { s with tasks := .deviceOffline key :: s.tasks }

def perform (io : Outcomes) (s : PublishSys P) : WorkerTask → PublishSys P
  | .startSubscription => { s with node := s.node.startSubscription }
  | .publishNodeBirth => s.publishNode .nodeBirth
  | .publishNodeDeath => s.publishNode .nodeDeath
  | .online => { s with node := { s.node with nodeState := .online } }
  | .pollDevices =>
    { s with tasks := s.self.deviceList.entries.map (fun e => .poll e.1) ++ s.tasks }
  | .poll key => s.pollDevice key
  | .deviceOnline key =>
    s.withSelf (s.self.updateDevice key fun d => { d with deviceState := .online })
  | .deviceOffline key =>
    s.withSelf (s.self.updateDevice key fun d =>
      { d.setAllMetricsInvalid with deviceState := .offline })
  | .leave started =>
    { s with node :=
        { s.node.sendDisconnect io with
          nodeTimer := started + 5000
          nodeState := .waitOnDisconnect } }
  | .loop => { s with node := { s.node with phase := .check } }

/-- Whether the worker waits for a call of `DoPublish` to return. -/
def workerPublishes (s : PublishSys P) : Bool :=
  s.entered.any EnteredCall.byWorker || s.numbered.any fun c => c.byWorker

def work (elapsed : Nat) (io : Outcomes) (s : PublishSys P) : PublishSys P :=
  if s.workerPublishes then s
  else
    let node := s.node.tick elapsed
    match s.tasks with
    | task :: tasks => { s with node := node, tasks := tasks }.perform io task
    | [] =>
      match node.publishTasks with
      | some tasks => { s with node := node, tasks := tasks }
      | none => { s with node := node.work io }

def stopDevice (name : Str) (s : PublishSys P) : PublishSys P :=
  match s.self.deviceList.get? name with
  | none => s
  | some d =>
    let s := s.withSelf (s.self.updateDevice name SparkplugDevice.setAllMetricsInvalid)
    if d.deviceState = .online ∧ s.node.isOnline then
      s.publishDevice false (.deviceDeath name) d
    else s

def take (i : Nat) (s : PublishSys P) : PublishSys P :=
  match s.entered[i]? with
  | none => s
  | some c =>
    match s.self.topicAt c.kind with
    | none => s
    | some t =>
      { s.withSelf { s.self.onTopicAt c.kind (SparkplugTopic.number s.self.sequenceNumber) with
          sequenceNumber := SparkplugTopic.nextSequenceNumber s.self.sequenceNumber t } with
        entered := s.entered.eraseIdx i
        numbered := s.numbered ++ [{ c with number := s.self.sequenceNumber }] }

def generate (i : Nat) (s : PublishSys P) : PublishSys P :=
  match s.numbered[i]? with
  | none => s
  | some c =>
    if c.generated then s
    else
      { s.withSelf (s.self.onTopicAt c.kind SparkplugTopic.generateBody) with
        numbered := s.numbered.modify i NumberedCall.withBody }

/-- The library reads the buffer of the payload while it takes the message. -/
def send (i : Nat) (accepted : Bool) (s : PublishSys P) : PublishSys P :=
  match s.numbered[i]? with
  | none => s
  | some c =>
    if c.generated then
      match s.self.topicAt c.kind with
      | none => s
      | some t =>
        if accepted then
          { s with numbered := s.numbered.eraseIdx i, accepted := s.accepted ++ [t.message] }
        else { s with numbered := s.numbered.eraseIdx i, refused := s.refused + 1 }
    else s

/-- Everything but the worker and the stops of devices. -/
def act (s : PublishSys P) : NodeAct P → PublishSys P
  | .event (.work _ _) | .event (.deviceStop _) => s
  | a => { s with node := s.node.act a }

def step (s : PublishSys P) : PublishEvent P → PublishSys P
  | .act a => s.act a
  | .work elapsed io => s.work elapsed io
  | .stopDevice device => s.stopDevice device
  | .take i => s.take i
  | .generate i => s.generate i
  | .send i accepted => s.send i accepted

def init (now : UInt64) (setups : List Setup) : PublishSys P where
  node := NodeSys.init now setups

theorem take_alone {s : PublishSys P} {c : EnteredCall} {t : Topic P} (hentered : s.entered = [c])
    (hnumbered : s.numbered = []) (ht : s.self.topicAt c.kind = some t) :
    s.take 0 =
      { s.withSelf { s.self.onTopicAt c.kind (SparkplugTopic.number s.self.sequenceNumber) with
          sequenceNumber := SparkplugTopic.nextSequenceNumber s.self.sequenceNumber t } with
        entered := []
        numbered := [{ c with number := s.self.sequenceNumber }] } := by
  unfold take
  simp only [hentered, List.getElem?_cons_zero, ht, hnumbered, List.eraseIdx_cons_zero,
    List.nil_append]

theorem generate_alone {s : PublishSys P} {c : NumberedCall} (hnumbered : s.numbered = [c])
    (hfresh : c.generated = false) :
    s.generate 0 =
      { s.withSelf (s.self.onTopicAt c.kind SparkplugTopic.generateBody) with
        numbered := [c.withBody] } := by
  unfold generate
  simp only [hnumbered, List.getElem?_cons_zero, hfresh, Bool.false_eq_true, if_false]
  rfl

theorem send_alone {s : PublishSys P} {c : NumberedCall} {t : Topic P} (hnumbered : s.numbered = [c])
    (hgenerated : c.generated = true) (ht : s.self.topicAt c.kind = some t) (accepted : Bool) :
    s.send 0 accepted =
      { s with
        numbered := []
        accepted := s.accepted ++ if accepted then [t.message] else []
        refused := s.refused + if accepted then 0 else 1 } := by
  unfold send
  simp only [hnumbered, List.getElem?_cons_zero, hgenerated, if_true, ht, List.eraseIdx_cons_zero]
  cases accepted with
  | true => rfl
  | false => simp only [Bool.false_eq_true, if_false, List.append_nil]

/-- A call that nothing comes in between is the `DoPublish` of the topic. -/
theorem publish_alone {s : PublishSys P} {c : EnteredCall} {t : Topic P} (hentered : s.entered = [c])
    (hnumbered : s.numbered = []) (ht : s.self.topicAt c.kind = some t) (accepted : Bool) :
    let sent := SparkplugTopic.doPublish s.self.sequenceNumber t
    run step s [.take 0, .generate 0, .send 0 accepted] =
      { s.withSelf
          { s.self.onTopicAt c.kind (SparkplugTopic.doPublish s.self.sequenceNumber) with
            sequenceNumber := SparkplugTopic.nextSequenceNumber s.self.sequenceNumber t } with
        entered := []
        numbered := []
        accepted := s.accepted ++ if accepted then [sent.message] else []
        refused := s.refused + if accepted then 0 else 1 } := by
  have hsteps : SparkplugTopic.generateBody ∘ SparkplugTopic.number s.self.sequenceNumber =
      SparkplugTopic.doPublish (P := P) s.self.sequenceNumber :=
    funext fun t => (SparkplugTopic.doPublish_steps _ t).symm
  have hnode : { s.self.onTopicAt c.kind (SparkplugTopic.number s.self.sequenceNumber) with
        sequenceNumber := SparkplugTopic.nextSequenceNumber s.self.sequenceNumber t }.onTopicAt
          c.kind SparkplugTopic.generateBody =
      { s.self.onTopicAt c.kind (SparkplugTopic.doPublish s.self.sequenceNumber) with
        sequenceNumber := SparkplugTopic.nextSequenceNumber s.self.sequenceNumber t } := by
    rw [SparkplugNode.onTopicAt_counted,
      SparkplugNode.onTopicAt_onTopicAt _ (SparkplugTopic.number_messageType _), hsteps]
  have hgenerated : (s.take 0).generate 0 =
      { s.withSelf
          { s.self.onTopicAt c.kind (SparkplugTopic.doPublish s.self.sequenceNumber) with
            sequenceNumber := SparkplugTopic.nextSequenceNumber s.self.sequenceNumber t } with
        entered := []
        numbered := [{ c with number := s.self.sequenceNumber, generated := true }] } := by
    rw [take_alone hentered hnumbered ht, generate_alone rfl rfl]
    exact congrArg (fun n => { s.withSelf n with
      entered := []
      numbered := [{ c with number := s.self.sequenceNumber, generated := true }] }) hnode
  have htopic : (s.self.onTopicAt c.kind
      (SparkplugTopic.doPublish s.self.sequenceNumber)).topicAt c.kind =
      some (SparkplugTopic.doPublish s.self.sequenceNumber t) := by
    rw [SparkplugNode.topicAt_onTopicAt _ (Topic.doPublish_messageType _), ht]
    rfl
  dsimp only [run_cons, run_nil, step]
  rw [hgenerated]
  exact send_alone rfl rfl htopic accepted

/-- A publication of the node that nothing comes in between is the one of the worker. -/
theorem publishNode_alone {s : PublishSys P} {kind : MessageKind} {t : Topic P}
    (hkind : kind.device = none) (hentered : s.entered = []) (hnumbered : s.numbered = [])
    (hconnected : s.node.isConnected = true) (ht : s.self.topicAt kind = some t) (accepted : Bool) :
    (run step (s.publishNode kind) [.take 0, .generate 0, .send 0 accepted]).self =
      (s.self.publishMessage kind.messageType kind s.node.isConnected s.node.now).1 := by
  have hcalled : s.publishNode kind =
      (s.withSelf (s.self.onTopicAt kind (Topic.stamp s.node.now))).enter ⟨true, kind⟩ := by
    unfold publishNode
    rw [if_pos hconnected, ht]
  have hstamped : (s.self.onTopicAt kind (Topic.stamp s.node.now)).topicAt kind =
      some (t.stamp s.node.now) := by
    rw [SparkplugNode.topicAt_onTopicAt kind (Topic.stamp_messageType _), ht]
    rfl
  have hone : ((s.withSelf (s.self.onTopicAt kind (Topic.stamp s.node.now))).enter
      ⟨true, kind⟩).entered = [⟨true, kind⟩] := congrArg (· ++ [_]) hentered
  have hfind : s.self.topicList.getTopicByMessageType kind.messageType = some t := by
    rw [SparkplugNode.topicAt, hkind] at ht
    exact ht
  have hcounter : (s.self.onTopicAt kind (Topic.stamp s.node.now)).sequenceNumber =
      s.self.sequenceNumber := SparkplugNode.onTopicAt_sequenceNumber _ _ _
  have hlist : (s.self.onTopicAt kind (Topic.stamp s.node.now)).onTopicAt kind
      (SparkplugTopic.doPublish s.self.sequenceNumber) = s.self.onTopics fun list =>
        list.update kind.messageType fun _ =>
          SparkplugTopic.doPublish s.self.sequenceNumber (t.stamp s.node.now) := by
    rw [SparkplugNode.onTopicAt_onTopicAt kind (Topic.stamp_messageType _)]
    unfold SparkplugNode.onTopicAt
    rw [hkind]
    have hsame : s.self.topicList.update kind.messageType
        (SparkplugTopic.doPublish s.self.sequenceNumber ∘ Topic.stamp s.node.now) =
        s.self.topicList.update kind.messageType fun _ =>
          SparkplugTopic.doPublish s.self.sequenceNumber (t.stamp s.node.now) :=
      TopicList.update_congr hfind rfl
    exact congrArg (fun list => { s.self with topicList := list }) hsame
  rw [hcalled, publish_alone hone hnumbered hstamped]
  unfold SparkplugNode.publishMessage
  rw [if_pos hconnected, hfind]
  change
    { (s.self.onTopicAt kind (Topic.stamp s.node.now)).onTopicAt kind
        (SparkplugTopic.doPublish (s.self.onTopicAt kind (Topic.stamp s.node.now)).sequenceNumber) with
      sequenceNumber := SparkplugTopic.nextSequenceNumber
        (s.self.onTopicAt kind (Topic.stamp s.node.now)).sequenceNumber (t.stamp s.node.now) } = _
  rw [hcounter, hlist]
  rfl

end PublishSys
end PubSub
