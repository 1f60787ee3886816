import PubSub.DeathAnnounced

/-!
# The sequence number of births and deaths

NBIRTH and NDEATH each have a bdSeq metric of their own. A body takes the metric only while it
is flagged and lowers the flag, and the number behind the metric never changes, so that no
setter raises the flag again. The pairing lasts as long as each body finds its flag raised.
-/

namespace PubSub
open DecimalText
set_option autoImplicit false

namespace Payload
variable {P : Platform}

/-- The payload from which `SendConnect` generates the will. -/
def beforeWill (bdSequenceNumber now : UInt64) (p : Payload P) : Payload P :=
  { (p.setUIntValue (str "bdSeq") bdSequenceNumber).setTimestamp now false with
    sequenceNumber := 0 }

/-- The payload from which a publication of the node is generated. -/
def beforePublish (sequenceNumber : UInt8) (now : UInt64) (p : Payload P) : Payload P :=
  { p.setTimestamp now false with sequenceNumber := sequenceNumber.toUInt64 }

/-- The body has an entry for bdSeq, by its name or else by its alias, with this value. -/
def Tells (v : UInt64) (p : Payload P) : Prop :=
  ∃ pb e m, P.parseFromArray p.body = some pb ∧ e ∈ pb.metrics ∧
    p.getMetric (str "bdSeq") = some m ∧
    (e.name = some m.name ∨ e.name = none ∧ e.aliasNumber = some m.aliasNumber) ∧
    e.value = .longValue v

def Serializes (p : Payload P) : Prop :=
  (P.serializeToArray (PayloadHelper.protobufOf false p)).isSome = true

instance (p : Payload P) : Decidable p.Serializes := inferInstanceAs (Decidable (_ = _))

/-- The next body has bdSeq with this value. -/
def SeqFlagged (v : UInt64) (p : Payload P) : Prop :=
  ∃ m ∈ p.getMetric (str "bdSeq"), m.updated = true ∧
    PayloadHelper.metricValue P m = .longValue v

instance (v : UInt64) (p : Payload P) : Decidable (p.SeqFlagged v) :=
  inferInstanceAs (Decidable (∃ _ ∈ _, _))

/-- bdSeq is flagged, or will be when it takes this value. -/
def SeqRaised (v : UInt64) (p : Payload P) : Prop :=
  ∃ m ∈ p.getMetric (str "bdSeq"), m.datatype = .uint64 ∧
    (m.updated = true ∨ m.value ≠ natText v.toNat)

instance (v : UInt64) (p : Payload P) : Decidable (p.SeqRaised v) :=
  inferInstanceAs (Decidable (∃ _ ∈ _, _))

/-- `SendConnect` builds a will that has bdSeq. -/
def WillDue (bdSequenceNumber now : UInt64) (p : Payload P) : Prop :=
  p.SeqRaised bdSequenceNumber ∧ (p.beforeWill bdSequenceNumber now).Serializes

instance (bdSequenceNumber now : UInt64) (p : Payload P) :
    Decidable (p.WillDue bdSequenceNumber now) := inferInstanceAs (Decidable (_ ∧ _))

/-- A publication has bdSeq. -/
def PublicationDue (bdSequenceNumber : UInt64) (sequenceNumber : UInt8) (now : UInt64)
    (p : Payload P) : Prop :=
  p.SeqFlagged bdSequenceNumber ∧ (p.beforePublish sequenceNumber now).Serializes

instance (bdSequenceNumber : UInt64) (sequenceNumber : UInt8) (now : UInt64) (p : Payload P) :
    Decidable (p.PublicationDue bdSequenceNumber sequenceNumber now) :=
  inferInstanceAs (Decidable (_ ∧ _))

theorem getMetric_setTimestamp {name : Str}
    (h : lower (cString name) ≠ lower (cString (str "timestamp"))) (ms : UInt64)
    (p : Payload P) : (p.setTimestamp ms false).getMetric name = p.getMetric name :=
  FoldedMap.get?_update_ne _ _ (P.foldKey_ne h)

theorem seqFlagged_beforePublish {v : UInt64} {p : Payload P} (h : p.SeqFlagged v)
    (sequenceNumber : UInt8) (now : UInt64) :
    (p.beforePublish sequenceNumber now).SeqFlagged v := by
  obtain ⟨m, hm, hwritten⟩ := h
  exact ⟨m, (getMetric_setTimestamp (by decide) now p).trans hm, hwritten⟩

theorem seqFlagged_beforeWill {v : UInt64} {p : Payload P} (h : p.SeqRaised v) (now : UInt64) :
    (p.beforeWill v now).SeqFlagged v := by
  obtain ⟨m, hm, hdatatype, hraised⟩ := h
  have hset : (p.setUIntValue (str "bdSeq") v).getMetric (str "bdSeq") =
      some (m.setInt v.toNat) := by
    have hself := FoldedMap.get?_update_self p.metricList (str "bdSeq")
      fun m => m.setInt v.toNat
    rw [show p.metricList.get? (str "bdSeq") = some m from hm] at hself
    exact hself
  refine ⟨m.setInt v.toNat, (getMetric_setTimestamp (by decide) now _).trans hset, ?_, ?_⟩
  · rw [Metric.setInt, intText_natCast, Metric.setText_updated]
    rcases hraised with hupdated | hvalue
    · simp [hupdated]
    · simp [Ne.symm hvalue]
  · rw [Metric.setInt, intText_natCast]
    unfold PayloadHelper.metricValue
    rw [Metric.setText_datatype, hdatatype, Metric.setText_value]
    exact congrArg PbValue.longValue (Text.valueUInt64_natText v)

/-- A body that is generated while bdSeq is flagged tells it. -/
theorem generateProtobuf_tells {v : UInt64} {p : Payload P} (hflagged : p.SeqFlagged v)
    (hserializes : p.Serializes) : p.generateProtobuf.Tells v := by
  obtain ⟨m, hm, hupdated, hvalue⟩ := hflagged
  obtain ⟨bytes, hbytes⟩ := Option.isSome_iff_exists.mp hserializes
  obtain ⟨key, hentry, hkey, hafter⟩ := FoldedMap.get?_mapValues hm fun k m =>
    if PayloadHelper.includes false (k, m) then { m with updated := false } else m
  have hne : key ≠ [] := by
    rintro rfl
    exact P.foldKey_ne (by decide) hkey
  have hincluded : PayloadHelper.includes false (key, m) = true := by
    simp [PayloadHelper.includes, hne, hupdated]
  rw [if_pos hincluded] at hafter
  refine ⟨PayloadHelper.protobufOf false p, PayloadHelper.writeMetric P false m,
    { m with updated := false }, ?_, ?_, hafter, ?_, hvalue⟩
  · refine P.parse_serialize _ _ (hbytes.trans ?_)
    simp [generateProtobuf, PayloadHelper.writeProtobuf, hbytes]
  · exact List.mem_map.mpr ⟨(key, m), List.mem_filter.mpr ⟨hentry, hincluded⟩, rfl⟩
  · by_cases halias : m.aliasNumber = 0
    · left
      simp [PayloadHelper.writeMetric, halias]
    · right
      simp [PayloadHelper.writeMetric, halias]

theorem WillDue.tells {v now : UInt64} {p : Payload P} (h : p.WillDue v now) :
    (p.beforeWill v now).generateProtobuf.Tells v :=
  generateProtobuf_tells (seqFlagged_beforeWill h.1 now) h.2

theorem PublicationDue.tells {v : UInt64} {sequenceNumber : UInt8} {now : UInt64}
    {p : Payload P} (h : p.PublicationDue v sequenceNumber now) :
    (p.beforePublish sequenceNumber now).generateProtobuf.Tells v :=
  generateProtobuf_tells (seqFlagged_beforePublish h.1 sequenceNumber now) h.2

end Payload

section Session
variable {P : Platform}

/-- The NBIRTH and NDEATH messages of a session. -/
def Action.ownMessage? : Action P → Option (Publication P)
  | .publish p => if p.kind = .nodeBirth ∨ p.kind = .nodeDeath then some p else none
  | .disconnect => none

def ownMessages (session : List (Action P)) : List (Publication P) :=
  session.filterMap Action.ownMessage?

theorem ownMessages_append (session : List (Action P)) (ps : List (Publication P)) :
    ownMessages (session ++ ps.map .publish) =
      ownMessages session ++ ownMessages (ps.map .publish) := List.filterMap_append

theorem ownMessages_disconnect (session : List (Action P)) :
    ownMessages (session ++ [.disconnect]) = ownMessages session := by
  simp [ownMessages, Action.ownMessage?]

theorem ownMessages_eq_nil {ps : List (Publication P)}
    (h : ∀ p ∈ ps, p.kind ≠ .nodeBirth ∧ p.kind ≠ .nodeDeath) :
    ownMessages (ps.map .publish) = [] := by
  rw [ownMessages, List.filterMap_eq_nil_iff]
  intro action haction
  obtain ⟨p, hp, rfl⟩ := List.mem_map.mp haction
  exact if_neg (by simp [h p hp])

end Session

namespace NodeSys
variable {P : Platform}

theorem sentMessages_device {s : NodeSys P} {kind : MessageKind}
    (h : some kind ∈ s.sentMessages) :
    ∃ device, kind = .deviceBirth device ∨ kind = .deviceDeath device := by
  unfold sentMessages at h
  split at h
  · obtain ⟨k, hk, heq⟩ := List.mem_map.mp h
    rw [← Option.some.inj heq]
    exact kind_of_polled hk
  · cases h

/-- Messages of devices are not the node's own. -/
theorem ownMessages_of_log {s t : NodeSys P} {ps : List (Publication P)}
    {kinds : List (Option MessageKind)} (hsession : t.session = s.session ++ ps.map .publish)
    (hlog : t.log = s.log ++ kinds)
    (hdevice : ∀ kind, some kind ∈ kinds →
      ∃ device, kind = .deviceBirth device ∨ kind = .deviceDeath device) :
    ownMessages t.session = ownMessages s.session := by
  have hkinds : (ps.map Publication.kind).map some = kinds := by
    have hlogs := hlog
    rw [log, hsession, log_append] at hlogs
    exact List.append_cancel_left hlogs
  have hnone : ownMessages (ps.map Action.publish) = [] := by
    apply ownMessages_eq_nil
    intro p hp
    have hmem : some p.kind ∈ kinds := by
      rw [← hkinds]
      exact List.mem_map_of_mem (List.mem_map_of_mem hp)
    obtain ⟨device, hkind | hkind⟩ := hdevice p.kind hmem
    · simp [hkind]
    · simp [hkind]
  rw [hsession, ownMessages_append, hnone, List.append_nil]

theorem pollDevices_ownMessages {s : NodeSys P} {birth death : Topic P}
    (h : s.Owns birth death) (hstate : s.nodeState = .online) :
    ownMessages s.pollDevices.session = ownMessages s.session :=
  ownMessages_of_log (published_session _ _) (pollDevices_spec h hstate).2.2
    fun _ => sentMessages_device

theorem deviceStop_ownMessages {s : NodeSys P} {birth death : Topic P} (h : s.Owns birth death)
    (device : Str) : ownMessages (s.deviceStop device).session = ownMessages s.session := by
  obtain ⟨_, hmove⟩ := deviceStop_stepped h device
  generalize hview : (s.deviceStop device).view = v at hmove
  have hlog := congrArg SessionView.log hview
  cases hmove with
  | stay hlink =>
    have hsame : (s.deviceStop device).log = s.log ++ [] := by
      rw [List.append_nil]
      exact hlog
    exact ownMessages_of_log (published_session _ _) hsame nofun
  | deviceStop device =>
    apply ownMessages_of_log (published_session _ _) hlog
    intro kind hkind
    split at hkind
    · obtain ⟨e, _, heq⟩ := List.mem_map.mp hkind
      exact ⟨e.1, .inr (Option.some.inj heq).symm⟩
    · cases hkind

theorem sendDisconnect_ownMessages (io : Outcomes) (s : NodeSys P) :
    ownMessages (s.sendDisconnect io).session = ownMessages s.session := by
  rcases s.sendDisconnect_cases io with ⟨_, hs⟩ | hs
  · rw [hs]
    exact ownMessages_disconnect s.session
  · rw [hs]

theorem doPublish_payload {t : Topic P} (h : t.messageType ≠ str "STATE")
    (sequenceNumber : UInt8) (now : UInt64) :
    (SparkplugTopic.doPublish sequenceNumber (t.onPayload fun p =>
      p.setTimestamp now false)).payload =
        (t.payload.beforePublish sequenceNumber now).generateProtobuf := by
  have hnotState : SparkplugTopic.isState (t.onPayload fun p => p.setTimestamp now false) =
      false := decide_eq_false h
  unfold SparkplugTopic.doPublish SparkplugTopic.generate
  rw [hnotState]
  rfl

/-- A message of the node itself, with the payload it was generated from. -/
theorem publishMessage_ownMessages {s : NodeSys P} {messageType : Str} {kind : MessageKind}
    {t : Topic P} (hkind : kind = .nodeBirth ∨ kind = .nodeDeath)
    (ht : s.self.topicList.getTopicByMessageType messageType = some t)
    (htype : t.messageType ≠ str "STATE") (hconnected : s.isConnected = true) :
    ∃ p : Publication P, p.topic.payload =
        (t.payload.beforePublish s.self.sequenceNumber s.now).generateProtobuf ∧
      ownMessages (s.published
        (s.self.publishMessage messageType kind s.isConnected s.now)).session =
          ownMessages s.session ++ [p] := by
  let sent := SparkplugTopic.doPublish s.self.sequenceNumber
    (t.onPayload fun p => p.setTimestamp s.now false)
  have hpublished : (s.self.publishMessage messageType kind s.isConnected s.now).2 =
      [⟨kind, sent⟩] := by
    unfold SparkplugNode.publishMessage
    rw [if_pos hconnected, ht]
    rfl
  refine ⟨⟨kind, sent⟩, doPublish_payload htype _ _, ?_⟩
  rw [published_session, hpublished, ownMessages_append]
  simp [ownMessages, Action.ownMessage?, hkind]

/-- The worker calls `SendConnect`. -/
def sendsConnect (io : Outcomes) (s : NodeSys P) : Bool :=
  decide (s.phase = .body) && decide (s.nodeState = .idle) && s.mayConnect &&
    decide (io.create = .created)

/-- The worker publishes NBIRTH. -/
def publishesBirth (s : NodeSys P) : Bool :=
  decide (s.phase = .body) && decide (s.nodeState = .waitOnConnect) && s.isConnected

/-- The worker publishes NDEATH. -/
def publishesDeath (s : NodeSys P) : Bool :=
  decide (s.phase = .body) && decide (s.nodeState = .online) && s.leaves && s.isConnected

/-- What a worker move does to the node's own messages. -/
inductive Speaks (s : NodeSys P) (birth death : Topic P) : List (Publication P) → Prop
  | silent : Speaks s birth death (ownMessages s.session)
  | birth {p : Publication P} : s.publishesBirth = true →
      p.topic.payload =
        (birth.payload.beforePublish s.self.sequenceNumber s.now).generateProtobuf →
      Speaks s birth death (ownMessages s.session ++ [p])
  | death {p : Publication P} : s.publishesDeath = true →
      p.topic.payload =
        (death.payload.beforePublish s.pollDevices.self.sequenceNumber s.now).generateProtobuf →
      Speaks s birth death (ownMessages s.session ++ [p])

theorem speaks_silent {s : NodeSys P} {birth death : Topic P} {session : List (Action P)}
    (h : ownMessages session = ownMessages s.session) :
    Speaks s birth death (ownMessages session) := by
  rw [h]
  exact .silent

theorem doIdle_session (io : Outcomes) (s : NodeSys P) : (s.doIdle io).session = s.session := by
  rcases doIdle_cases io s with ⟨n, timer, handle, _, _, hs⟩ | ⟨_, hs⟩
  · rw [hs]
    rfl
  · rw [hs]
    rfl

theorem doWaitOnConnect_speaks {s : NodeSys P} {birth death : Topic P} (h : s.Owns birth death)
    (hphase : s.phase = .body) (hstate : s.nodeState = .waitOnConnect) :
    Speaks s birth death (ownMessages s.doWaitOnConnect.session) := by
  rcases doWaitOnConnect_cases s with ⟨_, hs | hs⟩ | ⟨hconnected, hs⟩
  · exact speaks_silent (by rw [hs])
  · exact speaks_silent (by rw [hs])
  · have hsubscribed := startSubscription_connected hconnected
    have hfirst := startSubscription_owns h
    obtain ⟨next, hborn, -⟩ := publishNodeBirth_spec hfirst hsubscribed
    have honline : NodeSys.Owns { s.startSubscription.publishNodeBirth with nodeState := .online }
        next death := hborn.frame rfl rfl (fun hs => hs)
    have htype : birth.messageType ≠ str "STATE" := by
      rw [h.self.birthType]
      decide
    obtain ⟨p, hp, hown⟩ :=
      publishMessage_ownMessages (.inl rfl) hfirst.self.findBirth htype hsubscribed
    rw [hs, pollDevices_ownMessages honline rfl]
    have hspoken : ownMessages s.startSubscription.publishNodeBirth.session =
        ownMessages s.session ++ [p] := hown
    change Speaks s birth death (ownMessages s.startSubscription.publishNodeBirth.session)
    rw [hspoken]
    exact .birth (by simp [publishesBirth, hphase, hstate, hconnected]) hp

theorem doOnline_speaks {s : NodeSys P} {birth death : Topic P} (h : s.Owns birth death)
    (hphase : s.phase = .body) (hstate : s.nodeState = .online) (io : Outcomes) :
    Speaks s birth death (ownMessages (s.doOnline io).session) := by
  have hpolled := pollDevices_ownMessages h hstate
  unfold doOnline
  split
  · rename_i hleaves
    have howns := (pollDevices_spec h hstate).1
    dsimp only
    rw [sendDisconnect_ownMessages]
    by_cases hconnected : s.isConnected = true
    · have htype : death.messageType ≠ str "STATE" := by
        rw [h.self.deathType]
        decide
      obtain ⟨p, hp, hown⟩ :=
        publishMessage_ownMessages (.inr rfl) howns.self.findDeath htype
          hconnected
      have hspoken : ownMessages s.pollDevices.publishNodeDeath.session =
          ownMessages s.session ++ [p] := hown.trans (by rw [hpolled])
      rw [hspoken]
      exact .death (by simp [publishesDeath, hphase, hstate, hleaves, hconnected]) hp
    · have hdown : ¬ s.pollDevices.isConnected = true := hconnected
      have hsilent : s.pollDevices.publishNodeDeath.session = s.pollDevices.session := by
        unfold publishNodeDeath SparkplugNode.publishNodeDeath SparkplugNode.publishMessage
        rw [if_neg hdown, published_session, List.map_nil, List.append_nil]
      rw [hsilent]
      exact speaks_silent hpolled
  · exact speaks_silent hpolled

theorem work_speaks {s : NodeSys P} {birth death : Topic P} (h : s.Owns birth death)
    (io : Outcomes) : Speaks s birth death (ownMessages (s.work io).session) := by
  rcases s.work_cases io with ⟨hphase, hwork⟩ | ⟨_, hsession⟩
  · rw [hwork]
    change Speaks s birth death (ownMessages (s.stateStep io).session)
    unfold stateStep
    split
    · exact speaks_silent (congrArg ownMessages (doIdle_session io s))
    · rename_i hstate
      exact doWaitOnConnect_speaks h hphase hstate
    · rename_i hstate
      exact doOnline_speaks h hphase hstate io
    · unfold doWaitOnDisconnect
      split
      · exact .silent
      · exact .silent
  · apply speaks_silent
    rcases hsession with hsession | hsession
    · rw [hsession]
    · rw [hsession]
      exact ownMessages_disconnect s.session

/-- The will goes into the payload of the NDEATH topic. -/
theorem sendsConnect_death {s : NodeSys P} {birth death : Topic P} (h : s.Owns birth death)
    {io : Outcomes} (hsends : s.sendsConnect io = true) :
    ∃ t, (s.work io).self.topicList.getTopicByMessageType (str "NDEATH") = some t ∧
      t.payload = (death.payload.beforeWill s.self.bdSequenceNumber s.now).generateProtobuf := by
  simp only [sendsConnect, Bool.and_eq_true, decide_eq_true_eq] at hsends
  obtain ⟨⟨⟨hphase, hstate⟩, hmay⟩, hcreate⟩ := hsends
  have hwill : (s.self.generateWill s.now).Owns birth
      ((fun t : Topic P => t.onPayload fun p =>
        (p.beforeWill s.self.bdSequenceNumber s.now).generateProtobuf) death) :=
    h.self.updateDeath rfl rfl rfl rfl
  have hself : (s.work io).self = s.self.generateWill s.now := by
    rw [work_body io hphase]
    change (s.stateStep io).self = _
    simp only [stateStep, hstate]
    simp only [mayConnect, Bool.and_eq_true, Bool.not_eq_true'] at hmay
    obtain ⟨⟨htimeout, hservice⟩, hhost⟩ := hmay
    have hfind : TopicList.getTopicByMessageType (str "NDEATH") s.receiver.self.topicList =
        some death := h.self.findDeath
    simp only [self] at hservice hhost
    simp only [doIdle, self, htimeout, hservice, hhost, hcreate, sendConnect, hfind]
    cases io.connect with
    | true => rfl
    | false => rfl
  have hfound := hwill.findDeath
  rw [← hself] at hfound
  exact ⟨_, hfound, rfl⟩

theorem publishMessage_bdSequenceNumber (n : SparkplugNode P) (messageType : Str)
    (kind : MessageKind) (connected : Bool) (now : UInt64) :
    (n.publishMessage messageType kind connected now).1.bdSequenceNumber =
      n.bdSequenceNumber := by
  obtain ⟨topics, number, hframe⟩ := n.publishMessage_frame messageType kind connected now
  rw [hframe]

theorem worked_bdSequenceNumber {s : NodeSys P} {n : SparkplugNode P} (h : s.Worked n) :
    n.bdSequenceNumber = s.self.bdSequenceNumber := by
  cases h with
  | same => rfl
  | will => rfl
  | born hphase hstate hconnected => exact publishMessage_bdSequenceNumber _ _ _ _ _
  | polled hphase hstate => rfl
  | died hphase hstate => exact publishMessage_bdSequenceNumber _ _ _ _ _

theorem start_bdSequenceNumber (s : NodeSys P) :
    s.start.self.bdSequenceNumber = s.self.bdSequenceNumber := by
  unfold start
  split
  · rfl
  · split
    · rfl
    · rename_i n hn
      have hsame := congrArg SparkplugNode.bdSequenceNumber (SparkplugNode.start_base hn)
      exact hsame

/-- The number behind bdSeq stays what it was. -/
theorem step_bdSequenceNumber {s : NodeSys P} {birth death : Topic P} (h : s.Owns birth death)
    (e : NodeEvent P) : (s.step e).self.bdSequenceNumber = s.self.bdSequenceNumber := by
  have hsetting : e.isSetting = true →
      (s.step e).self.bdSequenceNumber = s.self.bdSequenceNumber := by
    intro he
    obtain ⟨_, _, _, _, hself⟩ := self_setting (s := s) he
    rw [hself]
  cases e with
  | work elapsed io => exact worked_bdSequenceNumber (s := s.tick elapsed) (worked_work io _)
  | message topicName body =>
    change (s.message topicName body).self.bdSequenceNumber = _
    unfold message
    split
    · rename_i hreceives
      have hself := Receiver.self_message (h.takesNoDevices hreceives) topicName s.now body
      have hsame := congrArg SparkplugNode.bdSequenceNumber hself.base
      exact hsame
    · rfl
  | start => exact start_bdSequenceNumber s
  | deviceInService _ _ | deviceStart _ | deviceStop _ | addBirthMetric _ | editMetric _ _ => rfl
  | _ => exact hsetting rfl

/-- No event but a worker move adds an own message. -/
theorem step_ownMessages {s : NodeSys P} {birth death : Topic P} (h : s.Owns birth death)
    {e : NodeEvent P} (hwork : ∀ elapsed io, e ≠ .work elapsed io) :
    ∀ p ∈ ownMessages (s.step e).session, p ∈ ownMessages s.session := by
  intro p hp
  cases e with
  | work elapsed io => exact absurd rfl (hwork elapsed io)
  | link event =>
    change p ∈ ownMessages (if Mqtt.newSession event s.handle then [] else s.session) at hp
    split at hp
    · cases hp
    · exact hp
  | connectionLost =>
    change p ∈ ownMessages s.connectionLost.session at hp
    unfold connectionLost at hp
    split at hp
    · exact hp
    · exact hp
  | callback hasResponse version =>
    change p ∈ ownMessages (s.callback hasResponse version).session at hp
    unfold callback at hp
    split at hp
    · exact hp
    · dsimp only at hp
      split at hp
      · exact hp
      · exact hp
  | message topicName body =>
    change p ∈ ownMessages (s.message topicName body).session at hp
    unfold message at hp
    split at hp
    · exact hp
    · exact hp
  | start =>
    change p ∈ ownMessages s.start.session at hp
    unfold start at hp
    split at hp
    · exact hp
    · split at hp
      · exact hp
      · exact hp
  | stopReturns =>
    change p ∈ ownMessages s.stopReturns.session at hp
    unfold stopReturns at hp
    split at hp
    · exact hp
    · exact hp
  | deviceStop device =>
    change p ∈ ownMessages (s.deviceStop device).session at hp
    rw [deviceStop_ownMessages h device] at hp
    exact hp
  | stop | inService _ | waitOnHostOnline _ | deviceInService _ _ | deviceStart _ | addBirthMetric _
  | editMetric _ _ => exact hp

/-- bdSeq is raised in NDEATH when the worker calls `SendConnect`, and flagged with the node's
number in NBIRTH and NDEATH when it publishes them; the serializer takes the messages. -/
def WorkDue (io : Outcomes) (s : NodeSys P) : Prop :=
  (s.sendsConnect io = true → ∀ t ∈ s.self.topicList.getTopicByMessageType (str "NDEATH"),
    t.payload.WillDue s.self.bdSequenceNumber s.now) ∧
  (s.publishesBirth = true → ∀ t ∈ s.self.topicList.getTopicByMessageType (str "NBIRTH"),
    t.payload.PublicationDue s.self.bdSequenceNumber s.self.sequenceNumber s.now) ∧
  (s.publishesDeath = true → ∀ t ∈ s.self.topicList.getTopicByMessageType (str "NDEATH"),
    t.payload.PublicationDue s.self.bdSequenceNumber s.pollDevices.self.sequenceNumber s.now)

instance (io : Outcomes) (s : NodeSys P) : Decidable (s.WorkDue io) :=
  inferInstanceAs (Decidable (_ ∧ _ ∧ _))

/-- An own message that goes out when it is due tells bdSeq. -/
theorem Speaks.tells {s : NodeSys P} {birth death : Topic P} {messages : List (Publication P)}
    {io : Outcomes} (hspeaks : Speaks s birth death messages) (howns : s.Owns birth death)
    (hdue : s.WorkDue io)
    (h : ∀ p ∈ ownMessages s.session, p.topic.payload.Tells s.self.bdSequenceNumber) :
    ∀ p ∈ messages, p.topic.payload.Tells s.self.bdSequenceNumber := by
  obtain ⟨_, hbirth, hdeath⟩ := hdue
  intro q hq
  cases hspeaks with
  | silent => exact h q hq
  | birth hpublishes hpayload =>
    rcases List.mem_append.mp hq with hq | hq
    · exact h q hq
    · rw [List.mem_singleton.mp hq, hpayload]
      exact (hbirth hpublishes birth howns.self.findBirth).tells
  | death hpublishes hpayload =>
    rcases List.mem_append.mp hq with hq | hq
    · exact h q hq
    · rw [List.mem_singleton.mp hq, hpayload]
      exact (hdeath hpublishes death howns.self.findDeath).tells

end NodeSys

/-- A node, the will that its last `SendConnect` built, and the will of the session. -/
structure WillSys (P : Platform) where
  node : NodeSys P
  offered : Option (Payload P) := none
  will : Option (Payload P) := none

namespace WillSys
variable {P : Platform}

def offer (s : WillSys P) (elapsed : Nat) (io : Outcomes) : Option (Payload P) :=
  if (s.node.tick elapsed).sendsConnect io then
    ((s.node.step (.work elapsed io)).self.topicList.getTopicByMessageType (str "NDEATH")).map
      Topic.payload
  else s.offered

/-- An accepted connect opens a session with the will that was offered. -/
def step (s : WillSys P) (e : NodeEvent P) : WillSys P where
  node := s.node.step e
  offered := match e with
    | .work elapsed io => s.offer elapsed io
    | _ => s.offered
  will := match e with
    | .link event => if Mqtt.newSession event s.node.handle then s.offered else s.will
    | _ => s.will

def init (now : UInt64) (setups : List Setup) : WillSys P where
  node := NodeSys.init now setups

/-- Each NDEATH body has bdSeq, with the value that the NBIRTH body of its session has. -/
structure Paired (s : WillSys P) : Prop where
  offered : ∀ p ∈ s.offered, ∃ v, p.Tells v
  session : ∃ v, (∀ p ∈ s.will, p.Tells v) ∧
    ∀ p ∈ ownMessages s.node.session, p.topic.payload.Tells v

def SeqDue (s : WillSys P) : NodeEvent P → Prop
  | .work elapsed io => (s.node.tick elapsed).WorkDue io
  | _ => True

instance (s : WillSys P) : ∀ e, Decidable (s.SeqDue e)
  | .work elapsed io => inferInstanceAs (Decidable ((s.node.tick elapsed).WorkDue io))
  | .link _ | .connectionLost | .callback _ _ | .message _ _ | .start | .stop | .stopReturns
  | .inService _ | .waitOnHostOnline _ | .deviceInService _ _ | .deviceStart _ | .deviceStop _
  | .addBirthMetric _ | .editMetric _ _ => .isTrue trivial

/-- All bodies tell the number of the node. -/
structure AllTell (s : WillSys P) : Prop where
  owns : ∃ birth death, s.node.Owns birth death
  offered : ∀ p ∈ s.offered, p.Tells s.node.self.bdSequenceNumber
  will : ∀ p ∈ s.will, p.Tells s.node.self.bdSequenceNumber
  session : ∀ p ∈ ownMessages s.node.session, p.topic.payload.Tells s.node.self.bdSequenceNumber

theorem AllTell.paired {s : WillSys P} (h : s.AllTell) : s.Paired :=
  ⟨fun p hp => ⟨_, h.offered p hp⟩, _, h.will, h.session⟩

theorem AllTell.work {s : WillSys P} (h : s.AllTell) {elapsed : Nat} {io : Outcomes}
    (hdue : (s.node.tick elapsed).WorkDue io) : (s.step (.work elapsed io)).AllTell := by
  obtain ⟨birth, death, howns⟩ := h.owns
  have htick : (s.node.tick elapsed).Owns birth death := howns.frame rfl rfl (fun hs => hs)
  have hnumber := NodeSys.step_bdSequenceNumber howns (.work elapsed io)
  have hsession := (NodeSys.work_speaks htick io).tells htick hdue h.session
  refine ⟨(NodeSys.step_stepped howns (.work elapsed io)).1, ?_, ?_, ?_⟩
  · intro p hp
    change p ∈ s.offer elapsed io at hp
    change p.Tells (s.node.step (.work elapsed io)).self.bdSequenceNumber
    rw [hnumber]
    unfold offer at hp
    split at hp
    · rename_i hsends
      obtain ⟨t, ht, hpayload⟩ := NodeSys.sendsConnect_death htick hsends
      rw [show (s.node.step (.work elapsed io)) = (s.node.tick elapsed).work io from rfl, ht] at hp
      rw [← Option.some.inj hp, hpayload]
      exact (hdue.1 hsends death htick.self.findDeath).tells
    · exact h.offered p hp
  · intro p hp
    change p.Tells (s.node.step (.work elapsed io)).self.bdSequenceNumber
    rw [hnumber]
    exact h.will p hp
  · intro p hp
    change p.topic.payload.Tells (s.node.step (.work elapsed io)).self.bdSequenceNumber
    rw [hnumber]
    exact hsession p hp

theorem AllTell.other {s : WillSys P} (h : s.AllTell) {e : NodeEvent P}
    (hwork : ∀ elapsed io, e ≠ .work elapsed io) : (s.step e).AllTell := by
  obtain ⟨birth, death, howns⟩ := h.owns
  have hnumber : (s.step e).node.self.bdSequenceNumber = s.node.self.bdSequenceNumber :=
    NodeSys.step_bdSequenceNumber howns e
  refine ⟨(NodeSys.step_stepped howns e).1, ?_, ?_, ?_⟩
  · intro p hp
    rw [hnumber]
    cases e with
    | work elapsed io => exact absurd rfl (hwork elapsed io)
    | _ => exact h.offered p hp
  · intro p hp
    rw [hnumber]
    cases e with
    | work elapsed io => exact absurd rfl (hwork elapsed io)
    | link event =>
      change p ∈ if Mqtt.newSession event s.node.handle then s.offered else s.will at hp
      split at hp
      · exact h.offered p hp
      · exact h.will p hp
    | _ => exact h.will p hp
  · intro p hp
    rw [hnumber]
    exact h.session p (NodeSys.step_ownMessages howns hwork p hp)

theorem AllTell.step {s : WillSys P} (h : s.AllTell) {e : NodeEvent P} (hdue : s.SeqDue e) :
    (s.step e).AllTell := by
  cases e with
  | work elapsed io => exact h.work hdue
  | _ => exact h.other nofun

theorem allTell_init (now : UInt64) (setups : List Setup) :
    (init (P := P) now setups).AllTell := by
  refine ⟨NodeSys.owns_init now setups, ?_, ?_, ?_⟩
  · intro p hp
    cases hp
  · intro p hp
    cases hp
  · intro p hp
    cases hp

/-- In every run in which bdSeq is due whenever a will or a message of the node is generated,
births and deaths are paired. -/
theorem paired_run {now : UInt64} {setups : List Setup} {es : List (NodeEvent P)}
    (hok : RunOk step SeqDue (init now setups) es) : (run step (init now setups) es).Paired := by
  have hstep : ∀ (s : WillSys P) (e : NodeEvent P), s.AllTell → s.SeqDue e →
      (s.step e).AllTell := by
    intro s e hs hdue
    exact hs.step hdue
  exact (run_invariant hstep (allTell_init now setups) hok).paired

open DeathAnnounced in
/-- The first session of a node, up to its NBIRTH. -/
theorem first_session_is_paired :
    (run step (init (P := .reference) 0 nodeSetup) nodeGoesOnline).Paired :=
  paired_run (by decide +kernel)

open DeathAnnounced in
/-- The first will took bdSeq with it, so the NDEATH that the node publishes when it is taken out
of service has no metric. -/
theorem published_death_is_unpaired :
    ¬ (run step (init (P := .reference) 0 nodeSetup)
      (nodeGoesOnline ++ [.inService false, .work 0 {}, .work 0 {}])).Paired := by
  intro h
  obtain ⟨v, _, hsession⟩ := h.session
  have hsilent : ∃ p ∈ ownMessages (run step (init (P := .reference) 0 nodeSetup)
      (nodeGoesOnline ++ [.inService false, .work 0 {}, .work 0 {}])).node.session,
      p.kind = .nodeDeath ∧ ((Platform.reference.parseFromArray p.topic.payload.body).map
        fun pb => pb.metrics.length) = some 0 := by
    decide +kernel
  obtain ⟨p, hp, _, hlength⟩ := hsilent
  obtain ⟨pb, e, m, hbody, he, _⟩ := hsession p hp
  have hnone : pb.metrics.length = 0 := by
    rw [hbody] at hlength
    exact Option.some.inj hlength
  rw [List.length_eq_zero_iff.mp hnone] at he
  cases he

end WillSys
end PubSub
