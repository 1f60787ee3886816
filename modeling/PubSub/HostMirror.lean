import PubSub.Frame
import PubSub.JsonFrame
import PubSub.Mirrors

/-!
# Mirrored hosts

A mirrored host keeps the STATE topic of its constructor, without the publish flag. So a
STATE message that says that a host is online is stored, and the receiver then knows of a
host that is online.
-/

namespace PubSub
set_option autoImplicit false

/-- A STATE message that says that its host is online. -/
structure OnlineState (P : Platform) where
  topicName : Str
  body : BodyList
  isState : (Receiver.parseTopic P topicName).messageType = str "STATE"
  named : (Receiver.parseTopic P topicName).nodeId ≠ []
  nonempty : body ≠ []
  before : JsonMembers
  after : JsonMembers
  parsed : P.parseJson (cString body) = some (before ++ (str "online", .bool true) :: after)
  single : ∀ m ∈ after, P.foldKey m.1 ≠ P.foldKey (str "online")

namespace Payload
variable {P : Platform}

theorem getBoolValue_parseJsonMember (p : Payload P) {name : Str} (hne : name ≠ []) (v : Bool) :
    (parseJsonMember true p (name, .bool v)).getBoolValue name = v := by
  have hvalue : ∀ q : Payload P,
      (q.getMetric name).map Metric.value = some (Text.ofBool v) →
        q.getBoolValue name = v := by
    intro q hq
    obtain ⟨m, hm, htext⟩ := Option.map_eq_some_iff.mp hq
    rw [getBoolValue, hm]
    dsimp only
    rw [htext, Text.valueBool_ofBool]
  apply hvalue
  unfold parseJsonMember
  rw [if_neg hne]
  cases hfound : p.getMetric name with
  | some m =>
    have hself := FoldedMap.get?_update_self p.metricList name (setJsonValue P (.bool v))
    have hget : p.metricList.get? name = some m := hfound
    rw [hget] at hself
    exact congrArg (Option.map Metric.value) hself
  | none =>
    have hcreated := getMetric_withMetric
      (fun m => setJsonValue P (.bool v) { m with datatype := jsonType (.bool v) }) hfound
    exact congrArg (Option.map Metric.value) hcreated

/-- The payload that stored a STATE message says what the message says. -/
theorem getBoolValue_received {body : BodyList} (hnonempty : body ≠ []) {before after : JsonMembers}
    {v : Bool}
    (hparsed : P.parseJson (cString body) = some (before ++ (str "online", .bool v) :: after))
    (hsingle : ∀ m ∈ after, P.foldKey m.1 ≠ P.foldKey (str "online")) (p : Payload P) :
    (p.receiveJson body).getBoolValue (str "online") = v := by
  unfold receiveJson receive
  dsimp only
  rw [if_neg hnonempty]
  unfold parseSparkplugJson bodyToString
  dsimp only
  rw [hparsed]
  dsimp only
  rw [List.foldl_append, List.foldl_cons]
  have hkept := getMetric_foldl_ne true hsingle (parseJsonMember true
    (before.foldl (parseJsonMember true) { p with body := body })
    (str "online", .bool v))
  rw [getBoolValue, hkept]
  exact getBoolValue_parseJsonMember _ (by decide) v

theorem getBoolValue_receiveJson (st : OnlineState P) (p : Payload P) :
    (p.receiveJson st.body).getBoolValue (str "online") = true :=
  getBoolValue_received st.nonempty st.parsed st.single p

end Payload

namespace TopicList
variable {P : Platform}

theorem PayloadsOnly.find {list changed : TopicList P} (h : PayloadsOnly list changed)
    {messageType : Str} {t : Topic P}
    (ht : list.getTopicByMessageType messageType = some t) :
    ∃ u, changed.getTopicByMessageType messageType = some u ∧ t.PayloadOnly u := by
  induction h with
  | nil => cases ht
  | cons hab _ ih =>
    rename_i a b as bs hrest
    cases ha : hasMessageType messageType a with
    | true =>
      have hb : hasMessageType messageType b = true := by
        rw [hasMessageType, hab.messageType]
        exact ha
      have hfound : getTopicByMessageType messageType (a :: as) = some a := by
        simp [getTopicByMessageType, ha]
      rw [hfound] at ht
      obtain rfl := Option.some.inj ht
      exact ⟨b, by simp [getTopicByMessageType, hb], hab⟩
    | false =>
      have hb : hasMessageType messageType b = false := by
        rw [hasMessageType, hab.messageType]
        exact ha
      rw [find_cons_ne _ ha] at ht
      rw [find_cons_ne _ hb]
      exact ih ht

end TopicList

namespace SparkplugNode
variable {P : Platform}

/-- A mirrored host has a STATE topic that it does not publish. -/
def KeepsState (n : SparkplugNode P) : Prop :=
  n.isHost = true → ∃ t, n.topicList.getTopicByMessageType (str "STATE") = some t ∧
    t.publish = false

theorem KeepsState.onTopics {n : SparkplugNode P} (h : n.KeepsState)
    {f : TopicList P → TopicList P} (hf : n.topicList.PayloadsOnly (f n.topicList)) :
    (n.onTopics f).KeepsState := by
  intro hhost
  obtain ⟨t, ht, hpublish⟩ := h hhost
  obtain ⟨u, hu, honly⟩ := hf.find ht
  exact ⟨u, hu, honly.publish.trans hpublish⟩

theorem KeepsState.onDevice {n : SparkplugNode P} (h : n.KeepsState) (device : Str)
    (f : TopicList P → TopicList P) : (n.onDevice device f).KeepsState := by
  obtain ⟨devices, hframe⟩ := n.onDevice_frame device f
  rw [hframe]
  exact h

theorem KeepsState.deviceBirth {n : SparkplugNode P} (h : n.KeepsState) (device : Str)
    (now : UInt64) (body : BodyList) : (Receiver.deviceBirth device now body n).KeepsState := by
  obtain ⟨devices, hframe⟩ := Receiver.deviceBirth_frame device now body n
  rw [hframe]
  exact h

theorem keepsState_invariant : Receiver.MirrorInvariant (P := P) KeepsState where
  host name now := by
    intro _
    exact ⟨_, TopicList.find_cons_self _ rfl, rfl⟩
  node group name now := by
    intro hhost
    cases hhost
  state body n h := h.onTopics (TopicList.payloadsOnly_receive _
    (Payload.keepsAliases_receiveJson body) _)
  birth now body n h := h.onTopics (TopicList.payloadsOnly_receive _
    (Payload.keepsAliases_receiveProtobuf true now body) _)
  death now body n h := h.onTopics (TopicList.payloadsOnly_receiveDeath
    (Payload.keepsAliases_receiveProtobuf true now body) (by decide) (by decide) _)
  data now body n h := h.onTopics (TopicList.payloadsOnly_receive _
    (Payload.keepsAliases_receiveProtobuf false now body) _)
  deviceBirth device now body n h := h.deviceBirth device now body
  deviceDeath device now body n h := h.onDevice device _
  deviceUpdate device now body n h := h.onDevice device _

end SparkplugNode

namespace Receiver
variable {P : Platform}

/-- A lookup of a host finds a mirror, once there is one. -/
theorem getHost_ensureHost {r : Receiver P} (hself : r.self.isHost = false) (hostName : Str)
    (now : UInt64) : ∃ i n, (r.ensureHost hostName now).getHost hostName = some (.remote i) ∧
      (r.ensureHost hostName now).nodeList[i]? = some n ∧ n.isHost = true := by
  have hown : isHostNamed hostName r.self = false := by simp [isHostNamed, hself]
  unfold ensureHost
  cases hfound : r.getHost hostName with
  | some target =>
    obtain ⟨n, hn, hnamed⟩ := getHost_spec hfound
    cases target with
    | self =>
      rw [← Option.some.inj hn, hown] at hnamed
      cases hnamed
    | remote i => exact ⟨i, n, hfound, hn, (Bool.and_eq_true_iff.mp hnamed).1⟩
  | none =>
    let n : SparkplugNode P := { SparkplugHost.create now with name := hostName }
    have hlist : r.nodeList.findIdx? (isHostNamed hostName) = none := by
      simpa [getHost, hown] using hfound
    have hnew : isHostNamed hostName n = true :=
      Bool.and_eq_true_iff.mpr ⟨rfl, P.iEquals_self hostName⟩
    have hadded : (r.nodeList ++ [n]).findIdx? (isHostNamed hostName) =
        some r.nodeList.length := by
      simp [List.findIdx?_append, hlist, List.findIdx?_cons, hnew]
    refine ⟨r.nodeList.length, n, ?_, ?_, rfl⟩
    · change (r.addRemote n).getHost hostName = _
      simp [getHost, addRemote, hown, hadded]
    · change (r.nodeList ++ [n])[r.nodeList.length]? = some n
      simp

/-- The message changes a mirror only. -/
theorem self_stateMessage {r : Receiver P} (hself : r.self.isHost = false) (st : OnlineState P)
    (now : UInt64) : (r.message st.topicName now st.body).self = r.self := by
  unfold message
  dsimp only
  rw [if_pos st.isState]
  obtain ⟨i, _, htarget, _⟩ := getHost_ensureHost hself (parseTopic P st.topicName).nodeId now
  unfold handleStateMessage
  rw [if_neg st.named]
  dsimp only
  rw [htarget]
  exact ensureHost_self r _ now

/-- After the message the receiver knows of a host that is online. -/
theorem isHostOnline_message {r : Receiver P} (hself : r.self.isHost = false)
    (hmirrors : r.Mirrors SparkplugNode.KeepsState) (st : OnlineState P) (now : UInt64) :
    (r.message st.topicName now st.body).isHostOnline = true := by
  unfold message
  dsimp only
  rw [if_pos st.isState]
  generalize hname : (parseTopic P st.topicName).nodeId = hostName
  have hnamed : hostName ≠ [] := hname ▸ st.named
  obtain ⟨i, n, htarget, hn, hhost⟩ := getHost_ensureHost hself hostName now
  have hkeeps := hmirrors.ensureHost SparkplugNode.keepsState_invariant hostName now
  obtain ⟨t, ht, hpublish⟩ := hkeeps n (List.mem_of_getElem? hn) hhost
  let stored : SparkplugNode P :=
    n.onTopics fun list => list.receive (str "STATE") (Payload.receiveJson st.body)
  have hfind : stored.topicList.getTopicByMessageType (str "STATE") =
      some (t.onPayload (Payload.receiveJson st.body)) := by
    refine (TopicList.find_receive _ _ n.topicList).trans ?_
    rw [ht, Option.map_some, hpublish]
    rfl
  unfold handleStateMessage
  rw [if_neg hnamed]
  dsimp only
  rw [htarget]
  refine List.any_eq_true.mpr ⟨stored, ?_, ?_⟩
  · apply List.mem_of_getElem? (i := i)
    simp [update, hn, stored]
  · have honline := Payload.getBoolValue_receiveJson st t.payload
    rw [hfind]
    exact Bool.and_eq_true_iff.mpr ⟨hhost, honline⟩

end Receiver
end PubSub
