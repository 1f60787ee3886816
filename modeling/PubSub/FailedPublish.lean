import PubSub.PublishTopics

/-!
# The flags after a publish that failed

An update lives in the flag of its metric until it is sent. A publish call lowers the flags
before the topic publishes, and the protobuf generator lowers the flags of what it writes. No
failure raises a flag again, so an attempt that fails keeps only the flags it never lowers, and
the next publish call sends what these flags are about only if the topic is one it delivers.
-/

namespace PubSub
set_option autoImplicit false

/-- The class of a topic; a sparkplug one takes the next sequence number of its node. -/
inductive TopicClass where
  | mqtt
  | sparkplug (sequenceNumber : UInt8)

inductive PublishCall where
  | doPublish
  | publishTopics

namespace TopicClass
variable {P : Platform}

def format (c : TopicClass) (t : Topic P) : BodyFormat :=
  match c with
  | .mqtt => MqttTopic.format t
  | .sparkplug _ => SparkplugTopic.format t

/-- The payload when its body is generated. -/
def generated (c : TopicClass) (t : Topic P) : Payload P :=
  match c with
  | .mqtt => t.payload
  | .sparkplug n => { t.payload with sequenceNumber := n.toUInt64 }

/-- A sparkplug topic takes no notice of a send that fails. -/
def doPublish (c : TopicClass) (sent : Bool) (t : Topic P) : Topic P :=
  match c with
  | .mqtt => (MqttTopic.doPublish sent t).1
  | .sparkplug n => SparkplugTopic.doPublish n t

/-- What is handed to the library, whether or not the library takes it. -/
def message (c : TopicClass) (sent : Bool) (t : Topic P) : Option MqttMessage :=
  match c with
  | .mqtt => (MqttTopic.doPublish sent t).2
  | .sparkplug n => some (SparkplugTopic.doPublish n t).message

def renumber (n : UInt8) : TopicClass → TopicClass
  | .mqtt => .mqtt
  | .sparkplug _ => .sparkplug n

/-- `DoPublish` of an MQTT topic does nothing when the topic does not publish. -/
def publishes (c : TopicClass) (t : Topic P) : Bool :=
  match c with
  | .mqtt => t.publish
  | .sparkplug _ => true

end TopicClass

namespace PublishCall
variable {P : Platform}

def attempted (call : PublishCall) (c : TopicClass) (t : Topic P) : Bool :=
  match call with
  | .doPublish => c.publishes t
  | .publishTopics => t.publish && t.isUpdated

def entered (call : PublishCall) (t : Topic P) : Topic P :=
  match call with
  | .doPublish => t
  | .publishTopics => t.resetUpdated

def attempt (call : PublishCall) (c : TopicClass) (sent : Bool) (t : Topic P) : Topic P :=
  if call.attempted c t then c.doPublish sent (call.entered t) else t

def message (call : PublishCall) (c : TopicClass) (sent : Bool) (t : Topic P) :
    Option MqttMessage :=
  if call.attempted c t then c.message sent (call.entered t) else none

/-- The attempt fails in the serializer or in the send. -/
structure Failed (call : PublishCall) (c : TopicClass) (sent : Bool) (t : Topic P) : Prop where
  attempted : call.attempted c t = true
  failure : sent = false ∨ c.format t = .protobuf ∧
    P.serializeToArray (PayloadHelper.protobufOf false (c.generated (call.entered t))) = none

/-- No metric is flagged, or the topic published by itself and is one whose updates a publish
call delivers. -/
def Spares (call : PublishCall) (c : TopicClass) (t : Topic P) : Prop :=
  (∀ e ∈ t.payload.metricList.entries, e.2.updated = false) ∨
  call = .doPublish ∧ t.publish = true ∧ t.Deliverable (c.format t) ∧ t.Supported (c.format t)

end PublishCall

namespace Topic
variable {P : Platform}

/-- The metrics that were flagged are flagged. -/
def KeepsFlags (t after : Topic P) : Prop :=
  List.Forall₂ (fun e d => d.1 = e.1 ∧ (e.2.updated = true → d.2.updated = true))
    t.payload.metricList.entries after.payload.metricList.entries

/-- The metrics that were flagged are flagged, and the next call of `PublishTopics` hands their
values over. -/
structure Retried (c : TopicClass) (t after : Topic P) : Prop where
  flagged : t.KeepsFlags after
  handsOver : ∀ (n : UInt8) (sent : Bool), ∀ e ∈ t.payload.metricList.entries,
    e.2.updated = true → ∃ msg,
      PublishCall.publishTopics.message (c.renumber n) sent after = some msg ∧
        (c.format t).Holds P msg.body e

/-- The topic is as it was, but for its body, the flags that were lowered, and the marks of the
metrics that are valid. -/
structure Lowered (lowers : Str × Metric → Bool) (t after : Topic P) : Prop where
  metrics : ∃ valid : Str → Metric → Bool, after.payload.metricList =
    t.payload.metricList.mapValues fun k m =>
      { m with updated := m.updated && !lowers (k, m), valid := valid k m }
  publish : after.publish = t.publish
  contentType : after.contentType = t.contentType
  messageType : after.messageType = t.messageType

section Lowered
variable {lowers : Str × Metric → Bool} {r s t after : Topic P}

theorem Lowered.keepsFlags_iff (h : Lowered lowers t after) : t.KeepsFlags after ↔
    ∀ e ∈ t.payload.metricList.entries, e.2.updated = true → lowers e = false := by
  obtain ⟨valid, hlist⟩ := h.metrics
  unfold KeepsFlags
  rw [hlist, FoldedMap.entries_mapValues, Entries.mapValues, List.forall₂_map_right_iff,
    List.forall₂_same]
  simp +contextual

theorem lowered_of_same (hnone : ∀ e, lowers e = false)
    (hlist : after.payload.metricList = t.payload.metricList) (hpublish : after.publish = t.publish)
    (hcontent : after.contentType = t.contentType) (htype : after.messageType = t.messageType) :
    Lowered lowers t after := by
  refine ⟨⟨fun _ m => m.valid, ?_⟩, hpublish, hcontent, htype⟩
  rw [hlist]
  apply FoldedMap.ext
  simp [Entries.mapValues, hnone]

theorem Lowered.trans (hrs : Lowered (fun _ => true) r s) (hst : Lowered lowers s t) :
    Lowered (fun _ => true) r t := by
  obtain ⟨first, hfirst⟩ := hrs.metrics
  obtain ⟨second, hsecond⟩ := hst.metrics
  refine ⟨⟨fun k m => second k { m with updated := false, valid := first k m }, ?_⟩,
    hst.publish.trans hrs.publish, hst.contentType.trans hrs.contentType,
    hst.messageType.trans hrs.messageType⟩
  rw [hsecond, hfirst]
  apply FoldedMap.ext
  simp [Entries.mapValues, List.map_map, Function.comp_def]

theorem lowered_reset (t : Topic P) : Lowered (fun _ => true) t t.resetUpdated := by
  refine ⟨⟨fun _ m => m.valid, ?_⟩, rfl, rfl, rfl⟩
  apply FoldedMap.ext
  simp [resetUpdated, Payload.resetUpdated, Entries.mapValues]

theorem lowered_protobuf (t : Topic P) :
    Lowered (PayloadHelper.includes false) t (t.onPayload Payload.generateProtobuf) := by
  refine ⟨⟨fun _ m => m.valid, ?_⟩, rfl, rfl, rfl⟩
  refine congrArg t.payload.metricList.mapValues (funext fun k => funext fun m => ?_)
  cases hm : PayloadHelper.includes false (k, m) with
  | true => simp
  | false => simp

theorem Lowered.invalid (h : Lowered lowers t after) :
    Lowered lowers t after.setAllMetricsInvalid := by
  obtain ⟨_, hlist⟩ := h.metrics
  refine ⟨⟨fun _ _ => false, ?_⟩, h.publish, h.contentType, h.messageType⟩
  change (after.payload.metricList.mapValues _) = _
  rw [hlist]
  apply FoldedMap.ext
  simp [Entries.mapValues, List.map_map, Function.comp_def]

theorem Lowered.cached (h : Lowered lowers t after) : Lowered lowers t after.cacheTopic :=
  ⟨h.metrics, h.publish, h.contentType, h.messageType⟩

end Lowered

end Topic

namespace TopicClass
variable {P : Platform}

def lowers (c : TopicClass) (t : Topic P) (e : Str × Metric) : Bool :=
  decide (c.format t = .protobuf) && PayloadHelper.includes false e

theorem lowers_of_format {c : TopicClass} {t : Topic P} (h : c.format t ≠ .protobuf)
    (e : Str × Metric) : c.lowers t e = false := by
  rw [lowers, decide_eq_false h, Bool.false_and]

theorem lowers_of_protobuf {c : TopicClass} {t : Topic P} (h : c.format t = .protobuf) :
    c.lowers t = PayloadHelper.includes false := by
  funext e
  rw [lowers, decide_eq_true h, Bool.true_and]

theorem lowered_generate (t : Topic P) :
    Topic.Lowered (mqtt.lowers t) t (MqttTopic.generate t) := by
  unfold MqttTopic.generate
  split
  · rename_i hjson
    have hformat : mqtt.format t = .json := if_pos hjson
    exact Topic.lowered_of_same (lowers_of_format (by simp [hformat])) rfl rfl rfl rfl
  · rename_i hjson
    split
    · rename_i hprotobuf
      have hformat : mqtt.format t = .protobuf := (if_neg hjson).trans (if_pos hprotobuf)
      rw [lowers_of_protobuf hformat]
      exact Topic.lowered_protobuf t
    · rename_i hprotobuf
      have hformat : mqtt.format t = .text := (if_neg hjson).trans (if_neg hprotobuf)
      exact Topic.lowered_of_same (lowers_of_format (by simp [hformat])) rfl rfl rfl rfl

theorem lowered_doPublish {c : TopicClass} {t : Topic P} (h : c.publishes t = true)
    (sent : Bool) : Topic.Lowered (c.lowers t) t (c.doPublish sent t) := by
  cases c with
  | mqtt =>
    have hpublish : t.publish = true := h
    have hgenerated := (lowered_generate t).cached
    change Topic.Lowered _ t (MqttTopic.doPublish sent t).1
    unfold MqttTopic.doPublish
    rw [if_pos hpublish]
    cases sent with
    | true => exact hgenerated
    | false => exact hgenerated.invalid
  | sparkplug n =>
    change Topic.Lowered _ t (SparkplugTopic.generate n t).cacheTopic
    unfold SparkplugTopic.generate
    split
    · rename_i hstate
      have hformat : (sparkplug n).format t = .json := if_pos hstate
      exact Topic.lowered_of_same (lowers_of_format (by simp [hformat])) rfl rfl rfl rfl
    · rename_i hstate
      have hformat : (sparkplug n).format t = .protobuf := if_neg hstate
      rw [lowers_of_protobuf hformat]
      exact ⟨(Topic.lowered_protobuf t).metrics, rfl, rfl, rfl⟩

theorem format_of_lowered {lowers : Str × Metric → Bool} {t after : Topic P}
    (h : Topic.Lowered lowers t after) (n : UInt8) (c : TopicClass) :
    (c.renumber n).format after = c.format t := by
  cases c with
  | mqtt =>
    change MqttTopic.format after = MqttTopic.format t
    unfold MqttTopic.format Topic.isJson Topic.isProtobuf
    rw [h.contentType]
  | sparkplug k =>
    change SparkplugTopic.format after = SparkplugTopic.format t
    unfold SparkplugTopic.format SparkplugTopic.isState
    rw [h.messageType]

theorem message_resetUpdated (c : TopicClass) (sent : Bool) {t : Topic P}
    (h : t.publish = true) : ∃ msg p, c.message sent t.resetUpdated = some msg ∧
      msg.body = (c.format t).body p ∧ p.metricList = t.payload.resetUpdated.metricList := by
  cases c with
  | mqtt => exact Publisher.published_mqtt [sent] h
  | sparkplug n => exact Publisher.published_sparkplug n t

end TopicClass

namespace PublishCall
variable {P : Platform}

theorem attempt_publishTopics {c : TopicClass} {t : Topic P}
    (h : publishTopics.attempted c t = true) (sent : Bool) :
    Topic.Lowered (fun _ => true) t (publishTopics.attempt c sent t) := by
  obtain ⟨hpublish, _⟩ := Bool.and_eq_true_iff.mp h
  have hpublishes : c.publishes t.resetUpdated = true := by
    cases c with
    | mqtt => exact hpublish
    | sparkplug n => rfl
  unfold attempt
  rw [if_pos h]
  exact (Topic.lowered_reset t).trans (TopicClass.lowered_doPublish hpublishes sent)

/-- What an attempt lowers: a turn in a publish call all flags, a topic by itself those that
its generator lowers. -/
def lowers (call : PublishCall) (c : TopicClass) (t : Topic P) : Str × Metric → Bool :=
  match call with
  | .doPublish => c.lowers t
  | .publishTopics => fun _ => true

theorem lowered_attempt {call : PublishCall} {c : TopicClass} {t : Topic P}
    (h : call.attempted c t = true) (sent : Bool) :
    Topic.Lowered (call.lowers c t) t (call.attempt c sent t) := by
  cases call with
  | doPublish =>
    have hattempt : doPublish.attempt c sent t = c.doPublish sent t := if_pos h
    rw [hattempt]
    exact TopicClass.lowered_doPublish h sent
  | publishTopics => exact attempt_publishTopics h sent

end PublishCall

namespace Topic
variable {P : Platform} {lowers : Str × Metric → Bool} {t after : Topic P}

theorem Lowered.forall_updated (h : Lowered lowers t after) (hkept : t.KeepsFlags after)
    {Q : Str × Metric → Prop} (hQ : ∀ k m valid, Q (k, { m with valid := valid }) ↔ Q (k, m)) :
    (∀ e ∈ after.payload.metricList.entries, e.2.updated = true → Q e) ↔
      ∀ e ∈ t.payload.metricList.entries, e.2.updated = true → Q e := by
  obtain ⟨valid, hlist⟩ := h.metrics
  have hlowers := h.keepsFlags_iff.mp hkept
  rw [hlist, FoldedMap.entries_mapValues, Entries.mapValues, List.forall_mem_map]
  apply forall₂_congr
  intro e he
  by_cases hup : e.2.updated = true
  · have hflag : (e.2.updated && !lowers (e.1, e.2)) = e.2.updated := by
      rw [hlowers e he hup, Bool.not_false, Bool.and_true]
    rw [hflag, hQ]
  · simp [hup]

theorem Lowered.deliverable_iff (h : Lowered lowers t after) (hkept : t.KeepsFlags after)
    (format : BodyFormat) : after.Deliverable format ↔ t.Deliverable format := by
  unfold Deliverable
  rw [h.publish]
  exact imp_congr_right fun _ => h.forall_updated hkept fun _ _ _ => Iff.rfl

theorem Lowered.supported_iff (h : Lowered lowers t after) (hkept : t.KeepsFlags after)
    (format : BodyFormat) : after.Supported format ↔ t.Supported format :=
  imp_congr_right fun _ => h.forall_updated hkept fun _ _ _ => Iff.rfl

theorem Lowered.delivered_iff (h : Lowered lowers t after) (hkept : t.KeepsFlags after)
    (format : BodyFormat) (message : Option MqttMessage) :
    after.Delivered format message ↔ t.Delivered format message := by
  unfold Delivered
  rw [h.publish]
  refine imp_congr_right fun _ => h.forall_updated hkept fun k m valid => ?_
  cases format with
  | text => exact Iff.rfl
  | json => exact Iff.rfl
  | protobuf => exact Iff.rfl

/-- What the next publish call makes of a topic that an attempt has left. -/
theorem Lowered.next_message (h : Lowered lowers t after) (hkept : t.KeepsFlags after)
    (hupdated : t.isUpdated = true) (c : TopicClass) (n : UInt8) (sent : Bool) :
    PublishCall.publishTopics.message (c.renumber n) sent after = none ∧ t.publish = false ∨
      t.publish = true ∧ ∃ msg,
        PublishCall.publishTopics.message (c.renumber n) sent after = some msg ∧
        (t.Supported (c.format t) →
          (t.Delivered (c.format t) (some msg) ↔ t.Deliverable (c.format t))) := by
  have hafter : after.isUpdated = true := by
    by_contra hclean
    have hnone : ∀ e ∈ after.payload.metricList.entries, e.2.updated = true → False :=
      fun e he hup => hclean (List.any_eq_true.mpr ⟨e, he, hup⟩)
    obtain ⟨e, he, hup⟩ := List.any_eq_true.mp hupdated
    exact (h.forall_updated hkept fun _ _ _ => Iff.rfl).mp hnone e he hup
  cases hpublish : t.publish with
  | false =>
    refine .inl ⟨if_neg ?_, rfl⟩
    rw [show PublishCall.publishTopics.attempted (c.renumber n) after =
      (after.publish && after.isUpdated) from rfl, h.publish, hpublish]
    exact Bool.false_ne_true
  | true =>
    have hpublishes : after.publish = true := h.publish.trans hpublish
    have hattempted : PublishCall.publishTopics.attempted (c.renumber n) after = true :=
      Bool.and_eq_true_iff.mpr ⟨hpublishes, hafter⟩
    obtain ⟨msg, p, hmsg, hbody, hlist⟩ :=
      TopicClass.message_resetUpdated (c.renumber n) sent hpublishes
    rw [TopicClass.format_of_lowered h] at hbody
    refine .inr ⟨rfl, msg, (if_pos hattempted).trans hmsg, fun hsupported => ?_⟩
    rw [← h.delivered_iff hkept, ← h.deliverable_iff hkept]
    exact reset_body hbody hlist ((h.supported_iff hkept _).mpr hsupported)

/-- A publish call hands over the updates that an attempt has left exactly if it delivers the
topic. -/
theorem Lowered.retried_iff (h : Lowered lowers t after) {c : TopicClass}
    (hupdated : t.isUpdated = true) : Retried c t after ↔
      t.KeepsFlags after ∧ t.publish = true ∧ t.Deliverable (c.format t) ∧
        t.Supported (c.format t) := by
  constructor
  · intro hretried
    have hkept := hretried.flagged
    have hsupported : t.Supported (c.format t) := by
      intro hjson e he hup
      obtain ⟨_, _, hholds⟩ := hretried.handsOver 0 true e he hup
      rw [hjson] at hholds
      obtain ⟨_, v, _, _, hvalue, _⟩ := hholds
      exact fun hnone => Option.some_ne_none v (hvalue.symm.trans hnone)
    obtain ⟨d, hd, hdup⟩ := List.any_eq_true.mp hupdated
    rcases h.next_message hkept hupdated c 0 true with ⟨hnone, _⟩ | ⟨hpublish, msg, hmsg, hiff⟩
    · obtain ⟨_, hsome, _⟩ := hretried.handsOver 0 true d hd hdup
      exact absurd (hnone.symm.trans hsome) (Option.some_ne_none _).symm
    · refine ⟨hkept, hpublish, (hiff hsupported).mp fun _ e he hup => ?_, hsupported⟩
      obtain ⟨other, hother, hholds⟩ := hretried.handsOver 0 true e he hup
      obtain rfl := Option.some.inj (hmsg.symm.trans hother)
      exact ⟨msg, rfl, hholds⟩
  · rintro ⟨hkept, hpublish, hdeliverable, hsupported⟩
    refine ⟨hkept, fun n sent e he hup => ?_⟩
    rcases h.next_message hkept hupdated c n sent with ⟨_, hnot⟩ | ⟨_, msg, hmsg, hiff⟩
    · exact absurd (hnot.symm.trans hpublish) Bool.false_ne_true
    · obtain ⟨_, hsame, hholds⟩ := (hiff hsupported).mpr hdeliverable hpublish e he hup
      obtain rfl := Option.some.inj hsame
      exact ⟨msg, hmsg, hholds⟩

end Topic

namespace PublishCall
variable {P : Platform}

theorem keepsFlags_of_deliverable {c : TopicClass} {t after : Topic P} {call : PublishCall}
    (h : Topic.Lowered (call.lowers c t) t after) (hcall : call = .doPublish)
    (hpublish : t.publish = true) (hdeliverable : t.Deliverable (c.format t)) :
    t.KeepsFlags after := by
  refine h.keepsFlags_iff.mpr fun e he hupdated => ?_
  rw [hcall]
  exact TopicClass.lowers_of_format (hdeliverable hpublish e he hupdated).1 e

/-- After a failed attempt the next publish call sends the updates exactly if the attempt
spares them. -/
theorem retried_attempt {call : PublishCall} {c : TopicClass} {t : Topic P}
    (h : call.attempted c t = true) (sent : Bool) :
    Topic.Retried c t (call.attempt c sent t) ↔ call.Spares c t := by
  have hlowered := lowered_attempt h sent
  cases hupdated : t.isUpdated with
  | false =>
    have hclean : ∀ e ∈ t.payload.metricList.entries, e.2.updated = false := by
      intro e he
      by_contra hup
      have hany : t.isUpdated = true :=
        List.any_eq_true.mpr ⟨e, he, Bool.not_eq_false _ ▸ hup⟩
      exact absurd (hupdated.symm.trans hany) Bool.false_ne_true
    refine iff_of_true ⟨?_, fun _ _ e he hup => ?_⟩ (.inl hclean)
    · refine hlowered.keepsFlags_iff.mpr fun e he hup => ?_
      exact absurd ((hclean e he).symm.trans hup) Bool.false_ne_true
    · exact absurd ((hclean e he).symm.trans hup) Bool.false_ne_true
  | true =>
    rw [hlowered.retried_iff hupdated]
    constructor
    · rintro ⟨hkept, hpublish, hdelivers⟩
      refine .inr ⟨?_, hpublish, hdelivers⟩
      obtain ⟨e, he, hup⟩ := List.any_eq_true.mp hupdated
      have hkeeps := hlowered.keepsFlags_iff.mp hkept e he hup
      cases call with
      | doPublish => rfl
      | publishTopics => cases hkeeps
    · rintro (hclean | ⟨hcall, hpublish, hdeliverable, hsupported⟩)
      · obtain ⟨e, he, hup⟩ := List.any_eq_true.mp hupdated
        exact absurd ((hclean e he).symm.trans hup) Bool.false_ne_true
      · exact ⟨keepsFlags_of_deliverable hlowered hcall hpublish hdeliverable, hpublish,
          hdeliverable, hsupported⟩

end PublishCall

section PublishLoop
variable {P : Platform}

/-- A publish call makes one attempt at every topic. -/
theorem publishTopics_mqtt (sent : List Bool) (list : TopicList P) :
    List.Forall₂ (fun t published => ∃ ok,
        published = (PublishCall.publishTopics.attempt .mqtt ok t,
          PublishCall.publishTopics.message .mqtt ok t)) list
      (publishTopics MqttTopic.publishStep sent list).2 := by
  apply publishTopics_forall₂ (R := fun t published => ∃ ok,
    published = (PublishCall.publishTopics.attempt .mqtt ok t,
      PublishCall.publishTopics.message .mqtt ok t))
  · intro sent t _ h
    refine ⟨sent.headD true, ?_⟩
    unfold PublishCall.attempt PublishCall.message
    exact Prod.ext (if_pos h).symm (if_pos h).symm
  · intro t _ h
    refine ⟨true, ?_⟩
    unfold PublishCall.attempt PublishCall.message
    have hnot : ¬ PublishCall.publishTopics.attempted .mqtt t = true := Bool.not_eq_true _ ▸ h
    rw [if_neg hnot, if_neg hnot]

theorem publishTopics_sparkplug (n : UInt8) (list : TopicList P) :
    List.Forall₂ (fun t published => ∃ n, ∀ ok,
        published = (PublishCall.publishTopics.attempt (.sparkplug n) ok t,
          PublishCall.publishTopics.message (.sparkplug n) ok t)) list
      (publishTopics SparkplugTopic.publishStep n list).2 := by
  apply publishTopics_forall₂ (R := fun t published => ∃ n, ∀ ok,
    published = (PublishCall.publishTopics.attempt (.sparkplug n) ok t,
      PublishCall.publishTopics.message (.sparkplug n) ok t))
  · intro n t _ h
    refine ⟨n, fun ok => ?_⟩
    unfold PublishCall.attempt PublishCall.message
    exact Prod.ext (if_pos h).symm (if_pos h).symm
  · intro t _ h
    refine ⟨n, fun ok => ?_⟩
    unfold PublishCall.attempt PublishCall.message
    have hnot : ¬ PublishCall.publishTopics.attempted (.sparkplug n) t = true :=
      Bool.not_eq_true _ ▸ h
    rw [if_neg hnot, if_neg hnot]

end PublishLoop

/-- After an attempt that fails the next publish call sends the updates exactly when the attempt
spares them, and the calls of a client make such attempts at all their topics. -/
theorem failed_publish_keeps_iff (P : Platform) :
    (∀ (call : PublishCall) (c : TopicClass) (sent : Bool) (t : Topic P),
      call.Failed c sent t → (Topic.Retried c t (call.attempt c sent t) ↔ call.Spares c t)) ∧
    (∀ (sent : List Bool) (list : TopicList P), List.Forall₂ (fun t published => ∃ ok,
        published = (PublishCall.publishTopics.attempt .mqtt ok t,
          PublishCall.publishTopics.message .mqtt ok t)) list
      (publishTopics MqttTopic.publishStep sent list).2) ∧
    (∀ (n : UInt8) (list : TopicList P), List.Forall₂ (fun t published => ∃ n, ∀ ok,
        published = (PublishCall.publishTopics.attempt (.sparkplug n) ok t,
          PublishCall.publishTopics.message (.sparkplug n) ok t)) list
      (publishTopics SparkplugTopic.publishStep n list).2) :=
  ⟨fun _ _ sent _ h => PublishCall.retried_attempt h.attempted sent, publishTopics_mqtt,
    publishTopics_sparkplug⟩

/-- The flag of a metric that was set is gone after a send that failed, and the next call
passes the topic over. -/
theorem unsent_speed_is_forgotten :
    PublishCall.publishTopics.Failed .mqtt false (speedTopic (str "application/json")) ∧
    ¬ Topic.Retried .mqtt (speedTopic (str "application/json"))
      (PublishCall.publishTopics.attempt .mqtt false (speedTopic (str "application/json"))) ∧
    PublishCall.publishTopics.message .mqtt true
      (PublishCall.publishTopics.attempt .mqtt false
        (speedTopic (str "application/json"))) = none := by
  have hattempted : PublishCall.publishTopics.attempted .mqtt
      (speedTopic (str "application/json")) = true := by
    decide +kernel
  have hflagged : (speedTopic (str "application/json")).isUpdated = true := by decide +kernel
  refine ⟨⟨hattempted, .inl rfl⟩, ?_, by decide +kernel⟩
  intro hretried
  rcases (PublishCall.retried_attempt hattempted false).mp hretried with hclean | ⟨hcall, -⟩
  · obtain ⟨e, he, hup⟩ := List.any_eq_true.mp hflagged
    exact absurd ((hclean e he).symm.trans hup) Bool.false_ne_true
  · cases hcall

/-- A topic that publishes a JSON text by itself sends it again. -/
theorem direct_speed_is_kept :
    Topic.Retried .mqtt (speedTopic (str "application/json"))
      (PublishCall.doPublish.attempt .mqtt false (speedTopic (str "application/json"))) := by
  have hformat : TopicClass.mqtt.format (speedTopic (str "application/json")) = .json := by
    decide +kernel
  have hentries := entries_withMetric (P := Platform.reference) (str "Speed") setSpeed
  refine ((failed_publish_keeps_iff Platform.reference).1 .doPublish .mqtt false _
    ⟨rfl, .inl rfl⟩).mpr (.inr ⟨rfl, rfl, ?_, ?_⟩)
  · rw [hformat]
    intro _ e he _
    simp only [speedTopic, hentries] at he
    obtain rfl := List.mem_singleton.mp he
    decide +kernel
  · intro _ e he _
    simp only [speedTopic, hentries] at he
    obtain rfl := List.mem_singleton.mp he
    decide +kernel

end PubSub
