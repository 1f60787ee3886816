import Mathlib.Data.List.Forall2
import PubSub.Device
import PubSub.Reference

/-!
# What a publish call hands over

A publish call of a client goes over its topics. The body of a topic is a text, a JSON
object or a protobuf message, and what it holds is told from the bytes alone. The flags of
a topic are lowered before its body is generated, and the protobuf generator is the one
that reads them.
-/

namespace PubSub
set_option autoImplicit false

inductive BodyFormat where
  | text | json | protobuf
  deriving DecidableEq

namespace BodyFormat

/-- The bytes that the generator of the format puts into the body. -/
def body {P : Platform} (format : BodyFormat) (p : Payload P) : BodyList :=
  match format with
  | .text => p.makeString
  | .json => p.makeJsonString
  | .protobuf => (P.serializeToArray (PayloadHelper.protobufOf false p)).getD []

/-- The body holds the value of a metric: as a field of the text, as a member of the object,
or as the value of a metric of the message with its name or alias. -/
def Holds (P : Platform) (format : BodyFormat) (body : BodyList) (e : Str × Metric) : Prop :=
  match format with
  | .text => ∃ fields, body = List.intercalate [59] fields ∧ Payload.stringField e.2 ∈ fields
  | .json => ∃ members v, (members.map Prod.fst).Nodup ∧ body = P.serializeJson members ∧
      Payload.jsonValue P e.2 = some v ∧ (e.1, v) ∈ members
  | .protobuf => ∃ pb m, P.parseFromArray body = some pb ∧ m ∈ pb.metrics ∧
      (m.name = some e.2.name ∨ m.name = none ∧ m.aliasNumber = some e.2.aliasNumber) ∧
      m.value = PayloadHelper.metricValue P e.2

end BodyFormat

namespace MqttTopic
variable {P : Platform}

def format (t : Topic P) : BodyFormat :=
  if t.isJson then .json else if t.isProtobuf then .protobuf else .text

end MqttTopic

namespace SparkplugTopic
variable {P : Platform}

def format (t : Topic P) : BodyFormat := if isState t then .json else .protobuf

end SparkplugTopic

/-- A client that publishes: a plain MQTT client with the outcomes of its sends, or a node, a
host or a device with the sequence number of the node. -/
inductive Publisher where
  | mqtt (sent : List Bool)
  | sparkplug (sequenceNumber : UInt8)

namespace Publisher
variable {P : Platform}

def format (c : Publisher) (t : Topic P) : BodyFormat :=
  match c with
  | .mqtt _ => MqttTopic.format t
  | .sparkplug _ => SparkplugTopic.format t

def publishTopics (c : Publisher) (list : TopicList P) : List (Topic P × Option MqttMessage) :=
  match c with
  | .mqtt sent => (PubSub.publishTopics MqttTopic.publishStep sent list).2
  | .sparkplug n => (PubSub.publishTopics SparkplugTopic.publishStep n list).2

end Publisher

namespace Topic
variable {P : Platform}

/-- The flagged metrics of a topic whose content type is JSON have values that JSON knows. -/
def Supported (format : BodyFormat) (t : Topic P) : Prop :=
  format = .json → ∀ e ∈ t.payload.metricList.entries, e.2.updated = true →
    Payload.jsonValue P e.2 ≠ none

/-- What a publish call owes to a topic: a message with the value of every flagged metric. -/
def Delivered (format : BodyFormat) (t : Topic P) (message : Option MqttMessage) : Prop :=
  t.publish = true → ∀ e ∈ t.payload.metricList.entries, e.2.updated = true →
    ∃ msg, message = some msg ∧ format.Holds P msg.body e

/-- A topic whose updates reach its body: it is not a protobuf topic, and all the flagged
metrics of a JSON topic have a name. -/
def Deliverable (format : BodyFormat) (t : Topic P) : Prop :=
  t.publish = true → ∀ e ∈ t.payload.metricList.entries, e.2.updated = true →
    format ≠ .protobuf ∧ (format = .json → e.1 ≠ [])

end Topic

namespace Publisher
variable {P : Platform}

/-- Every topic of the list gets what the call owes to it. -/
def Delivers (c : Publisher) (list : TopicList P) : Prop :=
  List.Forall₂ (fun t published => t.Delivered (c.format t) published.2) list
    (c.publishTopics list)

end Publisher

namespace Payload
variable {P : Platform}

theorem mem_resetUpdated {p : Payload P} {e : Str × Metric}
    (h : e ∈ p.metricList.entries) :
    (e.1, { e.2 with updated := false }) ∈ p.resetUpdated.metricList.entries := by
  simp only [resetUpdated, FoldedMap.entries_mapValues, Entries.mapValues, List.mem_map]
  exact ⟨e, h, rfl⟩

theorem resetUpdated_updated {p : Payload P} {e : Str × Metric}
    (h : e ∈ p.resetUpdated.metricList.entries) : e.2.updated = false := by
  simp only [resetUpdated, FoldedMap.entries_mapValues, Entries.mapValues, List.mem_map] at h
  obtain ⟨_, _, rfl⟩ := h
  rfl

theorem mem_jsonMembers {p : Payload P} {k : Str} {v : JsonValue} :
    (k, v) ∈ p.jsonMembers ↔
      ∃ m, (k, m) ∈ p.metricList.entries ∧ k ≠ [] ∧ jsonValue P m = some v := by
  unfold jsonMembers
  rw [List.mem_filterMap]
  constructor
  · rintro ⟨e, he, hval⟩
    split at hval
    · cases hval
    · rename_i hne
      obtain ⟨u, hu, heq⟩ := Option.map_eq_some_iff.mp hval
      obtain ⟨rfl, rfl⟩ := Prod.mk.inj heq
      exact ⟨e.2, he, hne, hu⟩
  · rintro ⟨m, hm, hne, hv⟩
    refine ⟨(k, m), hm, ?_⟩
    rw [if_neg hne, hv]
    rfl

variable (P) in
/-- Members come in the order of the metrics. -/
theorem members_nodup {es : List (Str × Metric)} (h : (es.map Prod.fst).Nodup) :
    ((es.filterMap fun e =>
      if e.1 = [] then none else (jsonValue P e.2).map fun v => (e.1, v)).map Prod.fst).Nodup := by
  rw [List.Nodup, List.pairwise_map] at h ⊢
  apply List.Pairwise.filterMap _ _ h
  intro a b hab u hu v hv
  split at hu
  · cases hu
  · split at hv
    · cases hv
    · obtain ⟨_, _, rfl⟩ := Option.map_eq_some_iff.mp hu
      obtain ⟨_, _, rfl⟩ := Option.map_eq_some_iff.mp hv
      exact hab

theorem keys_nodup (p : Payload P) : (p.metricList.entries.map Prod.fst).Nodup := by
  rw [List.Nodup, List.pairwise_map]
  apply p.metricList.sorted.imp
  intro a b hlt heq
  rw [heq] at hlt
  exact lt_irrefl _ hlt

theorem jsonMembers_nodup (p : Payload P) : (p.jsonMembers.map Prod.fst).Nodup :=
  members_nodup P p.keys_nodup

end Payload

namespace Topic
variable {P : Platform}

/-- The body of a topic whose flags were lowered holds the values that were flagged exactly
when the topic is deliverable. -/
theorem reset_body {format : BodyFormat} {t : Topic P} {p : Payload P} {msg : MqttMessage}
    (hbody : msg.body = format.body p)
    (hlist : p.metricList = t.payload.resetUpdated.metricList)
    (hsupported : t.Supported format) :
    t.Delivered format (some msg) ↔ t.Deliverable format := by
  have hreset : ∀ e ∈ t.payload.metricList.entries,
      (e.1, { e.2 with updated := false }) ∈ p.metricList.entries := by
    intro e he
    rw [hlist]
    exact Payload.mem_resetUpdated he
  constructor
  · intro hdelivered hpublish e he hupdated
    obtain ⟨_, heq, hholds⟩ := hdelivered hpublish e he hupdated
    obtain rfl := Option.some.inj heq
    rw [hbody] at hholds
    cases format with
    | text => exact ⟨by decide, fun h => by cases h⟩
    | json =>
      refine ⟨by decide, ?_⟩
      rintro - hname
      obtain ⟨members, v, hnodup, htext, _, hmem⟩ := hholds
      have hnames := P.json_names _ _ p.jsonMembers_nodup hnodup htext
      have hin : e.1 ∈ p.jsonMembers.map Prod.fst := by
        rw [hnames]
        exact List.mem_map.mpr ⟨(e.1, v), hmem, rfl⟩
      obtain ⟨m, hm, hfst⟩ := List.mem_map.mp hin
      obtain ⟨_, _, hne, _⟩ := Payload.mem_jsonMembers.mp hm
      exact hne (hfst.trans hname)
    | protobuf =>
      obtain ⟨pb, m, hparse, hm, _⟩ := hholds
      have hnone : (PayloadHelper.protobufOf false p).metrics = [] := by
        simp only [PayloadHelper.protobufOf, List.map_eq_nil_iff, List.filter_eq_nil_iff]
        intro a ha
        rw [hlist] at ha
        simp [PayloadHelper.includes, Payload.resetUpdated_updated ha]
      simp only [BodyFormat.body] at hparse
      cases hserialize : P.serializeToArray (PayloadHelper.protobufOf false p) with
      | none =>
        rw [hserialize, Option.getD_none, P.parse_nil] at hparse
        obtain rfl := Option.some.inj hparse
        cases hm
      | some b =>
        rw [hserialize, Option.getD_some, P.parse_serialize _ _ hserialize] at hparse
        obtain rfl := Option.some.inj hparse
        rw [hnone] at hm
        cases hm
  · intro hdeliverable hpublish e he hupdated
    obtain ⟨hproto, hnamed⟩ := hdeliverable hpublish e he hupdated
    refine ⟨msg, rfl, ?_⟩
    rw [hbody]
    cases format with
    | text =>
      refine ⟨_, rfl, ?_⟩
      exact List.mem_map.mpr ⟨_, hreset e he, rfl⟩
    | json =>
      obtain ⟨v, hv⟩ := Option.ne_none_iff_exists'.mp (hsupported rfl e he hupdated)
      have hmem := Payload.mem_jsonMembers.mpr ⟨_, hreset e he, hnamed rfl, hv⟩
      exact ⟨p.jsonMembers, v, p.jsonMembers_nodup, rfl, hv, hmem⟩
    | protobuf => exact absurd rfl hproto

theorem not_updated {format : BodyFormat} {t : Topic P} {message : Option MqttMessage}
    (h : (t.publish && t.isUpdated) = false) :
    t.Delivered format message ↔ t.Deliverable format := by
  have hnone : t.publish = true → ∀ e ∈ t.payload.metricList.entries, ¬ e.2.updated = true := by
    intro hpublish e he hupdated
    have hany : t.isUpdated = true := List.any_eq_true.mpr ⟨e, he, hupdated⟩
    rw [hpublish, hany] at h
    cases h
  constructor
  · intro _ hpublish e he hupdated
    exact absurd hupdated (hnone hpublish e he)
  · intro _ hpublish e he hupdated
    exact absurd hupdated (hnone hpublish e he)

end Topic

section PublishLoop
variable {P : Platform} {σ : Type}

/-- What holds of every turn of a call holds of the call. -/
theorem publishTopics_forall₂ {doPublish : σ → Topic P → σ × Topic P × Option MqttMessage}
    {R : Topic P → Topic P × Option MqttMessage → Prop} {list : TopicList P}
    (hpublished : ∀ s, ∀ t ∈ list, (t.publish && t.isUpdated) = true →
      R t (doPublish s t.resetUpdated).2)
    (hskipped : ∀ t ∈ list, (t.publish && t.isUpdated) = false → R t (t, none)) (s : σ) :
    List.Forall₂ R list (publishTopics doPublish s list).2 := by
  induction list generalizing s with
  | nil => exact .nil
  | cons t ts ih =>
    unfold publishTopics
    refine .cons ?_ (ih ?_ ?_ _)
    · split
      · rename_i h
        exact hpublished s t List.mem_cons_self h
      · rename_i h
        exact hskipped t List.mem_cons_self (by simpa using h)
    · exact fun s t ht => hpublished s t (List.mem_cons_of_mem _ ht)
    · exact fun t ht => hskipped t (List.mem_cons_of_mem _ ht)

theorem forall₂_iff_of_forall₂ {α β : Type*} {A : α → β → Prop} {B : α → Prop} {as : List α}
    {bs : List β} (h : List.Forall₂ (fun a b => A a b ↔ B a) as bs) :
    List.Forall₂ A as bs ↔ ∀ a ∈ as, B a := by
  induction h with
  | nil => simp
  | cons hab _ ih => rw [List.forall₂_cons, hab, ih, List.forall_mem_cons]

end PublishLoop

namespace Publisher
variable {P : Platform}

/-- How many metrics the message of a protobuf topic has. -/
def sentMetrics (published : Topic P × Option MqttMessage) : Option Nat :=
  (published.2.bind fun msg => P.parseFromArray msg.body).map fun pb => pb.metrics.length

theorem Delivers.sends_metrics {c : Publisher} {list : TopicList P} (h : c.Delivers list) :
    List.Forall₂ (fun t sent => c.format t = .protobuf → t.publish = true →
      t.isUpdated = true → sent ≠ some 0) list ((c.publishTopics list).map sentMetrics) := by
  rw [List.forall₂_map_right_iff]
  apply List.Forall₂.imp _ h
  intro t published hdelivered hformat hpublish hupdated hzero
  obtain ⟨e, he, heupdated⟩ := List.any_eq_true.mp hupdated
  obtain ⟨msg, hmsg, hholds⟩ := hdelivered hpublish e he heupdated
  rw [hformat] at hholds
  obtain ⟨pb, m, hparse, hm, -⟩ := hholds
  rw [sentMetrics, hmsg, Option.bind_some, hparse] at hzero
  have hnil : pb.metrics = [] := List.length_eq_zero_iff.mp (Option.some.inj hzero)
  rw [hnil] at hm
  cases hm

theorem published_mqtt (sent : List Bool) {t : Topic P} (h : t.publish = true) :
    ∃ msg p, (MqttTopic.publishStep sent t.resetUpdated).2.2 = some msg ∧
      msg.body = (MqttTopic.format t).body p ∧
      p.metricList = t.payload.resetUpdated.metricList := by
  have hpublish : t.resetUpdated.publish = true := h
  have hjson : t.resetUpdated.isJson = t.isJson := rfl
  have hprotobuf : t.resetUpdated.isProtobuf = t.isProtobuf := rfl
  refine ⟨(MqttTopic.generate t.resetUpdated).cacheTopic.message, t.payload.resetUpdated,
    ?_, ?_, rfl⟩
  · simp only [MqttTopic.publishStep, MqttTopic.doPublish, hpublish, if_true]
  · simp only [MqttTopic.generate, MqttTopic.format, hjson, hprotobuf]
    split
    · rfl
    · split <;> rfl

theorem published_sparkplug (n : UInt8) (t : Topic P) :
    ∃ msg p, (SparkplugTopic.publishStep n t.resetUpdated).2.2 = some msg ∧
      msg.body = (SparkplugTopic.format t).body p ∧
      p.metricList = t.payload.resetUpdated.metricList := by
  have hstate : SparkplugTopic.isState t.resetUpdated = SparkplugTopic.isState t := rfl
  unfold SparkplugTopic.publishStep SparkplugTopic.doPublish SparkplugTopic.generate
    SparkplugTopic.format
  rw [hstate]
  split
  · exact ⟨_, t.payload.resetUpdated, rfl, rfl, rfl⟩
  · exact ⟨_, { t.payload.resetUpdated with sequenceNumber := n.toUInt64 }, rfl, rfl, rfl⟩

end Publisher

/-- A publish call delivers the updates of its topics exactly when all topics with updates
are deliverable. -/
theorem publish_call_delivers {P : Platform} (c : Publisher) (list : TopicList P)
    (hsupported : ∀ t ∈ list, t.Supported (c.format t)) :
    c.Delivers list ↔ ∀ t ∈ list, t.Deliverable (c.format t) := by
  apply forall₂_iff_of_forall₂
  cases c with
  | mqtt sent =>
    apply publishTopics_forall₂ (R := fun t published =>
      t.Delivered (MqttTopic.format t) published.2 ↔ t.Deliverable (MqttTopic.format t))
    · intro sent t ht h
      have hpublish := (Bool.and_eq_true_iff.mp h).1
      obtain ⟨msg, p, hmsg, hbody, hlist⟩ := Publisher.published_mqtt sent hpublish
      rw [hmsg]
      exact Topic.reset_body hbody hlist (hsupported t ht)
    · intro t _ h
      exact Topic.not_updated h
  | sparkplug n =>
    apply publishTopics_forall₂ (R := fun t published =>
      t.Delivered (SparkplugTopic.format t) published.2 ↔ t.Deliverable (SparkplugTopic.format t))
    · intro n t ht _
      obtain ⟨msg, p, hmsg, hbody, hlist⟩ := Publisher.published_sparkplug n t
      rw [hmsg]
      exact Topic.reset_body hbody hlist (hsupported t ht)
    · intro t _ h
      exact Topic.not_updated h

section Speed

theorem entries_withMetric {P : Platform} (name : Str) (f : Metric → Metric) :
    (({} : Payload P).withMetric name f).metricList.entries = [(name, f { name := name })] := by
  simp [Payload.withMetric, Payload.createMetric, Payload.updateMetric, FoldedMap.update,
    Entries.insert, Entries.updateFirst, Entries.sameKey]

def setSpeed (m : Metric) : Metric := { m with datatype := .int32 }.setInt 7

/-- A topic of an MQTT client with one metric, which was set. -/
def speedTopic (contentType : Str) : Topic Platform.reference where
  contentType := contentType
  topic := str "engine/speed"
  publish := true
  payload := ({} : Payload Platform.reference).withMetric (str "Speed") setSpeed

theorem json_speed_is_delivered :
    (Publisher.mqtt [true]).Delivers [speedTopic (str "application/json")] := by
  have hentries := entries_withMetric (P := Platform.reference) (str "Speed") setSpeed
  refine (publish_call_delivers _ _ ?_).mpr ?_
  · intro t ht
    obtain rfl := List.mem_singleton.mp ht
    intro _ e he _
    simp only [speedTopic, hentries] at he
    obtain rfl := List.mem_singleton.mp he
    decide +kernel
  · intro t ht
    obtain rfl := List.mem_singleton.mp ht
    intro _ e he _
    simp only [speedTopic, hentries] at he
    obtain rfl := List.mem_singleton.mp he
    decide +kernel

/-- The message of a protobuf topic is sent without the metric that was set. -/
theorem protobuf_speed_is_dropped :
    ¬ (Publisher.mqtt [true]).Delivers [speedTopic (str "application/protobuf")] := by
  intro h
  have hempty : ((Publisher.mqtt [true]).publishTopics
      [speedTopic (str "application/protobuf")]).map Publisher.sentMetrics = [some 0] := by
    decide +kernel
  have hsent := h.sends_metrics
  rw [hempty] at hsent
  have hhead := (List.forall₂_cons.mp hsent).1
  exact hhead (by decide +kernel) rfl (by decide +kernel) rfl

end Speed

end PubSub
