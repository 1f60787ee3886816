import PubSub.EchoRace
import PubSub.TextRoundTrip
import PubSub.Shared.Replica

/-!
# One publisher and its subscribers

The topics of a plain client go to any number of other clients, each behind its own queue.
A subscriber that has added the metric as well, and does not publish it, follows the publisher:
it shows the values of the metric in their order, and the current one when nothing is left to
send or to deliver.
-/

namespace PubSub
set_option autoImplicit false

namespace Topic
variable {P : Platform}

theorem assignLevels_contentType (cs : Str) (level : Nat) (temp : Str) (t : Topic P) :
    (assignLevels cs level temp t).contentType = t.contentType := by
  have hlevel : ∀ (level : Nat) (part : Str) (t : Topic P),
      (t.assignLevelName level part).contentType = t.contentType := by
    intro level part t
    unfold assignLevelName
    split <;> (try split) <;> rfl
  induction cs generalizing level temp t with
  | nil =>
    simp only [assignLevels]
    split
    · exact hlevel level temp t
    · rfl
  | cons c cs ih =>
    simp only [assignLevels]
    split
    · exact (ih _ _ _).trans (hlevel level temp t)
    · exact ih _ _ _

theorem setTopic_contentType (name : Str) (t : Topic P) :
    (t.setTopic name).contentType = t.contentType := by
  have h := assignLevels_contentType name 0 [] { t with topic := name }
  unfold setTopic
  dsimp only
  split
  · exact h
  · exact h

end Topic

namespace TopicList
variable {P : Platform}

/-- The topics of a name. -/
def named (name : Str) (list : TopicList P) : TopicList P := list.filter (ClientSys.hasName name)

theorem getTopic_of_named {name : Str} {list : TopicList P} {t : Topic P}
    (h : list.named name = [t]) : list.getTopic name = some t := by
  unfold getTopic
  rw [← List.head?_filter, show list.filter (ClientSys.hasName name) = [t] from h]
  rfl

theorem slot_of_named {name : Str} {list : TopicList P} {t : Topic P}
    (h : list.named name = [t]) : list.slot name = some (t.payload.getMetric name) := by
  unfold slot
  rw [getTopic_of_named h, Option.map_some]

theorem named_of_none {name : Str} {list : TopicList P} (h : list.getTopic name = none) :
    list.named name = [] :=
  List.filter_eq_nil_iff.mpr (List.find?_eq_none.mp h)

theorem named_map {f : Topic P → Topic P} (hf : ∀ t, (f t).topicName = t.topicName) (name : Str)
    (list : TopicList P) : named name (list.map f) = (list.named name).map f := by
  unfold named
  rw [List.filter_map]
  refine congrArg (List.map f) (List.filter_congr fun t _ => ?_)
  exact congrArg (fun other => decide (name = other)) (hf t)

theorem named_updateTopic_self {name : Str} {f : Topic P → Topic P}
    (hf : ∀ t, (f t).topicName = t.topicName) {list : TopicList P} {t : Topic P}
    (h : list.named name = [t]) : named name (ClientSys.updateTopic name f list) = [f t] := by
  induction list with
  | nil => cases h
  | cons a as ih =>
    unfold named ClientSys.updateTopic at *
    cases ha : ClientSys.hasName name a with
    | true =>
      have hfa : ClientSys.hasName name (f a) = true := by
        rw [ClientSys.hasName, hf]
        exact ha
      rw [List.filter_cons_of_pos ha] at h
      obtain ⟨rfl, hrest⟩ := List.cons.inj h
      simp [List.findIdx_cons, ha, hfa, hrest]
    | false =>
      rw [List.filter_cons_of_neg (by simp [ha])] at h
      simp [List.findIdx_cons, ha, ih h]

theorem named_updateTopic_ne {name other : Str} (h : other ≠ name) {f : Topic P → Topic P}
    (hf : ∀ t, (f t).topicName = t.topicName) (list : TopicList P) :
    named other (ClientSys.updateTopic name f list) = list.named other := by
  induction list with
  | nil => rfl
  | cons a as ih =>
    unfold named ClientSys.updateTopic at *
    cases ha : ClientSys.hasName name a with
    | true =>
      have hname : name = a.topicName := of_decide_eq_true ha
      have hother : ClientSys.hasName other a = false :=
        decide_eq_false fun heq => h (heq.trans hname.symm)
      have hfa : ClientSys.hasName other (f a) = false := by
        rw [ClientSys.hasName, hf]
        exact hother
      simp [List.findIdx_cons, ha, hfa, hother]
    | false => simp [List.findIdx_cons, ha, List.filter_cons, ih]

theorem named_ensureTopic_self {name : Str} {list : TopicList P} {t : Topic P}
    (h : list.named name = [t]) (publish : Bool) :
    ClientSys.ensureTopic name publish list = list := by
  have hmem : t ∈ list.named name := h ▸ List.mem_singleton_self t
  obtain ⟨ht, hnamed⟩ := List.mem_filter.mp hmem
  unfold ClientSys.ensureTopic
  rw [if_pos (List.any_eq_true.mpr ⟨t, ht, hnamed⟩)]

theorem named_ensureTopic_new {name : Str} (hne : name ≠ []) (publish : Bool)
    {list : TopicList P} (h : list.getTopic name = none) :
    named name (ClientSys.ensureTopic name publish list) = [newTopic name publish] := by
  have hnone : ¬ list.any (ClientSys.hasName name) = true := by
    rw [List.any_eq_true]
    rintro ⟨t, ht, hnamed⟩
    exact List.find?_eq_none.mp h t ht hnamed
  have hnew : ClientSys.hasName name (newTopic (P := P) name publish) = true :=
    decide_eq_true (newTopic_topicName hne publish).symm
  unfold ClientSys.ensureTopic
  rw [if_neg hnone]
  change named name (list ++ [newTopic name publish]) = _
  have hold := named_of_none h
  unfold named at hold ⊢
  rw [List.filter_append, hold, List.nil_append, List.filter_cons_of_pos hnew, List.filter_nil]

theorem named_ensureTopic_ne {name other : Str} (hne : name ≠ []) (h : other ≠ name)
    (publish : Bool) (list : TopicList P) :
    named other (ClientSys.ensureTopic name publish list) = list.named other := by
  unfold ClientSys.ensureTopic
  split
  · rfl
  · have hnew : ¬ ClientSys.hasName other (newTopic (P := P) name publish) = true := by
      rw [ClientSys.hasName, newTopic_topicName hne publish]
      exact fun heq => h (of_decide_eq_true heq)
    change named other (list ++ [newTopic name publish]) = _
    unfold named
    rw [List.filter_append, List.filter_cons_of_neg hnew, List.filter_nil, List.append_nil]

theorem named_receiveMessage_ne {d : ClientMessage} {name : Str} (h : name ≠ d.topicName)
    (list : TopicList P) : named name (list.receiveMessage d) = list.named name := by
  unfold receiveMessage
  split
  · rfl
  · rename_i hne
    rw [named_updateTopic_ne h (topicName_messageTopic d), named_ensureTopic_ne hne h]

theorem named_receiveMessage_self {d : ClientMessage} (hne : d.topicName ≠ [])
    {list : TopicList P} {t : Topic P} (h : list.named d.topicName = [t]) :
    named d.topicName (list.receiveMessage d) =
      [ClientSys.messageTopic d.topicName d.now d.body d.qos d.retained t] := by
  unfold receiveMessage
  rw [if_neg hne, named_ensureTopic_self h]
  exact named_updateTopic_self (topicName_messageTopic d) h

/-- A publish call leaves a topic that does not publish. -/
theorem named_publishTopics {name : Str} {t : Topic P} (hsilent : t.publish = false)
    (sent : List Bool) {list : TopicList P} (h : list.named name = [t]) :
    named name (((publishTopics MqttTopic.publishStep sent list).2).map Prod.fst) = [t] := by
  have hsame : List.Forall₂ (fun a b : Topic P => b.topicName = a.topicName ∧
      (a.publish = false → b = a)) list
      (((publishTopics MqttTopic.publishStep sent list).2).map Prod.fst) := by
    rw [List.forall₂_map_right_iff]
    refine (publishTopics_mqtt sent list).imp fun a b ⟨ok, hb⟩ => ?_
    rw [hb]
    refine ⟨(Topic.attempt_mqtt ok a).1, fun ha => if_neg ?_⟩
    rw [show PublishCall.publishTopics.attempted .mqtt a = (a.publish && a.isUpdated) from rfl, ha]
    exact Bool.false_ne_true
  unfold named at h ⊢
  generalize ((publishTopics MqttTopic.publishStep sent list).2).map Prod.fst = after at hsame ⊢
  have hfiltered : List.Forall₂ (fun a b : Topic P => a.publish = false → b = a)
      (list.filter (ClientSys.hasName name)) (after.filter (ClientSys.hasName name)) := by
    clear h
    induction hsame with
    | nil => exact .nil
    | @cons a b as bs hab _ ih =>
      have hname : ClientSys.hasName name b = ClientSys.hasName name a := by
        unfold ClientSys.hasName
        rw [hab.1]
      rw [List.filter_cons, List.filter_cons, hname]
      split
      · exact .cons hab.2 ih
      · exact ih
  rw [h] at hfiltered
  obtain ⟨b, rest, hb, hrest, heq⟩ := List.forall₂_cons_left_iff.mp hfiltered
  rw [heq, hb hsilent, List.forall₂_nil_left_iff.mp hrest]

end TopicList

section Publishing
variable {P : Platform}

/-- What a publish call makes of one topic, when the broker takes every message. -/
def publishOne (t : Topic P) : Topic P × Option MqttMessage :=
  if t.publish && t.isUpdated then MqttTopic.doPublish true t.resetUpdated else (t, none)

theorem publishTopics_all (list : TopicList P) :
    publishTopics MqttTopic.publishStep [] list = ([], list.map publishOne) := by
  induction list with
  | nil => rfl
  | cons t ts ih =>
    unfold publishTopics
    by_cases h : (t.publish && t.isUpdated) = true
    · rw [if_pos h]
      dsimp only
      rw [show (MqttTopic.publishStep [] t.resetUpdated).1 = [] from rfl, ih, List.map_cons,
        publishOne, if_pos h]
      rfl
    · rw [if_neg h]
      dsimp only
      rw [ih, List.map_cons, publishOne, if_neg h]

theorem publishOne_topicName (t : Topic P) : (publishOne t).1.topicName = t.topicName := by
  have hsame : (if (t.publish && t.isUpdated) = true then
      (MqttTopic.doPublish true t.resetUpdated).1 else t).topicName = t.topicName :=
    (Topic.attempt_mqtt true t).1
  unfold publishOne
  split
  · rename_i h
    rw [if_pos h] at hsame
    exact hsame
  · rfl

theorem publishOne_message {t : Topic P} {message : MqttMessage}
    (h : (publishOne t).2 = some message) : message.topicName = t.topicName := by
  have hname := publishOne_topicName t
  unfold publishOne at h hname
  split at h
  · rename_i hsends
    rw [if_pos hsends] at hname
    unfold MqttTopic.doPublish at h hname
    split at h
    · rename_i hpublish
      rw [if_pos hpublish] at hname
      rw [← Option.some.inj h]
      exact hname
    · cases h
  · cases h

/-- The messages of a name come from the topics of the name. -/
theorem messages_named (name : Str) (list : TopicList P) :
    ((list.map publishOne).filterMap Prod.snd).filter (fun d => decide (d.topicName = name)) =
      (list.named name).filterMap fun t => (publishOne t).2 := by
  induction list with
  | nil => rfl
  | cons t ts ih =>
    unfold TopicList.named at ih ⊢
    rw [List.map_cons, List.filterMap_cons]
    cases hsent : (publishOne t).2 with
    | none =>
      dsimp only
      rw [ih, List.filter_cons]
      split
      · rw [List.filterMap_cons, hsent]
      · rfl
    | some message =>
      have hname := publishOne_message hsent
      dsimp only
      rw [List.filter_cons, List.filter_cons, ih, hname]
      by_cases hsame : t.topicName = name
      · have hhas : ClientSys.hasName name t = true := decide_eq_true hsame.symm
        rw [if_pos (decide_eq_true hsame), if_pos hhas, List.filterMap_cons, hsent]
      · have hhas : ¬ ClientSys.hasName name t = true :=
          fun h => hsame (of_decide_eq_true h).symm
        rw [if_neg (by simpa using hsame), if_neg hhas]

/-- A text topic that publishes one metric, which is not null. -/
structure Topic.Holds (t : Topic P) (name : Str) (a : Metric) : Prop where
  publish : t.publish = true
  contentType : t.contentType = []
  entries : t.payload.metricList.entries = [(name, a)]
  isNull : a.isNull = false

theorem Topic.Holds.isUpdated {t : Topic P} {name : Str} {a : Metric} (h : t.Holds name a) :
    t.isUpdated = a.updated := by
  unfold Topic.isUpdated Payload.isUpdated
  rw [h.entries]
  exact Bool.or_false _

theorem Topic.Holds.getMetric {t : Topic P} {name : Str} {a : Metric} (h : t.Holds name a) :
    t.payload.getMetric name = some a := by
  have hkey : Entries.sameKey P.foldKey name name a = true := (Entries.sameKey_iff a).mpr rfl
  unfold Payload.getMetric FoldedMap.get? Entries.get? Entries.findFirst?
  simp [h.entries, hkey]

/-- An updated topic sends the value and lowers the flag. -/
theorem Topic.Holds.publishOne {t : Topic P} {name : Str} {a : Metric} (h : t.Holds name a) :
    a.updated = false ∧ PubSub.publishOne t = (t, none) ∨
    a.updated = true ∧ ∃ after message, PubSub.publishOne t = (after, some message) ∧
      after.Holds name { a with updated := false } ∧ message.body = a.value := by
  unfold PubSub.publishOne
  rw [h.publish, h.isUpdated, Bool.true_and]
  cases hupdated : a.updated with
  | false => exact .inl ⟨rfl, if_neg Bool.false_ne_true⟩
  | true =>
    refine .inr ⟨rfl, ?_⟩
    have hpublish : t.resetUpdated.publish = true := h.publish
    have hentries : t.resetUpdated.payload.metricList.entries =
        [(name, { a with updated := false })] := by
      have hreset := FoldedMap.entries_mapValues t.payload.metricList
        fun _ m => { m with updated := false }
      rw [h.entries] at hreset
      exact hreset
    have hkind : t.resetUpdated.isJson = false ∧ t.resetUpdated.isProtobuf = false := by
      unfold Topic.isJson Topic.isProtobuf
      rw [show t.resetUpdated.contentType = [] from h.contentType]
      constructor
      · exact decide_eq_false (by rw [List.infix_nil]; decide)
      · exact decide_eq_false (by rw [List.infix_nil]; decide)
    have hbody : t.resetUpdated.payload.makeString = a.value := by
      unfold Payload.makeString
      rw [hentries, List.map_singleton, List.intercalate_singleton]
      exact if_neg (by rw [h.isNull]; exact Bool.false_ne_true)
    rw [if_pos rfl]
    unfold MqttTopic.doPublish MqttTopic.generate
    rw [hpublish, hkind.1, hkind.2, if_pos rfl, if_neg Bool.false_ne_true,
      if_neg Bool.false_ne_true]
    exact ⟨_, _, rfl, ⟨hpublish, h.contentType, hentries, h.isNull⟩, hbody⟩

end Publishing

inductive BroadcastEvent (ι : Type) where
  | write (name : Str) (v : TypedValue)
  | addMetric (m : Metric)
  | publish
  | publishOwn (i : ι) (sent : List Bool)
  | deliver (i : ι) (now : UInt64) (qos : QualityOfService) (retained : Bool)
  | receive (i : ι) (d : ClientMessage)

/-- The topics of the publisher and of its subscribers, and the messages on their way. -/
structure Broadcast (P : Platform) (ι : Type) where
  publisher : TopicList P
  inFlight : ι → List MqttMessage
  subscriber : ι → TopicList P

namespace Broadcast
variable {P : Platform} {ι : Type}

/-- A write through a metric that the application holds. -/
def write (name : Str) (v : TypedValue) (s : Broadcast P ι) : Broadcast P ι :=
  let setMetric := fun t : Topic P =>
    t.onPayload fun p => p.updateMetric name fun a => a.setValue P v
  { s with publisher := ClientSys.updateTopic name setMetric s.publisher }

/-- `PublishTopics`; the broker takes every message, and forwards it to each subscriber. -/
def publish (s : Broadcast P ι) : Broadcast P ι :=
  let published := (publishTopics MqttTopic.publishStep [] s.publisher).2
  { s with
    publisher := published.map Prod.fst
    inFlight := fun i => s.inFlight i ++ published.filterMap Prod.snd }

variable [DecidableEq ι]

def onSubscriber (i : ι) (f : TopicList P → TopicList P) (s : Broadcast P ι) : Broadcast P ι :=
  { s with subscriber := Function.update s.subscriber i (f (s.subscriber i)) }

/-- A subscriber publishes topics of its own. -/
def publishOwn (i : ι) (sent : List Bool) (s : Broadcast P ι) : Broadcast P ι :=
  s.onSubscriber i fun list =>
    ((publishTopics MqttTopic.publishStep sent list).2).map Prod.fst

def receive (i : ι) (d : ClientMessage) (s : Broadcast P ι) : Broadcast P ι :=
  s.onSubscriber i fun list => list.receiveMessage d

def deliver (i : ι) (now : UInt64) (qos : QualityOfService) (retained : Bool)
    (s : Broadcast P ι) : Broadcast P ι :=
  match s.inFlight i with
  | [] => s
  | message :: rest =>
    { s.receive i ⟨message.topicName, now, message.body, qos, retained⟩ with
      inFlight := Function.update s.inFlight i rest }

def step (s : Broadcast P ι) : BroadcastEvent ι → Broadcast P ι
  | .write name v => s.write name v
  | .addMetric m => { s with publisher := ClientSys.addMetric m s.publisher }
  | .publish => s.publish
  | .publishOwn i sent => s.publishOwn i sent
  | .deliver i now qos retained => s.deliver i now qos retained
  | .receive i d => s.receive i d

end Broadcast

namespace Broadcast
variable {P : Platform} {ι : Type}

/-- Subscriber `i` and the publisher's metric of a name. -/
def replica (name : Str) (i : ι) : Replica (Broadcast P ι) (Option Str) where
  value s := (s.publisher.slot name).join.map Metric.value
  flag s := (s.publisher.slot name).join.any Metric.updated
  queue s := ((s.inFlight i).filter fun d => decide (d.topicName = name)).map fun d =>
    some (cString d.body)
  shown s := ((s.subscriber i).slot name).join.map Metric.value

end Broadcast

/-- A text that a subscriber of the datatype takes over as it is. -/
structure MetricType.Takes (type : MetricType) (text : Str) : Prop where
  zeroFree : cString text = text
  whole : type.valueText text = text

/-- The text that the setter stores in a metric of the value's type. -/
def TypedValue.written (P : Platform) (v : TypedValue) : Str :=
  (({ datatype := v.type } : Metric).setValue P v).value

theorem TypedValue.setValue_written {P : Platform} {v : TypedValue} {m : Metric}
    (htype : v.type = m.datatype) : m.setValue P v = m.setText (v.written P) := by
  cases v with
  | text t =>
    have hwritten : (TypedValue.text t).written P = t :=
      congrArg Metric.value
        (Metric.setString_of_string (P := P) (m := { datatype := .string }) rfl t)
    rw [hwritten]
    exact Metric.setString_of_string htype.symm t
  | _ => rfl

theorem TypedValue.Plain.takes {P : Platform} {v : TypedValue} (h : v.Plain) :
    v.type.Takes (v.written P) := by
  have hwritten : v.written P = v.asText := by
    unfold written
    rw [h.setValue_eq (P := P) (m := { datatype := v.type }) rfl]
    rfl
  rw [hwritten]
  refine ⟨cString_eq h.asText_zero, ?_⟩
  unfold MetricType.valueText
  split
  · rename_i hnumeric
    apply List.takeWhile_eq_self_iff.mpr
    intro c hc
    exact decide_eq_true fun hblank => TypedValue.asText_blank hnumeric (hblank ▸ hc)
  · rfl

namespace Broadcast
variable {P : Platform} {ι : Type}

/-- The publisher has one topic of the name with its metric, subscriber `i` has the metric
too and does not publish it, and the messages between them are texts that it takes. -/
structure Serves (name : Str) (type : MetricType) (i : ι) (s : Broadcast P ι) : Prop where
  publisher : ∃ t a, s.publisher.named name = [t] ∧ t.Holds name a ∧ a.datatype = type ∧
    type.Takes a.value
  queued : ∀ d ∈ s.inFlight i, d.topicName = name → type.Takes d.body
  subscriber : ∃ t b, (s.subscriber i).named name = [t] ∧ t.publish = false ∧
    t.payload.getMetric name = some b ∧ b.datatype = type

variable (P) in
/-- The writes to the metric are values of its type whose texts a subscriber takes, and no other
client publishes its topic. -/
def Proper (name : Str) (type : MetricType) : BroadcastEvent ι → Prop
  | .write other v => other = name → v.type = type ∧ type.Takes (v.written P)
  | .receive _ d => d.topicName ≠ name
  | .addMetric _ | .publish | .publishOwn _ _ | .deliver _ _ _ _ => True

theorem slot_of_holds {name : Str} {list : TopicList P} {t : Topic P} {a : Metric}
    (hnamed : list.named name = [t]) (h : t.Holds name a) : list.slot name = some (some a) := by
  rw [TopicList.slot_of_named hnamed, h.getMetric]

end Broadcast

theorem Topic.Holds.update {P : Platform} {t : Topic P} {name : Str} {a : Metric}
    (h : t.Holds name a) {f : Metric → Metric} (hf : (f a).isNull = a.isNull) :
    (t.onPayload fun p => p.updateMetric name f).Holds name (f a) := by
  refine ⟨h.publish, h.contentType, ?_, hf.trans h.isNull⟩
  have hkey : Entries.sameKey P.foldKey name name a = true := (Entries.sameKey_iff a).mpr rfl
  have hupdate := FoldedMap.entries_updateFirst t.payload.metricList
    (Entries.sameKey P.foldKey name) f
  rw [h.entries] at hupdate
  refine Eq.trans hupdate ?_
  simp [Entries.updateFirst, hkey]

theorem Topic.Holds.addMetric {P : Platform} {t : Topic P} {a m : Metric}
    (h : t.Holds m.name a) (text : Str) :
    (t.onPayload fun p => (p.stringToBody text).addMetric m).Holds m.name a := by
  refine ⟨h.publish, h.contentType, ?_, h.isNull⟩
  change ((t.payload.stringToBody text).addMetric m).metricList.entries = _
  unfold Payload.addMetric
  split
  · exact h.entries
  · change Entries.insert P.foldKey m.name m t.payload.metricList.entries = _
    rw [h.entries]
    simp [Entries.insert]

namespace Broadcast
variable {P : Platform} {ι : Type} {name : Str} {type : MetricType} {i : ι}
  {s : Broadcast P ι}

/-- A step of the publisher that sends nothing. -/
theorem serves_publisher (h : s.Serves name type i) {list : TopicList P} {t : Topic P}
    {a : Metric} (hnamed : list.named name = [t]) (hholds : t.Holds name a)
    (htype : a.datatype = type) (htakes : type.Takes a.value)
    (hflag : a.updated = true ∨ (replica (P := P) name i).flag s = a.updated ∧
      (replica name i).value s = some a.value) :
    Serves name type i { s with publisher := list } ∧
      (replica name i).Move s { s with publisher := list } := by
  have hslot := slot_of_holds hnamed hholds
  refine ⟨⟨⟨t, a, hnamed, hholds, htype, htakes⟩, h.queued, h.subscriber⟩, .change rfl rfl ?_⟩
  rcases hflag with hup | ⟨hsame, hvalue⟩
  · refine .inl ?_
    change (list.slot name).join.any Metric.updated = true
    rw [hslot]
    exact hup
  · refine .inr ⟨?_, ?_⟩
    · change (list.slot name).join.any Metric.updated = _
      rw [hslot, hsame]
      rfl
    · change (list.slot name).join.map Metric.value = _
      rw [hslot, hvalue]
      rfl

theorem replica_of_holds {t : Topic P} {a : Metric} (hnamed : s.publisher.named name = [t])
    (hholds : t.Holds name a) (i : ι) :
    (replica name i).value s = some a.value ∧ (replica (P := P) name i).flag s = a.updated := by
  have hslot := slot_of_holds hnamed hholds
  constructor
  · change (s.publisher.slot name).join.map Metric.value = _
    rw [hslot]
    rfl
  · change (s.publisher.slot name).join.any Metric.updated = _
    rw [hslot]
    rfl

theorem serves_write (h : s.Serves name type i) {other : Str} {v : TypedValue}
    (hproper : other = name → v.type = type ∧ type.Takes (v.written P)) :
    (s.write other v).Serves name type i ∧ (replica name i).Move s (s.write other v) := by
  obtain ⟨t, a, hnamed, hholds, htype, htakes⟩ := h.publisher
  obtain ⟨hvalue, hflag⟩ := replica_of_holds hnamed hholds i
  by_cases hsame : other = name
  · subst hsame
    obtain ⟨hvtype, hwritten⟩ := hproper rfl
    have hset : a.setValue P v = a.setText (v.written P) :=
      TypedValue.setValue_written (hvtype.trans htype.symm)
    have hafter := hholds.update (f := fun a => a.setValue P v)
      (by rw [hset]; rfl)
    have hset' := TopicList.named_updateTopic_self
      (f := fun t => t.onPayload fun p => p.updateMetric other fun a => a.setValue P v)
      (fun _ => rfl) hnamed
    refine serves_publisher h hset' hafter ?_ ?_ ?_
    · rw [hset]
      exact htype
    · rw [hset]
      exact hwritten
    · rw [hset, hvalue, hflag]
      by_cases hchanged : v.written P = a.value
      · refine .inr ⟨?_, congrArg some hchanged.symm⟩
        rw [Metric.setText_updated, hchanged, bne_self_eq_false, Bool.or_false]
      · refine .inl ?_
        rw [Metric.setText_updated, bne_iff_ne.mpr hchanged, Bool.or_true]
  · have hkept := TopicList.named_updateTopic_ne (P := P) (Ne.symm hsame)
      (f := fun t => t.onPayload fun p => p.updateMetric other fun a => a.setValue P v)
      (fun _ => rfl) s.publisher
    exact serves_publisher h (hkept.trans hnamed) hholds htype htakes (.inr ⟨hflag, hvalue⟩)

theorem serves_addMetric (h : s.Serves name type i) (m : Metric) :
    Serves name type i { s with publisher := ClientSys.addMetric m s.publisher } ∧
      (replica name i).Move s { s with publisher := ClientSys.addMetric m s.publisher } := by
  obtain ⟨t, a, hnamed, hholds, htype, htakes⟩ := h.publisher
  obtain ⟨hvalue, hflag⟩ := replica_of_holds hnamed hholds i
  by_cases hempty : m.name = []
  · have hsame : ClientSys.addMetric m s.publisher = s.publisher := if_pos hempty
    rw [hsame]
    exact serves_publisher h hnamed hholds htype htakes (.inr ⟨hflag, hvalue⟩)
  · have hadds : ClientSys.addMetric m s.publisher = ClientSys.updateTopic m.name
        (fun t => t.onPayload fun p => (p.stringToBody (m.getMqttString P)).addMetric m)
        (ClientSys.ensureTopic m.name true s.publisher) := if_neg hempty
    rw [hadds]
    by_cases hsame : m.name = name
    · subst hsame
      rw [TopicList.named_ensureTopic_self hnamed]
      have hadded := TopicList.named_updateTopic_self
        (f := fun t => t.onPayload fun p => (p.stringToBody (m.getMqttString P)).addMetric m)
        (fun _ => rfl) hnamed
      exact serves_publisher h hadded (hholds.addMetric _) htype htakes (.inr ⟨hflag, hvalue⟩)
    · have hkept := TopicList.named_updateTopic_ne (P := P) (Ne.symm hsame)
        (f := fun t => t.onPayload fun p => (p.stringToBody (m.getMqttString P)).addMetric m)
        (fun _ => rfl) (ClientSys.ensureTopic m.name true s.publisher)
      rw [TopicList.named_ensureTopic_ne hempty (Ne.symm hsame)] at hkept
      exact serves_publisher h (hkept.trans hnamed) hholds htype htakes (.inr ⟨hflag, hvalue⟩)

/-- Of the topics of a name only the one there is publishes. -/
theorem publish_named {t : Topic P} (hnamed : s.publisher.named name = [t]) (i : ι) :
    s.publish.publisher.named name = [(publishOne t).1] ∧
    ∃ sent, s.publish.inFlight i = s.inFlight i ++ sent ∧
      sent.filter (fun d => decide (d.topicName = name)) = (publishOne t).2.toList := by
  have hall := congrArg Prod.snd (publishTopics_all s.publisher)
  refine ⟨?_, (s.publisher.map publishOne).filterMap Prod.snd, ?_, ?_⟩
  · have hlist : s.publish.publisher = s.publisher.map fun t => (publishOne t).1 := by
      unfold publish
      dsimp only
      rw [hall, List.map_map]
      rfl
    rw [hlist, TopicList.named_map publishOne_topicName, hnamed, List.map_singleton]
  · unfold publish
    dsimp only
    rw [hall]
  · rw [messages_named, hnamed, List.filterMap_cons]
    cases (publishOne t).2 with
    | none => rfl
    | some message => rfl

/-- A publish call sends the flagged value of the metric, and nothing else of its name. -/
theorem serves_publish (h : s.Serves name type i) :
    s.publish.Serves name type i ∧ (replica name i).Move s s.publish := by
  obtain ⟨t, a, hnamed, hholds, htype, htakes⟩ := h.publisher
  obtain ⟨hvalue, hflag⟩ := replica_of_holds hnamed hholds i
  obtain ⟨hafter, sent, hflight, hsent⟩ := publish_named hnamed i
  have hqueued : (∀ d ∈ (publishOne t).2.toList, type.Takes d.body) →
      ∀ d ∈ s.publish.inFlight i, d.topicName = name → type.Takes d.body := by
    intro hbodies d hd hname
    rw [hflight] at hd
    rcases List.mem_append.mp hd with hd | hd
    · exact h.queued d hd hname
    · rw [← hsent] at hbodies
      exact hbodies d (List.mem_filter.mpr ⟨hd, decide_eq_true hname⟩)
  have hqueue : (replica name i).queue s.publish =
      (replica name i).queue s ++ (publishOne t).2.toList.map fun d => some (cString d.body) := by
    change ((s.publish.inFlight i).filter _).map _ = _
    rw [hflight, List.filter_append, List.map_append, hsent]
    rfl
  rcases hholds.publishOne with ⟨hclean, hone⟩ | ⟨hupdated, after, message, hone, hkept, hbody⟩
  · rw [hone] at hafter hqueued hqueue
    refine ⟨⟨⟨t, a, hafter, hholds, htype, htakes⟩, ?_, h.subscriber⟩, ?_⟩
    · exact hqueued fun _ hd => absurd hd List.not_mem_nil
    · obtain ⟨hnext, hnextFlag⟩ := replica_of_holds hafter hholds i
      exact .change (hqueue.trans (List.append_nil _)) rfl
        (.inr ⟨hnextFlag.trans hflag.symm, hnext.trans hvalue.symm⟩)
  · rw [hone] at hafter hqueued hqueue
    refine ⟨⟨⟨after, _, hafter, hkept, htype, htakes⟩, hqueued ?_, h.subscriber⟩, ?_⟩
    · intro d hd
      rw [List.mem_singleton.mp hd, hbody]
      exact htakes
    · obtain ⟨hnext, _⟩ := replica_of_holds hafter hkept i
      refine .tell (hqueue.trans ?_) rfl (hnext.trans hvalue.symm)
      rw [hvalue, Option.toList_some, List.map_singleton, hbody, htakes.zeroFree]

section Deliveries
variable [DecidableEq ι]

/-- A change of one subscriber's topics that leaves those of the name. -/
theorem serves_onSubscriber (h : s.Serves name type i) (j : ι) {f : TopicList P → TopicList P}
    (hf : ∀ t, (s.subscriber j).named name = [t] → t.publish = false →
      (f (s.subscriber j)).named name = [t]) :
    (s.onSubscriber j f).Serves name type i ∧ (replica name i).Move s (s.onSubscriber j f) ∧
      (replica name i).shown (s.onSubscriber j f) = (replica name i).shown s := by
  obtain ⟨t, b, hnamed, hsilent, hmetric, htype⟩ := h.subscriber
  have hafter : ((s.onSubscriber j f).subscriber i).named name = [t] := by
    change TopicList.named name (Function.update s.subscriber j _ i) = _
    by_cases hij : i = j
    · subst hij
      rw [Function.update_self]
      exact hf t hnamed hsilent
    · rw [Function.update_of_ne hij]
      exact hnamed
  have hshown : (replica name i).shown (s.onSubscriber j f) = (replica name i).shown s := by
    change (TopicList.slot name _).join.map _ = (TopicList.slot name _).join.map _
    rw [TopicList.slot_of_named hafter, TopicList.slot_of_named hnamed]
  exact ⟨⟨h.publisher, h.queued, t, b, hafter, hsilent, hmetric, htype⟩,
    .change rfl hshown (.inr ⟨rfl, rfl⟩), hshown⟩

theorem serves_receive (h : s.Serves name type i) {d : ClientMessage} (hd : d.topicName ≠ name)
    (j : ι) :
    (s.receive j d).Serves name type i ∧ (replica name i).Move s (s.receive j d) ∧
      (replica name i).shown (s.receive j d) = (replica name i).shown s :=
  serves_onSubscriber h j fun _ hnamed _ =>
    (TopicList.named_receiveMessage_ne (Ne.symm hd) _).trans hnamed

theorem serves_publishOwn (h : s.Serves name type i) (j : ι) (sent : List Bool) :
    (s.publishOwn j sent).Serves name type i ∧ (replica name i).Move s (s.publishOwn j sent) := by
  obtain ⟨hserves, hmove, -⟩ := serves_onSubscriber h j (f := fun list =>
    ((publishTopics MqttTopic.publishStep sent list).2).map Prod.fst) fun _ hnamed hsilent =>
      TopicList.named_publishTopics hsilent sent hnamed
  exact ⟨hserves, hmove⟩

/-- A subscriber takes the text of a message of the name as it is. -/
theorem named_receive_self (h : s.Serves name type i) (hne : name ≠ []) {d : ClientMessage}
    (hd : d.topicName = name) (htakes : type.Takes d.body) :
    ∃ t b, ((s.receive i d).subscriber i).named name = [t] ∧ t.publish = false ∧
      t.payload.getMetric name = some b ∧ b.datatype = type ∧ b.value = cString d.body := by
  obtain ⟨t, b, hnamed, hsilent, hmetric, htype⟩ := h.subscriber
  subst hd
  obtain ⟨hsame, hvalue, -⟩ := Metric.timed_setString (P := P) d.topicName d.now b (cString d.body)
  rw [htype, htakes.zeroFree, htakes.whole] at hvalue
  refine ⟨ClientSys.messageTopic d.topicName d.now d.body d.qos d.retained t, _, ?_, hsilent, ?_,
    hsame.trans htype, ?_⟩
  · change TopicList.named _ (Function.update s.subscriber i _ i) = _
    rw [Function.update_self]
    exact TopicList.named_receiveMessage_self hne hnamed
  · rw [TopicList.getMetric_messageTopic, hmetric, Option.map_some, if_pos rfl]
  · rw [htakes.zeroFree]
    exact hvalue

/-- Subscriber `i` takes the first message on its way. -/
theorem serves_take (h : s.Serves name type i) (hne : name ≠ []) {message : MqttMessage}
    {rest : List MqttMessage} (hqueue : s.inFlight i = message :: rest) {d : ClientMessage}
    (htopic : d.topicName = message.topicName) (hbody : d.body = message.body) :
    let t := { s.receive i d with inFlight := Function.update s.inFlight i rest }
    t.Serves name type i ∧ (replica name i).Move s t := by
  have hflight : Function.update s.inFlight i rest i = rest := Function.update_self ..
  have hqueued : ∀ d ∈ Function.update s.inFlight i rest i, d.topicName = name →
      type.Takes d.body := by
    intro d hd
    rw [hflight] at hd
    exact h.queued d (by rw [hqueue]; exact List.mem_cons_of_mem _ hd)
  by_cases hname : message.topicName = name
  · have htakes := h.queued message (by rw [hqueue]; exact List.mem_cons_self) hname
    obtain ⟨t, b, hnamed, hsilent, hmetric, htype, hvalue⟩ := named_receive_self h hne
      (htopic.trans hname) (hbody ▸ htakes)
    refine ⟨⟨h.publisher, hqueued, t, b, hnamed, hsilent, hmetric, htype⟩, .take ?_ rfl rfl⟩
    change ((s.inFlight i).filter _).map _ =
      (TopicList.slot name _).join.map Metric.value ::
        ((Function.update s.inFlight i rest i).filter _).map _
    have hhead : decide (message.topicName = name) = true := decide_eq_true hname
    rw [hqueue, hflight, List.filter_cons, if_pos hhead, List.map_cons,
      TopicList.slot_of_named hnamed, hmetric, Option.join_some, Option.map_some, hvalue, hbody]
  · obtain ⟨hserves, -, hshown⟩ := serves_receive h (htopic ▸ hname) i
    refine ⟨⟨h.publisher, hqueued, hserves.subscriber⟩, .change ?_ hshown (.inr ⟨rfl, rfl⟩)⟩
    change ((Function.update s.inFlight i rest i).filter _).map _ = ((s.inFlight i).filter _).map _
    rw [hqueue, hflight, List.filter_cons_of_neg (by simpa using hname)]

theorem serves_deliver (h : s.Serves name type i) (hne : name ≠ []) (j : ι) (now : UInt64)
    (qos : QualityOfService) (retained : Bool) :
    (s.deliver j now qos retained).Serves name type i ∧
      (replica name i).Move s (s.deliver j now qos retained) := by
  unfold deliver
  split
  · exact ⟨h, .change rfl rfl (.inr ⟨rfl, rfl⟩)⟩
  · rename_i message rest hqueue
    by_cases hij : i = j
    · subst hij
      exact serves_take h hne hqueue rfl rfl
    · -- the message goes to another subscriber
      have hflight : Function.update s.inFlight j rest i = s.inFlight i :=
        Function.update_of_ne hij ..
      have hother : ((s.receive j ⟨message.topicName, now, message.body, qos, retained⟩).subscriber
          i) = s.subscriber i := Function.update_of_ne hij ..
      refine ⟨⟨h.publisher, ?_, ?_⟩, .change ?_ ?_ (.inr ⟨rfl, rfl⟩)⟩
      · dsimp only
        rw [hflight]
        exact h.queued
      · dsimp only
        rw [hother]
        exact h.subscriber
      · change ((Function.update s.inFlight j rest i).filter _).map _ = _
        rw [hflight]
        rfl
      · exact congrArg (fun list => (TopicList.slot name list).join.map Metric.value) hother

theorem follows (hne : name ≠ []) (type : MetricType) (i : ι) :
    (replica (P := P) name i).Follows step (Serves name type i)
      fun _ e => Proper P name type e := by
  have hboth : ∀ (s : Broadcast P ι) e, s.Serves name type i → Proper P name type e →
      (s.step e).Serves name type i ∧ (replica name i).Move s (s.step e) := by
    intro s e h hproper
    cases e with
    | write other v => exact serves_write h hproper
    | addMetric m => exact serves_addMetric h m
    | publish => exact serves_publish h
    | publishOwn j sent => exact serves_publishOwn h j sent
    | deliver j now qos retained => exact serves_deliver h hne j now qos retained
    | receive j d =>
      obtain ⟨hserves, hmove, -⟩ := serves_receive h hproper j
      exact ⟨hserves, hmove⟩
  exact ⟨fun s e h hproper => (hboth s e h hproper).1,
    fun s e h hproper => (hboth s e h hproper).2⟩

end Deliveries

/-- A client adds the metric to its topics. Every subscriber adds one too, and switches the
publishing of its topic off. -/
def start (m : Metric) (r : ι → Metric) (publisher : TopicList P)
    (subscriber : ι → TopicList P) : Broadcast P ι where
  publisher := ClientSys.addMetric m publisher
  inFlight := fun _ => []
  subscriber := fun i => ClientSys.updateTopic (r i).name (fun t => { t with publish := false })
    (ClientSys.addMetric (r i) (subscriber i))

section Started
variable {m : Metric} {r : ι → Metric} {publisher : TopicList P} {subscriber : ι → TopicList P}

/-- A new metric is the only one of a new text topic. -/
theorem named_addMetric (hne : m.name ≠ []) {list : TopicList P}
    (hnew : list.getTopic m.name = none) :
    ∃ t, TopicList.named m.name (ClientSys.addMetric m list) = [t] ∧ t.publish = true ∧
      t.contentType = [] ∧ t.payload.metricList.entries = [(m.name, m)] := by
  have hadds : ClientSys.addMetric m list = ClientSys.updateTopic m.name
      (fun t => t.onPayload fun p => (p.stringToBody (m.getMqttString P)).addMetric m)
      (ClientSys.ensureTopic m.name true list) := if_neg hne
  have hnamed := TopicList.named_updateTopic_self
    (f := fun t => t.onPayload fun p => (p.stringToBody (m.getMqttString P)).addMetric m)
    (fun _ => rfl) (TopicList.named_ensureTopic_new hne true hnew)
  refine ⟨(TopicList.newTopic m.name true).onPayload fun p =>
    (p.stringToBody (m.getMqttString P)).addMetric m, ?_, rfl,
    Topic.setTopic_contentType m.name {}, ?_⟩
  · rw [hadds]
    exact hnamed
  · change (((TopicList.newTopic m.name true).payload.stringToBody
      (m.getMqttString P)).addMetric m).metricList.entries = _
    rw [TopicList.newTopic_payload]
    unfold Payload.addMetric
    rw [if_neg hne]
    rfl

/-- What the applications have set up: the publisher's metric is new and has a value that
goes over the topic, and the subscribers have added metrics of the same name and datatype.
They begin with values of their own where the publisher's is flagged. -/
structure Ready (m : Metric) (r : ι → Metric) (publisher : TopicList P)
    (subscriber : ι → TopicList P) : Prop where
  named : m.name ≠ []
  notNull : m.isNull = false
  takes : m.datatype.Takes m.value
  name : ∀ i, (r i).name = m.name
  datatype : ∀ i, (r i).datatype = m.datatype
  value : ∀ i, m.updated = true ∨ (r i).value = m.value
  publisher : publisher.getTopic m.name = none
  subscriber : ∀ i, (subscriber i).getTopic m.name = none

theorem Ready.holds (h : Ready m r publisher subscriber) :
    ∃ t, (start m r publisher subscriber).publisher.named m.name = [t] ∧ t.Holds m.name m := by
  obtain ⟨t, hnamed, hpublish, htext, hentries⟩ := named_addMetric h.named h.publisher
  exact ⟨t, hnamed, hpublish, htext, hentries, h.notNull⟩

theorem Ready.listens (h : Ready m r publisher subscriber) (i : ι) :
    ∃ t, ((start m r publisher subscriber).subscriber i).named m.name = [t] ∧
      t.publish = false ∧ t.payload.getMetric m.name = some (r i) := by
  have hsubscriber : (subscriber i).getTopic (r i).name = none := h.name i ▸ h.subscriber i
  obtain ⟨t, hnamed, -, -, hentries⟩ := named_addMetric (h.name i ▸ h.named) hsubscriber
  have hsilent := TopicList.named_updateTopic_self (f := fun t => { t with publish := false })
    (fun _ => rfl) hnamed
  rw [h.name i] at hsilent hentries
  refine ⟨{ t with publish := false }, ?_, rfl, ?_⟩
  · rw [← hsilent, ← h.name i]
    rfl
  · have hkey : Entries.sameKey P.foldKey m.name m.name (r i) = true :=
      (Entries.sameKey_iff (r i)).mpr rfl
    unfold Payload.getMetric FoldedMap.get? Entries.get? Entries.findFirst?
    simp [hentries, hkey]

theorem Ready.serves (h : Ready m r publisher subscriber) (i : ι) :
    (start m r publisher subscriber).Serves m.name m.datatype i := by
  obtain ⟨t, hnamed, hholds⟩ := h.holds
  obtain ⟨u, hlistens, hsilent, hmetric⟩ := h.listens i
  refine ⟨⟨t, m, hnamed, hholds, rfl, h.takes⟩, ?_, u, r i, hlistens, hsilent, hmetric,
    h.datatype i⟩
  intro d hd
  cases hd

theorem Ready.fresh (h : Ready m r publisher subscriber) (i : ι) :
    (replica m.name i).Fresh (start m r publisher subscriber) := by
  obtain ⟨t, hnamed, hholds⟩ := h.holds
  obtain ⟨u, hlistens, -, hmetric⟩ := h.listens i
  obtain ⟨hvalue, hflag⟩ := replica_of_holds hnamed hholds i
  refine ⟨rfl, fun hdown => ?_⟩
  rcases h.value i with hup | hsame
  · exact absurd (hdown.symm.trans (hflag.trans hup)) Bool.false_ne_true
  · rw [hvalue, ← hsame]
    change (TopicList.slot m.name _).join.map Metric.value = _
    rw [TopicList.slot_of_named hlistens, hmetric]
    rfl

variable [DecidableEq ι]

/-- Every subscriber shows its own value and then those of the publisher's metric, in the order
in which the metric had them. When the metric is not flagged and no message of its topic is on
the way to a subscriber, that subscriber shows its current value. -/
theorem subscribers_follow (h : Ready m r publisher subscriber) (es : List (BroadcastEvent ι))
    (hproper : ∀ e ∈ es, Proper P m.name m.datatype e) (i : ι) :
    (replica m.name i).SeesInOrder step (start m r publisher subscriber) es ∧
    let s := run step (start m r publisher subscriber) es
    (replica m.name i).flag s = false → (replica m.name i).queue s = [] →
      (replica m.name i).shown s = (replica m.name i).value s := by
  have hfollows := follows (P := P) h.named m.datatype i
  have hok : RunOk step (fun _ e => Proper P m.name m.datatype e) (start m r publisher subscriber)
      es := by
    rw [runOk_iff_forall]
    rintro pre e post rfl
    exact hproper e (List.mem_append_right pre List.mem_cons_self)
  refine ⟨hfollows.seesInOrder (h.serves i) (h.fresh i) hok, ?_⟩
  intro s hflag hqueue
  exact hfollows.converges (h.serves i) (h.fresh i) hok hflag hqueue

end Started

/-- The publisher's level has been set before it was added. -/
def publishedLevel : Metric := { EchoState.level with value := str "5", updated := true }

/-- The subscribers begin with other levels. -/
def subscribedLevel (second : Bool) : Metric :=
  { EchoState.level with value := if second then str "7" else str "8" }

def levelStart : Broadcast .reference Bool := start publishedLevel subscribedLevel [] fun _ => []

/-- Two subscribers; the second one gets its messages later, and publishes meanwhile. -/
def levelRun : List (BroadcastEvent Bool) :=
  [.publish, .write (str "tank/level") (.int32 1), .publish, .deliver true 10 .qos0 false,
    .deliver true 15 .qos0 false, .publishOwn false [],
    .write (str "tank/level") (.int32 2), .publish, .deliver false 20 .qos1 false,
    .deliver true 30 .qos0 false, .deliver false 40 .qos0 false, .deliver false 50 .qos0 false]

theorem level_ready : Ready (P := .reference) (ι := Bool) publishedLevel subscribedLevel []
    fun _ => [] where
  named := by decide +kernel
  notNull := rfl
  takes := ⟨rfl, by decide +kernel⟩
  name _ := rfl
  datatype _ := rfl
  value _ := .inl rfl
  publisher := rfl
  subscriber _ := rfl

theorem level_reaches_subscriber :
    (replica publishedLevel.name false).SeesInOrder step levelStart levelRun ∧
    (replica publishedLevel.name false).shown (run step levelStart levelRun) =
      (replica publishedLevel.name false).value (run step levelStart levelRun) := by
  have hplain : ∀ v, (TypedValue.int32 v).Plain := fun v => ⟨rfl, fun _ h => by cases h⟩
  have hproper : ∀ e ∈ levelRun,
      Proper .reference publishedLevel.name publishedLevel.datatype e := by
    intro e he
    simp only [levelRun, List.mem_cons, List.not_mem_nil, or_false] at he
    rcases he with rfl | rfl | rfl | rfl | rfl | rfl | rfl | rfl | rfl | rfl | rfl | rfl
    · trivial
    · exact fun _ => ⟨rfl, (hplain 1).takes⟩
    · trivial
    · trivial
    · trivial
    · trivial
    · exact fun _ => ⟨rfl, (hplain 2).takes⟩
    all_goals trivial
  obtain ⟨horder, hsettled⟩ := subscribers_follow level_ready levelRun hproper false
  exact ⟨horder, hsettled (by decide +kernel) (by decide +kernel)⟩

end Broadcast
end PubSub
