import PubSub.MetricWire
import PubSub.ReceivedValues

/-!
# One metric over a text topic

A plain client publishes the text of a value, or a star for a null value, and a subscriber
sets the text that it gets. The text has no unit and no null flag in it, so a value comes
back if it is not null and its metric has no unit.
-/

namespace PubSub
open DecimalText
set_option autoImplicit false

namespace Text

theorem valueInt8_intText (v : Int8) : valueInt8 (intText v.toInt) = v := by
  have hnumber := number_intText v.toInt
  have hlo := v.le_toInt
  have hhi := v.toInt_lt
  rw [valueInt8_number (by omega) (by omega), hnumber, Int8.ofInt_toInt]

theorem valueInt16_intText (v : Int16) : valueInt16 (intText v.toInt) = v := by
  have hnumber := number_intText v.toInt
  have hlo := v.le_toInt
  have hhi := v.toInt_lt
  rw [valueInt16_number (by omega) (by omega), hnumber, Int16.ofInt_toInt]

theorem valueInt32_intText (v : Int32) : valueInt32 (intText v.toInt) = v := by
  have hnumber := number_intText v.toInt
  have hlo := v.le_toInt
  have hhi := v.toInt_lt
  rw [valueInt32_number (by omega) (by omega), hnumber, Int32.ofInt_toInt]

theorem valueInt64_intText (v : Int64) : valueInt64 (intText v.toInt) = v := by
  have hnumber := number_intText v.toInt
  have hlo := v.le_toInt
  have hhi := v.toInt_lt
  rw [valueInt64_number (by omega) (by omega), hnumber, Int64.ofInt_toInt]

theorem valueUInt8_intText (v : UInt8) : valueUInt8 (intText v.toNat) = v := by
  have hnumber := number_intText v.toNat
  have hhi := v.toNat_lt
  rw [valueUInt8_number (by omega) (by omega), hnumber, Int.toNat_natCast, UInt8.ofNat_toNat]

theorem valueUInt16_intText (v : UInt16) : valueUInt16 (intText v.toNat) = v := by
  have hnumber := number_intText v.toNat
  have hhi := v.toNat_lt
  rw [valueUInt16_number (by omega) (by omega), hnumber, Int.toNat_natCast, UInt16.ofNat_toNat]

theorem valueUInt32_intText (v : UInt32) : valueUInt32 (intText v.toNat) = v := by
  have hnumber := number_intText v.toNat
  have hhi := v.toNat_lt
  rw [valueUInt32_number (by omega) (by omega), hnumber, Int.toNat_natCast, UInt32.ofNat_toNat]

theorem valueUInt64_intText (v : UInt64) : valueUInt64 (intText v.toNat) = v := by
  rw [intText_natCast, valueUInt64_natText]

end Text

theorem cString_eq {s : Str} (h : 0 ∉ s) : cString s = s := by
  apply List.takeWhile_eq_self_iff.mpr
  intro c hc
  exact decide_eq_true fun hzero => h (hzero ▸ hc)

namespace TypedValue

/-- The text that a setter stores for the value. -/
def asText : TypedValue → Str
  | .int8 v => intText v.toInt
  | .int16 v => intText v.toInt
  | .int32 v => intText v.toInt
  | .int64 v => intText v.toInt
  | .uint8 v => intText v.toNat
  | .uint16 v => intText v.toNat
  | .uint32 v => intText v.toNat
  | .uint64 v => intText v.toNat
  | .boolean v => Text.ofBool v
  | .text v => v
  | .float _ | .double _ => []

/-- A value of one of the exact types, without a zero byte. -/
structure Plain (v : TypedValue) : Prop where
  exact : v.type.isExact = true
  zeroFree : ∀ t, v = .text t → 0 ∉ t

variable {v : TypedValue}

theorem ofBool_chars (b : Bool) : ∀ c ∈ Text.ofBool b, c ≠ 0 ∧ c ≠ 32 := by
  cases b <;> decide +kernel

theorem Plain.asText_zero (h : v.Plain) : 0 ∉ v.asText := by
  cases v with
  | text t => exact h.zeroFree t rfl
  | boolean b => exact fun hc => (ofBool_chars b 0 hc).1 rfl
  | float _ | double _ => exact List.not_mem_nil
  | _ => exact intText_zero _

theorem asText_blank (h : v.type.isNumeric = true) : 32 ∉ v.asText := by
  cases v with
  | text t => cases h
  | boolean b => cases h
  | float _ | double _ => exact List.not_mem_nil
  | _ => exact intText_blank _

variable {P : Platform}

theorem Plain.setValue_eq (h : v.Plain) {m : Metric} (htype : v.type = m.datatype) :
    m.setValue P v = m.setText v.asText := by
  have hexact := h.exact
  cases v with
  | text t => exact Metric.setString_of_string htype.symm t
  | float _ => cases hexact
  | double _ => cases hexact
  | _ => rfl

/-- A metric of the type reads its value from the text. -/
theorem Plain.typedValue_of_text (h : v.Plain) {m : Metric} (htype : m.datatype = v.type)
    (hvalue : m.value = v.asText) : m.typedValue P = v := by
  have hexact := h.exact
  unfold Metric.typedValue
  rw [htype, hvalue]
  cases v with
  | int8 v => exact congrArg _ (Text.valueInt8_intText v)
  | int16 v => exact congrArg _ (Text.valueInt16_intText v)
  | int32 v => exact congrArg _ (Text.valueInt32_intText v)
  | int64 v => exact congrArg _ (Text.valueInt64_intText v)
  | uint8 v => exact congrArg _ (Text.valueUInt8_intText v)
  | uint16 v => exact congrArg _ (Text.valueUInt16_intText v)
  | uint32 v => exact congrArg _ (Text.valueUInt32_intText v)
  | uint64 v => exact congrArg _ (Text.valueUInt64_intText v)
  | boolean v => exact congrArg _ (Text.valueBool_ofBool v)
  | text v => rfl
  | float _ => cases hexact
  | double _ => cases hexact

end TypedValue

/-- A value that is set in a metric, the text topic that publishes the metric alone, and a
subscriber whose topic has a fresh metric of the name and the datatype. -/
structure TextTrip (P : Platform) where
  metric : Metric
  value : TypedValue
  typed : value.type = metric.datatype
  plain : value.Plain
  topic : Topic P
  publishes : topic.publish = true
  isText : topic.isJson = false ∧ topic.isProtobuf = false
  named : topic.topicName ≠ []
  alone : topic.payload.metricList.entries.map Prod.snd = [metric.setValue P value]
  subscriber : TopicList P
  subscribed : Topic P
  found : subscriber.getTopic topic.topicName = some subscribed
  fresh : subscribed.payload.getMetric metric.name =
    some { name := metric.name, datatype := metric.datatype }
  now : UInt64

namespace TextTrip
variable {P : Platform} (trip : TextTrip P)

def freshMetric : Metric := { name := trip.metric.name, datatype := trip.metric.datatype }

/-- The message that `DoPublish` sends. -/
def sent : Option ClientMessage :=
  (MqttTopic.doPublish true trip.topic).2.map fun m =>
    ⟨m.topicName, trip.now, m.body, m.qos, m.retained⟩

/-- The subscriber's metric after that message. -/
def received : Option Metric :=
  trip.sent.bind fun m =>
    ((trip.subscriber.receiveMessage m).getTopic trip.topic.topicName).bind fun t =>
      t.payload.getMetric trip.metric.name

/-- The null flag comes back, and with a value that is not null the value and the unit. -/
def Returns : Prop := ∃ m, trip.received = some m ∧ m.isNull = trip.metric.isNull ∧
  (trip.metric.isNull = false → m.typedValue P = trip.value ∧
    (trip.value.type.isNumeric = true → m.unit P = trip.metric.unit P))

/-- The metric is found under the name of the topic, or it has the value without a message. -/
def Reaches : Prop := P.foldKey trip.metric.name = P.foldKey trip.topic.topicName ∨
  (Metric.timed P trip.metric.name trip.now trip.freshMetric).typedValue P = trip.value

/-- The text on the topic. -/
def body : Str := if trip.metric.isNull then [42] else trip.value.asText

theorem setValue_eq : trip.metric.setValue P trip.value =
    trip.metric.setText trip.value.asText := trip.plain.setValue_eq trip.typed

theorem sent_eq : ∃ qos retained,
    trip.sent = some ⟨trip.topic.topicName, trip.now, trip.body, qos, retained⟩ := by
  have hbody : trip.topic.payload.makeString = trip.body := by
    have hfields : trip.topic.payload.metricList.entries.map (fun e => Payload.stringField e.2) =
        (trip.topic.payload.metricList.entries.map Prod.snd).map Payload.stringField := by
      rw [List.map_map]
      rfl
    unfold Payload.makeString
    rw [hfields, trip.alone, trip.setValue_eq, List.map_singleton, List.intercalate_singleton]
    rfl
  refine ⟨trip.topic.qos, trip.topic.retained, ?_⟩
  unfold sent MqttTopic.doPublish MqttTopic.generate
  rw [trip.publishes, trip.isText.1, trip.isText.2]
  simp only [if_true, Bool.false_eq_true, if_false, Option.map_some]
  have hname : (trip.topic.onPayload Payload.generateText).topicName = trip.topic.topicName := rfl
  have hcached : (trip.topic.onPayload Payload.generateText).cacheTopic.topicName =
      trip.topic.topicName :=
    Topic.topicName_of_topic hname trip.named
  unfold Topic.message
  rw [hcached]
  exact congrArg some (congrArg
    (fun body => (⟨_, trip.now, body, trip.topic.qos, trip.topic.retained⟩ : ClientMessage)) hbody)

theorem received_eq : trip.received = some
    (if P.foldKey trip.metric.name = P.foldKey trip.topic.topicName then
      (Metric.timed P trip.metric.name trip.now trip.freshMetric).setString P (cString trip.body)
    else Metric.timed P trip.metric.name trip.now trip.freshMetric) := by
  obtain ⟨qos, retained, hsent⟩ := trip.sent_eq
  have htopic := TopicList.getTopic_receiveMessage_self
    (m := ⟨trip.topic.topicName, trip.now, trip.body, qos, retained⟩) trip.named trip.subscriber
  rw [trip.found, Option.getD_some] at htopic
  unfold received
  rw [hsent, Option.bind_some]
  dsimp only at htopic
  rw [htopic, Option.bind_some]
  refine (TopicList.getMetric_messageTopic
    ⟨trip.topic.topicName, trip.now, trip.body, qos, retained⟩ trip.subscribed _).trans ?_
  rw [trip.fresh]
  rfl

theorem timed_isNull (name : Str) (now : UInt64) (m : Metric) :
    (Metric.timed P name now m).isNull = m.isNull := by
  unfold Metric.timed
  split <;> rfl

theorem timed_unit (name : Str) (now : UInt64) (m : Metric) :
    (Metric.timed P name now m).unit P = m.unit P := by
  unfold Metric.timed
  split <;> rfl

/-- The subscriber's metric is never null. -/
theorem received_isNull {m : Metric} (h : trip.received = some m) : m.isNull = false := by
  have hfresh := timed_isNull (P := P) trip.metric.name trip.now trip.freshMetric
  rw [received_eq] at h
  rw [← Option.some.inj h]
  split
  · exact (Metric.setString_isNull P _ _).trans hfresh
  · exact hfresh

/-- A value that is not null arrives as its text, and without a unit. -/
theorem received_value (hnull : trip.metric.isNull = false) : ∃ m, trip.received = some m ∧
    m.unit P = [] ∧ (m.typedValue P = trip.value ↔ trip.Reaches) := by
  have hunit := timed_unit (P := P) trip.metric.name trip.now trip.freshMetric
  refine ⟨_, trip.received_eq, ?_⟩
  have hbody : cString trip.body = trip.value.asText := by
    unfold body
    rw [hnull]
    exact cString_eq trip.plain.asText_zero
  have htimed := Metric.timed_datatype P trip.metric.name trip.now trip.freshMetric
  rw [hbody]
  split
  · rename_i hfound
    have hfree : (Metric.timed P trip.metric.name trip.now trip.freshMetric).BlankFree
        trip.value.asText := by
      intro hnumeric
      rw [htimed] at hnumeric
      exact TypedValue.asText_blank (trip.typed ▸ hnumeric)
    rw [Metric.setString_eq P hfree]
    refine ⟨hunit, fun _ => .inl hfound, fun _ => ?_⟩
    exact trip.plain.typedValue_of_text (htimed.trans trip.typed.symm) rfl
  · rename_i hother
    exact ⟨hunit, .inr, fun h => h.resolve_left hother⟩

/-- A metric comes back exactly if it is not null, has no unit if it is numeric, and is found
under the name of the topic. -/
theorem returns_iff : trip.Returns ↔ trip.metric.isNull = false ∧
    (trip.value.type.isNumeric = true → trip.metric.unit P = []) ∧ trip.Reaches := by
  constructor
  · rintro ⟨m, hm, hsame, hvalue⟩
    have hnull : trip.metric.isNull = false := hsame.symm.trans (trip.received_isNull hm)
    obtain ⟨r, hr, hunit, hreaches⟩ := trip.received_value hnull
    obtain rfl : m = r := Option.some.inj (hm.symm.trans hr)
    obtain ⟨htyped, hsameUnit⟩ := hvalue hnull
    exact ⟨hnull, fun hnumeric => (hsameUnit hnumeric).symm.trans hunit, hreaches.mp htyped⟩
  · rintro ⟨hnull, hnoUnit, hreaches⟩
    obtain ⟨r, hr, hunit, hiff⟩ := trip.received_value hnull
    refine ⟨r, hr, (trip.received_isNull hr).trans hnull.symm, fun _ => ⟨hiff.mpr hreaches, ?_⟩⟩
    exact fun hnumeric => hunit.trans (hnoUnit hnumeric).symm

/-- A topic of the name with the metric alone, as `AddMetric` makes it. -/
def topicOf (m : Metric) : Topic P :=
  { TopicList.newTopic (P := P) m.name true with
    contentType := []
    payload := ({} : Payload P).addMetric m }

theorem topicOf_name {m : Metric} (hname : m.name ≠ []) : (topicOf (P := P) m).topicName = m.name :=
  TopicList.newTopic_topicName hname true

theorem topicOf_isText (m : Metric) :
    (topicOf (P := P) m).isJson = false ∧ (topicOf (P := P) m).isProtobuf = false :=
  ⟨decide_eq_false (by rw [topicOf, List.infix_nil]; decide),
    decide_eq_false (by rw [topicOf, List.infix_nil]; decide)⟩

theorem addMetric_alone {m : Metric} (hname : m.name ≠ []) :
    (({} : Payload P).addMetric m).metricList.entries = [(m.name, m)] := by
  unfold Payload.addMetric
  rw [if_neg hname]
  rfl

/-- A client that has added a metric tells it to one that has added a fresh metric of the name. -/
def ofMetric {m : Metric} {v : TypedValue} (typed : v.type = m.datatype) (plain : v.Plain)
    (hname : m.name ≠ []) (now : UInt64) : TextTrip P where
  metric := m
  value := v
  typed := typed
  plain := plain
  topic := topicOf (m.setValue P v)
  publishes := rfl
  isText := topicOf_isText _
  named := by
    have hsame : (m.setValue P v).name = m.name := by rw [plain.setValue_eq typed]; rfl
    rw [topicOf_name (hsame ▸ hname), hsame]
    exact hname
  alone := by
    have hsame : (m.setValue P v).name = m.name := by rw [plain.setValue_eq typed]; rfl
    rw [topicOf, addMetric_alone (hsame ▸ hname)]
    rfl
  subscriber := [topicOf { name := m.name, datatype := m.datatype }]
  subscribed := topicOf { name := m.name, datatype := m.datatype }
  found := by
    have hsame : (m.setValue P v).name = m.name := by rw [plain.setValue_eq typed]; rfl
    rw [topicOf_name (hsame ▸ hname), hsame]
    apply List.find?_cons_of_pos
    exact decide_eq_true (topicOf_name (m := { name := m.name, datatype := m.datatype }) hname).symm
  fresh := by
    unfold topicOf Payload.addMetric Payload.getMetric
    rw [if_neg hname]
    exact FoldedMap.get?_insert_self rfl
  now := now

theorem seven_plain : (TypedValue.int32 7).Plain := ⟨rfl, fun _ h => by cases h⟩

def pressure : Metric := { name := str "pressure", datatype := .int32 }

/-- Seven, with the unit bar. -/
def pressureTrip : TextTrip .reference :=
  ofMetric (m := pressure.setUnit .reference (str "bar")) rfl seven_plain (by decide +kernel) 1

/-- Seven, with the null flag. -/
def nullTrip : TextTrip .reference :=
  ofMetric (m := { pressure with isNull := true }) rfl seven_plain (by decide +kernel) 1

/-- Seven bar arrive without the unit, and a null value is not null any more. -/
theorem unit_and_null_are_lost : ¬ pressureTrip.Returns ∧ ¬ nullTrip.Returns := by
  constructor
  · rintro ⟨m, hm, -, hvalue⟩
    obtain ⟨r, hr, hunit, -⟩ := received_value pressureTrip rfl
    obtain rfl : m = r := Option.some.inj (hm.symm.trans hr)
    have hbar : m.unit .reference = (pressure.setUnit .reference (str "bar")).unit .reference :=
      (hvalue rfl).2 rfl
    rw [hunit] at hbar
    exact absurd hbar (by decide +kernel)
  · rintro ⟨m, hm, hnull, -⟩
    have hfalse := received_isNull nullTrip hm
    rw [hnull] at hfalse
    cases hfalse

end TextTrip
end PubSub
