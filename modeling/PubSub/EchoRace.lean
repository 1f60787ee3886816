import PubSub.FailedPublish
import PubSub.ReceivedValues

/-!
# The echo of a local write

A client that publishes a topic and subscribes to it gets its own messages back. An echo sets
the metric like any other message, so one that is older than the last write puts an old value
back and raises the update flag. The last write survives as long as no publish call sends such
a value on.
-/

namespace PubSub
set_option autoImplicit false

/-- What `Value(std::string)` takes of a text for the value. -/
def MetricType.valueText (type : MetricType) (text : Str) : Str :=
  if type.isNumeric then text.takeWhile (· ≠ 32) else text

namespace Metric
variable {P : Platform}

theorem addProperty_value (m : Metric) (p : MetricProperty) :
    (m.addProperty P p).value = m.value := by rw [addProperty_eq]

theorem addProperty_updated (m : Metric) (p : MetricProperty) :
    (m.addProperty P p).updated = m.updated := by rw [addProperty_eq]

theorem setString_text (m : Metric) (text : Str) :
    (m.setString P text).value = m.datatype.valueText text ∧
      (m.setString P text).updated = (m.updated || m.datatype.valueText text != m.value) := by
  by_cases hunit : (m.datatype.isNumeric && text.contains 32) = true
  · have hnumeric := (Bool.and_eq_true_iff.mp hunit).1
    have htext : m.datatype.valueText text = text.takeWhile (· ≠ 32) := if_pos hnumeric
    unfold setString
    rw [if_pos hunit, htext]
    cases m.getProperty P (str "unit") with
    | none =>
      refine ⟨rfl, ?_⟩
      dsimp only
      rw [setText_updated, setUnit, addProperty_updated, addProperty_value]
    | some _ => exact ⟨rfl, rfl⟩
  · have hfree : m.BlankFree text := by
      intro hnumeric hblank
      exact hunit (Bool.and_eq_true_iff.mpr ⟨hnumeric, List.contains_iff_mem.mpr hblank⟩)
    have htext : m.datatype.valueText text = text := by
      unfold MetricType.valueText
      split
      · rename_i hnumeric
        apply List.takeWhile_eq_self_iff.mpr
        intro c hc
        exact decide_eq_true fun h => hfree hnumeric (h ▸ hc)
      · rfl
    rw [setString_eq P hfree, htext]
    exact ⟨rfl, rfl⟩

theorem timed_setString (name : Str) (now : UInt64) (m : Metric) (text : Str) :
    ((timed P name now m).setString P text).datatype = m.datatype ∧
    ((timed P name now m).setString P text).value = m.datatype.valueText text ∧
    (m.updated = true ∨ m.datatype.valueText text ≠ m.value →
      ((timed P name now m).setString P text).updated = true) := by
  have htype := timed_datatype P name now m
  obtain ⟨hvalue, hupdated⟩ := setString_text (P := P) (timed P name now m) text
  rw [htype] at hvalue hupdated
  refine ⟨?_, hvalue, fun h => ?_⟩
  · exact (congrArg (fun i => i.2.2) (setString_identity P (timed P name now m) text)).trans htype
  · rw [hupdated]
    unfold timed
    split
    · rcases h with h | h
      · simp [setInt, h]
      · by_cases hnow : m.datatype.valueText text = DecimalText.intText now.toNat
        · have hchanged : (DecimalText.intText now.toNat != m.value) = true :=
            bne_iff_ne.mpr (hnow ▸ h)
          simp [setInt, hchanged]
        · simp [setInt, bne_iff_ne.mpr hnow]
    · rcases h with h | h
      · simp [h]
      · simp [bne_iff_ne.mpr h]

end Metric

namespace Topic
variable {P : Platform}

/-- The values and datatypes of the metrics; publishing changes neither. -/
def stored (t : Topic P) : FoldedMap P.foldKey (Str × MetricType) :=
  t.payload.metricList.view fun m => (m.value, m.datatype)

theorem stored_mapValues {t after : Topic P} {f : Str → Metric → Metric}
    (hf : ∀ k m, (f k m).value = m.value ∧ (f k m).datatype = m.datatype)
    (h : after.payload.metricList = t.payload.metricList.mapValues f) :
    after.stored = t.stored := by
  unfold stored
  rw [h]
  apply FoldedMap.ext
  simp [Entries.mapValues, List.map_map, Function.comp_def, hf]

theorem stored_generate (t : Topic P) : (MqttTopic.generate t).stored = t.stored := by
  unfold MqttTopic.generate
  split
  · rfl
  · split
    · refine stored_mapValues (f := fun k m =>
        if PayloadHelper.includes false (k, m) then { m with updated := false } else m) ?_ rfl
      intro k m
      split
      · exact ⟨rfl, rfl⟩
      · exact ⟨rfl, rfl⟩
    · rfl

theorem topicName_generate (t : Topic P) : (MqttTopic.generate t).topicName = t.topicName := by
  unfold MqttTopic.generate
  split
  · rfl
  · split <;> rfl

theorem attempt_mqtt (sent : Bool) (t : Topic P) :
    (PublishCall.publishTopics.attempt .mqtt sent t).topicName = t.topicName ∧
      (PublishCall.publishTopics.attempt .mqtt sent t).stored = t.stored := by
  unfold PublishCall.attempt
  split
  · change (MqttTopic.doPublish sent t.resetUpdated).1.topicName = t.topicName ∧
      (MqttTopic.doPublish sent t.resetUpdated).1.stored = t.stored
    have hreset : t.resetUpdated.stored = t.stored :=
      stored_mapValues (f := fun _ m => { m with updated := false }) (fun _ _ => ⟨rfl, rfl⟩) rfl
    have hname := topicName_cacheTopic (MqttTopic.generate t.resetUpdated)
    have hstored := (stored_generate t.resetUpdated).trans hreset
    unfold MqttTopic.doPublish
    split
    · cases sent with
      | true => exact ⟨hname.trans (topicName_generate _), hstored⟩
      | false =>
        refine ⟨hname.trans (topicName_generate _), Eq.trans ?_ hstored⟩
        exact stored_mapValues (f := fun _ m => { m with valid := false })
          (fun _ _ => ⟨rfl, rfl⟩) rfl
    · exact ⟨rfl, hreset⟩
  · exact ⟨rfl, rfl⟩

end Topic

namespace TopicList
variable {P : Platform}

theorem getTopic_forall₂ {R : Topic P → Topic P → Prop}
    (hname : ∀ t after, R t after → after.topicName = t.topicName) {list changed : TopicList P}
    (h : List.Forall₂ R list changed) {name : Str} {t : Topic P}
    (ht : list.getTopic name = some t) : ∃ after, changed.getTopic name = some after ∧
      R t after := by
  refine find?_forall₂ (fun s t hst => ?_) h ht
  unfold ClientSys.hasName
  rw [hname s t hst]

end TopicList

inductive EchoEvent where
  | write (v : TypedValue)
  | writeChars (text : Str)
  | publish (sent : Bool)
  | deliver (now : UInt64) (qos : QualityOfService) (retained : Bool)

/-- The topics of the client, its messages on their way back, the value written last, and
whether a message with another value has come since. -/
structure EchoState (P : Platform) where
  topicList : TopicList P
  inFlight : List MqttMessage := []
  written : Option Str := none
  overwritten : Bool := false

namespace EchoState
variable {P : Platform}

/-- The client after `AddMetric`, its topic with any content type. -/
def start (m : Metric) (contentType : Str) : EchoState P where
  topicList := (TopicList.withMetrics [m]).map fun t => { t with contentType := contentType }

variable (m : Metric)

def metric (s : EchoState P) : Option Metric := (s.topicList.slot m.name).join

/-- A write through the metric that the application holds. -/
def write (f : Metric → Metric) (s : EchoState P) : EchoState P :=
  let topicList := ClientSys.updateTopic m.name
    (fun t => t.onPayload fun p => p.updateMetric m.name f) s.topicList
  { s with
    topicList := topicList
    written := ((topicList.slot m.name).join).map Metric.value
    overwritten := false }

/-- `PublishTopics`; the broker accepts the message of the topic or it does not. -/
def publish (sent : Bool) (s : EchoState P) : EchoState P :=
  let published := (publishTopics MqttTopic.publishStep [sent] s.topicList).2
  { s with
    topicList := published.map Prod.fst
    inFlight := s.inFlight ++ if sent then published.filterMap Prod.snd else [] }

def deliver (now : UInt64) (qos : QualityOfService) (retained : Bool) (s : EchoState P) :
    EchoState P :=
  match s.inFlight with
  | [] => s
  | message :: rest =>
    { s with
      topicList := s.topicList.receiveMessage ⟨message.topicName, now, message.body, qos, retained⟩
      inFlight := rest
      overwritten := if message.topicName = m.name then
          s.written.any fun text => m.datatype.valueText (cString message.body) != text
        else s.overwritten }

def step (s : EchoState P) : EchoEvent → EchoState P
  | .write v => s.write m fun a => a.setValue P v
  | .writeChars text => s.write m fun a => a.setText text
  | .publish sent => s.publish sent
  | .deliver now qos retained => s.deliver m now qos retained

/-- No publish call sends a value on that an echo has put over the last write. -/
def Keeps (s : EchoState P) (e : EchoEvent) : Prop :=
  ∀ sent, e = .publish sent → s.overwritten = false

/-- No message is in flight and no metric is flagged. -/
def Settled (s : EchoState P) : Prop :=
  s.inFlight = [] ∧ ∀ t ∈ s.topicList, t.isUpdated = false

/-- The metric has the last write, or another value that is flagged. -/
structure Shows (s : EchoState P) (a : Metric) : Prop where
  datatype : a.datatype = m.datatype
  kept : ∀ text, s.written = some text → s.overwritten = false → a.value = text
  flagged : s.overwritten = true → s.written.isSome = true ∧ a.updated = true

def Inv (s : EchoState P) : Prop :=
  ∃ a, s.topicList.slot m.name = some (some a) ∧ s.Shows m a

variable {m : Metric}

theorem slot_updateMetric (name : Str) (f : Metric → Metric) (list : TopicList P) :
    TopicList.slot name (ClientSys.updateTopic name
      (fun t => t.onPayload fun p => p.updateMetric name f) list) =
        (list.slot name).map fun metric => metric.map f := by
  unfold TopicList.slot
  have hupdated := @TopicList.getTopic_updateTopic_self P name
    (fun t => t.onPayload fun p => p.updateMetric name f) (fun _ => rfl) list
  rw [hupdated, Option.map_map, Option.map_map]
  cases list.getTopic name with
  | none => rfl
  | some t => exact congrArg some (FoldedMap.get?_update_self t.payload.metricList name f)

theorem inv_start (hname : m.name ≠ []) (contentType : Str) :
    Inv m (start (P := P) m contentType) := by
  have hslot : TopicList.slot m.name (TopicList.withMetrics (P := P) [m]) = some (some m) :=
    TopicList.slot_addMetric_self hname []
  refine ⟨m, ?_, rfl, fun _ h _ => (by cases h), fun h => (by cases h)⟩
  obtain ⟨t, ht, hmetric⟩ := Option.map_eq_some_iff.mp hslot
  obtain ⟨after, hafter, hpayload, -⟩ := TopicList.getTopic_forall₂
    (R := fun t after => after.payload = t.payload ∧ after.topicName = t.topicName)
    (fun _ _ h => h.2) (List.forall₂_map_right_iff.mpr (List.forall₂_same.mpr
      fun t _ => ⟨rfl, rfl⟩) : List.Forall₂ _ _ (start (P := P) m contentType).topicList) ht
  refine Option.map_eq_some_iff.mpr ⟨after, hafter, ?_⟩
  rw [hpayload]
  exact hmetric

theorem inv_write {s : EchoState P} (h : s.Inv m) {f : Metric → Metric}
    (hf : ∀ a, (f a).datatype = a.datatype) : (s.write m f).Inv m := by
  obtain ⟨a, ha, hshows⟩ := h
  have hslot := slot_updateMetric m.name f s.topicList
  rw [ha] at hslot
  refine ⟨f a, hslot, (hf a).trans hshows.datatype, ?_, fun h => by cases h⟩
  intro text htext _
  unfold write at htext
  dsimp only at htext
  rw [hslot] at htext
  exact Option.some.inj htext

theorem inv_deliver {s : EchoState P} (h : s.Inv m) (hname : m.name ≠ []) (now : UInt64)
    (qos : QualityOfService) (retained : Bool) : (s.deliver m now qos retained).Inv m := by
  obtain ⟨a, ha, hshows⟩ := h
  unfold deliver
  split
  · exact ⟨a, ha, hshows⟩
  · rename_i message rest _
    by_cases hsame : message.topicName = m.name
    · have hslot := TopicList.slot_receiveMessage_self
        (m := ⟨message.topicName, now, message.body, qos, retained⟩) (hsame ▸ hname) s.topicList
      obtain ⟨htype, hvalue, hflagged⟩ := Metric.timed_setString (P := P) message.topicName now a
        (cString message.body)
      dsimp only at hslot
      rw [hsame, ha, Option.getD_some, Option.map_some, ← hsame] at hslot
      rw [hshows.datatype] at htype hvalue hflagged
      refine ⟨_, hsame ▸ hslot, htype, ?_, ?_⟩
      · intro text htext hkept
        dsimp only at htext hkept
        rw [if_pos hsame, htext, Option.any_some] at hkept
        exact hvalue.trans (by simpa using hkept)
      · intro hover
        dsimp only at hover ⊢
        rw [if_pos hsame] at hover
        cases hwritten : s.written with
        | none =>
          rw [hwritten] at hover
          cases hover
        | some text =>
          rw [hwritten, Option.any_some] at hover
          refine ⟨rfl, hflagged ?_⟩
          cases hold : s.overwritten with
          | true => exact .inl (hshows.flagged hold).2
          | false =>
            rw [hshows.kept text hwritten hold]
            exact .inr (by simpa using hover)
    · refine ⟨a, ?_, hshows.datatype, ?_, ?_⟩
      · exact (TopicList.slot_receiveMessage_ne (Ne.symm hsame) s.topicList).trans ha
      · dsimp only
        rw [if_neg hsame]
        exact hshows.kept
      · dsimp only
        rw [if_neg hsame]
        exact hshows.flagged

theorem inv_publish {s : EchoState P} (h : s.Inv m) (hkept : s.overwritten = false)
    (sent : Bool) : (s.publish sent).Inv m := by
  obtain ⟨a, ha, hshows⟩ := h
  obtain ⟨t, ht, hmetric⟩ := Option.map_eq_some_iff.mp ha
  have hattempts := (publishTopics_mqtt [sent] s.topicList).imp
    (S := fun t published => ∃ ok,
      published.1 = PublishCall.publishTopics.attempt .mqtt ok t)
    fun _ _ ⟨ok, h⟩ => ⟨ok, congrArg Prod.fst h⟩
  obtain ⟨after, hafter, ok, rfl⟩ := TopicList.getTopic_forall₂
    (R := fun t after => ∃ ok, after = PublishCall.publishTopics.attempt .mqtt ok t)
    (fun t _ ⟨ok, h⟩ => h ▸ (Topic.attempt_mqtt ok t).1) (List.forall₂_map_right_iff.mpr hattempts)
    ht
  have hstored := congrArg (fun list => list.get? m.name) (Topic.attempt_mqtt ok t).2
  unfold Topic.stored at hstored
  rw [FoldedMap.get?_view, FoldedMap.get?_view] at hstored
  unfold Payload.getMetric at hmetric
  rw [hmetric, Option.map_some] at hstored
  obtain ⟨b, hb, hsame⟩ := Option.map_eq_some_iff.mp hstored
  obtain ⟨hvalue, htype⟩ := Prod.mk.inj hsame
  refine ⟨b, Option.map_eq_some_iff.mpr ⟨_, hafter, hb⟩, htype.trans hshows.datatype, ?_, ?_⟩
  · exact fun text htext _ => hvalue.trans (hshows.kept text htext hkept)
  · intro hover
    cases hkept.symm.trans hover

theorem inv_step (hname : m.name ≠ []) (s : EchoState P) (e : EchoEvent) (h : s.Inv m)
    (hkeeps : s.Keeps e) : (s.step m e).Inv m := by
  cases e with
  | write v => exact inv_write h fun a => congrArg (fun i => i.2.2) (a.setValue_identity v)
  | writeChars text => exact inv_write h fun _ => rfl
  | publish sent => exact inv_publish h (hkeeps sent rfl) sent
  | deliver now qos retained => exact inv_deliver h hname now qos retained

/-- A metric that is not flagged has the last write. -/
theorem Shows.value {s : EchoState P} {a : Metric} (h : s.Shows m a) (hclean : a.updated = false)
    {text : Str} (htext : s.written = some text) : a.value = text := by
  apply h.kept text htext
  cases hover : s.overwritten with
  | false => rfl
  | true => exact absurd ((h.flagged hover).2.symm.trans hclean) (by decide)

theorem not_flagged {list : TopicList P} (h : ∀ t ∈ list, t.isUpdated = false) {name : Str}
    {a : Metric} (ha : list.slot name = some (some a)) : a.updated = false := by
  obtain ⟨t, ht, hmetric⟩ := Option.map_eq_some_iff.mp ha
  obtain ⟨k, he, -⟩ := FoldedMap.get?_mem hmetric
  by_contra hflagged
  have hupdated : t.isUpdated = true :=
    List.any_eq_true.mpr ⟨(k, a), he, by simpa using hflagged⟩
  rw [h t (List.mem_of_find?_eq_some ht)] at hupdated
  cases hupdated

/-- The last write is in the metric once the client has settled, if no publish call sent a
value on that an echo had put over the write. -/
theorem last_write_stays (hname : m.name ≠ []) (contentType : Str) {es : List EchoEvent}
    (hkeeps : RunOk (step m) Keeps (start (P := P) m contentType) es)
    (hsettled : (run (step m) (start (P := P) m contentType) es).Settled) :
    ∀ text, (run (step m) (start (P := P) m contentType) es).written = some text →
      ∃ a, (run (step m) (start (P := P) m contentType) es).metric m = some a ∧
        a.value = text := by
  intro text htext
  obtain ⟨a, ha, hshows⟩ := run_invariant (inv_step hname) (inv_start hname contentType) hkeeps
  refine ⟨a, ?_, hshows.value (not_flagged hsettled.2 ha) htext⟩
  unfold metric
  rw [ha]
  rfl

def level : Metric := { name := str "tank/level", datatype := .int32 }

def calm : List EchoEvent :=
  [.write (.int32 1), .publish true, .deliver 10 .qos0 false,
    .write (.int32 2), .publish true, .deliver 20 .qos0 false]

/-- The echo of the first write comes back after the second write. -/
def hasty : List EchoEvent :=
  [.write (.int32 1), .publish true, .write (.int32 2), .deliver 10 .qos0 false,
    .publish true, .deliver 20 .qos0 false]

instance (s : EchoState P) (e : EchoEvent) : Decidable (s.Keeps e) :=
  match e with
  | .publish _ => decidable_of_iff (s.overwritten = false)
      ⟨fun h _ _ => h, fun h => h _ rfl⟩
  | .write _ | .writeChars _ | .deliver _ _ _ => .isTrue fun _ h => by cases h

instance (s : EchoState P) : Decidable s.Settled := inferInstanceAs (Decidable (_ ∧ _))

theorem calm_keeps_level :
    ∃ a, (run (step level) (start (P := .reference) level []) calm).metric level = some a ∧
      a.value = str "2" :=
  last_write_stays (by decide +kernel) [] (by decide +kernel) (by decide +kernel) (str "2")
    (by decide +kernel)

/-- The first value is back when the client has settled. -/
theorem hasty_write_is_undone :
    (run (step level) (start (P := .reference) level []) hasty).Settled ∧
    (run (step level) (start (P := .reference) level []) hasty).written = some (str "2") ∧
    ((run (step level) (start (P := .reference) level []) hasty).metric level).map Metric.value =
      some (str "1") := by
  decide +kernel

end EchoState
end PubSub
