import PubSub.ClientTask
import PubSub.Reference

/-!
# The values that a plain client has received

A message for a topic that has a metric of its name sets that metric. A message for any other
topic makes up a metric, sets it and throws it away, so a client keeps the values of the topics
that its application added and no others.
-/

namespace PubSub
set_option autoImplicit false

/-- A message as it reaches a plain client. -/
structure ClientMessage where
  topicName : Str
  now : UInt64
  body : BodyList
  qos : QualityOfService := .qos0
  retained : Bool := false

/-- A metric under the name when the time of its payload is set. -/
def Metric.timed (P : Platform) (name : Str) (now : UInt64) (m : Metric) : Metric :=
  { (if P.foldKey name = P.foldKey (str "timestamp") then m.setInt now.toNat else m) with
    timestamp := now }

theorem Metric.timed_datatype (P : Platform) (name : Str) (now : UInt64) (m : Metric) :
    (Metric.timed P name now m).datatype = m.datatype := by
  unfold Metric.timed
  split <;> rfl

namespace TopicList
variable {P : Platform}

def getTopic (name : Str) (list : TopicList P) : Option (Topic P) :=
  list.find? (ClientSys.hasName name)

/-- The topics of a client after a message. -/
def receiveMessage (list : TopicList P) (m : ClientMessage) : TopicList P :=
  if m.topicName = [] then list
  else ClientSys.updateTopic m.topicName
    (ClientSys.messageTopic m.topicName m.now m.body m.qos m.retained)
    (ClientSys.ensureTopic m.topicName false list)

def withMetrics (metrics : List Metric) : TopicList P :=
  metrics.foldl (fun list m => ClientSys.addMetric m list) []

/-- The metric that the topic of a name has under the same name, if there is a topic. -/
def slot (name : Str) (list : TopicList P) : Option (Option Metric) :=
  (list.getTopic name).map fun t => t.payload.getMetric name

/-- The topic that `CreateTopic` and `Topic(name)` make. -/
def newTopic (name : Str) (publish : Bool) : Topic P :=
  { (({} : Topic P).setTopic name) with publish := publish }

theorem newTopic_topicName {name : Str} (hne : name ≠ []) (publish : Bool) :
    (newTopic (P := P) name publish).topicName = name :=
  Topic.topicName_of_topic (Topic.setTopic_topic name _) hne

theorem newTopic_payload (name : Str) (publish : Bool) :
    (newTopic (P := P) name publish).payload = {} := Topic.setTopic_payload name _

theorem getTopic_ensureTopic_self {name : Str} (hne : name ≠ []) (publish : Bool)
    (list : TopicList P) : getTopic name (ClientSys.ensureTopic name publish list) =
      some ((list.getTopic name).getD (newTopic name publish)) := by
  unfold ClientSys.ensureTopic
  split
  · rename_i hany
    obtain ⟨t, ht⟩ := Option.isSome_iff_exists.mp (List.find?_isSome.mpr (List.any_eq_true.mp hany))
    have hfound : list.getTopic name = some t := ht
    rw [hfound, Option.getD_some]
  · rename_i hnone
    have hfound : list.getTopic name = none := by
      rw [getTopic, List.find?_eq_none]
      intro t ht hnamed
      exact hnone (List.any_eq_true.mpr ⟨t, ht, hnamed⟩)
    have hnew : ClientSys.hasName name (newTopic (P := P) name publish) = true :=
      decide_eq_true (newTopic_topicName hne publish).symm
    rw [hfound, Option.getD_none, getTopic, List.find?_append]
    rw [getTopic] at hfound
    rw [hfound, Option.none_or]
    exact List.find?_cons_of_pos hnew

theorem getTopic_ensureTopic_ne {name other : Str} (hne : name ≠ []) (h : other ≠ name)
    (publish : Bool) (list : TopicList P) :
    getTopic other (ClientSys.ensureTopic name publish list) = list.getTopic other := by
  unfold ClientSys.ensureTopic
  split
  · rfl
  · have hnew : ClientSys.hasName other (newTopic (P := P) name publish) = false :=
      decide_eq_false fun heq => h (heq.trans (newTopic_topicName hne publish))
    rw [getTopic, List.find?_append]
    have hrest : List.find? (ClientSys.hasName other) [newTopic (P := P) name publish] = none := by
      simp [hnew]
    exact (congrArg (Option.or _) hrest).trans (Option.or_none)

theorem getTopic_updateTopic_self {name : Str} {f : Topic P → Topic P}
    (hf : ∀ t, (f t).topicName = t.topicName) (list : TopicList P) :
    getTopic name (ClientSys.updateTopic name f list) = (list.getTopic name).map f := by
  induction list with
  | nil => rfl
  | cons a as ih =>
    unfold ClientSys.updateTopic getTopic at ih ⊢
    cases ha : ClientSys.hasName name a with
    | true =>
      have hfa : ClientSys.hasName name (f a) = true := by
        rw [ClientSys.hasName, hf]
        exact ha
      simp [List.findIdx_cons, ha, hfa]
    | false => simp [List.findIdx_cons, ha, ih]

theorem getTopic_updateTopic_ne {name other : Str} (h : other ≠ name) {f : Topic P → Topic P}
    (hf : ∀ t, (f t).topicName = t.topicName) (list : TopicList P) :
    getTopic other (ClientSys.updateTopic name f list) = list.getTopic other := by
  induction list with
  | nil => rfl
  | cons a as ih =>
    unfold ClientSys.updateTopic getTopic at ih ⊢
    cases ha : ClientSys.hasName name a with
    | true =>
      have hname : name = a.topicName := of_decide_eq_true ha
      have hother : ClientSys.hasName other a = false :=
        decide_eq_false fun heq => h (heq.trans hname.symm)
      have hfa : ClientSys.hasName other (f a) = false := by
        rw [ClientSys.hasName, hf]
        exact hother
      simp [List.findIdx_cons, ha, hfa, hother]
    | false =>
      simp [List.findIdx_cons, ha, List.find?_cons, ih]

/-- The time of a message is set in all the metrics, and it is the value of a metric of the
name `timestamp`. -/
theorem getMetric_timed (name : Str) (body : BodyList) (now : UInt64) (p : Payload P) :
    (({ p with body := body } : Payload P).setTimestamp now true).getMetric name =
      (p.getMetric name).map (Metric.timed P name now) := by
  have hall := FoldedMap.get?_mapValues_all
    (p.metricList.update (str "timestamp") fun m => m.setInt now.toNat)
    (fun m : Metric => { m with timestamp := now }) name
  refine hall.trans ?_
  rw [FoldedMap.get?_update]
  unfold Metric.timed Payload.getMetric
  split
  · rw [Option.map_map]
    rfl
  · rfl

theorem getMetric_messageTopic (m : ClientMessage) (t : Topic P) (name : Str) :
    (ClientSys.messageTopic m.topicName m.now m.body m.qos m.retained t).payload.getMetric name =
      (t.payload.getMetric name).map fun a =>
        if P.foldKey name = P.foldKey m.topicName then
          (Metric.timed P name m.now a).setString P (cString m.body)
        else Metric.timed P name m.now a := by
  have hupdated := FoldedMap.get?_update
    (({ t.payload with body := m.body } : Payload P).setTimestamp m.now true).metricList
    m.topicName name (fun a => a.setString P (cString m.body))
  have htimed := getMetric_timed name m.body m.now t.payload
  refine hupdated.trans ?_
  unfold Payload.getMetric at htimed ⊢
  rw [htimed]
  split
  · rw [Option.map_map]
    rfl
  · rfl

theorem topicName_messageTopic (m : ClientMessage) (t : Topic P) :
    (ClientSys.messageTopic m.topicName m.now m.body m.qos m.retained t).topicName =
      t.topicName := rfl

theorem getTopic_receiveMessage_self {m : ClientMessage} (hne : m.topicName ≠ [])
    (list : TopicList P) : (list.receiveMessage m).getTopic m.topicName =
      some (ClientSys.messageTopic m.topicName m.now m.body m.qos m.retained
        ((list.getTopic m.topicName).getD (newTopic m.topicName false))) := by
  unfold receiveMessage
  rw [if_neg hne, getTopic_updateTopic_self (topicName_messageTopic m),
    getTopic_ensureTopic_self hne, Option.map_some]

theorem slot_receiveMessage_self {m : ClientMessage} (hne : m.topicName ≠ [])
    (list : TopicList P) : (list.receiveMessage m).slot m.topicName =
      some (((list.slot m.topicName).getD none).map fun a =>
        (Metric.timed P m.topicName m.now a).setString P (cString m.body)) := by
  have hpayload : ((list.getTopic m.topicName).getD (newTopic m.topicName false)).payload.getMetric
      m.topicName = (list.slot m.topicName).getD none := by
    unfold slot
    cases list.getTopic m.topicName with
    | none => rw [Option.getD_none, newTopic_payload]; rfl
    | some t => rfl
  unfold slot at hpayload ⊢
  rw [getTopic_receiveMessage_self hne, Option.map_some, getMetric_messageTopic, hpayload]
  simp only [if_true]

theorem slot_receiveMessage_ne {m : ClientMessage} {name : Str} (h : name ≠ m.topicName)
    (list : TopicList P) : (list.receiveMessage m).slot name = list.slot name := by
  unfold receiveMessage
  split
  · rfl
  · rename_i hne
    unfold slot
    rw [getTopic_updateTopic_ne h (topicName_messageTopic m), getTopic_ensureTopic_ne hne h]

theorem slot_addMetric_self {m : Metric} (hne : m.name ≠ []) (list : TopicList P) :
    slot m.name (ClientSys.addMetric m list) =
      some (some (((list.slot m.name).getD none).getD m)) := by
  have hfound := getTopic_ensureTopic_self hne true list
  have hupdated := @getTopic_updateTopic_self P m.name
    (fun t => t.onPayload fun p => (p.stringToBody (m.getMqttString P)).addMetric m)
    (fun _ => rfl) (ClientSys.ensureTopic m.name true list)
  rw [hfound, Option.map_some] at hupdated
  have hpayload : ((list.getTopic m.name).getD (newTopic m.name true)).payload.getMetric m.name =
      (list.slot m.name).getD none := by
    unfold slot
    cases list.getTopic m.name with
    | none => rw [Option.getD_none, newTopic_payload]; rfl
    | some t => rfl
  have hadded : ∀ p : Payload P, (p.addMetric m).getMetric m.name =
      some ((p.getMetric m.name).getD m) := by
    intro p
    unfold Payload.addMetric Payload.getMetric
    rw [if_neg hne]
    cases hold : p.metricList.get? m.name with
    | none => exact FoldedMap.get?_insert_self hold
    | some a => exact FoldedMap.get?_insert_of_some hold
  unfold ClientSys.addMetric
  rw [if_neg hne]
  unfold slot at hpayload ⊢
  rw [hupdated, Option.map_some, ← hpayload]
  exact congrArg some (hadded _)

theorem slot_addMetric_ne {m : Metric} {name : Str} (h : name ≠ m.name) (list : TopicList P) :
    slot name (ClientSys.addMetric m list) = list.slot name := by
  unfold ClientSys.addMetric
  split
  · rfl
  · rename_i hne
    have hupdated := @getTopic_updateTopic_ne P m.name name h
      (fun t => t.onPayload fun p => (p.stringToBody (m.getMqttString P)).addMetric m)
      (fun _ => rfl) (ClientSys.ensureTopic m.name true list)
    unfold slot
    rw [hupdated, getTopic_ensureTopic_ne hne h]

/-- The metrics that stand under the names of their topics are texts. -/
def TextSlots (list : TopicList P) : Prop :=
  ∀ name m, list.slot name = some (some m) → m.datatype = .string

theorem TextSlots.addMetric {list : TopicList P} (h : list.TextSlots) {m : Metric}
    (htype : m.datatype = .string) : TextSlots (ClientSys.addMetric m list) := by
  intro name a ha
  by_cases hempty : m.name = []
  · have hsame : ClientSys.addMetric m list = list := if_pos hempty
    rw [hsame] at ha
    exact h name a ha
  · by_cases hname : name = m.name
    · rw [hname, slot_addMetric_self hempty] at ha
      rw [← Option.some.inj (Option.some.inj ha)]
      cases hslot : list.slot m.name with
      | none => exact htype
      | some old =>
        cases old with
        | none => exact htype
        | some b => exact h m.name b hslot
    · rw [slot_addMetric_ne hname] at ha
      exact h name a ha

/-- The name has a topic with a metric of its name. -/
def Known (name : Str) (list : TopicList P) : Prop := ∃ m, list.slot name = some (some m)

theorem known_addMetric {name : Str} (hname : name ≠ []) {m : Metric} {list : TopicList P}
    (h : list.Known name ∨ m.name = name) : Known name (ClientSys.addMetric m list) := by
  by_cases hsame : name = m.name
  · subst hsame
    exact ⟨_, slot_addMetric_self hname list⟩
  · obtain ⟨a, ha⟩ := h.resolve_right fun heq => hsame heq.symm
    exact ⟨a, (slot_addMetric_ne hsame list).trans ha⟩

theorem withMetrics_spec (metrics : List Metric) (hstring : ∀ m ∈ metrics, m.datatype = .string) :
    TextSlots (withMetrics (P := P) metrics) ∧ ∀ name,
      ((∃ m ∈ metrics, m.name = name) ∧ name ≠ [] → Known name (withMetrics (P := P) metrics)) ∧
      (¬ ((∃ m ∈ metrics, m.name = name) ∧ name ≠ []) →
        slot name (withMetrics (P := P) metrics) = none) := by
  have hfold : ∀ list : TopicList P, list.TextSlots →
      TextSlots (metrics.foldl (fun list m => ClientSys.addMetric m list) list) ∧ ∀ name,
        ((list.Known name ∨ ∃ m ∈ metrics, m.name = name) ∧ name ≠ [] →
          Known name (metrics.foldl (fun list m => ClientSys.addMetric m list) list)) ∧
        (¬ ((∃ m ∈ metrics, m.name = name) ∧ name ≠ []) →
          slot name (metrics.foldl (fun list m => ClientSys.addMetric m list) list) =
            list.slot name) := by
    induction metrics with
    | nil =>
      intro list hlist
      refine ⟨hlist, fun name => ⟨?_, fun _ => rfl⟩⟩
      rintro ⟨h | ⟨m, hm, -⟩, -⟩
      · exact h
      · cases hm
    | cons m metrics ih =>
      intro list hlist
      obtain ⟨htext, hnames⟩ := ih (fun a ha => hstring a (List.mem_cons_of_mem m ha))
        (ClientSys.addMetric m list) (hlist.addMetric (hstring m List.mem_cons_self))
      refine ⟨htext, fun name => ⟨?_, ?_⟩⟩
      · rintro ⟨h, hname⟩
        refine (hnames name).1 ⟨?_, hname⟩
        rcases h with h | ⟨a, ha, hanamed⟩
        · exact .inl (known_addMetric hname (.inl h))
        · rcases List.mem_cons.mp ha with rfl | ha
          · exact .inl (known_addMetric hname (.inr hanamed))
          · exact .inr ⟨a, ha, hanamed⟩
      · intro hnot
        have hrest : ¬ ((∃ a ∈ metrics, a.name = name) ∧ name ≠ []) := by
          rintro ⟨⟨a, ha, hanamed⟩, hname⟩
          exact hnot ⟨⟨a, List.mem_cons_of_mem m ha, hanamed⟩, hname⟩
        refine ((hnames name).2 hrest).trans ?_
        by_cases hempty : m.name = []
        · exact congrArg (slot name) (if_pos hempty : ClientSys.addMetric m list = list)
        · apply slot_addMetric_ne
          intro heq
          exact hnot ⟨⟨m, List.mem_cons_self, heq.symm⟩, heq ▸ hempty⟩
  have hempty : TextSlots ([] : TopicList P) := fun _ _ h => by cases h
  obtain ⟨htext, hnames⟩ := hfold [] hempty
  refine ⟨htext, fun name => ⟨?_, ?_⟩⟩
  · rintro ⟨h, hname⟩
    exact (hnames name).1 ⟨.inr h, hname⟩
  · exact (hnames name).2

/-- The text of the last message of a name. -/
def lastText (name : Str) (ms : List ClientMessage) : Option Str :=
  ((ms.filter fun m => decide (m.topicName = name)).getLast?).map fun m => cString m.body

theorem lastText_cons (name : Str) (m : ClientMessage) (ms : List ClientMessage) :
    lastText name (m :: ms) =
      (lastText name ms).or (if m.topicName = name then some (cString m.body) else none) := by
  unfold lastText
  by_cases h : m.topicName = name
  · have hfilter : (m :: ms).filter (fun m => decide (m.topicName = name)) =
        m :: ms.filter fun m => decide (m.topicName = name) :=
      List.filter_cons_of_pos (by simpa using h)
    rw [hfilter, List.getLast?_cons, if_pos h]
    cases (ms.filter fun m => decide (m.topicName = name)).getLast? with
    | none => rfl
    | some a => rfl
  · have hfilter : (m :: ms).filter (fun m => decide (m.topicName = name)) =
        ms.filter fun m => decide (m.topicName = name) :=
      List.filter_cons_of_neg (by simpa using h)
    rw [hfilter, if_neg h, Option.or_none]

theorem run_known {name : Str} (hname : name ≠ []) (ms : List ClientMessage) {list : TopicList P}
    {m : Metric} (hslot : list.slot name = some (some m)) (htype : m.datatype = .string) :
    ∃ a, (run receiveMessage list ms).slot name = some (some a) ∧
      a.value = (lastText name ms).getD m.value := by
  induction ms generalizing list m with
  | nil => exact ⟨m, hslot, rfl⟩
  | cons d ms ih =>
    rw [lastText_cons]
    by_cases hsame : d.topicName = name
    · subst hsame
      have hnext := slot_receiveMessage_self hname list
      rw [hslot, Option.getD_some, Option.map_some] at hnext
      have htimed : (Metric.timed P d.topicName d.now m).datatype = .string :=
        (Metric.timed_datatype P d.topicName d.now m).trans htype
      have htext := (congrArg (fun i => i.2.2) (Metric.setString_identity P
        (Metric.timed P d.topicName d.now m) (cString d.body))).trans htimed
      have hvalue := Metric.setString_value P _
        (Metric.blankFree_of_string htimed (cString d.body))
      obtain ⟨a, ha, hlast⟩ := ih hnext htext
      refine ⟨a, ha, hlast.trans ?_⟩
      rw [hvalue, if_pos rfl]
      cases lastText d.topicName ms <;> rfl
    · have hnext := slot_receiveMessage_ne (Ne.symm hsame) list
      obtain ⟨a, ha, hlast⟩ := ih (hnext.trans hslot) htype
      refine ⟨a, ha, hlast.trans ?_⟩
      rw [if_neg hsame, Option.or_none]

theorem run_unknown {name : Str} (ms : List ClientMessage) {list : TopicList P}
    (hunknown : ¬ list.Known name) : ¬ (run receiveMessage list ms).Known name := by
  induction ms generalizing list with
  | nil => exact hunknown
  | cons d ms ih =>
    apply ih
    rintro ⟨m, hm⟩
    by_cases hsame : name = d.topicName
    · by_cases hname : d.topicName = []
      · have hnext : list.receiveMessage d = list := if_pos hname
        exact hunknown ⟨m, hnext ▸ hm⟩
      · rw [hsame, slot_receiveMessage_self hname list] at hm
        obtain ⟨a, ha, -⟩ := Option.map_eq_some_iff.mp (Option.some.inj hm)
        refine hunknown ⟨a, ?_⟩
        rw [hsame]
        cases hslot : list.slot d.topicName with
        | none => simp [hslot] at ha
        | some old =>
          rw [hslot] at ha
          exact congrArg some ha
    · exact hunknown ⟨m, (slot_receiveMessage_ne hsame list).symm.trans hm⟩

end TopicList

namespace ClientSys
variable {P : Platform}

/-- While the library delivers messages, a message changes the topics in this way. -/
theorem message_topicList {s : ClientSys P} (h : Mqtt.receives s.handle = true)
    (topicName : Str) (body : BodyList) (qos : QualityOfService) (retained : Bool) :
    (s.message topicName body qos retained).client.topicList =
      s.client.topicList.receiveMessage ⟨topicName, s.now, body, qos, retained⟩ := by
  unfold message TopicList.receiveMessage
  by_cases hname : topicName = []
  · rw [if_neg fun hand => hand.2 hname, if_pos hname]
  · rw [if_pos ⟨h, hname⟩, if_neg hname]
    rfl

end ClientSys

section Received
variable {P : Platform}

/-- Every topic that a message came for exists, and it has a metric of its name with the text
of the last message. -/
def KeepsReceived (P : Platform) (metrics : List Metric) (ms : List ClientMessage) : Prop :=
  ∀ d ∈ ms, ∃ t m,
    (run TopicList.receiveMessage (TopicList.withMetrics (P := P) metrics) ms).getTopic
      d.topicName = some t ∧
    t.payload.getMetric d.topicName = some m ∧
    TopicList.lastText d.topicName ms = some m.value

theorem lastText_isSome {ms : List ClientMessage} {d : ClientMessage} (hd : d ∈ ms) :
    ∃ text, TopicList.lastText d.topicName ms = some text := by
  unfold TopicList.lastText
  have hmem : d ∈ ms.filter fun m => decide (m.topicName = d.topicName) :=
    List.mem_filter.mpr ⟨hd, decide_eq_true rfl⟩
  cases hlast : (ms.filter fun m => decide (m.topicName = d.topicName)).getLast? with
  | none =>
    rw [List.getLast?_eq_none_iff] at hlast
    rw [hlast] at hmem
    cases hmem
  | some a => exact ⟨cString a.body, rfl⟩

/-- The values that were received are kept exactly if the application has added a metric for
every topic that a message came for. -/
theorem keepsReceived_iff {metrics : List Metric} (hstring : ∀ m ∈ metrics, m.datatype = .string)
    (ms : List ClientMessage) :
    KeepsReceived P metrics ms ↔
      ∀ d ∈ ms, (∃ m ∈ metrics, m.name = d.topicName) ∧ d.topicName ≠ [] := by
  obtain ⟨htext, hnames⟩ := TopicList.withMetrics_spec (P := P) metrics hstring
  constructor
  · intro h d hd
    by_contra hnot
    obtain ⟨t, m, ht, hm, -⟩ := h d hd
    have hunknown : ¬ TopicList.Known d.topicName (TopicList.withMetrics (P := P) metrics) := by
      rintro ⟨a, ha⟩
      rw [(hnames d.topicName).2 hnot] at ha
      cases ha
    apply TopicList.run_unknown ms hunknown
    refine ⟨m, ?_⟩
    unfold TopicList.slot
    rw [ht, Option.map_some, hm]
  · intro h d hd
    obtain ⟨a, ha⟩ := (hnames d.topicName).1 (h d hd)
    obtain ⟨m, hm, hvalue⟩ := TopicList.run_known (h d hd).2 ms ha (htext _ a ha)
    obtain ⟨t, ht, hmetric⟩ := Option.map_eq_some_iff.mp hm
    obtain ⟨text, hlast⟩ := lastText_isSome hd
    refine ⟨t, m, ht, hmetric, ?_⟩
    rw [hlast, Option.getD_some] at hvalue
    rw [hlast, hvalue]

def room : Metric := { name := str "room/temp", datatype := .string }

theorem room_keeps_received :
    KeepsReceived Platform.reference [room]
      [⟨str "room/temp", 1, str "20", .qos0, false⟩, ⟨str "room/temp", 2, str "21", .qos1, true⟩] ↔
    ∀ d ∈ [(⟨str "room/temp", 1, str "20", .qos0, false⟩ : ClientMessage),
        ⟨str "room/temp", 2, str "21", .qos1, true⟩],
      (∃ m ∈ [room], m.name = d.topicName) ∧ d.topicName ≠ [] :=
  keepsReceived_iff (by simp [room]) _

/-- A message on a topic that only a wildcard subscription matches. -/
theorem wildcard_value_is_lost :
    ¬ KeepsReceived Platform.reference [room] [⟨str "room/light", 1, str "on", .qos0, false⟩] := by
  intro h
  obtain ⟨t, m, ht, hm, -⟩ := h _ List.mem_cons_self
  have hnone : ((run TopicList.receiveMessage
      (TopicList.withMetrics (P := Platform.reference) [room])
      [⟨str "room/light", 1, str "on", .qos0, false⟩]).getTopic (str "room/light")).any
        (fun t => (t.payload.getMetric (str "room/light")).isSome) = false := by decide +kernel
  rw [ht, Option.any_some, hm] at hnone
  cases hnone

end Received
end PubSub
