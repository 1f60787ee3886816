import PubSub.EchoRace
import PubSub.TopicKeys

/-!
# The settings that a topic is published with

The quality of service and the retained flag of a topic are set by the application, and
`DoPublish` sends them. A message for the topic overwrites them with its own, also when
the topic is one that the client publishes.
-/

namespace PubSub
set_option autoImplicit false

structure Settings where
  qos : QualityOfService := .qos0
  retained : Bool := false
  deriving DecidableEq

/-- What the application has set last on a topic, and what the last message for the topic
has brought since. -/
structure SettingsLog where
  applied : Settings := {}
  heardQos : Option QualityOfService := none
  heardRetained : Option Bool := none

namespace SettingsLog

def setQos (qos : QualityOfService) (l : SettingsLog) : SettingsLog :=
  { l with applied := { l.applied with qos := qos }, heardQos := none }

def setRetained (retained : Bool) (l : SettingsLog) : SettingsLog :=
  { l with applied := { l.applied with retained := retained }, heardRetained := none }

def hear (qos : QualityOfService) (retained : Bool) (l : SettingsLog) : SettingsLog :=
  { l with heardQos := some qos, heardRetained := some retained }

/-- The settings that such a history leaves. -/
def current (l : SettingsLog) : Settings where
  qos := l.heardQos.getD l.applied.qos
  retained := l.heardRetained.getD l.applied.retained

/-- No message has brought other settings. -/
structure Agrees (l : SettingsLog) : Prop where
  qos : ∀ qos, l.heardQos = some qos → qos = l.applied.qos
  retained : ∀ retained, l.heardRetained = some retained → retained = l.applied.retained

theorem current_eq_applied_iff (l : SettingsLog) : l.current = l.applied ↔ l.Agrees := by
  obtain ⟨⟨qos, retained⟩, heardQos, heardRetained⟩ := l
  simp only [current, Settings.mk.injEq]
  constructor
  · rintro ⟨hqos, hretained⟩
    exact ⟨by rintro q rfl; exact hqos, by rintro r rfl; exact hretained⟩
  · rintro ⟨hqos, hretained⟩
    refine ⟨?_, ?_⟩
    · cases heardQos with
      | none => rfl
      | some q => exact hqos q rfl
    · cases heardRetained with
      | none => rfl
      | some r => exact hretained r rfl

end SettingsLog

namespace Topic
variable {P : Platform}

def settings (t : Topic P) : Settings := ⟨t.qos, t.retained⟩

/-- What a message takes over from its topic beside the body. -/
def tag (t : Topic P) : Str × Settings := (t.topicName, t.settings)

theorem assignLevelName_settings (level : Nat) (part : Str) (t : Topic P) :
    (t.assignLevelName level part).settings = t.settings := by
  unfold assignLevelName
  split <;> (try split) <;> rfl

theorem assignLevels_settings (cs : Str) (level : Nat) (temp : Str) (t : Topic P) :
    (assignLevels cs level temp t).settings = t.settings := by
  induction cs generalizing level temp t with
  | nil =>
    simp only [assignLevels]
    split
    · exact assignLevelName_settings level temp t
    · rfl
  | cons c cs ih =>
    simp only [assignLevels]
    split
    · exact (ih _ _ _).trans (assignLevelName_settings level temp t)
    · exact ih _ _ _

theorem setTopic_settings (name : Str) (t : Topic P) : (t.setTopic name).settings = t.settings := by
  have h := assignLevels_settings name 0 [] { t with topic := name }
  unfold setTopic
  dsimp only
  split
  · exact h
  · exact h

theorem tag_generate (t : Topic P) : (MqttTopic.generate t).cacheTopic.tag = t.tag := by
  have hname := (topicName_cacheTopic (MqttTopic.generate t)).trans (topicName_generate t)
  refine Prod.ext hname ?_
  unfold MqttTopic.generate
  split
  · rfl
  · split
    · rfl
    · rfl

end Topic

def MqttMessage.tag (message : MqttMessage) : Str × Settings :=
  (message.topicName, ⟨message.qos, message.retained⟩)

namespace MqttTopic
variable {P : Platform}

/-- A publish keeps the name and the settings, and it sends both. -/
theorem tag_doPublish (sent : Bool) (t : Topic P) :
    (doPublish sent t).1.tag = t.tag ∧
      (doPublish sent t).2.map MqttMessage.tag = if t.publish then some t.tag else none := by
  have htag := t.tag_generate
  unfold doPublish
  split
  · refine ⟨?_, congrArg some htag⟩
    cases sent with
    | true => exact htag
    | false => exact htag
  · exact ⟨rfl, rfl⟩

end MqttTopic

/-- A change of a topic by the application that leaves its name and its settings. -/
structure TopicEdit (P : Platform) where
  edit : Topic P → Topic P
  tag : ∀ t, (edit t).tag = t.tag

inductive SettingsEvent (P : Platform) where
  | addMetric (m : Metric)
  | edit (name : Str) (edit : TopicEdit P)
  | qos (name : Str) (qos : QualityOfService)
  | retained (name : Str) (retained : Bool)
  | message (m : ClientMessage)
  | publish (sent : List Bool)
  | doPublish (name : Str) (sent : Bool)

/-- The topics of a client, and for each name the history of the settings. -/
structure SettingsSys (P : Platform) where
  topicList : TopicList P := []
  log : Str → SettingsLog := fun _ => {}

namespace SettingsSys
variable {P : Platform}

def onLog (name : Str) (f : SettingsLog → SettingsLog) (s : SettingsSys P) : SettingsSys P :=
  { s with log := fun other => if other = name then f (s.log other) else s.log other }

/-- A setter of the topic that `GetTopic` returns. -/
def apply (name : Str) (f : Topic P → Topic P) (g : SettingsLog → SettingsLog)
    (s : SettingsSys P) : SettingsSys P :=
  match s.topicList.getTopic name with
  | none => s
  | some _ => { s with topicList := ClientSys.updateTopic name f s.topicList }.onLog name g

def step (s : SettingsSys P) : SettingsEvent P → SettingsSys P
  | .addMetric m => { s with topicList := ClientSys.addMetric m s.topicList }
  | .edit name edit => { s with topicList := ClientSys.updateTopic name edit.edit s.topicList }
  | .qos name qos => s.apply name (fun t => { t with qos := qos }) (.setQos qos)
  | .retained name retained =>
    s.apply name (fun t => { t with retained := retained }) (.setRetained retained)
  | .message m =>
    let s := { s with topicList := s.topicList.receiveMessage m }
    if m.topicName = [] then s else s.onLog m.topicName (.hear m.qos m.retained)
  | .publish sent =>
    { s with
      topicList := ((publishTopics MqttTopic.publishStep sent s.topicList).2).map Prod.fst }
  | .doPublish name sent =>
    { s with topicList :=
        ClientSys.updateTopic name (fun t => (MqttTopic.doPublish sent t).1) s.topicList }

/-- The messages that are handed over in a step. -/
def sends (s : SettingsSys P) : SettingsEvent P → List MqttMessage
  | .publish sent => ((publishTopics MqttTopic.publishStep sent s.topicList).2).filterMap Prod.snd
  | .doPublish name sent =>
    (s.topicList.getTopic name).toList.filterMap fun t => (MqttTopic.doPublish sent t).2
  | _ => []

/-- The topics whose turn it is to publish in a step. -/
def publishing (s : SettingsSys P) : SettingsEvent P → List (Topic P)
  | .publish _ => s.topicList.filter fun t => t.publish && t.isUpdated
  | .doPublish name _ => (s.topicList.getTopic name).toList.filter fun t => t.publish
  | _ => []

/-- The messages carry what the application has set. -/
def SendsApplied (s : SettingsSys P) (e : SettingsEvent P) : Prop :=
  ∀ message ∈ s.sends e,
    message.qos = (s.log message.topicName).applied.qos ∧
      message.retained = (s.log message.topicName).applied.retained

instance (s : SettingsSys P) (e : SettingsEvent P) : Decidable (s.SendsApplied e) :=
  inferInstanceAs (Decidable (∀ message ∈ s.sends e, _ ∧ _))

/-- No topic that publishes has got a message with other settings since the application
set them. -/
def Undisturbed (s : SettingsSys P) (e : SettingsEvent P) : Prop :=
  ∀ t ∈ s.publishing e, (s.log t.topicName).Agrees

/-- The settings of the topic of a name, or those of a new topic. -/
def settingsAt (name : Str) (list : TopicList P) : Settings :=
  ((list.getTopic name).map Topic.settings).getD {}

structure Inv (s : SettingsSys P) : Prop where
  nodup : s.topicList.names.Nodup
  current : ∀ name, settingsAt name s.topicList = (s.log name).current

theorem settingsAt_updateTopic_self {name : Str} {f : Topic P → Topic P}
    (hf : ∀ t, (f t).topicName = t.topicName) {list : TopicList P} {t : Topic P}
    (h : list.getTopic name = some t) :
    settingsAt name (ClientSys.updateTopic name f list) = (f t).settings := by
  rw [settingsAt, TopicList.getTopic_updateTopic_self hf, h]
  rfl

theorem settingsAt_updateTopic_ne {name other : Str} (h : other ≠ name) {f : Topic P → Topic P}
    (hf : ∀ t, (f t).topicName = t.topicName) (list : TopicList P) :
    settingsAt other (ClientSys.updateTopic name f list) = settingsAt other list := by
  rw [settingsAt, TopicList.getTopic_updateTopic_ne h hf]
  rfl

/-- An update that keeps the settings of the topic keeps them all. -/
theorem settingsAt_updateTopic_kept {name : Str} {f : Topic P → Topic P}
    (hf : ∀ t, (f t).tag = t.tag) (other : Str) (list : TopicList P) :
    settingsAt other (ClientSys.updateTopic name f list) = settingsAt other list := by
  have hname : ∀ t, (f t).topicName = t.topicName := fun t => congrArg Prod.fst (hf t)
  by_cases h : other = name
  · subst h
    rw [settingsAt, TopicList.getTopic_updateTopic_self hname, Option.map_map]
    have hsettings : Topic.settings ∘ f = Topic.settings :=
      funext fun t => congrArg Prod.snd (hf t)
    rw [hsettings]
    rfl
  · exact settingsAt_updateTopic_ne h hname list

/-- A topic that is made has the default settings. -/
theorem settingsAt_ensureTopic {name : Str} (hne : name ≠ []) (publish : Bool) (other : Str)
    (list : TopicList P) :
    settingsAt other (ClientSys.ensureTopic name publish list) = settingsAt other list := by
  by_cases h : other = name
  · subst h
    rw [settingsAt, TopicList.getTopic_ensureTopic_self hne, settingsAt]
    cases list.getTopic other with
    | none => exact Topic.setTopic_settings other {}
    | some t => rfl
  · rw [settingsAt, TopicList.getTopic_ensureTopic_ne hne h]
    rfl

theorem settingsAt_addMetric (m : Metric) (name : Str) (list : TopicList P) :
    settingsAt name (ClientSys.addMetric m list) = settingsAt name list := by
  unfold ClientSys.addMetric
  split
  · rfl
  · rename_i hne
    refine (settingsAt_updateTopic_kept ?_ name _).trans
      (settingsAt_ensureTopic hne true name list)
    exact fun t => rfl

theorem settingsAt_receiveMessage_self {m : ClientMessage} (hne : m.topicName ≠ [])
    (list : TopicList P) :
    settingsAt m.topicName (list.receiveMessage m) = ⟨m.qos, m.retained⟩ := by
  rw [settingsAt, TopicList.getTopic_receiveMessage_self hne]
  rfl

theorem settingsAt_receiveMessage_ne {m : ClientMessage} (hne : m.topicName ≠ []) {name : Str}
    (h : name ≠ m.topicName) (list : TopicList P) :
    settingsAt name (list.receiveMessage m) = settingsAt name list := by
  unfold TopicList.receiveMessage
  rw [if_neg hne, settingsAt_updateTopic_ne h (TopicList.topicName_messageTopic m),
    settingsAt_ensureTopic hne]

/-- What one turn of a publish call does to a topic, and what it sends. -/
theorem publishTopics_tags (sent : List Bool) (list : TopicList P) :
    List.Forall₂ (fun t published => published.1.tag = t.tag ∧
        published.2.map MqttMessage.tag =
          if t.publish && t.isUpdated then some t.tag else none) list
      (publishTopics MqttTopic.publishStep sent list).2 := by
  refine publishTopics_forall₂ ?_ ?_ sent
  · intro sent t _ hturn
    obtain ⟨htag, hsent⟩ := MqttTopic.tag_doPublish (sent.headD true) t.resetUpdated
    have hpublish : t.resetUpdated.publish = true := (Bool.and_eq_true_iff.mp hturn).1
    rw [if_pos hpublish] at hsent
    rw [if_pos hturn]
    exact ⟨htag, hsent⟩
  · intro t _ hturn
    rw [hturn]
    exact ⟨rfl, rfl⟩

theorem tags_published (sent : List Bool) (list : TopicList P) :
    (((publishTopics MqttTopic.publishStep sent list).2).map Prod.fst).map Topic.tag =
      list.map Topic.tag := by
  have h := publishTopics_tags sent list
  generalize (publishTopics MqttTopic.publishStep sent list).2 = published at h
  induction h with
  | nil => rfl
  | cons hfirst _ ih => simp only [List.map_cons, hfirst.1, ih]

/-- The settings of a list are decided by its tags. -/
theorem settingsAt_of_tags {list changed : TopicList P}
    (h : changed.map Topic.tag = list.map Topic.tag) (name : Str) :
    settingsAt name changed = settingsAt name list := by
  induction list generalizing changed with
  | nil =>
    obtain rfl := List.map_eq_nil_iff.mp h
    rfl
  | cons t ts ih =>
    obtain ⟨u, us, rfl, hfirst, hrest⟩ := List.map_eq_cons_iff.mp h
    have hname : u.topicName = t.topicName := congrArg Prod.fst hfirst
    have hsettings : u.settings = t.settings := congrArg Prod.snd hfirst
    have hih := ih hrest
    unfold settingsAt TopicList.getTopic at hih ⊢
    by_cases hhas : ClientSys.hasName name t = true
    · have hhas' : ClientSys.hasName name u = true := by rwa [ClientSys.hasName, hname]
      rw [List.find?_cons_of_pos hhas, List.find?_cons_of_pos hhas']
      exact hsettings
    · have hhas' : ¬ ClientSys.hasName name u = true := by rwa [ClientSys.hasName, hname]
      rw [List.find?_cons_of_neg hhas, List.find?_cons_of_neg hhas']
      exact hih

theorem names_of_tags {list changed : TopicList P}
    (h : changed.map Topic.tag = list.map Topic.tag) : changed.names = list.names := by
  have hnames := congrArg (List.map Prod.fst) h
  rw [List.map_map, List.map_map] at hnames
  exact hnames

theorem inv_apply {s : SettingsSys P} (h : s.Inv) {name : Str} {f : Topic P → Topic P}
    {g : SettingsLog → SettingsLog} (hf : ∀ t, (f t).topicName = t.topicName)
    (hg : ∀ (t : Topic P) l, t.settings = SettingsLog.current l →
      (f t).settings = (g l).current) : (s.apply name f g).Inv := by
  unfold apply
  cases hfound : s.topicList.getTopic name with
  | none => exact h
  | some t =>
    refine ⟨(TopicList.names_updateTopic name hf s.topicList).symm ▸ h.nodup, fun other => ?_⟩
    dsimp only [onLog]
    split
    · rename_i hother
      subst hother
      rw [settingsAt_updateTopic_self hf hfound]
      refine hg t _ ?_
      have hcurrent := h.current other
      rwa [settingsAt, hfound] at hcurrent
    · rename_i hother
      rw [settingsAt_updateTopic_ne hother hf]
      exact h.current other

theorem inv_step (s : SettingsSys P) (e : SettingsEvent P) (h : s.Inv) : (s.step e).Inv := by
  cases e with
  | addMetric m =>
    refine ⟨TopicList.nodup_call s.topicList (.addMetric m) h.nodup, fun name => ?_⟩
    exact (settingsAt_addMetric m name s.topicList).trans (h.current name)
  | edit name edit =>
    refine ⟨?_, fun other => ?_⟩
    · have hname : ∀ t, (edit.edit t).topicName = t.topicName :=
        fun t => congrArg Prod.fst (edit.tag t)
      exact (TopicList.names_updateTopic name hname s.topicList).symm ▸ h.nodup
    · exact (settingsAt_updateTopic_kept edit.tag other s.topicList).trans (h.current other)
  | qos name qos =>
    refine inv_apply h (fun _ => rfl) fun t l hsettings => ?_
    rw [SettingsLog.setQos, SettingsLog.current, Option.getD_none]
    exact congrArg (Settings.mk qos) (congrArg Settings.retained hsettings)
  | retained name retained =>
    refine inv_apply h (fun _ => rfl) fun t l hsettings => ?_
    rw [SettingsLog.setRetained, SettingsLog.current, Option.getD_none]
    exact congrArg (fun qos => Settings.mk qos retained) (congrArg Settings.qos hsettings)
  | message m =>
    have hnodup := TopicList.nodup_call s.topicList (.message m) h.nodup
    dsimp only [step]
    split
    · rename_i hempty
      refine ⟨hnodup, fun name => ?_⟩
      have hsame : s.topicList.receiveMessage m = s.topicList := if_pos hempty
      rw [hsame]
      exact h.current name
    · rename_i hne
      refine ⟨hnodup, fun name => ?_⟩
      dsimp only [onLog]
      split
      · rename_i hname
        subst hname
        exact settingsAt_receiveMessage_self hne s.topicList
      · rename_i hname
        rw [settingsAt_receiveMessage_ne hne hname]
        exact h.current name
  | publish sent =>
    have htags := tags_published sent s.topicList
    refine ⟨?_, fun name => (settingsAt_of_tags htags name).trans (h.current name)⟩
    exact (names_of_tags htags).symm ▸ h.nodup
  | doPublish name sent =>
    have htag : ∀ t : Topic P, (MqttTopic.doPublish sent t).1.tag = t.tag :=
      fun t => (MqttTopic.tag_doPublish sent t).1
    refine ⟨?_, fun other => ?_⟩
    · have hname : ∀ t : Topic P, (MqttTopic.doPublish sent t).1.topicName = t.topicName :=
        fun t => congrArg Prod.fst (htag t)
      exact (TopicList.names_updateTopic name hname s.topicList).symm ▸ h.nodup
    · exact (settingsAt_updateTopic_kept htag other s.topicList).trans (h.current other)

/-- The messages of a step have the names and the settings of the topics that publish. -/
theorem tags_sends (s : SettingsSys P) (e : SettingsEvent P) :
    (s.sends e).map MqttMessage.tag = (s.publishing e).map Topic.tag := by
  cases e with
  | publish sent =>
    have h := publishTopics_tags sent s.topicList
    dsimp only [sends, publishing]
    generalize (publishTopics MqttTopic.publishStep sent s.topicList).2 = published at h
    generalize s.topicList = list at h
    induction h with
    | nil => rfl
    | @cons t p ts ps hfirst _ ih =>
      obtain ⟨_, hsent⟩ := hfirst
      by_cases hturn : (t.publish && t.isUpdated) = true
      · rw [if_pos hturn] at hsent
        obtain ⟨message, hmessage, htag⟩ := Option.map_eq_some_iff.mp hsent
        rw [List.filterMap_cons_some hmessage, List.filter_cons, if_pos hturn, List.map_cons,
          List.map_cons, htag, ih]
      · rw [if_neg hturn] at hsent
        rw [List.filterMap_cons_none (Option.map_eq_none_iff.mp hsent), List.filter_cons,
          if_neg hturn, ih]
  | doPublish name sent =>
    dsimp only [sends, publishing]
    cases s.topicList.getTopic name with
    | none => rfl
    | some t =>
      have hsent := (MqttTopic.tag_doPublish sent t).2
      by_cases hpublish : t.publish = true
      · rw [if_pos hpublish] at hsent
        obtain ⟨message, hmessage, htag⟩ := Option.map_eq_some_iff.mp hsent
        simp [hmessage, htag, hpublish]
      · rw [if_neg hpublish] at hsent
        simp [Option.map_eq_none_iff.mp hsent, hpublish]
  | _ => rfl

theorem publishing_subset {s : SettingsSys P} {e : SettingsEvent P} {t : Topic P}
    (h : t ∈ s.publishing e) : t ∈ s.topicList := by
  cases e with
  | publish sent => exact (List.mem_filter.mp h).1
  | doPublish name sent =>
    exact List.mem_of_find?_eq_some (Option.mem_toList.mp (List.mem_filter.mp h).1)
  | _ => cases h

/-- A topic of the list has the settings that its history leaves. -/
theorem Inv.settings {s : SettingsSys P} (h : s.Inv) {t : Topic P} (ht : t ∈ s.topicList) :
    t.settings = (s.log t.topicName).current := by
  have hcurrent := h.current t.topicName
  have hfound : s.topicList.getTopic t.topicName = some t := KeyedList.lookup_of_mem h.nodup ht
  rwa [settingsAt, hfound] at hcurrent

theorem sendsApplied_iff (s : SettingsSys P) (e : SettingsEvent P) (h : s.Inv) :
    s.SendsApplied e ↔ s.Undisturbed e := by
  have hmessage : s.SendsApplied e ↔
      ∀ tag ∈ (s.sends e).map MqttMessage.tag, tag.2 = (s.log tag.1).applied := by
    rw [List.forall_mem_map]
    refine forall₂_congr fun message _ => ?_
    exact Settings.mk.injEq _ _ _ _ ▸ Iff.rfl
  rw [hmessage, tags_sends, List.forall_mem_map]
  refine forall₂_congr fun t ht => ?_
  rw [← SettingsLog.current_eq_applied_iff, ← h.settings (publishing_subset ht)]
  exact Iff.rfl

theorem inv_empty : ({} : SettingsSys P).Inv := ⟨List.nodup_nil, fun _ => rfl⟩

/-- In every run the messages carry the applied settings exactly when no topic publishes
after a message has brought it other settings. -/
theorem publish_settings_iff (es : List (SettingsEvent P)) :
    RunOk step SendsApplied ({} : SettingsSys P) es ↔ RunOk step Undisturbed {} es :=
  runOk_congr inv_step sendsApplied_iff inv_empty

/-- A message for a published topic, with other settings, comes before the publish call. -/
theorem message_resets_settings :
    ¬ RunOk step SendsApplied ({} : SettingsSys .reference)
      [.addMetric { name := str "t", datatype := .string, value := str "1", updated := true },
        .qos (str "t") .qos1, .retained (str "t") true,
        .message { topicName := str "t", now := 0, body := str "1" }, .publish [true]] := by
  decide +kernel

end SettingsSys
end PubSub
