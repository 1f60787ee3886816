import PubSub.Topic
import Mathlib.Data.List.Forall2

/-!
# The common part of publish/subscribe clients

Every client owns a list of topics and a list of subscriptions. A topic is found by
its message type without regard to case, and it is the first such topic that counts.
-/

namespace PubSub
set_option autoImplicit false

inductive ProtocolVersion where
  | mqtt31 | mqtt311 | mqtt5
  deriving DecidableEq, Repr

abbrev TopicList (P : Platform) := List (Topic P)

namespace TopicList
variable {P : Platform}

def hasMessageType (messageType : Str) (t : Topic P) : Bool :=
  P.iEquals messageType t.messageType

def getTopicByMessageType (messageType : Str) (list : TopicList P) : Option (Topic P) :=
  list.find? (hasMessageType messageType)

/-- A change made through the pointer that `GetTopicByMessageType` returns. -/
def update (messageType : Str) (f : Topic P → Topic P) (list : TopicList P) : TopicList P :=
  list.modify (list.findIdx (hasMessageType messageType)) f

def deleteTopic (name : Str) (list : TopicList P) : TopicList P :=
  list.eraseP fun t => P.iEquals name t.topicName

/-- The first lines of the `Create...Topic` functions. -/
def deletePrevious (messageType : Str) (list : TopicList P) : TopicList P :=
  match getTopicByMessageType messageType list with
  | none => list
  | some t => deleteTopic t.topicName list

end TopicList

/-- The state of `IPubSubClient` that the modelled classes read. -/
structure PubSubClient (P : Platform) where
  name : Str := []
  group : Str := []
  version : ProtocolVersion := .mqtt311
  hardwareMake : Str := P.cpuVendor
  hardwareModel : Str := P.cpuModel
  operatingSystem : Str := P.osName
  osVersion : Str := P.osKernel
  sparkplugVersion : Str := str "3.0.0"
  waitOnHostOnline : Bool := false
  inService : Bool := true
  connectionLost : Bool := false
  topicList : TopicList P := []
  subscriptionList : List Str := []

namespace PubSubClient
variable {P : Platform}

def versionAsString (c : PubSubClient P) : Str :=
  match c.version with
  | .mqtt31 => str "MQTT 3.1"
  | .mqtt5 => str "MQTT 5.0"
  | .mqtt311 => str "MQTT 3.1.1"

def addSubscription (topicName : Str) (list : List Str) : List Str :=
  if topicName ∈ list then list else list ++ [topicName]

def addSubscriptionFront (topicName : Str) (list : List Str) : List Str :=
  if topicName ∈ list then list else topicName :: list

end PubSubClient

section Publishing
variable {P : Platform} {σ : Type}

/-- The loop of `PublishTopics`. The updated flags are cleared before the topic
publishes; `doPublish` is the topic class's own. -/
def publishTopics (doPublish : σ → Topic P → σ × Topic P × Option MqttMessage) :
    σ → TopicList P → σ × List (Topic P × Option MqttMessage)
  | s, [] => (s, [])
  | s, t :: ts =>
    let first := if t.publish && t.isUpdated then doPublish s t.resetUpdated else (s, t, none)
    let rest := publishTopics doPublish first.1 ts
    (rest.1, first.2 :: rest.2)

/-- Topics of a plain MQTT client; `sent` lists the outcomes of the sends. -/
def MqttTopic.publishStep (sent : List Bool) (t : Topic P) :
    List Bool × Topic P × Option MqttMessage :=
  let published := MqttTopic.doPublish (sent.headD true) t
  (sent.tail, published.1, published.2)

def SparkplugTopic.publishStep (sequenceNumber : UInt8) (t : Topic P) :
    UInt8 × Topic P × Option MqttMessage :=
  let published := SparkplugTopic.doPublish sequenceNumber t
  (SparkplugTopic.nextSequenceNumber sequenceNumber t, published, some published.message)

end Publishing

namespace TopicList
variable {P : Platform}

theorem hasMessageType_self {messageType : Str} {t : Topic P} (h : t.messageType = messageType) :
    hasMessageType messageType t = true := by
  simp [hasMessageType, h]

theorem hasMessageType_ne {messageType other : Str} {t : Topic P} (h : t.messageType = other)
    (hne : lower (cString messageType) ≠ lower (cString other)) :
    hasMessageType messageType t = false := by
  rw [hasMessageType, h]
  exact P.iEquals_eq_false hne

theorem find_cons_self {messageType : Str} {t : Topic P} (ts : TopicList P)
    (h : t.messageType = messageType) :
    getTopicByMessageType messageType (t :: ts) = some t := by
  simp [getTopicByMessageType, hasMessageType_self h]

theorem find_cons_ne {messageType : Str} {t : Topic P} (ts : TopicList P)
    (h : hasMessageType messageType t = false) :
    getTopicByMessageType messageType (t :: ts) = getTopicByMessageType messageType ts := by
  simp [getTopicByMessageType, h]

theorem update_cons_self {messageType : Str} {t : Topic P} (ts : TopicList P)
    (f : Topic P → Topic P) (h : t.messageType = messageType) :
    update messageType f (t :: ts) = f t :: ts := by
  simp [update, List.findIdx_cons, hasMessageType_self h]

theorem update_cons_ne {messageType : Str} {t : Topic P} (ts : TopicList P)
    (f : Topic P → Topic P) (h : hasMessageType messageType t = false) :
    update messageType f (t :: ts) = t :: update messageType f ts := by
  simp [update, List.findIdx_cons, h]

theorem find_append_ne {messageType : Str} {others : TopicList P} (ts : TopicList P)
    (h : ∀ t ∈ others, hasMessageType messageType t = false) :
    getTopicByMessageType messageType (others ++ ts) = getTopicByMessageType messageType ts := by
  induction others with
  | nil => rfl
  | cons t others ih =>
    rw [List.cons_append, find_cons_ne _ (h t List.mem_cons_self)]
    exact ih fun s hs => h s (List.mem_cons_of_mem t hs)

theorem update_append_ne {messageType : Str} {others : TopicList P} (ts : TopicList P)
    (f : Topic P → Topic P) (h : ∀ t ∈ others, hasMessageType messageType t = false) :
    update messageType f (others ++ ts) = others ++ update messageType f ts := by
  induction others with
  | nil => rfl
  | cons t others ih =>
    rw [List.cons_append, update_cons_ne _ f (h t List.mem_cons_self),
      ih fun s hs => h s (List.mem_cons_of_mem t hs)]
    rfl

/-- Only what happens to the topic that is found counts. -/
theorem update_congr {messageType : Str} {t : Topic P} {f g : Topic P → Topic P}
    {list : TopicList P} (h : getTopicByMessageType messageType list = some t)
    (hfg : f t = g t) : list.update messageType f = list.update messageType g := by
  induction list with
  | nil => rfl
  | cons a as ih =>
    cases ha : hasMessageType messageType a with
    | true =>
      have hat : a = t := by
        have hfound : getTopicByMessageType messageType (a :: as) = some a := by
          simp [getTopicByMessageType, ha]
        exact Option.some.inj (hfound.symm.trans h)
      subst hat
      simp [update, List.findIdx_cons, ha, hfg]
    | false =>
      rw [find_cons_ne _ ha] at h
      rw [update_cons_ne _ _ ha, update_cons_ne _ _ ha, ih h]

theorem update_update {messageType : Str} {f : Topic P → Topic P}
    (hf : ∀ t, (f t).messageType = t.messageType) (g : Topic P → Topic P) (list : TopicList P) :
    (list.update messageType f).update messageType g = list.update messageType (g ∘ f) := by
  induction list with
  | nil => rfl
  | cons a as ih =>
    cases ha : hasMessageType messageType a with
    | true =>
      have hfa : hasMessageType messageType (f a) = true := by
        rw [hasMessageType, hf]
        exact ha
      simp [update, List.findIdx_cons, ha, hfa]
    | false => rw [update_cons_ne _ _ ha, update_cons_ne _ _ ha, update_cons_ne _ _ ha, ih]

section Relation
variable {rel : Topic P → Topic P → Prop}

/-- Topic by topic, a change of one topic is a change of the list. -/
theorem forall₂_update (hrefl : ∀ t, rel t t) {messageType : Str} {f : Topic P → Topic P}
    {list : TopicList P}
    (hf : ∀ t, list.getTopicByMessageType messageType = some t → rel t (f t)) :
    List.Forall₂ rel list (list.update messageType f) := by
  induction list with
  | nil => exact .nil
  | cons t ts ih =>
    cases ht : hasMessageType messageType t with
    | true =>
      have hfound : getTopicByMessageType messageType (t :: ts) = some t := by
        simp [getTopicByMessageType, ht]
      have hupdate : update messageType f (t :: ts) = f t :: ts := by
        simp [update, List.findIdx_cons, ht]
      rw [hupdate]
      exact .cons (hf t hfound) (List.forall₂_same.mpr fun s _ => hrefl s)
    | false =>
      rw [update_cons_ne _ _ ht]
      refine .cons (hrefl t) (ih fun s hs => hf s ?_)
      rw [find_cons_ne _ ht, hs]

/-- Related lists find related topics, if the search cannot tell them apart. -/
theorem find?_forall₂ {p : Topic P → Bool} (hp : ∀ s t, rel s t → p t = p s)
    {list changed : TopicList P} (h : List.Forall₂ rel list changed) {s : Topic P}
    (hs : list.find? p = some s) : ∃ t, changed.find? p = some t ∧ rel s t := by
  induction h with
  | nil => cases hs
  | @cons a b _ _ hab _ ih =>
    cases ha : p a with
    | true =>
      rw [List.find?_cons_of_pos ha] at hs
      obtain rfl := Option.some.inj hs
      exact ⟨b, List.find?_cons_of_pos ((hp _ b hab).trans ha), hab⟩
    | false =>
      rw [List.find?_cons_of_neg (by simp [ha])] at hs
      rw [List.find?_cons_of_neg (by simp [hp a b hab, ha])]
      exact ih hs

theorem forall₂_trans (htrans : ∀ r s t, rel r s → rel s t → rel r t) {rs ss ts : TopicList P}
    (hrs : List.Forall₂ rel rs ss) (hst : List.Forall₂ rel ss ts) : List.Forall₂ rel rs ts := by
  induction hrs generalizing ts with
  | nil =>
    cases hst
    exact .nil
  | cons hab _ ih =>
    cases hst with
    | cons hbc hrest => exact .cons (htrans _ _ _ hab hbc) (ih hrest)

theorem forall_related {before after : Topic P → Prop}
    (hrel : ∀ s t, rel s t → before s → after t) {list changed : TopicList P}
    (h : List.Forall₂ rel list changed) (hlist : ∀ t ∈ list, before t) :
    ∀ t ∈ changed, after t := by
  induction h with
  | nil => simp
  | cons hab _ ih =>
    intro t ht
    rcases List.mem_cons.mp ht with rfl | ht
    · exact hrel _ _ hab (hlist _ List.mem_cons_self)
    · exact ih (fun s hs => hlist s (List.mem_cons_of_mem _ hs)) t ht

end Relation

theorem find_update_self {messageType : Str} {f : Topic P → Topic P}
    (hf : ∀ t, (f t).messageType = t.messageType) (list : TopicList P) :
    getTopicByMessageType messageType (list.update messageType f) =
      (getTopicByMessageType messageType list).map f := by
  induction list with
  | nil => rfl
  | cons a as ih =>
    cases ha : hasMessageType messageType a with
    | true =>
      have hfa : hasMessageType messageType (f a) = true := by
        rw [hasMessageType, hf]
        exact ha
      simp [update, List.findIdx_cons, getTopicByMessageType, ha, hfa]
    | false => rw [update_cons_ne _ _ ha, find_cons_ne _ ha, find_cons_ne _ ha, ih]

theorem find_update_ne {messageType other : Str} {f : Topic P → Topic P}
    (hf : ∀ t, (f t).messageType = t.messageType)
    (hne : lower (cString messageType) ≠ lower (cString other)) (list : TopicList P) :
    getTopicByMessageType other (list.update messageType f) =
      getTopicByMessageType other list := by
  induction list with
  | nil => rfl
  | cons a as ih =>
    cases ha : hasMessageType messageType a with
    | true =>
      have hkey : P.foldKey messageType = P.foldKey a.messageType := (P.iEquals_iff _ _).mp ha
      have hother : hasMessageType other a = false := by
        rw [hasMessageType, Platform.iEquals, ← hkey]
        exact decide_eq_false fun h => P.foldKey_ne hne h.symm
      have hfa : hasMessageType other (f a) = false := by
        rw [hasMessageType, hf]
        exact hother
      have hupdate : update messageType f (a :: as) = f a :: as := by
        simp [update, List.findIdx_cons, ha]
      rw [hupdate, find_cons_ne _ hfa, find_cons_ne _ hother]
    | false =>
      rw [update_cons_ne _ _ ha]
      cases hother : hasMessageType other a with
      | true => simp [getTopicByMessageType, hother]
      | false => rw [find_cons_ne _ hother, find_cons_ne _ hother, ih]

theorem deletePrevious_nil (messageType : Str) :
    deletePrevious messageType ([] : TopicList P) = [] := rfl

theorem deletePrevious_of_none {messageType : Str} {list : TopicList P}
    (h : getTopicByMessageType messageType list = none) :
    list.deletePrevious messageType = list := by
  simp [deletePrevious, h]

section Pair
variable {first second : Topic P}

theorem find_first {messageType : Str} (h : first.messageType = messageType) :
    getTopicByMessageType messageType [first, second] = some first :=
  find_cons_self [second] h

theorem find_second {messageType other : Str} (hfirst : first.messageType = other)
    (hne : lower (cString messageType) ≠ lower (cString other))
    (h : second.messageType = messageType) :
    getTopicByMessageType messageType [first, second] = some second := by
  rw [find_cons_ne _ (hasMessageType_ne hfirst hne)]
  exact find_cons_self [] h

theorem update_first {messageType : Str} (f : Topic P → Topic P)
    (h : first.messageType = messageType) :
    update messageType f [first, second] = [f first, second] :=
  update_cons_self [second] f h

theorem update_second {messageType other : Str} (f : Topic P → Topic P)
    (hfirst : first.messageType = other)
    (hne : lower (cString messageType) ≠ lower (cString other))
    (h : second.messageType = messageType) :
    update messageType f [first, second] = [first, f second] := by
  rw [update_cons_ne _ f (hasMessageType_ne hfirst hne), update_cons_self [] f h]

end Pair

theorem mem_deletePrevious {messageType : Str} {list : TopicList P} {t : Topic P}
    (h : t ∈ list.deletePrevious messageType) : t ∈ list := by
  unfold deletePrevious deleteTopic at h
  split at h
  · exact h
  · exact List.mem_of_mem_eraseP h

/-- The metrics of the topic of a type. -/
def metricsOf (messageType : Str) (list : TopicList P) : List (Str × Metric) :=
  match list.getTopicByMessageType messageType with
  | none => []
  | some t => t.payload.metricList.entries

theorem metricsOf_of_find {messageType : Str} {list : TopicList P} {t : Topic P}
    (h : list.getTopicByMessageType messageType = some t) :
    list.metricsOf messageType = t.payload.metricList.entries := by
  unfold metricsOf
  rw [h]

end TopicList
end PubSub
