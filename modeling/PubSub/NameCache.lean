import PubSub.TopicFields
import PubSub.Shared.Memo

/-!
# The name that a topic keeps

`Topic() const` generates the name of a topic from its fields and keeps it in a mutable member.
A lookup on the client reads the names of its topics up to the one it finds, so it keeps the
name of any topic on its way. Fields that are set later no longer count.
-/

namespace PubSub
set_option autoImplicit false

inductive TopicField where
  | nameSpace | groupId | messageType | nodeId | deviceId

def TopicFields.set (field : TopicField) (v : Str) (f : TopicFields) : TopicFields :=
  match field with
  | .nameSpace => { f with nameSpace := v }
  | .groupId => { f with groupId := v }
  | .messageType => { f with messageType := v }
  | .nodeId => { f with nodeId := v }
  | .deviceId => { f with deviceId := v }

namespace Topic
variable {P : Platform}

/-- The setters `Namespace`, `GroupId`, `MessageType`, `NodeId` and `DeviceId`. -/
def setField (field : TopicField) (v : Str) (t : Topic P) : Topic P :=
  match field with
  | .nameSpace => { t with nameSpace := v }
  | .groupId => { t with groupId := v }
  | .messageType => { t with messageType := v }
  | .nodeId => { t with nodeId := v }
  | .deviceId => { t with deviceId := v }

theorem fields_setField (field : TopicField) (v : Str) (t : Topic P) :
    (t.setField field v).fields = t.fields.set field v := by
  cases field <;> rfl

theorem topic_setField (field : TopicField) (v : Str) (t : Topic P) :
    (t.setField field v).topic = t.topic := by
  cases field <;> rfl

theorem topicName_eq (t : Topic P) :
    t.topicName = if t.topic = [] then t.fields.name else t.topic := rfl

end Topic

namespace TopicList
variable {P : Platform}

/-- What `find_if` leaves of the list: the names are read up to the first that passes. -/
def readUntil (test : Str → Bool) : TopicList P → TopicList P
  | [] => []
  | t :: ts => t.cacheTopic :: if test t.topicName then ts else readUntil test ts

def anyName (test : Str → Bool) (list : TopicList P) : Bool :=
  list.any fun t => test t.topicName

def eraseName (test : Str → Bool) (list : TopicList P) : TopicList P :=
  list.eraseP fun t => test t.topicName

theorem readUntil_cons (test : Str → Bool) (t : Topic P) (ts : TopicList P) :
    readUntil test (t :: ts) =
      t.cacheTopic :: if test t.topicName then ts else readUntil test ts := rfl

theorem anyName_cons (test : Str → Bool) (t : Topic P) (ts : TopicList P) :
    anyName test (t :: ts) = (test t.topicName || anyName test ts) := rfl

theorem readUntil_append (test : Str → Bool) (front back : TopicList P) :
    readUntil test (front ++ back) =
      readUntil test front ++ if front.anyName test then back else readUntil test back := by
  induction front with
  | nil => rfl
  | cons t front ih =>
    rw [List.cons_append, readUntil_cons, readUntil_cons, anyName_cons]
    cases test t.topicName with
    | true => rfl
    | false =>
      simp only [Bool.false_eq_true, if_false, Bool.false_or]
      rw [ih]
      rfl

theorem eraseName_append (test : Str → Bool) (front back : TopicList P) :
    eraseName test (front ++ back) =
      if front.anyName test then eraseName test front ++ back
      else front ++ eraseName test back := by
  unfold eraseName anyName
  rw [List.eraseP_append]

end TopicList

/-- The functions of a client that look for a topic by its name. -/
inductive Lookup where
  | getTopic (name : Str)
  | getITopic (name : Str)
  | deleteTopic (name : Str)

def Lookup.test (P : Platform) : Lookup → Str → Bool
  | .getTopic name, n => decide (name = n)
  | .getITopic name, n => P.iEquals name n
  | .deleteTopic name, n => P.iEquals name n

/-- What a function leaves of the list of the client. -/
def TopicList.lookup {P : Platform} (l : Lookup) (list : TopicList P) : TopicList P :=
  match l with
  | .getTopic _ => list.readUntil (l.test P)
  | .getITopic _ => list.readUntil (l.test P)
  | .deleteTopic _ => (list.readUntil (l.test P)).eraseName (l.test P)

/-- The calls on a topic and on the client that owns it. -/
inductive NameEvent where
  | set (field : TopicField) (v : Str)
  | read
  | lookup (l : Lookup)

def NameEvent.isSet : NameEvent → Bool
  | .set _ _ => true
  | _ => false

/-- A topic in the list of its client. -/
structure OwnedTopic (P : Platform) where
  before : TopicList P
  topic : Topic P
  after : TopicList P

namespace OwnedTopic
variable {P : Platform}

def list (s : OwnedTopic P) : TopicList P := s.before ++ s.topic :: s.after

/-- A search that does not find the topic passes it, unless it stops before. -/
def search (test : Str → Bool) (s : OwnedTopic P) : OwnedTopic P :=
  if s.before.anyName test then { s with before := s.before.readUntil test }
  else
    { before := s.before.readUntil test
      topic := s.topic.cacheTopic
      after := s.after.readUntil test }

/-- The other topic that is found goes. -/
def erase (test : Str → Bool) (s : OwnedTopic P) : OwnedTopic P :=
  if s.before.anyName test then { s with before := s.before.eraseName test }
  else { s with after := s.after.eraseName test }

def step (s : OwnedTopic P) : NameEvent → OwnedTopic P
  | .set field v => { s with topic := s.topic.setField field v }
  | .read => { s with topic := s.topic.cacheTopic }
  | .lookup (.deleteTopic name) =>
    (s.search (P.iEquals name)).erase (P.iEquals name)
  | .lookup l => s.search (l.test P)

/-- A lookup is for a name that the topic does not have. -/
def Misses (s : OwnedTopic P) : NameEvent → Prop
  | .lookup l => l.test P s.topic.topicName = false
  | _ => True

/-- The name of the topic is read: directly, or by a lookup that has not stopped before. -/
def reads (s : OwnedTopic P) : NameEvent → Bool
  | .set _ _ => false
  | .read => true
  | .lookup l => !s.before.anyName (l.test P)

theorem list_search {test : Str → Bool} {s : OwnedTopic P}
    (h : test s.topic.topicName = false) : (s.search test).list = s.list.readUntil test := by
  unfold search list
  rw [TopicList.readUntil_append, TopicList.readUntil_cons, h]
  split
  · rfl
  · rfl

theorem list_erase {test : Str → Bool} {s : OwnedTopic P}
    (h : test s.topic.topicName = false) : (s.erase test).list = s.list.eraseName test := by
  unfold erase list
  rw [TopicList.eraseName_append]
  split
  · rfl
  · unfold TopicList.eraseName
    rw [List.eraseP_cons_of_neg (by simpa using h)]

theorem search_topic (test : Str → Bool) (s : OwnedTopic P) :
    (s.search test).topic = if s.before.anyName test then s.topic else s.topic.cacheTopic := by
  unfold search
  split
  · rfl
  · rfl

theorem erase_topic (test : Str → Bool) (s : OwnedTopic P) :
    (s.erase test).topic = s.topic := by
  unfold erase
  split
  · rfl
  · rfl

/-- A lookup of another name, on the list of the client. -/
theorem list_lookup {l : Lookup} {s : OwnedTopic P} (h : s.Misses (.lookup l)) :
    (s.step (.lookup l)).list = s.list.lookup l := by
  cases l with
  | getTopic name => exact list_search h
  | getITopic name => exact list_search h
  | deleteTopic name =>
    have hfound : P.iEquals name (s.search (P.iEquals name)).topic.topicName = false := by
      rw [search_topic]
      split
      · exact h
      · rw [Topic.topicName_cacheTopic]
        exact h
    exact (list_erase hfound).trans (congrArg _ (list_search h))

/-- What an event leaves of the topic. -/
theorem step_topic (s : OwnedTopic P) (e : NameEvent) :
    (s.step e).topic =
      match e with
      | .set field v => s.topic.setField field v
      | _ => if s.reads e then s.topic.cacheTopic else s.topic := by
  have hsearched : ∀ test : Str → Bool, (s.search test).topic =
      if (!s.before.anyName test) = true then s.topic.cacheTopic else s.topic := by
    intro test
    rw [search_topic]
    cases s.before.anyName test <;> rfl
  cases e with
  | set field v => rfl
  | read => rfl
  | lookup l =>
    cases l with
    | getTopic name => exact hsearched _
    | getITopic name => exact hsearched _
    | deleteTopic name => exact (erase_topic _ _).trans (hsearched _)

theorem topic_of_reads {s : OwnedTopic P} {e : NameEvent} (h : s.reads e = true) :
    (s.step e).topic = s.topic.cacheTopic := by
  have hstep := s.step_topic e
  cases e with
  | set field v => cases h
  | _ => exact hstep.trans (if_pos h)

/-- The fields after the setters among the events. -/
def fieldsAfter (f : TopicFields) (es : List NameEvent) : TopicFields :=
  run (fun f e =>
    match e with
    | .set field v => f.set field v
    | _ => f) f es

theorem fields_run (s : OwnedTopic P) (es : List NameEvent) :
    (run step s es).topic.fields = fieldsAfter s.topic.fields es := by
  induction es generalizing s with
  | nil => rfl
  | cons e es ih =>
    have hnext : (s.step e).topic.fields =
        match e with
        | .set field v => s.topic.fields.set field v
        | _ => s.topic.fields := by
      rw [step_topic]
      cases e with
      | set field v => exact Topic.fields_setField field v s.topic
      | _ =>
        dsimp only
        split
        · rfl
        · rfl
    rw [run_cons, ih, hnext]
    rfl

theorem fieldsAfter_filter (f : TopicFields) (es : List NameEvent) :
    fieldsAfter f (es.filter NameEvent.isSet) = fieldsAfter f es := by
  induction es generalizing f with
  | nil => rfl
  | cons e es ih =>
    cases e with
    | set field v => exact ih (f.set field v)
    | _ => exact ih f

/-- Setters alone never give the topic a name of its own. -/
theorem topic_filter (s : OwnedTopic P) (es : List NameEvent) :
    (run step s (es.filter NameEvent.isSet)).topic.topic = s.topic.topic := by
  induction es generalizing s with
  | nil => rfl
  | cons e es ih =>
    cases e with
    | set field v => exact (ih _).trans (Topic.topic_setField field v s.topic)
    | _ => exact ih s

theorem memoizes : Memoizes (step (P := P)) reads (fun s => s.topic.fields.name)
    (fun s => s.topic.topic) [] fun _ _ => True where
  read s e _ h := by
    rw [topic_of_reads h]
    exact s.topic.topicName_eq
  other s e _ h := by
    have hstep := s.step_topic e
    cases e with
    | set field v =>
      rw [hstep]
      exact Topic.topic_setField field v s.topic
    | _ => rw [hstep.trans (if_neg (Bool.eq_false_iff.mp h))]

/-- The names that the fields give at the readings. -/
def readNames (s : OwnedTopic P) (es : List NameEvent) : List Str :=
  readValues step reads (fun s => s.topic.fields.name) s es

/-- Among the setters of a topic without a name, readings and lookups of other names, which act
on the list of the client, leave the name at the end as it would be without them exactly where
the first name that they read, if any, is that one. -/
theorem reads_leave_name_iff {s : OwnedTopic P} {es : List NameEvent}
    (hblank : s.topic.topic = []) (hmiss : RunOk step Misses s es) :
    (∀ pre l post, es = pre ++ .lookup l :: post →
      ((run step s pre).step (.lookup l)).list = (run step s pre).list.lookup l) ∧
    ((run step s es).topic.topicName =
        (run step s (es.filter NameEvent.isSet)).topic.topicName ↔
      ∀ name, (s.readNames es).find? (· ≠ []) = some name →
        name = (fieldsAfter s.topic.fields es).name) := by
  constructor
  · rintro pre l post rfl
    exact list_lookup hmiss.at
  · have hset : (run step s (es.filter NameEvent.isSet)).topic.topicName =
        (fieldsAfter s.topic.fields es).name := by
      rw [Topic.topicName_eq, if_pos ((topic_filter s es).trans hblank), fields_run,
        fieldsAfter_filter]
    rw [hset, Topic.topicName_eq, fields_run]
    exact memoizes.shown_eq_iff (RunOk.of_forall (fun _ _ => trivial) s es) hblank _

/-- A lookup of another topic in the middle of the setters freezes a part of the name. -/
theorem lookup_freezes_name :
    let s : OwnedTopic Platform.reference := { before := [], topic := {}, after := [] }
    let es : List NameEvent := [.set .nameSpace (str "a"), .lookup (.getTopic (str "x")),
      .set .groupId (str "b")]
    (run step s es).topic.topicName = str "a" ∧
      (run step s (es.filter NameEvent.isSet)).topic.topicName = str "a/b" := by
  decide +kernel

theorem late_lookup_leaves_name :
    let s : OwnedTopic Platform.reference := { before := [], topic := {}, after := [] }
    let es : List NameEvent := [.set .nameSpace (str "a"), .set .groupId (str "b"),
      .lookup (.deleteTopic (str "x"))]
    (∀ pre l post, es = pre ++ .lookup l :: post →
      ((run step s pre).step (.lookup l)).list = (run step s pre).list.lookup l) ∧
    ((run step s es).topic.topicName =
        (run step s (es.filter NameEvent.isSet)).topic.topicName ↔
      ∀ name, (s.readNames es).find? (· ≠ []) = some name →
        name = (fieldsAfter s.topic.fields es).name) :=
  reads_leave_name_iff rfl
    ⟨trivial, trivial, (by decide +kernel : Platform.reference.iEquals _ _ = false), trivial⟩

end OwnedTopic
end PubSub
