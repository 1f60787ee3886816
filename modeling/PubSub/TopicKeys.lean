import PubSub.ReceivedValues
import PubSub.Shared.KeyedList
import PubSub.Shared.Run

/-!
# The topics of a client as a map

A topic is looked up and made by its exact name, so the names in the list are distinct. It
is deleted by its name without regard to case, and the first such topic is the one to go.
-/

namespace PubSub
set_option autoImplicit false

/-- The calls of a plain client that make or delete topics. -/
inductive TopicCall where
  | addMetric (m : Metric)
  | message (m : ClientMessage)
  | deleteTopic (name : Str)

namespace TopicList
variable {P : Platform}

def call (list : TopicList P) : TopicCall → TopicList P
  | .addMetric m => ClientSys.addMetric m list
  | .message m => list.receiveMessage m
  | .deleteTopic name => list.deleteTopic name

def names (list : TopicList P) : List Str := list.map Topic.topicName

theorem names_updateTopic (name : Str) {f : Topic P → Topic P}
    (hf : ∀ t, (f t).topicName = t.topicName) (list : TopicList P) :
    names (ClientSys.updateTopic name f list) = list.names := by
  unfold names ClientSys.updateTopic
  induction list with
  | nil => rfl
  | cons a as ih =>
    cases ha : ClientSys.hasName name a with
    | true => simp [List.findIdx_cons, ha, hf]
    | false => simpa [List.findIdx_cons, ha] using ih

theorem nodup_ensureTopic {name : Str} (hne : name ≠ []) (publish : Bool) {list : TopicList P}
    (h : list.names.Nodup) : (names (ClientSys.ensureTopic name publish list)).Nodup := by
  unfold ClientSys.ensureTopic
  split
  · exact h
  · rename_i hnone
    have hnew : name ∉ list.names := by
      intro hmem
      obtain ⟨t, ht, hname⟩ := List.mem_map.mp hmem
      exact hnone (List.any_eq_true.mpr ⟨t, ht, decide_eq_true hname.symm⟩)
    have hname := newTopic_topicName (P := P) hne publish
    unfold newTopic at hname
    rw [names, List.map_append, List.map_cons, List.map_nil, hname]
    have hconcat := h.concat hnew
    rwa [List.concat_eq_append] at hconcat

theorem nodup_call (list : TopicList P) (c : TopicCall) (h : list.names.Nodup) :
    (list.call c).names.Nodup := by
  cases c with
  | addMetric m =>
    dsimp only [call]
    unfold ClientSys.addMetric
    split
    · exact h
    · rename_i hne
      rw [names_updateTopic]
      · exact nodup_ensureTopic hne true h
      · exact fun t => rfl
  | message m =>
    dsimp only [call]
    unfold receiveMessage
    split
    · exact h
    · rename_i hne
      rw [names_updateTopic m.topicName (topicName_messageTopic m)]
      exact nodup_ensureTopic hne false h
  | deleteTopic name => exact h.sublist (List.eraseP_sublist.map _)

theorem nodup_run (calls : List TopicCall) : (run call ([] : TopicList P) calls).names.Nodup :=
  run_preserves nodup_call calls List.nodup_nil

/-- `DeleteTopic(name)` takes the name out of the map, and no other name. -/
def DeletesExactly (list : TopicList P) (name : Str) : Prop :=
  (list.deleteTopic name).getTopic name = none ∧
    ∀ other, other ≠ name → (list.deleteTopic name).getTopic other = list.getTopic other

/-- The first topic with the name, whatever its case, has exactly this name. -/
def FirstIsExact (list : TopicList P) (name : Str) : Prop :=
  ∀ t, list.find? (fun t => P.iEquals name t.topicName) = some t → t.topicName = name

theorem deletesExactly_iff {list : TopicList P} (h : list.names.Nodup) (name : Str) :
    list.DeletesExactly name ↔ list.FirstIsExact name := by
  apply KeyedList.erasesExactly_iff h
  rintro t rfl
  exact P.iEquals_self t.topicName

/-- In every run the names are distinct, and a deletion is exact when no other spelling of
the name stands in front. -/
theorem topics_keyed_iff (calls : List TopicCall) :
    (run call ([] : TopicList P) calls).names.Nodup ∧
      ∀ name, (run call ([] : TopicList P) calls).DeletesExactly name ↔
        (run call ([] : TopicList P) calls).FirstIsExact name :=
  ⟨nodup_run calls, fun name => deletesExactly_iff (nodup_run calls) name⟩

/-- Two topics that differ in case, and the deletion of the second. -/
theorem other_topic_is_deleted :
    ¬ (run call ([] : TopicList .reference)
      [.addMetric { name := str "a/b" }, .addMetric { name := str "A/B" }]).DeletesExactly
        (str "A/B") := by
  intro h
  have hgone := congrArg Option.isSome h.1
  revert hgone
  decide +kernel

end TopicList
end PubSub
