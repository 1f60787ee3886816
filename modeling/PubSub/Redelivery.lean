import PubSub.Parties
import PubSub.DataWrites

/-!
# A data message that is delivered twice

A message may reach the receiver more than once. As long as a node sends only data between the
two deliveries, the first one might as well have been lost: the receiver ends with the same
mirrors, whatever the other parties sent.
-/

namespace PubSub
set_option autoImplicit false

namespace TopicList
variable {P : Platform}

theorem update_eq_self {messageType : Str} {f : Topic P → Topic P} (hf : ∀ t, f t = t)
    (list : TopicList P) : list.update messageType f = list := by
  induction list with
  | nil => rfl
  | cons t ts ih =>
    cases ht : hasMessageType messageType t with
    | true => simp [update, List.findIdx_cons, ht, hf]
    | false => rw [update_cons_ne _ _ ht, ih]

theorem receive_receive (messageType : Str) (first second : Payload P → Payload P)
    (list : TopicList P) : (list.receive messageType first).receive messageType second =
      list.receive messageType (second ∘ first) := by
  unfold receive
  cases ht : list.getTopicByMessageType messageType with
  | none =>
    dsimp only
    rw [ht]
  | some t =>
    dsimp only
    cases hpublish : t.publish with
    | true =>
      rw [if_pos rfl, if_pos rfl, ht]
      dsimp only
      rw [hpublish, if_pos rfl]
    | false =>
      have hfound := @find_update_self P messageType (fun t => t.onPayload first) (fun _ => rfl) list
      have hstored : ¬ (t.onPayload first).publish = true := by
        rw [show (t.onPayload first).publish = t.publish from rfl, hpublish]
        exact Bool.false_ne_true
      rw [if_neg Bool.false_ne_true, if_neg Bool.false_ne_true, hfound, ht, Option.map_some]
      dsimp only
      rw [if_neg hstored]
      exact update_update (f := fun t => t.onPayload first) (fun _ => rfl) _ list

theorem receive_id (messageType : Str) (list : TopicList P) :
    list.receive messageType id = list := by
  unfold receive
  split
  · rfl
  · split
    · rfl
    · exact update_eq_self (fun _ => rfl) list

theorem receive_congr {messageType : Str} {f g : Payload P → Payload P} {list : TopicList P}
    (h : ∀ t, list.getTopicByMessageType messageType = some t → f t.payload = g t.payload) :
    list.receive messageType f = list.receive messageType g := by
  unfold receive
  cases ht : list.getTopicByMessageType messageType with
  | none => rfl
  | some t =>
    dsimp only
    split
    · rfl
    · refine update_congr ht ?_
      unfold Topic.onPayload
      rw [h t ht]

end TopicList

namespace Delivery
variable {P : Platform}

/-- A data message of a node with the timestamps that such messages have. -/
structure IsData (P : Platform) (m : Delivery) : Prop where
  type : (m.topic P).messageType = str "NDATA"
  stamped : DataStep.Stamped P m.body

def dataSteps (P : Platform) (ms : List Delivery) : List DataStep :=
  ms.flatMap fun m => DataStep.ofBody P m.body

theorem introduced_data {m : Delivery} (h : IsData P m) :
    (m.introduced : Option (SparkplugNode P)) = none := by
  unfold introduced
  simp +decide [h.type]

theorem change_data {m : Delivery} (h : IsData P m) (n : SparkplugNode P) :
    m.change n = n.onTopics fun list =>
      list.receive (str "NBIRTH") fun p => run DataStep.step p (DataStep.ofBody P m.body) := by
  have hstore : Payload.receiveProtobuf (P := P) false m.now m.body =
      fun p => run DataStep.step p (DataStep.ofBody P m.body) :=
    funext (DataStep.receiveProtobuf_eq_run h.stamped m.now)
  unfold change
  simp +decide only [h.type, ↓reduceIte, hstore]

theorem run_hear_data {ms : List Delivery} (h : ∀ m ∈ ms, IsData P m)
    (mirror : Option (SparkplugNode P)) : run hear mirror ms =
      mirror.map fun n => n.onTopics fun list =>
        list.receive (str "NBIRTH") fun p => run DataStep.step p (dataSteps P ms) := by
  induction ms generalizing mirror with
  | nil =>
    have hid : (fun n : SparkplugNode P => n.onTopics fun list =>
        list.receive (str "NBIRTH") fun p => run DataStep.step p (dataSteps P [])) = id := by
      funext n
      unfold SparkplugNode.onTopics
      exact congrArg (fun list => { n with topicList := list }) (TopicList.receive_id _ _)
    rw [hid, Option.map_id]
    rfl
  | cons m ms ih =>
    have hm := h m List.mem_cons_self
    rw [run_cons, ih fun c hc => h c (List.mem_cons_of_mem m hc)]
    unfold hear
    rw [introduced_data hm, Option.or_none, Option.map_map]
    congr 1
    funext n
    simp only [Function.comp_apply, change_data hm]
    unfold SparkplugNode.onTopics
    dsimp only
    rw [TopicList.receive_receive]
    have hsteps : dataSteps P (m :: ms) = DataStep.ofBody P m.body ++ dataSteps P ms := rfl
    simp only [hsteps, run_append]
    rfl

/-- The metrics of the mirror that the steps meet get no text with a unit if they are numeric. -/
def Fits (ms : List Delivery) (n : SparkplugNode P) : Prop :=
  ∀ t, n.topicList.getTopicByMessageType (str "NBIRTH") = some t →
    ∀ e ∈ t.payload.metricList.entries, DataStep.Fits P (dataSteps P ms) e.1 e.2

/-- The first copy of a data message that comes again leaves nothing in the mirror. -/
theorem run_hear_redelivered {first again : Delivery} {mid : List Delivery}
    (hsame : again.body = first.body) (hdata : ∀ m ∈ first :: mid ++ [again], IsData P m)
    {mirror : Option (SparkplugNode P)}
    (hfits : ∀ n, mirror = some n → Fits (first :: mid ++ [again]) n) :
    run hear mirror (first :: mid ++ [again]) = run hear mirror (mid ++ [again]) := by
  have hrest : ∀ m ∈ mid ++ [again], IsData P m :=
    fun m hm => hdata m (List.mem_cons_of_mem first hm)
  rw [run_hear_data hdata, run_hear_data hrest]
  cases mirror with
  | none => rfl
  | some n =>
    have hsteps : dataSteps P (first :: mid ++ [again]) =
        DataStep.ofBody P first.body ++ dataSteps P (mid ++ [again]) := rfl
    have hagain : ∀ d ∈ DataStep.ofBody P first.body, d ∈ dataSteps P (mid ++ [again]) := by
      intro d hd
      refine List.mem_flatMap.mpr ⟨again, List.mem_append_right mid List.mem_cons_self, ?_⟩
      rw [hsame]
      exact hd
    have hover := DataStep.overwriting (P := P) (dataSteps P (first :: mid ++ [again]))
    have hlist : (n.topicList.receive (str "NBIRTH") fun p =>
        run DataStep.step p (dataSteps P (first :: mid ++ [again]))) =
          n.topicList.receive (str "NBIRTH") fun p =>
            run DataStep.step p (dataSteps P (mid ++ [again])) := by
      refine TopicList.receive_congr fun t ht => ?_
      have hpayload := hfits n rfl t ht
      rw [hsteps] at hover hpayload ⊢
      rw [run_append]
      exact hover.run_drop_word hpayload (fun d hd => List.mem_append_right _ hd) hagain
    exact congrArg (fun list => some { n with topicList := list }) hlist

end Delivery

namespace Receiver
variable {P : Platform}

/-- A data message that comes again later, while the node sends data only. -/
structure Redelivery (P : Platform) where
  receiver : Receiver P
  fresh : receiver.nodeList = []
  party : Party
  remote : receiver.self.answersTo party = false
  pre : List (ReceiverEvent P)
  first : Delivery
  mid : List (ReceiverEvent P)
  again : Delivery
  post : List (ReceiverEvent P)
  sender : first.party? P = some party
  sameName : again.topicName = first.topicName
  sameBody : again.body = first.body
  heard : RunOk step Heard receiver
    (pre ++ (.message first :: mid ++ [.message again]) ++ post)
  data : ∀ m ∈ first :: mid.filterMap (messageFor party), m.IsData P
  fits : ∀ n, (run step receiver pre).mirror party = some n →
    Delivery.Fits (first :: mid.filterMap (messageFor party) ++ [again]) n

namespace Redelivery

def delivered (s : Redelivery P) : List (ReceiverEvent P) :=
  s.pre ++ (.message s.first :: s.mid ++ [.message s.again]) ++ s.post

def lost (s : Redelivery P) : List (ReceiverEvent P) :=
  s.pre ++ (s.mid ++ [.message s.again]) ++ s.post

theorem messages_of_others (s : Redelivery P) {a : Party} (ha : a ≠ s.party) :
    s.delivered.filterMap (messageFor a) = s.lost.filterMap (messageFor a) := by
  have hfirst : messageFor a (.message s.first : ReceiverEvent P) = none := by
    have hne : ¬ some s.party = some a := fun h => ha (Option.some.inj h).symm
    simp only [messageFor, s.sender, if_neg hne]
  simp only [delivered, lost, List.filterMap_append, List.cons_append,
    List.filterMap_cons_none hfirst]

theorem own_messages (s : Redelivery P) :
    run Delivery.hear none (s.delivered.filterMap (messageFor s.party)) =
      run Delivery.hear (none : Option (SparkplugNode P))
        (s.lost.filterMap (messageFor s.party)) := by
  have hfirst : messageFor s.party (.message s.first : ReceiverEvent P) = some s.first := by
    simp only [messageFor, s.sender, if_true]
  have htopic : s.again.topic P = s.first.topic P := by
    unfold Delivery.topic
    rw [s.sameName]
  have hsender : s.again.party? P = some s.party := by
    rw [← s.sender]
    unfold Delivery.party?
    rw [htopic]
  have hagain : messageFor s.party (.message s.again : ReceiverEvent P) = some s.again := by
    simp only [messageFor, hsender, if_true]
  have hdata : ∀ m ∈ s.first :: s.mid.filterMap (messageFor s.party) ++ [s.again],
      m.IsData P := by
    intro m hm
    rcases List.mem_append.mp hm with hm | hm
    · exact s.data m hm
    · rw [List.mem_singleton.mp hm]
      obtain ⟨htype, hstamped⟩ := s.data s.first List.mem_cons_self
      exact ⟨htopic ▸ htype, s.sameBody ▸ hstamped⟩
  have hpre : RunOk step Heard s.receiver s.pre := by
    have hheard := s.heard
    rw [List.append_assoc] at hheard
    exact (runOk_append.mp hheard).1
  have hfits := s.fits
  rw [mirror_run s.fresh s.remote hpre] at hfits
  have hsame := Delivery.run_hear_redelivered s.sameBody hdata hfits
  have hdelivered : s.delivered.filterMap (messageFor s.party) =
      s.pre.filterMap (messageFor s.party) ++
        (s.first :: s.mid.filterMap (messageFor s.party) ++ [s.again]) ++
          s.post.filterMap (messageFor s.party) := by
    simp only [delivered, List.filterMap_append, List.cons_append,
      List.filterMap_cons_some hfirst, List.filterMap_cons_some hagain, List.filterMap_nil]
  have hlost : s.lost.filterMap (messageFor s.party) =
      s.pre.filterMap (messageFor s.party) ++
        (s.mid.filterMap (messageFor s.party) ++ [s.again]) ++
          s.post.filterMap (messageFor s.party) := by
    simp only [lost, List.filterMap_append, List.filterMap_cons_some hagain, List.filterMap_nil]
  have hrun : ∀ ms, run Delivery.hear (none : Option (SparkplugNode P))
      (s.pre.filterMap (messageFor s.party) ++ ms ++ s.post.filterMap (messageFor s.party)) =
      run Delivery.hear (run Delivery.hear (run Delivery.hear none
        (s.pre.filterMap (messageFor s.party))) ms) (s.post.filterMap (messageFor s.party)) := by
    intro ms
    rw [run_append, run_append]
  rw [hdelivered, hlost, hrun, hrun, hsame]

end Redelivery

/-- Events that the receiver hears in one order it hears one by one. -/
theorem runOk_heard_iff {r : Receiver P} {es : List (ReceiverEvent P)} :
    RunOk step Heard r es ↔ ∀ e ∈ es, r.Heard e := by
  induction es generalizing r with
  | nil => simp [RunOk]
  | cons e es ih =>
    have hsame : r.FixedIdentity e → ∀ d, (r.step e).Heard d ↔ r.Heard d := by
      intro he d
      have hself := self_identity_step he
      cases d with
      | message m => exact Iff.rfl
      | own self =>
        unfold Heard FixedIdentity
        rw [hself]
    rw [RunOk, ih, List.forall_mem_cons]
    refine and_congr_right fun he => forall₂_congr fun d _ => hsame he.1 d

/-- A data message that comes again makes its first copy redundant: without that copy the
receiver has the same mirrors in the end, and the same answer about the hosts. -/
theorem redelivered_data_redundant (s : Redelivery P) :
    (run step s.receiver s.delivered).nodeList.Perm (run step s.receiver s.lost).nodeList ∧
      (run step s.receiver s.delivered).isHostOnline =
        (run step s.receiver s.lost).isHostOnline := by
  have hlost : RunOk step Heard s.receiver s.lost := by
    have hall := runOk_heard_iff.mp s.heard
    refine runOk_heard_iff.mpr fun e he => hall e ?_
    unfold Redelivery.lost at he
    simp only [List.mem_append, List.mem_cons] at he ⊢
    tauto
  have hperm : (run step s.receiver s.delivered).nodeList.Perm
      (run step s.receiver s.lost).nodeList := by
    refine perm_of_mirrors s.fresh s.heard hlost fun a ha => ?_
    have hdelivered : RunOk step Heard s.receiver s.delivered := s.heard
    rw [mirror_run s.fresh ha hdelivered,
      mirror_run s.fresh ha hlost]
    by_cases hparty : a = s.party
    · subst hparty
      exact s.own_messages
    · rw [s.messages_of_others hparty]
  exact ⟨hperm, isHostOnline_of_perm hperm⟩

def reading (v : UInt32) : PbPayload where
  timestamp := some 5
  metrics := [{ name := some (str "Level"), timestamp := some 5, value := .intValue v }]

def levelData (v : UInt32) : Delivery where
  topicName := str "spBv1.0/G/NDATA/H"
  now := 7
  body := ProtobufCodec.serialize (reading v)

theorem read_levelData (v : UInt32) :
    DataStep.read Platform.reference (levelData v).body = some (reading v) := by
  have hparse := ProtobufCodec.parse_serialize (reading v)
  unfold DataStep.read
  rw [if_neg]
  · change (ProtobufCodec.parse (ProtobufCodec.serialize (reading v))).bind _ = _
    rw [hparse]
    rfl
  · intro hnil
    change ProtobufCodec.serialize (reading v) = [] at hnil
    rw [hnil, ProtobufCodec.parse_nil] at hparse
    have htime := congrArg PbPayload.timestamp (Option.some.inj hparse)
    cases htime

theorem levelData_isData (v : UInt32) : (levelData v).IsData Platform.reference where
  type := by
    change (parseTopic Platform.reference (str "spBv1.0/G/NDATA/H")).messageType = str "NDATA"
    decide +kernel
  stamped := by
    intro pb hpb
    rw [read_levelData] at hpb
    obtain rfl := Option.some.inj hpb
    simp [reading]

theorem levelData_bringsNoUnit {v : UInt32} {pb : PbMetric}
    (h : .entry pb ∈ DataStep.ofBody Platform.reference (levelData v).body) :
    pb.value.mayBringUnit = false := by
  unfold DataStep.ofBody at h
  rw [read_levelData] at h
  simp only [reading, List.mem_cons, List.map_cons, List.map_nil, List.not_mem_nil, or_false,
    reduceCtorEq, false_or, DataStep.entry.injEq] at h
  rw [h]
  rfl

/-- What the receiver hears between the two copies of a reading. -/
def levelMid : List (ReceiverEvent Platform.reference) :=
  [.message { topicName := str "spBv1.0/STATE/k", now := 6, body := [] }, .message (levelData 2)]

theorem levelMid_messages {m : Delivery}
    (hm : m ∈ levelMid.filterMap (messageFor (.node [103] [104]))) : m = levelData 2 := by
  obtain ⟨e, he, hmessage⟩ := List.mem_filterMap.mp hm
  simp only [levelMid, List.mem_cons, List.not_mem_nil, or_false] at he
  rcases he with rfl | rfl
  · have hhost : Delivery.party? Platform.reference ⟨str "spBv1.0/STATE/k", 6, []⟩ =
        some (.host [107]) := by decide +kernel
    simp [messageFor, hhost] at hmessage
  · unfold messageFor at hmessage
    dsimp only at hmessage
    split at hmessage
    · exact (Option.some.inj hmessage).symm
    · cases hmessage

/-- A node of the name of the receiver sends two readings, and the first one comes again. -/
def levelAgain : Redelivery Platform.reference where
  receiver := namesake
  fresh := rfl
  party := .node [103] [104]
  remote := by decide +kernel
  pre := [.message { topicName := str "spBv1.0/G/NBIRTH/H", now := 3,
                     body := ProtobufCodec.serialize (reading 0) }]
  first := levelData 1
  mid := levelMid
  again := { levelData 1 with now := 9 }
  post := []
  sender := by
    change Delivery.party? Platform.reference ⟨str "spBv1.0/G/NDATA/H", _, _⟩ = _
    exact (by decide +kernel : Delivery.party? Platform.reference
      ⟨str "spBv1.0/G/NDATA/H", 7, []⟩ = some (.node [103] [104]))
  sameName := rfl
  sameBody := rfl
  heard := heard_of_texts (by simp +decide [levelMid, levelData])
  data := by
    intro m hm
    rcases List.mem_cons.mp hm with rfl | hm
    · exact levelData_isData 1
    · rw [levelMid_messages hm]
      exact levelData_isData 2
  fits := by
    intro n _ t _ e _ pb hpb _ hunit
    obtain ⟨m, hm, hentry⟩ := List.mem_flatMap.mp hpb
    have hbody : ∃ v, m.body = (levelData v).body := by
      rcases List.mem_append.mp hm with hm | hm
      · rcases List.mem_cons.mp hm with rfl | hm
        · exact ⟨1, rfl⟩
        · exact ⟨2, by rw [levelMid_messages hm]⟩
      · exact ⟨1, by rw [List.mem_singleton.mp hm]⟩
    obtain ⟨v, hv⟩ := hbody
    rw [hv] at hentry
    rw [levelData_bringsNoUnit hentry] at hunit
    cases hunit

theorem levelAgain_redundant :
    (run step levelAgain.receiver levelAgain.delivered).nodeList.Perm
        (run step levelAgain.receiver levelAgain.lost).nodeList ∧
      (run step levelAgain.receiver levelAgain.delivered).isHostOnline =
        (run step levelAgain.receiver levelAgain.lost).isHostOnline :=
  redelivered_data_redundant levelAgain

end Receiver
end PubSub
