import PubSub.MirrorIdentity
import PubSub.HostMirror
import PubSub.Reference

/-!
# What a node knows of the hosts

A node shows a host as online exactly if the last STATE message of some host that could be
parsed said so. The messages of one host go into one mirror, and no other handler touches
the STATE topic of a mirror.
-/

namespace PubSub
set_option autoImplicit false

/-- The object has the member `online` once, without regard to case, and it is a Boolean. -/
def AnnouncesOnce (P : Platform) (members : JsonMembers) : Prop :=
  ∃ before v after, members = before ++ (str "online", .bool v) :: after ∧
    ∀ m ∈ before ++ after, P.foldKey m.1 ≠ P.foldKey (str "online")

def onlineMember : Str × JsonValue → Option Bool
  | (name, .bool v) => if name = str "online" then some v else none
  | _ => none

namespace Delivery

/-- The members of the object that a STATE message of a host carries, `none` for any other
message and for a body that is not an object. -/
def stateMembers (P : Platform) (m : Delivery) : Option JsonMembers :=
  if (m.topic P).messageType = str "STATE" ∧ (m.topic P).nodeId ≠ [] ∧ m.body ≠ [] then
    P.parseJson (cString m.body)
  else none

/-- The host of a STATE message that can be parsed, and what the message says of it. -/
def report (P : Platform) (m : Delivery) : Option (Str × Bool) :=
  ((m.stateMembers P).bind fun members => members.findSome? onlineMember).map fun v =>
    ((m.topic P).nodeId, v)

end Delivery

/-- The last report of a host, whose name is compared ignoring case. -/
def lastReport (P : Platform) (host : Str) (ms : List Delivery) : Option Bool :=
  (((ms.filterMap (Delivery.report P)).filter fun a => P.iEquals a.1 host).getLast?).map Prod.snd

theorem lastReport_append (P : Platform) (host : Str) (ms : List Delivery) (m : Delivery) :
    lastReport P host (ms ++ [m]) =
      match m.report P with
      | none => lastReport P host ms
      | some a => if P.iEquals a.1 host then some a.2 else lastReport P host ms := by
  unfold lastReport
  rw [List.filterMap_append, List.filter_append]
  cases hreport : m.report P with
  | none => simp [hreport]
  | some a =>
    dsimp only
    split
    · rename_i hnamed
      have hlast : (List.filterMap (Delivery.report P) [m]).filter
          (fun a => P.iEquals a.1 host) = [a] := by
        rw [List.filterMap_cons_some hreport]
        exact List.filter_cons_of_pos hnamed
      rw [hlast, List.getLast?_concat, Option.map_some]
    · rename_i hnamed
      have hlast : (List.filterMap (Delivery.report P) [m]).filter
          (fun a => P.iEquals a.1 host) = [] := by
        rw [List.filterMap_cons_some hreport]
        exact List.filter_cons_of_neg hnamed
      rw [hlast, List.append_nil]

namespace SparkplugNode
variable {P : Platform}

def announcesOnline (n : SparkplugNode P) : Bool :=
  match n.topicList.getTopicByMessageType (str "STATE") with
  | none => false
  | some t => t.payload.getBoolValue (str "online")

/-- What `IsHostOnline` reads of a client. -/
def view (n : SparkplugNode P) : Option (Str × Bool) :=
  if n.isHost then some (n.name, n.announcesOnline) else none

theorem view_onTopics {f : TopicList P → TopicList P}
    (hf : ∀ list : TopicList P, (f list).getTopicByMessageType (str "STATE") =
      list.getTopicByMessageType (str "STATE")) (n : SparkplugNode P) :
    (n.onTopics f).view = n.view := by
  have honline : (n.onTopics f).announcesOnline = n.announcesOnline := by
    unfold announcesOnline onTopics
    rw [hf]
  unfold view
  rw [honline]
  rfl

theorem view_onDevice (device : Str) (f : TopicList P → TopicList P) (n : SparkplugNode P) :
    (n.onDevice device f).view = n.view := by
  obtain ⟨devices, hframe⟩ := n.onDevice_frame device f
  rw [hframe]
  rfl

theorem view_deviceBirth (device : Str) (now : UInt64) (body : BodyList) (n : SparkplugNode P) :
    (Receiver.deviceBirth device now body n).view = n.view := by
  obtain ⟨devices, hframe⟩ := Receiver.deviceBirth_frame device now body n
  rw [hframe]
  rfl

end SparkplugNode

namespace Receiver
variable {P : Platform}

def views (r : Receiver P) : List (Option (Str × Bool)) := r.nodeList.map SparkplugNode.view

/-- Some mirrored host with the key is shown as online. -/
def ShowsOnline (r : Receiver P) (key : List Nat) : Prop :=
  ∃ name, some (name, true) ∈ r.views ∧ P.foldKey name = key

theorem isHostOnline_iff (r : Receiver P) :
    r.isHostOnline = true ↔ ∃ key, r.ShowsOnline key := by
  have hany : r.isHostOnline = r.nodeList.any fun n => n.isHost && n.announcesOnline := rfl
  rw [hany, List.any_eq_true]
  constructor
  · rintro ⟨n, hn, honline⟩
    obtain ⟨hhost, hsays⟩ := Bool.and_eq_true_iff.mp honline
    refine ⟨_, n.name, List.mem_map.mpr ⟨n, hn, ?_⟩, rfl⟩
    rw [SparkplugNode.view, if_pos hhost, hsays]
  · rintro ⟨_, name, hname, -⟩
    obtain ⟨n, hn, hview⟩ := List.mem_map.mp hname
    unfold SparkplugNode.view at hview
    split at hview
    · rename_i hhost
      have hsays := congrArg Prod.snd (Option.some.inj hview)
      exact ⟨n, hn, Bool.and_eq_true_iff.mpr ⟨hhost, hsays⟩⟩
    · cases hview

/-- The hosts that are online stay the same. -/
def SameOnline (r s : Receiver P) : Prop := ∀ key, s.ShowsOnline key ↔ r.ShowsOnline key

theorem SameOnline.refl (r : Receiver P) : SameOnline r r := fun _ => Iff.rfl

theorem SameOnline.trans {r s t : Receiver P} (hrs : SameOnline r s) (hst : SameOnline s t) :
    SameOnline r t := fun key => (hst key).trans (hrs key)

theorem sameOnline_of_views {r s : Receiver P} (h : s.views = r.views) : SameOnline r s := by
  intro key
  unfold ShowsOnline
  rw [h]

theorem sameOnline_update (target : Target) {f : SparkplugNode P → SparkplugNode P}
    (hf : ∀ n, (f n).view = n.view) (r : Receiver P) : SameOnline r (r.update target f) :=
  sameOnline_of_views (nodeList_update target hf r)

theorem sameOnline_addRemote {n : SparkplugNode P} (h : ∀ name, n.view ≠ some (name, true))
    (r : Receiver P) : SameOnline r (r.addRemote n) := by
  intro key
  have hviews : (r.addRemote n).views = r.views ++ [n.view] := by simp [views, addRemote]
  unfold ShowsOnline
  rw [hviews]
  constructor
  · rintro ⟨name, hname, hkey⟩
    rcases List.mem_append.mp hname with hname | hname
    · exact ⟨name, hname, hkey⟩
    · exact absurd (List.mem_singleton.mp hname).symm (h name)
  · rintro ⟨name, hname, hkey⟩
    exact ⟨name, List.mem_append_left _ hname, hkey⟩

theorem sameOnline_ensureNode (group node : Str) (now : UInt64) (r : Receiver P) :
    SameOnline r (r.ensureNode group node now) := by
  unfold ensureNode
  split
  · exact .refl r
  · exact sameOnline_addRemote (fun name h => by cases h) r

/-- The payload that the constructor of a host makes. -/
theorem getBoolValue_newState {p : Payload P} (h : p.getMetric (str "online") = none)
    (f : Metric → Metric) (ms : UInt64) :
    (((p.withBoolean (str "online")).withMetric (str "timestamp") f).setTimestamp ms
      false).getBoolValue (str "online") = false := by
  have hfirst : (p.withBoolean (str "online")).getMetric (str "online") =
      some (Metric.setBool { name := str "online", datatype := .boolean } false) :=
    Payload.getMetric_withMetric _ h
  have hne : P.foldKey (str "online") ≠ P.foldKey (str "timestamp") := P.foldKey_ne (by decide)
  have hother : (((p.withBoolean (str "online")).withMetric (str "timestamp") f).setTimestamp ms
      false).getMetric (str "online") = (p.withBoolean (str "online")).getMetric (str "online") :=
    (FoldedMap.get?_update_ne _ _ hne).trans
      ((FoldedMap.get?_update_ne _ _ hne).trans (FoldedMap.get?_insert_ne _ _ hne))
  rw [Payload.getBoolValue, hother, hfirst]
  rfl

theorem view_newHost (hostName : Str) (now : UInt64) :
    ({ SparkplugHost.create now with name := hostName } : SparkplugNode P).view =
      some (hostName, false) := by
  obtain ⟨t, ht, hvalue⟩ : ∃ t,
      (SparkplugHost.create (P := P) now).topicList.getTopicByMessageType (str "STATE") = some t ∧
        t.payload.getBoolValue (str "online") = false := by
    refine ⟨_, TopicList.find_cons_self [] rfl, ?_⟩
    apply getBoolValue_newState
    rw [Topic.setTopic_payload]
    rfl
  unfold SparkplugNode.view SparkplugNode.announcesOnline
  dsimp only
  rw [ht]
  dsimp only
  rw [hvalue]
  rfl

theorem sameOnline_ensureHost (hostName : Str) (now : UInt64) (r : Receiver P) :
    SameOnline r (r.ensureHost hostName now) := by
  unfold ensureHost
  split
  · exact .refl r
  · refine sameOnline_addRemote (fun name h => ?_) r
    rw [view_newHost] at h
    have hfalse := congrArg Prod.snd (Option.some.inj h)
    cases hfalse

theorem OneMirrorEach.host_index {r : Receiver P} (h : r.OneMirrorEach) {i j : Nat}
    {m n : SparkplugNode P} (hm : r.nodeList[i]? = some m) (hn : r.nodeList[j]? = some n)
    (hmhost : m.isHost = true) (hnhost : n.isHost = true)
    (hname : P.foldKey m.name = P.foldKey n.name) : i = j := by
  have hlist : r.nodeList.Pairwise fun a b => ¬ a.identity.SameParty P b.identity :=
    List.pairwise_map.mp (List.pairwise_cons.mp h).2
  rw [List.pairwise_iff_getElem] at hlist
  obtain ⟨hi, hmi⟩ := List.getElem?_eq_some_iff.mp hm
  obtain ⟨hj, hnj⟩ := List.getElem?_eq_some_iff.mp hn
  have hnot : ∀ a b : SparkplugNode P, a.isHost = true → b.isHost = true →
      P.foldKey a.name = P.foldKey b.name → a.identity.SameParty P b.identity := by
    intro a b ha hb hab
    refine ⟨ha.trans hb.symm, (P.iEquals_iff _ _).mpr hab, fun hnode => ?_⟩
    exact absurd (ha.symm.trans hnode) (by decide)
  rcases Nat.lt_trichotomy i j with hlt | heq | hgt
  · have hdiffer := hlist i j hi hj hlt
    rw [hmi, hnj] at hdiffer
    exact absurd (hnot m n hmhost hnhost hname) hdiffer
  · exact heq
  · have hdiffer := hlist j i hj hi hgt
    rw [hmi, hnj] at hdiffer
    exact absurd (hnot n m hnhost hmhost hname.symm) hdiffer

/-- The mirror of a host after its STATE message was stored. -/
theorem showsOnline_update {r : Receiver P} (h : r.OneMirrorEach) {i : Nat} {n : SparkplugNode P}
    (hn : r.nodeList[i]? = some n) (hhost : n.isHost = true)
    {f : SparkplugNode P → SparkplugNode P} {v : Bool} (hf : (f n).view = some (n.name, v))
    (key : List Nat) :
    (r.update (.remote i) f).ShowsOnline key ↔
      if P.foldKey n.name = key then v = true else r.ShowsOnline key := by
  have hat : (r.update (.remote i) f).views[i]? = some (some (n.name, v)) := by
    simp only [views, update, List.getElem?_map, List.getElem?_modify, hn]
    simp [hf]
  have hother : ∀ j, i ≠ j → (r.update (.remote i) f).views[j]? = r.views[j]? := by
    intro j hij
    simp only [views, update, List.getElem?_map, List.getElem?_modify]
    simp [hij]
  have hdiffer : ∀ (j : Nat) (name : Str) (w : Bool), i ≠ j →
      r.views[j]? = some (some (name, w)) → P.foldKey n.name ≠ P.foldKey name := by
    intro j name w hij hj hname
    simp only [views, List.getElem?_map] at hj
    obtain ⟨m, hm, hview⟩ := Option.map_eq_some_iff.mp hj
    unfold SparkplugNode.view at hview
    split at hview
    · rename_i hmhost
      have hmname : m.name = name := congrArg Prod.fst (Option.some.inj hview)
      exact hij (h.host_index hn hm hhost hmhost (hmname ▸ hname))
    · cases hview
  constructor
  · rintro ⟨name, hname, hkey⟩
    obtain ⟨j, hj⟩ := List.mem_iff_getElem?.mp hname
    by_cases hij : i = j
    · rw [← hij, hat] at hj
      obtain ⟨rfl, rfl⟩ := Prod.mk.inj (Option.some.inj (Option.some.inj hj))
      rw [if_pos hkey]
    · rw [hother j hij] at hj
      rw [if_neg (hkey ▸ hdiffer j name true hij hj)]
      exact ⟨name, List.mem_of_getElem? hj, hkey⟩
  · intro hshows
    split at hshows
    · rename_i hkey
      rw [hshows] at hat
      exact ⟨n.name, List.mem_of_getElem? hat, hkey⟩
    · rename_i hkey
      obtain ⟨name, hname, hnamekey⟩ := hshows
      obtain ⟨j, hj⟩ := List.mem_iff_getElem?.mp hname
      by_cases hij : i = j
      · rw [← hij] at hj
        simp only [views, List.getElem?_map, hn, Option.map_some] at hj
        have hview := Option.some.inj hj
        unfold SparkplugNode.view at hview
        rw [if_pos hhost] at hview
        have hname : n.name = name := congrArg Prod.fst (Option.some.inj hview)
        exact absurd ((congrArg P.foldKey hname).trans hnamekey) hkey
      · rw [← hother j hij] at hj
        exact ⟨name, List.mem_of_getElem? hj, hnamekey⟩

theorem view_received {n : SparkplugNode P} (h : n.KeepsState) (hhost : n.isHost = true)
    {body : BodyList} {v : Bool}
    (hv : ∀ p : Payload P, (p.receiveJson body).getBoolValue (str "online") = v) :
    (n.onTopics fun list => list.receive (str "STATE") (Payload.receiveJson body)).view =
      some (n.name, v) := by
  obtain ⟨t, ht, hpublish⟩ := h hhost
  have hfind := TopicList.find_receive (str "STATE") (Payload.receiveJson body) n.topicList
  rw [ht, Option.map_some, if_neg (by rw [hpublish]; decide)] at hfind
  have honline : (n.onTopics fun list =>
      list.receive (str "STATE") (Payload.receiveJson body)).announcesOnline = v := by
    unfold SparkplugNode.announcesOnline SparkplugNode.onTopics
    rw [hfind]
    exact hv t.payload
  have hview : (n.onTopics fun list => list.receive (str "STATE") (Payload.receiveJson body)).view =
      some (n.name, (n.onTopics fun list =>
        list.receive (str "STATE") (Payload.receiveJson body)).announcesOnline) := if_pos hhost
  rw [hview, honline]

/-- A body that is not an object leaves what is shown. -/
theorem view_unparsed {body : BodyList} (h : body = [] ∨ P.parseJson (cString body) = none)
    (n : SparkplugNode P) :
    (n.onTopics fun list => list.receive (str "STATE") (Payload.receiveJson body)).view =
      n.view := by
  have hvalue : ∀ p : Payload P, (p.receiveJson body).getBoolValue (str "online") =
      p.getBoolValue (str "online") := by
    intro p
    unfold Payload.receiveJson Payload.receive
    dsimp only
    split
    · rfl
    · rename_i hbody
      unfold Payload.parseSparkplugJson Payload.bodyToString
      rw [h.resolve_left hbody]
      rfl
  have honline : (n.onTopics fun list =>
      list.receive (str "STATE") (Payload.receiveJson body)).announcesOnline =
        n.announcesOnline := by
    unfold SparkplugNode.announcesOnline SparkplugNode.onTopics
    dsimp only
    rw [TopicList.find_receive]
    cases n.topicList.getTopicByMessageType (str "STATE") with
    | none => rfl
    | some t =>
      dsimp only [Option.map_some]
      split
      · rfl
      · exact hvalue t.payload
  unfold SparkplugNode.view
  rw [honline]
  rfl

/-- What a STATE message of a host does to what is shown. -/
theorem showsOnline_state {r : Receiver P} (hself : r.self.isHost = false)
    (hmirrors : r.Mirrors SparkplugNode.KeepsState) (hone : r.OneMirrorEach) {hostName : Str}
    (hname : hostName ≠ []) (now : UInt64) {body : BodyList} {v : Bool}
    (hv : ∀ p : Payload P, (p.receiveJson body).getBoolValue (str "online") = v)
    (key : List Nat) :
    (r.handleStateMessage hostName now body).ShowsOnline key ↔
      if P.foldKey hostName = key then v = true else r.ShowsOnline key := by
  obtain ⟨i, n, htarget, hn, hhost⟩ := getHost_ensureHost hself hostName now
  have hkeeps := hmirrors.ensureHost SparkplugNode.keepsState_invariant hostName now
  have hensured := (grows_ensureHost hostName now r).oneMirrorEach hone
  have hnamed : P.foldKey n.name = P.foldKey hostName := by
    obtain ⟨m, hm, hmnamed⟩ := getHost_spec htarget
    rw [← Option.some.inj (hn.symm.trans hm)] at hmnamed
    exact ((P.iEquals_iff _ _).mp (Bool.and_eq_true_iff.mp hmnamed).2).symm
  unfold handleStateMessage
  rw [if_neg hname]
  dsimp only
  rw [htarget]
  dsimp only
  rw [showsOnline_update hensured hn hhost
    (view_received (hkeeps n (List.mem_of_getElem? hn)) hhost hv) key, hnamed,
    sameOnline_ensureHost hostName now r key]

theorem sameOnline_unparsed {body : BodyList} (h : body = [] ∨ P.parseJson (cString body) = none)
    (hostName : Str) (now : UInt64) (r : Receiver P) :
    SameOnline r (r.handleStateMessage hostName now body) := by
  unfold handleStateMessage
  split
  · exact .refl r
  · have hensured := sameOnline_ensureHost hostName now r
    dsimp only
    split
    · exact hensured
    · exact hensured.trans (sameOnline_update _ (view_unparsed h) _)

theorem view_received_ne {messageType : Str}
    (hne : lower (cString messageType) ≠ lower (cString (str "STATE")))
    (store : Payload P → Payload P) (n : SparkplugNode P) :
    (n.onTopics fun list => list.receive messageType store).view = n.view :=
  SparkplugNode.view_onTopics (TopicList.find_receive_ne hne store) n

theorem sameOnline_ensured {r s : Receiver P} {now : UInt64} (h : Ensured r now s) :
    SameOnline r s := by
  cases h with
  | known => exact .refl r
  | host _ => exact sameOnline_ensureHost _ now r
  | node _ _ => exact sameOnline_ensureNode _ _ now r

/-- A message of another type than STATE changes nothing that is shown of a client. -/
theorem Change.view {messageType : Str} (hne : messageType ≠ str "STATE") {now : UInt64}
    {body : BodyList} {target : Target} {f : SparkplugNode P → SparkplugNode P}
    (h : Change messageType now body target f) (n : SparkplugNode P) : (f n).view = n.view := by
  cases h with
  | state _ hstate => exact absurd hstate hne
  | birth _ | data _ => exact view_received_ne (by decide) _ n
  | death _ =>
    exact SparkplugNode.view_onTopics
      (TopicList.find_receiveDeath_ne (by decide) (by decide) _) n
  | command =>
    have hnbirth : lower (cString (str "NBIRTH")) ≠ lower (cString (str "STATE")) := by decide
    exact SparkplugNode.view_onTopics (TopicList.find_update_ne
      (f := fun t => t.onPayload (Payload.receiveProtobuf false now body)) (fun _ => rfl) hnbirth) n
  | deviceBirth _ device => exact SparkplugNode.view_deviceBirth device now body n
  | deviceDeath _ device | deviceUpdate _ device => exact SparkplugNode.view_onDevice device _ n

/-- No other message touches what is shown of the hosts. -/
theorem sameOnline_message {r : Receiver P} {topicName : Str}
    (h : (parseTopic P topicName).messageType ≠ str "STATE") (now : UInt64) (body : BodyList) :
    SameOnline r (r.message topicName now body) := by
  have heffect := r.effect_message topicName now body
  generalize r.message topicName now body = next at heffect ⊢
  cases heffect with
  | ensured hs => exact sameOnline_ensured hs
  | changed hs hf => exact (sameOnline_ensured hs).trans (sameOnline_update _ (hf.view h) _)

theorem message_state {topicName : Str}
    (h : (parseTopic P topicName).messageType = str "STATE") (r : Receiver P) (now : UInt64)
    (body : BodyList) : r.message topicName now body =
      r.handleStateMessage (parseTopic P topicName).nodeId now body := by
  unfold message
  dsimp only
  rw [if_pos h]

theorem findSome?_announced {before after : JsonMembers} {v : Bool}
    (h : ∀ m ∈ before ++ after, P.foldKey m.1 ≠ P.foldKey (str "online")) :
    (before ++ (str "online", .bool v) :: after).findSome? onlineMember = some v := by
  have hbefore : before.findSome? onlineMember = none := by
    rw [List.findSome?_eq_none_iff]
    rintro ⟨name, value⟩ hm
    have hne : name ≠ str "online" := fun heq =>
      h _ (List.mem_append_left _ hm) (congrArg P.foldKey heq)
    cases value <;> simp [onlineMember, hne]
  rw [List.findSome?_append, hbefore]
  rfl

/-- What one message does to what is shown of the hosts. -/
theorem showsOnline_deliver {r : Receiver P} (hself : r.self.isHost = false)
    (hmirrors : r.Mirrors SparkplugNode.KeepsState) (hone : r.OneMirrorEach) {m : Delivery}
    (hstate : ∀ members, m.stateMembers P = some members → AnnouncesOnce P members)
    (key : List Nat) :
    (r.deliver m).ShowsOnline key ↔
      match m.report P with
      | none => r.ShowsOnline key
      | some a => if P.foldKey a.1 = key then a.2 = true else r.ShowsOnline key := by
  by_cases htype : (m.topic P).messageType = str "STATE"
  · have hmessage : r.deliver m = r.handleStateMessage (m.topic P).nodeId m.now m.body :=
      message_state htype r m.now m.body
    rw [hmessage]
    by_cases hname : (m.topic P).nodeId = []
    · have hnone : m.report P = none := by simp [Delivery.report, Delivery.stateMembers, hname]
      have hsame : r.handleStateMessage (m.topic P).nodeId m.now m.body = r := by
        unfold handleStateMessage
        rw [if_pos hname]
      rw [hnone, hsame]
    · cases hmembers : m.stateMembers P with
      | none =>
        have hnone : m.report P = none := by simp [Delivery.report, hmembers]
        rw [hnone]
        apply sameOnline_unparsed
        by_cases hbody : m.body = []
        · exact .inl hbody
        · unfold Delivery.stateMembers at hmembers
          rw [if_pos ⟨htype, hname, hbody⟩] at hmembers
          exact .inr hmembers
      | some members =>
        obtain ⟨before, v, after, rfl, hsingle⟩ := hstate members hmembers
        have hreport : m.report P = some ((m.topic P).nodeId, v) := by
          rw [Delivery.report, hmembers, Option.bind_some, findSome?_announced hsingle]
          rfl
        rw [hreport]
        unfold Delivery.stateMembers at hmembers
        split at hmembers
        · rename_i hparsed
          refine showsOnline_state hself hmirrors hone hname m.now ?_ key
          exact Payload.getBoolValue_received hparsed.2.2 hmembers
            fun a ha => hsingle a (List.mem_append_right _ ha)
        · cases hmembers
  · have hnone : m.report P = none := by simp [Delivery.report, Delivery.stateMembers, htype]
    rw [hnone]
    exact sameOnline_message htype m.now m.body key

/-- What a node knows of the hosts after the messages. -/
structure KnowsHosts (r : Receiver P) (ms : List Delivery) : Prop where
  node : r.self.isHost = false
  mirrors : r.Mirrors SparkplugNode.KeepsState
  one : r.OneMirrorEach
  shown : ∀ host, r.ShowsOnline (P.foldKey host) ↔ lastReport P host ms = some true

theorem KnowsHosts.deliver {r : Receiver P} {ms : List Delivery} (h : r.KnowsHosts ms)
    {m : Delivery}
    (hstate : ∀ members, m.stateMembers P = some members → AnnouncesOnce P members) :
    (r.deliver m).KnowsHosts (ms ++ [m]) where
  node := by
    have hprefix := (grows_message m.topicName m.now m.body r).isPrefix
    have hself : (r.deliver m).self.identity = r.self.identity :=
      (List.cons_prefix_cons.mp hprefix).1.symm
    exact (congrArg Identity.isHost hself).trans h.node
  mirrors := h.mirrors.message SparkplugNode.keepsState_invariant m.topicName m.now m.body
  one := (grows_message m.topicName m.now m.body r).oneMirrorEach h.one
  shown host := by
    rw [showsOnline_deliver h.node h.mirrors h.one hstate, lastReport_append]
    cases m.report P with
    | none => exact h.shown host
    | some a =>
      dsimp only
      by_cases hhost : P.foldKey a.1 = P.foldKey host
      · rw [if_pos hhost, if_pos ((P.iEquals_iff _ _).mpr hhost), Option.some_inj]
      · rw [if_neg hhost, if_neg fun heq => hhost ((P.iEquals_iff _ _).mp heq)]
        exact h.shown host

theorem KnowsHosts.run {r : Receiver P} {before ms : List Delivery} (h : r.KnowsHosts before)
    (hstates : ∀ m ∈ ms, ∀ members, m.stateMembers P = some members → AnnouncesOnce P members) :
    (run Receiver.deliver r ms).KnowsHosts (before ++ ms) := by
  induction ms generalizing r before with
  | nil =>
    rw [List.append_nil]
    exact h
  | cons m ms ih =>
    have hnext := h.deliver (hstates m List.mem_cons_self)
    have hrest := ih hnext fun a ha => hstates a (List.mem_cons_of_mem m ha)
    rwa [List.append_assoc, List.singleton_append] at hrest

/-- A node takes a host to be online exactly if the last report of some host says so. -/
theorem isHostOnline_iff_reported {r : Receiver P} (hnode : r.self.isHost = false)
    (hfresh : r.nodeList = []) {ms : List Delivery}
    (hstates : ∀ m ∈ ms, ∀ members, m.stateMembers P = some members → AnnouncesOnce P members) :
    (run Receiver.deliver r ms).isHostOnline = true ↔
      ∃ host, lastReport P host ms = some true := by
  have hstart : r.KnowsHosts [] := by
    refine ⟨hnode, ?_, ?_, fun host => ?_⟩
    · intro n hn
      rw [hfresh] at hn
      cases hn
    · unfold OneMirrorEach identities
      rw [hfresh]
      exact List.pairwise_singleton _ _
    · have hnone : ¬ r.ShowsOnline (P.foldKey host) := by
        rintro ⟨name, hname, -⟩
        rw [views, hfresh] at hname
        cases hname
      simp [hnone, lastReport]
  have hknows := hstart.run hstates
  rw [isHostOnline_iff]
  constructor
  · rintro ⟨key, name, hname, hkey⟩
    exact ⟨name, (hknows.shown name).mp ⟨name, hname, rfl⟩⟩
  · rintro ⟨host, hhost⟩
    exact ⟨P.foldKey host, (hknows.shown host).mpr hhost⟩

/-- Host `a` is online, a node is born, host `B` is offline, and a text that is no object
arrives for `A`. -/
def hostReports : List Delivery :=
  [{ topicName := str "spBv1.0/STATE/a", now := 1,
      body := FlatJson.write [(str "online", .bool true)] },
    { topicName := str "spBv1.0/G/NBIRTH/N", now := 2, body := [] },
    { topicName := str "spBv1.0/STATE/B", now := 3,
      body := FlatJson.write [(str "online", .bool false)] },
    { topicName := str "spBv1.0/STATE/A", now := 4, body := str "offline" }]

def watcher : Receiver Platform.reference where
  self := { SparkplugNode.create 0 with group := str "G", name := str "W" }

theorem watcher_sees_host :
    (run Receiver.deliver watcher hostReports).isHostOnline = true ↔
      ∃ host, lastReport Platform.reference host hostReports = some true := by
  apply isHostOnline_iff_reported rfl rfl
  have hcarried : hostReports.map (Delivery.stateMembers Platform.reference) =
      [some [(str "online", .bool true)], none, some [(str "online", .bool false)], none] := by
    decide +kernel
  intro m hm members hmembers
  have hmem : some members ∈ hostReports.map (Delivery.stateMembers Platform.reference) :=
    hmembers ▸ List.mem_map_of_mem hm
  rw [hcarried] at hmem
  simp only [List.mem_cons, Option.some_inj, List.not_mem_nil, or_false, reduceCtorEq,
    false_or] at hmem
  rcases hmem with rfl | rfl
  · exact ⟨[], true, [], rfl, by simp⟩
  · exact ⟨[], false, [], rfl, by simp⟩

end Receiver
end PubSub
