import PubSub.MirrorIdentity
import PubSub.TopicLevels
import PubSub.Shared.KeyedList
import PubSub.Shared.Parts

/-!
# The mirror of a party follows the messages of that party

A receiver keeps one list for all the parties that it hears of, and each message is one more
step over that list. Seen from one remote party the list is an automaton of its own: its
messages make the mirror and change it, and neither the messages of the other parties nor
what the receiver does itself reaches it.
-/

namespace PubSub
set_option autoImplicit false

/-- A remote party, by the keys that tell it from the others. -/
inductive Party where
  | host (name : List Nat)
  | node (group name : List Nat)
  deriving DecidableEq

namespace Identity

def party (P : Platform) (a : Identity) : Party :=
  if a.isHost then .host (P.foldKey a.name) else .node (P.foldKey a.group) (P.foldKey a.name)

theorem party_eq_iff {P : Platform} {a b : Identity} :
    a.party P = b.party P ↔ a.SameParty P b := by
  unfold party SameParty
  simp only [Platform.iEquals_iff]
  cases a.isHost <;> cases b.isHost <;> simp [and_comm]

end Identity

namespace SparkplugNode
variable {P : Platform}

def party (n : SparkplugNode P) : Party := n.identity.party P

/-- A client answers to the names of a party; a host that has a group answers as a node too. -/
def answersTo (n : SparkplugNode P) : Party → Bool
  | .host name => n.isHost && decide (name = P.foldKey n.name)
  | .node group name => decide (group = P.foldKey n.group) && decide (name = P.foldKey n.name)

theorem answersTo_of_identity {n m : SparkplugNode P} (h : n.identity = m.identity) (a : Party) :
    n.answersTo a = m.answersTo a := by
  have hfields := Identity.mk.inj h
  cases a <;> simp [answersTo, hfields]

/-- The hosts have no group, as the receiver makes them. -/
def Ungrouped (n : SparkplugNode P) : Prop := n.isHost = true → n.group = []

theorem Ungrouped.of_identity {n m : SparkplugNode P} (h : n.identity = m.identity)
    (hm : m.Ungrouped) : n.Ungrouped := by
  obtain ⟨hkind, hgroup, -⟩ := Identity.mk.inj h
  unfold Ungrouped
  rw [hkind, hgroup]
  exact hm

theorem ungrouped_invariant : Receiver.MirrorInvariant (P := P) Ungrouped where
  host _ _ := fun _ => rfl
  node _ _ _ := fun h => (nomatch h)
  state _ _ h := h
  birth _ _ _ h := h
  death _ _ _ h := h
  data _ _ _ h := h
  deviceBirth device now body n h := h.of_identity (n.identity_deviceBirth device now body)
  deviceDeath device _ _ n h := h.of_identity (n.identity_onDevice device _)
  deviceUpdate device _ _ n h := h.of_identity (n.identity_onDevice device _)

end SparkplugNode

namespace Party

/-- No group of a host: a party with a group that is not the empty one. -/
def Proper (P : Platform) : Party → Prop
  | .host _ => True
  | .node group _ => group ≠ P.foldKey []

variable {P : Platform}

/-- Among clients without a group for the hosts the names of a party tell the party. -/
theorem Proper.answersTo_eq {a : Party} (ha : a.Proper P) {n : SparkplugNode P}
    (hn : n.Ungrouped) : n.answersTo a = decide (a = n.party) := by
  unfold SparkplugNode.party Identity.party SparkplugNode.identity
  cases a with
  | host name =>
    cases hkind : n.isHost <;> simp [SparkplugNode.answersTo, hkind]
  | node group name =>
    cases hkind : n.isHost with
    | true =>
      have hne : group ≠ P.foldKey n.group := by
        rw [hn hkind]
        exact ha
      simp [SparkplugNode.answersTo, hne]
    | false => simp [SparkplugNode.answersTo]

end Party

namespace Delivery
variable {P : Platform}

/-- The party that a message is about. A node command is for the receiver itself. -/
def party? (P : Platform) (m : Delivery) : Option Party :=
  let t := m.topic P
  if t.messageType = str "STATE" then
    if t.nodeId = [] then none else some (.host (P.foldKey t.nodeId))
  else if t.messageType ∈ [str "NBIRTH", str "NDEATH", str "NDATA"] then
    if t.groupId = [] ∨ t.nodeId = [] then none
    else some (.node (P.foldKey t.groupId) (P.foldKey t.nodeId))
  else if t.messageType ∈ [str "DBIRTH", str "DDEATH", str "DCMD", str "DDATA"] then
    if t.groupId = [] ∨ t.nodeId = [] ∨ t.deviceId = [] then none
    else some (.node (P.foldKey t.groupId) (P.foldKey t.nodeId))
  else none

def newHost (hostName : Str) (now : UInt64) : SparkplugNode P :=
  { SparkplugHost.create now with name := hostName }

def newNode (groupName nodeName : Str) (now : UInt64) : SparkplugNode P :=
  { SparkplugNode.create now with group := groupName, name := nodeName }

/-- The mirror that the message makes of a party that is not known yet. -/
def introduced (m : Delivery) : Option (SparkplugNode P) :=
  let t := m.topic P
  if t.messageType = str "STATE" then some (newHost t.nodeId m.now)
  else if t.messageType ∈ [str "NBIRTH", str "DBIRTH", str "DCMD", str "DDATA"] then
    some (newNode t.groupId t.nodeId m.now)
  else none

/-- What the message changes in the mirror. -/
def change (m : Delivery) (n : SparkplugNode P) : SparkplugNode P :=
  let t := m.topic P
  if t.messageType = str "STATE" then
    n.onTopics fun list => list.receive (str "STATE") (Payload.receiveJson m.body)
  else if t.messageType = str "NBIRTH" then
    n.onTopics fun list => list.receive (str "NBIRTH") (Payload.receiveProtobuf true m.now m.body)
  else if t.messageType = str "NDEATH" then
    n.onTopics fun list =>
      list.receiveDeath (str "NBIRTH") (str "NDEATH") (Payload.receiveProtobuf true m.now m.body)
  else if t.messageType = str "NDATA" then
    n.onTopics fun list => list.receive (str "NBIRTH") (Payload.receiveProtobuf false m.now m.body)
  else if t.messageType = str "DBIRTH" then Receiver.deviceBirth t.deviceId m.now m.body n
  else if t.messageType = str "DDEATH" then
    n.onDevice t.deviceId fun list =>
      list.receiveDeath (str "DBIRTH") (str "DDEATH") (Payload.receiveProtobuf true m.now m.body)
  else
    n.onDevice t.deviceId fun list =>
      list.receive (str "DBIRTH") (Payload.receiveProtobuf true m.now m.body)

/-- The automaton of one party: the mirror, if there is one, after one more message. -/
def hear (mirror : Option (SparkplugNode P)) (m : Delivery) : Option (SparkplugNode P) :=
  (mirror.or m.introduced).map m.change

/-- The topic name is a C string when it reaches the receiver. -/
def IsText (m : Delivery) : Prop := 0 ∉ m.topicName

instance (m : Delivery) : Decidable m.IsText := inferInstanceAs (Decidable (_ ∉ _))

end Delivery
namespace Receiver
variable {P : Platform}

/-- The mirror of a party. -/
def mirror (a : Party) (r : Receiver P) : Option (SparkplugNode P) :=
  KeyedList.lookup SparkplugNode.party a r.nodeList

/-- The hosts have no group, and the party is a remote one. -/
structure Apart (a : Party) (r : Receiver P) : Prop where
  ungrouped : r.Mirrors SparkplugNode.Ungrouped
  remote : r.self.answersTo a = false

theorem findIdx?_answersTo {r : Receiver P} (h : r.Mirrors SparkplugNode.Ungrouped) {b : Party}
    (hb : b.Proper P) : r.nodeList.findIdx? (SparkplugNode.answersTo · b) =
      r.nodeList.findIdx? fun n => decide (b = n.party) := by
  unfold Mirrors at h
  generalize r.nodeList = nodes at h
  induction nodes with
  | nil => rfl
  | cons n nodes ih =>
    have hn := hb.answersTo_eq (h n List.mem_cons_self)
    rw [List.findIdx?_cons, List.findIdx?_cons, hn, ih fun m hm => h m (List.mem_cons_of_mem n hm)]

/-- A lookup by the names of a party. -/
def find (b : Party) (r : Receiver P) : Option Target :=
  if r.self.answersTo b then some .self
  else (r.nodeList.findIdx? (SparkplugNode.answersTo · b)).map .remote

/-- The client that a lookup finds is kept, and otherwise one is made. -/
def ensure (b : Party) (n : SparkplugNode P) (r : Receiver P) : Receiver P :=
  match r.find b with
  | some _ => r
  | none => r.addRemote n

/-- A change of the client that a lookup finds. -/
def onParty (b : Party) (f : SparkplugNode P → SparkplugNode P) (r : Receiver P) : Receiver P :=
  match r.find b with
  | none => r
  | some target => r.update target f

theorem getHost_eq_find (hostName : Str) (r : Receiver P) :
    r.getHost hostName = r.find (.host (P.foldKey hostName)) := rfl

theorem getNode_eq_find {group node : Str} (hgroup : group ≠ []) (hnode : node ≠ [])
    (r : Receiver P) :
    r.getNode group node = r.find (.node (P.foldKey group) (P.foldKey node)) := by
  unfold getNode
  rw [if_neg (not_or.mpr ⟨hgroup, hnode⟩)]
  rfl

theorem ensureHost_eq_ensure (hostName : Str) (now : UInt64) (r : Receiver P) :
    r.ensureHost hostName now = 
      r.ensure (.host (P.foldKey hostName)) (Delivery.newHost hostName now) := rfl

theorem ensureNode_eq_ensure {group node : Str} (hgroup : group ≠ []) (hnode : node ≠ [])
    (now : UInt64) (r : Receiver P) : r.ensureNode group node now =
      r.ensure (.node (P.foldKey group) (P.foldKey node)) (Delivery.newNode group node now) := by
  have hfind := getNode_eq_find hgroup hnode r
  unfold ensureNode ensure
  cases h : r.find (.node (P.foldKey group) (P.foldKey node)) with
  | some _ => rw [hfind, h]
  | none =>
    rw [hfind, h]
    rfl

theorem onNode_eq_onParty {group node : Str} (hgroup : group ≠ []) (hnode : node ≠ [])
    (f : SparkplugNode P → SparkplugNode P) (r : Receiver P) :
    r.onNode group node f = r.onParty (.node (P.foldKey group) (P.foldKey node)) f := by
  have hfind := getNode_eq_find hgroup hnode r
  unfold onNode onParty
  cases h : r.find (.node (P.foldKey group) (P.foldKey node)) with
  | none => rw [hfind, h]
  | some _ => rw [hfind, h]

/-- Without its names a node is not found. -/
theorem onNode_of_nil {group node : Str} (h : group = [] ∨ node = [])
    (f : SparkplugNode P → SparkplugNode P) (r : Receiver P) : r.onNode group node f = r := by
  unfold onNode getNode
  rw [if_pos h]

theorem handleStateMessage_eq (hostName : Str) (now : UInt64) (body : BodyList)
    (r : Receiver P) : r.handleStateMessage hostName now body =
      if hostName = [] then r
      else (r.ensure (.host (P.foldKey hostName)) (Delivery.newHost hostName now)).onParty
        (.host (P.foldKey hostName)) fun n =>
          n.onTopics fun list => list.receive (str "STATE") (Payload.receiveJson body) := by
  unfold handleStateMessage
  rw [ensureHost_eq_ensure]
  rfl

section Lookup
variable {a b : Party} {r : Receiver P}

theorem find_eq_none (h : r.Mirrors SparkplugNode.Ungrouped) (hb : b.Proper P)
    (hfind : r.find b = none) : r.mirror b = none := by
  unfold find at hfind
  split at hfind
  · cases hfind
  · rw [findIdx?_answersTo h hb, Option.map_eq_none_iff, List.findIdx?_eq_none_iff] at hfind
    refine List.find?_eq_none.mpr ?_
    intro n hn
    rw [hfind n hn]
    exact Bool.false_ne_true

/-- A change of the client that a lookup finds reaches the mirror of that party only. -/
theorem mirror_update (h : r.Apart a) (hb : b.Proper P) {target : Target}
    (hfind : r.find b = some target) {f : SparkplugNode P → SparkplugNode P}
    (hf : ∀ n, (f n).identity = n.identity) :
    (r.update target f).mirror a = if a = b then (r.mirror a).map f else r.mirror a := by
  unfold find at hfind
  split at hfind
  · rename_i hself
    obtain rfl := Option.some.inj hfind
    have hne : a ≠ b := by
      rintro rfl
      rw [h.remote] at hself
      cases hself
    rw [if_neg hne]
    rfl
  · rw [findIdx?_answersTo h.ungrouped hb] at hfind
    obtain ⟨i, hi, rfl⟩ := Option.map_eq_some_iff.mp hfind
    have hparty : ∀ n, (f n).party = n.party := by
      intro n
      unfold SparkplugNode.party
      rw [hf n]
    exact KeyedList.lookup_modify hparty hi a

/-- A new client is the mirror of its party, unless there is one. -/
theorem mirror_addRemote (n : SparkplugNode P) :
    (r.addRemote n).mirror a = (r.mirror a).or (if a = n.party then some n else none) :=
  KeyedList.lookup_append_singleton r.nodeList n

theorem Apart.addRemote (h : r.Apart a) {n : SparkplugNode P} (hn : n.Ungrouped) :
    (r.addRemote n).Apart a := ⟨h.ungrouped.addRemote hn, h.remote⟩

/-- The client of a party is looked up, and it is made if there is none. -/
theorem mirror_ensure (h : r.Apart a) (hb : b.Proper P) {n : SparkplugNode P}
    (hn : n.party = b) : (r.ensure b n).mirror a =
      if a = b then (r.mirror a).or (some n) else r.mirror a := by
  unfold ensure
  cases hfind : r.find b with
  | some target =>
    dsimp only
    split
    · rename_i heq
      subst heq
      have hsome : (r.mirror a).isSome = true := by
        unfold find at hfind
        rw [h.remote, findIdx?_answersTo h.ungrouped hb] at hfind
        obtain ⟨i, hi, -⟩ := Option.map_eq_some_iff.mp hfind
        obtain ⟨hlt, hnamed, -⟩ := List.findIdx?_eq_some_iff_getElem.mp hi
        exact List.find?_isSome.mpr ⟨_, List.getElem_mem hlt, hnamed⟩
      obtain ⟨m, hm⟩ := Option.isSome_iff_exists.mp hsome
      rw [hm]
      rfl
    · rfl
  | none =>
    dsimp only
    rw [mirror_addRemote, hn]
    split
    · rfl
    · exact Option.or_none

theorem Apart.ensure (h : r.Apart a) {n : SparkplugNode P} (hn : n.Ungrouped) :
    (r.ensure b n).Apart a := by
  unfold Receiver.ensure
  split
  · exact h
  · exact h.addRemote hn

/-- A change through the lookup of a party. -/
theorem mirror_onParty (h : r.Apart a) (hb : b.Proper P) {f : SparkplugNode P → SparkplugNode P}
    (hf : ∀ n, (f n).identity = n.identity) :
    (r.onParty b f).mirror a = if a = b then (r.mirror a).map f else r.mirror a := by
  unfold onParty
  cases hfind : r.find b with
  | some target => exact mirror_update h hb hfind hf
  | none =>
    dsimp only
    split
    · rename_i heq
      rw [heq, find_eq_none h.ungrouped hb hfind]
      rfl
    · rfl

end Lookup

end Receiver

namespace Delivery
variable {P : Platform}

theorem mem_of_mem_levels {name part : Str} {c : UInt8} (hpart : part ∈ levels name)
    (hc : c ∈ part) : c ∈ name := by
  unfold levels at hpart
  induction name generalizing part with
  | nil =>
    rw [List.splitOn_nil, List.mem_singleton] at hpart
    rwa [hpart] at hc
  | cons d name ih =>
    rw [List.splitOn_cons_eq_if_modifyHead] at hpart
    split at hpart
    · rcases List.mem_cons.mp hpart with rfl | hpart
      · cases hc
      · exact List.mem_cons_of_mem d (ih hpart hc)
    · cases hparts : name.splitOn 47 with
      | nil =>
        rw [hparts] at hpart
        cases hpart
      | cons first parts =>
        rw [hparts, List.modifyHead_cons] at hpart
        rw [hparts] at ih
        rcases List.mem_cons.mp hpart with rfl | hpart
        · rcases List.mem_cons.mp hc with rfl | hc
          · exact List.mem_cons_self
          · exact List.mem_cons_of_mem d (ih List.mem_cons_self hc)
        · exact List.mem_cons_of_mem d (ih (List.mem_cons_of_mem first hpart) hc)

theorem mem_level {name : Str} {i : Nat} {c : UInt8} (h : c ∈ level i name) : c ∈ name := by
  unfold level at h
  rw [List.getD_eq_getElem?_getD] at h
  cases hpart : (levels name)[i]? with
  | none =>
    rw [hpart] at h
    cases h
  | some part =>
    rw [hpart] at h
    exact mem_of_mem_levels (List.mem_of_getElem? hpart) h

/-- A group in a name without a zero byte is not taken for the missing group of a host. -/
theorem proper_group {m : Delivery} (h : m.IsText) (hgroup : (m.topic P).groupId ≠ []) :
    P.foldKey (m.topic P).groupId ≠ P.foldKey [] := by
  have hlevel : (m.topic P).groupId = level 1 m.topicName := by
    unfold topic at hgroup ⊢
    by_cases hstate : level 1 m.topicName = str "STATE"
    · rw [Receiver.parseTopic_state hstate] at hgroup
      exact absurd rfl hgroup
    · rw [Receiver.parseTopic_other hstate]
      rfl
  generalize (m.topic P).groupId = group at hlevel hgroup
  apply P.foldKey_ne
  obtain ⟨c, cs, rfl⟩ := List.exists_cons_of_ne_nil hgroup
  have hzero : c ≠ 0 := by
    rintro rfl
    exact h (mem_level (hlevel ▸ List.mem_cons_self))
  simp [cString, hzero, lower]

end Delivery

namespace Receiver
variable {P : Platform} {a : Party} {r : Receiver P}

section Handlers
variable {b : Party} {pass : Prop} [Decidable pass] {f : SparkplugNode P → SparkplugNode P}

theorem some_eq_iff {a b : Party} : some b = some a ↔ a = b := by
  rw [Option.some.injEq, eq_comm]

/-- A handler that changes the client of its names, if there is one; it passes over some of
the messages. -/
theorem mirror_pass_onParty (h : r.Apart a) (hb : ¬ pass → b.Proper P)
    (hf : ∀ n, (f n).identity = n.identity) :
    (if pass then r else r.onParty b f).mirror a =
      if (if pass then none else some b) = some a then ((r.mirror a).or none).map f
      else r.mirror a := by
  by_cases hpass : pass
  · rw [if_pos hpass, if_pos hpass, if_neg (nomatch ·)]
  · rw [if_neg hpass, if_neg hpass, mirror_onParty h (hb hpass) hf, Option.or_none]
    simp only [some_eq_iff]

/-- A handler that makes the client if there is none. -/
theorem mirror_pass_ensure (h : r.Apart a) {n : SparkplugNode P} (hn : n.Ungrouped)
    (hparty : n.party = b) (hb : ¬ pass → b.Proper P) (hf : ∀ n, (f n).identity = n.identity) :
    (if pass then r else (r.ensure b n).onParty b f).mirror a =
      if (if pass then none else some b) = some a then ((r.mirror a).or (some n)).map f
      else r.mirror a := by
  by_cases hpass : pass
  · rw [if_pos hpass, if_pos hpass, if_neg (nomatch ·)]
  · rw [if_neg hpass, if_neg hpass, mirror_onParty (h.ensure hn) (hb hpass) hf,
      mirror_ensure h (hb hpass) hparty]
    simp only [some_eq_iff]
    by_cases heq : a = b
    · rw [if_pos heq, if_pos heq, if_pos heq]
    · rw [if_neg heq, if_neg heq, if_neg heq]

section Nodes
variable {group node : Str} (hnames : ¬ pass → group ≠ [] ∧ node ≠ [])
  (hproper : group ≠ [] → P.foldKey group ≠ P.foldKey []) (h : r.Apart a)
  (hf : ∀ n, (f n).identity = n.identity)
include hnames hproper h hf

theorem mirror_pass_onNode :
    (if pass then r else r.onNode group node f).mirror a =
      if (if pass then none else some (.node (P.foldKey group) (P.foldKey node))) = some a then
        ((r.mirror a).or none).map f
      else r.mirror a := by
  have heq : (if pass then r else r.onNode group node f) =
      if pass then r else r.onParty (.node (P.foldKey group) (P.foldKey node)) f := by
    by_cases hpass : pass
    · rw [if_pos hpass, if_pos hpass]
    · obtain ⟨hgroup, hnode⟩ := hnames hpass
      rw [if_neg hpass, if_neg hpass, onNode_eq_onParty hgroup hnode]
  rw [heq]
  exact mirror_pass_onParty h (fun hpass => hproper (hnames hpass).1) hf

theorem mirror_pass_ensureNode (now : UInt64) :
    (if pass then r else (r.ensureNode group node now).onNode group node f).mirror a =
      if (if pass then none else some (.node (P.foldKey group) (P.foldKey node))) = some a then
        ((r.mirror a).or (some (Delivery.newNode group node now))).map f
      else r.mirror a := by
  have heq : (if pass then r else (r.ensureNode group node now).onNode group node f) =
      if pass then r
      else (r.ensure (.node (P.foldKey group) (P.foldKey node))
        (Delivery.newNode group node now)).onParty (.node (P.foldKey group) (P.foldKey node)) f := by
    by_cases hpass : pass
    · rw [if_pos hpass, if_pos hpass]
    · obtain ⟨hgroup, hnode⟩ := hnames hpass
      rw [if_neg hpass, if_neg hpass, ensureNode_eq_ensure hgroup hnode,
        onNode_eq_onParty hgroup hnode]
  rw [heq]
  exact mirror_pass_ensure h (fun hhost => (nomatch hhost)) rfl
    (fun hpass => hproper (hnames hpass).1) hf

end Nodes

end Handlers

/-- A node command changes no mirror. -/
theorem mirror_command (groupName nodeName : Str) (now : UInt64) (body : BodyList) :
    (r.handleNodeCommandMessage groupName nodeName now body).mirror a = r.mirror a := by
  unfold handleNodeCommandMessage
  split
  · rfl
  · split
    · rfl
    · split
      · rfl
      · rfl

/-- The mirror of the party of a message hears it, and no other mirror does. -/
theorem mirror_deliver (h : r.Apart a) {m : Delivery} (hm : m.IsText) :
    (r.deliver m).mirror a =
      if m.party? P = some a then m.hear (r.mirror a) else r.mirror a := by
  have hhandled := r.handled_message m.topicName m.now m.body
  have hproper := @Delivery.proper_group P m hm
  change (r.message m.topicName m.now m.body).mirror a = _
  change Handled r (m.topic P) m.now m.body _ at hhandled
  unfold Delivery.hear Delivery.party? Delivery.introduced Delivery.change
  generalize m.topic P = t at hproper hhandled ⊢
  generalize r.message m.topicName m.now m.body = next at hhandled ⊢
  have hnode : ¬ (t.groupId = [] ∨ t.nodeId = []) → t.groupId ≠ [] ∧ t.nodeId ≠ [] := not_or.mp
  have hdevice : ¬ (t.groupId = [] ∨ t.nodeId = [] ∨ t.deviceId = []) →
      t.groupId ≠ [] ∧ t.nodeId ≠ [] := by
    intro h
    rw [not_or, not_or] at h
    exact ⟨h.1, h.2.1⟩
  have hpass : ∀ f, r.onNode t.groupId t.nodeId f =
      if t.groupId = [] ∨ t.nodeId = [] then r else r.onNode t.groupId t.nodeId f := by
    intro f
    by_cases hnil : t.groupId = [] ∨ t.nodeId = []
    · rw [if_pos hnil, onNode_of_nil hnil]
    · rw [if_neg hnil]
  -- the chains of type tests are decided by the type of the message
  cases hhandled with
  | state htype =>
    simp +decide only [htype, ↓reduceIte]
    rw [handleStateMessage_eq]
    exact mirror_pass_ensure h (fun _ => rfl) rfl (fun _ => trivial) fun _ => rfl
  | nodeBirth htype =>
    simp +decide only [htype, ↓reduceIte]
    exact mirror_pass_ensureNode hnode hproper h (fun n => n.identity_onTopics _) m.now
  | nodeDeath htype =>
    simp +decide only [htype, ↓reduceIte]
    unfold handleNodeDeathMessage
    rw [hpass]
    exact mirror_pass_onNode hnode hproper h fun _ => rfl
  | nodeCommand htype =>
    simp +decide only [htype, ↓reduceIte]
    exact mirror_command _ _ _ _
  | nodeData htype =>
    simp +decide only [htype, ↓reduceIte]
    unfold handleNodeDataMessage
    rw [hpass]
    exact mirror_pass_onNode hnode hproper h fun _ => rfl
  | deviceBirth htype =>
    simp +decide only [htype, ↓reduceIte]
    exact mirror_pass_ensureNode hdevice hproper h
      (fun n => n.identity_deviceBirth t.deviceId m.now m.body) m.now
  | deviceDeath htype =>
    simp +decide only [htype, ↓reduceIte]
    exact mirror_pass_onNode hdevice hproper h fun n => n.identity_onDevice t.deviceId _
  | deviceCommand htype =>
    simp +decide only [htype, ↓reduceIte]
    exact mirror_pass_ensureNode hdevice hproper h
      (fun n => n.identity_onDevice t.deviceId _) m.now
  | deviceData htype =>
    simp +decide only [htype, ↓reduceIte]
    exact mirror_pass_ensureNode hdevice hproper h
      (fun n => n.identity_onDevice t.deviceId _) m.now
  | other htype =>
    simp only [List.mem_cons, List.not_mem_nil, or_false, not_or] at htype
    obtain ⟨h1, h2, h3, h4, h5, h6, h7, h8, h9⟩ := htype
    simp [h1, h2, h3, h5, h6, h7, h8, h9]

theorem self_identity_step {e : ReceiverEvent P} (h : r.FixedIdentity e) :
    (r.step e).self.identity = r.self.identity := by
  obtain ⟨_, hgrown⟩ := (grows_step h).isPrefix
  exact (List.cons.inj hgrown).1.symm

/-- A condition on the events: the receiver keeps its identity, and topic names are texts. -/
def Heard (r : Receiver P) (e : ReceiverEvent P) : Prop :=
  r.FixedIdentity e ∧ ∀ m, e = .message m → m.IsText

/-- The events as a party sees them: the messages about it. -/
def messageFor (a : Party) : ReceiverEvent P → Option Delivery
  | .message m => if m.party? P = some a then some m else none
  | .own _ => none

/-- The mirror of a remote party is a part of the receiver, and it steps by what it hears. -/
theorem isPart_mirror (a : Party) :
    IsPart step (Apart (P := P) a) Heard (mirror a) (messageFor a) Delivery.hear where
  kept r e h hok := by
    refine ⟨?_, ?_⟩
    · cases e with
      | message m => exact h.ungrouped.message SparkplugNode.ungrouped_invariant _ _ _
      | own self => exact h.ungrouped
    · rw [SparkplugNode.answersTo_of_identity (self_identity_step hok.1)]
      exact h.remote
  moves r e m h hok hmine := by
    cases e with
    | own self => cases hmine
    | message d =>
      have hd : d.party? P = some a ∧ d = m := by
        simpa [messageFor] using hmine
      obtain ⟨hparty, rfl⟩ := hd
      have hstep := mirror_deliver h (hok.2 d rfl)
      rw [if_pos hparty] at hstep
      exact hstep
  rests r e h hok hmine := by
    cases e with
    | own self => rfl
    | message d =>
      have hd : ¬ d.party? P = some a := by
        simpa [messageFor] using hmine
      have hstep := mirror_deliver h (hok.2 d rfl)
      rw [if_neg hd] at hstep
      exact hstep

theorem apart_of_fresh {a : Party} (hfresh : r.nodeList = []) (hremote : r.self.answersTo a = false) :
    r.Apart a := by
  refine ⟨?_, hremote⟩
  intro n hn
  rw [hfresh] at hn
  cases hn

theorem mirror_run {a : Party} (hfresh : r.nodeList = []) (hremote : r.self.answersTo a = false)
    {es : List (ReceiverEvent P)} (hheard : RunOk step Heard r es) :
    (run step r es).mirror a = run Delivery.hear none (es.filterMap (messageFor a)) := by
  have hnone : r.mirror a = none := by
    unfold mirror KeyedList.lookup
    rw [hfresh]
    rfl
  rw [← hnone]
  exact (isPart_mirror a).part_run (apart_of_fresh hfresh hremote) hheard

/-- However its messages are mixed with those of the others, the mirror of a remote party is
what the messages about that party make alone, one after the other. -/
theorem mirror_follows_own_messages {a : Party} (hfresh : r.nodeList = [])
    (hremote : r.self.answersTo a = false) {es : List (ReceiverEvent P)}
    (hheard : RunOk step Heard r es) :
    (run step r es).mirror a = run Delivery.hear none (es.filterMap (messageFor a)) :=
  mirror_run hfresh hremote hheard

/-- The receiver answers to the party of none of its mirrors. -/
def Foreign (r : Receiver P) : Prop :=
  ∀ b ∈ r.nodeList.map SparkplugNode.party, r.self.answersTo b = false

theorem Foreign.addRemote (h : r.Foreign) {n : SparkplugNode P}
    (hn : r.self.answersTo n.party = false) : (r.addRemote n).Foreign := by
  intro b hb
  change b ∈ (r.nodeList ++ [n]).map SparkplugNode.party at hb
  rw [List.map_append, List.mem_append] at hb
  rcases hb with hb | hb
  · exact h b hb
  · rw [List.map_singleton, List.mem_singleton] at hb
    rw [hb]
    exact hn

theorem Foreign.ensured (h : r.Foreign) {s : Receiver P} {now : UInt64}
    (hs : Ensured r now s) : s.Foreign := by
  cases hs with
  | known => exact h
  | @host hostName _ =>
    unfold ensureHost
    split
    · exact h
    · rename_i hnone
      rw [getHost_eq_find, find] at hnone
      split at hnone
      · cases hnone
      · rename_i hself
        exact h.addRemote (Bool.eq_false_iff.mpr hself)
  | @node group node hgroup hnode =>
    unfold ensureNode
    split
    · exact h
    · rename_i hnone
      rw [getNode_eq_find hgroup hnode, find] at hnone
      split at hnone
      · cases hnone
      · rename_i hself
        exact h.addRemote (Bool.eq_false_iff.mpr hself)

theorem Foreign.update (h : r.Foreign) (target : Target) {f : SparkplugNode P → SparkplugNode P}
    (hf : ∀ n, (f n).identity = n.identity) : (r.update target f).Foreign := by
  have hparty : ∀ n, (f n).party = n.party := by
    intro n
    unfold SparkplugNode.party
    rw [hf n]
  have hself : (r.update target f).self.identity = r.self.identity := by
    cases target with
    | self => exact hf r.self
    | remote i => rfl
  intro b hb
  rw [nodeList_update target hparty] at hb
  rw [SparkplugNode.answersTo_of_identity hself]
  exact h b hb

theorem foreign_step {e : ReceiverEvent P} (h : r.Foreign) (he : r.FixedIdentity e) :
    (r.step e).Foreign := by
  cases e with
  | message m =>
    have heffect := r.effect_message m.topicName m.now m.body
    change Effect r _ _ _ (r.step (.message m)) at heffect
    generalize r.step (.message m) = next at heffect ⊢
    cases heffect with
    | ensured hs => exact h.ensured hs
    | changed hs hf => exact (h.ensured hs).update _ hf.identity
  | own self =>
    have hself : (r.step (.own self)).self.identity = r.self.identity := he
    intro b hb
    rw [SparkplugNode.answersTo_of_identity hself]
    exact h b hb

theorem mirror_of_answered (h : r.Foreign) {a : Party} (ha : r.self.answersTo a = true) :
    r.mirror a = none := by
  refine KeyedList.lookup_eq_none.mpr fun hmem => ?_
  rw [h a hmem] at ha
  cases ha

theorem oneMirrorEach_run (hfresh : r.nodeList = []) {es : List (ReceiverEvent P)}
    (h : RunOk step FixedIdentity r es) : (run step r es).OneMirrorEach := by
  have hstart : r.OneMirrorEach := by
    unfold OneMirrorEach identities
    rw [hfresh]
    exact List.pairwise_singleton _ _
  exact run_invariant (fun s e hs he => (grows_step he).oneMirrorEach hs) hstart h

/-- The mirrors are those of different parties. -/
theorem OneMirrorEach.nodup (h : r.OneMirrorEach) :
    (r.nodeList.map SparkplugNode.party).Nodup := by
  have htail := (List.pairwise_cons.mp h).2
  rw [List.pairwise_map] at htail
  refine List.pairwise_map.mpr (htail.imp ?_)
  intro n m hne heq
  exact hne (Identity.party_eq_iff.mp heq)

theorem isHostOnline_of_perm {s t : Receiver P} (h : s.nodeList.Perm t.nodeList) :
    s.isHostOnline = t.isHostOnline := by
  unfold isHostOnline
  rw [Bool.eq_iff_iff, List.any_eq_true, List.any_eq_true]
  simp only [h.mem_iff]

theorem heard_of_texts {es : List (ReceiverEvent P)}
    (h : ∀ e ∈ es, ∃ m, e = .message m ∧ m.IsText) : RunOk step Heard r es := by
  rw [runOk_iff_forall]
  rintro pre e post rfl
  obtain ⟨m, rfl, hm⟩ := h e (List.mem_append_right pre List.mem_cons_self)
  refine ⟨trivial, ?_⟩
  intro d hd
  obtain rfl := ReceiverEvent.message.inj hd
  exact hm

theorem Heard.fixed {es : List (ReceiverEvent P)} (h : RunOk step Heard r es) :
    RunOk step FixedIdentity r es := h.mono fun _ _ he => he.1

/-- The receiver answers to the same parties all along. -/
theorem Heard.self_identity {es : List (ReceiverEvent P)} (h : RunOk step Heard r es) :
    (run step r es).self.identity = r.self.identity := by
  obtain ⟨_, hgrown⟩ := identities_prefix (Heard.fixed h)
  exact (List.cons.inj hgrown).1.symm

/-- The mirrors are the same, up to their places, if those of the remote parties are. -/
theorem perm_of_mirrors (hfresh : r.nodeList = []) {es ds : List (ReceiverEvent P)}
    (hes : RunOk step Heard r es) (hds : RunOk step Heard r ds)
    (hsame : ∀ a, r.self.answersTo a = false →
      (run step r es).mirror a = (run step r ds).mirror a) :
    (run step r es).nodeList.Perm (run step r ds).nodeList := by
  have hforeign : r.Foreign := by
    intro b hb
    rw [hfresh] at hb
    cases hb
  have hnone : ∀ {fs}, RunOk step Heard r fs → ∀ a, r.self.answersTo a = true →
      (run step r fs).mirror a = none := by
    intro fs h a ha
    refine mirror_of_answered (run_invariant (fun s e => foreign_step) hforeign (Heard.fixed h)) ?_
    rw [SparkplugNode.answersTo_of_identity (Heard.self_identity h)]
    exact ha
  refine KeyedList.perm_of_lookup (oneMirrorEach_run hfresh (Heard.fixed hes)).nodup
    (oneMirrorEach_run hfresh (Heard.fixed hds)).nodup ?_
  intro a
  cases ha : r.self.answersTo a with
  | true => exact (hnone hes a ha).trans (hnone hds a ha).symm
  | false => exact hsame a ha

/-- Two mixtures of the same messages, with each party's own in their order, end in the same
mirrors, up to their places in the list, and in the same answer about the hosts. -/
theorem mirrors_of_any_mixture (hfresh : r.nodeList = []) {es ds : List (ReceiverEvent P)}
    (hes : RunOk step Heard r es) (hds : RunOk step Heard r ds)
    (hsame : ∀ a, r.self.answersTo a = false →
      es.filterMap (messageFor a) = ds.filterMap (messageFor a)) :
    (run step r es).nodeList.Perm (run step r ds).nodeList ∧
      (run step r es).isHostOnline = (run step r ds).isHostOnline := by
  have hperm : (run step r es).nodeList.Perm (run step r ds).nodeList := by
    refine perm_of_mirrors hfresh hes hds ?_
    intro a ha
    have hapart := apart_of_fresh hfresh ha
    exact (isPart_mirror a).part_eq_of_filterMap hapart hapart hes hds rfl (hsame a ha)
  exact ⟨hperm, isHostOnline_of_perm hperm⟩

/-- The messages of `namesakes` in another order: the node's two and the two of the other host
keep theirs. -/
def namesakesMixed : List (ReceiverEvent Platform.reference) :=
  [.message { topicName := str "spBv1.0/G/NBIRTH/H", now := 3, body := [] },
    .message { topicName := str "spBv1.0/STATE/K", now := 2, body := [] },
    .message { topicName := str "spBv1.0/STATE/k", now := 5, body := [] },
    .message { topicName := str "spBv1.0/STATE/h", now := 1, body := str "\x7b\x7d" },
    .message { topicName := str "spBv1.0/g/DDATA/h/D", now := 4, body := [] }]

theorem namesakes_heard : RunOk step Heard namesake namesakes :=
  heard_of_texts (by simp +decide [namesakes])

theorem namesakesMixed_heard : RunOk step Heard namesake namesakesMixed :=
  heard_of_texts (by simp +decide [namesakesMixed])

theorem namesakes_same_parties (a : Party) :
    namesakes.filterMap (messageFor a) = namesakesMixed.filterMap (messageFor a) := by
  have hself : Delivery.party? Platform.reference
      ⟨str "spBv1.0/STATE/h", 1, str "\x7b\x7d"⟩ = some (.host [104]) := by decide +kernel
  have hupper : Delivery.party? Platform.reference ⟨str "spBv1.0/STATE/K", 2, []⟩ =
      some (.host [107]) := by decide +kernel
  have hlower : Delivery.party? Platform.reference ⟨str "spBv1.0/STATE/k", 5, []⟩ =
      some (.host [107]) := by decide +kernel
  have hbirth : Delivery.party? Platform.reference ⟨str "spBv1.0/G/NBIRTH/H", 3, []⟩ =
      some (.node [103] [104]) := by decide +kernel
  have hdata : Delivery.party? Platform.reference ⟨str "spBv1.0/g/DDATA/h/D", 4, []⟩ =
      some (.node [103] [104]) := by decide +kernel
  simp only [namesakes, namesakesMixed, List.filterMap_cons, List.filterMap_nil, messageFor,
    hself, hupper, hlower, hbirth, hdata, Option.some.injEq]
  rcases a with name | ⟨group, name⟩
  · by_cases hh : name = [104]
    · simp [hh]
    · by_cases hk : name = [107]
      · simp [hk]
      · simp [Ne.symm hh, Ne.symm hk]
  · by_cases hn : [103] = group ∧ [104] = name
    · simp [hn]
    · simp [hn]

theorem namesakes_mirror :
    (run step namesake namesakes).mirror (.node (Platform.reference.foldKey (str "G"))
        (Platform.reference.foldKey (str "H"))) =
      run Delivery.hear none (namesakes.filterMap (messageFor
        (.node (Platform.reference.foldKey (str "G")) (Platform.reference.foldKey (str "H"))))) :=
  mirror_follows_own_messages rfl (by decide +kernel) namesakes_heard

theorem namesakes_mixed_mirrors :
    (run step namesake namesakes).nodeList.Perm (run step namesake namesakesMixed).nodeList ∧
      (run step namesake namesakes).isHostOnline =
        (run step namesake namesakesMixed).isHostOnline :=
  mirrors_of_any_mixture rfl namesakes_heard namesakesMixed_heard
    fun a _ => namesakes_same_parties a

end Receiver
end PubSub
