import PubSub.HostWait
import PubSub.RetainedState
import PubSub.Shared.Board
import Mathlib.Logic.Function.Basic

/-!
# A host, a broker and the nodes that watch the host

The broker keeps the last STATE message of the host and sends it on to the nodes that listen.
It publishes the will of the host when a connection ends without a disconnect. A node that has
read all of its messages shows the host as the broker has heard of it last, and that is what
the host is, unless the host has gone with a disconnect and without a word.
-/

namespace PubSub
set_option autoImplicit false

namespace NodeSys
variable {P : Platform}

theorem identity_publishMessage (messageType : Str) (kind : MessageKind) (connected : Bool)
    (now : UInt64) (n : SparkplugNode P) :
    (n.publishMessage messageType kind connected now).1.identity = n.identity := by
  obtain ⟨topics, number, hframe⟩ := n.publishMessage_frame messageType kind connected now
  rw [hframe]
  rfl

theorem identity_stateStep (io : Outcomes) (s : NodeSys P) :
    (s.stateStep io).self.identity = s.self.identity := by
  unfold stateStep
  split
  · rcases s.doIdle_cases io with ⟨n, timer, handle, rfl | rfl, -, h⟩ | ⟨-, h⟩
    · rw [h]
      rfl
    · rw [h]
      rfl
    · rw [h]
      rfl
  · rcases s.doWaitOnConnect_cases with ⟨-, h | h⟩ | ⟨-, h⟩
    · rw [h]
    · rw [h]
      rfl
    · rw [h]
      exact identity_publishMessage _ _ _ _ s.self
  · unfold doOnline
    split
    · change (sendDisconnect io _).self.identity = _
      rcases sendDisconnect_cases io (publishNodeDeath s.pollDevices) with ⟨-, h⟩ | h
      · rw [h]
        exact identity_publishMessage _ _ _ _ s.pollDevices.self
      · rw [h]
        exact identity_publishMessage _ _ _ _ s.pollDevices.self
    · rfl
  · unfold doWaitOnDisconnect
    split <;> rfl

/-- A node stays the party that it is. -/
theorem identity_step {s : NodeSys P} {e : NodeEvent P}
    (he : ∀ topicName body, e ≠ .message topicName body) :
    (s.step e).self.identity = s.self.identity := by
  cases e with
  | work elapsed io =>
    rcases (s.tick elapsed).work_cases io with ⟨-, h⟩ | ⟨h, -⟩
    · change ((s.tick elapsed).work io).self.identity = _
      rw [h]
      exact identity_stateStep io (s.tick elapsed)
    · exact congrArg (fun r : Receiver P => r.self.identity) h
  | connectionLost =>
    change s.connectionLost.self.identity = _
    unfold connectionLost
    split <;> rfl
  | callback hasResponse version =>
    change (s.callback hasResponse version).self.identity = _
    unfold callback
    split
    · rfl
    · dsimp only
      split <;> rfl
  | message topicName body => exact absurd rfl (he topicName body)
  | start =>
    change s.start.self.identity = _
    unfold start
    split
    · rfl
    · split
      · rfl
      · rename_i n hn
        have hsame := congrArg SparkplugNode.identity (SparkplugNode.start_base hn)
        exact hsame
  | stopReturns =>
    change s.stopReturns.self.identity = _
    unfold stopReturns
    split <;> rfl
  | _ => rfl

theorem nodeList_step {s : NodeSys P} {e : NodeEvent P}
    (he : ∀ topicName body, e ≠ .message topicName body) :
    (s.step e).receiver.nodeList = s.receiver.nodeList := by
  by_cases hwait : ∀ wait, e ≠ .waitOnHostOnline wait
  · exact (frozen_step hwait fun topicName body heq => absurd heq (he topicName body)).nodeList
  · obtain ⟨wait, hwait⟩ := not_forall.mp hwait
    rw [not_not.mp hwait]
    rfl

/-- The node is no host, and it keeps its mirrors apart. -/
structure Watches (s : NodeSys P) : Prop where
  node : s.self.isHost = false
  mirrors : s.receiver.Mirrors SparkplugNode.KeepsState
  one : s.receiver.OneMirrorEach

theorem Watches.message {s : NodeSys P} (h : s.Watches) (topicName : Str) (body : BodyList) :
    (s.message topicName body).Watches := by
  unfold NodeSys.message
  split
  · have hgrows := Receiver.grows_message topicName s.now body s.receiver
    have hself : (s.receiver.message topicName s.now body).self.identity = s.self.identity :=
      (List.cons_prefix_cons.mp hgrows.isPrefix).1.symm
    exact ⟨(congrArg Identity.isHost hself).trans h.node,
      h.mirrors.message SparkplugNode.keepsState_invariant topicName s.now body,
      hgrows.oneMirrorEach h.one⟩
  · exact h

theorem watches_step {s : NodeSys P} (h : s.Watches) (e : NodeEvent P) : (s.step e).Watches := by
  by_cases he : ∀ topicName body, e ≠ .message topicName body
  · have hidentity := identity_step (s := s) he
    have hlist := nodeList_step (s := s) he
    refine ⟨(congrArg Identity.isHost hidentity).trans h.node, ?_, ?_⟩
    · unfold Receiver.Mirrors
      rw [hlist]
      exact h.mirrors
    · have hone := h.one
      unfold Receiver.OneMirrorEach Receiver.identities at hone ⊢
      rw [hlist]
      change (s.step e).receiver.self.identity = s.receiver.self.identity at hidentity
      rw [hidentity]
      exact hone
  · obtain ⟨topicName, he⟩ := not_forall.mp he
    obtain ⟨body, he⟩ := not_forall.mp he
    rw [not_not.mp he]
    exact h.message topicName body

theorem watches_init (now : UInt64) (setups : List Setup) : (init (P := P) now setups).Watches := by
  obtain ⟨birth, death, howns⟩ := owns_init (P := P) now setups
  refine ⟨howns.self.isHost, nofun, ?_⟩
  unfold Receiver.OneMirrorEach Receiver.identities
  exact List.pairwise_singleton _ _

/-- The node shows a host of that name as online. -/
def Shows (host : Str) (s : NodeSys P) : Prop := s.receiver.ShowsOnline (P.foldKey host)

theorem shows_step {host : Str} {s : NodeSys P} {e : NodeEvent P}
    (he : ∀ topicName body, e ≠ .message topicName body) :
    (s.step e).Shows host ↔ s.Shows host := by
  unfold Shows Receiver.ShowsOnline Receiver.views
  rw [nodeList_step he]

/-- A STATE message of the host tells a node that listens what to show. -/
theorem shows_message {host : Str} {s : NodeSys P} (h : s.Watches)
    (hreceives : Mqtt.receives s.handle = true) {topicName : Str} {body : BodyList} {online : Bool}
    (hof : (Delivery.mk topicName s.now body).IsOf P host online) :
    (s.step (.message topicName body)).Shows host ↔ online = true := by
  have hstep : (s.step (.message topicName body)).receiver =
      s.receiver.deliver ⟨topicName, s.now, body⟩ := by
    change (s.message topicName body).receiver = _
    unfold NodeSys.message
    rw [if_pos hreceives]
    rfl
  unfold Shows
  rw [hstep, Receiver.showsOnline_deliver h.node h.mirrors h.one hof.2, hof.1]
  dsimp only
  rw [if_pos rfl]

/-- A message about something else. -/
def Elsewhere (P : Platform) (host : Str) (m : Delivery) : Prop :=
  (∀ members, m.stateMembers P = some members → AnnouncesOnce P members) ∧
    ∀ a, m.report P = some a → P.foldKey a.1 ≠ P.foldKey host

theorem shows_elsewhere {host : Str} {s : NodeSys P} (h : s.Watches) {topicName : Str}
    {body : BodyList} (helse : Elsewhere P host ⟨topicName, s.now, body⟩) :
    (s.step (.message topicName body)).Shows host ↔ s.Shows host := by
  change (s.message topicName body).Shows host ↔ s.Shows host
  unfold NodeSys.message
  split
  · unfold Shows
    change (s.receiver.deliver ⟨topicName, s.now, body⟩).ShowsOnline _ ↔ _
    rw [Receiver.showsOnline_deliver h.node h.mirrors h.one helse.1]
    cases hreport : (Delivery.mk topicName s.now body).report P with
    | none => rfl
    | some a =>
      dsimp only
      rw [if_neg (helse.2 a hreport)]
  · rfl

end NodeSys

universe u

/-- A host with its broker, and the nodes with the messages on their way. -/
structure Presence (P : Platform) (ι : Type u) where
  broker : HostAtBroker P
  node : ι → NodeSys P
  queue : ι → List MqttMessage := fun _ => []

inductive PresenceEvent (P : Platform) (ι : Type u) where
  | host (e : HostEvent) (clean : Bool)
  | node (i : ι) (e : NodeEvent P)
  | deliver (i : ι)

namespace Presence
variable {P : Platform} {ι : Type u}

/-- The broker sends everything that it gets to the nodes that listen. -/
def hostStep (e : HostEvent) (clean : Bool) (s : Presence P ι) : Presence P ι :=
  { s with
    broker := s.broker.step e clean
    queue := fun i =>
      if Mqtt.receives (s.node i).handle then s.queue i ++ s.broker.messages e clean else [] }

/-- Nothing has been started or sent yet. -/
def init (hostName : Option Str) (now : UInt64) (setups : List HostSetup)
    (node : ι → UInt64 × List Setup) : Presence P ι where
  broker := { host := .init hostName now setups }
  node i := .init (node i).1 (node i).2

section Steps
variable [DecidableEq ι]

/-- A node that begins to listen is sent the retained message. -/
def nodeStep (i : ι) (e : NodeEvent P) (s : Presence P ι) : Presence P ι :=
  let n := (s.node i).step e
  let queue :=
    if Mqtt.receives n.handle then
      if Mqtt.receives (s.node i).handle then s.queue i else s.broker.retained.toList
    else []
  { s with node := Function.update s.node i n, queue := Function.update s.queue i queue }

def deliver (i : ι) (s : Presence P ι) : Presence P ι :=
  match s.queue i with
  | [] => s
  | m :: rest =>
    { s with
      node := Function.update s.node i ((s.node i).step (.message m.topicName m.body))
      queue := Function.update s.queue i rest }

def step (s : Presence P ι) : PresenceEvent P ι → Presence P ι
  | .host e clean => s.hostStep e clean
  | .node i e => s.nodeStep i e
  | .deliver i => s.deliver i

end Steps

/-- The other messages that reach a node say nothing about the host. -/
def Fits (host : Str) (s : Presence P ι) : PresenceEvent P ι → Prop
  | .node i (.message topicName body) =>
    NodeSys.Elsewhere P host ⟨topicName, (s.node i).now, body⟩
  | _ => True

/-- The messages on their way are those of the host, and they are on their way to the nodes that
listen. -/
structure Kept (host : Str) (s : Presence P ι) : Prop where
  broker : s.broker.Vouches host
  queued : ∀ i, ∀ m ∈ s.queue i, ∃ online, m.IsOf P host online
  absent : ∀ i, Mqtt.receives (s.node i).handle = false → s.queue i = []
  watches : ∀ i, (s.node i).Watches

theorem Kept.hostStep (laws : JsonText P) {host : Str} {s : Presence P ι} (h : s.Kept host)
    (e : HostEvent) (clean : Bool) : (s.hostStep e clean).Kept host where
  broker := h.broker.step laws e clean
  queued i m hm := by
    change m ∈ (if Mqtt.receives (s.node i).handle then _ else _) at hm
    split at hm
    · rcases List.mem_append.mp hm with hold | hnew
      · exact h.queued i m hold
      · exact (h.broker.messages laws hnew).2
    · exact absurd hm List.not_mem_nil
  absent i hreceives := if_neg (hreceives ▸ Bool.false_ne_true)
  watches := h.watches

section Steps
variable [DecidableEq ι]

/-- A change of one node and of the messages on their way to it. -/
theorem Kept.update {host : Str} {s : Presence P ι} (h : s.Kept host) {i : ι} {n : NodeSys P}
    {queue : List MqttMessage} (hqueued : ∀ m ∈ queue, ∃ online, m.IsOf P host online)
    (habsent : Mqtt.receives n.handle = false → queue = []) (hwatches : n.Watches) :
    Presence.Kept host { s with
      node := Function.update s.node i n
      queue := Function.update s.queue i queue } where
  broker := h.broker
  queued j m hm := by
    rcases eq_or_ne j i with rfl | hne
    · exact hqueued m (Function.update_self j queue s.queue ▸ hm)
    · exact h.queued j m (Function.update_of_ne hne queue s.queue ▸ hm)
  absent j hreceives := by
    dsimp only at hreceives ⊢
    rcases eq_or_ne j i with rfl | hne
    · rw [Function.update_self] at hreceives ⊢
      exact habsent hreceives
    · rw [Function.update_of_ne hne] at hreceives ⊢
      exact h.absent j hreceives
  watches j := by
    dsimp only
    rcases eq_or_ne j i with rfl | hne
    · rw [Function.update_self]
      exact hwatches
    · rw [Function.update_of_ne hne]
      exact h.watches j

theorem Kept.nodeStep {host : Str} {s : Presence P ι} (h : s.Kept host) (i : ι)
    (e : NodeEvent P) : (s.nodeStep i e).Kept host := by
  refine h.update (fun m hm => ?_) (fun hreceives => if_neg (hreceives ▸ Bool.false_ne_true))
    (NodeSys.watches_step (h.watches i) e)
  split at hm
  · split at hm
    · exact h.queued i m hm
    · exact h.broker.retained m (Option.mem_toList.mp hm)
  · exact absurd hm List.not_mem_nil

theorem receives_message (topicName : Str) (body : BodyList) (s : NodeSys P) :
    (s.step (.message topicName body)).handle = s.handle := by
  change (s.message topicName body).handle = s.handle
  unfold NodeSys.message
  split
  · rfl
  · rfl

theorem Kept.deliver {host : Str} {s : Presence P ι} (h : s.Kept host) (i : ι) :
    (s.deliver i).Kept host := by
  unfold Presence.deliver
  split
  · exact h
  · rename_i m rest hqueue
    refine h.update (fun m hm => h.queued i m (hqueue ▸ List.mem_cons_of_mem _ hm))
      (fun hreceives => ?_) (NodeSys.watches_step (h.watches i) _)
    rw [receives_message] at hreceives
    rw [h.absent i hreceives] at hqueue
    cases hqueue

theorem Kept.step (laws : JsonText P) {host : Str} {s : Presence P ι} (h : s.Kept host)
    (e : PresenceEvent P ι) : (s.step e).Kept host := by
  cases e with
  | host e clean => exact h.hostStep laws e clean
  | node i e => exact h.nodeStep i e
  | deliver i => exact h.deliver i

end Steps

/-- The message says that the host is online. -/
def saysOnline (P : Platform) (host : Str) (m : MqttMessage) : Prop := m.IsOf P host true

/-- The broker is a notice board, and the notices tell a node whether the host is online. -/
def board (P : Platform) (host : Str) (i : ι) : Board (Presence P ι) Prop where
  unknown := False
  posted s := s.broker.retained.map (saysOnline P host)
  listens s := Mqtt.receives (s.node i).handle
  queue s := (s.queue i).map (saysOnline P host)
  known s := (s.node i).Shows host

/-- A node that is not started yet knows nothing of any host. -/
theorem informed_init (host : Str) (i : ι) (hostName : Option Str) (now : UInt64)
    (setups : List HostSetup) (node : ι → UInt64 × List Setup) :
    (board P host i).Informed (init hostName now setups node) := by
  have hunknown : ((init (P := P) hostName now setups node).node i).Shows host = False := by
    refine eq_false fun hshows => ?_
    obtain ⟨name, hmem, -⟩ := hshows
    exact absurd hmem List.not_mem_nil
  exact ⟨fun hlistens => absurd hlistens Bool.false_ne_true, fun _ => rfl,
    fun _ => ⟨rfl, hunknown⟩⟩

theorem hostStep_move (laws : JsonText P) {host : Str} {s : Presence P ι} (h : s.Kept host)
    (i : ι) (e : HostEvent) (clean : Bool) : (board P host i).Move s (s.hostStep e clean) := by
  refine .post ((s.broker.messages e clean).map (saysOnline P host)) ?_ rfl ?_ rfl
  · change (s.broker.step e clean).retained.map _ = _
    rw [h.broker.retained_eq laws, List.getLast?_map, Option.map_or]
    rfl
  · change List.map _ (if Mqtt.receives (s.node i).handle then _ else _) = _
    rw [apply_ite (List.map _), List.map_append]
    rfl

section Steps
variable [DecidableEq ι]

/-- A change of another node. -/
theorem move_other {host : Str} {s : Presence P ι} {i j : ι} (hne : i ≠ j) (n : NodeSys P)
    (queue : List MqttMessage) : (board P host i).Move s
      { s with node := Function.update s.node j n, queue := Function.update s.queue j queue } := by
  have hnode : Function.update s.node j n i = s.node i := Function.update_of_ne hne n s.node
  have hqueue : Function.update s.queue j queue i = s.queue i :=
    Function.update_of_ne hne queue s.queue
  refine .pass rfl ?_ ?_ ?_
  · exact congrArg (fun n => Mqtt.receives n.handle) hnode
  · exact congrArg (List.map _) hqueue
  · exact congrArg (NodeSys.Shows host) hnode

theorem nodeStep_move {host : Str} {s : Presence P ι} (h : s.Kept host) (i : ι) {j : ι}
    {e : NodeEvent P} (hfits : Fits host s (.node j e)) :
    (board P host i).Move s (s.nodeStep j e) := by
  rcases eq_or_ne i j with rfl | hne
  · have hknown : ((s.node i).step e).Shows host = (s.node i).Shows host := by
      refine propext ?_
      by_cases he : ∀ topicName body, e ≠ .message topicName body
      · exact NodeSys.shows_step he
      · obtain ⟨topicName, he⟩ := not_forall.mp he
        obtain ⟨body, he⟩ := not_forall.mp he
        obtain rfl := not_not.mp he
        exact NodeSys.shows_elsewhere (h.watches i) hfits
    have hnode : (s.nodeStep i e).node i = (s.node i).step e := Function.update_self ..
    have hlistens : (board P host i).listens (s.nodeStep i e) =
        Mqtt.receives ((s.node i).step e).handle :=
      congrArg (fun n : NodeSys P => Mqtt.receives n.handle) hnode
    have hshows : (board P host i).known (s.nodeStep i e) = (board P host i).known s :=
      (congrArg (NodeSys.Shows host) hnode).trans hknown
    have hqueue : (s.nodeStep i e).queue i = if Mqtt.receives ((s.node i).step e).handle then
        if Mqtt.receives (s.node i).handle then s.queue i else s.broker.retained.toList
      else [] := Function.update_self ..
    cases hafter : Mqtt.receives ((s.node i).step e).handle with
    | false =>
      rw [hafter] at hqueue
      exact .leave rfl (hlistens.trans hafter) (congrArg (List.map _) hqueue) hshows
    | true =>
      rw [hafter, if_pos rfl] at hqueue
      cases hbefore : Mqtt.receives (s.node i).handle with
      | false =>
        rw [hbefore] at hqueue
        refine .join rfl (hlistens.trans hafter) ?_ hshows
        change List.map _ ((s.nodeStep i e).queue i) = Option.toList (Option.map _ _)
        rw [hqueue]
        cases s.broker.retained with
        | none => rfl
        | some m => rfl
      | true =>
        rw [hbefore, if_pos rfl] at hqueue
        exact .pass rfl (hlistens.trans (hafter.trans hbefore.symm))
          (congrArg (List.map _) hqueue) hshows
  · exact move_other hne _ _

theorem deliver_move {host : Str} {s : Presence P ι} (h : s.Kept host) (i j : ι) :
    (board P host i).Move s (s.deliver j) := by
  unfold deliver
  split
  · exact .pass rfl rfl rfl rfl
  · rename_i m rest hqueue
    rcases eq_or_ne i j with rfl | hne
    · have hreceives : Mqtt.receives (s.node i).handle = true := by
        by_contra hnot
        rw [h.absent i (by simpa using hnot)] at hqueue
        cases hqueue
      obtain ⟨online, hof⟩ := h.queued i m (hqueue ▸ List.mem_cons_self)
      have hshows : ((s.node i).step (.message m.topicName m.body)).Shows host =
          saysOnline P host m := by
        refine propext ((NodeSys.shows_message (h.watches i) hreceives hof).trans ?_)
        refine ⟨fun honline => ?_, fun htrue => hof.unique htrue⟩
        rw [honline] at hof
        exact hof
      refine .read rfl ?_ ?_
      · refine congrArg Mqtt.receives ?_
        dsimp only
        rw [Function.update_self, receives_message]
      · change List.map _ (s.queue i) =
          NodeSys.Shows host (Function.update s.node i _ i) ::
            List.map _ (Function.update s.queue i rest i)
        rw [hqueue, Function.update_self, Function.update_self, hshows]
        rfl
    · exact move_other hne _ _

theorem step_move (laws : JsonText P) {host : Str} {s : Presence P ι} (h : s.Kept host) (i : ι)
    {e : PresenceEvent P ι} (hfits : Fits host s e) : (board P host i).Move s (s.step e) := by
  cases e with
  | host e clean => exact hostStep_move laws h i e clean
  | node j e => exact nodeStep_move h i hfits
  | deliver j => exact deliver_move h i j

end Steps

/-- What a node shows is what the host is. After the end of its connection the host is shown as
online only if it has gone with a disconnect, and without a word that it is offline. -/
structure Agrees (host : Str) (i : ι) (s : Presence P ι) : Prop where
  settled : s.broker.host.isConnected = true → s.broker.host.workState.isSettled = true →
    ((s.node i).Shows host ↔ s.broker.host.isOnline = true)
  gone : s.broker.host.isConnected = false → (s.node i).Shows host → s.broker.left = true
  left : s.broker.host.isConnected = false → s.broker.left = true →
    ∀ p, lastState s.broker.host.session = some p →
      ((s.node i).Shows host ↔ p.Announces true)

end Presence

theorem Publication.Announces.unique {P : Platform} {p : Publication P} {a b : Bool}
    (ha : p.Announces a) (hb : p.Announces b) : a = b := by
  have hsame := ha.2.2.symm.trans hb.2.2
  exact JsonValue.bool.inj (Option.some.inj hsame)

namespace Presence
variable {P : Platform} {ι : Type u}

/-- A node that knows the retained message shows the host as its last STATE message has it. -/
theorem Kept.shows_last (laws : JsonText P) {host : Str} {s : Presence P ι} (h : s.Kept host)
    {i : ι} (hknows : (s.node i).Shows host ↔ ∃ m, s.broker.retained = some m ∧ m.IsOf P host true)
    {p : Publication P} (hlast : lastState s.broker.host.session = some p)
    (hkept : s.broker.host.link = some .up ∨ s.broker.left = true) :
    (s.node i).Shows host ↔ p.Announces true := by
  obtain ⟨online, hannounces⟩ := h.broker.announced p (mem_of_lastState hlast)
  have hof := h.broker.isOf laws (mem_of_lastState hlast) hannounces
  have hretained := h.broker.last hkept p hlast
  rw [hknows]
  constructor
  · rintro ⟨m, hm, htrue⟩
    obtain rfl := Option.some.inj (hretained.symm.trans hm)
    exact hof.unique htrue ▸ hannounces
  · intro htrue
    exact ⟨_, hretained, hannounces.unique htrue ▸ hof⟩

theorem Kept.agrees (laws : JsonText P) {host : Str} {s : Presence P ι} (h : s.Kept host) {i : ι}
    (hknows : (s.node i).Shows host ↔
      ∃ m, s.broker.retained = some m ∧ m.IsOf P host true) : s.Agrees host i where
  settled hconnected hsettled := by
    have hup := (HostSys.isConnected_iff _).mp hconnected
    obtain ⟨p, hlast, hannounces⟩ := h.broker.settled hup hsettled
    rw [h.shows_last laws hknows hlast (.inl hup)]
    exact ⟨fun htrue => hannounces.unique htrue, fun honline => honline ▸ hannounces⟩
  gone hdown hshows := by
    have hnot : s.broker.host.link ≠ some .up := fun hup => by
      rw [(HostSys.isConnected_iff _).mpr hup] at hdown
      cases hdown
    obtain ⟨m, hm, htrue⟩ := hknows.mp hshows
    by_contra hleft
    have hfalse := h.broker.gone hnot (by simpa using hleft) m hm
    exact absurd (hfalse.unique htrue) Bool.false_ne_true
  left hdown hleft p hlast := h.shows_last laws hknows hlast (.inr hleft)

variable [DecidableEq ι]

/-- A node that listens and has read all of its messages agrees with the host. -/
theorem caught_up_nodes_agree (laws : JsonText P) (hostName : Option Str) (now : UInt64)
    (setups : List HostSetup) (node : ι → UInt64 × List Setup)
    (hlegible : SparkplugHost.Legible (HostSys.init (P := P) hostName now setups).self)
    {es : List (PresenceEvent P ι)}
    (hok : RunOk step (Fits (HostSys.init (P := P) hostName now setups).self.name)
      (init hostName now setups node) es) (i : ι)
    (hlistens :
      Mqtt.receives ((run step (init hostName now setups node) es).node i).handle = true)
    (hqueue : (run step (init hostName now setups node) es).queue i = []) :
    (run step (init hostName now setups node) es).Agrees
      (HostSys.init (P := P) hostName now setups).self.name i := by
  generalize hhost : (HostSys.init (P := P) hostName now setups).self.name = host at hok ⊢
  have hkept : (init (P := P) hostName now setups node).Kept host := by
    refine ⟨hhost ▸ HostAtBroker.vouches_init hlegible, fun _ m hm => ?_, fun _ _ => rfl,
      fun j => NodeSys.watches_init _ _⟩
    exact absurd hm List.not_mem_nil
  have hinformed : (board P host i).Informed (init hostName now setups node) :=
    informed_init host i hostName now setups node
  have hstep : ∀ (s : Presence P ι) (e : PresenceEvent P ι),
      s.Kept host → Fits host s e → (s.step e).Kept host := fun _ e h _ => h.step laws e
  have hrun := run_invariant hstep hkept hok
  have hboard := Board.informed_run (b := board P host i) hstep
    (fun s e h hfits => step_move laws h i hfits) hkept hinformed hok
  refine hrun.agrees laws ?_
  have hknows := hboard.knows hlistens (congrArg (List.map _) hqueue)
  change NodeSys.Shows host _ = Option.getD (Option.map _ _) False at hknows
  rw [hknows]
  cases (run step (init hostName now setups node) es).broker.retained with
  | none => simp
  | some m => simp [saysOnline]

/-- The node and the host go online, and then the application takes the host out of service. -/
def hostLeavesService : List (PresenceEvent .reference Unit) :=
  DeathAnnounced.nodeGoesOnline.map (.node ()) ++
    DeathAnnounced.hostGoesOnline.map (.host · false) ++
    [.deliver (), .host (.inService false) false, .host (.work 0 {}) false,
      .host (.work 0 {}) false, .deliver ()]

theorem nodes_see_host_leave_service :
    (run step (init (some (str "H")) 0 [] fun _ => (0, DeathAnnounced.nodeSetup))
      hostLeavesService).Agrees (str "H") () := by
  refine caught_up_nodes_agree JsonText.reference (some (str "H")) 0 []
    (fun _ => (0, DeathAnnounced.nodeSetup)) ⟨⟨by decide +kernel, by decide +kernel⟩, fun text htext =>
      ⟨text.map fun b => Char.ofNat b.toNat, ?_⟩⟩ ?_ () (by decide +kernel) (by decide +kernel)
  · revert text
    decide +kernel
  · repeat refine ⟨trivial, ?_⟩
    trivial

end Presence
end PubSub
