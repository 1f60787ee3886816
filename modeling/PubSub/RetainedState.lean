import PubSub.HostLink
import PubSub.StateTopic

/-!
# What the broker retains of a host

The broker keeps the last STATE message of the host. It publishes the will of the host when the
connection ends without a disconnect. As long as the host is connected the retained message is
the last one of its session, and behind a connection that ended without a disconnect it says
that the host is offline.
-/

namespace PubSub
set_option autoImplicit false

/-- The message tells a node that hears of the host of that name. -/
def MqttMessage.IsOf (P : Platform) (host : Str) (online : Bool) (m : MqttMessage) : Prop :=
  (Delivery.mk m.topicName 0 m.body).IsOf P host online

theorem MqttMessage.IsOf.unique {P : Platform} {host : Str} {a b : Bool} {m : MqttMessage}
    (ha : m.IsOf P host a) (hb : m.IsOf P host b) : a = b :=
  congrArg Prod.snd (Option.some.inj (ha.1.symm.trans hb.1))

section Sessions
variable {P : Platform}

theorem lastState_append (a b : List (Action P)) :
    lastState (a ++ b) = (lastState b).or (lastState a) := by
  unfold lastState
  rw [List.filterMap_append, List.getLast?_append]

theorem mem_of_state {session : List (Action P)} {p : Publication P}
    (h : p ∈ session.filterMap Action.state?) : .publish p ∈ session := by
  obtain ⟨a, ha, hp⟩ := List.mem_filterMap.mp h
  cases a with
  | disconnect => cases hp
  | publish q =>
    obtain ⟨-, hq⟩ := Option.ite_none_right_eq_some.mp hp
    exact Option.some.inj hq ▸ ha

theorem mem_of_lastState {session : List (Action P)} {p : Publication P}
    (h : lastState session = some p) : .publish p ∈ session :=
  mem_of_state (List.mem_of_getLast? h)

end Sessions

namespace HostSys
variable {P : Platform} {host : Str}

theorem Tells.isOf (laws : JsonText P) {s : HostSys P} {state : Topic P} (h : s.Tells host state)
    {t : Topic P} (ht : SparkplugHost.Speaks (SparkplugHost.statePath s.self) t) {online : Bool}
    (htold : t.payload.Says online) : t.message.IsOf P host online := by
  have htopic : t.topicName = SparkplugHost.statePath s.self :=
    Topic.topicName_of_topic ht.named (SparkplugHost.statePath_ne_nil s.self)
  have hof := Delivery.isOf_state laws h.legible.1 ht.payload htold
    (m := ⟨t.topicName, 0, t.payload.body⟩) htopic rfl
  exact h.name ▸ hof

/-- The STATE messages that a step hands to the library. -/
def said (s : HostSys P) (e : HostEvent) : List MqttMessage :=
  (((s.step e).session.drop s.session.length).filterMap Action.state?).map fun p => p.topic.message

/-- The will of the connect request that a step makes: the STATE message as it is then. -/
def request (s : HostSys P) (e : HostEvent) : Option MqttMessage :=
  if s.link ≠ some .connecting ∧ (s.step e).link = some .connecting then
    ((s.step e).self.topicList.getTopicByMessageType (str "STATE")).map fun t =>
      { t.message with qos := .qos1, retained := true }
  else none

def loses (s : HostSys P) (e : HostEvent) : Bool := s.isConnected && !(s.step e).isConnected

theorem said_append {s : HostSys P} {e : HostEvent} {rest : List (Action P)}
    (h : (s.step e).session = s.session ++ rest) :
    s.said e = (rest.filterMap Action.state?).map fun p => p.topic.message := by
  rw [said, h, List.drop_left]

theorem said_reset {s : HostSys P} {e : HostEvent} (h : (s.step e).session = []) :
    s.said e = [] := by
  rw [said, h, List.drop_nil]
  rfl

theorem Tells.request (laws : JsonText P) {s : HostSys P} {state : Topic P}
    (h : s.Tells host state) {e : HostEvent} (hbefore : s.link ≠ some .connecting)
    (hlink : (s.step e).link = some .connecting) :
    ∃ will, s.request e = some will ∧ will.retained = true ∧ will.IsOf P host false := by
  obtain ⟨next, hnext⟩ := h.step e
  have hcalls := ((connects_step h.owns hlink).resolve_left hbefore).2
  obtain ⟨online, htold, hwrote⟩ := step_wrote h.owns hcalls
  cases hwrote
  rw [hnext.owns.statePayload] at htold
  obtain ⟨handle, hhandle, -⟩ := Option.map_eq_some_iff.mp hlink
  have hnamed := hnext.named (hhandle ▸ rfl)
  refine ⟨{ next.message with qos := .qos1, retained := true }, ?_, rfl, ?_⟩
  · unfold HostSys.request
    rw [if_pos ⟨hbefore, hlink⟩, hnext.owns.self.find]
    rfl
  · exact hnext.isOf laws ⟨hnext.payload, hnext.retained, hnamed⟩ htold

/-- What a step adds to the session. -/
structure Extends (s : HostSys P) (e : HostEvent) (rest : List (Action P)) : Prop where
  session : (s.step e).session = s.session ++ rest
  up : (s.step e).link = some .up → s.link = some .up
  connected : rest ≠ [] → (s.step e).link = some .up
  announced : ∀ p, .publish p ∈ rest → ∃ online, p.Announces online
  settled : (s.step e).link = some .up → (s.step e).workState.isSettled = true →
    (∃ p, lastState rest = some p ∧ p.Announces (s.step e).isOnline) ∨
      lastState rest = none ∧ (s.step e).workState = s.workState

/-- The broker has accepted the connection. -/
structure Accepts (s : HostSys P) (e : HostEvent) : Prop where
  connecting : s.link = some .connecting
  up : (s.step e).link = some .up
  session : (s.step e).session = []
  workState : (s.step e).workState = s.workState

theorem extends_nothing {s : HostSys P} {e : HostEvent} (hsession : (s.step e).session = s.session)
    (hup : (s.step e).link = some .up → s.link = some .up)
    (hstate : (s.step e).workState.isSettled = true → (s.step e).workState = s.workState) :
    s.Extends e [] where
  session := hsession.trans (List.append_nil _).symm
  up := hup
  connected hne := absurd rfl hne
  announced _ hp := absurd hp List.not_mem_nil
  settled _ hsettled := .inr ⟨rfl, hstate hsettled⟩

theorem extends_announce {s : HostSys P} {e : HostEvent} {message : Publication P} {online : Bool}
    (hmessage : message.Announces online) {rest : List (Action P)}
    (hrest : rest = [] ∨ s.isConnected = true ∧ rest = [.disconnect])
    (hsession : (s.step e).session =
      (if s.isConnected then s.session ++ [.publish message] else s.session) ++ rest)
    (hlink : (s.step e).link = s.link)
    (hstate : (s.step e).workState.isSettled = true → (s.step e).isOnline = online) :
    ∃ added, s.Extends e added := by
  by_cases hconnected : s.isConnected = true
  · have hup := (isConnected_iff s).mp hconnected
    rw [if_pos hconnected, List.append_assoc] at hsession
    refine ⟨_, hsession, fun _ => hup, fun _ => hlink.trans hup, fun p hp => ?_, fun _ hs => ?_⟩
    · rcases List.mem_cons.mp hp with hp | hp
      · exact ⟨online, Action.publish.inj hp ▸ hmessage⟩
      · rcases hrest with rfl | ⟨-, rfl⟩
        · exact absurd hp List.not_mem_nil
        · exact absurd (List.mem_singleton.mp hp) nofun
    · refine .inl ⟨message, ?_, (hstate hs).symm ▸ hmessage⟩
      have hlast : lastState [Action.publish message] = some message :=
        @lastState_publish P [] message hmessage.1
      rcases hrest with rfl | ⟨-, rfl⟩
      · exact hlast
      · rw [lastState_disconnect, hlast]
  · have hdown : s.link ≠ some .up := fun hup => hconnected ((isConnected_iff s).mpr hup)
    have hnothing : rest = [] := hrest.resolve_right fun hboth => hconnected hboth.1
    rw [if_neg hconnected, hnothing] at hsession
    exact ⟨[], hsession, fun hup => hlink.symm.trans hup, fun hne => absurd rfl hne,
      fun p hp => absurd hp List.not_mem_nil, fun hup => absurd (hlink.symm.trans hup) hdown⟩

theorem extends_disconnect {s : HostSys P} {e : HostEvent} {rest : List (Action P)}
    (hrest : rest = [] ∨ s.isConnected = true ∧ rest = [.disconnect])
    (hsession : (s.step e).session = s.session ++ rest) (hlink : (s.step e).link = s.link)
    (hstate : (s.step e).workState.isSettled = true → (s.step e).workState = s.workState) :
    s.Extends e rest := by
  rcases hrest with rfl | ⟨hconnected, rfl⟩
  · exact extends_nothing (hsession.trans (List.append_nil _)) (fun hup => hlink.symm.trans hup)
      hstate
  · have hup := (isConnected_iff s).mp hconnected
    exact ⟨hsession, fun _ => hup, fun _ => hlink.trans hup,
      fun p hp => absurd (List.mem_singleton.mp hp) nofun,
      fun _ hsettled => .inr ⟨rfl, hstate hsettled⟩⟩

theorem step_extends {s : HostSys P} {state : Topic P} (h : s.Owns state) (e : HostEvent) :
    (∃ rest, s.Extends e rest) ∨ s.Accepts e := by
  have hmove := step_move h e
  have hlink : (s.step e).view.link = (s.step e).link := rfl
  have hstate : (s.step e).view.workState = (s.step e).workState := rfl
  have hsession : (s.step e).view.session = (s.step e).session := rfl
  generalize (s.step e).view = v at hmove hlink hstate hsession
  cases hmove with
  | stay hsame =>
    refine .inl ⟨[], extends_nothing hsession.symm (fun hup => ?_) fun _ => hstate.symm⟩
    rw [← hlink] at hup
    rcases hsame with rfl | rfl | rfl
    · exact hup
    · cases hup
    · cases hup
  | accept hconnecting =>
    exact .inr ⟨hconnecting, hlink.symm, hsession.symm, hstate.symm⟩
  | idle hidle =>
    refine .inl ⟨[], extends_nothing hsession.symm (fun hup => hlink.trans hup) fun hsettled => ?_⟩
    rw [← hstate] at hsettled
    cases hsettled
  | connect hidle hsame =>
    refine .inl ⟨[], extends_nothing hsession.symm (fun hup => ?_) fun hsettled => ?_⟩
    · rw [← hlink] at hup
      rcases hsame with rfl | rfl
      · exact hup
      · cases hup
    · rw [← hstate] at hsettled
      cases hsettled
  | announce online hmessage =>
    refine .inl (extends_announce hmessage (.inl rfl) ?_ hlink.symm fun _ => ?_)
    · exact hsession.symm.trans (List.append_nil _).symm
    · unfold isOnline
      rw [← hstate]
      cases online
      · rfl
      · rfl
  | leaveOnline hmessage hrest =>
    refine .inl (extends_announce hmessage hrest hsession.symm hlink.symm fun hsettled => ?_)
    rw [← hstate] at hsettled
    cases hsettled
  | leaveOffline hoffline hrest =>
    refine .inl ⟨_, extends_disconnect hrest hsession.symm hlink.symm fun hsettled => ?_⟩
    rw [← hstate] at hsettled
    cases hsettled
  | exit hcheck hstop hconnected =>
    exact .inl ⟨_, extends_disconnect (.inr ⟨hconnected, rfl⟩) hsession.symm hlink.symm
      fun _ => hstate.symm⟩

end HostSys

/-- A host, and what the broker has of it: the will of its connection, the message that is
retained, and whether the last connection ended with a disconnect. -/
structure HostAtBroker (P : Platform) where
  host : HostSys P
  will : Option MqttMessage := none
  retained : Option MqttMessage := none
  left : Bool := false

namespace HostAtBroker
variable {P : Platform} {host : Str}

/-- `clean` tells whether the broker gets a disconnect if the connection ends. -/
def messages (e : HostEvent) (clean : Bool) (b : HostAtBroker P) : List MqttMessage :=
  b.host.said e ++ if b.host.loses e && !clean then b.will.toList else []

def step (e : HostEvent) (clean : Bool) (b : HostAtBroker P) : HostAtBroker P where
  host := b.host.step e
  will := if b.host.loses e then none else (b.host.request e).or b.will
  retained := ((b.messages e clean).filter MqttMessage.retained).getLast?.or b.retained
  left := if b.host.loses e then clean else b.left

/-- The retained message is what the host has said of itself, or its will. -/
structure Vouches (host : Str) (b : HostAtBroker P) : Prop where
  tells : ∃ state, b.host.Tells host state
  linked : b.host.Linked
  announced : ∀ p, .publish p ∈ b.host.session → ∃ online, p.Announces online
  will : b.host.link = some .connecting ∨ b.host.link = some .up →
    ∃ will, b.will = some will ∧ will.retained = true ∧ will.IsOf P host false
  retained : ∀ m, b.retained = some m → ∃ online, m.IsOf P host online
  last : b.host.link = some .up ∨ b.left = true →
    ∀ p, lastState b.host.session = some p → b.retained = some p.topic.message
  settled : b.host.link = some .up → b.host.workState.isSettled = true →
    ∃ p, lastState b.host.session = some p ∧ p.Announces b.host.isOnline
  gone : b.host.link ≠ some .up → b.left = false →
    ∀ m, b.retained = some m → m.IsOf P host false

theorem Vouches.isOf (laws : JsonText P) {b : HostAtBroker P} (h : b.Vouches host)
    {p : Publication P} (hp : .publish p ∈ b.host.session) {online : Bool}
    (hannounces : p.Announces online) : p.topic.message.IsOf P host online := by
  obtain ⟨state, htells⟩ := h.tells
  exact htells.isOf laws (htells.session p hp) hannounces.2

theorem loses_iff {s : HostSys P} {e : HostEvent} :
    s.loses e = true ↔ s.link = some .up ∧ (s.step e).link ≠ some .up := by
  unfold HostSys.loses
  rw [Bool.and_eq_true, Bool.not_eq_true', ← HostSys.isConnected_iff, ne_eq,
    ← HostSys.isConnected_iff, Bool.not_eq_true]

theorem up_step {s : HostSys P} {state : Topic P} (h : s.Owns state) {e : HostEvent}
    (hup : (s.step e).link = some .up) : s.link = some .connecting ∨ s.link = some .up := by
  rcases HostSys.step_extends h e with ⟨rest, hrest⟩ | haccepts
  · exact .inr (hrest.up hup)
  · exact .inl haccepts.connecting

theorem Vouches.will_step (laws : JsonText P) {b : HostAtBroker P} (h : b.Vouches host)
    {e : HostEvent}
    (hlink : (b.host.step e).link = some .connecting ∨ (b.host.step e).link = some .up)
    (clean : Bool) :
    ∃ will, (b.step e clean).will = some will ∧ will.retained = true ∧
      will.IsOf P host false := by
  obtain ⟨state, htells⟩ := h.tells
  by_cases hbegins : b.host.link ≠ some .connecting ∧ (b.host.step e).link = some .connecting
  · obtain ⟨will, hrequest, hwill⟩ := htells.request laws hbegins.1 hbegins.2
    have hidle := ((HostSys.connects_step htells.owns hbegins.2).resolve_left hbegins.1).1
    have hloses : b.host.loses e = false := by
      by_contra hlost
      have hup := (loses_iff.mp (by simpa using hlost)).1
      exact Link.noConfusion (Option.some.inj (hidle.symm.trans hup))
    refine ⟨will, ?_, hwill⟩
    unfold step
    rw [hloses, hrequest]
    rfl
  · have hbefore : b.host.link = some .connecting ∨ b.host.link = some .up := by
      rcases hlink with hconnecting | hup
      · exact .inl (not_not.mp fun hne => hbegins ⟨hne, hconnecting⟩)
      · exact up_step htells.owns hup
    have hnone : b.host.request e = none := if_neg hbegins
    have hloses : b.host.loses e = false := by
      by_contra hlost
      obtain ⟨hup, hdown⟩ := loses_iff.mp (by simpa using hlost)
      refine hbegins ⟨fun hne => ?_, hlink.resolve_right hdown⟩
      exact Link.noConfusion (Option.some.inj (hne.symm.trans hup))
    unfold step
    rw [hloses, hnone]
    exact h.will hbefore

/-- Whatever the broker gets is retained, and it is a STATE message of the host. -/
theorem Vouches.messages (laws : JsonText P) {b : HostAtBroker P} (h : b.Vouches host)
    {e : HostEvent} {clean : Bool} {m : MqttMessage} (hm : m ∈ b.messages e clean) :
    m.retained = true ∧ ∃ online, m.IsOf P host online := by
  obtain ⟨state, htells⟩ := h.tells
  obtain ⟨next, hnext⟩ := htells.step e
  unfold HostAtBroker.messages at hm
  rcases List.mem_append.mp hm with hsaid | hwill
  · rcases HostSys.step_extends htells.owns e with ⟨rest, hrest⟩ | haccepts
    · rw [HostSys.said_append hrest.session] at hsaid
      obtain ⟨p, hp, rfl⟩ := List.mem_map.mp hsaid
      have hadded := mem_of_state hp
      have hspeaks := hnext.session p (hrest.session ▸ List.mem_append_right _ hadded)
      obtain ⟨online, hannounces⟩ := hrest.announced p hadded
      exact ⟨hspeaks.retained, online, hnext.isOf laws hspeaks hannounces.2⟩
    · rw [HostSys.said_reset haccepts.session] at hsaid
      exact absurd hsaid List.not_mem_nil
  · obtain ⟨hlost, hmem⟩ : (b.host.loses e && !clean) = true ∧ m ∈ b.will.toList := by
      split at hwill
      · rename_i hlost
        exact ⟨hlost, hwill⟩
      · exact absurd hwill List.not_mem_nil
    have hup := (loses_iff.mp (Bool.and_eq_true_iff.mp hlost).1).1
    obtain ⟨will, hsome, hretained, hof⟩ := h.will (.inr hup)
    rw [hsome, Option.mem_toList] at hmem
    exact Option.some.inj hmem ▸ ⟨hretained, false, hof⟩

theorem Vouches.retained_eq (laws : JsonText P) {b : HostAtBroker P} (h : b.Vouches host)
    (e : HostEvent) (clean : Bool) :
    (b.step e clean).retained = (b.messages e clean).getLast?.or b.retained := by
  unfold HostAtBroker.step
  rw [List.filter_eq_self.mpr fun m hm => (h.messages laws hm).1]

theorem Vouches.retained_isOf (laws : JsonText P) {b : HostAtBroker P} (h : b.Vouches host)
    {e : HostEvent} {clean : Bool} {m : MqttMessage} (hm : (b.step e clean).retained = some m) :
    ∃ online, m.IsOf P host online := by
  rw [h.retained_eq laws] at hm
  rcases Option.or_eq_some_iff.mp hm with hlast | ⟨-, hbefore⟩
  · exact (h.messages laws (List.mem_of_getLast? hlast)).2
  · exact h.retained m hbefore

theorem Vouches.retained_lose (laws : JsonText P) {b : HostAtBroker P} (h : b.Vouches host)
    {e : HostEvent} (hloses : b.host.loses e = true)
    (hsession : (b.host.step e).session = b.host.session) (clean : Bool) :
    (b.step e clean).retained = (if clean then b.retained else b.will) := by
  have hsaid : b.host.said e = [] := by
    rw [HostSys.said_append (hsession.trans (List.append_nil _).symm)]
    rfl
  obtain ⟨will, hwill, -, -⟩ := h.will (.inr (loses_iff.mp hloses).1)
  rw [h.retained_eq laws]
  unfold HostAtBroker.messages
  rw [hsaid, hloses, hwill]
  cases clean with
  | true => rfl
  | false => rfl

theorem Vouches.retained_stay (laws : JsonText P) {b : HostAtBroker P} (h : b.Vouches host)
    {e : HostEvent} {rest : List (Action P)}
    (hsession : (b.host.step e).session = b.host.session ++ rest)
    (hloses : b.host.loses e = false) (clean : Bool) : (b.step e clean).retained =
      ((lastState rest).map fun p => p.topic.message).or b.retained := by
  rw [h.retained_eq laws]
  unfold HostAtBroker.messages
  rw [hloses, Bool.false_and, if_neg Bool.false_ne_true, List.append_nil,
    HostSys.said_append hsession, List.getLast?_map]
  rfl

theorem Vouches.accept (laws : JsonText P) {b : HostAtBroker P} (h : b.Vouches host)
    {e : HostEvent} (haccepts : b.host.Accepts e) (clean : Bool) :
    (b.step e clean).Vouches host := by
  obtain ⟨state, htells⟩ := h.tells
  refine ⟨htells.step e, HostSys.linked_step h.linked e, fun p hp => ?_,
    fun hlink => h.will_step laws hlink clean, fun m hm => h.retained_isOf laws hm,
    fun _ p hp => ?_, fun _ hs => ?_, fun hdown => ?_⟩
  · rw [show (b.step e clean).host.session = [] from haccepts.session] at hp
    exact absurd hp List.not_mem_nil
  · rw [show (b.step e clean).host.session = [] from haccepts.session] at hp
    cases hp
  · rw [show (b.step e clean).host.workState = _ from haccepts.workState] at hs
    exact absurd haccepts.connecting (h.linked.settled hs)
  · exact absurd haccepts.up hdown

theorem Vouches.extend (laws : JsonText P) {b : HostAtBroker P} (h : b.Vouches host)
    {e : HostEvent} {rest : List (Action P)} (hrest : b.host.Extends e rest) (clean : Bool) :
    (b.step e clean).Vouches host := by
  obtain ⟨state, htells⟩ := h.tells
  obtain ⟨next, hnext⟩ := htells.step e
  have hannounced : ∀ p, .publish p ∈ (b.host.step e).session → ∃ online, p.Announces online := by
    intro p hp
    rw [hrest.session] at hp
    exact (List.mem_append.mp hp).elim (h.announced p) (hrest.announced p)
  have hsettled : (b.host.step e).link = some .up →
      (b.host.step e).workState.isSettled = true →
      ∃ p, lastState (b.host.step e).session = some p ∧ p.Announces (b.host.step e).isOnline := by
    intro hup hs
    rw [hrest.session, lastState_append]
    rcases hrest.settled hup hs with ⟨p, hp, hannounces⟩ | ⟨hnone, hsame⟩
    · exact ⟨p, by rw [hp, Option.some_or], hannounces⟩
    · obtain ⟨p, hp, hannounces⟩ := h.settled (hrest.up hup) (hsame ▸ hs)
      refine ⟨p, by rw [hnone, hp, Option.none_or], ?_⟩
      unfold HostSys.isOnline at hannounces ⊢
      rw [hsame]
      exact hannounces
  cases hloses : b.host.loses e with
  | true =>
    obtain ⟨hup, hdown⟩ := loses_iff.mp hloses
    have hnothing : rest = [] := by
      by_contra hne
      exact hdown (hrest.connected hne)
    have hsession : (b.host.step e).session = b.host.session := by
      rw [hrest.session, hnothing, List.append_nil]
    have hretained := h.retained_lose laws hloses hsession clean
    have hleft : (b.step e clean).left = clean := if_pos hloses
    obtain ⟨will, hwill, -, hoffline⟩ := h.will (.inr hup)
    refine ⟨⟨next, hnext⟩, HostSys.linked_step h.linked e, hannounced,
      fun hlink => h.will_step laws hlink clean, fun m hm => h.retained_isOf laws hm,
      fun hor p hp => ?_, hsettled, fun _ hnot m hm => ?_⟩
    · have hclean : clean = true := hleft ▸ hor.resolve_left hdown
      rw [hretained, hclean]
      exact h.last (.inl hup) p (hsession ▸ hp)
    · rw [hretained, ← hleft, hnot] at hm
      exact Option.some.inj (hwill.symm.trans hm) ▸ hoffline
  | false =>
    have hretained := h.retained_stay laws hrest.session hloses clean
    have hleft : (b.step e clean).left = b.left := if_neg (by simp [hloses])
    refine ⟨⟨next, hnext⟩, HostSys.linked_step h.linked e, hannounced,
      fun hlink => h.will_step laws hlink clean, fun m hm => h.retained_isOf laws hm,
      fun hor p hp => ?_, hsettled, fun hdown hnot m hm => ?_⟩
    · have hbefore : b.host.link = some .up ∨ b.left = true := by
        rw [hleft] at hor
        exact hor.imp_left hrest.up
      have hlast : (lastState rest).or (lastState b.host.session) = some p := by
        rw [← lastState_append, ← hrest.session]
        exact hp
      rw [hretained]
      cases hrecent : lastState rest with
      | none =>
        rw [hrecent] at hlast
        exact h.last hbefore p hlast
      | some q =>
        rw [hrecent] at hlast
        exact Option.some.inj hlast ▸ rfl
    · have hwas : b.host.link ≠ some .up := fun hup => by
        have hlost := loses_iff.mpr ⟨hup, hdown⟩
        exact Bool.noConfusion (hloses.symm.trans hlost)
      have hnothing : rest = [] := by
        by_contra hne
        exact hdown (hrest.connected hne)
      rw [hretained, hnothing] at hm
      exact h.gone hwas (hleft ▸ hnot) m hm

/-- Every step of the host leaves the broker with a message that vouches for the host. -/
theorem Vouches.step (laws : JsonText P) {b : HostAtBroker P} (h : b.Vouches host)
    (e : HostEvent) (clean : Bool) : (b.step e clean).Vouches host := by
  obtain ⟨state, htells⟩ := h.tells
  rcases HostSys.step_extends htells.owns e with ⟨rest, hrest⟩ | haccepts
  · exact h.extend laws hrest clean
  · exact h.accept laws haccepts clean

theorem vouches_init {hostName : Option Str} {now : UInt64} {setups : List HostSetup}
    (hlegible : SparkplugHost.Legible (HostSys.init (P := P) hostName now setups).self) :
    ({ host := .init hostName now setups } : HostAtBroker P).Vouches
      (HostSys.init (P := P) hostName now setups).self.name where
  tells := HostSys.tells_init hostName now setups hlegible
  linked := HostSys.linked_init hostName now setups
  announced := nofun
  will := nofun
  retained := nofun
  last := nofun
  settled := nofun
  gone := nofun

end HostAtBroker
end PubSub
