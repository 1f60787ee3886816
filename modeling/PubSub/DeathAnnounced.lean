import PubSub.NodeSession
import PubSub.HostSession
import PubSub.Reference

/-!
# Announcements before a disconnect

A normal disconnect makes the broker drop the will, so a node has to publish NDEATH and a
host an offline STATE message first. The online states do so; the code behind the loops
does not, and it is reached when the loop condition sees the stop flag first.
-/

namespace PubSub
set_option autoImplicit false

/-- In front of a disconnect there is an NDEATH behind the last NBIRTH. -/
def NodeAnnounced (log : List (Option MessageKind)) : Prop :=
  ∀ pre post, log = pre ++ none :: post → some .nodeBirth ∈ pre →
    ∃ first last, pre = first ++ some .nodeDeath :: last ∧ some .nodeBirth ∉ last

theorem split_append {α : Type} {log ms pre post : List α} {a : α}
    (h : log ++ ms = pre ++ a :: post) (hnone : a ∉ ms) :
    ∃ rest, log = pre ++ a :: rest := by
  rcases List.append_eq_append_iff.mp h with ⟨mid, hpre, hms⟩ | ⟨mid, hlog, hrest⟩
  · have hmem : a ∈ ms := by
      rw [hms]
      exact List.mem_append_right _ List.mem_cons_self
    exact absurd hmem hnone
  · cases mid with
    | nil =>
      have hmem : a ∈ ms := by
        rw [← hrest.trans (List.nil_append ms)]
        exact List.mem_cons_self
      exact absurd hmem hnone
    | cons b rest =>
      rw [List.cons_append] at hrest
      rw [(List.cons.inj hrest).1]
      exact ⟨rest, hlog⟩

theorem split_concat {α : Type} {log pre post : List α} {a : α}
    (h : log ++ [a] = pre ++ a :: post) : pre = log ∨ ∃ rest, log = pre ++ a :: rest := by
  rcases List.eq_nil_or_concat post with rfl | ⟨rest, b, rfl⟩
  · exact .inl (List.append_inj_left' h rfl).symm
  · rw [List.concat_eq_append, ← List.cons_append, ← List.append_assoc] at h
    exact .inr ⟨rest, List.append_inj_left' h rfl⟩

theorem NodeAnnounced.append {log ms : List (Option MessageKind)} (h : NodeAnnounced log)
    (hms : none ∉ ms) : NodeAnnounced (log ++ ms) := by
  intro pre post hsplit hbirth
  obtain ⟨rest, hlog⟩ := split_append hsplit hms
  exact h pre rest hlog hbirth

theorem NodeAnnounced.disconnect {log : List (Option MessageKind)} (h : NodeAnnounced log)
    (hlog : some .nodeBirth ∈ log →
      ∃ first last, log = first ++ some .nodeDeath :: last ∧ some .nodeBirth ∉ last) :
    NodeAnnounced (log ++ [none]) := by
  intro pre post hsplit hbirth
  rcases split_concat hsplit with rfl | ⟨rest, hrest⟩
  · exact hlog hbirth
  · exact h pre rest hrest hbirth

namespace NodeSys
variable {P : Platform}

/-- The loop condition does not end the loop of a node that is online. -/
def LeavesFirst (s : NodeSys P) : NodeEvent P → Prop
  | .work _ _ => s.phase = .check → s.stopNodeTask = true → s.isConnected = true →
      s.nodeState ≠ .online
  | _ => True

instance (s : NodeSys P) : ∀ e, Decidable (s.LeavesFirst e)
  | .work _ _ => inferInstanceAs (Decidable (_ → _ → _ → _))
  | .link _ | .connectionLost | .callback _ _ | .message _ _ | .start | .stop | .stopReturns
  | .inService _ | .waitOnHostOnline _ | .deviceInService _ _ | .deviceStart _ | .deviceStop _
  | .addBirthMetric _ | .editMetric _ _ => .isTrue trivial

theorem sentMessages_none (s : NodeSys P) : none ∉ s.sentMessages := by
  unfold sentMessages
  split <;> simp

/-- Until the node is online its session has no NBIRTH. -/
structure Announced (v : SessionView) : Prop where
  connecting : v.link = some .connecting → v.nodeState = .waitOnConnect ∨ v.nodeState = .idle
  unborn : v.link = some .up → v.nodeState = .waitOnConnect → some .nodeBirth ∉ v.log
  log : NodeAnnounced v.log

theorem announced_step (s : NodeSys P) (e : NodeEvent P) (v : SessionView)
    (h : Announced s.view) (hok : s.LeavesFirst e) (hmove : Move s e v) : Announced v := by
  obtain ⟨hconnecting, hunborn, hlog⟩ := h
  cases hmove with
  | stay hlink =>
    rcases hlink with rfl | rfl | rfl
    · exact ⟨hconnecting, hunborn, hlog⟩
    · exact ⟨fun h => (by cases h), fun h => (by cases h), hlog⟩
    · exact ⟨fun h => (by cases h), fun h => (by cases h), hlog⟩
  | service device on => exact ⟨hconnecting, hunborn, hlog⟩
  | accept _ =>
    refine ⟨fun h => (by cases h), fun _ _ => List.not_mem_nil, ?_⟩
    intro pre post hsplit
    simp at hsplit
  | idle hlink => exact ⟨fun _ => .inr rfl, fun _ h => (by cases h), hlog⟩
  | connect _ _ => exact ⟨fun _ => .inl rfl, fun h => (by cases h), hlog⟩
  | birth _ _ hconnected =>
    have hup := (isConnected_iff s).mp hconnected
    refine ⟨fun h => ?_, fun _ h => (by cases h), hlog.append ?_⟩
    · exact absurd (hup.symm.trans h) (by simp)
    · intro hmem
      rcases List.mem_cons.mp hmem with h | h
      · cases h
      · exact sentMessages_none s h
  | poll _ hstate _ =>
    refine ⟨hconnecting, fun _ h => ?_, hlog.append (sentMessages_none s)⟩
    exact absurd (hstate.symm.trans h) (by simp)
  | leave _ hstate _ hrest =>
    have hnot : s.link ≠ some .connecting := not_connecting hconnecting hstate
    refine ⟨fun h => absurd h hnot, fun _ h => (by cases h), ?_⟩
    have hsent := hlog.append (sentMessages_none s)
    have hdeath : NodeAnnounced (s.log ++ s.sentMessages ++
        if s.isConnected then [some .nodeDeath] else []) := by
      apply hsent.append
      split <;> simp
    rcases hrest with rfl | ⟨hconnected, rfl⟩
    · rw [List.append_nil]
      exact hdeath
    · apply hdeath.disconnect
      intro _
      rw [if_pos hconnected]
      exact ⟨_, [], rfl, List.not_mem_nil⟩
  | exit hphase hstop hconnected hidle hwait =>
    have hnot := hok hphase hstop hconnected
    have hstate : s.nodeState = .waitOnConnect := by
      cases hs : s.nodeState with
      | idle => exact absurd hs hidle
      | waitOnConnect => rfl
      | online => exact absurd hs hnot
      | waitOnDisconnect => exact absurd hs hwait
    have hup := (isConnected_iff s).mp hconnected
    refine ⟨hconnecting, fun h hs hmem => ?_, hlog.disconnect ?_⟩
    · rcases List.mem_append.mp hmem with hmem | hmem
      · exact hunborn h hs hmem
      · simp at hmem
    · intro hmem
      exact absurd hmem (hunborn hup hstate)
  | deviceStart device => exact ⟨hconnecting, hunborn, hlog⟩
  | deviceStop device =>
    refine ⟨hconnecting, fun h hs hmem => ?_, hlog.append ?_⟩
    · rcases List.mem_append.mp hmem with hmem | hmem
      · exact hunborn h hs hmem
      · split at hmem
        · obtain ⟨_, _, heq⟩ := List.mem_map.mp hmem
          cases heq
        · cases hmem
    · split
      · simp
      · exact List.not_mem_nil

theorem announced_run {now : UInt64} {setups : List Setup} {es : List (NodeEvent P)}
    (hok : RunOk step LeavesFirst (init now setups) es) :
    NodeAnnounced (run step (init now setups) es).log := by
  have hinit : Announced (init (P := P) now setups).view := by
    refine ⟨fun h => (by cases h), fun h => (by cases h), ?_⟩
    intro pre post hsplit
    have hlength := congrArg List.length hsplit
    simp [init, view, log] at hlength
  exact (view_invariant announced_step hinit hok).log

end NodeSys

section Host
variable {P : Platform}

def Action.state? : Action P → Option (Publication P)
  | .publish p => if p.kind = .state then some p else none
  | .disconnect => none

def lastState (session : List (Action P)) : Option (Publication P) :=
  (session.filterMap Action.state?).getLast?

/-- The last STATE message, if there is one, tells that the host is offline. -/
def SaysOffline (session : List (Action P)) : Prop :=
  ∀ p, lastState session = some p → p.Announces false

/-- In front of a disconnect the last STATE message is an offline one. -/
def HostAnnounced (session : List (Action P)) : Prop :=
  ∀ pre post, session = pre ++ .disconnect :: post → SaysOffline pre

theorem saysOffline_nil : SaysOffline ([] : List (Action P)) := by
  intro p hp
  cases hp

theorem lastState_publish {session : List (Action P)} {message : Publication P}
    (h : message.kind = .state) : lastState (session ++ [.publish message]) = some message := by
  simp [lastState, Action.state?, h]

theorem lastState_disconnect (session : List (Action P)) :
    lastState (session ++ [.disconnect]) = lastState session := by
  simp [lastState, Action.state?]

theorem HostAnnounced.publish {session : List (Action P)} (h : HostAnnounced session)
    (message : Publication P) : HostAnnounced (session ++ [.publish message]) := by
  intro pre post hsplit
  have hnot : Action.disconnect ∉ [Action.publish message] := by simp
  obtain ⟨rest, hrest⟩ := split_append hsplit hnot
  exact h pre rest hrest

theorem HostAnnounced.disconnect {session : List (Action P)} (h : HostAnnounced session)
    (hlast : SaysOffline session) : HostAnnounced (session ++ [.disconnect]) := by
  intro pre post hsplit
  rcases split_concat hsplit with rfl | ⟨rest, hrest⟩
  · exact hlast
  · exact h pre rest hrest

end Host

namespace HostSys
variable {P : Platform}

/-- The loop condition does not end the loop of a host that is online. -/
def LeavesFirst (s : HostSys P) : HostEvent → Prop
  | .work _ _ => s.phase = .check → s.stopWorkTask = true → s.isConnected = true →
      s.workState ≠ .online
  | _ => True

instance (s : HostSys P) : ∀ e, Decidable (s.LeavesFirst e)
  | .work _ _ => inferInstanceAs (Decidable (_ → _ → _ → _))
  | .link _ | .connectionLost | .callback _ _ | .message _ _ | .start _ | .stop | .stopReturns
  | .inService _ => .isTrue trivial

/-- A connected host that is not online has said so. -/
structure Announced (v : HostView P) : Prop where
  offline : v.link = some .up → v.workState ≠ .online → SaysOffline v.session
  session : HostAnnounced v.session

theorem announced_step (s : HostSys P) (e : HostEvent) (v : HostView P)
    (h : Announced s.view) (hfresh : s.Fresh) (hok : s.LeavesFirst e) (hmove : Move s e v) :
    Announced v := by
  obtain ⟨hoffline, hsession⟩ := h
  cases hmove with
  | stay hlink =>
    rcases hlink with rfl | rfl | rfl
    · exact ⟨hoffline, hsession⟩
    · exact ⟨fun h => (by cases h), hsession⟩
    · exact ⟨fun h => (by cases h), hsession⟩
  | accept _ =>
    refine ⟨fun _ _ => saysOffline_nil, ?_⟩
    intro pre post hsplit
    simp at hsplit
  | idle hstate =>
    refine ⟨fun hup _ => ?_, hsession⟩
    rcases hstate with hstate | hentry
    · exact hoffline hup hstate
    · have hdown := Mqtt.isConnected_of_isDown (hfresh hentry)
      have hconnected := (isConnected_iff s).mpr hup
      exact absurd (hdown.symm.trans hconnected) (by simp)
  | connect hstate hlink =>
    refine ⟨fun hup _ => ?_, hsession⟩
    rcases hlink with rfl | rfl
    · refine hoffline hup ?_
      simp [view, hstate]
    · cases hup
  | announce online hmessage =>
    refine ⟨fun hup hstate => ?_, ?_⟩
    · have hconnected := (isConnected_iff s).mpr hup
      dsimp only
      rw [if_pos hconnected]
      cases online with
      | true => exact absurd rfl hstate
      | false =>
        intro p hp
        rw [lastState_publish hmessage.1] at hp
        rw [← Option.some.inj hp]
        exact hmessage
    · dsimp only
      split
      · exact hsession.publish _
      · exact hsession
  | leaveOnline hmessage hrest =>
    rename_i message rest
    have hsent : HostAnnounced
        (if s.isConnected then s.session ++ [.publish message] else s.session) := by
      split
      · exact hsession.publish _
      · exact hsession
    have hlast : s.isConnected = true → SaysOffline
        (if s.isConnected then s.session ++ [.publish message] else s.session) := by
      intro hconnected p hp
      rw [if_pos hconnected, lastState_publish hmessage.1] at hp
      rw [← Option.some.inj hp]
      exact hmessage
    rcases hrest with rfl | ⟨hconnected, rfl⟩
    · rw [List.append_nil]
      exact ⟨fun hup _ => hlast ((isConnected_iff s).mpr hup), hsent⟩
    · refine ⟨fun _ _ p hp => ?_, hsent.disconnect (hlast hconnected)⟩
      rw [lastState_disconnect] at hp
      exact hlast hconnected p hp
  | leaveOffline hstate hrest =>
    have hnot : s.view.workState ≠ .online := by
      simp [view, hstate]
    rcases hrest with rfl | ⟨hconnected, rfl⟩
    · rw [List.append_nil]
      exact ⟨fun hup _ => hoffline hup hnot, hsession⟩
    · have hlast := hoffline ((isConnected_iff s).mp hconnected) hnot
      refine ⟨fun _ _ p hp => ?_, hsession.disconnect hlast⟩
      rw [lastState_disconnect] at hp
      exact hlast p hp
  | exit hphase hstop hconnected =>
    have hlast := hoffline ((isConnected_iff s).mp hconnected) (hok hphase hstop hconnected)
    refine ⟨fun _ _ p hp => ?_, hsession.disconnect hlast⟩
    rw [lastState_disconnect] at hp
    exact hlast p hp

theorem announced_run {hostName : Option Str} {now : UInt64} {setups : List HostSetup}
    {es : List HostEvent} (hok : RunOk step LeavesFirst (init (P := P) hostName now setups) es) :
    HostAnnounced (run step (init (P := P) hostName now setups) es).session := by
  have hinit : Announced (init (P := P) hostName now setups).view := by
    refine ⟨fun h => (by cases h), ?_⟩
    intro pre post hsplit
    have hlength := congrArg List.length hsplit
    simp [init, view] at hlength
  exact (view_invariant announced_step hinit hok).session

end HostSys

/-- In every run in which the loop conditions do not see a stop in the online state, every
disconnect of a node and of a host is announced. -/
theorem disconnect_is_announced (P : Platform) :
    (∀ now setups es, RunOk NodeSys.step NodeSys.LeavesFirst (NodeSys.init (P := P) now setups) es →
      NodeAnnounced (run NodeSys.step (NodeSys.init now setups) es).log) ∧
    (∀ hostName now setups es,
      RunOk HostSys.step HostSys.LeavesFirst (HostSys.init (P := P) hostName now setups) es →
      HostAnnounced (run HostSys.step (HostSys.init (P := P) hostName now setups) es).session) :=
  ⟨fun _ _ _ hok => NodeSys.announced_run hok, fun _ _ _ _ hok => HostSys.announced_run hok⟩

namespace DeathAnnounced

def nodeSetup : List Setup := [.group (str "G"), .name (str "N")]

/-- Start, connect, and two worker moves to the online state. -/
def nodeGoesOnline : List (NodeEvent Platform.reference) :=
  [.start, .work 0 {}, .work 0 {}, .work 0 {}, .link .accepted, .callback true .mqtt311,
    .work 0 {}, .work 0 {}]

def hostGoesOnline : List HostEvent :=
  [.start {}, .work 0 {}, .work 0 {}, .work 0 {}, .link .accepted, .callback true .mqtt311,
    .work 0 {}, .work 0 {}]

end DeathAnnounced

open DeathAnnounced in
/-- The clients are taken out of service before they are stopped. -/
theorem out_of_service_is_announced :
    NodeAnnounced (run NodeSys.step (NodeSys.init 0 nodeSetup) (nodeGoesOnline ++
      [.inService false, .work 0 {}, .work 0 {}, .stop, .work 0 {}])).log ∧
    HostAnnounced (run HostSys.step (HostSys.init (P := .reference) none 0 [.name (str "H")])
      (hostGoesOnline ++
        [.inService false, .work 0 {}, .work 0 {}, .stop, .work 0 {}])).session := by
  have h := disconnect_is_announced .reference
  refine ⟨?_, ?_⟩
  · exact h.1 _ _ _ (by decide +kernel)
  · exact h.2 _ _ _ _ (by decide +kernel)

open DeathAnnounced in
/-- The clients are stopped while the worker stands in front of the loop condition. -/
theorem stop_online_skips_announcement :
    ¬ NodeAnnounced (run NodeSys.step (NodeSys.init 0 nodeSetup)
      (nodeGoesOnline ++ [.stop, .work 0 {}])).log ∧
    ¬ HostAnnounced (run HostSys.step (HostSys.init (P := .reference) none 0 [.name (str "H")])
      (hostGoesOnline ++ [.stop, .work 0 {}])).session := by
  refine ⟨?_, ?_⟩
  · have hlog : (run NodeSys.step (NodeSys.init 0 nodeSetup)
        (nodeGoesOnline ++ [.stop, .work 0 {}])).log = [some .nodeBirth] ++ none :: [] := by
      decide +kernel
    intro h
    obtain ⟨first, last, hsplit, _⟩ := h _ _ hlog List.mem_cons_self
    have hmem : some MessageKind.nodeDeath ∈ [some MessageKind.nodeBirth] := by
      rw [hsplit]
      exact List.mem_append_right _ List.mem_cons_self
    revert hmem
    decide
  · generalize hsession : (run HostSys.step (HostSys.init (P := .reference) none 0
      [.name (str "H")]) (hostGoesOnline ++ [.stop, .work 0 {}])).session = session
    have hdisconnect : session.getLast?.map Action.isDisconnect = some true := by
      rw [← hsession]
      decide +kernel
    have hstate : (lastState session.dropLast).map (fun p => decide (p.Announces false)) =
        some false := by
      rw [← hsession]
      decide +kernel
    intro h
    obtain ⟨a, ha, hisDisconnect⟩ := Option.map_eq_some_iff.mp hdisconnect
    obtain ⟨p, hp, hnot⟩ := Option.map_eq_some_iff.mp hstate
    cases a with
    | publish q => cases hisDisconnect
    | disconnect =>
      have hsplit := List.dropLast_append_getLast? Action.disconnect ha
      exact of_decide_eq_false hnot (h _ [] hsplit.symm p hp)

end PubSub
