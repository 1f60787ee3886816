import PubSub.NodeSession
import PubSub.Reference
import Mathlib.Data.List.Chain
import Mathlib.Data.List.ReduceOption

/-!
# The grammar of a session

Within a session NBIRTH comes first, the births and deaths of every device alternate, and
NDEATH comes last, after the deaths of the devices. A device publishes its birth whenever
it is offline while the node is online, even in the poll that leads to NDEATH; it keeps
its state over a session; and it can be started and stopped while it is online. The
grammar holds in the runs in which none of these three happens.
-/

namespace PubSub
set_option autoImplicit false

/-- The births (`true`) and deaths (`false`) of a device. -/
def deviceMessage? (key : Str) : MessageKind → Option Bool
  | .deviceBirth device => if device = key then some true else none
  | .deviceDeath device => if device = key then some false else none
  | _ => none

def deviceMessages (key : Str) (messages : List MessageKind) : List Bool :=
  messages.filterMap (deviceMessage? key)

/-- The last message of the device is its birth. -/
def Lives (key : Str) (messages : List MessageKind) : Prop :=
  (deviceMessages key messages).getLast? = some true

instance (key : Str) (messages : List MessageKind) : Decidable (Lives key messages) :=
  inferInstanceAs (Decidable (_ = _))

structure SessionGrammar (messages : List MessageKind) : Prop where
  first : ∀ m, messages.head? = some m → m = .nodeBirth
  alternate : ∀ key, (false :: deviceMessages key messages).IsChain (· ≠ ·)
  death : ∀ pre post, messages = pre ++ .nodeDeath :: post →
    post = [] ∧ ∀ key, ¬ Lives key pre

theorem deviceMessages_append (key : Str) (ms ns : List MessageKind) :
    deviceMessages key (ms ++ ns) = deviceMessages key ms ++ deviceMessages key ns :=
  List.filterMap_append

theorem isChain_concat {bs : List Bool} {b : Bool} (h : (false :: bs).IsChain (· ≠ ·))
    (hlast : b = true ↔ ¬ bs.getLast? = some true) : (false :: (bs ++ [b])).IsChain (· ≠ ·) := by
  rw [← List.cons_append]
  refine h.append (List.isChain_singleton b) ?_
  intro x hx y hy
  have hyb : y = b := by simpa using hy.symm
  rw [List.getLast?_cons] at hx
  subst hyb
  cases hbs : bs.getLast? with
  | none => simp_all
  | some c => cases c <;> simp_all

namespace DeviceStatus

theorem poll_messages_other {key device : Str} (parent : ParentView) (d : DeviceStatus)
    (h : device ≠ key) : deviceMessages key (d.pollMessages device parent) = [] := by
  unfold pollMessages
  split
  · split <;> simp [deviceMessages, deviceMessage?, h]
  · split <;> simp [deviceMessages, deviceMessage?, h]
  · rfl

/-- A poll by an online parent continues the messages of the device. -/
theorem poll_alternates {key : Str} {parent : ParentView} (hparent : parent.isOnline = true)
    (d : DeviceStatus) {ms : List MessageKind}
    (hms : (false :: deviceMessages key ms).IsChain (· ≠ ·))
    (hd : d.deviceState = .online ↔ Lives key ms) :
    (false :: deviceMessages key (ms ++ d.pollMessages key parent)).IsChain (· ≠ ·) ∧
      ((d.poll parent).deviceState = .online ↔
        Lives key (ms ++ d.pollMessages key parent)) := by
  unfold Lives at hd ⊢
  rw [deviceMessages_append]
  cases hstate : d.deviceState with
  | online =>
    have hlast : (deviceMessages key ms).getLast? = some true := hd.mp hstate
    cases hleave : (!d.inService || !parent.isOnline || !parent.inService) with
    | true =>
      have hsent : deviceMessages key (d.pollMessages key parent) = [false] := by
        simp [pollMessages, hstate, hleave, deviceMessages, deviceMessage?]
      rw [hsent]
      refine ⟨isChain_concat hms (by simp [hlast]), ?_⟩
      simp [poll, hstate, hleave]
    | false =>
      have hsent : deviceMessages key (d.pollMessages key parent) = [] := by
        simp [pollMessages, hstate, hleave, deviceMessages]
      rw [hsent, List.append_nil]
      exact ⟨hms, by simp [poll, hstate, hleave, hlast]⟩
  | offline =>
    have hlast : ¬ (deviceMessages key ms).getLast? = some true := by
      intro h
      have honline := hd.mpr h
      simp [hstate] at honline
    have hsent : deviceMessages key (d.pollMessages key parent) = [true] := by
      simp [pollMessages, hstate, hparent, deviceMessages, deviceMessage?]
    rw [hsent]
    refine ⟨isChain_concat hms (by simp [hlast]), ?_⟩
    simp [poll, hstate, hparent]
  | idle =>
    have hlast : ¬ (deviceMessages key ms).getLast? = some true := by
      intro h
      have honline := hd.mpr h
      simp [hstate] at honline
    have hsent : deviceMessages key (d.pollMessages key parent) = [] := by
      simp [pollMessages, hstate, deviceMessages]
    rw [hsent, List.append_nil]
    exact ⟨hms, by simp [poll, hstate, hlast]⟩

end DeviceStatus

namespace Fleet

theorem deviceMessages_absent {fleet : Fleet} (parent : ParentView) {key : Str}
    (h : key ∉ fleet.map Prod.fst) : deviceMessages key (fleet.pollMessages parent) = [] := by
  induction fleet with
  | nil => rfl
  | cons a fleet ih =>
    rw [List.map_cons, List.mem_cons, not_or] at h
    rw [pollMessages, List.flatMap_cons, deviceMessages_append,
      DeviceStatus.poll_messages_other parent a.2 (Ne.symm h.1), List.nil_append]
    exact ih h.2

/-- In the messages of a poll the messages of a device are its own. -/
theorem deviceMessages_poll {fleet : Fleet} (hnodup : (fleet.map Prod.fst).Nodup)
    (parent : ParentView) {e : Str × DeviceStatus} (he : e ∈ fleet) :
    deviceMessages e.1 (fleet.pollMessages parent) =
      deviceMessages e.1 (e.2.pollMessages e.1 parent) := by
  induction fleet with
  | nil => cases he
  | cons a fleet ih =>
    obtain ⟨ha, hrest⟩ := List.nodup_cons.mp hnodup
    have hnone := deviceMessages_absent parent ha
    rw [pollMessages, List.flatMap_cons, deviceMessages_append]
    rw [pollMessages] at hnone ih
    rcases List.mem_cons.mp he with rfl | he
    · rw [hnone, List.append_nil]
    · have hae : a.1 ≠ e.1 := by
        intro h
        exact ha (h ▸ List.mem_map_of_mem he)
      rw [DeviceStatus.poll_messages_other parent a.2 hae, List.nil_append]
      exact ih hrest he

theorem nodeMessage_not_polled (parent : ParentView) (fleet : Fleet) {m : MessageKind}
    (hm : m ∈ fleet.pollMessages parent) : m ≠ .nodeBirth ∧ m ≠ .nodeDeath := by
  obtain ⟨e, _, he⟩ := List.mem_flatMap.mp hm
  unfold DeviceStatus.pollMessages at he
  split at he
  · split at he <;> simp_all
  · split at he <;> simp_all
  · cases he

end Fleet

/-- A session that is open: every device that is online has announced it, and no other. -/
structure OpenSession (fleet : Fleet) (messages : List MessageKind) : Prop where
  born : messages.head? = some .nodeBirth
  undead : .nodeDeath ∉ messages
  alternate : ∀ key, (false :: deviceMessages key messages).IsChain (· ≠ ·)
  announced : ∀ e ∈ fleet, e.2.deviceState = .online ↔ Lives e.1 messages
  known : ∀ key, Lives key messages → key ∈ fleet.map Prod.fst

theorem OpenSession.grammar {fleet : Fleet} {messages : List MessageKind}
    (h : OpenSession fleet messages) : SessionGrammar messages where
  first m hm := Option.some.inj (hm.symm.trans h.born)
  alternate := h.alternate
  death pre post hsplit := by
    have hmem : .nodeDeath ∈ messages := by
      rw [hsplit]
      exact List.mem_append_right _ List.mem_cons_self
    exact absurd hmem h.undead

/-- A poll of all devices keeps the session open. -/
theorem OpenSession.poll {fleet : Fleet} {messages : List MessageKind}
    (h : OpenSession fleet messages) (hnodup : (fleet.map Prod.fst).Nodup)
    {parent : ParentView} (hparent : parent.isOnline = true) :
    OpenSession (fleet.poll parent) (messages ++ fleet.pollMessages parent) where
  born := by
    rw [List.head?_append, h.born]
    rfl
  undead := by
    intro hmem
    rcases List.mem_append.mp hmem with hmem | hmem
    · exact h.undead hmem
    · exact (Fleet.nodeMessage_not_polled parent fleet hmem).2 rfl
  alternate := by
    intro key
    rw [deviceMessages_append]
    by_cases hkey : key ∈ fleet.map Prod.fst
    · obtain ⟨e, he, rfl⟩ := List.mem_map.mp hkey
      rw [Fleet.deviceMessages_poll hnodup parent he, ← deviceMessages_append]
      exact (DeviceStatus.poll_alternates hparent e.2 (h.alternate e.1) (h.announced e he)).1
    · rw [Fleet.deviceMessages_absent parent hkey, List.append_nil]
      exact h.alternate key
  announced := by
    intro a ha
    obtain ⟨e, he, rfl⟩ := List.mem_map.mp ha
    have hrow := DeviceStatus.poll_alternates hparent e.2 (h.alternate e.1) (h.announced e he)
    refine hrow.2.trans ?_
    unfold Lives
    rw [deviceMessages_append, deviceMessages_append, Fleet.deviceMessages_poll hnodup parent he]
  known := by
    intro key hlives
    have hkeys : (Fleet.poll parent fleet).map Prod.fst = fleet.map Prod.fst := by
      simp [Fleet.poll]
    rw [hkeys]
    by_contra hkey
    unfold Lives at hlives
    rw [deviceMessages_append, Fleet.deviceMessages_absent parent hkey, List.append_nil] at hlives
    exact hkey (h.known key hlives)

/-- NDEATH closes a session in which no device is online. -/
theorem OpenSession.close {fleet : Fleet} {messages : List MessageKind}
    (h : OpenSession fleet messages) (hoffline : ∀ e ∈ fleet, e.2.deviceState ≠ .online) :
    SessionGrammar (messages ++ [.nodeDeath]) where
  first m hm := by
    rw [List.head?_append, h.born] at hm
    exact (Option.some.inj hm).symm
  alternate key := by
    have hnone : deviceMessages key [.nodeDeath] = [] := rfl
    rw [deviceMessages_append, hnone, List.append_nil]
    exact h.alternate key
  death pre post hsplit := by
    have hpre : pre = messages ∧ post = [] := by
      rcases List.eq_nil_or_concat post with rfl | ⟨rest, m, rfl⟩
      · exact ⟨(List.append_inj_left' hsplit rfl).symm, rfl⟩
      · rw [List.concat_eq_append, ← List.cons_append, ← List.append_assoc] at hsplit
        have hmem : .nodeDeath ∈ messages := by
          rw [List.append_inj_left' hsplit rfl]
          exact List.mem_append_right _ List.mem_cons_self
        exact absurd hmem h.undead
    refine ⟨hpre.2, fun key hlives => ?_⟩
    rw [hpre.1] at hlives
    obtain ⟨e, he, rfl⟩ := List.mem_map.mp (h.known key hlives)
    exact hoffline e he ((h.announced e he).mpr hlives)

/-- A session begins with NBIRTH while every device is idle or offline. -/
theorem openSession_birth {fleet : Fleet} (h : ∀ e ∈ fleet, e.2.deviceState ≠ .online) :
    OpenSession fleet [.nodeBirth] where
  born := rfl
  undead := by simp
  alternate key := List.isChain_singleton false
  announced e he := ⟨fun honline => absurd honline (h e he), fun hlives => by cases hlives⟩
  known key hlives := by cases hlives

namespace SessionView

def messages (v : SessionView) : List MessageKind := v.log.reduceOption

end SessionView

namespace NodeSys
variable {P : Platform}

/-- What was published in the current session. -/
def messages (s : NodeSys P) : List MessageKind := s.log.reduceOption

/-- A session begins and ends without online devices, the poll in front of NDEATH takes
the devices offline, and nobody starts or stops a device that is online. -/
def InOrder (s : NodeSys P) : NodeEvent P → Prop
  | .work _ _ => s.phase = .body → s.isConnected = true →
      (s.nodeState = .waitOnConnect → ∀ e ∈ s.self.fleet, e.2.deviceState ≠ .online) ∧
      (s.nodeState = .online → s.leaves = true → ∀ e ∈ s.self.fleet,
        e.2.deviceState ≠ .offline ∧
          (e.2.deviceState = .online → e.2.inService = false ∨ s.self.inService = false))
  | .deviceStart device | .deviceStop device =>
      s.nodeState = .online → s.isConnected = true → ∀ e ∈ s.self.fleet,
        P.foldKey e.1 = P.foldKey device → e.2.deviceState ≠ .online
  | _ => True

instance (s : NodeSys P) : ∀ e, Decidable (s.InOrder e)
  | .work _ _ => inferInstanceAs (Decidable (_ → _ → (_ → _) ∧ (_ → _ → _)))
  | .deviceStart _ | .deviceStop _ => inferInstanceAs (Decidable (_ → _ → _))
  | .link _ | .connectionLost | .callback _ _ | .message _ _ | .start | .stop | .stopReturns
  | .inService _ | .waitOnHostOnline _ | .deviceInService _ _ | .addBirthMetric _
  | .editMetric _ _ => .isTrue trivial

theorem fleet_nodup (n : SparkplugNode P) : (n.fleet.map Prod.fst).Nodup := by
  have hkeys : n.fleet.map Prod.fst = n.deviceList.entries.map Prod.fst := by
    simp [SparkplugNode.fleet]
  rw [hkeys]
  have hsorted := (Entries.sorted_iff_keys n.deviceList.entries).mp n.deviceList.sorted
  refine hsorted.imp ?_
  intro a b hab heq
  rw [heq] at hab
  exact lt_irrefl _ hab

theorem sentMessages_messages {s : NodeSys P} (h : s.isConnected = true) :
    s.sentMessages.reduceOption = s.self.fleet.pollMessages s.onlineView := by
  unfold sentMessages
  rw [if_pos h]
  simp [List.reduceOption]

theorem sentMessages_disconnected {s : NodeSys P} (h : s.isConnected = false) :
    s.sentMessages = [] := by
  simp [sentMessages, h]

structure Grammatical (v : SessionView) : Prop where
  connecting : v.link = some .connecting → v.nodeState = .waitOnConnect ∨ v.nodeState = .idle
  unborn : v.link = some .up → v.nodeState = .waitOnConnect → v.messages = []
  living : v.link = some .up → v.nodeState = .online → OpenSession v.fleet v.messages
  grammar : SessionGrammar v.messages

theorem grammar_nil : SessionGrammar [] where
  first m hm := by cases hm
  alternate key := List.isChain_singleton false
  death pre post hsplit := by simp at hsplit

/-- After a change of the statuses that takes nobody online and nobody offline. -/
theorem openSession_updateFirst {fleet : Fleet} {messages : List MessageKind}
    (h : OpenSession fleet messages) (device : Str) {f : DeviceStatus → DeviceStatus}
    (hf : ∀ e ∈ fleet, P.foldKey e.1 = P.foldKey device →
      ((f e.2).deviceState = .online ↔ e.2.deviceState = .online)) :
    OpenSession (Entries.updateFirst (Entries.sameKey P.foldKey device) f fleet) messages where
  born := h.born
  undead := h.undead
  alternate := h.alternate
  announced e he := by
    rcases Entries.updateFirst_split (Entries.sameKey P.foldKey device) f fleet with
      ⟨_, hsame⟩ | ⟨pre, k, v, post, hsplit, _, hkey, _, hupdated⟩
    · rw [hsame] at he
      exact h.announced e he
    · rw [hupdated] at he
      have hmem : ∀ a, a ∈ pre ∨ a ∈ post → a ∈ fleet := by
        intro a ha
        rw [hsplit]
        simp only [List.mem_append, List.mem_cons]
        tauto
      have hkv : (k, v) ∈ fleet := by
        rw [hsplit]
        exact List.mem_append_right _ List.mem_cons_self
      rcases List.mem_append.mp he with he | he
      · exact h.announced e (hmem e (.inl he))
      · rcases List.mem_cons.mp he with rfl | he
        · refine (hf (k, v) hkv ?_).trans (h.announced (k, v) hkv)
          simpa [Entries.sameKey] using hkey
        · exact h.announced e (hmem e (.inr he))
  known key hlives := by
    rw [Entries.updateFirst_keys]
    exact h.known key hlives

/-- What is published of the session when the devices were polled. -/
theorem openSession_polled {s : NodeSys P} (h : OpenSession s.self.fleet s.messages)
    (hconnected : s.isConnected = true) :
    OpenSession (s.self.fleet.poll s.onlineView) (s.log ++ s.sentMessages).reduceOption := by
  rw [List.reduceOption_append, sentMessages_messages hconnected]
  exact h.poll (fleet_nodup s.self) rfl

theorem reduceOption_append_none {α : Type} (log : List (Option α)) :
    (log ++ [none]).reduceOption = log.reduceOption := by
  rw [List.reduceOption_append]
  simp [List.reduceOption]

/-- The poll in front of NDEATH leaves no device online. -/
theorem offline_poll {s : NodeSys P}
    (hfleet : ∀ e ∈ s.self.fleet, e.2.deviceState ≠ .offline ∧
      (e.2.deviceState = .online → e.2.inService = false ∨ s.self.inService = false)) :
    ∀ a ∈ s.self.fleet.poll s.onlineView, a.2.deviceState ≠ .online := by
  intro a ha
  obtain ⟨e, he, rfl⟩ := List.mem_map.mp ha
  obtain ⟨hoffline, hservice⟩ := hfleet e he
  cases hd : e.2.deviceState with
  | online =>
    rcases hservice hd with hs | hs
    · simp [DeviceStatus.poll, hd, hs]
    · simp [DeviceStatus.poll, hd, hs, onlineView, SparkplugNode.parentView]
  | offline => exact absurd hd hoffline
  | idle => simp [DeviceStatus.poll, hd]

/-- Nobody stops a device that is online, so no DDEATH is sent. -/
theorem no_death_of_stop {s : NodeSys P} {device : Str} (hok : s.InOrder (.deviceStop device)) :
    (if s.nodeState = .online ∧ s.isConnected = true then
      (s.self.fleet.filter fun e => decide (P.foldKey e.1 = P.foldKey device) &&
        decide (e.2.deviceState = .online)).map fun e => some (MessageKind.deviceDeath e.1)
      else []) = [] := by
  by_cases hon : s.nodeState = .online ∧ s.isConnected = true
  · have hempty : (s.self.fleet.filter fun e => decide (P.foldKey e.1 = P.foldKey device) &&
        decide (e.2.deviceState = .online)) = [] := by
      apply List.filter_eq_nil_iff.mpr
      intro e he hboth
      simp only [Bool.and_eq_true, decide_eq_true_eq] at hboth
      exact hok hon.1 hon.2 e he hboth.1 hboth.2
    rw [if_pos hon, hempty, List.map_nil]
  · rw [if_neg hon]

theorem grammatical_step (s : NodeSys P) (e : NodeEvent P) (v : SessionView)
    (h : Grammatical s.view) (hok : s.InOrder e) (hmove : Move s e v) : Grammatical v := by
  obtain ⟨hconnecting, hunborn, hliving, hgrammar⟩ := h
  cases hmove with
  | stay hlink =>
    rcases hlink with rfl | rfl | rfl
    · exact ⟨hconnecting, hunborn, hliving, hgrammar⟩
    · exact ⟨fun h => (by cases h), fun h => (by cases h), fun h => (by cases h), hgrammar⟩
    · exact ⟨fun h => (by cases h), fun h => (by cases h), fun h => (by cases h), hgrammar⟩
  | service device on =>
    refine ⟨hconnecting, hunborn, fun hup hstate => ?_, hgrammar⟩
    exact openSession_updateFirst (hliving hup hstate) device fun _ _ _ => Iff.rfl
  | accept hlink =>
    refine ⟨fun h => (by cases h), fun _ _ => rfl, fun _ hstate => ?_, grammar_nil⟩
    exact absurd hlink (not_connecting hconnecting hstate)
  | idle hlink =>
    exact ⟨fun _ => .inr rfl, fun _ h => (by cases h), fun _ h => (by cases h), hgrammar⟩
  | connect _ _ =>
    exact ⟨fun _ => .inl rfl, fun h => (by cases h), fun h => (by cases h), hgrammar⟩
  | birth hphase hstate hconnected =>
    have hup := (isConnected_iff s).mp hconnected
    have hnone := (hok hphase hconnected).1 hstate
    have hempty : s.log.reduceOption = [] := hunborn hup hstate
    have hopen : OpenSession (s.self.fleet.poll s.onlineView)
        (s.log ++ some .nodeBirth :: s.sentMessages).reduceOption := by
      rw [List.reduceOption_append, hempty, List.nil_append, List.reduceOption_cons_of_some,
        sentMessages_messages hconnected]
      exact (openSession_birth hnone).poll (fleet_nodup s.self) rfl
    refine ⟨fun h => ?_, fun _ h => (by cases h), fun _ _ => hopen, hopen.grammar⟩
    exact absurd (hup.symm.trans h) (by simp)
  | poll hphase hstate hleaves =>
    refine ⟨hconnecting, fun _ h => absurd (hstate.symm.trans h) (by simp), ?_, ?_⟩
    · intro hup _
      exact openSession_polled (hliving hup hstate) ((isConnected_iff s).mpr hup)
    · change SessionGrammar (s.log ++ s.sentMessages).reduceOption
      cases hconnected : s.isConnected with
      | false =>
        rw [sentMessages_disconnected hconnected, List.append_nil]
        exact hgrammar
      | true =>
        have hup := (isConnected_iff s).mp hconnected
        exact (openSession_polled (hliving hup hstate) hconnected).grammar
  | leave hphase hstate hleaves hrest =>
    rename_i rest
    have hnot : s.link ≠ some .connecting := not_connecting hconnecting hstate
    have hrestMessages : rest.reduceOption = [] := by
      rcases hrest with rfl | ⟨_, rfl⟩
      · rfl
      · rfl
    refine ⟨fun h => absurd h hnot, fun _ h => (by cases h), fun _ h => (by cases h), ?_⟩
    change SessionGrammar (s.log ++ s.sentMessages ++
      (if s.isConnected then [some MessageKind.nodeDeath] else []) ++ rest).reduceOption
    rw [List.reduceOption_append, hrestMessages, List.append_nil]
    cases hconnected : s.isConnected with
    | false =>
      rw [sentMessages_disconnected hconnected, List.append_nil, if_neg (by simp),
        List.append_nil]
      exact hgrammar
    | true =>
      have hup := (isConnected_iff s).mp hconnected
      rw [List.reduceOption_append]
      exact (openSession_polled (hliving hup hstate) hconnected).close
        (offline_poll ((hok hphase hconnected).2 hstate hleaves))
  | exit hphase hstop hconnected hidle hwait =>
    have hsame := reduceOption_append_none s.log
    refine ⟨hconnecting, fun hup hs => ?_, fun hup hs => ?_, ?_⟩
    · exact hsame.trans (hunborn hup hs)
    · change OpenSession _ (s.log ++ [none]).reduceOption
      rw [hsame]
      exact hliving hup hs
    · change SessionGrammar (s.log ++ [none]).reduceOption
      rw [hsame]
      exact hgrammar
  | deviceStart device =>
    refine ⟨hconnecting, hunborn, fun hup hstate => ?_, hgrammar⟩
    have hconnected := (isConnected_iff s).mpr hup
    refine openSession_updateFirst (hliving hup hstate) device fun e he hkey => ?_
    have hnot := hok hstate hconnected e he hkey
    simp [hnot]
  | deviceStop device =>
    rw [no_death_of_stop hok, List.append_nil]
    exact ⟨hconnecting, hunborn, hliving, hgrammar⟩

theorem grammatical_init (now : UInt64) (setups : List Setup) :
    Grammatical (init (P := P) now setups).view :=
  ⟨fun h => (by cases h), fun h => (by cases h), fun h => (by cases h), grammar_nil⟩

end NodeSys

/-- The session grammar holds in every state of a run whose steps are in order. -/
theorem session_grammar {P : Platform} {now : UInt64} {setups : List Setup}
    {es : List (NodeEvent P)}
    (hok : RunOk NodeSys.step NodeSys.InOrder (NodeSys.init now setups) es) :
    SessionGrammar (run NodeSys.step (NodeSys.init now setups) es).messages :=
  (NodeSys.view_invariant NodeSys.grammatical_step
    (NodeSys.grammatical_init now setups) hok).grammar

namespace SessionGrammar

def setups : List Setup := [.group (str "G"), .name (str "N"), .createDevice (str "D") 0]

/-- Start, connect, and two worker moves to the online state, where the device is polled. -/
def goesOnline : List (NodeEvent Platform.reference) :=
  [.start, .work 0 {}, .work 0 {}, .work 0 {}, .link .accepted, .callback true .mqtt311,
    .work 0 {}, .work 0 {}]

end SessionGrammar

open SessionGrammar in
/-- The node stays online for one more poll, and is then taken out of service. -/
theorem polled_session_is_grammatical :
    SessionGrammar (run NodeSys.step (NodeSys.init 0 setups) (goesOnline ++
      [.work 0 {}, .work 0 {}, .inService false, .work 0 {}, .work 0 {}])).messages :=
  session_grammar (by decide +kernel)

open SessionGrammar in
/-- The node is taken out of service before its device was polled a second time. -/
theorem device_is_born_before_node_death :
    ¬ SessionGrammar (run NodeSys.step (NodeSys.init 0 setups) (goesOnline ++
      [.inService false, .work 0 {}, .work 0 {}])).messages := by
  have hmessages : (run NodeSys.step (NodeSys.init 0 setups) (goesOnline ++
      [.inService false, .work 0 {}, .work 0 {}])).messages =
        [.nodeBirth, .deviceBirth (str "D")] ++ .nodeDeath :: [] := by
    decide +kernel
  intro h
  have hdead := (h.death _ _ hmessages).2 (str "D")
  revert hdead
  decide

end PubSub
