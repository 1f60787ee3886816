import PubSub.Device
import PubSub.Reference
import PubSub.Shared.Run

/-!
# When a polled device is born

`Poll` leaves the state Online when the device is out of service or its node is not Online or
not in service. It enters that state when the device is in service or the node is Online, so a
device can be born without being allowed to stay.
-/

namespace PubSub
set_option autoImplicit false

/-- A device with what it reads of its node, and what it has published. -/
structure PolledDevice (P : Platform) where
  device : SparkplugDevice P
  parent : ParentView
  outbox : Outbox P

inductive PollEvent where
  | setInService (inService : Bool)
  | setParent (parent : ParentView)
  | poll (now : UInt64)

namespace SparkplugDevice
variable {P : Platform}

theorem publishMessage_cases (messageType : Str) (kind : MessageKind) (parent : ParentView)
    (now : UInt64) (d : SparkplugDevice P) (o : Outbox P) :
    ((d.publishMessage messageType kind parent now o).2.kinds = o.kinds ∨
      (d.publishMessage messageType kind parent now o).2.kinds = o.kinds ++ [kind]) ∧
    (d.publishMessage messageType kind parent now o).1.status = d.status := by
  unfold publishMessage
  cases d.topicList.getTopicByMessageType messageType with
  | none => exact ⟨Or.inl rfl, rfl⟩
  | some t =>
    dsimp only
    refine ⟨?_, rfl⟩
    cases parent.isConnected with
    | false => exact Or.inl rfl
    | true => exact Or.inr (List.map_append ..)

end SparkplugDevice

namespace PolledDevice
variable {P : Platform}

def step (key : Str) (s : PolledDevice P) : PollEvent → PolledDevice P
  | .setInService inService => { s with device := { s.device with inService := inService } }
  | .setParent parent => { s with parent := parent }
  | .poll now =>
    let polled := s.device.poll key s.parent now s.outbox
    { s with device := polled.1, outbox := polled.2 }

def Eligible (s : PolledDevice P) : Prop :=
  s.device.inService = true ∧ s.parent.isOnline = true ∧ s.parent.inService = true

instance (s : PolledDevice P) : Decidable s.Eligible := inferInstanceAs (Decidable (_ ∧ _))

/-- A poll publishes DBIRTH for an eligible device only, and only such a device is Online
after it. -/
def GoodPoll (key : Str) (s : PolledDevice P) (now : UInt64) : Prop :=
  (MessageKind.deviceBirth key ∈
      (s.step key (.poll now)).outbox.kinds.drop s.outbox.kinds.length → s.Eligible) ∧
    (¬ s.Eligible → (s.step key (.poll now)).device.deviceState ≠ .online)

/-- A device that is Offline meets a half of the condition to be born only together with the
whole of it. -/
def WholeEntry (s : PolledDevice P) : PollEvent → Prop
  | .poll _ => s.device.deviceState = .offline →
      s.device.inService = true ∨ s.parent.isOnline = true → s.Eligible
  | _ => True

theorem poll_cases (key : Str) (s : PolledDevice P) (now : UInt64) :
    (s.device.deviceState = .offline ∧
      (s.device.inService = true ∨ s.parent.isOnline = true) ∧
      (s.step key (.poll now)).device.deviceState = .online) ∨
    ((s.device.deviceState = .online ∧ s.Eligible ∨
        (s.step key (.poll now)).device.deviceState ≠ .online) ∧
      ((s.step key (.poll now)).outbox.kinds = s.outbox.kinds ∨
        (s.step key (.poll now)).outbox.kinds = s.outbox.kinds ++ [.deviceDeath key])) := by
  unfold step SparkplugDevice.poll
  dsimp only
  cases hstate : s.device.deviceState with
  | idle => exact Or.inr ⟨Or.inr nofun, Or.inl rfl⟩
  | offline =>
    by_cases henter : (s.device.inService || s.parent.isOnline) = true
    · rw [if_pos henter]
      exact Or.inl ⟨rfl, Bool.or_eq_true_iff.mp henter, rfl⟩
    · rw [if_neg henter]
      refine Or.inr ⟨Or.inr ?_, Or.inl rfl⟩
      simp [hstate]
  | online =>
    by_cases hleave :
      (!s.device.inService || !s.parent.isOnline || !s.parent.inService) = true
    · rw [if_pos hleave]
      exact Or.inr ⟨Or.inr nofun, (SparkplugDevice.publishMessage_cases _ _ _ _ _ _).1⟩
    · rw [if_neg hleave]
      have heligible : s.Eligible := by
        unfold Eligible
        revert hleave
        cases s.device.inService <;> cases s.parent.isOnline <;> cases s.parent.inService <;>
          decide
      exact Or.inr ⟨Or.inl ⟨rfl, heligible⟩, Or.inl rfl⟩

theorem goodPoll_iff (key : Str) (s : PolledDevice P) (now : UInt64) :
    s.GoodPoll key now ↔ s.WholeEntry (.poll now) := by
  constructor
  · rintro ⟨-, honline⟩ hstate henter
    by_contra hnot
    rcases s.poll_cases key now with ⟨-, -, hborn⟩ | ⟨⟨hwas, -⟩ | hstays, -⟩
    · exact honline hnot hborn
    · cases hwas.symm.trans hstate
    · have hborn : (s.step key (.poll now)).device.deviceState = .online := by
        unfold step SparkplugDevice.poll
        rw [hstate]
        dsimp only
        rw [if_pos (Bool.or_eq_true_iff.mpr henter)]
      exact hstays hborn
  · intro hentry
    rcases s.poll_cases key now with ⟨hstate, henter, -⟩ | ⟨hstate, hkinds⟩
    · have heligible := hentry hstate henter
      exact ⟨fun _ => heligible, fun hnot => absurd heligible hnot⟩
    · constructor
      · intro hborn
        rcases hkinds with hkinds | hkinds
        · rw [hkinds, List.drop_length] at hborn
          cases hborn
        · rw [hkinds, List.drop_left] at hborn
          cases List.mem_singleton.mp hborn
      · intro hnot
        rcases hstate with ⟨-, heligible⟩ | hoff
        · exact absurd heligible hnot
        · exact hoff

/-- In a run of polls and changes of the three inputs, every poll is good exactly when none
finds an Offline device that meets only a part of the condition. -/
theorem polls_good_iff (key : Str) (s : PolledDevice P) (es : List PollEvent) :
    (∀ pre now post, es = pre ++ .poll now :: post →
      (run (step key) s pre).GoodPoll key now) ↔ RunOk (step key) WholeEntry s es := by
  rw [runOk_iff_forall]
  constructor
  · intro h pre e post hsplit
    cases e with
    | setInService inService => trivial
    | setParent parent => trivial
    | poll now => exact (goodPoll_iff key _ now).mp (h pre now post hsplit)
  · intro h pre now post hsplit
    exact (goodPoll_iff key _ now).mpr (h pre _ post hsplit)

theorem unserved_device_is_born :
    let start : PolledDevice Platform.reference :=
      { device := SparkplugDevice.create (str "n") 0
        parent := ⟨str "n", true, true, true⟩
        outbox := { sequenceNumber := 0 } }
    let s := run (step (str "d")) start [.setInService false, .poll 1]
    s.device.inService = false ∧
      (s.step (str "d") (.poll 2)).outbox.kinds = [.deviceBirth (str "d")] ∧
      (s.step (str "d") (.poll 2)).device.deviceState = .online := by
  decide +kernel

end PolledDevice
end PubSub
