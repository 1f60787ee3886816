import PubSub.AliasNumbers
import Mathlib.Data.List.Flatten

/-!
# Distinct alias numbers

`Start` numbers all the metrics that there are. A device or a metric that is made afterwards
has the number zero, and a metric object brings the number that it was given before; so the
numbers stay distinct exactly as long as nothing of that kind is added.
-/

namespace PubSub
set_option autoImplicit false

/-- Numbers that tell metrics apart; zero means that there is no number. -/
def DistinctAliases (l : List UInt64) : Prop := l.Nodup ∧ (0 : UInt64) ∉ l

instance (l : List UInt64) : Decidable (DistinctAliases l) :=
  inferInstanceAs (Decidable (_ ∧ _))

theorem distinctAliases_countFrom {k : Nat} :
    DistinctAliases (countFrom 1 k) ↔ k < 2 ^ 64 := by
  constructor
  · intro h
    apply Nat.lt_of_not_le
    intro hle
    exact h.2 (zero_mem_countFrom_one.mpr hle)
  · intro h
    refine ⟨nodup_countFrom 1 (Nat.le_of_lt h), ?_⟩
    intro hmem
    exact absurd (zero_mem_countFrom_one.mp hmem) (Nat.not_le_of_lt h)

theorem distinctAliases_perm {l m : List UInt64} (h : l.Perm m) :
    DistinctAliases l ↔ DistinctAliases m := by
  constructor
  · intro hl
    exact ⟨h.nodup_iff.mp hl.1, fun hm => hl.2 (h.mem_iff.mpr hm)⟩
  · intro hm
    exact ⟨h.nodup_iff.mpr hm.1, fun hl => hm.2 (h.mem_iff.mp hl)⟩

theorem distinctAliases_cons {a : UInt64} {l : List UInt64} (h : DistinctAliases l) :
    DistinctAliases (a :: l) ↔ a ≠ 0 ∧ a ∉ l := by
  constructor
  · intro ha
    exact ⟨fun hzero => ha.2 (hzero ▸ List.mem_cons_self), (List.nodup_cons.mp ha.1).1⟩
  · rintro ⟨hzero, hnew⟩
    refine ⟨List.nodup_cons.mpr ⟨hnew, h.1⟩, ?_⟩
    intro hmem
    rcases List.mem_cons.mp hmem with heq | hmem
    · exact hzero heq.symm
    · exact h.2 hmem

theorem DistinctAliases.sublist {l m : List UInt64} (h : DistinctAliases m) (hlm : l.Sublist m) :
    DistinctAliases l :=
  ⟨h.1.sublist hlm, fun hmem => h.2 (hlm.mem hmem)⟩

namespace Payload
variable {P : Platform}

/-- A payload keeps a metric without a number when it gets another metric, and a new metric
has no number. -/
theorem zero_mem_withMetric {p : Payload P} {name : Str} {f : Metric → Metric}
    (hf : ∀ m, (f m).aliasNumber = m.aliasNumber)
    (h : (0 : UInt64) ∈ p.aliases ∨ p.getMetric name = none) :
    (0 : UInt64) ∈ (p.withMetric name f).aliases := by
  have hcreated : (0 : UInt64) ∈ (p.createMetric name).aliases := by
    rcases p.aliases_createMetric name with ⟨hsame, hfound⟩ | ⟨hperm, _⟩
    · rcases h with h | h
      · rw [hsame]
        exact h
      · rw [h] at hfound
        cases hfound
    · exact hperm.mem_iff.mpr List.mem_cons_self
  rw [withMetric, aliases_of_bindings (bindings_updateMetric name hf _)]
  exact hcreated

theorem zero_mem_withHardware {p : Payload P} (name value : Str) (h : (0 : UInt64) ∈ p.aliases) :
    (0 : UInt64) ∈ (p.withHardware name value).aliases := by
  unfold withHardware
  split
  · exact h
  · refine zero_mem_withMetric (fun m => ?_) (.inl h)
    have hsame := Metric.alias_of_identity
      (Metric.setString_identity P { m with datatype := .string } value)
    exact hsame

theorem bindings_setTimestamp_all (ms : UInt64) (p : Payload P) :
    (p.setTimestamp ms true).bindings = p.bindings := by
  rw [← bindings_setTimestamp ms p]
  apply FoldedMap.ext
  simp [bindings, setTimestamp, Entries.mapValues]

end Payload

namespace SparkplugDevice
variable {P : Platform}

theorem hasTopics_invariant : Invariant (P := P) HasTopics where
  create parentName now _ _ := (hasTopics_create parentName now).of_same rfl
  start d h := by
    have hidle : HasTopics { d with deviceState := .idle } := h.of_same rfl
    exact hidle.setAllMetricsInvalid
  inService _ _ h := h.of_same rfl
  poll key parent now o _ h := (poll_spec h key parent now o).hasTopics
  stop key parent now o _ h := (stop_spec h key parent now o).hasTopics
  addMetric m d h := by
    obtain ⟨death, birth, howns⟩ := h
    exact ⟨_, _, howns.updateBirth (e := d.addMetric m) rfl rfl rfl⟩
  number n d h := by
    obtain ⟨death, birth, howns⟩ := h
    refine ⟨death, _, howns.updateBirth (f := fun t =>
      { t with payload := (birth.payload.assignAliasNumbers n).2 }) ?_ rfl rfl⟩
    change (d.topicList.assignAliasNumbers (str "DBIRTH") n).2 = _
    rw [TopicList.assignAliasNumbers, howns.findBirth]
  update now body _ h := h.payloadsOnly
    (TopicList.payloadsOnly_receive _ (Payload.keepsAliases_receiveProtobuf true now body) _)
  death now body _ h := h.payloadsOnly
    (TopicList.payloadsOnly_receiveDeath (Payload.keepsAliases_receiveProtobuf true now body)
      (by decide) (by decide) _)

theorem zero_mem_defaultMetrics (d : SparkplugDevice P) :
    (0 : UInt64) ∈ (d.defaultMetrics {}).aliases := by
  unfold defaultMetrics
  apply Payload.zero_mem_withHardware
  apply Payload.zero_mem_withHardware
  apply Payload.zero_mem_withHardware
  apply Payload.zero_mem_withHardware
  refine Payload.zero_mem_withMetric (fun m => ?_) (.inl ?_)
  · have hsame := Metric.alias_of_identity (Metric.addProperty_identity P
      ({ m with datatype := .int64 }.setBool false) { key := str "unit", value := str "ms" })
    exact hsame
  refine Payload.zero_mem_withMetric (fun _ => rfl) (.inl ?_)
  exact Payload.zero_mem_withMetric (fun _ => rfl) (.inr rfl)

/-- A new device has metrics without a number. -/
theorem zero_mem_create (parentName : Str) (now : UInt64) (group name : Str) :
    (0 : UInt64) ∈
      aliases (P := P) { create parentName now with group := group, name := name } := by
  obtain ⟨d, t, ht, hpayload⟩ := create_birth (P := P) parentName now
  have haliases : aliases (P := P) { create parentName now with group := group, name := name } =
      t.payload.aliases := TopicList.aliases_of_find ht
  rw [haliases, hpayload, Payload.aliases_of_bindings (Payload.bindings_setTimestamp_all now _)]
  exact zero_mem_defaultMetrics d

end SparkplugDevice

namespace Payload
variable {P : Platform}

/-- The payload ignores the metric, or the metric brings a number of its own. -/
def Takes (p : Payload P) (m : Metric) (taken : List UInt64) : Prop :=
  m.name = [] ∨ (p.getMetric m.name).isSome = true ∨ m.aliasNumber ≠ 0 ∧ m.aliasNumber ∉ taken

instance (p : Payload P) (m : Metric) (taken : List UInt64) : Decidable (p.Takes m taken) :=
  inferInstanceAs (Decidable (_ ∨ _ ∨ _))

/-- What an added metric makes of distinct numbers. -/
theorem takes_iff {p : Payload P} {m : Metric} {before after : List UInt64}
    (h : DistinctAliases before)
    (hadded : after = before ∧ (m.name = [] ∨ (p.getMetric m.name).isSome = true) ∨
      after.Perm (m.aliasNumber :: before) ∧ m.name ≠ [] ∧ p.getMetric m.name = none) :
    DistinctAliases after ↔ p.Takes m before := by
  rcases hadded with ⟨rfl, hignored⟩ | ⟨hperm, hname, hnew⟩
  · refine ⟨fun _ => ?_, fun _ => h⟩
    rcases hignored with hname | hfound
    · exact .inl hname
    · exact .inr (.inl hfound)
  · rw [distinctAliases_perm hperm, distinctAliases_cons h]
    constructor
    · intro hfree
      exact .inr (.inr hfree)
    · rintro (hempty | hfound | hfree)
      · exact absurd hempty hname
      · rw [hnew] at hfound
        cases hfound
      · exact hfree

end Payload

namespace SparkplugNode
variable {P : Platform}

theorem deviceAliases_assignAliasNumbers {es : List (Str × SparkplugDevice P)}
    (h : ∀ e ∈ es, e.2.HasTopics) (next : UInt64) :
    (Entries.mapAccum (fun next _ (d : SparkplugDevice P) =>
      ((d.topicList.assignAliasNumbers (str "DBIRTH") next).1,
        { d with topicList := (d.topicList.assignAliasNumbers (str "DBIRTH") next).2 }))
      next es).2.flatMap (fun e => e.2.aliases) =
      countFrom next (es.flatMap fun e => e.2.aliases).length := by
  induction es generalizing next with
  | nil => rfl
  | cons e es ih =>
    obtain ⟨death, birth, howns⟩ := h e List.mem_cons_self
    obtain ⟨hlist, hnext⟩ := TopicList.aliases_assignAliasNumbers howns.findBirth next
    have hrest := ih (fun d hd => h d (List.mem_cons_of_mem e hd))
      (e.2.topicList.assignAliasNumbers (str "DBIRTH") next).1
    rw [List.flatMap_cons, List.length_append, countFrom_add]
    simp only [Entries.mapAccum, List.flatMap_cons]
    rw [hrest, hnext]
    exact congrArg (· ++ _) hlist

/-- One counter runs over all the metrics. -/
theorem aliases_assignAliasNumbers {n : SparkplugNode P} {birth death : Topic P}
    (h : n.Owns birth death) :
    n.assignAliasNumbers.aliases = countFrom 1 n.aliases.length := by
  obtain ⟨hlist, hnext⟩ := TopicList.aliases_assignAliasNumbers h.findBirth 1
  have hdevices := deviceAliases_assignAliasNumbers h.devices
    (n.topicList.assignAliasNumbers (str "NBIRTH") 1).1
  change _ = countFrom 1 (n.topicList.aliases (str "NBIRTH") ++ n.deviceAliases).length
  rw [List.length_append, countFrom_add, ← hlist, ← hnext]
  exact congrArg (_ ++ ·) hdevices

theorem aliases_start {n m : SparkplugNode P} {birth death : Topic P} (h : n.Owns birth death)
    (hm : n.start = some m) : m.isStarted = true ∧
      m.aliases = countFrom 1 n.addDefaultMetrics.aliases.length := by
  obtain ⟨next, last, hnext, hpublish, _⟩ := owns_start h hm
  refine ⟨hnext.isStarted.trans hpublish, ?_⟩
  have hmetrics := h.updateBirth (m := n.addDefaultMetrics) (f := fun t => t.onPayload _)
    rfl rfl rfl rfl rfl
  obtain ⟨named, end', hnamed, _, hpayload⟩ := owns_startTopics hmetrics
  have hsubscribed := hnamed.of_same
    (m := n.addDefaultMetrics.startTopics.startSubscriptions) rfl rfl rfl
  have hsame : n.addDefaultMetrics.startTopics.startSubscriptions.aliases =
      n.addDefaultMetrics.aliases := by
    rw [hsubscribed.aliases, hmetrics.aliases, hpayload]
    rfl
  unfold start at hm
  split at hm
  · cases hm
  · rw [← Option.some.inj hm, aliases_assignAliasNumbers hsubscribed, hsame]

theorem aliases_createDevice {n : SparkplugNode P} (hhost : n.isHost = false) (name : Str)
    (now : UInt64) :
    n.createDevice name now = n ∧ (name = [] ∨ (n.getDevice name).isSome = true) ∨
    (0 : UInt64) ∈ (n.createDevice name now).aliases ∧
      (n.createDevice name now).isStarted = n.isStarted ∧ name ≠ [] ∧ n.getDevice name = none := by
  have hget : n.getDevice name = n.deviceList.get? name := by
    rw [getDevice, hhost, if_neg Bool.false_ne_true]
  rw [hget]
  unfold createDevice
  split
  · rename_i hname
    rw [hhost] at hname
    exact .inl ⟨rfl, .inl (hname.resolve_left Bool.false_ne_true)⟩
  · rename_i hname
    cases hfound : n.deviceList.get? name with
    | some d => exact .inl ⟨rfl, .inr rfl⟩
    | none =>
      refine .inr ⟨?_, rfl, fun hempty => hname (.inr hempty), rfl⟩
      apply List.mem_append_right
      refine List.mem_flatMap.mpr ⟨_, Entries.mem_insert_self n.deviceList.sorted hfound, ?_⟩
      exact SparkplugDevice.zero_mem_create n.name now n.group name

theorem aliases_deleteDevice (name : Str) (n : SparkplugNode P) :
    (n.deleteDevice name).isStarted = n.isStarted ∧
      (n.deleteDevice name).aliases.Sublist n.aliases := by
  unfold deleteDevice
  split
  · exact ⟨rfl, .refl _⟩
  · refine ⟨rfl, List.Sublist.append_left ?_ _⟩
    exact List.Sublist.flatMap (Entries.eraseFirst_sublist _ _) _

theorem aliases_updateBirth {n : SparkplugNode P} {birth death : Topic P} (h : n.Owns birth death)
    (f : Payload P → Payload P) :
    (n.onTopics fun list => list.update (str "NBIRTH") fun t => t.onPayload f).isStarted =
        n.isStarted ∧
      (n.onTopics fun list => list.update (str "NBIRTH") fun t => t.onPayload f).aliases =
        (f birth.payload).aliases ++ n.deviceAliases := by
  have hnext := h.updateBirth
    (m := n.onTopics fun list => list.update (str "NBIRTH") fun t => t.onPayload f)
    (f := fun t => t.onPayload f) rfl rfl rfl rfl rfl
  exact ⟨hnext.isStarted.trans h.isStarted.symm, hnext.aliases⟩

theorem isStarted_configure (n : SparkplugNode P) (setup : Setup) :
    (n.configure setup).isStarted = n.isStarted := by
  cases setup with
  | createDevice name now =>
    rw [configure, isStarted, Receiver.createDevice_topicList]
    rfl
  | addBirthMetric m =>
    have hfind := @TopicList.find_update_self P (str "NBIRTH")
      (fun t => t.onPayload fun p => p.addMetric m) (fun _ => rfl) n.topicList
    change (TopicList.getTopicByMessageType _ (TopicList.update _ _ n.topicList)).any _ = _
    rw [hfind, Option.any_map]
    rfl
  | _ => rfl

/-- A metric that goes into the payload of NBIRTH. -/
theorem aliases_addBirthMetric {n : SparkplugNode P} {birth death : Topic P} (h : n.Owns birth death)
    (hdistinct : DistinctAliases n.aliases) (m : Metric) :
    DistinctAliases (n.onTopics fun list => list.update (str "NBIRTH") fun t =>
      t.onPayload fun p => p.addMetric m).aliases ↔ birth.payload.Takes m n.aliases := by
  apply Payload.takes_iff hdistinct
  rw [(aliases_updateBirth h fun p => p.addMetric m).2, h.aliases]
  rcases birth.payload.aliases_addMetric m with ⟨hsame, hignored⟩ | ⟨hperm, hnew⟩
  · exact .inl ⟨congrArg (· ++ n.deviceAliases) hsame, hignored⟩
  · exact .inr ⟨hperm.append_right n.deviceAliases, hnew⟩

theorem aliases_createMetric {n : SparkplugNode P} {birth death : Topic P}
    (h : n.Owns birth death) (hdistinct : DistinctAliases n.aliases) (name : Str) :
    DistinctAliases (n.onTopics fun list => list.update (str "NBIRTH") fun t =>
      t.onPayload fun p => p.createMetric name).aliases ↔
      (birth.payload.getMetric name).isSome = true := by
  rw [(aliases_updateBirth h fun p => p.createMetric name).2]
  rcases birth.payload.aliases_createMetric name with ⟨hsame, hfound⟩ | ⟨hperm, hnew⟩
  · rw [hsame, ← h.aliases, hfound]
    exact iff_of_true hdistinct rfl
  · rw [hnew, distinctAliases_perm (hperm.append_right n.deviceAliases)]
    refine iff_of_false ?_ Bool.false_ne_true
    intro hzero
    exact hzero.2 List.mem_cons_self

/-- A metric for a device: nothing happens without the device. -/
theorem aliases_addDeviceMetric {n : SparkplugNode P} {birth death : Topic P}
    (h : n.Owns birth death) (hdistinct : DistinctAliases n.aliases) (device : Str) (m : Metric) :
    DistinctAliases (n.updateDevice device (SparkplugDevice.addMetric m)).aliases ↔
      ∀ d, n.getDevice device = some d → ∀ t, d.topicList.getTopicByMessageType (str "DBIRTH") =
        some t → t.payload.Takes m n.aliases := by
  have hget : n.getDevice device = n.deviceList.get? device := by
    rw [getDevice, h.isHost, if_neg Bool.false_ne_true]
  rcases Entries.updateFirst_split (Entries.sameKey P.foldKey device)
      (SparkplugDevice.addMetric m) n.deviceList.entries with
    ⟨hnone, hsame⟩ | ⟨pre, key, d, post, hsplit, _, _, hfound, hupdated⟩
  · have hunchanged : (n.updateDevice device (SparkplugDevice.addMetric m)).aliases = n.aliases :=
      congrArg (fun es : List (Str × SparkplugDevice P) =>
        n.topicList.aliases (str "NBIRTH") ++ es.flatMap fun e => e.2.aliases) hsame
    rw [hunchanged]
    refine iff_of_true hdistinct ?_
    intro d hd
    rw [hget] at hd
    exact absurd (hnone.symm.trans hd) (by simp)
  · have hin : (key, d) ∈ n.deviceList.entries := by
      rw [hsplit]
      exact List.mem_append_right _ List.mem_cons_self
    obtain ⟨deviceDeath, deviceBirth, howns⟩ := h.devices _ hin
    have hchanged : (n.updateDevice device (SparkplugDevice.addMetric m)).aliases =
        n.topicList.aliases (str "NBIRTH") ++ (pre ++ (key, d.addMetric m) :: post).flatMap
          fun e => e.2.aliases :=
      congrArg (fun es : List (Str × SparkplugDevice P) =>
        n.topicList.aliases (str "NBIRTH") ++ es.flatMap fun e => e.2.aliases) hupdated
    have hbefore : n.aliases = n.topicList.aliases (str "NBIRTH") ++
        (pre ++ (key, d) :: post).flatMap fun e => e.2.aliases := by
      rw [aliases, deviceAliases, hsplit]
    have hiff : DistinctAliases (n.updateDevice device (SparkplugDevice.addMetric m)).aliases ↔
        deviceBirth.payload.Takes m n.aliases := by
      apply Payload.takes_iff hdistinct
      rw [hchanged, hbefore]
      simp only [List.flatMap_append, List.flatMap_cons]
      rw [SparkplugDevice.aliases_addMetric howns, howns.aliases]
      rcases deviceBirth.payload.aliases_addMetric m with ⟨hsame, hignored⟩ | ⟨hperm, hnew⟩
      · rw [hsame]
        exact .inl ⟨rfl, hignored⟩
      · refine .inr ⟨?_, hnew⟩
        simp only [← List.append_assoc]
        exact ((hperm.append_left _).trans List.perm_middle).append_right _
    rw [hiff]
    constructor
    · intro htakes d' hd' t ht
      have hsame : d' = d := Option.some.inj (hd'.symm.trans (hget.trans hfound))
      rw [hsame, howns.findBirth] at ht
      rw [← Option.some.inj ht]
      exact htakes
    · intro hall
      exact hall d (hget.trans hfound) deviceBirth howns.findBirth

end SparkplugNode

namespace NodeSys
variable {P : Platform}

/-- Once the node is started, its numbers tell all the metrics apart. -/
def Numbered (s : NodeSys P) : Prop :=
  s.self.isStarted = true → DistinctAliases s.self.aliases

/-- There are numbers for all the metrics that `Start` finds, and afterwards nothing is added
without a number of its own. -/
def AddsNumbered (s : NodeSys P) : NodeAct P → Prop
  | .event .start => s.phase.isRunning = false → s.self.group ≠ [] →
      s.self.addDefaultMetrics.aliases.length < 2 ^ 64
  | .event (.addBirthMetric m) => s.self.isStarted = true → ∀ t,
      s.self.topicList.getTopicByMessageType (str "NBIRTH") = some t →
      t.payload.Takes m s.self.aliases
  | .createDevice name => s.self.isStarted = true →
      name = [] ∨ (s.self.getDevice name).isSome = true
  | .addDeviceMetric device m => s.self.isStarted = true → ∀ d, s.self.getDevice device = some d →
      ∀ t, d.topicList.getTopicByMessageType (str "DBIRTH") = some t →
      t.payload.Takes m s.self.aliases
  | .createMetric name => s.self.isStarted = true → ∀ t,
      s.self.topicList.getTopicByMessageType (str "NBIRTH") = some t →
      (t.payload.getMetric name).isSome = true
  | _ => True

/-- What every run keeps: the topics of the node, and the publish flags of its devices. -/
structure Settled (s : NodeSys P) : Prop where
  owns : ∃ birth death, s.Owns birth death
  publishes : s.self.Devices SparkplugDevice.Publishes

theorem sameNumbers_worked {s : NodeSys P} {birth death : Topic P} (h : s.Owns birth death)
    {n : SparkplugNode P} (hworked : s.Worked n) : s.self.SameNumbers n := by
  have hpolled : ∀ {t : NodeSys P} {next last : Topic P}, t.Owns next last →
      t.self.SameNumbers t.pollDevices.self := by
    intro t next last ht
    exact SparkplugNode.sameNumbers_pollDevices ht.self t.isOnline t.isConnected t.now
  cases hworked with
  | same => exact .refl _
  | will => exact SparkplugNode.sameNumbers_generateWill h.self s.now
  | born hphase hstate hconnected =>
    have hsubscribed := startSubscription_owns h
    obtain ⟨next, hnext, _⟩ := publishNodeBirth_spec hsubscribed
      (startSubscription_connected hconnected)
    have honline : NodeSys.Owns { s.startSubscription.publishNodeBirth with nodeState := .online }
        next death := hnext.of_same hnext.self (fun hs => hs) fun _ hp _ => hp
    exact (SparkplugNode.sameNumbers_publishNodeBirth h.self _ _).trans (hpolled honline)
  | polled hphase hstate => exact hpolled h
  | died hphase hstate =>
    have howns := (node_pollDevices h.self s.isOnline s.isConnected s.now).1
    exact (hpolled h).trans (SparkplugNode.sameNumbers_publishNodeDeath howns _ _)

theorem sameNumbers_deviceStop {s : NodeSys P} {birth death : Topic P} (h : s.Owns birth death)
    (device : Str) : s.self.SameNumbers (s.deviceStop device).self := by
  refine SparkplugNode.sameNumbers_devices h.self (fun o key d hd => ?_) rfl rfl
  dsimp only
  split
  · exact SparkplugDevice.aliases_stop hd key _ _ o
  · rfl

/-- Events that add no metric leave the numbers of a started node. -/
theorem quiet_step {s : NodeSys P} (h : s.Settled) {e : NodeEvent P} (hstart : e ≠ .start)
    (hadd : ∀ m, e ≠ .addBirthMetric m) : s.self.Quiet (s.step e).self := by
  obtain ⟨⟨birth, death, howns⟩, hpublishes⟩ := h
  have hsetting : e.isSetting = true → s.self.Quiet (s.step e).self := by
    intro he
    obtain ⟨_, _, _, _, hself⟩ := self_setting (s := s) he
    rw [hself]
    exact (SparkplugNode.SameNumbers.of_same rfl rfl).quiet
  cases e with
  | work elapsed io =>
    have htick : (s.tick elapsed).Owns birth death := howns.frame rfl rfl (fun hs => hs)
    exact (sameNumbers_worked htick (worked_work io _)).quiet
  | message topicName body =>
    change s.self.Quiet (s.message topicName body).self
    unfold message
    split
    · exact SparkplugNode.quiet_message hpublishes topicName s.now body
    · exact (SparkplugNode.SameNumbers.refl s.self).quiet
  | start => exact absurd rfl hstart
  | deviceInService device on =>
    exact (SparkplugNode.sameNumbers_updateDevice howns.self device
      (f := fun d => { d with inService := on }) fun _ _ => rfl).quiet
  | deviceStart device =>
    exact (SparkplugNode.sameNumbers_updateDevice howns.self device
      fun _ hd => SparkplugDevice.aliases_start hd).quiet
  | deviceStop device => exact (sameNumbers_deviceStop howns device).quiet
  | addBirthMetric m => exact absurd rfl (hadd m)
  | editMetric name edit =>
    exact (s.self.sameNumbers_birth fun p => Payload.bindings_updateMetric name
      (fun m => Metric.alias_of_identity (edit.identity m)) p).quiet
  | _ => exact hsetting rfl

theorem Numbered.quiet {s t : NodeSys P} (h : s.Numbered) (hquiet : s.self.Quiet t.self) :
    t.Numbered := by
  intro ht
  obtain ⟨hs, haliases⟩ := hquiet ht
  rw [haliases]
  exact h hs

theorem numbered_start {s : NodeSys P} {birth death : Topic P} (h : s.Owns birth death)
    (hs : s.Numbered) : s.start.Numbered ↔ s.AddsNumbered (.event .start) := by
  unfold start
  split
  · rename_i hrunning
    refine iff_of_true hs fun hstopped => ?_
    rw [hrunning] at hstopped
    cases hstopped
  · rename_i hrunning
    have hstopped : s.phase.isRunning = false := Bool.eq_false_iff.mpr hrunning
    cases hm : s.self.start with
    | none =>
      refine iff_of_true hs fun _ hgroup => ?_
      rw [SparkplugNode.start, if_neg hgroup] at hm
      cases hm
    | some m =>
      obtain ⟨hstarted, haliases⟩ := SparkplugNode.aliases_start h.self hm
      have hgroup : s.self.group ≠ [] := by
        intro hempty
        rw [SparkplugNode.start, if_pos hempty] at hm
        cases hm
      have hdistinct := distinctAliases_countFrom (k := s.self.addDefaultMetrics.aliases.length)
      rw [← haliases] at hdistinct
      constructor
      · intro hnumbered _ _
        exact hdistinct.mp (hnumbered hstarted)
      · intro hfew _
        exact hdistinct.mpr (hfew hstopped hgroup)

/-- A step whose effect on the numbers is known, for a node that is started or not. -/
theorem numbered_iff_of {s t : NodeSys P} {C : Prop} (hs : s.Numbered)
    (hstarted : t.self.isStarted = s.self.isStarted)
    (hiff : DistinctAliases s.self.aliases → (DistinctAliases t.self.aliases ↔ C)) :
    t.Numbered ↔ (s.self.isStarted = true → C) := by
  unfold Numbered
  rw [hstarted]
  constructor
  · intro h hon
    exact (hiff (hs hon)).mp (h hon)
  · intro h hon
    exact (hiff (hs hon)).mpr (h hon)

/-- One step keeps the numbers distinct exactly when it adds no metric without a number. -/
theorem numbered_act {s : NodeSys P} (h : s.Settled) (hs : s.Numbered) (a : NodeAct P) :
    (s.act a).Numbered ↔ s.AddsNumbered a := by
  obtain ⟨birth, death, howns⟩ := h.owns
  have hfind := howns.self.findBirth
  cases a with
  | event e =>
    cases e with
    | start => exact numbered_start howns hs
    | addBirthMetric m =>
      have hstarted := (SparkplugNode.aliases_updateBirth howns.self fun p => p.addMetric m).1
      refine numbered_iff_of hs hstarted fun hdistinct => ?_
      refine (SparkplugNode.aliases_addBirthMetric howns.self hdistinct m).trans ?_
      rw [hfind]
      exact ⟨fun htakes t ht => Option.some.inj ht ▸ htakes, fun hall => hall birth rfl⟩
    | _ => exact iff_of_true (hs.quiet (quiet_step h (by simp) (by simp))) trivial
  | createDevice name =>
    rcases SparkplugNode.aliases_createDevice howns.self.isHost name s.now with
      ⟨hsame, hthere⟩ | ⟨hzero, hstarted, hname, hnew⟩
    · refine iff_of_true (hs.quiet ?_) fun _ => hthere
      change s.self.Quiet (s.self.createDevice name s.now)
      rw [hsame]
      exact (SparkplugNode.SameNumbers.refl s.self).quiet
    · refine numbered_iff_of hs hstarted fun _ => iff_of_false (fun hdistinct => hdistinct.2 hzero) ?_
      rw [hnew]
      rintro (hempty | hfound)
      · exact hname hempty
      · cases hfound
  | addMetric m => exact iff_of_true hs trivial
  | deleteDevice name =>
    obtain ⟨hstarted, hsublist⟩ := SparkplugNode.aliases_deleteDevice name s.self
    refine iff_of_true (fun hon => ?_) trivial
    exact (hs (hstarted.symm.trans hon)).sublist hsublist
  | addDeviceMetric device m =>
    exact numbered_iff_of hs rfl fun hdistinct =>
      SparkplugNode.aliases_addDeviceMetric howns.self hdistinct device m
  | createMetric name =>
    have hstarted := (SparkplugNode.aliases_updateBirth howns.self fun p => p.createMetric name).1
    refine numbered_iff_of hs hstarted fun hdistinct => ?_
    refine (SparkplugNode.aliases_createMetric howns.self hdistinct name).trans ?_
    rw [hfind]
    exact ⟨fun hfound t ht => Option.some.inj ht ▸ hfound, fun hall => hall birth rfl⟩

/-- Every act keeps the topics of the node. -/
theorem settled_act (s : NodeSys P) (a : NodeAct P) (h : s.Settled) : (s.act a).Settled := by
  refine ⟨?_, devices_act SparkplugDevice.publishes_invariant h.publishes a⟩
  obtain ⟨birth, death, howns⟩ := h.owns
  have htopics := devices_act SparkplugDevice.hasTopics_invariant howns.self.devices a
  have hnext : ∀ {n : SparkplugNode P}, (∃ devices, n = { s.self with deviceList := devices }) →
      n.Devices SparkplugDevice.HasTopics → ∃ next last, (s.withSelf n).Owns next last := by
    rintro _ ⟨devices, rfl⟩ hdevices
    have hself : SparkplugNode.Owns { s.self with deviceList := devices } birth death :=
      howns.self.withDevices rfl rfl hdevices
    exact ⟨birth, death, howns.of_same hself (fun hs => hs) fun _ hp _ => hp⟩
  cases a with
  | event e => exact (step_stepped howns e).1
  | createDevice name => exact hnext (s.self.createDevice_frame name s.now) htopics
  | addMetric m => exact ⟨birth, death, howns⟩
  | deleteDevice name => exact hnext (s.self.deleteDevice_frame name) htopics
  | addDeviceMetric device m => exact hnext ⟨_, rfl⟩ htopics
  | createMetric name =>
    have hkeeps : ∀ p : Payload P, p.KeepsAliases (p.createMetric name) :=
      fun p => Payload.keepsAliases_insert name _ rfl
    exact (withTopics_stepped howns .stop hkeeps).1

theorem settled_init (now : UInt64) (setups : List Setup) :
    (init (P := P) now setups).Settled :=
  ⟨owns_init now setups, devices_configured SparkplugDevice.publishes_invariant now setups⟩

/-- A node that is only made and configured is not started. -/
theorem numbered_init (now : UInt64) (setups : List Setup) :
    (init (P := P) now setups).Numbered := by
  have hconfigure : ∀ n : SparkplugNode P, n.isStarted = false →
      (setups.foldl SparkplugNode.configure n).isStarted = false := by
    induction setups with
    | nil => exact fun _ h => h
    | cons setup setups ih =>
      intro n h
      exact ih _ ((SparkplugNode.isStarted_configure n setup).trans h)
  have hcreate : (SparkplugNode.create (P := P) now).isStarted = false := by
    obtain ⟨t, ht, hpublish, _⟩ := SparkplugNode.create_birth (P := P) now
    rw [SparkplugNode.isStarted, ht, Option.any_some, hpublish]
  intro hstarted
  exact absurd ((hconfigure _ hcreate).symm.trans hstarted) Bool.false_ne_true

/-- In all states along a run in which the node is started, the alias numbers of its births
are distinct and not zero, exactly if nothing is added without a number of its own. -/
theorem distinct_aliases_iff (now : UInt64) (setups : List Setup) (acts : List (NodeAct P)) :
    (∀ pre post, acts = pre ++ post → (run act (init (P := P) now setups) pre).Numbered) ↔
    RunOk act AddsNumbered (init now setups) acts :=
  runOk_iff settled_act (fun _ a h hs => numbered_act h hs a) (settled_init now setups)
    (numbered_init now setups)

end NodeSys

namespace AliasUniqueness

def setups : List Setup :=
  [.group (str "G"), .name (str "N"), .createDevice (str "D") 0,
    .addDeviceMetric (str "D") { name := str "Level" }]

end AliasUniqueness

open AliasUniqueness in
/-- A device is made after the start. -/
theorem late_device_has_no_aliases :
    ¬ ∀ pre post, [.event .start, .createDevice (str "E")] = pre ++ post →
      (run NodeSys.act (NodeSys.init (P := .reference) 0 setups) pre).Numbered := by
  intro h
  have hlast := h _ [] (List.append_nil _).symm (by decide +kernel)
  revert hlast
  decide +kernel

end PubSub
