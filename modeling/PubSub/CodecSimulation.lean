import PubSub.BirthReplication
import PubSub.Shared.Aligned

/-!
# A birth and the data after it

A sender writes all of its payload once, and then only what was updated; a receiver reads
the first body with new metrics allowed, and the others without. Names travel once and
aliases afterwards. Between two messages the receiver is behind on the updated metrics
only, and after a message it is behind on none.
-/

namespace PubSub
open DecimalText
set_option autoImplicit false

namespace MetricType

/-- The datatypes whose values the decimal and Boolean texts tell exactly, and strings. -/
def isExact : MetricType → Bool
  | .int8 | .int16 | .int32 | .int64 | .uint8 | .uint16 | .uint32 | .uint64
  | .boolean | .string => true
  | _ => false

end MetricType

namespace Text

theorem toInt_valueInt32 {v : Int} (hlo : -2147483648 ≤ v) (hhi : v ≤ 2147483647) :
    (valueInt32 (intText v)).toInt = v := by
  rw [valueInt32, extractSigned_intText hlo hhi]
  exact Int32.toInt_ofInt_of_le (by simpa using hlo) (by simpa using by omega)

theorem toInt_valueInt64 {v : Int} (hlo : -9223372036854775808 ≤ v)
    (hhi : v ≤ 9223372036854775807) : (valueInt64 (intText v)).toInt = v := by
  rw [valueInt64, extractSigned_intText hlo hhi]
  exact Int64.toInt_ofInt_of_le (by simpa using hlo) (by simpa using by omega)

theorem toNat_valueUInt32 {n : Nat} (h : n < 4294967296) :
    (valueUInt32 (intText n)).toNat = n := by
  rw [valueUInt32, intText_natCast, extractUnsigned_natText h]
  exact UInt32.toNat_ofNat_of_lt' h

theorem toNat_valueUInt64 {n : Nat} (h : n < 18446744073709551616) :
    (valueUInt64 (intText n)).toNat = n := by
  rw [valueUInt64, intText_natCast, extractUnsigned_natText h]
  exact UInt64.toNat_ofNat_of_lt' h

end Text

namespace Metric
variable {P : Platform}

theorem setString_of_string {m : Metric} (h : m.datatype = .string) (v : Str) :
    m.setString P v = m.setText v := by
  unfold setString
  rw [h]
  rfl

/-- The text of the metric is the one that its own setter left. -/
def IsSet (P : Platform) (m : Metric) : Prop :=
  m.datatype.isExact = true ∧ ∃ v : TypedValue, v.type = m.datatype ∧
    m.value = (m.setValue P v).value

end Metric

namespace PayloadHelper
variable {P : Platform}

section Values
variable {m r : Metric}

theorem value_signed32 {v : Int} (hlo : -2147483648 ≤ v) (hhi : v ≤ 2147483647)
    (hm : m.value = intText v) (hr : signedInt r.datatype = true) :
    (parseMetricValue P (.intValue (Text.valueInt32 m.value).toUInt32) r).value = m.value := by
  unfold parseMetricValue
  dsimp only
  rw [if_pos hr, hm, Metric.setInt, Metric.setText_value]
  exact congrArg intText (Text.toInt_valueInt32 hlo hhi)

theorem value_signed64 {v : Int} (hlo : -9223372036854775808 ≤ v)
    (hhi : v ≤ 9223372036854775807) (hm : m.value = intText v)
    (hr : signedInt r.datatype = true) :
    (parseMetricValue P (.longValue (Text.valueInt64 m.value).toUInt64) r).value = m.value := by
  unfold parseMetricValue
  dsimp only
  rw [if_pos hr, hm, Metric.setInt, Metric.setText_value]
  exact congrArg intText (Text.toInt_valueInt64 hlo hhi)

theorem value_unsigned32 {n : Nat} (h : n < 4294967296) (hm : m.value = intText n)
    (hr : ¬ signedInt r.datatype = true) :
    (parseMetricValue P (.intValue (Text.valueUInt32 m.value)) r).value = m.value := by
  unfold parseMetricValue
  dsimp only
  rw [if_neg hr, hm, Metric.setInt, Metric.setText_value, Text.toNat_valueUInt32 h]

theorem value_unsigned64 {n : Nat} (h : n < 18446744073709551616) (hm : m.value = intText n)
    (hr : ¬ signedInt r.datatype = true) :
    (parseMetricValue P (.longValue (Text.valueUInt64 m.value)) r).value = m.value := by
  unfold parseMetricValue
  dsimp only
  rw [if_neg hr, hm, Metric.setInt, Metric.setText_value, Text.toNat_valueUInt64 h]

theorem value_received (hm : m.IsSet P) (hr : r.datatype = m.datatype) :
    (parseMetricValue P (metricValue P m) r).value = m.value := by
  obtain ⟨hexact, v, htype, hvalue⟩ := hm
  have hd : r.datatype = v.type := hr.trans htype.symm
  cases v with
  | int8 v =>
    rw [metricValue, ← htype]
    exact value_signed32 (by have := v.le_toInt; omega) (by have := v.toInt_lt; omega) hvalue
      (by rw [hd]; rfl)
  | int16 v =>
    rw [metricValue, ← htype]
    exact value_signed32 (by have := v.le_toInt; omega) (by have := v.toInt_lt; omega) hvalue
      (by rw [hd]; rfl)
  | int32 v =>
    rw [metricValue, ← htype]
    exact value_signed32 (by have := v.le_toInt; omega) (by have := v.toInt_lt; omega) hvalue
      (by rw [hd]; rfl)
  | int64 v =>
    rw [metricValue, ← htype]
    exact value_signed64 (by have := v.le_toInt; omega) (by have := v.toInt_lt; omega) hvalue
      (by rw [hd]; rfl)
  | uint8 v =>
    rw [metricValue, ← htype]
    exact value_unsigned32 (by have := v.toNat_lt; omega) hvalue (by rw [hd]; nofun)
  | uint16 v =>
    rw [metricValue, ← htype]
    exact value_unsigned32 (by have := v.toNat_lt; omega) hvalue (by rw [hd]; nofun)
  | uint32 v =>
    rw [metricValue, ← htype]
    exact value_unsigned32 v.toNat_lt hvalue (by rw [hd]; nofun)
  | uint64 v =>
    rw [metricValue, ← htype]
    exact value_unsigned64 v.toNat_lt hvalue (by rw [hd]; nofun)
  | float bits =>
    rw [← htype] at hexact
    cases hexact
  | double bits =>
    rw [← htype] at hexact
    cases hexact
  | boolean v =>
    rw [metricValue, ← htype]
    change Text.ofBool (Text.valueBool m.value) = m.value
    rw [hvalue]
    exact congrArg Text.ofBool (Text.valueBool_ofBool v)
  | text v =>
    rw [metricValue, ← htype]
    change (r.setString P m.value).value = m.value
    rw [Metric.setString_of_string hd]
    rfl

end Values

/-- The header leaves a metric that has name, alias and datatype, or may not have more. -/
theorem parseMetricHeader_identity {createMetrics : Bool} {r : Metric}
    (h : createMetrics = false ∨
      (r.name ≠ [] ∧ r.aliasNumber ≠ 0 ∧ r.datatype ≠ .unknown)) (sourceTimestamp : UInt64)
    (pb : PbMetric) :
    (parseMetricHeader createMetrics sourceTimestamp pb r).identity = r.identity := by
  rcases h with rfl | ⟨hname, halias, htype⟩
  · simp [Metric.identity, parseMetricHeader]
  · simp [Metric.identity, parseMetricHeader, hname, halias, htype]

end PayloadHelper

namespace Metric
variable {P : Platform}

/-- The metric of the receiver has the name, the alias, the datatype and the text. -/
structure Copies (r m : Metric) : Prop where
  identity : r.identity = m.identity
  value : r.value = m.value

/-- The receiver is behind on updated metrics only. -/
structure Follows (r m : Metric) : Prop where
  identity : r.identity = m.identity
  value : m.updated = false → r.value = m.value

theorem Copies.follows {r m : Metric} (h : r.Copies m) : r.Follows m :=
  ⟨h.identity, fun _ => h.value⟩

/-- What a metric is to its payload and to a receiver of it. -/
def signature (P : Platform) (m : Metric) : Str × UInt64 × MetricType × TypedValue :=
  (m.name, m.content P)

theorem Copies.signature {r m : Metric} (h : r.Copies m) : r.signature P = m.signature P := by
  have hname : r.name = m.name := congrArg Prod.fst h.identity
  have halias : r.aliasNumber = m.aliasNumber := congrArg (fun i => i.2.1) h.identity
  have htype : r.datatype = m.datatype := congrArg (fun i => i.2.2) h.identity
  simp only [Metric.signature, content, typedValue, hname, halias, htype, h.value]

theorem IsSet.datatype {m : Metric} (h : m.IsSet P) : m.datatype ≠ .unknown := by
  intro htype
  have hexact := h.1
  rw [htype] at hexact
  cases hexact

/-- An entry of a message makes a copy out of a metric that the sender's one is behind. -/
theorem copies_received {m r : Metric} (hm : m.IsSet P) (hr : r.identity = m.identity)
    {createMetrics : Bool}
    (hfull : createMetrics = false ∨ (m.name ≠ [] ∧ m.aliasNumber ≠ 0)) (writeAll : Bool)
    (sourceTimestamp : UInt64) :
    (PayloadHelper.parseMetric P createMetrics sourceTimestamp
      (PayloadHelper.writeMetric P writeAll m) r).Copies m := by
  have hname : r.name = m.name := congrArg Prod.fst hr
  have halias : r.aliasNumber = m.aliasNumber := congrArg (fun i => i.2.1) hr
  have htype : r.datatype = m.datatype := congrArg (fun i => i.2.2) hr
  have hheader := PayloadHelper.parseMetricHeader_identity (r := r)
    (hfull.imp_right fun h => ⟨hname ▸ h.1, halias ▸ h.2, htype ▸ hm.datatype⟩)
    sourceTimestamp (PayloadHelper.writeMetric P writeAll m)
  refine ⟨?_, ?_⟩
  · exact ((PayloadHelper.parseMetric_identity P _ _ _ r).trans hheader).trans hr
  · rw [PayloadHelper.parseMetric_value]
    exact PayloadHelper.value_received hm ((congrArg (fun i => i.2.2) hheader).trans htype)

theorem identity_createdMetric (m : Metric) :
    (PayloadHelper.createdMetric m.name (PayloadHelper.writeMetric P true m)).identity =
      m.identity := by
  simp [Metric.identity, PayloadHelper.createdMetric, PayloadHelper.writeMetric,
    MetricType.ofDataType_toUInt32]

/-- A typed update of a metric that is set. -/
theorem setValue_isSet {m : Metric} {v : TypedValue} (hm : m.IsSet P) (hv : v.type = m.datatype) :
    (m.setValue P v).IsSet P := by
  have htype : (m.setValue P v).datatype = m.datatype :=
    congrArg (fun i => i.2.2) (m.setValue_identity v)
  refine ⟨htype ▸ hm.1, v, hv.trans htype.symm, ?_⟩
  cases v with
  | text v =>
    change (m.setString P v).value = ((m.setString P v).setString P v).value
    rw [setString_of_string hv.symm, setString_of_string (m := m.setText v) hv.symm]
    rfl
  | _ => rfl

theorem follows_setValue {r m : Metric} (h : r.Follows m) {v : TypedValue}
    (hm : m.IsSet P) (hv : v.type = m.datatype) : r.Follows (m.setValue P v) := by
  refine ⟨h.identity.trans (m.setValue_identity v).symm, ?_⟩
  have htext : ∀ text, r.Follows m → (m.setText text).updated = false →
      r.value = (m.setText text).value := by
    intro text hr hupdated
    simp only [setText_updated, Bool.or_eq_false_iff, bne_eq_false_iff_eq] at hupdated
    rw [setText_value, hupdated.2]
    exact hr.value hupdated.1
  have hexact := hm.1
  rw [← hv] at hexact
  cases v with
  | float bits => cases hexact
  | double bits => cases hexact
  | text v =>
    change (m.setString P v).updated = false → r.value = (m.setString P v).value
    rw [setString_of_string hv.symm]
    exact htext v h
  | _ => exact htext _ h

end Metric

namespace Payload
variable {P : Platform}

/-- A payload as its owner fills it: the metrics go by their names, have aliases of their
own, and were set through their own setters. -/
structure Coded (p : Payload P) : Prop where
  named : ∀ e ∈ p.metricList.entries, e.2.name = e.1 ∧ e.1 ≠ []
  untimed : ∀ e ∈ p.metricList.entries, P.foldKey e.1 ≠ P.foldKey (str "timestamp")
  numbered : ∀ e ∈ p.metricList.entries, e.2.aliasNumber ≠ 0
  aliases : (p.metricList.entries.map fun e => e.2.aliasNumber).Nodup
  set : ∀ e ∈ p.metricList.entries, e.2.IsSet P

theorem Coded.of_identity {p q : Payload P} (h : p.Coded)
    (hsame : q.metricList.entries.map (fun e => (e.1, e.2.identity)) =
      p.metricList.entries.map fun e => (e.1, e.2.identity))
    (hset : ∀ e ∈ q.metricList.entries, e.2.IsSet P) : q.Coded := by
  have hfrom : ∀ e ∈ q.metricList.entries, ∃ d ∈ p.metricList.entries,
      d.1 = e.1 ∧ d.2.identity = e.2.identity := by
    intro e he
    have hmem : (e.1, e.2.identity) ∈ p.metricList.entries.map
        (fun e => (e.1, e.2.identity)) := hsame ▸ List.mem_map_of_mem he
    obtain ⟨d, hd, heq⟩ := List.mem_map.mp hmem
    exact ⟨d, hd, (Prod.mk.inj heq).1, (Prod.mk.inj heq).2⟩
  refine ⟨?_, ?_, ?_, ?_, hset⟩
  · intro e he
    obtain ⟨d, hd, hkey, hidentity⟩ := hfrom e he
    have hname : d.2.name = e.2.name := congrArg Prod.fst hidentity
    exact hkey ▸ hname ▸ h.named d hd
  · intro e he
    obtain ⟨d, hd, hkey, -⟩ := hfrom e he
    exact hkey ▸ h.untimed d hd
  · intro e he
    obtain ⟨d, hd, -, hidentity⟩ := hfrom e he
    rw [← Metric.alias_of_identity hidentity]
    exact h.numbered d hd
  · have haliases := congrArg (List.map fun i => i.2.2.1) hsame
    simp only [List.map_map] at haliases
    have hnodup := h.aliases
    change (p.metricList.entries.map
      ((fun i => i.2.2.1) ∘ fun e => (e.1, e.2.identity))).Nodup at hnodup
    rw [← haliases] at hnodup
    exact hnodup

/-- `SetValue` of the metric with the name. -/
def setValue (p : Payload P) (u : Str × TypedValue) : Payload P :=
  p.updateMetric u.1 (Metric.setValue P u.2)

theorem identities_setValue (p : Payload P) (u : Str × TypedValue) :
    (p.setValue u).metricList.entries.map (fun e => (e.1, e.2.identity)) =
      p.metricList.entries.map fun e => (e.1, e.2.identity) :=
  Entries.map_updateFirst_of_same (fun e _ => e.2.setValue_identity u.2) _

/-- The update fits the datatype of the metric that it changes. -/
def Fits (p : Payload P) (u : Str × TypedValue) : Prop :=
  ∀ m, p.getMetric u.1 = some m → u.2.type = m.datatype

theorem Fits.entry {p : Payload P} {u : Str × TypedValue} (h : p.Fits u) {e : Str × Metric}
    (he : e ∈ p.metricList.entries) (hkey : P.foldKey e.1 = P.foldKey u.1) :
    u.2.type = e.2.datatype := h e.2 (FoldedMap.get?_of_mem he hkey)

theorem Fits.setValue {p : Payload P} {u v : Str × TypedValue} (h : p.Fits v) :
    (p.setValue u).Fits v := by
  intro m hm
  obtain ⟨k, hk, hkey⟩ := FoldedMap.get?_mem hm
  have hmem : (k, m.identity) ∈ p.metricList.entries.map (fun e => (e.1, e.2.identity)) := by
    rw [← p.identities_setValue u]
    exact List.mem_map_of_mem (f := fun e : Str × Metric => (e.1, e.2.identity)) hk
  obtain ⟨e, he, heq⟩ := List.mem_map.mp hmem
  obtain ⟨hk', hidentity⟩ := Prod.mk.inj heq
  have htype : e.2.datatype = m.datatype := congrArg (fun i => i.2.2) hidentity
  rw [← htype]
  exact h.entry he (hk' ▸ hkey)

theorem Coded.setValue {p : Payload P} (h : p.Coded) {u : Str × TypedValue} (hu : p.Fits u) :
    (p.setValue u).Coded := by
  apply h.of_identity (p.identities_setValue u)
  apply Entries.forall_updateFirst h.set
  intro e he hkey
  exact Metric.setValue_isSet (h.set e he) (hu.entry he ((Entries.sameKey_iff _).mp hkey))

/-- A receiver that follows keeps following. -/
theorem aligned_setValue {p q : Payload P} (hp : p.Coded)
    (h : Entries.Aligned Metric.Follows q.metricList.entries p.metricList.entries)
    {u : Str × TypedValue} (hu : p.Fits u) :
    Entries.Aligned Metric.Follows q.metricList.entries (p.setValue u).metricList.entries := by
  refine h.updateFirst ?_
  intro r e he hkey hr
  exact Metric.follows_setValue hr (hp.set e he) (hu.entry he ((Entries.sameKey_iff _).mp hkey))

end Payload

namespace PayloadHelper
variable {P : Platform}

/-- What a metric of a data message does to the metric it stands for. -/
def receivedData (P : Platform) (m r : Metric) : Metric :=
  parseMetric P false 0 (writeMetric P false m) r

/-- What a metric of a birth becomes. -/
def receivedBirth (P : Platform) (m : Metric) : Metric :=
  parseMetric P true 0 (writeMetric P true m) (createdMetric m.name (writeMetric P true m))

theorem entries_parseEntry_data (p : Payload P) {m : Metric} (h : m.aliasNumber ≠ 0) :
    (parseEntry false p (writeMetric P false m)).metricList.entries =
      Entries.updateFirst (fun _ r => m.aliasNumber == r.aliasNumber) (receivedData P m)
        p.metricList.entries := by
  have hmatch : entryMatches P (writeMetric P false m) = Payload.hasAlias m.aliasNumber := by
    simp [entryMatches, writeMetric, h]
  cases hfound : p.metricList.findFirst? (entryMatches P (writeMetric P false m)) with
  | some r =>
    rw [parseEntry_found hfound, hmatch]
    rfl
  | none =>
    rw [parseEntry_ignored hfound]
    rw [hmatch] at hfound
    have hall := Entries.findFirst?_eq_none.mp hfound
    have hsame := Entries.updateFirst_append hall (receivedData P m) []
    rw [List.append_nil, Entries.updateFirst, List.append_nil] at hsame
    exact hsame.symm

theorem entries_foldl_data {es : List (Str × Metric)} (h : ∀ e ∈ es, e.2.aliasNumber ≠ 0)
    (p : Payload P) :
    ((es.map fun e => writeMetric P false e.2).foldl (parseEntry false) p).metricList.entries =
      Entries.updateAll (fun m r : Metric => m.aliasNumber == r.aliasNumber) (receivedData P)
        es p.metricList.entries := by
  induction es generalizing p with
  | nil => rfl
  | cons e es ih =>
    rw [List.map_cons, List.foldl_cons, ih fun d hd => h d (List.mem_cons_of_mem e hd),
      entries_parseEntry_data p (h e List.mem_cons_self)]
    rfl

theorem entries_foldl_birth {es : List (Str × Metric)}
    (hnamed : ∀ e ∈ es, e.2.name = e.1 ∧ e.1 ≠ []) (hsorted : Entries.Sorted P.foldKey es)
    {p : Payload P}
    (hbehind : ∀ e ∈ p.metricList.entries, ∀ d ∈ es, P.foldKey e.1 < P.foldKey d.1) :
    ((es.map fun e => writeMetric P true e.2).foldl (parseEntry true) p).metricList.entries =
      p.metricList.entries ++ es.map fun e => (e.1, receivedBirth P e.2) := by
  induction es generalizing p with
  | nil => simp
  | cons e es ih =>
    obtain ⟨hname, hne⟩ := hnamed e List.mem_cons_self
    obtain ⟨hhead, htail⟩ := List.pairwise_cons.mp hsorted
    have hlast : ∀ d ∈ p.metricList.entries, P.foldKey d.1 < P.foldKey e.1 :=
      fun d hd => hbehind d hd e List.mem_cons_self
    have hnone : p.getMetric e.1 = none :=
      FoldedMap.get?_eq_none.mpr fun d hd => (hlast d hd).ne
    have hentry : (parseEntry true p (writeMetric P true e.2)).metricList.entries =
        p.metricList.entries ++ [(e.1, receivedBirth P e.2)] := by
      have hwritten : (writeMetric P true e.2).name = some e.1 := by
        simp [writeMetric, hname]
      have hmiss : ∀ d ∈ p.metricList.entries,
          Entries.sameKey P.foldKey e.1 d.1 d.2 = false :=
        fun d hd => Entries.sameKey_eq_false (hlast d hd).ne d.2
      rw [parseEntry_created hwritten hne hnone]
      change Entries.updateFirst _ _ (Entries.insert P.foldKey e.1 _ p.metricList.entries) = _
      rw [Entries.insert_last hlast, Entries.updateFirst_append hmiss, Entries.updateFirst,
        if_pos ((Entries.sameKey_iff _).mpr rfl), receivedBirth, hname]
      rfl
    have hnext := @ih (fun d hd => hnamed d (List.mem_cons_of_mem e hd)) htail
      (parseEntry true p (writeMetric P true e.2)) (by
        intro d hd c hc
        rw [hentry] at hd
        rcases List.mem_append.mp hd with hd | hd
        · exact hbehind d hd c (List.mem_cons_of_mem e hc)
        · rw [List.mem_singleton.mp hd]
          exact hhead c hc)
    rw [List.map_cons, List.foldl_cons, hnext, hentry, List.append_assoc]
    rfl

end PayloadHelper

namespace Payload
variable {P : Platform}

theorem parse_eq_receive (createMetrics : Bool) (now : UInt64) (body : BodyList)
    (p : Payload P) :
    parseSparkplugProtobuf { p with body := body } createMetrics now =
      p.receiveProtobuf createMetrics now body := by
  unfold receiveProtobuf receive
  dsimp only
  split
  · rename_i hbody
    unfold parseSparkplugProtobuf PayloadHelper.parseProtobuf
    rw [if_pos hbody]
  · rfl

theorem entries_opened {p : Payload P} (h : ∀ e ∈ p.metricList.entries,
    P.foldKey e.1 ≠ P.foldKey (str "timestamp")) (now : UInt64) (body : BodyList)
    (pb : PbPayload) : (p.opened now body pb).metricList.entries = p.metricList.entries := by
  unfold opened
  split
  · rfl
  · have hmiss : ∀ e ∈ p.metricList.entries,
        Entries.sameKey P.foldKey (str "timestamp") e.1 e.2 = false :=
      fun e he => Entries.sameKey_eq_false (h e he) e.2
    have hsame := Entries.updateFirst_append hmiss
      (fun m => m.setInt (pb.timestamp.getD now).toNat) []
    rw [List.append_nil, Entries.updateFirst, List.append_nil] at hsame
    exact hsame

theorem Coded.write {p : Payload P} (h : p.Coded) (writeAll : Bool) :
    (PayloadHelper.writeProtobuf writeAll p).Coded := by
  have hsame : ∀ (k : Str) (m : Metric), (if PayloadHelper.includes writeAll (k, m)
      then { m with updated := false } else m).identity = m.identity := by
    intro k m
    split <;> rfl
  apply h.of_identity
  · simp [PayloadHelper.writeProtobuf, FoldedMap.mapValues, Entries.mapValues, hsame]
  · intro e he
    obtain ⟨d, hd, rfl⟩ := List.mem_map.mp he
    have hset := h.set d hd
    dsimp only
    split
    · obtain ⟨hexact, v, htype, hvalue⟩ := hset
      refine ⟨hexact, v, htype, hvalue.trans ?_⟩
      cases v with
      | text v =>
        change (d.2.setString P v).value =
          (Metric.setString P { d.2 with updated := false } v).value
        rw [Metric.setString_of_string htype.symm,
          Metric.setString_of_string (m := { d.2 with updated := false }) htype.symm]
        rfl
      | float bits =>
        rw [← htype] at hexact
        cases hexact
      | double bits =>
        rw [← htype] at hexact
        cases hexact
      | _ => rfl
    · exact hset

end Payload

/-- A sender and a receiver of payload bodies. -/
structure CodecPair (P : Platform) where
  sender : Payload P
  receiver : Payload P

/-- Typed updates at the sender, and then a message; `now` is the time at the receiver. -/
structure Round where
  updates : List (Str × TypedValue)
  now : UInt64

namespace CodecPair
variable {P : Platform}

/-- The sender writes and the receiver parses; only a birth makes metrics. -/
def send (birth : Bool) (now : UInt64) (s : CodecPair P) : CodecPair P :=
  let sent := PayloadHelper.writeProtobuf birth s.sender
  { sender := sent
    receiver := Payload.parseSparkplugProtobuf { s.receiver with body := sent.body } birth now }

def update (us : List (Str × TypedValue)) (s : CodecPair P) : CodecPair P :=
  { s with sender := us.foldl Payload.setValue s.sender }

def round (s : CodecPair P) (r : Round) : CodecPair P := (s.update r.updates).send false r.now

/-- The body can be serialized. -/
def Serializes (birth : Bool) (s : CodecPair P) : Prop :=
  P.serializeToArray (PayloadHelper.protobufOf birth s.sender) ≠ none

/-- The updates fit their metrics, and the message can be serialized. -/
structure RoundOk (s : CodecPair P) (r : Round) : Prop where
  fits : ∀ u ∈ r.updates, s.sender.Fits u
  serializes : (s.update r.updates).Serializes false

/-- The receiver is behind on updated metrics only. -/
structure Follows (s : CodecPair P) : Prop where
  coded : s.sender.Coded
  aligned : Entries.Aligned Metric.Follows s.receiver.metricList.entries
    s.sender.metricList.entries

/-- The receiver has a copy of every metric. -/
structure Copies (s : CodecPair P) : Prop where
  coded : s.sender.Coded
  aligned : Entries.Aligned Metric.Copies s.receiver.metricList.entries
    s.sender.metricList.entries

theorem Copies.follows {s : CodecPair P} (h : s.Copies) : s.Follows :=
  ⟨h.coded, h.aligned.imp fun _ _ hrow => ⟨hrow.1, hrow.2.follows⟩⟩

theorem follows_update {s : CodecPair P} (h : s.Follows) {us : List (Str × TypedValue)}
    (hus : ∀ u ∈ us, s.sender.Fits u) : (s.update us).Follows := by
  induction us generalizing s with
  | nil => exact h
  | cons u us ih =>
    have hu := hus u List.mem_cons_self
    have hnext : Follows { s with sender := s.sender.setValue u } :=
      ⟨h.coded.setValue hu, Payload.aligned_setValue h.coded h.aligned hu⟩
    exact ih hnext fun v hv => (hus v (List.mem_cons_of_mem u hv)).setValue

/-- The receiver's metrics after a message. -/
theorem receiver_send {s : CodecPair P} {birth : Bool} (h : s.Serializes birth) (now : UInt64)
    (hfree : ∀ e ∈ s.receiver.metricList.entries,
      P.foldKey e.1 ≠ P.foldKey (str "timestamp")) :
    ∃ p : Payload P, p.metricList.entries = s.receiver.metricList.entries ∧
      (s.send birth now).receiver =
        ((s.sender.metricList.entries.filter (PayloadHelper.includes birth)).map
          fun e => PayloadHelper.writeMetric P birth e.2).foldl
            (PayloadHelper.parseEntry birth) p := by
  obtain ⟨b, hb⟩ := Option.ne_none_iff_exists'.mp h
  have hbody : (PayloadHelper.writeProtobuf birth s.sender).body = b := by
    simp [PayloadHelper.writeProtobuf, hb]
  refine ⟨s.receiver.opened now b (PayloadHelper.protobufOf birth s.sender),
    Payload.entries_opened hfree _ _ _, ?_⟩
  unfold send
  dsimp only
  rw [hbody, Payload.parse_eq_receive,
    Payload.receiveProtobuf_eq (P.parse_serialize _ _ hb) rfl]
  rfl

theorem Copies.of_follows {s : CodecPair P} (hcoded : s.sender.Coded) {birth : Bool}
    {now : UInt64}
    (h : Entries.Aligned Metric.Copies (s.send birth now).receiver.metricList.entries
      s.sender.metricList.entries) : (s.send birth now).Copies := by
  refine ⟨hcoded.write birth, ?_⟩
  change Entries.Aligned Metric.Copies _ (Entries.mapValues
    (fun k m => if PayloadHelper.includes birth (k, m) then { m with updated := false } else m)
    s.sender.metricList.entries)
  apply h.mapValues
  intro r e _ hr
  split
  · exact ⟨hr.identity, hr.value⟩
  · exact hr

/-- A data message brings a receiver that follows up to date. -/
theorem copies_data {s : CodecPair P} (h : s.Follows) (hserializes : s.Serializes false)
    (now : UInt64) : (s.send false now).Copies := by
  have hfree : ∀ e ∈ s.receiver.metricList.entries,
      P.foldKey e.1 ≠ P.foldKey (str "timestamp") := by
    intro e he
    have hmem : e.1 ∈ s.sender.metricList.entries.map Prod.fst :=
      h.aligned.keys ▸ List.mem_map_of_mem he
    obtain ⟨d, hd, hkey⟩ := List.mem_map.mp hmem
    exact hkey ▸ h.coded.untimed d hd
  obtain ⟨p, hp, hreceiver⟩ := receiver_send hserializes now hfree
  have halias : ∀ r m : Metric, r.Follows m → r.aliasNumber = m.aliasNumber :=
    fun r m hr => Metric.alias_of_identity hr.identity
  apply Copies.of_follows h.coded
  rw [hreceiver, PayloadHelper.entries_foldl_data, hp]
  · refine h.aligned.updateAll ?_ ?_ ?_
    · intro r m hr
      simp [halias r m hr]
    · refine (List.pairwise_map.mp h.coded.aliases).imp ?_
      intro d c hne r hr
      have hkept : (PayloadHelper.receivedData P d.2 r).aliasNumber = r.aliasNumber :=
        PayloadHelper.parseMetric_alias P (.inr rfl) _ _
      rw [hkept, halias r d.2 hr]
      simp [Ne.symm hne]
    · intro r e he hr
      split
      · exact Metric.copies_received (h.coded.set e he) hr.identity (.inl rfl) false 0
      · rename_i hnot
        refine ⟨hr.identity, hr.value ?_⟩
        simpa [PayloadHelper.includes, (h.coded.named e he).2] using hnot
  · exact fun e he => h.coded.numbered e (List.mem_filter.mp he).1

theorem copies_birth {s : CodecPair P} (hcoded : s.sender.Coded)
    (hempty : s.receiver.metricList.entries = []) (hserializes : s.Serializes true)
    (now : UInt64) : (s.send true now).Copies := by
  have hfree : ∀ e ∈ s.receiver.metricList.entries,
      P.foldKey e.1 ≠ P.foldKey (str "timestamp") := by
    intro e he
    rw [hempty] at he
    cases he
  obtain ⟨p, hp, hreceiver⟩ := receiver_send hserializes now hfree
  rw [hempty] at hp
  have hall : s.sender.metricList.entries.filter (PayloadHelper.includes true) =
      s.sender.metricList.entries := by
    refine List.filter_eq_self.mpr ?_
    intro e he
    simp [PayloadHelper.includes, (hcoded.named e he).2]
  apply Copies.of_follows hcoded
  rw [hreceiver, hall, PayloadHelper.entries_foldl_birth hcoded.named s.sender.metricList.sorted,
    hp, List.nil_append]
  · refine List.forall₂_map_left_iff.mpr (List.forall₂_same.mpr ?_)
    intro e he
    obtain ⟨hname, hne⟩ := hcoded.named e he
    refine ⟨rfl, ?_⟩
    exact Metric.copies_received (hcoded.set e he) (Metric.identity_createdMetric e.2)
      (.inr ⟨hname ▸ hne, hcoded.numbered e he⟩) true 0
  · intro e he
    rw [hp] at he
    cases he

theorem copies_round {s : CodecPair P} (h : s.Copies) {r : Round} (hr : s.RoundOk r) :
    (s.round r).Copies :=
  copies_data (follows_update h.follows hr.fits) hr.serializes r.now

end CodecPair

/-- After the birth and after every round the receiver has the names of the sender's metrics,
and under each name its alias, its datatype and its typed value. -/
theorem data_follows_birth {P : Platform} {s : CodecPair P} (hcoded : s.sender.Coded)
    (hempty : s.receiver.metricList.entries = []) (hbirth : s.Serializes true) (now : UInt64)
    {rounds : List Round} (hrounds : RunOk CodecPair.round CodecPair.RoundOk (s.send true now)
      rounds) :
    (run CodecPair.round (s.send true now) rounds).receiver.metricList.view
        (Metric.signature P) =
      (run CodecPair.round (s.send true now) rounds).sender.metricList.view
        (Metric.signature P) := by
  have hstep : ∀ (t : CodecPair P) (r : Round), t.Copies → t.RoundOk r → (t.round r).Copies :=
    fun _ _ h hr => CodecPair.copies_round h hr
  have hcopies := run_invariant hstep (CodecPair.copies_birth hcoded hempty hbirth now) hrounds
  apply FoldedMap.ext
  exact hcopies.aligned.map_eq fun r m hr => hr.signature

section Sample

instance (p : Payload Platform.reference) (u : Str × TypedValue) : Decidable (p.Fits u) :=
  inferInstanceAs (Decidable (∀ m ∈ p.getMetric u.1, u.2.type = m.datatype))

instance (s : CodecPair Platform.reference) (r : Round) : Decidable (s.RoundOk r) :=
  decidable_of_iff ((∀ u ∈ r.updates, s.sender.Fits u) ∧
      Platform.reference.serializeToArray
        (PayloadHelper.protobufOf false (s.update r.updates).sender) ≠ none)
    ⟨fun h => ⟨h.1, h.2⟩, fun h => ⟨h.fits, h.serializes⟩⟩

def door : Metric :=
  Metric.setBool { name := str "Door", aliasNumber := 7, datatype := .boolean } false

def speed : Metric :=
  Metric.setInt { name := str "Speed", aliasNumber := 4, datatype := .int16 } (-12)

/-- A door and a speed, and a receiver that knows neither. -/
def doorAndSpeed : CodecPair Platform.reference where
  sender := { metricList := ⟨[(str "Door", door), (str "Speed", speed)],
    List.pairwise_pair.mpr (by decide +kernel)⟩ }
  receiver := {}

def doorOpens : List Round :=
  [{ updates := [(str "Speed", .int16 (-300)), (str "Speed", .int16 40)], now := 1 },
    { updates := [], now := 2 },
    { updates := [(str "door", .boolean true), (str "Speed", .int16 (-7))], now := 3 }]

theorem coded_doorAndSpeed : doorAndSpeed.sender.Coded := by
  refine ⟨by decide +kernel, by decide +kernel, by decide +kernel, by decide +kernel, ?_⟩
  intro e he
  rcases List.mem_cons.mp he with rfl | he
  · exact ⟨rfl, .boolean false, rfl, rfl⟩
  · rw [List.mem_singleton.mp he]
    exact ⟨rfl, .int16 (-12), rfl, by decide +kernel⟩

theorem door_and_speed_are_followed :
    (run CodecPair.round (doorAndSpeed.send true 0) doorOpens).receiver.metricList.view
        (Metric.signature Platform.reference) =
      (run CodecPair.round (doorAndSpeed.send true 0) doorOpens).sender.metricList.view
        (Metric.signature Platform.reference) :=
  data_follows_birth coded_doorAndSpeed rfl (by unfold CodecPair.Serializes; decide +kernel) 0
    (by decide +kernel)

end Sample

end PubSub
