import PubSub.StructureFrame

/-!
# A payload inside the body field of another one

The parser restarts with the bytes of the body field. It holds them through a reference into
the message that it clears first, so it reads no bytes at all: a wrapped payload only stamps
its target with the time, whatever it says.
-/

namespace PubSub
set_option autoImplicit false

namespace Entries
universe u v w
variable {α : Type u} {β : Type v} {κ : Type w} [LinearOrder κ] {fold : α → κ}

theorem updateFirst_eq_self {p : α → β → Bool} {f : β → β} {es : List (α × β)} :
    updateFirst p f es = es ↔ ∀ v, findFirst? p es = some v → f v = v := by
  induction es with
  | nil => simp [updateFirst, findFirst?]
  | cons e es ih =>
    unfold updateFirst findFirst?
    cases hp : p e.1 e.2 with
    | true => simp [hp, Prod.ext_iff]
    | false =>
      simp only [List.find?_cons, hp, Bool.false_eq_true, if_false, List.cons.injEq, true_and]
      exact ih

theorem updateFirst_length (p : α → β → Bool) (f : β → β) (es : List (α × β)) :
    (updateFirst p f es).length = es.length := by
  have h := congrArg List.length (updateFirst_keys p f es)
  simpa using h

theorem length_le_insert (k : α) (v : β) (es : List (α × β)) :
    es.length ≤ (insert fold k v es).length := by
  induction es with
  | nil => exact Nat.zero_le _
  | cons e es ih =>
    unfold insert
    split
    · exact Nat.le_succ _
    · split
      · exact Nat.le_refl _
      · exact Nat.succ_le_succ ih

theorem length_insert_of_none {k : α} {v : β} {es : List (α × β)} (h : get? fold k es = none) :
    (insert fold k v es).length = es.length + 1 := by
  rw [get?_eq_none] at h
  induction es with
  | nil => rfl
  | cons e es ih =>
    unfold insert
    split
    · rfl
    · rw [if_neg (fun heq => h e List.mem_cons_self heq.symm), List.length_cons,
        ih fun d hd => h d (List.mem_cons_of_mem e hd), List.length_cons]

end Entries

namespace Payload
variable {P : Platform}

/-- The two payloads agree in all that a message sets. -/
structure SameState (p q : Payload P) : Prop where
  timestamp : p.timestamp = q.timestamp
  sequenceNumber : p.sequenceNumber = q.sequenceNumber
  uuid : p.uuid = q.uuid
  metricList : p.metricList = q.metricList

def withBody (body : BodyList) (p : Payload P) : Payload P := { p with body := body }

end Payload

/-- The message has nothing to tell any target but that it has the time. -/
structure PbPayload.Silent (now : UInt64) (pb : PbPayload) : Prop where
  timestamp : pb.timestamp = none ∨ pb.timestamp = some now
  seq : pb.seq = none
  uuid : pb.uuid = none
  metrics : ∀ e ∈ pb.metrics, e.name = none ∧ e.aliasNumber = none

namespace PayloadHelper
variable {P : Platform}

/-- A message with a body field is parsed as the empty message. -/
theorem parse_wrapped {W : PbPayload} {b outer : BodyList}
    (hW : P.parseFromArray outer = some W) (hinner : W.body = some b) (createMetrics : Bool)
    (now : UInt64) (p : Payload P) :
    (p.withBody outer).parseSparkplugProtobuf createMetrics now =
      (p.withBody outer).setTimestamp now false := by
  have hne : outer ≠ [] := by
    rintro rfl
    rw [P.parse_nil] at hW
    rw [← Option.some.inj hW] at hinner
    cases hinner
  have hparse : P.parseFromArray (p.withBody outer).body = some W := hW
  have hempty : innerMessage (P := P) W = some {} := by
    unfold innerMessage
    rw [hinner]
    exact P.parse_nil
  have hfull : (p.withBody outer).body ≠ [] := hne
  unfold Payload.parseSparkplugProtobuf parseProtobuf
  rw [if_neg hfull, hparse, Option.bind_some, hempty]
  rfl

theorem parse_unwrapped {pb : PbPayload} {b : BodyList} (hb : P.parseFromArray b = some pb)
    (hbody : pb.body = none) (hne : b ≠ []) (createMetrics : Bool) (now : UInt64)
    (p : Payload P) : (p.withBody b).parseSparkplugProtobuf createMetrics now =
      parseMessage createMetrics now pb (p.withBody b) := by
  have hparse : P.parseFromArray (p.withBody b).body = some pb := hb
  have hfull : (p.withBody b).body ≠ [] := hne
  unfold Payload.parseSparkplugProtobuf parseProtobuf
  rw [if_neg hfull, hparse, Option.bind_some]
  unfold innerMessage
  rw [hbody]
  rfl

theorem foldl_nameless {pbs : List PbMetric}
    (h : ∀ e ∈ pbs, e.name = none ∧ e.aliasNumber = none) (createMetrics : Bool)
    (p : Payload P) : pbs.foldl (parseEntry createMetrics) p = p := by
  induction pbs generalizing p with
  | nil => rfl
  | cons pb pbs ih =>
    obtain ⟨hname, halias⟩ := h pb List.mem_cons_self
    have hmatch : entryMatches P pb = fun _ _ => false := by
      simp [entryMatches, hname, halias]
    have hnone : p.metricList.findFirst? (entryMatches P pb) = none := by
      rw [hmatch]
      exact Entries.findFirst?_eq_none.mpr fun _ _ => rfl
    have hfirst : parseEntry createMetrics p pb = p := by
      unfold parseEntry
      rw [findMetric_eq, hnone, hname]
    rw [List.foldl_cons, hfirst]
    exact ih (fun e he => h e (List.mem_cons_of_mem pb he)) p

theorem parseEntry_eq (createMetrics : Bool) (p : Payload P) (pb : PbMetric) :
    parseEntry createMetrics p pb =
      { p with metricList := (parseEntry createMetrics p pb).metricList } := by
  rcases parseEntry_cases createMetrics p pb with h | h | ⟨name, _, h⟩
  · rw [h]
  · rw [h]
  · rw [h]
    rfl

theorem foldl_parseEntry_eq (createMetrics : Bool) (pbs : List PbMetric) (p : Payload P) :
    pbs.foldl (parseEntry createMetrics) p =
      { p with metricList := (pbs.foldl (parseEntry createMetrics) p).metricList } := by
  induction pbs generalizing p with
  | nil => rfl
  | cons pb pbs ih => rw [List.foldl_cons, ih, parseEntry_eq]

/-- The two parses agree when the message only stamps the target. -/
theorem sameState_iff {pb : PbPayload} (createMetrics : Bool) (now : UInt64) (outer b : BodyList)
    (p : Payload P) :
    Payload.SameState ((p.withBody outer).setTimestamp now false)
        (parseMessage createMetrics now pb (p.withBody b)) ↔
      pb.timestamp.getD now = now ∧ pb.seq.getD p.sequenceNumber = p.sequenceNumber ∧
      pb.uuid.getD p.uuid = p.uuid ∧
      (pb.metrics.foldl (parseEntry createMetrics)
        (parseHeader now pb (p.withBody b))).metricList =
          ((p.withBody b).setTimestamp now false).metricList := by
  unfold parseMessage
  have hfields := foldl_parseEntry_eq createMetrics pb.metrics (parseHeader now pb (p.withBody b))
  constructor
  · intro h
    refine ⟨?_, ?_, ?_, h.metricList.symm⟩
    · have htimestamp := h.timestamp
      rw [hfields] at htimestamp
      exact htimestamp.symm
    · have hseq := h.sequenceNumber
      rw [hfields] at hseq
      exact hseq.symm
    · have huuid := h.uuid
      rw [hfields] at huuid
      exact huuid.symm
  · rintro ⟨htimestamp, hseq, huuid, hmetrics⟩
    refine ⟨?_, ?_, ?_, hmetrics.symm⟩
    · rw [hfields]
      exact htimestamp.symm
    · rw [hfields]
      exact hseq.symm
    · rw [hfields]
      exact huuid.symm

theorem length_parseEntry (createMetrics : Bool) (p : Payload P) (pb : PbMetric) :
    p.metricList.entries.length ≤
      (parseEntry createMetrics p pb).metricList.entries.length := by
  rcases parseEntry_cases createMetrics p pb with h | h | ⟨name, _, h⟩
  · rw [h]
  · rw [h]
    exact (Entries.updateFirst_length _ _ _).ge
  · rw [h]
    exact (Entries.length_le_insert name _ _).trans (Entries.updateFirst_length _ _ _).ge

theorem length_foldl (createMetrics : Bool) (pbs : List PbMetric) (p : Payload P) :
    p.metricList.entries.length ≤
      (pbs.foldl (parseEntry createMetrics) p).metricList.entries.length := by
  induction pbs generalizing p with
  | nil => exact Nat.le_refl _
  | cons pb pbs ih => exact (length_parseEntry createMetrics p pb).trans (ih _)

/-- An entry without a metric creates one, or has no effect on any payload like this one. -/
theorem parseEntry_missing {createMetrics : Bool} {p : Payload P} {pb : PbMetric}
    (h : p.metricList.findFirst? (entryMatches P pb) = none) :
    parseEntry createMetrics p pb = p ∨
      p.metricList.entries.length < (parseEntry createMetrics p pb).metricList.entries.length := by
  unfold parseEntry
  rw [findMetric_eq, h]
  cases hname : pb.name with
  | none => exact .inl rfl
  | some name =>
    dsimp only
    split
    · refine .inr ?_
      have hmatch : entryMatches P pb = Entries.sameKey P.foldKey name := by
        simp [entryMatches, hname]
      rw [hmatch] at h
      have hlength := Entries.length_insert_of_none (v := createdMetric name pb) h
      change _ < (Entries.updateFirst _ _ (Entries.insert P.foldKey name _ _)).length
      rw [Entries.updateFirst_length, hlength]
      exact Nat.lt_succ_self _
    · exact .inl rfl

/-- The payload with one flag of its metrics set, which every entry for a metric overwrites. -/
def withHistorical (h : Bool) (p : Payload P) : Payload P :=
  { p with metricList := p.metricList.mapValues fun _ m => { m with isHistorical := h } }

theorem findFirst?_singleton {p : Payload P} {k : Str} {m : Metric}
    (hp : p.metricList.entries = [(k, m)]) (test : Str → Metric → Bool) :
    p.metricList.findFirst? test = if test k m then some m else none := by
  unfold FoldedMap.findFirst? Entries.findFirst?
  rw [hp]
  cases htest : test k m with
  | true => simp [htest]
  | false => simp [htest]

theorem entries_withHistorical {p : Payload P} {k : Str} {m : Metric}
    (hp : p.metricList.entries = [(k, m)]) (h : Bool) :
    (withHistorical h p).metricList.entries = [(k, { m with isHistorical := h })] := by
  unfold withHistorical
  rw [FoldedMap.entries_mapValues, hp]
  rfl

theorem getTimestamp_withHistorical {p : Payload P} {k : Str} {m : Metric}
    (hp : p.metricList.entries = [(k, m)]) (h : Bool) :
    (withHistorical h p).getTimestamp = p.getTimestamp := by
  have hget := findFirst?_singleton hp (Entries.sameKey P.foldKey (str "timestamp"))
  have hflag := findFirst?_singleton (entries_withHistorical hp h)
    (Entries.sameKey P.foldKey (str "timestamp"))
  unfold Payload.getTimestamp Payload.getMetric FoldedMap.get? Entries.get?
  unfold FoldedMap.findFirst? at hget hflag
  have hkey : Entries.sameKey P.foldKey (str "timestamp") k { m with isHistorical := h } =
      Entries.sameKey P.foldKey (str "timestamp") k m := rfl
  rw [hget, hflag, hkey]
  cases Entries.sameKey P.foldKey (str "timestamp") k m with
  | true => rfl
  | false => rfl

theorem parseEntry_withHistorical {p : Payload P} {k : Str} {m : Metric}
    (hp : p.metricList.entries = [(k, m)]) {pb : PbMetric}
    (hmatch : entryMatches P pb k m = true) (createMetrics h : Bool) :
    parseEntry createMetrics (withHistorical h p) pb = parseEntry createMetrics p pb := by
  have hkept : entryMatches P pb k { m with isHistorical := h } = entryMatches P pb k m := by
    refine entryMatches_of_identity ?_ pb k
    rfl
  have hsame := hkept.trans hmatch
  have hfound := findFirst?_singleton hp (entryMatches P pb)
  have hflag := findFirst?_singleton (entries_withHistorical hp h) (entryMatches P pb)
  rw [hmatch, if_pos rfl] at hfound
  rw [hsame, if_pos rfl] at hflag
  have hlist : (withHistorical h p).metricList.updateFirst (entryMatches P pb)
      (parseMetric P createMetrics p.getTimestamp pb) =
      p.metricList.updateFirst (entryMatches P pb)
        (parseMetric P createMetrics p.getTimestamp pb) := by
    apply FoldedMap.ext
    rw [FoldedMap.entries_updateFirst, FoldedMap.entries_updateFirst, hp,
      entries_withHistorical hp, Entries.updateFirst, if_pos hsame, Entries.updateFirst,
      if_pos hmatch]
    rfl
  rw [parseEntry_found hfound, parseEntry_found hflag, getTimestamp_withHistorical hp, hlist]
  rfl

/-- No message with an entry for the only metric leaves the metric as it is, whatever its flag. -/
theorem not_idle {createMetrics : Bool} {pbs : List PbMetric} {p : Payload P} {k : Str}
    {m : Metric} (hp : p.metricList.entries = [(k, m)]) {h : Bool} (hflag : m.isHistorical ≠ h)
    {pb : PbMetric} (hpb : pb ∈ pbs) (hmatch : entryMatches P pb k m = true)
    (hfirst : (pbs.foldl (parseEntry createMetrics) p).metricList = p.metricList)
    (hsecond : (pbs.foldl (parseEntry createMetrics) (withHistorical h p)).metricList =
      (withHistorical h p).metricList) : False := by
  induction pbs with
  | nil => cases hpb
  | cons e pbs ih =>
    rw [List.foldl_cons] at hfirst hsecond
    cases he : entryMatches P e k m with
    | true =>
      rw [parseEntry_withHistorical hp he, hfirst] at hsecond
      have hentries := congrArg FoldedMap.entries hsecond
      rw [hp, entries_withHistorical hp] at hentries
      have hmetric := (Prod.mk.inj (List.cons.inj hentries).1).2
      exact hflag (congrArg Metric.isHistorical hmetric)
    | false =>
      have hkept : entryMatches P e k { m with isHistorical := h } = entryMatches P e k m := by
        refine entryMatches_of_identity ?_ e k
        rfl
      have heFlag := hkept.trans he
      have hrest : pb ∈ pbs := by
        rcases List.mem_cons.mp hpb with rfl | hpb
        · rw [hmatch] at he
          cases he
        · exact hpb
      have hstay : ∀ q : Payload P, q.metricList.findFirst? (entryMatches P e) = none →
          (pbs.foldl (parseEntry createMetrics) (parseEntry createMetrics q e)).metricList =
            q.metricList → parseEntry createMetrics q e = q := by
        intro q hnone hsame
        rcases @parseEntry_missing P createMetrics q e hnone with hq | hgrown
        · exact hq
        · have hlength := length_foldl createMetrics pbs (parseEntry createMetrics q e)
          rw [hsame] at hlength
          exact absurd hlength (Nat.not_le_of_lt hgrown)
      have hp1 := hstay p (by rw [findFirst?_singleton hp, he]; rfl) hfirst
      have hq1 := hstay (withHistorical h p)
        (by rw [findFirst?_singleton (entries_withHistorical hp h), heFlag]; rfl) hsecond
      rw [hp1] at hfirst
      rw [hq1] at hsecond
      exact ih hrest hfirst hsecond

theorem sameState_of_silent {pb : PbPayload} {now : UInt64} (h : pb.Silent now)
    (createMetrics : Bool) (outer b : BodyList) (p : Payload P) :
    Payload.SameState ((p.withBody outer).setTimestamp now false)
      (parseMessage createMetrics now pb (p.withBody b)) := by
  have htime : pb.timestamp.getD now = now := by
    rcases h.timestamp with htime | htime
    · rw [htime]
      rfl
    · rw [htime]
      rfl
  rw [sameState_iff, foldl_nameless h.metrics, h.seq, h.uuid]
  refine ⟨htime, rfl, rfl, ?_⟩
  change ((p.withBody b).setTimestamp (pb.timestamp.getD now) false).metricList = _
  rw [htime]

theorem parseHeader_withHistorical (now : UInt64) (pb : PbPayload) (h : Bool) (p : Payload P) :
    (parseHeader now pb (withHistorical h p)).metricList =
      (withHistorical h (parseHeader now pb p)).metricList := by
  apply FoldedMap.ext
  let flag : Metric → Metric := fun m => { m with isHistorical := h }
  let stamp : Metric → Metric := fun m => m.setInt (pb.timestamp.getD now).toNat
  have hflag : ∀ m, flag (stamp m) = stamp (flag m) := fun _ => rfl
  exact (Entries.map_updateFirst hflag (str "timestamp") p.metricList.entries).symm

theorem parseHeader_singleton {p : Payload P} {k : Str} {m : Metric}
    (hp : p.metricList.entries = [(k, m)]) (now : UInt64) (pb : PbPayload) :
    ∃ n : Metric, (parseHeader now pb p).metricList.entries = [(k, n)] ∧
      n.identity = m.identity ∧ n.isHistorical = m.isHistorical := by
  change ∃ n : Metric, Entries.updateFirst _ _ p.metricList.entries = _ ∧ _
  rw [hp, Entries.updateFirst]
  split
  · exact ⟨_, rfl, rfl, rfl⟩
  · exact ⟨m, rfl, rfl, rfl⟩

/-- A message that every target takes as its wrapping has no entry for any metric. -/
theorem nameless_of_sameState {pb : PbPayload} {createMetrics : Bool} {now : UInt64}
    {outer b : BodyList} (h : ∀ p : Payload P,
      Payload.SameState ((p.withBody outer).setTimestamp now false)
        (parseMessage createMetrics now pb (p.withBody b)))
    {k : Str} {m : Metric} (hm : m.isHistorical = false) {e : PbMetric} (he : e ∈ pb.metrics) :
    entryMatches P e k m = false := by
  rw [Bool.eq_false_iff]
  intro hmatch
  let p : Payload P := { metricList := FoldedMap.empty.insert k m }
  have hidle : ∀ q : Payload P, (pb.metrics.foldl (parseEntry createMetrics)
      (parseHeader now pb (q.withBody b))).metricList =
        (parseHeader now pb (q.withBody b)).metricList := by
    intro q
    obtain ⟨htime, _, _, hlist⟩ := (sameState_iff createMetrics now outer b q).mp (h q)
    rw [hlist]
    change _ = ((q.withBody b).setTimestamp (pb.timestamp.getD now) false).metricList
    rw [htime]
  obtain ⟨n, hn, hidentity, hflag⟩ :=
    parseHeader_singleton (p := p.withBody b) (k := k) (m := m) rfl now pb
  have hmatchn : entryMatches P e k n = true :=
    (entryMatches_of_identity hidentity e k).trans hmatch
  have hne : n.isHistorical ≠ true := by
    rw [hflag, hm]
    exact Bool.false_ne_true
  have hsame : parseHeader now pb ((withHistorical true p).withBody b) =
      withHistorical true (parseHeader now pb (p.withBody b)) := by
    have hlist := parseHeader_withHistorical now pb true (p.withBody b)
    have hrest : ∀ q r : Payload P, q.metricList = r.metricList → q.timestamp = r.timestamp →
        q.sequenceNumber = r.sequenceNumber → q.uuid = r.uuid → q.body = r.body → q = r := by
      intro q r
      cases q
      cases r
      simp_all
    exact hrest _ _ hlist rfl rfl rfl rfl
  have hsecond := hidle (withHistorical true p)
  rw [hsame] at hsecond
  exact not_idle hn hne he hmatchn (hidle p) hsecond

theorem silent_of_sameState {pb : PbPayload} {createMetrics : Bool} {now : UInt64}
    {outer b : BodyList} (h : ∀ p : Payload P,
      Payload.SameState ((p.withBody outer).setTimestamp now false)
        (parseMessage createMetrics now pb (p.withBody b))) : pb.Silent now := by
  have hfields := fun p => (sameState_iff createMetrics now outer b p).mp (h p)
  refine ⟨?_, ?_, ?_, ?_⟩
  · have htime := (hfields {}).1
    cases htimestamp : pb.timestamp with
    | none => exact .inl rfl
    | some t =>
      rw [htimestamp] at htime
      exact .inr (congrArg some htime)
  · cases hseq : pb.seq with
    | none => rfl
    | some s =>
      have hsame := (hfields { sequenceNumber := s + 1 }).2.1
      rw [hseq] at hsame
      change s = s + 1 at hsame
      simp at hsame
  · cases huuid : pb.uuid with
    | none => rfl
    | some u =>
      have hsame := (hfields { uuid := 0 :: u }).2.2.1
      rw [huuid] at hsame
      exact absurd (congrArg List.length hsame) (Nat.succ_ne_self _).symm
  · intro e he
    have hname : e.name = none := by
      cases hname : e.name with
      | none => rfl
      | some name =>
        have hmatch := nameless_of_sameState h (k := name) (m := {}) rfl he
        simp [entryMatches, hname, Entries.sameKey] at hmatch
    refine ⟨hname, ?_⟩
    cases halias : e.aliasNumber with
    | none => rfl
    | some a =>
      have hmatch := nameless_of_sameState h (k := str "x") (m := { aliasNumber := a }) rfl he
      simp [entryMatches, hname, halias, Payload.hasAlias] at hmatch

end PayloadHelper

namespace Payload
variable {P : Platform}

/-- The target has the time already. -/
structure HasTime (now : UInt64) (p : Payload P) : Prop where
  timestamp : p.timestamp = now
  metric : ∀ m, p.getMetric (str "timestamp") = some m →
    m.value = DecimalText.intText now.toNat ∧ m.valid = true

theorem setTimestamp_eq_iff (now : UInt64) (p : Payload P) (outer : BodyList) :
    SameState ((p.withBody outer).setTimestamp now false) p ↔ p.HasTime now := by
  have hlist : ((p.withBody outer).setTimestamp now false).metricList = p.metricList ↔
      ∀ m, p.getMetric (str "timestamp") = some m → m.setInt now.toNat = m := by
    rw [FoldedMap.ext_iff]
    exact Entries.updateFirst_eq_self
  have hmetric : ∀ m : Metric, m.setInt now.toNat = m ↔
      m.value = DecimalText.intText now.toNat ∧ m.valid = true := by
    intro m
    constructor
    · intro h
      have hvalue := congrArg Metric.value h
      have hvalid := congrArg Metric.valid h
      exact ⟨hvalue.symm, hvalid.symm⟩
    · rintro ⟨hvalue, hvalid⟩
      unfold Metric.setInt Metric.setText
      rw [← hvalue, ← hvalid]
      simp
  constructor
  · intro h
    refine ⟨h.timestamp.symm, ?_⟩
    intro m hm
    exact (hmetric m).mp (hlist.mp h.metricList m hm)
  · intro h
    refine ⟨h.timestamp.symm, rfl, rfl, ?_⟩
    exact hlist.mpr fun m hm => (hmetric m).mpr (h.metric m hm)

/-- A wrapped message is parsed as the message itself only when the message says nothing; when
the wrapped bytes are no message, only a target that has the time already stays as it is. -/
theorem wrapped_iff {W : PbPayload} {outer b : BodyList} (hW : P.parseFromArray outer = some W)
    (hbody : W.body = some b) (createMetrics : Bool) (now : UInt64) :
    (∀ pb : PbPayload, P.serializeToArray pb = some b → pb.body = none →
      ((∀ p : Payload P, SameState ((p.withBody outer).parseSparkplugProtobuf createMetrics now)
          ((p.withBody b).parseSparkplugProtobuf createMetrics now)) ↔
        b ≠ [] ∧ pb.Silent now)) ∧
    (P.parseFromArray b = none → ∀ p : Payload P,
      SameState ((p.withBody outer).parseSparkplugProtobuf createMetrics now) p ↔
        p.HasTime now) := by
  have hwrapped := PayloadHelper.parse_wrapped hW hbody createMetrics now
  refine ⟨?_, ?_⟩
  · intro pb hserialize hplain
    have hb := P.parse_serialize pb b hserialize
    constructor
    · intro h
      have hne : b ≠ [] := by
        rintro rfl
        have htimestamp := (h { timestamp := now + 1 }).timestamp
        rw [hwrapped] at htimestamp
        change now = now + 1 at htimestamp
        simp at htimestamp
      have hsame : ∀ p : Payload P, SameState ((p.withBody outer).setTimestamp now false)
          (PayloadHelper.parseMessage createMetrics now pb (p.withBody b)) := by
        intro p
        rw [← hwrapped, ← PayloadHelper.parse_unwrapped hb hplain hne]
        exact h p
      exact ⟨hne, PayloadHelper.silent_of_sameState hsame⟩
    · rintro ⟨hne, hsilent⟩ p
      rw [hwrapped, PayloadHelper.parse_unwrapped hb hplain hne]
      exact PayloadHelper.sameState_of_silent hsilent createMetrics outer b p
  · intro _ p
    rw [hwrapped]
    exact setTimestamp_eq_iff now p outer

/-- A message with a time and nothing else. -/
def timed : PbPayload := { timestamp := some 5 }

def wrapping : PbPayload := { body := some (ProtobufCodec.serialize timed) }

def torn : PbPayload := { body := some [8] }

theorem wrapped_timed_iff :
    ((∀ p : Payload Platform.reference,
      SameState
        ((p.withBody (ProtobufCodec.serialize wrapping)).parseSparkplugProtobuf true 5)
        ((p.withBody (ProtobufCodec.serialize timed)).parseSparkplugProtobuf true 5)) ↔
      ProtobufCodec.serialize timed ≠ [] ∧ timed.Silent 5) ∧
    ∀ p : Payload Platform.reference,
      SameState ((p.withBody (ProtobufCodec.serialize torn)).parseSparkplugProtobuf true 5) p ↔
        p.HasTime 5 :=
  ⟨(wrapped_iff (Platform.reference.parse_serialize wrapping _ (by decide +kernel)) rfl true 5).1
      timed (by decide +kernel) rfl,
    (wrapped_iff (Platform.reference.parse_serialize torn _ (by decide +kernel)) rfl true 5).2
      (Option.isNone_iff_eq_none.mp (by decide +kernel))⟩

/-- The time of a wrapped message is lost. -/
theorem wrapped_time_is_lost :
    ¬ SameState
      ((Payload.withBody (P := Platform.reference) (ProtobufCodec.serialize wrapping)
        {}).parseSparkplugProtobuf true 7)
      ((Payload.withBody (P := Platform.reference) (ProtobufCodec.serialize timed)
        {}).parseSparkplugProtobuf true 7) := by
  intro h
  have htimes : ¬ (7 : UInt64) = 5 := by decide
  have hwrapped : ((Payload.withBody (P := Platform.reference) (ProtobufCodec.serialize wrapping)
      {}).parseSparkplugProtobuf true 7).timestamp = 7 := by
    decide +kernel
  have htimed : ((Payload.withBody (P := Platform.reference) (ProtobufCodec.serialize timed)
      {}).parseSparkplugProtobuf true 7).timestamp = 5 := by
    decide +kernel
  exact htimes (hwrapped.symm.trans (h.timestamp.trans htimed))

end Payload
end PubSub
