import PubSub.StructureFrame
import PubSub.Receiver
import PubSub.Shared.Overwrite

/-!
# Data messages write over their earlier copies

A data message creates nothing: it stores its body and the fields of its header, and it writes
into the metrics and the properties that are there, at every depth. What it writes does not
depend on what was written before, so a message that comes again makes its earlier copy
redundant, whatever data messages came in between.
-/

namespace PubSub
open DecimalText
set_option autoImplicit false

namespace PayloadHelper
variable (P : Platform)

/-- The text that an arm writes to a property of a type. -/
def armText : PbPropertyArm → MetricType → Option Str
  | .intValue v, type =>
    some (if signedOrReal type then intText v.toInt32.toInt else natText v.toNat)
  | .longValue v, type =>
    some (if signedOrReal type then intText v.toInt64.toInt else natText v.toNat)
  | .floatValue bits, _ => some (P.stdFloatText bits)
  | .doubleValue bits, _ => some (P.stdDoubleText bits)
  | .booleanValue v, _ => some (Text.ofBool v)
  | .stringValue v, _ => some v
  | .propertysetValue _ _, _ => none
  | .notSet, _ => none

/-- The pairs that an arm writes to the first property set. -/
def armPairs : PbPropertyArm → List (Str × PbPropertyValue)
  | .propertysetValue keys values => keys.zip values
  | _ => []

def pairTest (pair : Str × PbPropertyValue) (key : Str) (p : MetricProperty) : Bool :=
  decide (pair.1 ≠ []) && Entries.sameKey P.foldKey pair.1 key p

def pairWrite (pair : Str × PbPropertyValue) (p : MetricProperty) : MetricProperty :=
  parsePropertyValue P false pair.2 p

/-- One pair of a property set, written to a list of properties. -/
def writePair (list : MetricPropertyList) (pair : Str × PbPropertyValue) : MetricPropertyList :=
  Overwriting.atFirst (pairTest P) (pairWrite P) list pair

theorem writePair_eq (list : MetricPropertyList) (pair : Str × PbPropertyValue) :
    writePair P list pair =
      if pair.1 = [] then list
      else Entries.updateFirst (Entries.sameKey P.foldKey pair.1)
        (parsePropertyValue P false pair.2) list := by
  unfold writePair Overwriting.atFirst
  split
  · rename_i hnil
    refine Entries.updateFirst_of_none (Entries.findFirst?_eq_none.mpr ?_) _
    intro e _
    simp [pairTest, hnil]
  · rename_i hne
    have htest : pairTest P pair = Entries.sameKey P.foldKey pair.1 := by
      funext key p
      simp [pairTest, hne]
    rw [htest]
    rfl

theorem parsePropertySet_eq_run (keys : List Str) (values : List PbPropertyValue)
    (list : MetricPropertyList) :
    parsePropertySet P false keys values list = run (writePair P) list (keys.zip values) := by
  induction keys generalizing values list with
  | nil =>
    rw [parsePropertySet]
    · rfl
    · intro _ _ _ _ h
      cases h
  | cons key keys ih =>
    cases values with
    | nil =>
      rw [parsePropertySet]
      · rfl
      · intro _ _ _ _ _ h
        cases h
    | cons value values =>
      rw [parsePropertySet, List.zip_cons_cons, run_cons, writePair_eq]
      split
      · exact ih values list
      · cases hfound : Entries.get? P.foldKey key list with
        | some _ => exact ih values _
        | none =>
          dsimp only
          rw [if_neg Bool.false_ne_true, ih, Entries.updateFirst_of_none hfound]

/-- What a value of the message makes of a property that is there. -/
theorem parsePropertyValue_eq (type : Option UInt32) (isNull : Option Bool) (arm : PbPropertyArm)
    (p : MetricProperty) : parsePropertyValue P false (.mk type isNull arm) p =
      { p with
        isNull := isNull.getD false
        value := (armText P arm p.type).getD p.value
        propArray := p.propArray.modifyHead fun first =>
          run (writePair P) first (armPairs arm) } := by
  have hempty : p.propArray.modifyHead (fun first => run (writePair P) first []) = p.propArray := by
    cases p.propArray <;> rfl
  rw [parsePropertyValue]
  cases arm with
  | propertysetValue keys values =>
    rw [parsePropertyArm]
    unfold armPairs armText
    cases p.propArray with
    | nil => simp
    | cons first rest => simp [parsePropertySet_eq_run]
  | _ =>
    rw [parsePropertyArm]
    unfold armPairs armText
    rw [hempty]
    rfl

/-- The value of a field that two writes meet, either of which may leave it. -/
theorem getD_over {α : Type} (a b : Option α) (x : α) :
    a.getD (b.getD (a.getD x)) = a.getD (b.getD x) := by
  cases a with
  | none => rfl
  | some _ => rfl

theorem getD_again {α : Type} (a : Option α) (x : α) : a.getD (a.getD x) = a.getD x := by
  cases a with
  | none => rfl
  | some _ => rfl

theorem overwriting_entries_of_values {ok : PbPropertyValue → Prop}
    (h : Overwriting (fun p v => parsePropertyValue P false v p) (fun _ => True) ok) :
    Overwriting (writePair P) (fun _ => True) fun pair => ok pair.2 := by
  have hvalue : Overwriting (fun p pair => pairWrite P pair p) (fun _ => True)
      fun pair => ok pair.2 := ⟨fun _ _ => trivial, h.again, h.behind⟩
  have hentry : ∀ key, Overwriting (Overwriting.atEntry (pairTest P) (pairWrite P) key)
      (fun _ => True) fun pair => ok pair.2 := fun _ => Overwriting.atEntry_static hvalue rfl
  have hlist := Overwriting.entries (J := fun _ _ => True) hentry fun _ _ => rfl
  exact ⟨fun _ _ => trivial, fun _ => hlist.again fun _ _ => trivial,
    fun _ => hlist.behind fun _ _ => trivial⟩

/-- The values of a message write over their earlier copies, by the size of the values. -/
theorem overwriting_values (n : Nat) :
    Overwriting (fun p v => parsePropertyValue P false v p) (fun _ => True)
      fun v => sizeOf v < n := by
  induction n with
  | zero =>
    exact ⟨fun _ _ => trivial, fun _ h => absurd h (Nat.not_lt_zero _),
      fun _ h => absurd h (Nat.not_lt_zero _)⟩
  | succ n ih =>
    have hsets := (overwriting_entries_of_values P ih).words
    have hpairs : ∀ {type isNull arm}, sizeOf (PbPropertyValue.mk type isNull arm) < n + 1 →
        ∀ pair ∈ armPairs arm, sizeOf pair.2 < n := by
      intro type isNull arm hsize pair hpair
      cases arm with
      | propertysetValue keys values =>
        have hmem : pair.2 ∈ values := (List.of_mem_zip hpair).2
        have hlt := List.sizeOf_lt_of_mem hmem
        simp only [PbPropertyValue.mk.sizeOf_spec, PbPropertyArm.propertysetValue.sizeOf_spec]
          at hsize
        omega
      | _ => cases hpair
    refine ⟨fun _ _ => trivial, ?_, ?_⟩
    · rintro p ⟨type, isNull, arm⟩ - hsize
      simp only [parsePropertyValue_eq, getD_again, List.modifyHead_modifyHead]
      congr 2
      funext first
      exact hsets.again trivial (hpairs hsize)
    · rintro p ⟨type, isNull, arm⟩ ⟨type', isNull', arm'⟩ - hsize hsize'
      simp only [parsePropertyValue_eq, getD_over, List.modifyHead_modifyHead]
      congr 2
      funext first
      exact hsets.behind trivial (hpairs hsize) (hpairs hsize')

theorem overwriting_pairs : Overwriting (writePair P) (fun _ => True) fun _ => True := by
  have hat : ∀ {e : Str × PbPropertyValue} {d : Str × PbPropertyValue} {list},
      writePair P (writePair P list e) e = writePair P list e ∧
        writePair P (writePair P (writePair P list e) d) e = writePair P (writePair P list d) e := by
    intro e d list
    let n := sizeOf e.2 + sizeOf d.2 + 1
    have h := overwriting_entries_of_values P (overwriting_values P n)
    have he : sizeOf e.2 < n := by omega
    have hd : sizeOf d.2 < n := by omega
    exact ⟨h.again trivial he, h.behind trivial he hd⟩
  exact ⟨fun _ _ => trivial, fun {_ e} _ _ => (hat (d := e)).1, fun _ _ _ => hat.2⟩

/-- The text that a value of a message writes to a metric of a datatype. -/
def writtenText : PbValue → MetricType → Option Str
  | .intValue v, type => some (if signedInt type then intText v.toInt32.toInt else intText v.toNat)
  | .longValue v, type => some (if signedInt type then intText v.toInt64.toInt else intText v.toNat)
  | .floatValue bits, _ => some ((({} : Metric).setFloat P bits).value)
  | .doubleValue bits, _ => some ((({} : Metric).setDouble P bits).value)
  | .booleanValue v, _ => some (Text.ofBool v)
  | .stringValue v, _ => some v
  | .bytesValue v, _ => some v
  | .notSet, _ => none

/-- A numeric metric gets no text with a unit. -/
def BringsNoUnit (v : PbValue) (m : Metric) : Prop :=
  v.mayBringUnit = true → m.datatype.isNumeric = false

end PayloadHelper

/-- What one step of a data message writes to a metric. -/
structure MetricWrite where
  timestamp : Option UInt64 := none
  isHistorical : Option Bool := none
  isTransient : Option Bool := none
  isNull : Option Bool := none
  text : Option Str := none
  metaData : Option PbMetaData := none
  properties : List (Str × PbPropertyValue) := []

namespace MetricWrite
open PayloadHelper
variable (P : Platform)

/-- A text that is written raises the flag if it is another one. -/
def raise (text : Option Str) (value : Str) (flag : Bool) : Bool :=
  flag || text.any fun t => t != value

def writeMetaData (md : Option PbMetaData) (m : Option MetricMetadata) : Option MetricMetadata :=
  md.elim m fun md => some (parseMetaData md (m.getD {}))

def apply (m : Metric) (w : MetricWrite) : Metric :=
  { m with
    timestamp := w.timestamp.getD m.timestamp
    isHistorical := w.isHistorical.getD m.isHistorical
    isTransient := w.isTransient.getD m.isTransient
    isNull := w.isNull.getD m.isNull
    valid := w.text.isSome || m.valid
    propertyList := run (writePair P) m.propertyList w.properties
    value := w.text.getD m.value
    metaData := writeMetaData w.metaData m.metaData
    updated := raise w.text m.value m.updated }

theorem apply_identity (m : Metric) (w : MetricWrite) : (apply P m w).identity = m.identity := rfl

theorem apply_nothing (m : Metric) : apply P m {} = m := by
  simp [apply, raise, writeMetaData]

theorem raise_again (t : Option Str) (value : Str) (flag : Bool) :
    raise t (t.getD value) (raise t value flag) = raise t value flag := by
  cases t <;> simp [raise]

/-- Between two copies of a text the flag was raised by a text in between, if at all. -/
theorem raise_over (t s : Option Str) (value : Str) (flag : Bool) :
    raise t (s.getD (t.getD value)) (raise s (t.getD value) (raise t value flag)) =
      raise t (s.getD value) (raise s value flag) := by
  cases t with
  | none => simp [raise]
  | some t =>
    cases s with
    | none => simp [raise]
    | some s =>
      by_cases hts : t = s
      · simp [raise, hts]
      · simp [raise, bne_iff_ne.mpr hts]

theorem writeMetaData_again (md : Option PbMetaData) (m : Option MetricMetadata) :
    writeMetaData md (writeMetaData md m) = writeMetaData md m := by
  cases md with
  | none => rfl
  | some md => simp [writeMetaData, parseMetaData, getD_again]

theorem writeMetaData_over (md nd : Option PbMetaData) (m : Option MetricMetadata) :
    writeMetaData md (writeMetaData nd (writeMetaData md m)) =
      writeMetaData md (writeMetaData nd m) := by
  cases md with
  | none => rfl
  | some md =>
    cases nd with
    | none => simp [writeMetaData, parseMetaData, getD_again]
    | some nd => simp [writeMetaData, parseMetaData, getD_over]

/-- A metric is written over, the updated flag and the properties with the rest. -/
theorem overwriting : Overwriting (apply P) (fun _ => True) fun _ => True := by
  have hpairs := (overwriting_pairs P).words
  refine ⟨fun _ _ => trivial, ?_, ?_⟩
  · intro m w _ _
    have hproperties := hpairs.again (s := m.propertyList) (e := w.properties) trivial
      fun _ _ => trivial
    have hvalid : (w.text.isSome || (w.text.isSome || m.valid)) = (w.text.isSome || m.valid) := by
      cases w.text <;> simp
    simp only [apply, getD_again, hproperties, raise_again, writeMetaData_again, hvalid]
  · intro m w x _ _ _
    have hproperties := hpairs.behind (s := m.propertyList) (e := w.properties) (d := x.properties)
      trivial (fun _ _ => trivial) fun _ _ => trivial
    have hvalid : (w.text.isSome || (x.text.isSome || (w.text.isSome || m.valid))) =
        (w.text.isSome || (x.text.isSome || m.valid)) := by
      cases w.text <;> simp
    simp only [apply, getD_over, hproperties, raise_over, writeMetaData_over, hvalid]

end MetricWrite

namespace PayloadHelper
variable {P : Platform}

/-- What an entry of a message writes. -/
def entryWrite (P : Platform) (sourceTimestamp : UInt64) (pb : PbMetric) (type : MetricType) :
    MetricWrite where
  timestamp := some (pb.timestamp.getD sourceTimestamp)
  isHistorical := some (pb.isHistorical.getD false)
  isTransient := some (if pb.isHistorical.isSome then pb.isTransient.getD false else false)
  isNull := some (pb.isNull.getD false)
  text := writtenText P pb.value type
  metaData := pb.metadata
  properties := match pb.properties with
    | none => []
    | some ps => ps.keys.zip ps.values

theorem parseMetricProperties_eq_run (ps : PbPropertySet) (m : Metric) :
    parseMetricProperties P false ps m =
      { m with propertyList := run (writePair P) m.propertyList (ps.keys.zip ps.values) } := by
  unfold parseMetricProperties
  induction ps.keys.zip ps.values generalizing m with
  | nil => rfl
  | cons pair pairs ih =>
    have hfirst : parseMetricProperty P false m pair =
        { m with propertyList := writePair P m.propertyList pair } := by
      rw [writePair_eq]
      unfold parseMetricProperty
      by_cases hnil : pair.1 = []
      · rw [if_pos hnil, if_pos hnil]
      · rw [if_neg hnil, if_neg hnil]
        unfold Metric.getProperty
        cases hfound : Entries.get? P.foldKey pair.1 m.propertyList with
        | some _ => rfl
        | none =>
          rw [Entries.updateFirst_of_none hfound]
          rfl
    rw [List.foldl_cons, ih, hfirst, run_cons]

theorem parseMetricValue_eq {v : PbValue} {m : Metric} (h : BringsNoUnit v m) :
    parseMetricValue P v m = { m with
      value := (writtenText P v m.datatype).getD m.value
      valid := (writtenText P v m.datatype).isSome || m.valid
      updated := MetricWrite.raise (writtenText P v m.datatype) m.value m.updated } := by
  have htext : ∀ text, (text.contains 32 = true → m.datatype.isNumeric = false) →
      m.setString P text = m.setText text := by
    intro text hunit
    unfold Metric.setString
    rw [if_neg]
    intro hboth
    obtain ⟨hnumeric, hspace⟩ := Bool.and_eq_true_iff.mp hboth
    rw [hunit hspace] at hnumeric
    cases hnumeric
  cases v with
  | notSet => simp [parseMetricValue, writtenText, MetricWrite.raise]
  | intValue v =>
    unfold parseMetricValue writtenText
    dsimp only
    split <;> rfl
  | longValue v =>
    unfold parseMetricValue writtenText
    dsimp only
    split <;> rfl
  | floatValue bits => rfl
  | doubleValue bits => rfl
  | booleanValue b => rfl
  | stringValue text => exact htext text h
  | bytesValue text => exact htext text h

/-- An entry writes into its metric. -/
theorem parseMetric_eq_apply {pb : PbMetric} {m : Metric} (h : BringsNoUnit pb.value m)
    (sourceTimestamp : UInt64) : parseMetric P false sourceTimestamp pb m =
      MetricWrite.apply P m (entryWrite P sourceTimestamp pb m.datatype) := by
  have hheader : parseMetricHeader false sourceTimestamp pb m = { m with
      timestamp := pb.timestamp.getD sourceTimestamp
      isHistorical := pb.isHistorical.getD false
      isTransient := if pb.isHistorical.isSome then pb.isTransient.getD false else false
      isNull := pb.isNull.getD false } := by
    simp [parseMetricHeader]
  have hunit : BringsNoUnit pb.value (parseMetricHeader false sourceTimestamp pb m) := by
    rw [hheader]
    exact h
  unfold parseMetric MetricWrite.apply entryWrite
  dsimp only
  rw [parseMetricValue_eq hunit, hheader]
  cases pb.metadata with
  | none =>
    cases pb.properties with
    | none => rfl
    | some ps => exact parseMetricProperties_eq_run ps _
  | some md =>
    cases pb.properties with
    | none => rfl
    | some ps => exact parseMetricProperties_eq_run ps _

end PayloadHelper

/-- The steps of a data message over a payload. -/
inductive DataStep where
  | store (body : BodyList)
  | header (timestamp : UInt64) (seq : Option UInt64) (uuid : Option Str)
  | entry (pb : PbMetric)

namespace DataStep
open PayloadHelper
variable (P : Platform)

/-- The metric that a step writes to; the header writes to the metric of the timestamp. -/
def test : DataStep → Str → Metric → Bool
  | .store _ => fun _ _ => false
  | .header _ _ _ => Entries.sameKey P.foldKey (str "timestamp")
  | .entry pb => entryMatches P pb

def write : DataStep → Metric → Metric
  | .store _, m => m
  | .header timestamp _ _, m => m.setInt timestamp.toNat
  | .entry pb, m => parseMetric P false 0 pb m

variable {P}

def step (p : Payload P) (d : DataStep) : Payload P :=
  let p := { p with metricList := p.metricList.updateFirst (d.test P) (d.write P) }
  match d with
  | .store body => { p with body := body }
  | .header timestamp seq uuid =>
    { p with
      timestamp := timestamp
      sequenceNumber := seq.getD p.sequenceNumber
      uuid := uuid.getD p.uuid }
  | .entry _ => p

variable (P) in
/-- A step as a write to one metric, which depends on its key, its alias and its datatype. -/
def metricWrite (key : Str) (m : Metric) (d : DataStep) : MetricWrite :=
  if d.test P key m then
    match d with
    | .store _ => {}
    | .header timestamp _ _ => { text := some (intText timestamp.toNat) }
    | .entry pb => entryWrite P 0 pb m.datatype
  else {}

theorem test_of_identity {m n : Metric} (h : n.identity = m.identity) (d : DataStep) (key : Str) :
    d.test P key n = d.test P key m := by
  cases d with
  | store _ => rfl
  | header _ _ _ => rfl
  | entry pb => exact entryMatches_of_identity h pb key

theorem metricWrite_of_identity {m n : Metric} (h : n.identity = m.identity) (key : Str)
    (d : DataStep) : metricWrite P key n d = metricWrite P key m d := by
  have htype : n.datatype = m.datatype := congrArg (fun i => i.2.2) h
  unfold metricWrite
  rw [test_of_identity h, htype]

/-- The entries of the steps bring no unit to the metric. -/
def Fits (P : Platform) (ds : List DataStep) (key : Str) (m : Metric) : Prop :=
  ∀ pb, .entry pb ∈ ds → entryMatches P pb key m = true → BringsNoUnit pb.value m

theorem fits_of_identity {ds : List DataStep} {key : Str} {m n : Metric}
    (h : n.identity = m.identity) (hm : Fits P ds key m) : Fits P ds key n := by
  intro pb hpb hmatch
  rw [entryMatches_of_identity h] at hmatch
  have htype : n.datatype = m.datatype := congrArg (fun i => i.2.2) h
  unfold BringsNoUnit
  rw [htype]
  exact hm pb hpb hmatch

theorem atEntry_eq_apply {ds : List DataStep} {key : Str} {m : Metric} (hm : Fits P ds key m)
    {d : DataStep} (hd : d ∈ ds) : Overwriting.atEntry (test P) (write P) key m d =
      MetricWrite.apply P m (metricWrite P key m d) := by
  unfold Overwriting.atEntry metricWrite
  split
  · rename_i htest
    cases d with
    | store _ => cases htest
    | header timestamp _ _ => rfl
    | entry pb => exact parseMetric_eq_apply (hm pb hd htest) 0
  · exact (MetricWrite.apply_nothing P m).symm

theorem overwriting_metric (ds : List DataStep) (key : Str) :
    Overwriting (Overwriting.atEntry (test P) (write P) key) (Fits P ds key) (· ∈ ds) := by
  have hkept : ∀ {m d}, Fits P ds key m → d ∈ ds →
      Fits P ds key (Overwriting.atEntry (test P) (write P) key m d) := by
    intro m d hm hd
    rw [atEntry_eq_apply hm hd]
    exact fits_of_identity (MetricWrite.apply_identity P m _) hm
  have hsame : ∀ {m d} w, metricWrite P key (MetricWrite.apply P m w) d = metricWrite P key m d :=
    fun w => metricWrite_of_identity (MetricWrite.apply_identity P _ w) key _
  refine ⟨hkept, ?_, ?_⟩
  · intro m d hm hd
    rw [atEntry_eq_apply (hkept hm hd) hd, atEntry_eq_apply hm hd, hsame]
    exact (MetricWrite.overwriting P).again trivial trivial
  · intro m d e hm hd he
    rw [atEntry_eq_apply (hkept (hkept hm hd) he) hd, atEntry_eq_apply (hkept hm hd) he,
      atEntry_eq_apply hm hd, atEntry_eq_apply (hkept hm he) hd, atEntry_eq_apply hm he]
    simp only [hsame]
    exact (MetricWrite.overwriting P).behind trivial trivial trivial

theorem overwriting_entries (ds : List DataStep) :
    Overwriting (Overwriting.atFirst (test P) (write P)) (fun es => ∀ e ∈ es, Fits P ds e.1 e.2)
      (· ∈ ds) := by
  refine Overwriting.entries (overwriting_metric ds) ?_
  intro key m e d hm hd
  rw [atEntry_eq_apply hm hd]
  exact test_of_identity (MetricWrite.apply_identity P m _) e key

theorem payload_ext {p q : Payload P} (huuid : p.uuid = q.uuid) (htime : p.timestamp = q.timestamp)
    (hseq : p.sequenceNumber = q.sequenceNumber) (hbody : p.body = q.body)
    (hlist : p.metricList.entries = q.metricList.entries) : p = q := by
  cases p
  cases q
  obtain rfl := FoldedMap.ext hlist
  cases huuid
  cases htime
  cases hseq
  cases hbody
  rfl

theorem entries_step (p : Payload P) (d : DataStep) : (step p d).metricList.entries =
    Overwriting.atFirst (test P) (write P) p.metricList.entries d := by
  cases d <;> rfl

/-- The steps of data messages write over their earlier copies. -/
theorem overwriting (ds : List DataStep) :
    Overwriting (step (P := P)) (fun p => ∀ e ∈ p.metricList.entries, Fits P ds e.1 e.2)
      (· ∈ ds) := by
  have hlist := overwriting_entries (P := P) ds
  refine ⟨?_, ?_, ?_⟩
  · intro p d hp hd
    rw [entries_step]
    exact hlist.kept hp hd
  · intro p d hp hd
    have hentries : (step (step p d) d).metricList.entries = (step p d).metricList.entries := by
      simp only [entries_step, hlist.again hp hd]
    apply payload_ext _ _ _ _ hentries
    all_goals cases d <;> simp [step, getD_again]
  · intro p d e hp hd he
    have hentries : (step (step (step p d) e) d).metricList.entries =
        (step (step p e) d).metricList.entries := by
      simp only [entries_step, hlist.behind hp hd he]
    apply payload_ext _ _ _ _ hentries
    all_goals cases d <;> cases e <;> simp [step, getD_again, getD_over]

variable (P) in
/-- The message that the parser reads from a body. -/
def read (body : BodyList) : Option PbPayload :=
  if body = [] then none else (P.parseFromArray body).bind (innerMessage (P := P))

variable (P) in
/-- The steps of the message in a body. -/
def ofBody (body : BodyList) : List DataStep :=
  .store body :: match read P body with
    | none => []
    | some pb => .header (pb.timestamp.getD 0) pb.seq pb.uuid :: pb.metrics.map .entry

variable (P) in
/-- The message and its entries bring their own timestamps. -/
def Stamped (body : BodyList) : Prop :=
  ∀ pb, read P body = some pb →
    pb.timestamp.isSome = true ∧ ∀ entry ∈ pb.metrics, entry.timestamp.isSome = true

theorem step_entry {pb : PbMetric} (h : pb.timestamp.isSome = true) (p : Payload P) :
    parseEntry false p pb = step p (.entry pb) := by
  obtain ⟨ts, hts⟩ := Option.isSome_iff_exists.mp h
  have hsource : ∀ source m, parseMetric P false source pb m = parseMetric P false 0 pb m := by
    intro source m
    simp [parseMetric, parseMetricHeader, hts]
  have hwrite : (DataStep.entry pb).write P = parseMetric P false p.getTimestamp pb := by
    funext m
    exact (hsource p.getTimestamp m).symm
  unfold step
  rw [hwrite]
  cases hfound : p.metricList.findFirst? (entryMatches P pb) with
  | some m => exact parseEntry_found hfound false
  | none =>
    rw [parseEntry_ignored hfound]
    exact payload_ext rfl rfl rfl rfl (Entries.updateFirst_of_none hfound _).symm

theorem run_entries {pbs : List PbMetric} (h : ∀ pb ∈ pbs, pb.timestamp.isSome = true)
    (p : Payload P) : pbs.foldl (parseEntry false) p = run step p (pbs.map .entry) := by
  induction pbs generalizing p with
  | nil => rfl
  | cons pb pbs ih =>
    rw [List.foldl_cons, step_entry (h pb List.mem_cons_self),
      ih fun c hc => h c (List.mem_cons_of_mem pb hc)]
    rfl

theorem step_store (body : BodyList) (p : Payload P) :
    step p (.store body) = { p with body := body } := by
  refine payload_ext rfl rfl rfl rfl (Entries.updateFirst_of_none ?_ _)
  exact Entries.findFirst?_eq_none.mpr fun _ _ => rfl

/-- A data message that is stored takes its steps, whatever the clock says. -/
theorem receiveProtobuf_eq_run {body : BodyList} (h : Stamped P body) (now : UInt64)
    (p : Payload P) : p.receiveProtobuf false now body = run step p (ofBody P body) := by
  have hreceived : p.receiveProtobuf false now body =
      (read P body).elim { p with body := body }
        fun pb => parseMessage false now pb { p with body := body } := by
    unfold Payload.receiveProtobuf Payload.receive Payload.parseSparkplugProtobuf parseProtobuf read
    by_cases hbody : body = []
    · simp [hbody]
    · simp only [if_neg hbody]
      cases (P.parseFromArray body).bind innerMessage <;> rfl
  rw [hreceived]
  unfold ofBody
  rw [run_cons, step_store]
  cases hread : read P body with
  | none => rfl
  | some pb =>
    obtain ⟨hstamp, hentries⟩ := h pb hread
    obtain ⟨ts, hts⟩ := Option.isSome_iff_exists.mp hstamp
    rw [Option.elim_some, parseMessage, run_entries hentries, run_cons, hts]
    congr 1
    unfold parseHeader
    rw [hts]
    rfl

end DataStep
end PubSub
