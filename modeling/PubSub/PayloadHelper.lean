import PubSub.Payload

/-!
# The protobuf codec of payloads

`writeProtobuf` fills a protobuf message from a payload and stores its bytes in the
body; `parseProtobuf` reads the body back into the metrics. `writeAll` and
`createMetrics` are the two switches of the payload helper; payloads themselves
generate their protobuf body with `writeAll` off.
-/

namespace PubSub
open DecimalText
set_option autoImplicit false

namespace PayloadHelper
variable (P : Platform)

/-- The value switch of `WriteMetric`. -/
def metricValue (m : Metric) : PbValue :=
  match m.datatype with
  | .int8 | .int16 | .int32 => .intValue (Text.valueInt32 m.value).toUInt32
  | .int64 => .longValue (Text.valueInt64 m.value).toUInt64
  | .uint8 | .uint16 | .uint32 => .intValue (Text.valueUInt32 m.value)
  | .uint64 => .longValue (Text.valueUInt64 m.value)
  | .float => .floatValue (P.extractFloat m.value)
  | .double => .doubleValue (P.extractDouble m.value)
  | .boolean => .booleanValue (Text.valueBool m.value)
  | _ => .stringValue m.value

def propertyValue (p : MetricProperty) : PbPropertyArm :=
  match p.type with
  | .int8 | .int16 | .int32 => .intValue (Text.valueInt32 p.value).toUInt32
  | .int64 => .longValue (Text.valueInt64 p.value).toUInt64
  | .uint8 | .uint16 | .uint32 => .intValue (Text.valueUInt32 p.value)
  | .uint64 | .dateTime => .longValue (Text.valueUInt64 p.value)
  | .float => .floatValue (P.extractFloat p.value)
  | .double => .doubleValue (P.extractDouble p.value)
  | .boolean => .booleanValue (Text.valueBool p.value)
  | _ => .stringValue p.value

/-- `WritePropertySet`; `none` when nothing was written. -/
def writePropertySet (writeAll : Bool) (list : MetricPropertyList) : Option PbPropertySet :=
  let written := list.filter fun e => e.1 ≠ []
  if written = [] then none
  else some
    { keys := written.map Prod.fst
      values := written.map fun e =>
        .mk (if writeAll then some e.2.type.toUInt32 else none) (some e.2.isNull)
          (propertyValue P e.2) }

def writeMetric (writeAll : Bool) (m : Metric) : PbMetric where
  name := if writeAll ∨ m.aliasNumber = 0 then some m.name else none
  aliasNumber := some m.aliasNumber
  timestamp := some m.timestamp
  datatype := if writeAll then some m.datatype.toUInt32 else none
  isHistorical := some m.isHistorical
  isTransient := some m.isTransient
  isNull := some m.isNull
  properties := writePropertySet P writeAll m.propertyList
  value := metricValue P m

variable {P}

/-- A metric without a name in the list is never written. -/
def includes (writeAll : Bool) (e : Str × Metric) : Bool :=
  e.1 ≠ [] && (writeAll || e.2.updated)

def protobufOf (writeAll : Bool) (p : Payload P) : PbPayload where
  timestamp := some p.getTimestamp
  seq := some p.sequenceNumber
  uuid := if p.uuid = [] then none else some p.uuid
  metrics := (p.metricList.entries.filter (includes writeAll)).map fun e =>
    writeMetric P writeAll e.2

/-- A failed serialization clears the body; the updated flags are reset before it. -/
def writeProtobuf (writeAll : Bool) (p : Payload P) : Payload P :=
  { p with
    metricList := p.metricList.mapValues fun k m =>
      if includes writeAll (k, m) then { m with updated := false } else m
    body := (P.serializeToArray (protobufOf writeAll p)).getD [] }

def signedInt : MetricType → Bool
  | .int8 | .int16 | .int32 | .int64 => true
  | _ => false

def signedOrReal : MetricType → Bool
  | .int8 | .int16 | .int32 | .int64 | .float | .double => true
  | _ => false

mutual
def parsePropertyValue (P : Platform) (createMetrics : Bool) :
    PbPropertyValue → MetricProperty → MetricProperty
  | .mk _ isNull arm, property =>
    parsePropertyArm P createMetrics arm { property with isNull := isNull.getD false }

def parsePropertyArm (P : Platform) (createMetrics : Bool) :
    PbPropertyArm → MetricProperty → MetricProperty
  | .intValue v, property =>
    { property with value :=
        if signedOrReal property.type then intText v.toInt32.toInt else natText v.toNat }
  | .longValue v, property =>
    { property with value :=
        if signedOrReal property.type then intText v.toInt64.toInt else natText v.toNat }
  | .floatValue bits, property => { property with value := P.stdFloatText bits }
  | .doubleValue bits, property => { property with value := P.stdDoubleText bits }
  | .booleanValue v, property => { property with value := Text.ofBool v }
  | .stringValue v, property => { property with value := v }
  | .propertysetValue keys values, property =>
    match property.propArray with
    | [] =>
      if createMetrics then
        { property with
          value := []
          propArray := [parsePropertySet P createMetrics keys values []] }
      else property
    | first :: rest =>
      { property with
        propArray := parsePropertySet P createMetrics keys values first :: rest }
  | .notSet, property => property

/-- `ParsePropertySet`: a key without a value at its index is passed over. -/
def parsePropertySet (P : Platform) (createMetrics : Bool) :
    List Str → List PbPropertyValue → MetricPropertyList → MetricPropertyList
  | key :: keys, value :: values, list =>
    if key = [] then parsePropertySet P createMetrics keys values list
    else match Entries.get? P.foldKey key list with
      | some _ =>
        parsePropertySet P createMetrics keys values
          (Entries.updateFirst (Entries.sameKey P.foldKey key)
            (parsePropertyValue P createMetrics value) list)
      | none =>
        if createMetrics then
          parsePropertySet P createMetrics keys values
            (Entries.insert P.foldKey key
              (parsePropertyValue P createMetrics value { key := key }).copy list)
        else parsePropertySet P createMetrics keys values list
  | _, _, list => list
end

def parseMetaData (pb : PbMetaData) (m : MetricMetadata) : MetricMetadata where
  isMultiPart := pb.isMultiPart.getD m.isMultiPart
  contentType := pb.contentType.getD m.contentType
  size := pb.size.getD m.size
  sequenceNumber := pb.seq.getD m.sequenceNumber
  fileName := pb.fileName.getD m.fileName
  fileType := pb.fileType.getD m.fileType
  md5 := pb.md5.getD m.md5
  description := pb.description.getD m.description

variable (P)

def parseMetricValue (v : PbValue) (m : Metric) : Metric :=
  match v with
  | .intValue v => if signedInt m.datatype then m.setInt v.toInt32.toInt else m.setInt v.toNat
  | .longValue v => if signedInt m.datatype then m.setInt v.toInt64.toInt else m.setInt v.toNat
  | .floatValue bits => m.setFloat P bits
  | .doubleValue bits => m.setDouble P bits
  | .booleanValue v => m.setBool v
  | .stringValue v => m.setString P v
  | .bytesValue v => m.setString P v
  | .notSet => m

def parseMetricProperty (createMetrics : Bool) (m : Metric) (entry : Str × PbPropertyValue) :
    Metric :=
  if entry.1 = [] then m
  else match m.getProperty P entry.1 with
    | some _ => m.updateProperty P entry.1 (parsePropertyValue P createMetrics entry.2)
    | none =>
      if createMetrics then
        (m.createProperty P entry.1).updateProperty P entry.1 fun p =>
          parsePropertyValue P createMetrics entry.2
            (match entry.2 with
              | .mk (some type) _ _ => { p with type := MetricType.ofDataType type }
              | .mk none _ _ => p)
      else m

def parseMetricProperties (createMetrics : Bool) (pb : PbPropertySet) (m : Metric) : Metric :=
  (pb.keys.zip pb.values).foldl (parseMetricProperty P createMetrics) m

/-- Name, alias and datatype are filled in only while they are missing, and only with
`createMetrics`. The transient flag is read under the presence of the historical one. -/
def parseMetricHeader (createMetrics : Bool) (sourceTimestamp : UInt64) (pb : PbMetric)
    (m : Metric) : Metric :=
  { m with
    name := if m.name = [] && createMetrics then pb.name.getD m.name else m.name
    aliasNumber :=
      if m.aliasNumber = 0 && createMetrics then pb.aliasNumber.getD m.aliasNumber
      else m.aliasNumber
    datatype :=
      if m.datatype = .unknown && createMetrics then
        (pb.datatype.map MetricType.ofDataType).getD m.datatype
      else m.datatype
    timestamp := pb.timestamp.getD sourceTimestamp
    isHistorical := pb.isHistorical.getD false
    isTransient := if pb.isHistorical.isSome then pb.isTransient.getD false else false
    isNull := pb.isNull.getD false }

def parseMetric (createMetrics : Bool) (sourceTimestamp : UInt64) (pb : PbMetric)
    (m : Metric) : Metric :=
  let m := parseMetricHeader createMetrics sourceTimestamp pb m
  let m := parseMetricValue P pb.value m
  let m := match pb.metadata with
    | none => m
    | some md => { m with metaData := some (parseMetaData md (m.metaData.getD {})) }
  match pb.properties with
  | none => m
  | some ps => parseMetricProperties P createMetrics ps m

variable {P}

/-- The metric an entry of the message stands for, as a test on the metric list: by name
when the entry has one, else by alias. -/
def entryMatches (P : Platform) (pb : PbMetric) : Str → Metric → Bool :=
  match pb.name, pb.aliasNumber with
  | some name, _ => Entries.sameKey P.foldKey name
  | none, some a => Payload.hasAlias a
  | none, none => fun _ _ => false

def createdMetric (name : Str) (pb : PbMetric) : Metric :=
  { name := name
    aliasNumber := pb.aliasNumber.getD 0
    datatype := (pb.datatype.map MetricType.ofDataType).getD .unknown }

/-- `GetMetric` by the name of an entry, or else by its alias. -/
def findMetric (p : Payload P) (pb : PbMetric) : Option Metric :=
  match pb.name, pb.aliasNumber with
  | some name, _ => p.getMetric name
  | none, some a => p.getMetricByAlias a
  | none, none => none

theorem findMetric_eq (p : Payload P) (pb : PbMetric) :
    findMetric p pb = p.metricList.findFirst? (entryMatches P pb) := by
  unfold findMetric entryMatches
  cases pb.name with
  | some name => rfl
  | none =>
    cases pb.aliasNumber with
    | some a => rfl
    | none => exact (Entries.findFirst?_eq_none.mpr fun _ _ => rfl).symm

/-- One turn of the metric loop in `ParseProtobuf`. -/
def parseEntry (createMetrics : Bool) (p : Payload P) (pb : PbMetric) : Payload P :=
  match findMetric p pb with
  | some _ =>
    let parsed := parseMetric P createMetrics p.getTimestamp pb
    { p with metricList := p.metricList.updateFirst (entryMatches P pb) parsed }
  | none =>
    match pb.name with
    | none => p
    | some name =>
      if name ≠ [] ∧ createMetrics then
        let p := { p with metricList := p.metricList.insert name (createdMetric name pb) }
        p.updateMetric name (parseMetric P createMetrics p.getTimestamp pb)
      else p

def parseHeader (now : UInt64) (pb : PbPayload) (p : Payload P) : Payload P :=
  let p := p.setTimestamp (pb.timestamp.getD now) false
  { p with
    sequenceNumber := pb.seq.getD p.sequenceNumber
    uuid := pb.uuid.getD p.uuid }

def parseMessage (createMetrics : Bool) (now : UInt64) (pb : PbPayload) (p : Payload P) :
    Payload P :=
  pb.metrics.foldl (parseEntry createMetrics) (parseHeader now pb p)

/-- The bytes the parser reads a second time when the message has a body field. They are
a reference into the message, which is cleared before they are read. -/
def innerMessage (pb : PbPayload) : Option PbPayload :=
  if pb.body.isSome then P.parseFromArray [] else some pb

def parseProtobuf (createMetrics : Bool) (now : UInt64) (p : Payload P) : Payload P :=
  if p.body = [] then p
  else match (P.parseFromArray p.body).bind (innerMessage (P := P)) with
    | none => p
    | some pb => parseMessage createMetrics now pb p

variable (P)

theorem parseMetricProperty_eq (createMetrics : Bool) (m : Metric)
    (entry : Str × PbPropertyValue) : parseMetricProperty P createMetrics m entry =
      { m with
        propertyList := (parseMetricProperty P createMetrics m entry).propertyList } := by
  unfold parseMetricProperty
  split
  · rfl
  · cases m.getProperty P entry.1 with
    | none => cases createMetrics <;> rfl
    | some _ => rfl

theorem parseMetricProperties_eq (createMetrics : Bool) (pb : PbPropertySet) (m : Metric) :
    parseMetricProperties P createMetrics pb m =
      { m with
        propertyList := (parseMetricProperties P createMetrics pb m).propertyList } := by
  unfold parseMetricProperties
  induction pb.keys.zip pb.values generalizing m with
  | nil => rfl
  | cons entry entries ih =>
    rw [List.foldl_cons, ih, parseMetricProperty_eq]

/-- A value arm stores a text, beside a unit in the property list, or does nothing. -/
theorem parseMetricValue_frame (v : PbValue) (m : Metric) : parseMetricValue P v m = m ∨
    parseMetricValue P v m = { m.setText (parseMetricValue P v m).value with
      propertyList := (parseMetricValue P v m).propertyList } := by
  cases v with
  | notSet => exact Or.inl rfl
  | stringValue v => exact Or.inr (m.setString_frame P v)
  | bytesValue v => exact Or.inr (m.setString_frame P v)
  | intValue v =>
    dsimp only [parseMetricValue]
    split <;> exact Or.inr rfl
  | longValue v =>
    dsimp only [parseMetricValue]
    split <;> exact Or.inr rfl
  | _ => exact Or.inr rfl

theorem parseMetricValue_identity (v : PbValue) (m : Metric) :
    (parseMetricValue P v m).identity = m.identity := by
  rcases parseMetricValue_frame P v m with hsame | hstored
  · rw [hsame]
  · rw [hstored]
    rfl

theorem parseMetric_identity (createMetrics : Bool) (sourceTimestamp : UInt64) (pb : PbMetric)
    (m : Metric) : (parseMetric P createMetrics sourceTimestamp pb m).identity =
      (parseMetricHeader createMetrics sourceTimestamp pb m).identity := by
  have hvalue := parseMetricValue_identity P pb.value
    (parseMetricHeader createMetrics sourceTimestamp pb m)
  have hmeta : ∀ metric : Metric, (match pb.metadata with
      | none => metric
      | some md => { metric with metaData := some (parseMetaData md (metric.metaData.getD {})) }
      ).identity = metric.identity := by
    intro metric
    cases pb.metadata <;> rfl
  unfold parseMetric
  dsimp only
  split
  · exact (hmeta _).trans hvalue
  · rw [parseMetricProperties_eq]
    exact (hmeta _).trans hvalue

theorem parseMetric_value (createMetrics : Bool) (sourceTimestamp : UInt64) (pb : PbMetric)
    (m : Metric) : (parseMetric P createMetrics sourceTimestamp pb m).value =
      (parseMetricValue P pb.value
        (parseMetricHeader createMetrics sourceTimestamp pb m)).value := by
  unfold parseMetric
  dsimp only
  cases pb.properties with
  | none => cases pb.metadata <;> rfl
  | some ps =>
    dsimp only
    rw [parseMetricProperties_eq]
    cases pb.metadata <;> rfl

variable {P}

theorem parseEntry_found {p : Payload P} {pb : PbMetric} {m : Metric}
    (h : p.metricList.findFirst? (entryMatches P pb) = some m) (createMetrics : Bool) :
    parseEntry createMetrics p pb = { p with
      metricList := p.metricList.updateFirst (entryMatches P pb)
        (parseMetric P createMetrics p.getTimestamp pb) } := by
  unfold parseEntry
  rw [findMetric_eq, h]

theorem parseEntry_created {p : Payload P} {pb : PbMetric} {name : Str}
    (hname : pb.name = some name) (hne : name ≠ []) (h : p.getMetric name = none) :
    parseEntry true p pb =
      let q : Payload P :=
        { p with metricList := p.metricList.insert name (createdMetric name pb) }
      q.updateMetric name (parseMetric P true q.getTimestamp pb) := by
  have hmatch : entryMatches P pb = Entries.sameKey P.foldKey name := by
    simp [entryMatches, hname]
  have hnone : p.metricList.findFirst? (entryMatches P pb) = none := by
    rw [hmatch]
    exact h
  unfold parseEntry
  rw [findMetric_eq, hnone, hname]
  exact if_pos ⟨hne, rfl⟩

/-- Nothing, a change of the metric the entry stands for, or a new metric. -/
theorem parseEntry_cases (createMetrics : Bool) (p : Payload P) (pb : PbMetric) :
    parseEntry createMetrics p pb = p ∨
    parseEntry createMetrics p pb = { p with
      metricList := p.metricList.updateFirst (entryMatches P pb)
        (parseMetric P createMetrics p.getTimestamp pb) } ∨
    ∃ name, pb.name = some name ∧ parseEntry createMetrics p pb =
      let q : Payload P :=
        { p with metricList := p.metricList.insert name (createdMetric name pb) }
      q.updateMetric name (parseMetric P createMetrics q.getTimestamp pb) := by
  cases h : p.metricList.findFirst? (entryMatches P pb) with
  | some m => exact .inr (.inl (parseEntry_found h createMetrics))
  | none =>
    unfold parseEntry
    rw [findMetric_eq, h]
    cases hname : pb.name with
    | none => exact .inl rfl
    | some name =>
      dsimp only
      split
      · exact .inr (.inr ⟨name, rfl, rfl⟩)
      · exact .inl rfl

/-- An entry for a metric that is not there creates nothing in a data message. -/
theorem parseEntry_ignored {p : Payload P} {pb : PbMetric}
    (h : p.metricList.findFirst? (entryMatches P pb) = none) : parseEntry false p pb = p := by
  unfold parseEntry
  rw [findMetric_eq, h]
  cases pb.name with
  | none => rfl
  | some name => simp

end PayloadHelper

namespace Payload
variable {P : Platform}

def generateProtobuf (p : Payload P) : Payload P := PayloadHelper.writeProtobuf false p

def parseSparkplugProtobuf (p : Payload P) (createMetrics : Bool) (now : UInt64) : Payload P :=
  PayloadHelper.parseProtobuf createMetrics now p

end Payload
end PubSub
