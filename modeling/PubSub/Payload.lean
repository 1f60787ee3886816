import PubSub.Metric

/-!
# Payloads

A payload owns a list of metrics sorted by name without regard to case, and a body
of bytes. The text and JSON generators live here; the protobuf ones are in the
payload helper. A metric object belongs to one payload.
-/

namespace PubSub
open DecimalText
set_option autoImplicit false

abbrev MetricList (P : Platform) := FoldedMap P.foldKey Metric

structure Payload (P : Platform) where
  uuid : Str := []
  timestamp : UInt64 := 0
  sequenceNumber : UInt64 := 0
  metricList : MetricList P := FoldedMap.empty
  body : BodyList := []

namespace Payload
variable {P : Platform}

def getMetric (p : Payload P) (name : Str) : Option Metric := p.metricList.get? name

def hasAlias (a : UInt64) : Str → Metric → Bool := fun _ m => a == m.aliasNumber

/-- `GetMetric(uint64_t)`: the first metric in name order with the alias. -/
def getMetricByAlias (p : Payload P) (a : UInt64) : Option Metric :=
  p.metricList.findFirst? (hasAlias a)

def updateMetric (p : Payload P) (name : Str) (f : Metric → Metric) : Payload P :=
  { p with metricList := p.metricList.update name f }

def getTimestamp (p : Payload P) : UInt64 :=
  match p.getMetric (str "timestamp") with
  | none => p.timestamp
  | some m => Text.valueUInt64 m.value

def setTimestamp (p : Payload P) (ms : UInt64) (setMetrics : Bool) : Payload P :=
  let p := { p with timestamp := ms }
  let p := p.updateMetric (str "timestamp") fun m => m.setInt ms.toNat
  if setMetrics then
    { p with metricList := p.metricList.mapValues fun _ m => { m with timestamp := ms } }
  else p

def createMetric (p : Payload P) (name : Str) : Payload P :=
  { p with metricList := p.metricList.insert name { name := name } }

def addMetric (p : Payload P) (m : Metric) : Payload P :=
  if m.name = [] then p else { p with metricList := p.metricList.insert m.name m }

def setBoolValue (p : Payload P) (name : Str) (v : Bool) : Payload P :=
  p.updateMetric name fun m => m.setBool v

def setUIntValue (p : Payload P) (name : Str) (v : UInt64) : Payload P :=
  p.updateMetric name fun m => m.setInt v.toNat

def setStringValue (p : Payload P) (name : Str) (v : Str) : Payload P :=
  p.updateMetric name fun m => m.setString P v

def getBoolValue (p : Payload P) (name : Str) : Bool :=
  match p.getMetric name with
  | none => false
  | some m => Text.valueBool m.value

def isUpdated (p : Payload P) : Bool := p.metricList.entries.any fun e => e.2.updated

def resetUpdated (p : Payload P) : Payload P :=
  { p with metricList := p.metricList.mapValues fun _ m => { m with updated := false } }

def setAllMetricsInvalid (p : Payload P) : Payload P :=
  { p with metricList := p.metricList.mapValues fun _ m => { m with valid := false } }

def stringToBody (p : Payload P) (text : Str) : Payload P := { p with body := text }

def bodyToString (p : Payload P) : Str := cString p.body

variable (P) in
/-- The JSON value of a metric, `none` for the datatypes that JSON leaves out. -/
def jsonValue (m : Metric) : Option JsonValue :=
  if m.isNull then some .null
  else match m.datatype with
    | .int8 | .int16 | .int32 | .int64 => some (.int64 (Text.valueInt64 m.value))
    | .uint8 | .uint16 | .uint32 | .uint64 => some (.uint64 (Text.valueUInt64 m.value))
    | .float | .double => some (.double (P.extractDouble m.value))
    | .boolean => some (.bool (Text.valueBool m.value))
    | .text | .string => some (.string m.value)
    | _ => none

/-- The object that `MakeJsonString` fills. -/
def jsonMembers (p : Payload P) : JsonMembers :=
  p.metricList.entries.filterMap fun e =>
    if e.1 = [] then none else (jsonValue P e.2).map fun v => (e.1, v)

def makeJsonString (p : Payload P) : Str := P.serializeJson p.jsonMembers

/-- What `MakeString` writes for a metric. -/
def stringField (m : Metric) : Str := if m.isNull then [42] else m.value

def makeString (p : Payload P) : Str :=
  List.intercalate [59] (p.metricList.entries.map fun e => stringField e.2)

def generateText (p : Payload P) : Payload P := p.stringToBody p.makeString

def generateJson (p : Payload P) : Payload P := p.stringToBody p.makeJsonString

def jsonType : JsonValue → MetricType
  | .bool _ => .boolean
  | .int64 _ => .int64
  | .uint64 _ => .uint64
  | .double _ => .double
  | _ => .string

variable (P) in
def setJsonValue (v : JsonValue) (m : Metric) : Metric :=
  match v with
  | .bool b => { m.setBool b with isNull := false }
  | .int64 i => { m.setInt i.toInt with isNull := false }
  | .uint64 u => { m.setInt u.toNat with isNull := false }
  | .double d => { m.setDouble P d with isNull := false }
  | .string s => { m.setString P s with isNull := false }
  | .null => { m with isNull := true }
  | _ => { m with datatype := .string }

/-- One turn of the loop in `ParseSparkplugJson`. -/
def parseJsonMember (createMetrics : Bool) (p : Payload P) (member : Str × JsonValue) :
    Payload P :=
  if member.1 = [] then p
  else match p.getMetric member.1 with
    | some _ => p.updateMetric member.1 (setJsonValue P member.2)
    | none =>
      if createMetrics then
        (p.createMetric member.1).updateMetric member.1 fun m =>
          setJsonValue P member.2 { m with datatype := jsonType member.2 }
      else p

def parseSparkplugJson (p : Payload P) (createMetrics : Bool) : Payload P :=
  match P.parseJson p.bodyToString with
  | none => p
  | some members => members.foldl (parseJsonMember createMetrics) p

def parseText (p : Payload P) : Payload P :=
  let text := p.bodyToString
  match p.metricList.entries with
  | [] =>
    (p.createMetric (str "Value")).updateMetric (str "Value") fun m =>
      { m with datatype := .string }.setString P text
  | e :: _ => p.updateMetric e.1 fun m => m.setString P text

end Payload
end PubSub
