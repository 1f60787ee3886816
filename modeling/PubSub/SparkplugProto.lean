import Mathlib.Data.List.Basic

/-!
# The messages of `sparkplug_b.proto`

Strings are byte strings and `float`/`double` fields are their bit patterns. The
arms of a `oneof` that no parser of the library reads (data sets, templates,
property set lists, extensions) are left out.
-/

namespace PubSub
set_option autoImplicit false

abbrev Str := List UInt8

/-- The tests of membership in lists of strings all use this one. -/
instance : LawfulBEq Str := inferInstance

abbrev BodyList := List UInt8

/-- The bytes of an ASCII literal. -/
def str (s : String) : Str := s.toList.map Char.toUInt8

mutual
inductive PbPropertyValue where
  | mk (type : Option UInt32) (isNull : Option Bool) (value : PbPropertyArm)

inductive PbPropertyArm where
  | notSet
  | intValue (v : UInt32)
  | longValue (v : UInt64)
  | floatValue (bits : UInt32)
  | doubleValue (bits : UInt64)
  | booleanValue (v : Bool)
  | stringValue (v : Str)
  | propertysetValue (keys : List Str) (values : List PbPropertyValue)
end

structure PbPropertySet where
  keys : List Str := []
  values : List PbPropertyValue := []

structure PbMetaData where
  isMultiPart : Option Bool := none
  contentType : Option Str := none
  size : Option UInt64 := none
  seq : Option UInt64 := none
  fileName : Option Str := none
  fileType : Option Str := none
  md5 : Option Str := none
  description : Option Str := none
  deriving DecidableEq

inductive PbValue where
  | notSet
  | intValue (v : UInt32)
  | longValue (v : UInt64)
  | floatValue (bits : UInt32)
  | doubleValue (bits : UInt64)
  | booleanValue (v : Bool)
  | stringValue (v : Str)
  | bytesValue (v : Str)
  deriving DecidableEq

structure PbMetric where
  name : Option Str := none
  aliasNumber : Option UInt64 := none
  timestamp : Option UInt64 := none
  datatype : Option UInt32 := none
  isHistorical : Option Bool := none
  isTransient : Option Bool := none
  isNull : Option Bool := none
  metadata : Option PbMetaData := none
  properties : Option PbPropertySet := none
  value : PbValue := .notSet

structure PbPayload where
  timestamp : Option UInt64 := none
  metrics : List PbMetric := []
  seq : Option UInt64 := none
  uuid : Option Str := none
  body : Option BodyList := none

end PubSub
