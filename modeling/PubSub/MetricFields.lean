import PubSub.PayloadHelper
import PubSub.Reference

/-!
# The optional fields of a metric message

`ParseMetric` reads each optional field under a presence test of its own, with one exception:
the transient flag is read under the presence of the historical one. So every field is decoded
from itself alone, unless a message sets the transient flag and leaves the historical one out.
-/

namespace PubSub
set_option autoImplicit false

/-- The optional fields of a metric message and of the metadata in it. -/
inductive OptionalField where
  | timestamp | isHistorical | isTransient | isNull
  | isMultiPart | contentType | size | sequenceNumber | fileName | fileType | md5 | description
  deriving DecidableEq

namespace OptionalField

def Value : OptionalField → Type
  | .timestamp | .size | .sequenceNumber => UInt64
  | .isHistorical | .isTransient | .isNull | .isMultiPart => Bool
  | .contentType | .fileName | .fileType | .md5 | .description => Str

def inMessage (pb : PbMetric) : (f : OptionalField) → Option f.Value
  | .timestamp => pb.timestamp
  | .isHistorical => pb.isHistorical
  | .isTransient => pb.isTransient
  | .isNull => pb.isNull
  | .isMultiPart => pb.metadata.bind PbMetaData.isMultiPart
  | .contentType => pb.metadata.bind PbMetaData.contentType
  | .size => pb.metadata.bind PbMetaData.size
  | .sequenceNumber => pb.metadata.bind PbMetaData.seq
  | .fileName => pb.metadata.bind PbMetaData.fileName
  | .fileType => pb.metadata.bind PbMetaData.fileType
  | .md5 => pb.metadata.bind PbMetaData.md5
  | .description => pb.metadata.bind PbMetaData.description

/-- A metric without metadata reads as one with the metadata of a new object. -/
def ofMetric (m : Metric) : (f : OptionalField) → f.Value
  | .timestamp => m.timestamp
  | .isHistorical => m.isHistorical
  | .isTransient => m.isTransient
  | .isNull => m.isNull
  | .isMultiPart => (m.metaData.getD {}).isMultiPart
  | .contentType => (m.metaData.getD {}).contentType
  | .size => (m.metaData.getD {}).size
  | .sequenceNumber => (m.metaData.getD {}).sequenceNumber
  | .fileName => (m.metaData.getD {}).fileName
  | .fileType => (m.metaData.getD {}).fileType
  | .md5 => (m.metaData.getD {}).md5
  | .description => (m.metaData.getD {}).description

/-- What an absent field stands for: the time of the payload, no flag, or metadata as it was. -/
def absent (sourceTimestamp : UInt64) (m : Metric) : (f : OptionalField) → f.Value
  | .timestamp => sourceTimestamp
  | .isHistorical | .isTransient | .isNull => false
  | f => f.ofMetric m

end OptionalField

def Metric.optionalPart (m : Metric) : UInt64 × Bool × Bool × Bool × Option MetricMetadata :=
  (m.timestamp, m.isHistorical, m.isTransient, m.isNull, m.metaData)

namespace PayloadHelper
variable {P : Platform}

theorem optionalPart_parseMetricValue (v : PbValue) (m : Metric) :
    (parseMetricValue P v m).optionalPart = m.optionalPart := by
  rcases parseMetricValue_frame P v m with hsame | hstored
  · rw [hsame]
  · rw [hstored]
    rfl

def parseMetaDataOf (pb : PbMetric) (m : Metric) : Metric :=
  match pb.metadata with
  | none => m
  | some md => { m with metaData := some (parseMetaData md (m.metaData.getD {})) }

theorem ofMetric_parseMetric (createMetrics : Bool) (sourceTimestamp : UInt64) (pb : PbMetric)
    (m : Metric) (f : OptionalField) :
    f.ofMetric (parseMetric P createMetrics sourceTimestamp pb m) =
      f.ofMetric (parseMetaDataOf pb (parseMetricValue P pb.value
        (parseMetricHeader createMetrics sourceTimestamp pb m))) := by
  unfold parseMetric parseMetaDataOf
  dsimp only
  cases pb.properties with
  | none => rfl
  | some ps =>
    dsimp only
    rw [parseMetricProperties_eq]
    cases f <;> rfl

theorem ofMetric_parsed (createMetrics : Bool) (sourceTimestamp : UInt64) (pb : PbMetric)
    (m : Metric) (f : OptionalField) :
    f.ofMetric (parseMetric P createMetrics sourceTimestamp pb m) =
      if f = .isTransient ∧ pb.isHistorical = none then f.absent sourceTimestamp m
      else (f.inMessage pb).getD (f.absent sourceTimestamp m) := by
  have hvalue := optionalPart_parseMetricValue (P := P) pb.value
    (parseMetricHeader createMetrics sourceTimestamp pb m)
  rw [ofMetric_parseMetric]
  generalize parseMetricValue P pb.value
    (parseMetricHeader createMetrics sourceTimestamp pb m) = valued at hvalue ⊢
  simp only [Metric.optionalPart, Prod.mk.injEq] at hvalue
  obtain ⟨htime, hhistorical, htransient, hnull, hmeta⟩ := hvalue
  have hheader : (parseMetaDataOf pb valued).timestamp = valued.timestamp ∧
      (parseMetaDataOf pb valued).isHistorical = valued.isHistorical ∧
      (parseMetaDataOf pb valued).isTransient = valued.isTransient ∧
      (parseMetaDataOf pb valued).isNull = valued.isNull := by
    unfold parseMetaDataOf
    cases pb.metadata <;> exact ⟨rfl, rfl, rfl, rfl⟩
  cases f with
  | timestamp =>
    rw [if_neg (fun h => nomatch h.1)]
    exact hheader.1.trans htime
  | isHistorical =>
    rw [if_neg (fun h => nomatch h.1)]
    exact hheader.2.1.trans hhistorical
  | isNull =>
    rw [if_neg (fun h => nomatch h.1)]
    exact hheader.2.2.2.trans hnull
  | isTransient =>
    refine (hheader.2.2.1.trans htransient).trans ?_
    dsimp only [parseMetricHeader]
    cases pb.isHistorical with
    | none => rfl
    | some _ => exact (if_neg (fun h => nomatch h.2)).symm
  | _ =>
    rw [if_neg (fun h => nomatch h.1)]
    unfold parseMetaDataOf OptionalField.inMessage
    cases pb.metadata with
    | none =>
      dsimp only [OptionalField.ofMetric, Option.bind_none, Option.getD_none]
      rw [hmeta]
      rfl
    | some md =>
      dsimp only [OptionalField.ofMetric, Option.bind_some, parseMetaData, Option.getD_some]
      rw [hmeta]
      rfl

/-- Every optional field is decoded as the message has it, or as its default. -/
def DecodesFields (P : Platform) (createMetrics : Bool) (sourceTimestamp : UInt64)
    (pb : PbMetric) (m : Metric) : Prop :=
  ∀ f : OptionalField, f.ofMetric (parseMetric P createMetrics sourceTimestamp pb m) =
    (f.inMessage pb).getD (f.absent sourceTimestamp m)

/-- Two messages that agree in a field, whatever else they differ in, give it one value. -/
def DecodesAlone (P : Platform) (createMetrics : Bool) (sourceTimestamp : UInt64)
    (pb pb' : PbMetric) (m : Metric) : Prop :=
  ∀ f : OptionalField, f.inMessage pb = f.inMessage pb' →
    f.ofMetric (parseMetric P createMetrics sourceTimestamp pb m) =
      f.ofMetric (parseMetric P createMetrics sourceTimestamp pb' m)

/-- The transient flag of a message is lost. -/
def LosesTransient (pb : PbMetric) : Prop :=
  pb.isTransient = some true ∧ pb.isHistorical = none

theorem decodesFields_iff (createMetrics : Bool) (sourceTimestamp : UInt64) (pb : PbMetric)
    (m : Metric) :
    DecodesFields P createMetrics sourceTimestamp pb m ↔ ¬ LosesTransient pb := by
  constructor
  · rintro h ⟨htransient, hhistorical⟩
    have hlost := ofMetric_parsed (P := P) createMetrics sourceTimestamp pb m .isTransient
    rw [if_pos ⟨rfl, hhistorical⟩] at hlost
    have hset := hlost.symm.trans (h .isTransient)
    dsimp only [OptionalField.inMessage] at hset
    rw [htransient] at hset
    exact Bool.false_ne_true hset
  · intro h f
    rw [ofMetric_parsed]
    split
    · rename_i hand
      obtain ⟨rfl, hhistorical⟩ := hand
      dsimp only [OptionalField.inMessage]
      cases htransient : pb.isTransient with
      | none => rfl
      | some transient =>
        cases transient with
        | false => rfl
        | true => exact absurd ⟨htransient, hhistorical⟩ h
    · rfl

theorem isTransient_parsed (createMetrics : Bool) (sourceTimestamp : UInt64) (pb : PbMetric)
    (m : Metric) : (parseMetric P createMetrics sourceTimestamp pb m).isTransient = true ↔
      pb.isTransient = some true ∧ ¬ LosesTransient pb := by
  have hparsed : (parseMetric P createMetrics sourceTimestamp pb m).isTransient =
      if pb.isHistorical = none then false else pb.isTransient.getD false := by
    have h := ofMetric_parsed (P := P) createMetrics sourceTimestamp pb m .isTransient
    simp only [true_and] at h
    exact h
  have hset : pb.isTransient.getD false = true ↔ pb.isTransient = some true := by
    cases pb.isTransient <;> simp
  rw [hparsed]
  unfold LosesTransient
  split
  · rename_i hnone
    simp [hnone]
  · rename_i hsome
    rw [hset]
    simp [hsome]

theorem decodesAlone_iff (createMetrics : Bool) (sourceTimestamp : UInt64) (pb pb' : PbMetric)
    (m : Metric) : DecodesAlone P createMetrics sourceTimestamp pb pb' m ↔
      (pb.isTransient = pb'.isTransient → (LosesTransient pb ↔ LosesTransient pb')) := by
  have hparsed := isTransient_parsed (P := P) createMetrics sourceTimestamp pb m
  have hparsed' := isTransient_parsed (P := P) createMetrics sourceTimestamp pb' m
  constructor
  · intro h hsame
    have hdecoded : (parseMetric P createMetrics sourceTimestamp pb m).isTransient =
        (parseMetric P createMetrics sourceTimestamp pb' m).isTransient := h .isTransient hsame
    rw [hdecoded, hparsed', ← hsame] at hparsed
    by_cases hset : pb.isTransient = some true
    · simp only [hset, true_and] at hparsed
      exact (not_iff_not.mp hparsed).symm
    · have hset' : pb'.isTransient ≠ some true := hsame ▸ hset
      exact iff_of_false (fun hlost => hset hlost.1) (fun hlost => hset' hlost.1)
  · intro h f hf
    by_cases htransient : f = .isTransient
    · subst htransient
      have hsame : pb.isTransient = pb'.isTransient := hf
      apply Bool.eq_iff_iff.mpr
      change (parseMetric P createMetrics sourceTimestamp pb m).isTransient = true ↔
        (parseMetric P createMetrics sourceTimestamp pb' m).isTransient = true
      rw [hparsed, hparsed', ← hsame, h hsame]
    · rw [ofMetric_parsed, ofMetric_parsed, if_neg (fun hand => htransient hand.1),
        if_neg (fun hand => htransient hand.1), hf]

/-- The optional fields are decoded one by one exactly where the transient flag is not set
without the historical one, and no other field of the message plays a part in a field exactly
where the messages lose that flag both or neither. -/
theorem optional_fields_decode_iff (P : Platform) (createMetrics : Bool)
    (sourceTimestamp : UInt64) (m : Metric) :
    (∀ pb, DecodesFields P createMetrics sourceTimestamp pb m ↔ ¬ LosesTransient pb) ∧
    ∀ pb pb', DecodesAlone P createMetrics sourceTimestamp pb pb' m ↔
      (pb.isTransient = pb'.isTransient → (LosesTransient pb ↔ LosesTransient pb')) :=
  ⟨fun pb => decodesFields_iff createMetrics sourceTimestamp pb m,
    fun pb pb' => decodesAlone_iff createMetrics sourceTimestamp pb pb' m⟩

theorem transient_flag_is_lost :
    let pb : PbMetric := { isTransient := some true }
    let m : Metric := { name := str "m", datatype := .int32 }
    (parseMetric Platform.reference false 5 pb m).isTransient = false ∧
      (parseMetric Platform.reference false 5
        { pb with isHistorical := some false } m).isTransient = true := by
  decide +kernel

end PayloadHelper
end PubSub
