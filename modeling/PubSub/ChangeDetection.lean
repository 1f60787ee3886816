import PubSub.EchoRace
import PubSub.TextRoundTrip
import PubSub.Shared.FlaggedCell

/-!
# What the update flag of a metric tells

A metric is published by its updated flag. The setters of the value raise it when the text
changes; the setter of the null flag does not raise it. So a change since the last reset goes
unseen exactly where the null flag has changed and every stored text was the old one.
-/

namespace PubSub
set_option autoImplicit false

/-- The calls that set the value or the null flag of a metric. -/
inductive SetterCall where
  | value (v : TypedValue)
  | view (text : Str)
  -- a `const char*`, which may be null
  | chars (text : Option Str)
  | isNull (null : Bool)

def decimalPoint (text : Str) : Str :=
  if text.idxOf 44 < text.length then text.set (text.idxOf 44) 46 else text

/-- The text that a typed setter stores in a metric of the datatype. -/
def TypedValue.storedText (P : Platform) (type : MetricType) : TypedValue → Str
  | .float bits => decimalPoint (P.floatToString bits)
  | .double bits => decimalPoint (P.doubleToString bits)
  | .text t => type.valueText t
  | v => v.asText

namespace SetterCall

def storedText (P : Platform) (type : MetricType) : SetterCall → Option Str
  | .value v => some (v.storedText P type)
  | .view text => some text
  | .chars text => some (cString (text.getD []))
  | .isNull _ => none

def nullFlag : SetterCall → Option Bool
  | .isNull null => some null
  | _ => none

end SetterCall

namespace Metric
variable (P : Platform)

def call (m : Metric) : SetterCall → Metric
  | .value v => m.setValue P v
  | .view text => m.setText text
  | .chars none => m.setText []
  | .chars (some text) => m.setText (cString text)
  | .isNull null => { m with isNull := null }

def resetUpdated (m : Metric) : Metric := { m with updated := false }

def emitted (m : Metric) : PbValue × Option Bool :=
  let pb := PayloadHelper.writeMetric P false m
  (pb.value, pb.isNull)

/-- A change of what is emitted since the reset is seen in the updated flag. -/
def DetectsChange (m : Metric) (calls : List SetterCall) : Prop :=
  let now := run (call P) m.resetUpdated calls
  now.emitted P ≠ m.resetUpdated.emitted P → now.updated = true

/-- The null flag after the calls. -/
def lastNull (calls : List SetterCall) (m : Metric) : Bool :=
  ((calls.filterMap SetterCall.nullFlag).getLast?).getD m.isNull

variable {P}

theorem setValue_stored (m : Metric) (v : TypedValue) :
    (m.setValue P v).value = v.storedText P m.datatype ∧
      (m.setValue P v).updated = (m.updated || v.storedText P m.datatype != m.value) ∧
      (m.setValue P v).isNull = m.isNull ∧ (m.setValue P v).datatype = m.datatype := by
  have htype : (m.setValue P v).datatype = m.datatype :=
    congrArg (fun i => i.2.2) (setValue_identity v m)
  cases v with
  | text t => exact ⟨(setString_text m t).1, (setString_text m t).2, setString_isNull P m t, htype⟩
  | _ => exact ⟨rfl, rfl, rfl, htype⟩

theorem tracks_call (type : MetricType) : Tracks (call P) (fun m => m.datatype = type)
    (SetterCall.storedText P type) Metric.value Metric.updated where
  inv_step m c hm := by
    cases c with
    | value v => exact (setValue_stored m v).2.2.2.trans hm
    | view text => exact hm
    | chars text => cases text <;> exact hm
    | isNull null => exact hm
  value_step m c hm := by
    cases c with
    | value v => exact hm ▸ (setValue_stored m v).1
    | view text => rfl
    | chars text => cases text <;> rfl
    | isNull null => rfl
  flag_step m c hm := by
    have htext : ∀ text : Str, (text != m.value) = decide (text ≠ m.value) := by
      intro text
      rw [bne, Bool.beq_eq_decide_eq, decide_not]
    cases c with
    | value v =>
      refine (hm ▸ (setValue_stored m v).2.1).trans ?_
      exact congrArg (m.updated || ·) (htext _)
    | view text => exact congrArg (m.updated || ·) (htext _)
    | chars text => cases text <;> exact congrArg (m.updated || ·) (htext _)
    | isNull null => simp [call, SetterCall.storedText]

/-- The last call of the null setter decides, and no other call touches the flag. -/
theorem isNull_run (calls : List SetterCall) (m : Metric) :
    (run (call P) m calls).isNull = lastNull calls m := by
  induction calls generalizing m with
  | nil => rfl
  | cons c calls ih =>
    rw [run_cons, ih]
    unfold lastNull
    cases c with
    | value v =>
      rw [List.filterMap_cons_none (by rfl)]
      exact congrArg _ (setValue_stored m v).2.2.1
    | view text => rfl
    | chars text => cases text <;> rfl
    | isNull null =>
      rw [List.filterMap_cons_some (by rfl), List.getLast?_cons]
      rfl

theorem emitted_congr {m n : Metric} (htype : m.datatype = n.datatype)
    (hvalue : m.value = n.value) (hnull : m.isNull = n.isNull) : m.emitted P = n.emitted P := by
  have hemitted : PayloadHelper.metricValue P m = PayloadHelper.metricValue P n := by
    unfold PayloadHelper.metricValue
    rw [htype, hvalue]
  exact congrArg₂ Prod.mk hemitted (congrArg some hnull)

/-- A change of what would be emitted is seen exactly where the null flag ends as it was at the
reset, or a setter has stored another text than the one at the reset. -/
theorem detectsChange_iff (P : Platform) (m : Metric) (calls : List SetterCall) :
    m.DetectsChange P calls ↔
      lastNull calls m = m.isNull ∨
        ∃ text ∈ calls.filterMap (SetterCall.storedText P m.datatype), text ≠ m.value := by
  have htracks := tracks_call (P := P) m.datatype
  have hflag := htracks.flag_run (s := m.resetUpdated) rfl calls
  have hnull := isNull_run (P := P) calls m.resetUpdated
  have hkept := run_preserves htracks.inv_step calls (s := m.resetUpdated) rfl
  have hvalue : (run (call P) m.resetUpdated calls).updated = false →
      (run (call P) m.resetUpdated calls).value = m.value :=
    fun hdown => htracks.value_run (s := m.resetUpdated) rfl hdown
  unfold DetectsChange
  dsimp only
  generalize run (call P) m.resetUpdated calls = now at hflag hnull hkept hvalue ⊢
  have hraised : now.updated = true ↔
      ∃ text ∈ calls.filterMap (SetterCall.storedText P m.datatype), text ≠ m.value := by
    rw [hflag]
    exact or_iff_right Bool.false_ne_true
  rw [← hraised]
  constructor
  · intro hdetects
    by_cases hsame : lastNull calls m = m.isNull
    · exact Or.inl hsame
    · refine Or.inr (hdetects fun hemitted => hsame ?_)
      exact hnull.symm.trans (Option.some.inj (congrArg Prod.snd hemitted))
  · rintro (hsame | hup) hchanged
    · by_contra hdown
      exact hchanged (emitted_congr hkept (hvalue (Bool.eq_false_iff.mpr hdown))
        (hnull.trans hsame))
    · exact hup

theorem null_goes_unseen :
    let m : Metric := { name := str "m", datatype := .int32, value := str "5" }
    ¬ m.DetectsChange Platform.reference [.isNull true] := by
  intro m h
  have hup := h (by decide +kernel)
  revert hup
  decide +kernel

end Metric
end PubSub
