import PubSub.Metric
import PubSub.Shared.FlaggedCell

/-!
# Writers of metric values

`Value(T)` takes two steps: it stores the text while it holds the mutex of the metric, and
raises the updated flag later, if the text is another one. Any number of calls may be between
their two steps. A metric is an object that all callers share, so it goes by its place in the
list of its payload, which does not change here.
-/

namespace PubSub
set_option autoImplicit false

namespace Metric

def storeText (text : Str) (m : Metric) : Metric := { m with value := text }

def raiseUpdated (updated : Bool) (m : Metric) : Metric :=
  { m with valid := true, updated := m.updated || updated }

end Metric

/-- A call of `Value` between its two steps. -/
structure ValueCall where
  index : Nat
  updated : Bool
  deriving DecidableEq

structure Writers where
  metrics : List (Str × Metric)
  calls : List ValueCall := []

namespace Writers

def onMetric (i : Nat) (f : Metric → Metric) (w : Writers) : Writers :=
  { w with metrics := w.metrics.modify i fun e => (e.1, f e.2) }

def store (i : Nat) (text : Str) (w : Writers) : Writers :=
  match w.metrics[i]? with
  | none => w
  | some e =>
    { w.onMetric i (Metric.storeText text) with
      calls := w.calls ++ [⟨i, text != e.2.value⟩] }

def raise (j : Nat) (w : Writers) : Writers :=
  match w.calls[j]? with
  | none => w
  | some c =>
    { w.onMetric c.index (Metric.raiseUpdated c.updated) with calls := w.calls.eraseIdx j }

/-- The text is another one than the metric has. -/
def Changes (i : Nat) (text : Str) (w : Writers) : Prop :=
  ∃ e, w.metrics[i]? = some e ∧ text ≠ e.2.value

/-- A place without a metric counts as flagged: nothing is ever to be sent for it. -/
def flagged (w : Writers) (i : Nat) : Bool := (w.metrics[i]?.map fun e => e.2.updated).getD true

def pending (w : Writers) (i : Nat) : Bool := w.calls.any fun c => c.index == i && c.updated

theorem modify_append_cons (f : Str × Metric → Str × Metric) (pre : List (Str × Metric))
    (e : Str × Metric) (post : List (Str × Metric)) :
    (pre ++ e :: post).modify pre.length f = pre ++ f e :: post := by
  induction pre with
  | nil => rfl
  | cons a pre ih =>
    rw [List.cons_append, List.length_cons, List.modify_succ_cons, ih]
    rfl

theorem onMetric_self (w : Writers) (i : Nat) (f : Metric → Metric) :
    (w.onMetric i f).metrics[i]? = w.metrics[i]?.map fun e => (e.1, f e.2) := by
  simp [onMetric]

theorem onMetric_ne {i j : Nat} (h : i ≠ j) (w : Writers) (f : Metric → Metric) :
    (w.onMetric i f).metrics[j]? = w.metrics[j]? := by
  simp [onMetric, h]

/-- What no step changes of a metric. -/
def data (e : Str × Metric) : Str × Bool × MetricType := (e.1, e.2.isNull, e.2.datatype)

theorem onMetric_data {f : Metric → Metric} (hf : ∀ e : Str × Metric, data (e.1, f e.2) = data e)
    (i : Nat) (w : Writers) : (w.onMetric i f).metrics.map data = w.metrics.map data := by
  apply List.ext_getElem?
  intro j
  rw [List.getElem?_map, List.getElem?_map]
  by_cases hj : i = j
  · subst hj
    rw [onMetric_self, Option.map_map]
    congr 1
    funext e
    exact hf e
  · rw [onMetric_ne hj]

theorem store_data (i : Nat) (text : Str) (w : Writers) :
    (w.store i text).metrics.map data = w.metrics.map data := by
  unfold store
  cases w.metrics[i]? with
  | none => rfl
  | some e => exact onMetric_data (fun _ => rfl) i w

theorem raise_data (j : Nat) (w : Writers) :
    (w.raise j).metrics.map data = w.metrics.map data := by
  unfold raise
  cases w.calls[j]? with
  | none => rfl
  | some c => exact onMetric_data (fun _ => rfl) c.index w

/-- The two steps of a call, one right after the other, are the setter. -/
theorem store_raise (w : Writers) (i : Nat) (text : Str) :
    (w.store i text).raise w.calls.length = w.onMetric i fun m => m.setText text := by
  unfold store
  cases hi : w.metrics[i]? with
  | none =>
    have hlength := List.getElem?_eq_none_iff.mp hi
    simp [raise, onMetric, List.modify_eq_self hlength]
  | some e =>
    have hcall : ∀ c : ValueCall, (w.calls ++ [c])[w.calls.length]? = some c := by
      intro c
      rw [List.getElem?_append_right (Nat.le_refl _), Nat.sub_self]
      rfl
    have hrest : ∀ c : ValueCall, (w.calls ++ [c]).eraseIdx w.calls.length = w.calls := by
      intro c
      rw [List.eraseIdx_append_of_length_le (Nat.le_refl _), Nat.sub_self]
      exact List.append_nil _
    unfold raise
    dsimp only
    rw [hcall, hrest]
    unfold onMetric
    dsimp only
    congr 1
    apply List.ext_getElem?
    intro j
    by_cases hj : i = j
    · subst hj
      simp [hi, Metric.setText, Metric.storeText, Metric.raiseUpdated]
    · simp [hj]

section Cell
variable {V : Type} (view : Str × Metric → V)

/-- A metric as a cell. What is due and what was copied is up to the publisher. -/
def cell (w : Writers) (due : Bool) (copy : Option (Option V)) (i : Nat) : Cell (Option V) where
  value := w.metrics[i]?.map view
  flagged := w.flagged i
  pending := w.pending i
  due := due
  copy := copy

theorem cell_congr {v w : Writers} {i : Nat} (hmetric : v.metrics[i]? = w.metrics[i]?)
    (hpending : v.pending i = w.pending i) (due : Bool) (copy : Option (Option V)) :
    v.cell view due copy i = w.cell view due copy i := by
  unfold cell flagged
  rw [hmetric, hpending]

theorem pending_append (w : Writers) (metrics : List (Str × Metric)) (i : Nat) (updated : Bool)
    (j : Nat) : ({ metrics := metrics, calls := w.calls ++ [⟨i, updated⟩] } : Writers).pending j =
      (w.pending j || (i == j && updated)) := by
  simp [pending]

variable (due : Bool) (copy : Option (Option V))

theorem store_changes {w : Writers} {i : Nat} {text : Str} (h : w.Changes i text) :
    (w.store i text).pending i = true := by
  obtain ⟨e, he, htext⟩ := h
  unfold store
  rw [he]
  dsimp only
  rw [pending_append]
  simp [htext]

theorem store_step (w : Writers) (i : Nat) (text : Str) (j : Nat) :
    Cell.Step (w.cell view due copy j) ((w.store i text).cell view due copy j) := by
  unfold store
  cases hi : w.metrics[i]? with
  | none => exact .stay _
  | some e =>
    dsimp only
    by_cases hj : i = j
    · subst hj
      have hmetric : (w.onMetric i (Metric.storeText text)).metrics[i]? =
          some (e.1, e.2.storeText text) := by
        rw [onMetric_self, hi]
        rfl
      by_cases htext : text = e.2.value
      · have hsame : ({ w.onMetric i (Metric.storeText text) with
            calls := w.calls ++ [⟨i, text != e.2.value⟩] } : Writers).cell view due copy i =
            w.cell view due copy i := by
          apply cell_congr
          · subst htext
            exact hmetric.trans hi.symm
          · rw [pending_append]
            simp [htext]
        rw [hsame]
        exact .stay _
      · have hnew : ({ w.onMetric i (Metric.storeText text) with
            calls := w.calls ++ [⟨i, text != e.2.value⟩] } : Writers).cell view due copy i =
            { w.cell view due copy i with
              value := some (view (e.1, e.2.storeText text)), pending := true } := by
          unfold cell flagged
          rw [pending_append, hmetric, hi]
          simp [htext, Metric.storeText]
        rw [hnew]
        exact .store _ _
    · have hsame : ({ w.onMetric i (Metric.storeText text) with
          calls := w.calls ++ [⟨i, text != e.2.value⟩] } : Writers).cell view due copy j =
          w.cell view due copy j := by
        apply cell_congr
        · exact onMetric_ne hj w _
        · rw [pending_append]
          simp [hj]
      rw [hsame]
      exact .stay _

theorem pending_eraseIdx {w : Writers} {j : Nat} {c : ValueCall} (hj : w.calls[j]? = some c)
    (metrics : List (Str × Metric)) {i : Nat} (h : (c.index == i && c.updated) = false) :
    ({ metrics := metrics, calls := w.calls.eraseIdx j } : Writers).pending i = w.pending i := by
  obtain ⟨hlt, hget⟩ := List.getElem?_eq_some_iff.mp hj
  have hsplit : w.calls = w.calls.take j ++ c :: w.calls.drop (j + 1) := by
    rw [← hget, ← List.drop_eq_getElem_cons hlt, List.take_append_drop]
  unfold pending
  dsimp only
  rw [List.eraseIdx_eq_take_drop_succ]
  conv_rhs => rw [hsplit]
  rw [List.any_append, List.any_append, List.any_cons, h, Bool.false_or]

theorem raise_step (hview : ∀ (e : Str × Metric) (updated : Bool),
      view (e.1, e.2.raiseUpdated updated) = view e) (w : Writers) (j i : Nat) :
    Cell.Step (w.cell view due copy i) ((w.raise j).cell view due copy i) := by
  unfold raise
  cases hj : w.calls[j]? with
  | none => exact .stay _
  | some c =>
    dsimp only
    have hvalue : (w.onMetric c.index (Metric.raiseUpdated c.updated)).metrics[i]?.map view =
        w.metrics[i]?.map view := by
      by_cases hi : c.index = i
      · rw [hi, onMetric_self, Option.map_map]
        congr 1
        funext e
        exact hview e _
      · rw [onMetric_ne hi]
    cases hupdated : c.index == i && c.updated with
    | false =>
      have hflagged : ({ w.onMetric c.index (Metric.raiseUpdated c.updated) with
          calls := w.calls.eraseIdx j } : Writers).flagged i = w.flagged i := by
        unfold flagged
        by_cases hi : c.index = i
        · have hfalse : c.updated = false := by simpa [hi] using hupdated
          change ((w.onMetric _ _).metrics[i]?.map _).getD true = _
          rw [hi, onMetric_self, Option.map_map, hfalse]
          simp [Function.comp_def, Metric.raiseUpdated]
        · change ((w.onMetric _ _).metrics[i]?.map _).getD true = _
          rw [onMetric_ne hi]
      have hsame : ({ w.onMetric c.index (Metric.raiseUpdated c.updated) with
          calls := w.calls.eraseIdx j } : Writers).cell view due copy i =
          w.cell view due copy i := by
        unfold cell
        rw [hflagged, pending_eraseIdx hj _ hupdated]
        exact congrArg (fun v => Cell.mk v _ _ _ _) hvalue
      rw [hsame]
      exact .stay _
    | true =>
      obtain ⟨hindex, hchanged⟩ := Bool.and_eq_true_iff.mp hupdated
      have hi : c.index = i := by simpa using hindex
      have hflagged : ({ w.onMetric c.index (Metric.raiseUpdated c.updated) with
          calls := w.calls.eraseIdx j } : Writers).flagged i = true := by
        change ((w.onMetric _ _).metrics[i]?.map _).getD true = _
        rw [hi, onMetric_self, Option.map_map, hchanged]
        cases w.metrics[i]? with
        | none => rfl
        | some e => simp [Metric.raiseUpdated]
      have hnew : ({ w.onMetric c.index (Metric.raiseUpdated c.updated) with
          calls := w.calls.eraseIdx j } : Writers).cell view due copy i =
          { w.cell view due copy i with
            flagged := true
            pending := ({ w.onMetric c.index (Metric.raiseUpdated c.updated) with
              calls := w.calls.eraseIdx j } : Writers).pending i } := by
        unfold cell
        rw [hflagged]
        exact congrArg (fun v => Cell.mk v _ _ _ _) hvalue
      rw [hnew]
      exact .raise _ _

end Cell
end Writers
end PubSub
