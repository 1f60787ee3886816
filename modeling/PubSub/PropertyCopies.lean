import PubSub.Metric
import PubSub.Reference

/-!
# Copies of properties

Maps of properties are filled through the copy constructor and `operator=`, which go
through the members by hand and pass over the array of nested property lists.
-/

namespace PubSub
set_option autoImplicit false

namespace MetricProperty

theorem copy_eq_iff (p : MetricProperty) : p.copy = p ↔ p.propArray = [] := by
  constructor
  · intro h
    exact (congrArg propArray h).symm
  · intro h
    cases p
    exact congrArg (fun array => MetricProperty.mk _ _ _ _ array) h.symm

theorem assign_eq_iff (p q : MetricProperty) : p.assign q = q ↔ p.propArray = q.propArray := by
  constructor
  · intro h
    have harray := congrArg propArray h
    exact harray
  · intro h
    cases q
    exact congrArg (fun array => MetricProperty.mk _ _ _ _ array) h

end MetricProperty

namespace Metric
variable {P : Platform}

/-- The nested lists of the property that is stored under a key. -/
def nestedAt (P : Platform) (m : Metric) (key : Str) : List MetricPropertyList :=
  match m.getProperty P key with
  | none => []
  | some p => p.propArray

theorem getProperty_addProperty (m : Metric) (p : MetricProperty) :
    (m.addProperty P p).getProperty P p.key =
      some (match m.getProperty P p.key with
        | none => p.copy
        | some q => q.assign p) := by
  unfold addProperty
  cases h : m.getProperty P p.key with
  | none => exact Entries.get?_insert_self h
  | some q =>
    dsimp only [updateProperty, getProperty] at h ⊢
    rw [Entries.get?_updateFirst_self, h]
    rfl

theorem addProperty_returns_iff (m : Metric) (p : MetricProperty) :
    (m.addProperty P p).getProperty P p.key = some p ↔ m.nestedAt P p.key = p.propArray := by
  rw [getProperty_addProperty, Option.some_inj, nestedAt]
  cases m.getProperty P p.key with
  | none => exact p.copy_eq_iff.trans eq_comm
  | some q => exact q.assign_eq_iff p

end Metric

/-- A copy is whole exactly for a property without nested lists, an assignment exactly
where the target has the nested lists already, and a property that is added comes back
accordingly. -/
theorem property_copies_iff (P : Platform) :
    (∀ p : MetricProperty, p.copy = p ↔ p.propArray = []) ∧
    (∀ p q : MetricProperty, p.assign q = q ↔ p.propArray = q.propArray) ∧
    (∀ (m : Metric) (p : MetricProperty),
      (m.addProperty P p).getProperty P p.key = some p ↔ m.nestedAt P p.key = p.propArray) :=
  ⟨MetricProperty.copy_eq_iff, MetricProperty.assign_eq_iff, Metric.addProperty_returns_iff⟩

namespace PropertyCopies

/-- A property with one nested list, in which there is one property. -/
def nested : MetricProperty where
  key := str "Range"
  type := .propertySet
  propArray := [[(str "Low", { key := str "Low", value := str "4" })]]

end PropertyCopies

open PropertyCopies in
theorem nested_list_is_lost :
    nested.copy ≠ nested ∧ ({} : MetricProperty).assign nested ≠ nested ∧
      (({} : Metric).addProperty .reference nested).getProperty .reference nested.key ≠
        some nested := by
  refine ⟨?_, ?_, ?_⟩
  · intro h
    cases (nested.copy_eq_iff).mp h
  · intro h
    cases (MetricProperty.assign_eq_iff {} nested).mp h
  · intro h
    cases (Metric.addProperty_returns_iff {} nested).mp h

end PubSub
