import Mathlib.Data.List.GetD
import PubSub.Payload
import PubSub.Reference
import PubSub.Shared.Run

/-!
# The keys of a metric list

A payload and the application share the metric objects. `GetMetric` goes by the key under
which an object was put into the list, `DeleteMetrics` by the name that the object has now,
and nothing puts an object under another key when its name changes.
-/

namespace PubSub
set_option autoImplicit false

namespace Payload
variable {P : Platform}

def deleteMetrics (name : Str) (p : Payload P) : Payload P :=
  { p with metricList := p.metricList.eraseNamed Metric.name name }

end Payload

/-- A payload whose list points to the metric objects; an object is known by its number. -/
structure MetricObjects (P : Platform) where
  objects : List Metric := []
  metricList : FoldedMap P.foldKey Nat := FoldedMap.empty

inductive MetricCall where
  | make (m : Metric)
  | createMetric (name : Str)
  | addMetric (object : Nat)
  | deleteMetrics (name : Str)
  | name (object : Nat) (name : Str)

namespace MetricObjects
variable {P : Platform}

def object (s : MetricObjects P) (i : Nat) : Metric := s.objects.getD i {}

def nameOf (s : MetricObjects P) (i : Nat) : Str := (s.object i).name

def getMetric (s : MetricObjects P) (name : Str) : Option Nat := s.metricList.get? name

def make (m : Metric) (s : MetricObjects P) : MetricObjects P :=
  { s with objects := s.objects ++ [m] }

def createMetric (name : Str) (s : MetricObjects P) : MetricObjects P :=
  match s.getMetric name with
  | some _ => s
  | none =>
    { objects := s.objects ++ [{ name := name }]
      metricList := s.metricList.insert name s.objects.length }

/-- A null pointer and an object without a name are turned away. -/
def addMetric (i : Nat) (s : MetricObjects P) : MetricObjects P :=
  if i < s.objects.length ∧ s.nameOf i ≠ [] then
    { s with metricList := s.metricList.insert (s.nameOf i) i }
  else s

def deleteMetrics (name : Str) (s : MetricObjects P) : MetricObjects P :=
  { s with metricList := s.metricList.eraseNamed s.nameOf name }

def rename (i : Nat) (name : Str) (s : MetricObjects P) : MetricObjects P :=
  { s with objects := s.objects.modify i fun m => { m with name := name } }

def call (s : MetricObjects P) : MetricCall → MetricObjects P
  | .make m => s.make m
  | .createMetric name => s.createMetric name
  | .addMetric i => s.addMetric i
  | .deleteMetrics name => s.deleteMetrics name
  | .name i name => s.rename i name

/-- The list points to objects that exist. -/
def Points (s : MetricObjects P) : Prop := ∀ e ∈ s.metricList.entries, e.2 < s.objects.length

/-- Every metric is kept under its own name. -/
def Keyed (s : MetricObjects P) : Prop := s.metricList.KeyedBy s.nameOf

/-- `DeleteMetrics` takes the metric that `GetMetric` returns, and no other. -/
def DeletesExactly (s : MetricObjects P) (name : Str) : Prop :=
  (s.deleteMetrics name).getMetric name = none ∧
    ∀ other, P.foldKey other ≠ P.foldKey name →
      (s.deleteMetrics name).getMetric other = s.getMetric other

theorem deletesExactly_iff (s : MetricObjects P) : (∀ name, s.DeletesExactly name) ↔ s.Keyed :=
  @FoldedMap.erasesExactly_iff_keyedBy _ _ _ _ P.foldKey s.metricList s.nameOf

/-- A metric that is in the list gets a name for each of its keys. -/
def NamesKept (s : MetricObjects P) : MetricCall → Prop
  | .name i name => ∀ e ∈ s.metricList.entries, e.2 = i → P.foldKey e.1 = P.foldKey name
  | _ => True

theorem object_append {s : MetricObjects P} {i : Nat} (h : i < s.objects.length)
    (list : FoldedMap P.foldKey Nat) (m : Metric) :
    object (P := P) { objects := s.objects ++ [m], metricList := list } i = s.object i :=
  List.getD_append _ _ _ _ h

theorem object_new (objects : List Metric) (list : FoldedMap P.foldKey Nat) (m : Metric) :
    object (P := P) { objects := objects ++ [m], metricList := list } objects.length = m := by
  simp [object, List.getD]

theorem nameOf_rename {s : MetricObjects P} {i j : Nat} (h : j < s.objects.length) (name : Str) :
    (s.rename i name).nameOf j = if j = i then name else s.nameOf j := by
  simp only [nameOf, object, rename, List.getD_eq_getElem?_getD, List.getElem?_modify,
    List.getElem?_eq_getElem h]
  by_cases heq : i = j
  · simp [heq]
  · simp [heq, Ne.symm heq]

theorem points_call (s : MetricObjects P) (c : MetricCall) (h : s.Points) :
    (s.call c).Points := by
  cases c with
  | make m =>
    intro e he
    have hlength : (s.objects ++ [m]).length = s.objects.length + 1 := by simp
    exact hlength ▸ Nat.lt_succ_of_lt (h e he)
  | createMetric name =>
    dsimp only [call]
    unfold createMetric
    split
    · exact h
    · intro e he
      have hlength : (s.objects ++ [({ name := name } : Metric)]).length =
          s.objects.length + 1 := by simp
      rw [hlength]
      rcases Entries.mem_insert_subset he with rfl | hmem
      · exact Nat.lt_succ_self _
      · exact Nat.lt_succ_of_lt (h e hmem)
  | addMetric i =>
    dsimp only [call]
    unfold addMetric
    split
    · rename_i hobject
      intro e he
      rcases Entries.mem_insert_subset he with rfl | hmem
      · exact hobject.1
      · exact h e hmem
    · exact h
  | deleteMetrics name => exact fun e he => h e ((Entries.eraseFirst_sublist _ _).mem he)
  | name i name =>
    intro e he
    have hlength : (s.call (.name i name)).objects.length = s.objects.length :=
      List.length_modify _ _ _
    exact hlength ▸ h e he

/-- A call keeps the metrics under their names exactly when it renames none of them away
from a key. -/
theorem keyed_call {s : MetricObjects P} (hpoints : s.Points) (h : s.Keyed) (c : MetricCall) :
    (s.call c).Keyed ↔ s.NamesKept c := by
  cases c with
  | make m =>
    refine iff_of_true (fun e he => ?_) trivial
    exact (h e he).trans (congrArg (fun o => P.foldKey o.name)
      (object_append (hpoints e he) s.metricList m).symm)
  | createMetric name =>
    refine iff_of_true ?_ trivial
    dsimp only [call]
    unfold createMetric
    split
    · exact h
    · intro e he
      rcases Entries.mem_insert_subset he with rfl | hmem
      · exact congrArg (fun o => P.foldKey o.name) (object_new s.objects _ { name := name }).symm
      · exact (h e hmem).trans (congrArg (fun o => P.foldKey o.name)
          (object_append (hpoints e hmem) _ { name := name }).symm)
  | addMetric i =>
    refine iff_of_true ?_ trivial
    dsimp only [call]
    unfold addMetric
    split
    · intro e he
      rcases Entries.mem_insert_subset he with rfl | hmem
      · rfl
      · exact h e hmem
    · exact h
  | deleteMetrics name =>
    exact iff_of_true (fun e he => h e ((Entries.eraseFirst_sublist _ _).mem he)) trivial
  | name i name =>
    constructor
    · intro hafter e he hi
      have hkey : P.foldKey e.1 = P.foldKey ((s.rename i name).nameOf e.2) := hafter e he
      rwa [nameOf_rename (hpoints e he), if_pos hi] at hkey
    · intro hkept e he
      change P.foldKey e.1 = P.foldKey ((s.rename i name).nameOf e.2)
      rw [nameOf_rename (hpoints e he)]
      split
      · rename_i hi
        exact hkept e he hi
      · exact h e he

theorem points_empty : ({} : MetricObjects P).Points := nofun

/-- In every state of a run each metric is kept under its own name, and deletions take what
lookups return, exactly when no call to `Name` renames a metric away from a key. -/
theorem metric_keys_iff (calls : List MetricCall) :
    (∀ pre post, calls = pre ++ post → (run call ({} : MetricObjects P) pre).Keyed ∧
        ∀ name, (run call ({} : MetricObjects P) pre).DeletesExactly name) ↔
      RunOk call NamesKept ({} : MetricObjects P) calls := by
  have hkeyed : (∀ pre post, calls = pre ++ post →
      (run call ({} : MetricObjects P) pre).Keyed) ↔ RunOk call NamesKept {} calls :=
    runOk_iff points_call (fun s c hpoints h => keyed_call hpoints h c) points_empty nofun
  rw [← hkeyed]
  constructor
  · intro h pre post hsplit
    exact (h pre post hsplit).1
  · intro h pre post hsplit
    exact ⟨h pre post hsplit, (deletesExactly_iff _).mpr (h pre post hsplit)⟩

/-- The payload as it is seen without the identity of its objects. -/
def view (s : MetricObjects P) : Payload P := { metricList := s.metricList.view s.object }

theorem view_getMetric (s : MetricObjects P) (name : Str) :
    s.view.getMetric name = (s.getMetric name).map s.object := FoldedMap.get?_view _ _ name

theorem view_createMetric {s : MetricObjects P} (h : s.Points) (name : Str) :
    (s.createMetric name).view = s.view.createMetric name := by
  unfold createMetric
  cases hget : s.getMetric name with
  | some i =>
    have hview : s.view.metricList.get? name = some (s.object i) := by
      have hmap := s.view_getMetric name
      rwa [hget] at hmap
    dsimp only [Payload.createMetric]
    rw [FoldedMap.insert_of_get?_some hview]
  | none =>
    have hold : s.metricList.view (object { s with objects := s.objects ++ [{ name := name }] }) =
        s.metricList.view s.object :=
      FoldedMap.view_congr fun e he => object_append (h e he) s.metricList { name := name }
    dsimp only [view, Payload.createMetric]
    rw [FoldedMap.view_insert, object_new]
    exact congrArg (fun list => ({ metricList := list.insert name { name := name } } : Payload P))
      hold

theorem view_addMetric (s : MetricObjects P) (i : Nat) :
    (s.addMetric i).view = s.view.addMetric (s.object i) := by
  unfold addMetric Payload.addMetric
  by_cases hname : (s.object i).name = []
  · rw [if_neg fun h => h.2 hname, if_pos hname]
  · have hexists : i < s.objects.length := by
      by_contra hnone
      refine hname ?_
      rw [object, List.getD_eq_default _ _ (Nat.le_of_not_lt hnone)]
    rw [if_pos ⟨hexists, hname⟩, if_neg hname]
    dsimp only [view]
    rw [FoldedMap.view_insert]
    rfl

theorem view_deleteMetrics (s : MetricObjects P) (name : Str) :
    (s.deleteMetrics name).view = s.view.deleteMetrics name := by
  dsimp only [view, deleteMetrics, Payload.deleteMetrics]
  exact congrArg (fun list => ({ metricList := list } : Payload P))
    (FoldedMap.view_eraseNamed _ _ Metric.name name)

/-- A metric that is renamed while the payload holds it. -/
theorem renamed_metric_is_lost :
    ¬ ((run call ({} : MetricObjects .reference)
      [.createMetric (str "a"), .name 0 (str "b")]).Keyed ∧
      (run call ({} : MetricObjects .reference)
        [.createMetric (str "a"), .name 0 (str "b")]).DeletesExactly (str "a")) := by
  rintro ⟨_, hgone, _⟩
  have hnone := congrArg Option.isSome hgone
  revert hnone
  decide +kernel

end MetricObjects
end PubSub
