import PubSub.PayloadHelper
import PubSub.Reference
import PubSub.ValueWriters

/-!
# Writers against the protobuf generator

The generator goes over the metrics: it tests the flag of a metric, reads the metric into the
message and lowers the flag. A value that is stored and flagged between the last two steps is
neither in the message nor flagged afterwards. Every other order of the steps keeps the values.
-/

namespace PubSub
set_option autoImplicit false

inductive ProtobufPhase where
  | test | read | clear
  deriving DecidableEq

/-- A run of `WriteProtobuf` between two steps. The message has the metrics that were written,
each with its place in the list, the last one first. -/
structure ProtobufRun where
  header : PbPayload
  index : Nat := 0
  phase : ProtobufPhase := .test
  written : List (Nat × PbMetric) := []

namespace ProtobufRun

def message (r : ProtobufRun) : PbPayload :=
  { r.header with metrics := r.written.reverse.map Prod.snd }

end ProtobufRun

/-- The metrics, the run that is under way, the body, and what the bodies so far hold, the last
one first. -/
structure ProtobufRace where
  shared : Writers
  run : Option ProtobufRun := none
  body : BodyList := []
  bodies : List (List (Nat × PbMetric)) := []

inductive ProtobufEvent where
  | store (i : Nat) (text : Str)
  | raise (j : Nat)
  | start (header : PbPayload)
  | proceed

namespace ProtobufRace
variable (P : Platform)

/-- The next step of the run. -/
def proceed (r : ProtobufRun) (s : ProtobufRace) : ProtobufRace :=
  match s.shared.metrics[r.index]? with
  | some e =>
    match r.phase with
    | .test =>
      if PayloadHelper.includes false e then { s with run := some { r with phase := .read } }
      else { s with run := some { r with index := r.index + 1 } }
    | .read =>
      { s with run := some { r with
          phase := .clear
          written := (r.index, PayloadHelper.writeMetric P false e.2) :: r.written } }
    | .clear =>
      { s with
        shared := s.shared.onMetric r.index fun m => { m with updated := false }
        run := some { r with index := r.index + 1, phase := .test } }
  | none =>
    match P.serializeToArray r.message with
    | some body => { s with run := none, body := body, bodies := r.written :: s.bodies }
    | none => { s with run := none, body := [] }

/-- One run at a time: it holds the mutex of the payload. -/
def step (s : ProtobufRace) (event : ProtobufEvent) : ProtobufRace :=
  match event with
  | .store i text => { s with shared := s.shared.store i text }
  | .raise j => { s with shared := s.shared.raise j }
  | .start header =>
    match s.run with
    | some _ => s
    | none => { s with run := some { header := header } }
  | .proceed =>
    match s.run with
    | some r => proceed P r s
    | none => s

def Quiet (s : ProtobufRace) : Prop := s.shared.calls = [] ∧ s.run = none

/-- The entry for a metric in the last of the lists that has one. -/
def latest (lists : List (List (Nat × PbMetric))) (i : Nat) : Option PbMetric :=
  lists.findSome? fun list => (list.find? fun w => w.1 == i).map Prod.snd

def Shows (lists : List (List (Nat × PbMetric))) (i : Nat) (e : Str × Metric) : Prop :=
  (latest lists i).map PbMetric.value = some (PayloadHelper.metricValue P e.2)

instance (lists : List (List (Nat × PbMetric))) (i : Nat) (e : Str × Metric) :
    Decidable (Shows P lists i e) :=
  inferInstanceAs (Decidable (_ = _))

/-- The metric is flagged, or its value is the one in the last body that contains it. -/
def Delivered (s : ProtobufRace) (i : Nat) : Prop :=
  ∀ e ∈ s.shared.metrics[i]?, e.2.updated = true ∨ Shows P s.bodies i e

instance (s : ProtobufRace) (i : Nat) : Decidable (s.Delivered P i) :=
  inferInstanceAs (Decidable (∀ e ∈ s.shared.metrics[i]?, _))

def lists (s : ProtobufRace) : List (List (Nat × PbMetric)) :=
  match s.run with
  | some r => r.written :: s.bodies
  | none => s.bodies

/-- The next step of the run loses no value: a flag is lowered only while the metric has the
value that was read, or else a writer has still to raise the flag; and when the message does not
serialize, every metric is flagged, about to be flagged, or shown by an earlier body. -/
def SafeNext (r : ProtobufRun) (s : ProtobufRace) : Prop :=
  (r.phase = .clear → ∀ e ∈ s.shared.metrics[r.index]?,
    s.shared.pending r.index = true ∨ Shows P s.lists r.index e) ∧
  (s.shared.metrics[r.index]? = none → P.serializeToArray r.message = none →
    ∀ i < s.shared.metrics.length, ∀ e ∈ s.shared.metrics[i]?,
      e.2.updated = true ∨ s.shared.pending i = true ∨ Shows P s.bodies i e)

instance (r : ProtobufRun) (s : ProtobufRace) : Decidable (s.SafeNext P r) :=
  inferInstanceAs (Decidable (_ ∧ _))

def Safe (s : ProtobufRace) (event : ProtobufEvent) : Prop :=
  match event with
  | .proceed => ∀ r ∈ s.run, s.SafeNext P r
  | _ => True

instance (s : ProtobufRace) (event : ProtobufEvent) : Decidable (s.Safe P event) :=
  match event with
  | .proceed => inferInstanceAs (Decidable (∀ r ∈ s.run, s.SafeNext P r))
  | .store _ _ => .isTrue trivial
  | .raise _ => .isTrue trivial
  | .start _ => .isTrue trivial

def cell (s : ProtobufRace) (i : Nat) : Cell (Option PbValue) :=
  s.shared.cell (fun e => PayloadHelper.metricValue P e.2) false
    ((latest s.lists i).map fun pb => some pb.value) i

variable {P}

theorem covered_iff {s : ProtobufRace} {i : Nat} {e : Str × Metric}
    (he : s.shared.metrics[i]? = some e) : (s.cell P i).Covered ↔
      e.2.updated = true ∨ s.shared.pending i = true ∨ Shows P s.lists i e := by
  have hcopy : (latest s.lists i).map (fun pb => some pb.value) =
      some (some (PayloadHelper.metricValue P e.2)) ↔ Shows P s.lists i e := by
    unfold Shows
    cases latest s.lists i with
    | none => simp
    | some pb => simp
  unfold Cell.Covered cell Writers.cell Writers.flagged
  simp only [he, Option.map_some, Option.getD_some, Bool.false_eq_true, false_or, hcopy]

theorem latest_cons_ne {list : List (Nat × PbMetric)} {lists : List (List (Nat × PbMetric))}
    {i j : Nat} (h : j ≠ i) (pb : PbMetric) :
    latest (((j, pb) :: list) :: lists) i = latest (list :: lists) i := by
  simp [latest, List.findSome?_cons, h]

theorem latest_cons_self {list : List (Nat × PbMetric)} {lists : List (List (Nat × PbMetric))}
    (i : Nat) (pb : PbMetric) : latest (((i, pb) :: list) :: lists) i = some pb := by
  simp [latest]

theorem latest_nil (lists : List (List (Nat × PbMetric))) (i : Nat) :
    latest ([] :: lists) i = latest lists i := rfl

theorem stay_step {s t : ProtobufRace} (hshared : t.shared = s.shared) {i : Nat}
    (hlists : latest t.lists i = latest s.lists i) : Cell.Step (s.cell P i) (t.cell P i) := by
  have hcell : t.cell P i = s.cell P i := by
    unfold cell
    rw [hshared, hlists]
  rw [hcell]
  exact .stay _

theorem lower_step {s t : ProtobufRace} {i : Nat} {e : Str × Metric}
    (he : s.shared.metrics[i]? = some e)
    (h : s.shared.pending i = true ∨ Shows P s.lists i e)
    (hshared : t.shared = s.shared.onMetric i fun m => { m with updated := false })
    (hlists : t.lists = s.lists) (j : Nat) : Cell.Step (s.cell P j) (t.cell P j) := by
  by_cases hj : i = j
  · subst hj
    have hmetric := s.shared.onMetric_self i fun m => { m with updated := false }
    rw [he] at hmetric
    have hcell : t.cell P i = { s.cell P i with flagged := false } := by
      unfold cell Writers.cell Writers.flagged
      rw [hlists, hshared, hmetric, he]
      rfl
    rw [hcell]
    refine .lower _ ?_
    rcases h with hpending | hshown
    · exact .inr (.inl hpending)
    · refine .inr (.inr (.inr ?_))
      change (latest s.lists i).map _ = some (s.shared.metrics[i]?.map _)
      unfold Shows at hshown
      cases hlatest : latest s.lists i with
      | none =>
        rw [hlatest] at hshown
        cases hshown
      | some pb =>
        rw [hlatest] at hshown
        rw [he, Option.map_some, Option.map_some, Option.some.inj hshown]
  · have hcell : t.cell P j = s.cell P j := by
      unfold cell
      rw [hlists, hshared]
      apply Writers.cell_congr
      · exact Writers.onMetric_ne hj s.shared _
      · rfl
    rw [hcell]
    exact .stay _

theorem proceed_step {s : ProtobufRace} {r : ProtobufRun} (hrun : s.run = some r)
    (hsafe : s.Safe P .proceed) (j : Nat) :
    Cell.Step (s.cell P j) ((s.proceed P r).cell P j) := by
  have hlists : s.lists = r.written :: s.bodies := by
    unfold lists
    rw [hrun]
  have hstay : ∀ t : ProtobufRace, t.shared = s.shared → t.lists = r.written :: s.bodies →
      Cell.Step (s.cell P j) (t.cell P j) := by
    intro t hshared ht
    apply stay_step hshared
    rw [ht, hlists]
  obtain ⟨hclear, hfinish⟩ := hsafe r hrun
  unfold proceed
  cases hi : s.shared.metrics[r.index]? with
  | some e =>
    dsimp only
    cases hphase : r.phase with
    | test =>
      dsimp only
      split
      · exact hstay _ rfl rfl
      · exact hstay _ rfl rfl
    | read =>
      dsimp only
      by_cases hj : r.index = j
      · subst hj
        have hcell : ({ s with run := some { r with
            phase := .clear
            written := (r.index, PayloadHelper.writeMetric P false e.2) :: r.written } } :
            ProtobufRace).cell P r.index =
            { s.cell P r.index with due := false, copy := some (s.cell P r.index).value } := by
          unfold cell lists
          dsimp only
          rw [latest_cons_self]
          unfold Writers.cell
          dsimp only
          rw [hi]
          rfl
        rw [hcell]
        exact .read _
      · apply stay_step
        · rfl
        · rw [hlists]
          exact latest_cons_ne hj _
    | clear =>
      apply lower_step hi (hclear hphase e hi)
      · rfl
      · rw [hlists]
        rfl
  | none =>
    dsimp only
    cases hserialize : P.serializeToArray r.message with
    | some body => exact hstay _ rfl rfl
    | none =>
      have hcell : ({ s with run := none, body := [] } : ProtobufRace).cell P j =
          { s.cell P j with
            due := false
            copy := (latest s.bodies j).map fun pb => some pb.value } := rfl
      rw [hcell]
      refine .forget _ _ _ ?_
      cases hj : s.shared.metrics[j]? with
      | none =>
        refine .inl ?_
        change s.shared.flagged j = true
        unfold Writers.flagged
        rw [hj]
        rfl
      | some e =>
        exact (covered_iff (s := { s with run := none, body := [] }) hj).mpr
          (hfinish hi hserialize j (List.getElem?_eq_some_iff.mp hj).1 e hj)

/-- Every step of a safe run is a step of every metric as a cell. -/
theorem step_cell (s : ProtobufRace) (event : ProtobufEvent) (j : Nat)
    (hsafe : s.Safe P event) : Cell.Step (s.cell P j) ((s.step P event).cell P j) := by
  cases event with
  | store i text => exact Writers.store_step _ _ _ s.shared i text j
  | raise i => exact Writers.raise_step _ _ _ (fun _ _ => rfl) s.shared i j
  | start header =>
    cases hrun : s.run with
    | some r =>
      unfold step
      dsimp only
      rw [hrun]
      exact .stay _
    | none =>
      have hlists : s.lists = s.bodies := by
        unfold lists
        rw [hrun]
      unfold step
      dsimp only
      rw [hrun]
      apply stay_step
      · rfl
      · rw [hlists]
        exact latest_nil s.bodies j
  | proceed =>
    cases hrun : s.run with
    | some r =>
      unfold step
      dsimp only
      rw [hrun]
      exact proceed_step hrun hsafe j
    | none =>
      unfold step
      dsimp only
      rw [hrun]
      exact .stay _

section Alone

def lowered (e : Str × Metric) : Str × Metric :=
  (e.1, if PayloadHelper.includes false e then { e.2 with updated := false } else e.2)

theorem proceed_alone {s : ProtobufRace} {r : ProtobufRun} (hrun : s.run = some r) (n : Nat) :
    PubSub.run (step P) s (List.replicate (n + 1) .proceed) =
      PubSub.run (step P) (s.proceed P r) (List.replicate n .proceed) := by
  rw [List.replicate_succ, run_cons]
  congr 1
  unfold step
  dsimp only
  rw [hrun]

theorem metric_alone (s : ProtobufRace) (r : ProtobufRun) {pre post : List (Str × Metric)}
    {e : Str × Metric} (hmetrics : s.shared.metrics = pre ++ e :: post)
    (hrun : s.run = some r) (hindex : r.index = pre.length) (hphase : r.phase = .test) :
    ∃ n written, (∀ k, PubSub.run (step P) s (List.replicate (n + k) .proceed) =
        PubSub.run (step P) { s with
          shared := { s.shared with metrics := pre ++ lowered e :: post }
          run := some { r with index := r.index + 1, written := written } }
          (List.replicate k .proceed)) ∧
      written.reverse.map Prod.snd = r.written.reverse.map Prod.snd ++
        if PayloadHelper.includes false e then [PayloadHelper.writeMetric P false e.2] else [] := by
  have hhere : s.shared.metrics[r.index]? = some e := by
    rw [hmetrics, hindex, List.getElem?_append_right (Nat.le_refl _), Nat.sub_self]
    rfl
  cases hincludes : PayloadHelper.includes false e with
  | false =>
    refine ⟨1, r.written, fun k => ?_, by simp⟩
    have hsame : lowered e = e := by simp [lowered, hincludes]
    rw [Nat.add_comm, proceed_alone hrun, hsame, ← hmetrics]
    unfold proceed
    rw [hhere, hphase]
    simp [hincludes]
  | true =>
    refine ⟨3, (r.index, PayloadHelper.writeMetric P false e.2) :: r.written, fun k => ?_, by simp⟩
    have hlowered : lowered e = (e.1, { e.2 with updated := false }) := by
      simp [lowered, hincludes]
    let reading : ProtobufRun := { r with phase := .read }
    let clearing : ProtobufRun :=
      { r with
        phase := .clear
        written := (r.index, PayloadHelper.writeMetric P false e.2) :: r.written }
    have htest : s.proceed P r = { s with run := some reading } := by
      unfold proceed
      rw [hhere, hphase]
      simp [hincludes, reading]
    have hread : ({ s with run := some reading } : ProtobufRace).proceed P reading =
        { s with run := some clearing } := by
      unfold proceed
      simp only [reading, hhere]
      rfl
    have hclear : ({ s with run := some clearing } : ProtobufRace).proceed P clearing =
        { s with
          shared := { s.shared with metrics := pre ++ lowered e :: post }
          run := some { r with index := r.index + 1, written := clearing.written } } := by
      have hmodify : s.shared.metrics.modify r.index
          (fun e => (e.1, { e.2 with updated := false })) = pre ++ lowered e :: post := by
        rw [hmetrics, hindex, hlowered]
        exact Writers.modify_append_cons _ pre e post
      unfold proceed
      simp only [clearing, hhere, Writers.onMetric, hmodify, hphase]
    rw [show 3 + k = k + 1 + 1 + 1 by omega, proceed_alone hrun, htest, proceed_alone rfl, hread,
      proceed_alone rfl, hclear]

theorem metrics_alone (pre : List (Str × Metric)) {post : List (Str × Metric)} (s : ProtobufRace)
    (r : ProtobufRun)
    (hmetrics : s.shared.metrics = pre ++ post) (hrun : s.run = some r)
    (hindex : r.index = pre.length) (hphase : r.phase = .test) :
    ∃ n written, (∀ k, PubSub.run (step P) s (List.replicate (n + k) .proceed) =
        PubSub.run (step P) { s with
          shared := { s.shared with metrics := pre ++ post.map lowered }
          run := some { r with index := (pre ++ post).length, written := written } }
          (List.replicate k .proceed)) ∧
      written.reverse.map Prod.snd = r.written.reverse.map Prod.snd ++
        (post.filter (PayloadHelper.includes false)).map fun e =>
          PayloadHelper.writeMetric P false e.2 := by
  induction post generalizing pre s r with
  | nil =>
    refine ⟨0, r.written, fun k => ?_, by simp⟩
    rw [Nat.zero_add]
    congr 1
    rw [List.append_nil] at hmetrics
    rw [List.map_nil, List.append_nil, ← hmetrics, ← hindex.trans (congrArg _ hmetrics.symm), ← hrun]
  | cons e post ih =>
    obtain ⟨n, written, hfirst, hwritten⟩ := metric_alone s r hmetrics hrun hindex hphase
    have hlength : r.index + 1 = (pre ++ [lowered e]).length := by
      rw [hindex, List.length_append]
      rfl
    obtain ⟨m, rest, hrest, hall⟩ := ih (pre ++ [lowered e])
      { s with
        shared := { s.shared with metrics := pre ++ lowered e :: post }
        run := some { r with index := r.index + 1, written := written } }
      { r with index := r.index + 1, written := written }
      (by simp) rfl hlength hphase
    refine ⟨n + m, rest, fun k => ?_, ?_⟩
    · rw [Nat.add_assoc, hfirst, hrest]
      simp
    · rw [hall, hwritten]
      cases hincludes : PayloadHelper.includes false e with
      | true => simp [hincludes]
      | false => simp [hincludes]

/-- A run that no writer disturbs is `WriteProtobuf`. -/
theorem writeProtobuf_alone (p : Payload P) (s : ProtobufRace) (hquiet : s.Quiet)
    (hmetrics : s.shared.metrics = p.metricList.entries) :
    ∃ n written,
      PubSub.run (step P) s
        (.start { PayloadHelper.protobufOf false p with metrics := [] } ::
          List.replicate n .proceed) =
        { shared := { metrics := (PayloadHelper.writeProtobuf false p).metricList.entries }
          run := none
          body := (PayloadHelper.writeProtobuf false p).body
          bodies :=
            if (P.serializeToArray (PayloadHelper.protobufOf false p)).isSome then
              written :: s.bodies
            else s.bodies } ∧
      written.reverse.map Prod.snd = (PayloadHelper.protobufOf false p).metrics := by
  obtain ⟨hcalls, hrun⟩ := hquiet
  let r : ProtobufRun := { header := { PayloadHelper.protobufOf false p with metrics := [] } }
  have hstart : s.step P (.start r.header) = { s with run := some r } := by
    unfold step
    dsimp only
    rw [hrun]
  obtain ⟨n, written, hwalk, hwritten⟩ :=
    metrics_alone [] { s with run := some r } r hmetrics rfl rfl rfl
  have hmessage : ({ r with index := p.metricList.entries.length, written := written } :
      ProtobufRun).message = PayloadHelper.protobufOf false p := by
    unfold ProtobufRun.message
    dsimp only
    rw [hwritten]
    rfl
  have hentries : (PayloadHelper.writeProtobuf false p).metricList.entries =
      p.metricList.entries.map lowered := by
    unfold PayloadHelper.writeProtobuf
    rw [FoldedMap.entries_mapValues]
    rfl
  have hend : (p.metricList.entries.map lowered)[p.metricList.entries.length]? = none := by
    simp
  refine ⟨n + 1, written, ?_, hwritten⟩
  rw [run_cons, hstart, hwalk 1, proceed_alone rfl]
  unfold proceed
  dsimp only [List.nil_append]
  rw [hend, hmessage, hentries, hcalls]
  unfold PayloadHelper.writeProtobuf
  cases P.serializeToArray (PayloadHelper.protobufOf false p) with
  | some body => rfl
  | none => rfl

end Alone

/-- A metric that the start or a store of the run covers is flagged, or shown by the last body
that contains it, whenever a safe run comes to rest. -/
theorem safe_run_delivers {s : ProtobufRace} {events : List ProtobufEvent} (hquiet : s.Quiet)
    (hsafe : RunOk (step P) (Safe P) s events)
    (hrest : (PubSub.run (step P) s events).Quiet) {i : Nat}
    (hcovered : s.Delivered P i ∨ ∃ pre text post, events = pre ++ .store i text :: post ∧
      (PubSub.run (step P) s pre).shared.Changes i text) :
    (PubSub.run (step P) s events).Delivered P i := by
  have hcell : ∀ (s : ProtobufRace) event i, True → s.Safe P event →
      Cell.Step (s.cell P i) ((s.step P event).cell P i) := fun s event i _ => step_cell s event i
  have hend : ((PubSub.run (step P) s events).cell P i).Covered := by
    rcases hcovered with hstart | ⟨pre, text, post, rfl, hchanges⟩
    · refine Cell.covered_run (fun _ _ _ => trivial) hcell trivial hsafe ?_
      cases hi : s.shared.metrics[i]? with
      | none =>
        refine .inl ?_
        change s.shared.flagged i = true
        unfold Writers.flagged
        rw [hi]
        rfl
      | some e =>
        rw [covered_iff hi]
        have hlists : s.lists = s.bodies := by
          unfold lists
          rw [hquiet.2]
        rw [hlists]
        exact (hstart e hi).imp_right .inr
    · refine Cell.covered_after (fun _ _ _ => trivial) hcell trivial hsafe ?_
      refine .inr (.inl ?_)
      exact Writers.store_changes hchanges
  intro e he
  have hlists : (PubSub.run (step P) s events).lists =
      (PubSub.run (step P) s events).bodies := by
    unfold lists
    rw [hrest.2]
  rw [covered_iff he, hlists] at hend
  rcases hend with hflagged | hpending | hshown
  · exact .inl hflagged
  · unfold Writers.pending at hpending
    rw [hrest.1] at hpending
    cases hpending
  · exact .inr hshown

section Speed

/-- A metric that was set to 1 and not published yet. -/
def atOne : ProtobufRace where
  shared := { metrics := [(str "Speed",
    { name := str "Speed", datatype := .int32, value := str "1", updated := true })] }

/-- A writer sets the metric to 2 after the generator has read it. -/
def overtaken : List ProtobufEvent :=
  [.start {}, .proceed, .proceed, .store 0 (str "2"), .raise 0, .proceed, .proceed]

def inTime : List ProtobufEvent :=
  [.start {}, .proceed, .store 0 (str "2"), .raise 0, .proceed, .proceed, .proceed]

/-- The value 2 is neither flagged nor in a body. -/
theorem overtaken_update_is_lost :
    (PubSub.run (step Platform.reference) atOne overtaken).Quiet ∧
    atOne.Delivered Platform.reference 0 ∧
    ¬ (PubSub.run (step Platform.reference) atOne overtaken).Delivered Platform.reference 0 := by
  refine ⟨⟨by decide +kernel, by decide +kernel⟩, by decide +kernel, by decide +kernel⟩

theorem update_in_time_is_kept :
    (PubSub.run (step Platform.reference) atOne inTime).Delivered Platform.reference 0 :=
  safe_run_delivers ⟨rfl, rfl⟩ (by decide +kernel) ⟨by decide +kernel, by decide +kernel⟩
    (.inl (by decide +kernel))

end Speed

end ProtobufRace
end PubSub
