import PubSub.PublishTopics
import PubSub.ValueWriters

/-!
# Writers against the publisher of a text

A publish call lowers all the flags of a topic before it reads the first metric. So a value that
is stored while the call is under way is read by the call, or its flag is raised after the call
has lowered it. Nothing is lost whatever the order of the steps, but for a store that does not
change the text: it never was an update.
-/

namespace PubSub
set_option autoImplicit false

/-- The bodies that are texts. -/
inductive TextFormat where
  | text | json
  deriving DecidableEq

namespace TextFormat
variable (P : Platform)

def body (format : TextFormat) (fields : List (Str × Metric)) : BodyList :=
  match format with
  | .text => List.intercalate [59] (fields.map fun e => Payload.stringField e.2)
  | .json => P.serializeJson (fields.filterMap fun e =>
      if e.1 = [] then none else (Payload.jsonValue P e.2).map fun v => (e.1, v))

/-- The metric is not null, and a JSON object has a member for it. -/
def Suits (format : TextFormat) (e : Str × Metric) : Prop :=
  e.2.isNull = false ∧ (format = .json → e.1 ≠ [] ∧ Payload.jsonValue P e.2 ≠ none)

instance (format : TextFormat) (e : Str × Metric) : Decidable (format.Suits P e) :=
  inferInstanceAs (Decidable (_ ∧ _))

/-- The body of a topic with `count` metrics has the value of the metric: in the field at its
place among as many fields, or in the member with its name. -/
def Carries (format : TextFormat) (body : BodyList) (count i : Nat) (e : Str × Metric) : Prop :=
  match format with
  | .text => ∃ fields, body = List.intercalate [59] fields ∧ fields.length = count ∧
      fields[i]? = some e.2.value
  | .json => ∃ members v, (members.map Prod.fst).Nodup ∧ body = P.serializeJson members ∧
      Payload.jsonValue P e.2 = some v ∧ (e.1, v) ∈ members

theorem body_text (p : Payload P) : text.body P p.metricList.entries = p.makeString := rfl

theorem body_json (p : Payload P) : json.body P p.metricList.entries = p.makeJsonString := rfl

end TextFormat

/-- The turn of the topic in `PublishTopics`, between two steps: the flags are tested, the one of
the metric at the place is the next to be lowered, or some metrics were read. -/
inductive TextPhase where
  | test
  | clear (index : Nat)
  | read (fields : List (Str × Metric))

/-- The metrics of a topic, the call that is under way, and the metrics as they were read into
the last body that was sent. -/
structure TextRace where
  shared : Writers
  call : Option TextPhase := none
  sent : Option (List (Str × Metric)) := none

inductive TextEvent where
  | store (i : Nat) (text : Str)
  | raise (j : Nat)
  | publish

namespace TextRace
variable {P : Platform}

def start (p : Payload P) : TextRace := { shared := { metrics := p.metricList.entries } }

/-- The next step of a call; a call begins when none is under way. -/
def publish (s : TextRace) : TextRace :=
  match s.call with
  | none => { s with call := some .test }
  | some .test =>
    if s.shared.metrics.any fun e => e.2.updated then { s with call := some (.clear 0) }
    else { s with call := none }
  | some (.clear i) =>
    match s.shared.metrics[i]? with
    | some _ =>
      { s with
        shared := s.shared.onMetric i fun m => { m with updated := false }
        call := some (.clear (i + 1)) }
    | none => { s with call := some (.read []) }
  | some (.read fields) =>
    match s.shared.metrics[fields.length]? with
    | some e => { s with call := some (.read (fields ++ [e])) }
    | none => { s with call := none, sent := some fields }

def step (s : TextRace) (event : TextEvent) : TextRace :=
  match event with
  | .store i text => { s with shared := s.shared.store i text }
  | .raise j => { s with shared := s.shared.raise j }
  | .publish => s.publish

def Quiet (s : TextRace) : Prop := s.shared.calls = [] ∧ s.call = none

variable (P) in
def lastBody (format : TextFormat) (s : TextRace) : Option BodyList :=
  s.sent.map (format.body P)

variable (P) in
/-- The metric is flagged, or the last body that was sent has its value. -/
def Kept (format : TextFormat) (s : TextRace) (i : Nat) : Prop :=
  ∀ e ∈ s.shared.metrics[i]?, e.2.updated = true ∨
    ∃ body ∈ s.lastBody P format, format.Carries P body s.shared.metrics.length i e

/-- A metric but for its flags. -/
def content (e : Str × Metric) : Str × Metric :=
  (e.1, { e.2 with valid := false, updated := false })

/-- The metrics that the call under way has read, or those of the last body. -/
def fields (s : TextRace) : List (Str × Metric) :=
  match s.call with
  | some (.read fields) => fields
  | _ => s.sent.getD []

/-- The call under way is going to read the metric. -/
def due (s : TextRace) (i : Nat) : Bool :=
  match s.call with
  | some (.clear _) => true
  | some (.read fields) => decide (fields.length ≤ i)
  | _ => false

def cell (s : TextRace) (i : Nat) : Cell (Option (Str × Metric)) :=
  s.shared.cell content (s.due i) (s.fields[i]?.map fun e => some (content e)) i

theorem cell_congr {s t : TextRace} (hshared : t.shared = s.shared) {i : Nat}
    (hdue : t.due i = s.due i) (hfield : t.fields[i]? = s.fields[i]?) : t.cell i = s.cell i := by
  unfold cell
  rw [hshared, hdue, hfield]

theorem stay_step {s t : TextRace} (hshared : t.shared = s.shared) {i : Nat}
    (hdue : t.due i = s.due i) (hfield : t.fields[i]? = s.fields[i]?) :
    Cell.Step (s.cell i) (t.cell i) := by
  rw [cell_congr hshared hdue hfield]
  exact .stay _

theorem flagged_of_none {w : Writers} {i : Nat} (h : w.metrics[i]? = none) :
    w.flagged i = true := by
  unfold Writers.flagged
  rw [h]
  rfl

theorem clear_step {s t : TextRace} {i : Nat} {e : Str × Metric} (hcall : s.call = some (.clear i))
    (he : s.shared.metrics[i]? = some e)
    (hshared : t.shared = s.shared.onMetric i fun m => { m with updated := false })
    (hafter : t.call = some (.clear (i + 1))) (hsent : t.sent = s.sent) (j : Nat) :
    Cell.Step (s.cell j) (t.cell j) := by
  have hdue : s.due j = true := by
    unfold due
    rw [hcall]
  have hdueAfter : t.due j = true := by
    unfold due
    rw [hafter]
  have hfields : t.fields = s.fields := by
    unfold fields
    rw [hcall, hafter, hsent]
  by_cases hj : i = j
  · subst hj
    have hmetric := s.shared.onMetric_self i fun m => { m with updated := false }
    rw [he] at hmetric
    have hcell : t.cell i = { s.cell i with flagged := false } := by
      unfold cell Writers.cell Writers.flagged
      rw [hfields, hdue, hdueAfter, hshared, hmetric, he]
      rfl
    rw [hcell]
    exact .lower _ (.inr (.inr (.inl hdue)))
  · have hcell : t.cell j = s.cell j := by
      unfold cell
      rw [hfields, hdue, hdueAfter, hshared]
      apply Writers.cell_congr
      · exact Writers.onMetric_ne hj s.shared _
      · rfl
    rw [hcell]
    exact .stay _

theorem read_step {s t : TextRace} {fields : List (Str × Metric)} {e : Str × Metric}
    (hcall : s.call = some (.read fields)) (he : s.shared.metrics[fields.length]? = some e)
    (hshared : t.shared = s.shared) (hafter : t.call = some (.read (fields ++ [e]))) (j : Nat) :
    Cell.Step (s.cell j) (t.cell j) := by
  have hfields : s.fields = fields := by
    unfold TextRace.fields
    rw [hcall]
  have hfieldsAfter : t.fields = fields ++ [e] := by
    unfold TextRace.fields
    rw [hafter]
  have hdue : s.due j = decide (fields.length ≤ j) := by
    unfold due
    rw [hcall]
  have hdueAfter : t.due j = decide (fields.length + 1 ≤ j) := by
    unfold due
    rw [hafter]
    dsimp only
    rw [List.length_append]
    rfl
  by_cases hj : fields.length = j
  · subst hj
    have hread : (fields ++ [e])[fields.length]? = some e := by
      rw [List.getElem?_append_right (Nat.le_refl _), Nat.sub_self]
      rfl
    have hcell : t.cell fields.length =
        { s.cell fields.length with
          due := false
          copy := some (s.cell fields.length).value } := by
      have hlate : t.due fields.length = false := by
        rw [hdueAfter]
        exact decide_eq_false (Nat.not_succ_le_self _)
      unfold cell Writers.cell
      rw [hfieldsAfter, hlate, hshared, hread, he]
      rfl
    rw [hcell]
    exact .read _
  · apply stay_step hshared
    · rw [hdue, hdueAfter]
      apply decide_eq_decide.mpr
      omega
    · rw [hfields, hfieldsAfter]
      by_cases hlt : j < fields.length
      · exact List.getElem?_append_left hlt
      · have hlength : (fields ++ [e]).length ≤ j := by
          rw [List.length_append, List.length_singleton]
          omega
        rw [List.getElem?_eq_none hlength, List.getElem?_eq_none (by omega)]

theorem publish_step (s : TextRace) (j : Nat) : Cell.Step (s.cell j) (s.publish.cell j) := by
  have hsame : ∀ t : TextRace, t.shared = s.shared → t.due j = s.due j → t.fields = s.fields →
      Cell.Step (s.cell j) (t.cell j) := fun t hshared hdue hfields =>
    stay_step hshared hdue (congrArg (·[j]?) hfields)
  unfold publish
  cases hcall : s.call with
  | none =>
    refine hsame _ rfl ?_ ?_
    · unfold due
      rw [hcall]
    · unfold fields
      rw [hcall]
  | some phase =>
    cases phase with
    | test =>
      dsimp only
      split
      · have hfields : s.fields = s.sent.getD [] := by
          unfold fields
          rw [hcall]
        have hcell : ({ s with call := some (.clear 0) } : TextRace).cell j =
            { s.cell j with due := true } := by
          unfold cell
          rw [hfields]
          rfl
        rw [hcell]
        exact .promise _
      · refine hsame _ rfl ?_ ?_
        · unfold due
          rw [hcall]
        · unfold fields
          rw [hcall]
    | clear i =>
      dsimp only
      cases hi : s.shared.metrics[i]? with
      | some e =>
        apply clear_step hcall hi
        · rfl
        · rfl
        · rfl
      | none =>
        have hcell : ({ s with call := some (.read []) } : TextRace).cell j =
            { s.cell j with due := true, copy := none } := rfl
        rw [hcell]
        exact .forget _ _ _ (.inr (.inr (.inl rfl)))
    | read fields =>
      dsimp only
      have hfields : s.fields = fields := by
        unfold TextRace.fields
        rw [hcall]
      have hdue : s.due j = decide (fields.length ≤ j) := by
        unfold due
        rw [hcall]
      cases hi : s.shared.metrics[fields.length]? with
      | some e =>
        apply read_step hcall hi
        · rfl
        · rfl
      | none =>
        have hlength := List.getElem?_eq_none_iff.mp hi
        dsimp only
        by_cases hj : fields.length ≤ j
        · have hcell : ({ s with call := none, sent := some fields } : TextRace).cell j =
              { s.cell j with due := false } := by
            unfold cell
            rw [hfields]
            rfl
          rw [hcell]
          refine .forget _ _ _ (.inl ?_)
          exact flagged_of_none (List.getElem?_eq_none (Nat.le_trans hlength hj))
        · refine hsame _ rfl ?_ hfields.symm
          rw [hdue]
          exact (decide_eq_false hj).symm

theorem step_cell (s : TextRace) (event : TextEvent) (j : Nat) :
    Cell.Step (s.cell j) ((s.step event).cell j) := by
  cases event with
  | store i text => exact Writers.store_step _ _ _ s.shared i text j
  | raise i => exact Writers.raise_step _ _ _ (fun _ _ => rfl) s.shared i j
  | publish => exact publish_step s j

/-- What the metrics of the topic are stays, the fields that were read are theirs, and a body has
all of them. -/
structure Reads (p : Payload P) (s : TextRace) : Prop where
  metrics : s.shared.metrics.map Writers.data = p.metricList.entries.map Writers.data
  fields : s.fields.map Writers.data <+: p.metricList.entries.map Writers.data
  sent : ∀ fields ∈ s.sent, fields.length = p.metricList.entries.length

theorem Reads.length {p : Payload P} {s : TextRace} (h : s.Reads p) :
    s.shared.metrics.length = p.metricList.entries.length := by
  have hlength := congrArg List.length h.metrics
  rwa [List.length_map, List.length_map] at hlength

theorem prefix_next {α : Type*} {list all : List α} {a : α} (h : list <+: all)
    (ha : all[list.length]? = some a) : list ++ [a] <+: all := by
  obtain ⟨rest, rfl⟩ := h
  rw [List.getElem?_append_right (Nat.le_refl _), Nat.sub_self] at ha
  cases rest with
  | nil => cases ha
  | cons b rest =>
    obtain rfl := Option.some.inj ha
    exact ⟨rest, by rw [List.append_assoc]; rfl⟩

theorem reads_publish {p : Payload P} {s : TextRace} (h : s.Reads p) : s.publish.Reads p := by
  have hsame : ∀ t : TextRace, t.shared = s.shared → t.fields = s.fields → t.sent = s.sent →
      t.Reads p := by
    intro t hshared hfields hsent
    refine ⟨?_, ?_, ?_⟩
    · rw [hshared]
      exact h.metrics
    · rw [hfields]
      exact h.fields
    · rw [hsent]
      exact h.sent
  unfold publish
  cases hcall : s.call with
  | none =>
    refine hsame _ rfl ?_ rfl
    unfold fields
    rw [hcall]
  | some phase =>
    cases phase with
    | test =>
      dsimp only
      split
      · refine hsame _ rfl ?_ rfl
        unfold fields
        rw [hcall]
      · refine hsame _ rfl ?_ rfl
        unfold fields
        rw [hcall]
    | clear i =>
      dsimp only
      cases s.shared.metrics[i]? with
      | some e =>
        refine ⟨?_, ?_, h.sent⟩
        · exact (Writers.onMetric_data (fun _ => rfl) i s.shared).trans h.metrics
        · have hfields := h.fields
          unfold fields at hfields
          rw [hcall] at hfields
          exact hfields
      | none => exact ⟨h.metrics, List.nil_prefix, h.sent⟩
    | read fields =>
      dsimp only
      have hfields : s.fields = fields := by
        unfold TextRace.fields
        rw [hcall]
      have hprefix := h.fields
      rw [hfields] at hprefix
      cases hi : s.shared.metrics[fields.length]? with
      | some e =>
        refine ⟨h.metrics, ?_, h.sent⟩
        have hnext : (p.metricList.entries.map Writers.data)[(fields.map Writers.data).length]? =
            some (Writers.data e) := by
          rw [← h.metrics, List.length_map, List.getElem?_map, hi]
          rfl
        have hlonger := prefix_next hprefix hnext
        rw [← List.map_singleton, ← List.map_append] at hlonger
        exact hlonger
      | none =>
        refine ⟨h.metrics, hprefix, fun sent hsent => ?_⟩
        obtain rfl := Option.some.inj hsent
        have hall := List.getElem?_eq_none_iff.mp hi
        have hread := hprefix.length_le
        rw [List.length_map, List.length_map] at hread
        rw [h.length] at hall
        omega

theorem reads_step {p : Payload P} (s : TextRace) (event : TextEvent) (h : s.Reads p) :
    (s.step event).Reads p := by
  cases event with
  | store i text => exact ⟨(Writers.store_data i text s.shared).trans h.metrics, h.fields, h.sent⟩
  | raise j => exact ⟨(Writers.raise_data j s.shared).trans h.metrics, h.fields, h.sent⟩
  | publish => exact reads_publish h

theorem reads_start (p : Payload P) : (start p).Reads p :=
  ⟨rfl, List.nil_prefix, fun _ h => absurd h (Option.not_mem_none _)⟩

theorem jsonValue_none_congr {m n : Metric} (hnull : m.isNull = n.isNull)
    (htype : m.datatype = n.datatype) :
    Payload.jsonValue P m = none ↔ Payload.jsonValue P n = none := by
  unfold Payload.jsonValue
  rw [hnull, htype]
  split
  · exact Iff.rfl
  · cases n.datatype <;> simp

theorem suits_of_reads {format : TextFormat} {p : Payload P} {s : TextRace} (h : s.Reads p) {i : Nat}
    (hsuits : ∀ e ∈ p.metricList.entries[i]?, format.Suits P e) {e : Str × Metric}
    (he : s.shared.metrics[i]? = some e) : format.Suits P e := by
  have hdata : (p.metricList.entries.map Writers.data)[i]? = some (Writers.data e) := by
    rw [← h.metrics, List.getElem?_map, he]
    rfl
  rw [List.getElem?_map] at hdata
  obtain ⟨first, hfirst, hsame⟩ := Option.map_eq_some_iff.mp hdata
  obtain ⟨hname, hrest⟩ := Prod.mk.inj hsame
  obtain ⟨hnull, htype⟩ := Prod.mk.inj hrest
  obtain ⟨hplain, hjson⟩ := hsuits first hfirst
  refine ⟨hnull ▸ hplain, fun hformat => ?_⟩
  obtain ⟨hnamed, hvalue⟩ := hjson hformat
  exact ⟨hname ▸ hnamed, fun hnone => hvalue ((jsonValue_none_congr hnull htype).mpr hnone)⟩

theorem carries_of_content {format : TextFormat} {fields : List (Str × Metric)}
    (hnodup : (fields.map Prod.fst).Nodup) {i : Nat} {e f : Str × Metric}
    (hf : fields[i]? = some f) (hcontent : content f = content e) (hsuits : format.Suits P e) :
    format.Carries P (format.body P fields) fields.length i e := by
  have hname : (content f).1 = (content e).1 := congrArg Prod.fst hcontent
  have hvalue : f.2.value = e.2.value := congrArg (fun c => c.2.value) hcontent
  have hnull : f.2.isNull = e.2.isNull := congrArg (fun c => c.2.isNull) hcontent
  have htype : f.2.datatype = e.2.datatype := congrArg (fun c => c.2.datatype) hcontent
  obtain ⟨hplain, hjson⟩ := hsuits
  cases format with
  | text =>
    refine ⟨_, rfl, List.length_map _, ?_⟩
    rw [List.getElem?_map, hf, Option.map_some]
    unfold Payload.stringField
    rw [hnull, hplain, hvalue]
    rfl
  | json =>
    obtain ⟨hnamed, hsome⟩ := hjson rfl
    obtain ⟨v, hv⟩ := Option.ne_none_iff_exists'.mp hsome
    have hread : Payload.jsonValue P f.2 = some v := by
      rw [← hv]
      unfold Payload.jsonValue
      rw [hnull, htype, hvalue]
    refine ⟨_, v, Payload.members_nodup P hnodup, rfl, hv, ?_⟩
    rw [List.mem_filterMap]
    refine ⟨f, List.mem_of_getElem? hf, ?_⟩
    rw [if_neg (hname ▸ hnamed), hread, Option.map_some]
    exact congrArg some (Prod.ext hname rfl)

section Alone

theorem publish_alone (s : TextRace) (n : Nat) :
    run step s (List.replicate (n + 1) .publish) =
      run step s.publish (List.replicate n .publish) := rfl

theorem clear_alone (calls : List ValueCall) (sent : Option (List (Str × Metric)))
    (pre post : List (Str × Metric)) : ∃ n, ∀ k,
      run step { shared := ⟨pre ++ post, calls⟩, call := some (.clear pre.length), sent := sent }
        (List.replicate (n + k) .publish) =
      run step
        { shared := ⟨pre ++ post.map fun e => (e.1, { e.2 with updated := false }), calls⟩
          call := some (.read [])
          sent := sent }
        (List.replicate k .publish) := by
  induction post generalizing pre with
  | nil =>
    refine ⟨1, fun k => ?_⟩
    rw [Nat.add_comm, publish_alone]
    unfold publish
    simp
  | cons e post ih =>
    obtain ⟨n, hrest⟩ := ih (pre ++ [(e.1, { e.2 with updated := false })])
    refine ⟨n + 1, fun k => ?_⟩
    have hnext : publish
        { shared := ⟨pre ++ e :: post, calls⟩, call := some (.clear pre.length), sent := sent } =
        { shared := ⟨pre ++ [(e.1, { e.2 with updated := false })] ++ post, calls⟩
          call := some (.clear (pre ++ [(e.1, { e.2 with updated := false })]).length)
          sent := sent } := by
      have hmodify := Writers.modify_append_cons
        (fun e => (e.1, { e.2 with updated := false })) pre e post
      unfold publish
      simp [Writers.onMetric, hmodify]
    rw [Nat.add_right_comm, publish_alone, hnext, hrest]
    simp

/-- The metrics are read one after the other, and the body is sent. -/
theorem read_alone (calls : List ValueCall) (sent : Option (List (Str × Metric)))
    (pre post : List (Str × Metric)) : ∃ n,
      run step { shared := ⟨pre ++ post, calls⟩, call := some (.read pre), sent := sent }
        (List.replicate n .publish) =
      { shared := ⟨pre ++ post, calls⟩, sent := some (pre ++ post) } := by
  induction post generalizing pre with
  | nil =>
    refine ⟨1, ?_⟩
    rw [publish_alone]
    unfold publish
    simp
  | cons e post ih =>
    obtain ⟨n, hrest⟩ := ih (pre ++ [e])
    refine ⟨n + 1, ?_⟩
    have hnext : publish
        { shared := ⟨pre ++ e :: post, calls⟩, call := some (.read pre), sent := sent } =
        { shared := ⟨pre ++ [e] ++ post, calls⟩, call := some (.read (pre ++ [e])), sent := sent } := by
      unfold publish
      simp
    rw [publish_alone, hnext, hrest]
    simp

/-- A call that no writer disturbs lowers the flags and sends what the generator makes of the
metrics. -/
theorem publishTopics_alone {p : Payload P} (h : p.isUpdated = true) :
    ∃ n, run step (start p) (List.replicate n .publish) =
      { shared := ⟨p.resetUpdated.metricList.entries, []⟩
        sent := some p.resetUpdated.metricList.entries } := by
  obtain ⟨n, hclear⟩ := clear_alone [] none [] p.metricList.entries
  obtain ⟨m, hread⟩ := read_alone [] none [] p.resetUpdated.metricList.entries
  refine ⟨n + m + 2, ?_⟩
  have htest : publish (publish (start p)) =
      { shared := ⟨p.metricList.entries, []⟩, call := some (.clear 0) } := by
    have hany : (p.metricList.entries.any fun e => e.2.updated) = true := h
    unfold start publish
    simp [hany]
  rw [publish_alone, publish_alone, htest]
  exact (hclear m).trans hread

end Alone

/-- Whenever no call is in progress, a metric whose text some store changed is flagged, or the
last body has its value. -/
theorem stored_value_is_sent {format : TextFormat} {p : Payload P} {events : List TextEvent}
    (hrest : (run step (start p) events).Quiet) {i : Nat}
    (hsuits : ∀ e ∈ p.metricList.entries[i]?, format.Suits P e)
    (hstored : ∃ pre text post, events = pre ++ .store i text :: post ∧
      (run step (start p) pre).shared.Changes i text) :
    (run step (start p) events).Kept P format i := by
  have hreads : (run step (start p) events).Reads p :=
    run_preserves reads_step events (reads_start p)
  have hcovered : ((run step (start p) events).cell i).Covered := by
    obtain ⟨pre, text, post, rfl, hchanges⟩ := hstored
    have hcell : ∀ (s : TextRace) event i, True → True →
        Cell.Step (s.cell i) ((s.step event).cell i) := fun s event i _ _ => step_cell s event i
    refine Cell.covered_after (fun _ _ _ => trivial) hcell trivial
      (.of_forall (fun _ _ => trivial) _ _) ?_
    exact .inr (.inl (Writers.store_changes hchanges))
  generalize run step (start p) events = s at hrest hreads hcovered ⊢
  obtain ⟨hcalls, hcall⟩ := hrest
  intro e he
  have hfields : s.fields = s.sent.getD [] := by
    unfold fields
    rw [hcall]
  rcases hcovered with hflagged | hpending | hdue | hcopy
  · refine .inl ?_
    change s.shared.flagged i = true at hflagged
    unfold Writers.flagged at hflagged
    rw [he] at hflagged
    exact hflagged
  · change s.shared.pending i = true at hpending
    unfold Writers.pending at hpending
    rw [hcalls] at hpending
    cases hpending
  · change s.due i = true at hdue
    unfold due at hdue
    rw [hcall] at hdue
    cases hdue
  · refine .inr ?_
    change s.fields[i]?.map _ = some (s.shared.metrics[i]?.map content) at hcopy
    rw [he] at hcopy
    obtain ⟨f, hf, hcontent⟩ := Option.map_eq_some_iff.mp hcopy
    have hnodup : (s.fields.map Prod.fst).Nodup := by
      have hprefix := (hreads.fields.map Prod.fst).sublist
      rw [List.map_map, List.map_map] at hprefix
      exact hprefix.nodup p.keys_nodup
    have hsuit := suits_of_reads hreads hsuits he
    have hcarries := carries_of_content hnodup hf (Option.some.inj hcontent) hsuit
    cases hsent : s.sent with
    | none =>
      rw [hfields, hsent] at hf
      cases hf
    | some fields =>
      rw [hfields, hsent, Option.getD_some, (hreads.sent fields hsent).trans hreads.length.symm]
        at hcarries
      refine ⟨format.body P fields, ?_, hcarries⟩
      unfold lastBody
      rw [hsent]
      rfl

section Text

def emptyText : Payload Platform.reference where
  metricList := FoldedMap.empty.insert (str "Text") { name := str "Text", datatype := .string }

def nameless : Payload Platform.reference where
  metricList := FoldedMap.empty.insert [] { datatype := .string }

/-- A value is stored and published. -/
def storedText : List TextEvent :=
  [.store 0 (str "on"), .raise 0, .publish, .publish, .publish, .publish, .publish, .publish]

theorem stored_text_is_kept :
    (run step (start emptyText) storedText).Kept Platform.reference .json 0 :=
  stored_value_is_sent ⟨by decide +kernel, by decide +kernel⟩ (by decide +kernel)
    ⟨[], str "on", _, rfl, _, rfl, by decide⟩

/-- An empty text that is stored into an empty metric is not sent, and a metric without a name
has no member in an object. -/
theorem unchanged_and_nameless_are_not_sent :
    ((run step (start emptyText) [.store 0 [], .raise 0]).Quiet ∧
      ¬ (run step (start emptyText) [.store 0 [], .raise 0]).Kept Platform.reference .text 0) ∧
    ((run step (start nameless) storedText).Quiet ∧
      ¬ (run step (start nameless) storedText).Kept Platform.reference .json 0) := by
  refine ⟨⟨⟨by decide +kernel, by decide +kernel⟩, ?_⟩,
    ⟨by decide +kernel, by decide +kernel⟩, ?_⟩
  · intro hkept
    rcases hkept _ rfl with hupdated | ⟨body, hbody, -⟩
    · exact absurd hupdated (by decide +kernel)
    · have hnone : (run step (start emptyText) [.store 0 [], .raise 0]).lastBody
          Platform.reference .text = none := rfl
      rw [hnone] at hbody
      cases hbody
  · intro hkept
    rcases hkept _ rfl with hupdated | ⟨body, hbody, members, v, hnodup, heq, -, hmem⟩
    · exact absurd hupdated (by decide +kernel)
    · have hempty : (run step (start nameless) storedText).lastBody Platform.reference .json =
          some (Platform.reference.serializeJson []) := by
        decide +kernel
      rw [hempty] at hbody
      obtain rfl := Option.some.inj hbody
      have hnames := Platform.reference.json_names [] members List.nodup_nil hnodup heq
      have hname : _ ∈ members.map Prod.fst := List.mem_map_of_mem hmem
      rw [← hnames] at hname
      cases hname

end Text

end TextRace
end PubSub
