import PubSub.Receiver

/-!
# Alias numbers stay

A metric that has an alias number keeps it, whatever is written to the payload and
whatever is read from a message.
-/

namespace PubSub
set_option autoImplicit false

namespace PayloadHelper
variable (P : Platform)

theorem parseMetricHeader_alias {createMetrics : Bool} {m : Metric}
    (h : m.aliasNumber ≠ 0 ∨ createMetrics = false) (sourceTimestamp : UInt64) (pb : PbMetric) :
    (parseMetricHeader createMetrics sourceTimestamp pb m).aliasNumber = m.aliasNumber := by
  rcases h with h | h
  · simp [parseMetricHeader, h]
  · simp [parseMetricHeader, h]

theorem parseMetric_alias {createMetrics : Bool} {m : Metric}
    (h : m.aliasNumber ≠ 0 ∨ createMetrics = false) (sourceTimestamp : UInt64) (pb : PbMetric) :
    (parseMetric P createMetrics sourceTimestamp pb m).aliasNumber = m.aliasNumber := by
  have hidentity := parseMetric_identity P createMetrics sourceTimestamp pb m
  have halias := congrArg (fun i => i.2.1) hidentity
  exact halias.trans (parseMetricHeader_alias h sourceTimestamp pb)

end PayloadHelper

namespace Metric

theorem alias_of_identity {m n : Metric} (h : m.identity = n.identity) :
    m.aliasNumber = n.aliasNumber := congrArg (fun i => i.2.1) h

end Metric

namespace Payload
variable {P : Platform}

/-- Every numbered metric of `p` is in `q`, with its number. -/
def KeepsAliases (p q : Payload P) : Prop :=
  ∀ e ∈ p.metricList.entries, e.2.aliasNumber ≠ 0 →
    ∃ m, (e.1, m) ∈ q.metricList.entries ∧ m.aliasNumber = e.2.aliasNumber

theorem KeepsAliases.refl (p : Payload P) : p.KeepsAliases p :=
  fun e he _ => ⟨e.2, he, rfl⟩

theorem KeepsAliases.of_same {p q : Payload P} (h : q.metricList = p.metricList) :
    p.KeepsAliases q := by
  intro e he _
  exact ⟨e.2, h ▸ he, rfl⟩

theorem KeepsAliases.trans {p q r : Payload P} (hpq : p.KeepsAliases q)
    (hqr : q.KeepsAliases r) : p.KeepsAliases r := by
  intro e he hne
  obtain ⟨m, hm, halias⟩ := hpq e he hne
  obtain ⟨n, hn, hsame⟩ := hqr (e.1, m) hm (by simpa [halias] using hne)
  exact ⟨n, hn, hsame.trans halias⟩

theorem keepsAliases_updateFirst (test : Str → Metric → Bool) {f : Metric → Metric}
    (hf : ∀ m, m.aliasNumber ≠ 0 → (f m).aliasNumber = m.aliasNumber) {p q : Payload P}
    (hq : q.metricList = p.metricList.updateFirst test f) : p.KeepsAliases q := by
  intro e he hne
  rw [hq, FoldedMap.entries_updateFirst]
  rcases Entries.updateFirst_split test f p.metricList.entries with
    ⟨_, hsame⟩ | ⟨pre, k, v, post, hsplit, _, _, _, hupdated⟩
  · rw [hsame]
    exact ⟨e.2, he, rfl⟩
  · rw [hupdated]
    rw [hsplit] at he
    rcases List.mem_append.mp he with hpre | htail
    · exact ⟨e.2, List.mem_append_left _ hpre, rfl⟩
    · rcases List.mem_cons.mp htail with rfl | hpost
      · exact ⟨f v, List.mem_append_right _ List.mem_cons_self, hf v hne⟩
      · exact ⟨e.2, List.mem_append_right _ (List.mem_cons_of_mem _ hpost), rfl⟩

theorem keepsAliases_mapValues {f : Str → Metric → Metric}
    (hf : ∀ k m, (f k m).aliasNumber = m.aliasNumber) {p q : Payload P}
    (hq : q.metricList = p.metricList.mapValues f) : p.KeepsAliases q := by
  intro e he _
  refine ⟨f e.1 e.2, ?_, hf e.1 e.2⟩
  rw [hq]
  exact List.mem_map.mpr ⟨e, he, rfl⟩

theorem keepsAliases_insert (name : Str) (m : Metric) {p q : Payload P}
    (hq : q.metricList = p.metricList.insert name m) : p.KeepsAliases q := by
  intro e he _
  rw [hq]
  exact ⟨e.2, Entries.mem_insert_of_mem he, rfl⟩

theorem keepsAliases_updateMetric (name : Str) {f : Metric → Metric}
    (hf : ∀ m, (f m).aliasNumber = m.aliasNumber) (p : Payload P) :
    p.KeepsAliases (p.updateMetric name f) :=
  keepsAliases_updateFirst _ (fun m _ => hf m) rfl

theorem keepsAliases_addMetric (m : Metric) (p : Payload P) : p.KeepsAliases (p.addMetric m) := by
  unfold addMetric
  split
  · exact .refl p
  · exact keepsAliases_insert m.name m rfl

theorem keepsAliases_setTimestamp (ms : UInt64) (setMetrics : Bool) (p : Payload P) :
    p.KeepsAliases (p.setTimestamp ms setMetrics) := by
  have htext : p.KeepsAliases
      ({ p with timestamp := ms }.updateMetric (str "timestamp") fun m => m.setInt ms.toNat) :=
    keepsAliases_updateFirst (Entries.sameKey P.foldKey (str "timestamp"))
      (f := fun m => m.setInt ms.toNat) (fun _ _ => rfl) rfl
  unfold setTimestamp
  dsimp only
  split
  · exact htext.trans
      (keepsAliases_mapValues (f := fun _ m => { m with timestamp := ms }) (fun _ _ => rfl) rfl)
  · exact htext

theorem keepsAliases_writeProtobuf (writeAll : Bool) (p : Payload P) :
    p.KeepsAliases (PayloadHelper.writeProtobuf writeAll p) := by
  apply keepsAliases_mapValues (f := fun k m =>
    if PayloadHelper.includes writeAll (k, m) then { m with updated := false } else m) _ rfl
  intro k m
  split <;> rfl

theorem keepsAliases_parseEntry (createMetrics : Bool) (p : Payload P) (pb : PbMetric) :
    p.KeepsAliases (PayloadHelper.parseEntry createMetrics p pb) := by
  have hparsed : ∀ t m, m.aliasNumber ≠ 0 →
      (PayloadHelper.parseMetric P createMetrics t pb m).aliasNumber = m.aliasNumber :=
    fun t m hne => PayloadHelper.parseMetric_alias P (.inl hne) t pb
  unfold PayloadHelper.parseEntry
  split
  · exact keepsAliases_updateFirst _ (hparsed _) rfl
  · cases pb.name with
    | none => exact .refl p
    | some name =>
      dsimp only
      split
      · have hinsert : p.KeepsAliases { p with
            metricList := p.metricList.insert name (PayloadHelper.createdMetric name pb) } :=
          keepsAliases_insert name _ rfl
        exact hinsert.trans (keepsAliases_updateFirst _ (hparsed _) rfl)
      · exact .refl p

theorem keepsAliases_foldl {α : Type} {f : Payload P → α → Payload P}
    (hf : ∀ (p : Payload P) a, p.KeepsAliases (f p a)) (as : List α) (p : Payload P) :
    p.KeepsAliases (as.foldl f p) := by
  induction as generalizing p with
  | nil => exact .refl p
  | cons a as ih => exact (hf p a).trans (ih (f p a))

theorem keepsAliases_receiveProtobuf (createMetrics : Bool) (now : UInt64) (body : BodyList)
    (p : Payload P) : p.KeepsAliases (p.receiveProtobuf createMetrics now body) := by
  have hbody : p.KeepsAliases { p with body := body } := .of_same rfl
  unfold receiveProtobuf receive
  dsimp only
  split
  · exact hbody
  · apply hbody.trans
    unfold parseSparkplugProtobuf PayloadHelper.parseProtobuf
    split
    · exact .refl _
    · split
      · exact .refl _
      · rename_i pb _
        have hheader : KeepsAliases { p with body := body }
            (PayloadHelper.parseHeader now pb { p with body := body }) :=
          (keepsAliases_setTimestamp (pb.timestamp.getD now) false _).trans (.of_same rfl)
        exact hheader.trans (keepsAliases_foldl (keepsAliases_parseEntry createMetrics) _ _)

theorem setJsonValue_alias (v : JsonValue) (m : Metric) :
    (setJsonValue P v m).aliasNumber = m.aliasNumber := by
  cases v with
  | string s => exact Metric.alias_of_identity (m.setString_identity P s)
  | _ => rfl

theorem keepsAliases_receiveJson (body : BodyList) (p : Payload P) :
    p.KeepsAliases (p.receiveJson body) := by
  have hbody : p.KeepsAliases { p with body := body } := .of_same rfl
  unfold receiveJson receive
  dsimp only
  split
  · exact hbody
  · apply hbody.trans
    unfold parseSparkplugJson
    split
    · exact .refl _
    · apply keepsAliases_foldl
      intro q member
      unfold parseJsonMember
      split
      · exact .refl q
      · split
        · exact keepsAliases_updateMetric _ (setJsonValue_alias member.2) q
        · split
          · have hcreate : q.KeepsAliases (q.createMetric member.1) :=
              keepsAliases_insert _ _ rfl
            apply hcreate.trans
            apply keepsAliases_updateMetric
            intro m
            exact setJsonValue_alias member.2 _
          · exact .refl q

theorem keepsAliases_setAllMetricsInvalid (p : Payload P) :
    p.KeepsAliases p.setAllMetricsInvalid :=
  keepsAliases_mapValues (f := fun _ m => { m with valid := false }) (fun _ _ => rfl) rfl

end Payload
end PubSub
