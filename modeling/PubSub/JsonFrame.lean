import PubSub.Payload
import PubSub.Reference

/-!
# What a JSON message leaves of the metrics

`ParseSparkplugJson` gives a datatype to the metrics it creates, and sets the value of every
metric that a member names. The switch for the value has a default case of its own, which makes
a `String` of any metric that an array or an object is sent for.
-/

namespace PubSub
set_option autoImplicit false

namespace Payload
variable {P : Platform}

def isNested : JsonValue → Bool
  | .array | .object => true
  | _ => false

def retypes (P : Platform) (key : Str) (member : Str × JsonValue) : Bool :=
  decide (member.1 ≠ [] ∧ P.foldKey key = P.foldKey member.1) && isNested member.2

def retyped (toString : Bool) (identity : Str × UInt64 × MetricType) :
    Str × UInt64 × MetricType :=
  if toString then (identity.1, identity.2.1, .string) else identity

theorem retyped_retyped (a b : Bool) (identity : Str × UInt64 × MetricType) :
    retyped a (retyped b identity) = retyped (b || a) identity := by
  cases a <;> cases b <;> rfl

theorem retyped_eq_self {toString : Bool} {identity : Str × UInt64 × MetricType} :
    retyped toString identity = identity ↔ (toString = true → identity.2.2 = .string) := by
  cases toString with
  | false => simp [retyped]
  | true => simp [retyped, Prod.ext_iff, eq_comm]

/-- What `boost::json::parse` makes of a text: it throws, or gives an object or another value. -/
inductive ParsedJson where
  | failed
  | object (members : JsonMembers)
  | other

/-- The texts that are JSON without being an object come with the platform. -/
def parsedJson (P : Platform) (isOther : Str → Bool) (text : Str) : ParsedJson :=
  match P.parseJson text with
  | some members => .object members
  | none => if isOther text then .other else .failed

/-- `ParseSparkplugJson` with its precondition: `get_object` is not defined on other values. -/
def parseSparkplugJson? (isOther : Str → Bool) (p : Payload P) (createMetrics : Bool) :
    Option (Payload P) :=
  match parsedJson P isOther p.bodyToString with
  | .failed => some p
  | .object members => some (members.foldl (parseJsonMember createMetrics) p)
  | .other => none

theorem parseSparkplugJson?_eq {isOther : Str → Bool} {p q : Payload P} {createMetrics : Bool}
    (h : p.parseSparkplugJson? isOther createMetrics = some q) :
    p.parseSparkplugJson createMetrics = q := by
  unfold parseSparkplugJson? parsedJson at h
  unfold parseSparkplugJson
  cases hparsed : P.parseJson p.bodyToString with
  | some members =>
    rw [hparsed] at h
    exact Option.some.inj h
  | none =>
    rw [hparsed] at h
    dsimp only at h ⊢
    split at h
    · rename_i hfailed
      exact Option.some.inj h
    · rename_i members hobject
      split at hobject <;> cases hobject
    · cases h

theorem setJsonValue_identity (v : JsonValue) (m : Metric) :
    (setJsonValue P v m).identity = retyped (isNested v) m.identity := by
  cases v with
  | string s => exact m.setString_identity P s
  | _ => rfl

theorem getMetric_parseJsonMember_ne {createMetrics : Bool} {p : Payload P}
    {member : Str × JsonValue} {key : Str} (h : P.foldKey member.1 ≠ P.foldKey key) :
    (parseJsonMember createMetrics p member).getMetric key = p.getMetric key := by
  unfold parseJsonMember
  split
  · rfl
  · split
    · exact FoldedMap.get?_update_ne _ _ (Ne.symm h)
    · cases createMetrics with
      | true =>
        refine (FoldedMap.get?_update_ne _ _ (Ne.symm h)).trans ?_
        exact FoldedMap.get?_insert_ne _ _ (Ne.symm h)
      | false => rfl

theorem getMetric_foldl_ne (createMetrics : Bool) {members : JsonMembers} {key : Str}
    (h : ∀ member ∈ members, P.foldKey member.1 ≠ P.foldKey key) (p : Payload P) :
    (members.foldl (parseJsonMember createMetrics) p).getMetric key = p.getMetric key := by
  induction members generalizing p with
  | nil => rfl
  | cons member members ih =>
    rw [List.foldl_cons, ih (fun a ha => h a (List.mem_cons_of_mem member ha)),
      getMetric_parseJsonMember_ne (h member List.mem_cons_self)]

theorem getMetric_parseJsonMember (createMetrics : Bool) {p : Payload P} {key : Str} {m : Metric}
    (h : p.getMetric key = some m) (member : Str × JsonValue) :
    (parseJsonMember createMetrics p member).getMetric key =
      some (if member.1 ≠ [] ∧ P.foldKey key = P.foldKey member.1 then setJsonValue P member.2 m
        else m) := by
  by_cases hkey : P.foldKey key = P.foldKey member.1
  · have hget : p.metricList.get? key = some m := h
    have hfound : p.getMetric member.1 = some m :=
      (FoldedMap.get?_congr p.metricList hkey).symm.trans h
    unfold parseJsonMember
    by_cases hname : member.1 = []
    · rw [if_pos hname, if_neg (fun hand => hand.1 hname)]
      exact h
    · have hnamed : member.1 ≠ [] ∧ P.foldKey key = P.foldKey member.1 := ⟨hname, hkey⟩
      rw [if_neg hname, if_pos hnamed, hfound]
      refine (FoldedMap.get?_update p.metricList member.1 key _).trans ?_
      rw [if_pos hkey, hget]
      rfl
  · rw [getMetric_parseJsonMember_ne (Ne.symm hkey), if_neg (fun hand => hkey hand.2)]
    exact h

theorem identity_parsed (createMetrics : Bool) (members : JsonMembers) {p : Payload P} {key : Str}
    {m : Metric} (h : p.getMetric key = some m) :
    ∃ n, (members.foldl (parseJsonMember createMetrics) p).getMetric key = some n ∧
      n.identity = retyped (members.any (retypes P key)) m.identity := by
  induction members generalizing p m with
  | nil => exact ⟨m, h, rfl⟩
  | cons member members ih =>
    obtain ⟨n, hn, hidentity⟩ := ih (getMetric_parseJsonMember createMetrics h member)
    refine ⟨n, hn, hidentity.trans ?_⟩
    rw [List.any_cons]
    by_cases hnamed : member.1 ≠ [] ∧ P.foldKey key = P.foldKey member.1
    · have hretypes : retypes P key member = isNested member.2 := by
        unfold retypes
        rw [decide_eq_true hnamed, Bool.true_and]
      rw [if_pos hnamed, setJsonValue_identity, retyped_retyped, hretypes]
    · have hnot : retypes P key member = false := by
        unfold retypes
        rw [decide_eq_false hnamed, Bool.false_and]
      rw [if_neg hnamed, hnot, Bool.false_or]

/-- The members keep the identity of every metric exactly where the arrays and objects among
them name metrics of type `String` only. -/
theorem identities_kept_iff (createMetrics : Bool) (members : JsonMembers) (p : Payload P) :
    (∀ key m, p.getMetric key = some m →
      ∃ n, (members.foldl (parseJsonMember createMetrics) p).getMetric key = some n ∧
        n.identity = m.identity) ↔
    ∀ member ∈ members, member.1 ≠ [] → isNested member.2 = true →
      ∀ m, p.getMetric member.1 = some m → m.datatype = .string := by
  constructor
  · intro h member hmember hname hnested m hm
    obtain ⟨n, hn, hkept⟩ := h member.1 m hm
    obtain ⟨n', hn', hidentity⟩ := identity_parsed createMetrics members hm
    cases hn.symm.trans hn'
    have hany : members.any (retypes P member.1) = true := by
      refine List.any_eq_true.mpr ⟨member, hmember, ?_⟩
      unfold retypes
      rw [hnested, Bool.and_true]
      exact decide_eq_true ⟨hname, rfl⟩
    exact retyped_eq_self.mp (hidentity.symm.trans hkept) hany
  · intro h key m hm
    obtain ⟨n, hn, hidentity⟩ := identity_parsed createMetrics members hm
    refine ⟨n, hn, hidentity.trans (retyped_eq_self.mpr fun hany => ?_)⟩
    obtain ⟨member, hmember, hr⟩ := List.any_eq_true.mp hany
    obtain ⟨hnamed, hnested⟩ := Bool.and_eq_true_iff.mp hr
    obtain ⟨hname, hkey⟩ := of_decide_eq_true hnamed
    refine h member hmember hname hnested m ?_
    exact (FoldedMap.get?_congr p.metricList hkey).symm.trans hm

theorem getMetric_parsed_none (members : JsonMembers) {p : Payload P} {key : Str}
    (h : p.getMetric key = none) :
    (members.foldl (parseJsonMember false) p).getMetric key = none := by
  induction members generalizing p with
  | nil => exact h
  | cons member members ih =>
    apply ih
    unfold parseJsonMember
    split
    · exact h
    · cases p.getMetric member.1 with
      | some _ =>
        have hget : p.metricList.get? key = none := h
        refine (FoldedMap.get?_update p.metricList member.1 key _).trans ?_
        rw [hget]
        split
        · rfl
        · rfl
      | none => exact h

/-- The call is defined, keeps the identity of every metric, adds none unless it may, and changes
nothing for a text that is no object. -/
def KeepsIdentities (isOther : Str → Bool) (p : Payload P) (createMetrics : Bool) : Prop :=
  ∃ q, p.parseSparkplugJson? isOther createMetrics = some q ∧
    (∀ key m, p.getMetric key = some m →
      ∃ n, q.getMetric key = some n ∧ n.identity = m.identity) ∧
    (createMetrics = false → ∀ key, p.getMetric key = none → q.getMetric key = none) ∧
    (P.parseJson p.bodyToString = none → q = p)

/-- The text is not JSON of another kind, and the arrays and objects in it are for metrics of
type `String` only, as far as there are metrics of their names. -/
def HasScalars (isOther : Str → Bool) (p : Payload P) : Prop :=
  (P.parseJson p.bodyToString = none → isOther p.bodyToString = false) ∧
    ∀ members, P.parseJson p.bodyToString = some members → ∀ member ∈ members,
      member.1 ≠ [] → isNested member.2 = true → ∀ m, p.getMetric member.1 = some m →
        m.datatype = .string

/-- A JSON message keeps what the metrics are exactly where it sends no array and no object for
a metric of another type. -/
theorem keepsIdentities_iff (isOther : Str → Bool) (p : Payload P) (createMetrics : Bool) :
    p.KeepsIdentities isOther createMetrics ↔ p.HasScalars isOther := by
  unfold KeepsIdentities HasScalars parseSparkplugJson? parsedJson
  cases P.parseJson p.bodyToString with
  | none =>
    cases hother : isOther p.bodyToString with
    | true =>
      constructor
      · rintro ⟨q, hq, -⟩
        cases hq
      · rintro ⟨hnone, -⟩
        cases hnone rfl
    | false =>
      refine iff_of_true ⟨p, rfl, ?_, fun _ _ h => h, fun _ => rfl⟩ ⟨fun _ => rfl, nofun⟩
      exact fun key m h => ⟨m, h, rfl⟩
  | some members =>
    have hretypes := identities_kept_iff createMetrics members p
    constructor
    · rintro ⟨q, hq, hkept, -⟩
      refine ⟨nofun, fun ms hms => ?_⟩
      rw [← Option.some.inj hms]
      apply hretypes.mp
      rw [Option.some.inj hq]
      exact hkept
    · rintro ⟨-, h⟩
      refine ⟨_, rfl, hretypes.mpr (h members rfl), ?_, nofun⟩
      rintro rfl key hkey
      exact getMetric_parsed_none members hkey

theorem array_retypes_metric :
    let p : Payload Platform.reference :=
      ({ body := str "\x7b\x22m\x22:[]\x7d" } : Payload Platform.reference).addMetric
        { name := str "m", datatype := .int32 }
    (p.getMetric (str "m")).map Metric.datatype = some .int32 ∧
      ((p.parseSparkplugJson false).getMetric (str "m")).map Metric.datatype =
        some .string := by
  decide +kernel

end Payload
end PubSub
