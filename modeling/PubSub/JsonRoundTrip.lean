import Mathlib.Data.List.Nodup
import PubSub.JsonFrame
import PubSub.PublishTopics
import PubSub.TextRoundTrip

/-!
# A payload as JSON and back

A value goes from its text into a JSON value of the sender's datatype, through a text whose
zero bytes are escaped, and into the text of a new metric, whose datatype is that of the JSON
value. The two texts are the same, so the getter of the sender's C++ type finds the value
again, although numbers lose their width and sign on the way.
-/

namespace PubSub
open DecimalText
set_option autoImplicit false

def IsUtf8 (s : Str) : Prop := ∃ cs : List Char, s = cs.flatMap String.utf8EncodeChar

namespace JsonValue

def IsPlain : JsonValue → Prop
  | .null | .bool _ | .int64 _ | .uint64 _ => True
  | .string s => IsUtf8 s
  | .double _ | .array | .object => False

/-- What the parser makes of it: a number is an `int64` when it fits. -/
def reparsed : JsonValue → JsonValue
  | .uint64 v => if v.toNat < 9223372036854775808 then .int64 (Int64.ofInt v.toNat) else .uint64 v
  | v => v

def text : JsonValue → Str
  | .bool v => Text.ofBool v
  | .int64 v => intText v.toInt
  | .uint64 v => intText v.toNat
  | .string s => s
  | .null | .double _ | .array | .object => []

theorem reparsed_text (v : JsonValue) : v.reparsed.text = v.text := by
  cases v with
  | uint64 v =>
    dsimp only [reparsed]
    split
    · rename_i hsmall
      have hback : (Int64.ofInt v.toNat).toInt = v.toNat :=
        Int64.toInt_ofInt_of_le (by omega) (by omega)
      exact congrArg intText hback
    · rfl
  | _ => rfl

theorem reparsed_plain {v : JsonValue} (h : v.IsPlain) : v.reparsed.IsPlain := by
  cases v with
  | uint64 v =>
    dsimp only [reparsed]
    split
    · exact trivial
    · exact trivial
  | _ => exact h

theorem reparsed_null (v : JsonValue) : v.reparsed = .null ↔ v = .null := by
  cases v with
  | uint64 v =>
    dsimp only [reparsed]
    split
    · exact iff_of_false (fun h => by cases h) (fun h => by cases h)
    · exact iff_of_false (fun h => by cases h) (fun h => by cases h)
  | _ => rfl

end JsonValue

/-- Members that `boost::json` gives back: distinct names and plain values, all of it UTF-8. -/
structure JsonMembers.IsPlain (ms : JsonMembers) : Prop where
  nodup : (ms.map Prod.fst).Nodup
  names : ∀ m ∈ ms, IsUtf8 m.1
  values : ∀ m ∈ ms, m.2.IsPlain

/-- Parsing undoes serializing, up to the kind of a number, and control characters are
escaped. -/
structure JsonLaws (P : Platform) : Prop where
  parse_serialize : ∀ ms : JsonMembers, ms.IsPlain →
    P.parseJson (P.serializeJson ms) = some (ms.map fun m => (m.1, m.2.reparsed))
  zeroFree : ∀ ms : JsonMembers, ms.IsPlain → 0 ∉ P.serializeJson ms

namespace MetricType

def inJson : MetricType → Bool
  | .int8 | .int16 | .int32 | .int64 | .uint8 | .uint16 | .uint32 | .uint64
  | .boolean | .string | .text => true
  | _ => false

theorem string_or_text {t : MetricType} (hjson : t.inJson = true) (hnumeric : t.isNumeric = false)
    (hboolean : t ≠ .boolean) : t = .string ∨ t = .text := by
  revert hjson hnumeric hboolean
  cases t <;> decide

end MetricType

namespace Metric
variable (P : Platform)

/-- The text of the metric is the one that the setter of the datatype's C++ type left for the
value. -/
structure SetTo (m : Metric) (v : TypedValue) : Prop where
  inJson : m.datatype.inJson = true
  typed : v.type = m.datatype.cppType
  utf8 : ∀ t, v = .text t → IsUtf8 t
  stored : ∃ before : Metric, before.datatype = m.datatype ∧
    m.value = (before.setValue P v).value

/-- The value read through the getter of another datatype's C++ type. -/
def typedAs (t : MetricType) (m : Metric) : TypedValue := { m with datatype := t }.typedValue P

variable {P}

theorem SetTo.value_eq {m : Metric} {v : TypedValue} (h : m.SetTo P v) : m.value = v.asText := by
  obtain ⟨before, htype, hvalue⟩ := h.stored
  have hjson := h.inJson
  rw [hvalue]
  rcases TypedValue.text_or_own h.typed with ⟨t, rfl, hnumeric, -⟩ | ⟨hown, hstring⟩
  · refine before.setString_value P fun hnumber => ?_
    rw [htype, hnumeric] at hnumber
    cases hnumber
  · rw [← hown] at hjson hstring
    cases v with
    | text t => exact absurd rfl hstring
    | float bits => cases hjson
    | double bits => cases hjson
    | _ => rfl

/-- The metric becomes a plain JSON value that stands for the same text. -/
theorem SetTo.jsonValue_eq {m : Metric} {v : TypedValue} (h : m.SetTo P v)
    (hnull : m.isNull = false) : ∃ json, Payload.jsonValue P m = some json ∧ json.IsPlain ∧
      json ≠ .null ∧ json.text = m.value := by
  have hvalue := h.value_eq
  have hjson := h.inJson
  have hutf8 := h.utf8
  have hsigned : ∀ k : Int, -9223372036854775808 ≤ k → k ≤ 9223372036854775807 →
      ∃ json, some (JsonValue.int64 (Text.valueInt64 (intText k))) = some json ∧ json.IsPlain ∧
        json ≠ .null ∧ json.text = intText k :=
    fun k hlo hhi => ⟨_, rfl, trivial, nofun, congrArg intText (Text.toInt_valueInt64 hlo hhi)⟩
  have hunsigned : ∀ n : Nat, n < 18446744073709551616 →
      ∃ json, some (JsonValue.uint64 (Text.valueUInt64 (intText n))) = some json ∧
        json.IsPlain ∧ json ≠ .null ∧ json.text = intText n :=
    fun n hlt => ⟨_, rfl, trivial, nofun,
      congrArg (fun n : Nat => intText n) (Text.toNat_valueUInt64 hlt)⟩
  unfold Payload.jsonValue
  rw [hnull, if_neg Bool.false_ne_true, hvalue]
  rcases TypedValue.text_or_own h.typed with ⟨t, rfl, hnumeric, hboolean⟩ | ⟨hown, hstring⟩
  · have hplain : (JsonValue.string t).IsPlain := hutf8 t rfl
    rcases MetricType.string_or_text hjson hnumeric hboolean with hstring | htext
    · rw [hstring]
      exact ⟨_, rfl, hplain, nofun, rfl⟩
    · rw [htext]
      exact ⟨_, rfl, hplain, nofun, rfl⟩
  · rw [← hown] at hjson hstring ⊢
    cases v with
    | text t => exact absurd rfl hstring
    | float bits => cases hjson
    | double bits => cases hjson
    | boolean b =>
      exact ⟨_, rfl, trivial, nofun, congrArg Text.ofBool (Text.valueBool_ofBool b)⟩
    | int8 v =>
      have hlo := v.le_toInt
      have hhi := v.toInt_lt
      exact hsigned v.toInt (by omega) (by omega)
    | int16 v =>
      have hlo := v.le_toInt
      have hhi := v.toInt_lt
      exact hsigned v.toInt (by omega) (by omega)
    | int32 v =>
      have hlo := v.le_toInt
      have hhi := v.toInt_lt
      exact hsigned v.toInt (by omega) (by omega)
    | int64 v =>
      have hlo := v.le_toInt
      have hhi := v.toInt_lt
      exact hsigned v.toInt (by omega) (by omega)
    | uint8 v => exact hunsigned v.toNat (v.toNat_lt.trans (by decide))
    | uint16 v => exact hunsigned v.toNat (v.toNat_lt.trans (by decide))
    | uint32 v => exact hunsigned v.toNat (v.toNat_lt.trans (by decide))
    | uint64 v => exact hunsigned v.toNat v.toNat_lt

end Metric

namespace Payload
variable {P : Platform}

def received (P : Platform) (member : Str × JsonValue) : Metric :=
  setJsonValue P member.2 { name := member.1, datatype := jsonType member.2 }

theorem received_eq {member : Str × JsonValue} (h : member.2.IsPlain) :
    (received P member).name = member.1 ∧ (received P member).value = member.2.text ∧
      ((received P member).isNull = true ↔ member.2 = .null) := by
  obtain ⟨name, v⟩ := member
  have hfalse : ∀ {json : JsonValue}, json ≠ .null → (false = true ↔ json = .null) :=
    fun hne => iff_of_false Bool.false_ne_true hne
  cases v with
  | null => exact ⟨rfl, rfl, iff_of_true rfl rfl⟩
  | string s =>
    have hset : (received P (name, .string s)) = _ := congrArg
      (fun m : Metric => { m with isNull := false })
      (Metric.setString_of_string (P := P) (m := { name := name, datatype := .string }) rfl s)
    rw [hset]
    exact ⟨rfl, rfl, hfalse nofun⟩
  | double bits => exact absurd h id
  | array => exact absurd h id
  | object => exact absurd h id
  | _ => exact ⟨rfl, rfl, hfalse nofun⟩

theorem parseJsonMember_new {p : Payload P} {member : Str × JsonValue} (hne : member.1 ≠ [])
    (hnew : p.getMetric member.1 = none) :
    (parseJsonMember true p member).getMetric member.1 = some (received P member) := by
  unfold parseJsonMember
  rw [if_neg hne, hnew]
  exact getMetric_withMetric
    (fun m => setJsonValue P member.2 { m with datatype := jsonType member.2 }) hnew

theorem getMetric_parsed {ms : JsonMembers} (hnodup : (ms.map fun m => P.foldKey m.1).Nodup)
    (hne : ∀ m ∈ ms, m.1 ≠ []) {p : Payload P} (hnew : ∀ m ∈ ms, p.getMetric m.1 = none)
    {member : Str × JsonValue} (hmem : member ∈ ms) :
    (ms.foldl (parseJsonMember true) p).getMetric member.1 = some (received P member) := by
  induction ms generalizing p with
  | nil => cases hmem
  | cons first ms ih =>
    obtain ⟨hfirst, hrest⟩ := List.nodup_cons.mp hnodup
    have hother : ∀ m ∈ ms, P.foldKey m.1 ≠ P.foldKey first.1 :=
      fun m hm heq => hfirst (List.mem_map.mpr ⟨m, hm, heq⟩)
    rw [List.foldl_cons]
    rcases List.mem_cons.mp hmem with rfl | htail
    · rw [getMetric_foldl_ne true hother]
      exact parseJsonMember_new (hne _ List.mem_cons_self) (hnew _ List.mem_cons_self)
    · refine ih hrest (fun m hm => hne m (List.mem_cons_of_mem first hm)) (fun m hm => ?_) htail
      rw [getMetric_parseJsonMember_ne (Ne.symm (hother m hm))]
      exact hnew m (List.mem_cons_of_mem first hm)

def entryNames (p : Payload P) : List Str := p.metricList.entries.map Prod.fst

theorem entryNames_parseJsonMember {p : Payload P} {member : Str × JsonValue} {name : Str}
    (h : name ∈ (parseJsonMember true p member).entryNames) :
    name ∈ p.entryNames ∨ name = member.1 := by
  have hupdate : ∀ (q : Payload P) (f : Metric → Metric),
      (q.updateMetric member.1 f).entryNames = q.entryNames :=
    fun q _ => Entries.updateFirst_keys _ _ q.metricList.entries
  unfold parseJsonMember at h
  split at h
  · exact Or.inl h
  · split at h
    · rw [hupdate] at h
      exact Or.inl h
    · rw [if_pos rfl, hupdate] at h
      obtain ⟨e, he, rfl⟩ := List.mem_map.mp h
      rcases Entries.mem_insert_subset he with hnew | hold
      · exact Or.inr (congrArg Prod.fst hnew)
      · exact Or.inl (List.mem_map_of_mem hold)

theorem entryNames_parsed {ms : JsonMembers} {p : Payload P} {name : Str}
    (h : name ∈ (ms.foldl (parseJsonMember true) p).entryNames) :
    name ∈ p.entryNames ∨ name ∈ ms.map Prod.fst := by
  induction ms generalizing p with
  | nil => exact Or.inl h
  | cons first ms ih =>
    rw [List.map_cons]
    rcases ih h with hparsed | hrest
    · rcases entryNames_parseJsonMember hparsed with hold | hfirst
      · exact Or.inl hold
      · exact Or.inr (hfirst ▸ List.mem_cons_self)
    · exact Or.inr (List.mem_cons_of_mem first.1 hrest)

/-- The metrics that are null or set: what JSON carries. -/
def Carried (p : Payload P) : Prop :=
  ∀ e ∈ p.metricList.entries, e.1 ≠ [] →
    IsUtf8 e.1 ∧ (e.2.isNull = true ∨ ∃ v, e.2.SetTo P v)

/-- Every metric with a name has a JSON value, which tells its text and its null flag. -/
theorem Carried.jsonValue_eq {p : Payload P} (h : p.Carried) {e : Str × Metric}
    (he : e ∈ p.metricList.entries) (hne : e.1 ≠ []) :
    ∃ json, jsonValue P e.2 = some json ∧ json.IsPlain ∧
      (e.2.isNull = true ↔ json = .null) ∧ (e.2.isNull = false → json.text = e.2.value) := by
  cases hnull : e.2.isNull with
  | true => exact ⟨.null, if_pos hnull, trivial, iff_of_true rfl rfl, nofun⟩
  | false =>
    obtain ⟨v, hv⟩ := (h e he hne).2.resolve_left (by rw [hnull]; exact Bool.false_ne_true)
    obtain ⟨json, hjson, hplain, hvalue, htext⟩ := hv.jsonValue_eq hnull
    exact ⟨json, hjson, hplain, iff_of_false Bool.false_ne_true hvalue, fun _ => htext⟩

theorem Carried.plain {p : Payload P} (h : p.Carried) : p.jsonMembers.IsPlain where
  nodup := p.jsonMembers_nodup
  names := by
    rintro ⟨name, json⟩ hmem
    obtain ⟨m, hm, hne, -⟩ := mem_jsonMembers.mp hmem
    exact (h (name, m) hm hne).1
  values := by
    rintro ⟨name, json⟩ hmem
    obtain ⟨m, hm, hne, hjson⟩ := mem_jsonMembers.mp hmem
    obtain ⟨v, hv, hplain, -⟩ := h.jsonValue_eq hm hne
    cases hjson.symm.trans hv
    exact hplain

theorem jsonMembers_folded (p : Payload P) : (p.jsonMembers.map fun m => P.foldKey m.1).Nodup := by
  refine List.Nodup.map_on ?_ (p.jsonMembers_nodup.of_map _)
  rintro ⟨a, u⟩ ha ⟨b, v⟩ hb hfold
  obtain ⟨m, hm, -, hu⟩ := mem_jsonMembers.mp ha
  obtain ⟨n, hn, -, hv⟩ := mem_jsonMembers.mp hb
  cases Entries.eq_of_sameKey p.metricList.sorted hm hn hfold
  rw [Option.some.inj (hu.symm.trans hv)]

theorem Carried.parsed {p q : Payload P} (h : p.Carried) (laws : JsonLaws P)
    (hempty : q.metricList.entries = []) (hbody : q.body = p.generateJson.body) :
    (∀ name, name ∈ (q.parseSparkplugJson true).entryNames → name ∈ p.jsonMembers.map Prod.fst) ∧
      ∀ member ∈ p.jsonMembers, (member.1, received P (member.1, member.2.reparsed)) ∈
        (q.parseSparkplugJson true).metricList.entries := by
  have hparse : q.parseSparkplugJson true =
      (p.jsonMembers.map fun m => (m.1, m.2.reparsed)).foldl (parseJsonMember true) q := by
    have htext : q.bodyToString = P.serializeJson p.jsonMembers := by
      unfold bodyToString
      rw [hbody]
      exact cString_eq (laws.zeroFree _ h.plain)
    unfold parseSparkplugJson
    rw [htext, laws.parse_serialize _ h.plain]
  have hnames : ∀ name, name ∈ (q.parseSparkplugJson true).entryNames →
      name ∈ p.jsonMembers.map Prod.fst := by
    intro name hname
    rw [hparse] at hname
    rcases entryNames_parsed hname with hold | hmember
    · rw [entryNames, hempty] at hold
      cases hold
    · rw [List.map_map] at hmember
      exact hmember
  refine ⟨hnames, fun member hmem => ?_⟩
  have hreparsed : (member.1, member.2.reparsed) ∈
      p.jsonMembers.map fun m => (m.1, m.2.reparsed) := List.mem_map.mpr ⟨member, hmem, rfl⟩
  have hget : (q.parseSparkplugJson true).getMetric member.1 =
      some (received P (member.1, member.2.reparsed)) := by
    rw [hparse]
    refine getMetric_parsed ?_ ?_ ?_ hreparsed
    · rw [List.map_map]
      exact p.jsonMembers_folded
    · rintro m hm
      obtain ⟨e, he, rfl⟩ := List.mem_map.mp hm
      exact (mem_jsonMembers.mp he).choose_spec.2.1
    · intro m _
      unfold getMetric FoldedMap.get?
      rw [hempty]
      rfl
  obtain ⟨name, hentry, hfold⟩ := FoldedMap.get?_mem hget
  obtain ⟨other, hother, rfl⟩ := List.mem_map.mp (hnames name (List.mem_map_of_mem hentry))
  rw [List.inj_on_of_nodup_map p.jsonMembers_folded hother hmem hfold] at hentry
  exact hentry

/-- The metrics of the sender come back: their names, their null flags, and what the getter of
the sender's datatype reads. -/
theorem json_round_trip (laws : JsonLaws P) {p q : Payload P} (h : p.Carried)
    (hempty : q.metricList.entries = []) (hbody : q.body = p.generateJson.body) :
    (∀ name, name ∈ (q.parseSparkplugJson true).entryNames ↔ name ≠ [] ∧ name ∈ p.entryNames) ∧
      ∀ name m n, (name, m) ∈ p.metricList.entries →
        (name, n) ∈ (q.parseSparkplugJson true).metricList.entries →
          n.name = name ∧ n.isNull = m.isNull ∧
            (m.isNull = false → n.typedAs P m.datatype = m.typedValue P) := by
  obtain ⟨hnames, hmembers⟩ := h.parsed laws hempty hbody
  have hmember : ∀ name m, name ≠ [] → (name, m) ∈ p.metricList.entries →
      ∃ json : JsonValue,
        (name, received P (name, json.reparsed)) ∈
            (q.parseSparkplugJson true).metricList.entries ∧
          json.IsPlain ∧ (m.isNull = true ↔ json = .null) ∧
          (m.isNull = false → json.text = m.value) := by
    intro name m hne hm
    obtain ⟨json, hjson, hplain, hnull, htext⟩ := h.jsonValue_eq hm hne
    exact ⟨json, hmembers (name, json) (mem_jsonMembers.mpr ⟨m, hm, hne, hjson⟩), hplain, hnull,
      htext⟩
  constructor
  · intro name
    constructor
    · intro hname
      obtain ⟨⟨_, json⟩, hmem, rfl⟩ := List.mem_map.mp (hnames name hname)
      obtain ⟨m, hm, hne, -⟩ := mem_jsonMembers.mp hmem
      exact ⟨hne, List.mem_map_of_mem hm⟩
    · rintro ⟨hne, hname⟩
      obtain ⟨⟨_, m⟩, hm, rfl⟩ := List.mem_map.mp hname
      obtain ⟨json, hentry, -⟩ := hmember _ m hne hm
      exact List.mem_map.mpr ⟨_, hentry, rfl⟩
  · intro name m n hm hn
    have hne : name ≠ [] := by
      obtain ⟨⟨_, json⟩, hmem, rfl⟩ := List.mem_map.mp (hnames name (List.mem_map_of_mem hn))
      exact (mem_jsonMembers.mp hmem).choose_spec.2.1
    obtain ⟨json, hentry, hplain, hnull, htext⟩ := hmember name m hne hm
    cases Entries.eq_of_sameKey (q.parseSparkplugJson true).metricList.sorted hn hentry rfl
    obtain ⟨hname, hvalue, hisNull⟩ :=
      @received_eq P (name, json.reparsed) (JsonValue.reparsed_plain hplain)
    refine ⟨hname, Bool.eq_iff_iff.mpr ?_, fun hvalued => ?_⟩
    · exact hisNull.trans ((JsonValue.reparsed_null json).trans hnull.symm)
    · have hsame : (received P (name, json.reparsed)).value = m.value :=
        hvalue.trans ((JsonValue.reparsed_text json).trans (htext hvalued))
      unfold Metric.typedAs Metric.typedValue
      dsimp only
      rw [hsame]

end Payload

theorem JsonLaws.reference : JsonLaws .reference where
  parse_serialize ms h := by
    have hsame : ∀ m ∈ ms, FlatJson.reread m.2 = m.2.reparsed := by
      intro m hm
      have hplain := h.values m hm
      cases hvalue : m.2 with
      | double bits =>
        rw [hvalue] at hplain
        exact absurd hplain id
      | _ => rfl
    refine (FlatJson.read_write ms).trans (congrArg some (List.map_congr_left fun m hm => ?_))
    rw [hsame m hm]
  zeroFree ms _ := FlatJson.write_zero ms

namespace Payload

/-- A null metric, a number that does not fit, and zero bytes in a name and a text. -/
def carriedMetrics : List Metric :=
  [{ name := str "n", isNull := true },
    Metric.setValue .reference (.uint64 9223372036854775808)
      { name := str "u", datatype := .uint64 },
    Metric.setValue .reference (.text [0, 10]) { name := [97, 0], datatype := .text }]

def carried : Payload .reference := carriedMetrics.foldl addMetric {}

theorem carried_carried : carried.Carried := by
  have hentries : carried.metricList.entries =
      [([97, 0], Metric.setValue .reference (.text [0, 10]) { name := [97, 0], datatype := .text }),
        (str "n", { name := str "n", isNull := true }),
        (str "u", Metric.setValue .reference (.uint64 9223372036854775808)
          { name := str "u", datatype := .uint64 })] := rfl
  intro e he hne
  rw [hentries] at he
  rcases List.mem_cons.mp he with rfl | he
  · refine ⟨⟨['a', '\x00'], by decide +kernel⟩, Or.inr ⟨.text [0, 10], rfl, rfl, ?_, ?_⟩⟩
    · rintro t ⟨⟩
      exact ⟨['\x00', '\n'], by decide +kernel⟩
    · exact ⟨{ name := [97, 0], datatype := .text }, rfl, rfl⟩
  rcases List.mem_cons.mp he with rfl | he
  · exact ⟨⟨['n'], by decide +kernel⟩, Or.inl rfl⟩
  · rw [List.mem_singleton.mp he]
    refine ⟨⟨['u'], by decide +kernel⟩,
      Or.inr ⟨.uint64 9223372036854775808, rfl, rfl, nofun, ?_⟩⟩
    exact ⟨{ name := str "u", datatype := .uint64 }, rfl, rfl⟩

theorem json_round_trip_holds :
    let q : Payload .reference := { body := carried.generateJson.body }
    [97, 0] ∈ (q.parseSparkplugJson true).entryNames := by
  intro q
  have hback := json_round_trip JsonLaws.reference (q := q) carried_carried rfl rfl
  exact (hback.1 [97, 0]).mpr ⟨nofun, by decide +kernel⟩

end Payload
end PubSub
