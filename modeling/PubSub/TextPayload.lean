import PubSub.CodecSimulation
import PubSub.Reference
import PubSub.TextRoundTrip

/-!
# Text payloads

The encoder joins the values of all metrics with semicolons. The decoder gives the whole
text to the first metric, so a payload comes back from its text when it has one metric.
-/

namespace PubSub
set_option autoImplicit false

namespace Payload
variable {P : Platform}

def values (p : Payload P) : List (Str × Str) := p.metricList.entries.map fun e => (e.1, e.2.value)

def shape (p : Payload P) : List (Str × MetricType) :=
  p.metricList.entries.map fun e => (e.1, e.2.datatype)

/-- Metrics of type `String` with values that the encoder keeps apart. -/
structure Separable (p : Payload P) : Prop where
  some : p.metricList.entries ≠ []
  notNull : ∀ e ∈ p.metricList.entries, e.2.isNull = false
  strings : ∀ e ∈ p.metricList.entries, e.2.datatype = .string
  clean : ∀ e ∈ p.metricList.entries, 59 ∉ e.2.value ∧ 0 ∉ e.2.value

/-- The payload after it got a body and parsed it. -/
def receiveText (body : BodyList) (p : Payload P) : Payload P := { p with body := body }.parseText

theorem zero_intercalate {texts : List Str} (h : ∀ t ∈ texts, 0 ∉ t) :
    (0 : UInt8) ∉ List.intercalate [59] texts := by
  induction texts with
  | nil => exact List.not_mem_nil
  | cons t texts ih =>
    have ht := h t List.mem_cons_self
    have hrest := ih fun u hu => h u (List.mem_cons_of_mem t hu)
    cases texts with
    | nil => rwa [List.intercalate_singleton]
    | cons u us =>
      rw [List.intercalate_cons_cons]
      simp only [List.mem_append, List.mem_singleton, not_or]
      exact ⟨⟨ht, by decide⟩, hrest⟩

theorem intercalate_ne_first (t u : Str) (us : List Str) :
    List.intercalate [59] (t :: u :: us) ≠ t := by
  intro h
  have hlength := congrArg List.length h
  rw [List.intercalate_cons_cons] at hlength
  simp only [List.length_append, List.length_singleton] at hlength
  omega

theorem makeString_eq {p : Payload P} (h : p.Separable) :
    p.makeString = List.intercalate [59] (p.metricList.entries.map fun e => e.2.value) := by
  unfold makeString
  refine congrArg (List.intercalate [59]) (List.map_congr_left fun e he => ?_)
  rw [stringField, h.notNull e he]
  rfl

theorem bodyToString_generateText {p : Payload P} (h : p.Separable) :
    cString p.generateText.body = p.makeString := by
  apply cString_eq
  change 0 ∉ p.makeString
  rw [makeString_eq h]
  apply zero_intercalate
  intro t ht
  obtain ⟨e, he, rfl⟩ := List.mem_map.mp ht
  exact (h.clean e he).2

/-- The first metric takes the whole text, and the other metrics keep their values. -/
theorem receiveText_values {r : Payload P} {e : Str × Metric} {es : List (Str × Metric)}
    (hr : r.metricList.entries = e :: es) (htype : e.2.datatype = .string) (body : BodyList) :
    (r.receiveText body).values = (e.1, cString body) :: es.map fun e => (e.1, e.2.value) := by
  have hupdated : (r.receiveText body).metricList.entries =
      (e.1, e.2.setString P (cString body)) :: es := by
    unfold receiveText parseText
    dsimp only [bodyToString]
    rw [hr]
    dsimp only [updateMetric, FoldedMap.update, FoldedMap.entries_updateFirst]
    rw [hr, Entries.updateFirst, if_pos ((Entries.sameKey_iff e.2).mpr rfl)]
  rw [values, hupdated, List.map_cons, Metric.setString_of_string htype]
  rfl

/-- The values come back from the text exactly when there is one metric. -/
theorem text_returns_iff {p r : Payload P} (hp : p.Separable) (hshape : r.shape = p.shape) :
    (r.receiveText p.generateText.body).values = p.values ↔ p.metricList.entries.length = 1 := by
  cases hentries : p.metricList.entries with
  | nil => exact absurd hentries hp.some
  | cons e es =>
    have htext := makeString_eq hp
    rw [hentries, List.map_cons] at htext
    -- the receiver has the same first key, of the type `String`
    unfold shape at hshape
    rw [hentries, List.map_cons] at hshape
    obtain ⟨f, fs, hr, hfirst, hrest⟩ := List.map_eq_cons_iff.mp hshape
    obtain ⟨hkey, htype⟩ := Prod.mk.inj hfirst
    have hstring : e.2.datatype = .string :=
      hp.strings e (hentries ▸ List.mem_cons_self)
    rw [receiveText_values hr (htype.trans hstring), bodyToString_generateText hp, htext, hkey,
      values, hentries, List.map_cons]
    cases es with
    | nil =>
      obtain rfl := List.map_eq_nil_iff.mp hrest
      simp
    | cons d ds =>
      constructor
      · intro h
        exact absurd (Prod.mk.inj (List.cons.inj h).1).2 (intercalate_ne_first _ _ _)
      · intro h
        simp at h

end Payload

namespace TextPayload

def textMetric (name value : Str) : Metric := { name := name, datatype := .string, value := value }

def onePayload (value : Str) : Payload .reference :=
  ({} : Payload .reference).addMetric (textMetric (str "a") value)

def twoPayload (first second : Str) : Payload .reference :=
  (onePayload first).addMetric (textMetric (str "b") second)

end TextPayload

open TextPayload in
theorem one_text_returns :
    ((onePayload (str "old")).receiveText (onePayload (str "1 bar")).generateText.body).values =
      (onePayload (str "1 bar")).values :=
  (Payload.text_returns_iff (p := onePayload (str "1 bar")) (r := onePayload (str "old"))
    ⟨nofun, by decide +kernel, by decide +kernel, by decide +kernel⟩ (by decide +kernel)).mpr
      (by decide +kernel)

open TextPayload in
/-- The text of two metrics, `1;2`, is the value of the first one afterwards. -/
theorem two_texts_are_joined :
    (twoPayload (str "1") (str "2")).Separable ∧
      (twoPayload [] []).shape = (twoPayload (str "1") (str "2")).shape ∧
      ((twoPayload [] []).receiveText
        (twoPayload (str "1") (str "2")).generateText.body).values ≠
          (twoPayload (str "1") (str "2")).values :=
  ⟨⟨nofun, by decide +kernel, by decide +kernel, by decide +kernel⟩, by decide +kernel,
    by decide +kernel⟩

end PubSub
