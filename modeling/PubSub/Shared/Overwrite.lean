import PubSub.Shared.Run
import PubSub.Shared.FoldedMap

/-!
# Steps that write over their earlier copies

A step that writes the same as before, whatever was written in between, makes its earlier
copies redundant: in a run of such steps only the last copy of each counts. The words over the
steps have the same property, and so have steps that reach the first match in a list of
entries.
-/

namespace PubSub
set_option autoImplicit false

universe u v w
variable {σ : Type u} {ε : Type v}

/-- A second copy of a step changes nothing more, and it leaves what the second copy alone
would have left, also behind another step. -/
structure Overwriting (step : σ → ε → σ) (Inv : σ → Prop) (ok : ε → Prop) : Prop where
  kept : ∀ {s e}, Inv s → ok e → Inv (step s e)
  again : ∀ {s e}, Inv s → ok e → step (step s e) e = step s e
  behind : ∀ {s e d}, Inv s → ok e → ok d → step (step (step s e) d) e = step (step s d) e

namespace Overwriting
variable {step : σ → ε → σ} {Inv : σ → Prop} {ok : ε → Prop}

theorem run_kept (h : Overwriting step Inv ok) {s : σ} {es : List ε} (hs : Inv s)
    (hes : ∀ e ∈ es, ok e) : Inv (run step s es) := by
  induction es generalizing s with
  | nil => exact hs
  | cons e es ih =>
    exact ih (h.kept hs (hes e List.mem_cons_self))
      fun d hd => hes d (List.mem_cons_of_mem e hd)

/-- A step that comes again later may be left out. -/
theorem run_drop (h : Overwriting step Inv ok) {s : σ} {e : ε} {es : List ε} (hs : Inv s)
    (hes : ∀ d ∈ es, ok d) (he : e ∈ es) : run step (step s e) es = run step s es := by
  induction es generalizing s with
  | nil => cases he
  | cons d es ih =>
    have hd := hes d List.mem_cons_self
    have hrest : ∀ c ∈ es, ok c := fun c hc => hes c (List.mem_cons_of_mem d hc)
    rw [run_cons, run_cons]
    rcases List.mem_cons.mp he with rfl | hlater
    · rw [h.again hs hd]
    · have hok := hrest e hlater
      rw [← ih (h.kept (h.kept hs hok) hd) hrest hlater, h.behind hs hok hd,
        ih (h.kept hs hd) hrest hlater]

theorem run_drop_word (h : Overwriting step Inv ok) {s : σ} {ds es : List ε} (hs : Inv s)
    (hes : ∀ e ∈ es, ok e) (hds : ∀ d ∈ ds, d ∈ es) :
    run step (run step s ds) es = run step s es := by
  induction ds generalizing s with
  | nil => rfl
  | cons d ds ih =>
    have hd : d ∈ es := hds d List.mem_cons_self
    rw [run_cons, ih (h.kept hs (hes d hd)) fun c hc => hds c (List.mem_cons_of_mem d hc)]
    exact h.run_drop hs hes hd

theorem words (h : Overwriting step Inv ok) :
    Overwriting (run step) Inv fun es => ∀ e ∈ es, ok e where
  kept hs hes := h.run_kept hs hes
  again hs hes := h.run_drop_word hs hes fun _ hd => hd
  behind := by
    intro s es ds hs hes hds
    have hboth : ∀ c ∈ ds ++ es, ok c := by
      intro c hc
      rcases List.mem_append.mp hc with hc | hc
      · exact hds c hc
      · exact hes c hc
    rw [← run_append (run step s es), ← run_append s ds]
    exact h.run_drop_word hs hboth fun c hc => List.mem_append_right ds hc

section Entries
variable {α : Type u} {β : Type w} (test : ε → α → β → Bool) (write : ε → β → β)

def atEntry (a : α) (b : β) (e : ε) : β := if test e a b then write e b else b

def atFirst (es : List (α × β)) (e : ε) : List (α × β) :=
  Entries.updateFirst (test e) (write e) es

variable {test write}

theorem atFirst_cons (a : α) (b : β) (es : List (α × β)) (e : ε) :
    atFirst test write ((a, b) :: es) e =
      (a, atEntry test write a b e) :: (if test e a b then es else atFirst test write es e) := by
  unfold atFirst atEntry
  rw [Entries.updateFirst]
  split
  · rfl
  · rfl

/-- An entry whose test no step changes is written over if its steps are. -/
theorem atEntry_static {a : α} {J : β → Prop} (h : Overwriting (fun b e => write e b) J ok)
    (hstatic : ∀ {b e d}, test e a (write d b) = test e a b) :
    Overwriting (atEntry test write a) J ok := by
  have hkept : ∀ {b e}, J b → ok e → J (Overwriting.atEntry test write a b e) := by
    intro b e hb he
    unfold Overwriting.atEntry
    split
    · exact h.kept hb he
    · exact hb
  refine ⟨hkept, ?_, ?_⟩
  · intro b e hb he
    unfold Overwriting.atEntry
    by_cases htest : test e a b = true
    · simp only [if_pos htest, hstatic, h.again hb he]
    · simp only [if_neg htest]
  · intro b e d hb he hd
    unfold Overwriting.atEntry
    by_cases hfirst : test e a b = true
    · by_cases hsecond : test d a b = true
      · simp only [if_pos hfirst, if_pos hsecond, hstatic, h.behind hb he hd]
      · simp only [if_pos hfirst, if_neg hsecond, hstatic, h.again hb he]
    · by_cases hsecond : test d a b = true
      · simp only [if_neg hfirst, if_pos hsecond, hstatic]
      · simp only [if_neg hfirst, if_neg hsecond]

section Each
variable {J : α → β → Prop} (h : ∀ a, Overwriting (atEntry test write a) (J a) ok)
  (hstatic : ∀ {a b e d}, J a b → ok d → test e a (atEntry test write a b d) = test e a b)
include h hstatic

theorem atFirst_again {es : List (α × β)} {e : ε} (hes : ∀ p ∈ es, J p.1 p.2) (he : ok e) :
    atFirst test write (atFirst test write es e) e = atFirst test write es e := by
  induction es with
  | nil => rfl
  | cons p es ih =>
    obtain ⟨a, b⟩ := p
    obtain ⟨hhead, htail⟩ := List.forall_mem_cons.mp hes
    simp only [atFirst_cons, (h a).again hhead he, hstatic hhead he]
    by_cases htest : test e a b = true
    · simp only [if_pos htest]
    · simp only [if_neg htest, ih htail]

/-- The entries are written over if each of them is, and no step changes what passes a test. -/
theorem entries : Overwriting (atFirst test write) (fun es => ∀ p ∈ es, J p.1 p.2) ok where
  kept := by
    intro es e hes he
    induction es with
    | nil => exact hes
    | cons p es ih =>
      obtain ⟨a, b⟩ := p
      obtain ⟨hhead, htail⟩ := List.forall_mem_cons.mp hes
      rw [atFirst_cons]
      refine List.forall_mem_cons.mpr ⟨(h a).kept hhead he, ?_⟩
      split
      · exact htail
      · exact ih htail
  again := atFirst_again h hstatic
  behind := by
    intro es e d hes he hd
    induction es with
    | nil => rfl
    | cons p es ih =>
      obtain ⟨a, b⟩ := p
      obtain ⟨hhead, htail⟩ := List.forall_mem_cons.mp hes
      have hfirst := hstatic (e := e) hhead he
      have hthen := hstatic (e := d) hhead he
      have hsecond := hstatic (e := e) ((h a).kept hhead he) hd
      have halone := hstatic (e := e) hhead hd
      simp only [atFirst_cons, (h a).behind hhead he hd, hthen, hsecond, hfirst, halone]
      -- the two steps reach one entry, or they do not meet
      by_cases hethis : test e a b = true
      · simp only [if_pos hethis]
      · by_cases hdthis : test d a b = true
        · simp only [if_neg hethis, if_pos hdthis, atFirst_again h hstatic htail he]
        · simp only [if_neg hethis, if_neg hdthis, ih htail]

end Each

end Entries

end Overwriting

end PubSub
