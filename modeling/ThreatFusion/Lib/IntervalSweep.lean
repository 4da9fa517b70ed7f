import Mathlib.Order.Lattice
import Mathlib.Order.Max
import Mathlib.Logic.Relation
import Mathlib.Data.List.Pairwise
/-
# Sweeping closed intervals

Spans with a key are swept in the order of `(key, start)`. A component stays open while the next span has its
key and starts no later than the greatest end so far; every span that joins is paired with the first one.

* `Span.Meets`: the same key, and closed intervals that overlap or touch.
* `pairs_iff`: the pairs of a sweep generate the same equivalence as `Meets`.
-/
namespace IntervalSweep
open Relation

structure Span (κ τ ι : Type) where
  key : κ
  start : τ
  stop : τ
  id : ι

variable {κ τ ι : Type} [LinearOrder κ] [LinearOrder τ]

/-- Two spans of one key whose closed intervals have a point in common. -/
structure Span.Meets (a b : Span κ τ ι) : Prop where
  key : a.key = b.key
  before : a.start ≤ b.stop
  after : b.start ≤ a.stop

omit [LinearOrder κ] in
theorem Span.Meets.symm {a b : Span κ τ ι} (h : a.Meets b) : b.Meets a := ⟨h.key.symm, h.after, h.before⟩

/-- The order of the sweep. -/
def Span.notAfter (a b : Span κ τ ι) : Prop := a.key < b.key ∨ a.key = b.key ∧ a.start ≤ b.start

/-- The open component has the identity of its first span and the greatest end of all. -/
def pairs : Option (Span κ τ ι) → List (Span κ τ ι) → List (ι × ι)
  | _, [] => []
  | none, span :: rest => pairs (some span) rest
  | some component, span :: rest =>
    if component.key = span.key ∧ span.start ≤ component.stop then
      (component.id, span.id) :: pairs (some { component with stop := max component.stop span.stop }) rest
    else pairs (some span) rest

/-- Linked by pairs of a sweep. -/
abbrev Paired (pairs : List (ι × ι)) : ι → ι → Prop := EqvGen fun a b => (a, b) ∈ pairs

/-- Linked by spans that meet. -/
abbrev Chained (spans : List (Span κ τ ι)) : ι → ι → Prop :=
  EqvGen fun a b => ∃ r ∈ spans, ∃ s ∈ spans, r.Meets s ∧ r.id = a ∧ s.id = b

attribute [local grind] pairs

theorem Paired.cons {ps : List (ι × ι)} {p : ι × ι} {a b : ι} (h : Paired ps a b) : Paired (p :: ps) a b :=
  h.mono fun _ _ hmem => List.mem_cons_of_mem _ hmem

omit [LinearOrder κ] in
theorem Chained.cons {spans : List (Span κ τ ι)} {span : Span κ τ ι} {a b : ι} (h : Chained spans a b) :
    Chained (span :: spans) a b :=
  h.mono fun _ _ ⟨r, hr, s, hs, hrs⟩ => ⟨r, List.mem_cons_of_mem _ hr, s, List.mem_cons_of_mem _ hs, hrs⟩

/-! ## Completeness: spans that meet are paired -/

/-- A later span of the open component's key that starts in it is linked to it, and spans that meet are linked
to each other. -/
theorem paired_of_meets : ∀ (component : Option (Span κ τ ι)) {spans : List (Span κ τ ι)},
    spans.Pairwise Span.notAfter → (∀ c ∈ component, ∀ r ∈ spans, c.notAfter r) →
    (∀ c ∈ component, ∀ r ∈ spans, r.key = c.key → r.start ≤ c.stop → Paired (pairs component spans) c.id r.id) ∧
    (∀ r ∈ spans, ∀ s ∈ spans, r.Meets s → Paired (pairs component spans) r.id s.id)
  | component, [], _, _ => ⟨fun _ _ _ h => absurd h List.not_mem_nil, fun _ h => absurd h List.not_mem_nil⟩
  | component, span :: rest, hsorted, hopen => by
    obtain ⟨hfirst, hrest⟩ := List.pairwise_cons.1 hsorted
    -- spans that meet, given that the head is linked to those it meets in the rest
    have meeting {ps : List (ι × ι)} (hhead : ∀ s ∈ rest, span.Meets s → Paired ps span.id s.id)
        (htail : ∀ r ∈ rest, ∀ s ∈ rest, r.Meets s → Paired ps r.id s.id) :
        ∀ r ∈ span :: rest, ∀ s ∈ span :: rest, r.Meets s → Paired ps r.id s.id := by
      intro r hr s hs hmeets
      rcases List.mem_cons.1 hr with rfl | hr'
      · rcases List.mem_cons.1 hs with rfl | hs'
        · exact .refl _
        · exact hhead s hs' hmeets
      · rcases List.mem_cons.1 hs with rfl | hs'
        · exact (hhead r hr' hmeets.symm).symm _ _
        · exact htail r hr' s hs' hmeets
    have opens := paired_of_meets (some span) hrest
      (fun c hc r hr => by cases hc; exact hfirst r hr)
    cases component with
    | none =>
      refine ⟨fun c hc => (by cases hc), meeting (fun s hs hmeets => ?_) opens.2⟩
      exact opens.1 span rfl s hs hmeets.key.symm hmeets.after
    | some c =>
      rw [pairs]
      by_cases hjoins : c.key = span.key ∧ span.start ≤ c.stop
      · rw [if_pos hjoins]
        have hlink : Paired ((c.id, span.id) :: pairs (some { c with stop := max c.stop span.stop }) rest) c.id span.id :=
          .rel _ _ List.mem_cons_self
        have ih := paired_of_meets (some { c with stop := max c.stop span.stop }) hrest
          (fun c' hc' r hr => by cases hc'; exact hopen c rfl r (List.mem_cons_of_mem _ hr))
        refine ⟨fun c' hc' r hr hkey hstart => ?_, meeting (fun s hs hmeets => ?_)
          fun r hr s hs hmeets => (ih.2 r hr s hs hmeets).cons⟩
        · cases hc'
          rcases List.mem_cons.1 hr with rfl | hr
          · exact hlink
          · exact (ih.1 _ rfl r hr hkey (hstart.trans (le_max_left _ _))).cons
        · have hinside := (ih.1 _ rfl s hs (hmeets.key.symm.trans hjoins.1.symm)
            (hmeets.after.trans (le_max_right _ _))).cons (p := (c.id, span.id))
          exact (hlink.symm _ _).trans _ _ _ hinside
      · rw [if_neg hjoins]
        refine ⟨fun c' hc' r hr hkey hstart => ?_, meeting (fun s hs hmeets => ?_) opens.2⟩
        · cases hc'
          -- the component is closed: what comes is of a later key, or starts after its end
          exfalso
          rcases hopen c rfl span List.mem_cons_self with hlt | ⟨heq, -⟩
          · rcases List.mem_cons.1 hr with rfl | hr
            · exact absurd hkey hlt.ne'
            · rcases hfirst r hr with h | ⟨h, -⟩
              · exact absurd hkey (hlt.trans h).ne'
              · exact absurd hkey (h ▸ hlt).ne'
          · have hgap : c.stop < span.start := not_le.1 fun h => hjoins ⟨heq, h⟩
            rcases List.mem_cons.1 hr with rfl | hr
            · exact absurd hstart (not_le.2 hgap)
            · rcases hfirst r hr with h | ⟨-, h⟩
              · exact absurd (hkey.trans heq) h.ne'
              · exact absurd hstart (not_le.2 (hgap.trans_le h))
        · exact opens.1 span rfl s hs hmeets.key.symm hmeets.after

/-! ## Soundness: what is paired is chained -/

/-- The component reaches to its end through some span `m` that starts no later than what comes. -/
theorem chained_of_pairs : ∀ (component m : Span κ τ ι) {spans : List (Span κ τ ι)},
    spans.Pairwise Span.notAfter → (∀ r ∈ spans, r.start ≤ r.stop) →
    m.key = component.key → m.stop = component.stop → (∀ r ∈ spans, m.notAfter r) →
    ∀ {a b : ι}, (a, b) ∈ pairs (some component) spans →
      EqvGen (fun x y => (∃ r ∈ m :: spans, ∃ s ∈ m :: spans, r.Meets s ∧ r.id = x ∧ s.id = y) ∨
        x = component.id ∧ y = m.id) a b
  | _, _, [], _, _, _, _, _, _, _, h => absurd h List.not_mem_nil
  | component, m, span :: rest, hsorted, hvalid, hkey, hstop, hbefore, a, b, h => by
    obtain ⟨hfirst, hrest⟩ := List.pairwise_cons.1 hsorted
    have hspan := hvalid span List.mem_cons_self
    have hvalid' : ∀ r ∈ rest, r.start ≤ r.stop := fun r hr => hvalid r (List.mem_cons_of_mem _ hr)
    have inside {r : Span κ τ ι} (hr : r ∈ span :: rest) : r ∈ m :: span :: rest := List.mem_cons_of_mem _ hr
    rw [pairs] at h
    by_cases hjoins : component.key = span.key ∧ span.start ≤ component.stop
    · rw [if_pos hjoins] at h
      have hmeets : m.Meets span := by
        rcases hbefore span List.mem_cons_self with hlt | ⟨heq, hle⟩
        · exact absurd (hkey.trans hjoins.1) hlt.ne
        · exact ⟨heq, hle.trans hspan, hstop ▸ hjoins.2⟩
      have hlinked : EqvGen (fun x y => (∃ r ∈ m :: span :: rest, ∃ s ∈ m :: span :: rest,
          r.Meets s ∧ r.id = x ∧ s.id = y) ∨ x = component.id ∧ y = m.id) component.id span.id :=
        (EqvGen.rel _ _ (.inr ⟨rfl, rfl⟩)).trans _ _ _
          (.rel _ _ (.inl ⟨m, List.mem_cons_self, span, inside List.mem_cons_self, hmeets, rfl, rfl⟩))
      rcases List.mem_cons.1 h with heq | h
      · cases heq
        exact hlinked
      · rcases le_total m.stop span.stop with hle | hle
        · have ih := chained_of_pairs { component with stop := max component.stop span.stop } span hrest hvalid' hjoins.1.symm
            (by rw [← hstop, max_eq_right hle]) hfirst h
          refine EqvGen.eqvGen_le (fun x y hxy => ?_) _ _ ih
          rcases hxy with ⟨r, hr, s, hs, hrs⟩ | ⟨rfl, rfl⟩
          · exact .rel _ _ (.inl ⟨r, inside hr, s, inside hs, hrs⟩)
          · exact hlinked
        · have ih := chained_of_pairs { component with stop := max component.stop span.stop } m hrest hvalid' hkey
            (by rw [← hstop, max_eq_left hle]) (fun r hr => hbefore r (List.mem_cons_of_mem _ hr)) h
          refine ih.mono fun x y hxy => ?_
          rcases hxy with ⟨r, hr, s, hs, hrs⟩ | hxy
          · have hsub {r : Span κ τ ι} (hr : r ∈ m :: rest) : r ∈ m :: span :: rest := by
              rcases List.mem_cons.1 hr with rfl | hr
              · exact List.mem_cons_self
              · exact List.mem_cons_of_mem _ (List.mem_cons_of_mem _ hr)
            exact .inl ⟨r, hsub hr, s, hsub hs, hrs⟩
          · exact .inr hxy
    · rw [if_neg hjoins] at h
      have ih := chained_of_pairs span span hrest hvalid' rfl rfl hfirst h
      refine ih.mono fun x y hxy => ?_
      rcases hxy with ⟨r, hr, s, hs, hrs⟩ | ⟨rfl, rfl⟩
      · exact .inl ⟨r, inside hr, s, inside hs, hrs⟩
      · exact .inl ⟨span, inside List.mem_cons_self, span, inside List.mem_cons_self, ⟨rfl, hspan, hspan⟩, rfl, rfl⟩

/-- **The sweep pairs what meets**: its pairs and the spans that meet generate one equivalence. -/
theorem pairs_iff {spans : List (Span κ τ ι)} (hsorted : spans.Pairwise Span.notAfter)
    (hvalid : ∀ r ∈ spans, r.start ≤ r.stop) (a b : ι) : Paired (pairs none spans) a b ↔ Chained spans a b := by
  constructor
  · refine fun h => EqvGen.eqvGen_le (fun x y hxy => ?_) _ _ h
    cases spans with
    | nil => exact absurd hxy List.not_mem_nil
    | cons span rest =>
      obtain ⟨hfirst, hrest⟩ := List.pairwise_cons.1 hsorted
      have hspan := hvalid span List.mem_cons_self
      have hrest' : ∀ r ∈ rest, r.start ≤ r.stop := fun r hr => hvalid r (List.mem_cons_of_mem _ hr)
      refine (chained_of_pairs span span hrest hrest' rfl rfl hfirst hxy).mono fun u v huv => ?_
      rcases huv with huv | ⟨rfl, rfl⟩
      · exact huv
      · exact ⟨span, List.mem_cons_self, span, List.mem_cons_self, ⟨rfl, hspan, hspan⟩, rfl, rfl⟩
  · refine fun h => EqvGen.eqvGen_le (fun x y hxy => ?_) _ _ h
    obtain ⟨r, hr, s, hs, hmeets, rfl, rfl⟩ := hxy
    exact (paired_of_meets none hsorted fun c hc => (by cases hc)).2 r hr s hs hmeets

end IntervalSweep
