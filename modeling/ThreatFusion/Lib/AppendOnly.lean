import ThreatFusion.Lib.Machine
import Mathlib.Data.List.Nodup
/-
# Tables that only grow

A table is a list of rows under a key. Its steps add one row under a new key, or leave the table alone, and the
reply of a step tells which (`wrote`).

* `Step`: what one step may do to a sound table. `Grows` is a machine all of whose steps are such.
* `Grows.sound`, `Grows.kept`: every table of a run is sound, and a later one has the rows of an earlier one
  before its own.
* `Grows.mem_iff`: the rows of a table are those that the steps before it wrote. `Grows.once`: a key is written once.
-/
namespace AppendOnly
open Machine

variable {ρ κ ι ο : Type}

structure Sound (key : ρ → κ) (P : ρ → Prop) (rows : List ρ) : Prop where
  holds : ∀ r ∈ rows, P r
  keyed : (rows.map key).Nodup

/-- What a step with this input and this reply does to a table. -/
inductive Step (key : ρ → κ) (wrote : ι → ο → ρ → Prop) (i : ι) (o : ο) (rows : List ρ) : List ρ → Prop where
  | same (h : ∀ r, ¬ wrote i o r) : Step key wrote i o rows rows
  | added (r : ρ) (h : wrote i o r) (only : ∀ r', wrote i o r' → r' = r) (fresh : key r ∉ rows.map key) :
    Step key wrote i o rows (rows ++ [r])

section
variable {key : ρ → κ} {P : ρ → Prop} {wrote : ι → ο → ρ → Prop} {i : ι} {o : ο} {rows rows' : List ρ}

theorem sound_nil : Sound key P [] := ⟨nofun, List.nodup_nil⟩

theorem Step.sound (h : Step key wrote i o rows rows') (hwrote : ∀ r, wrote i o r → P r) (hs : Sound key P rows) :
    Sound key P rows' := by
  cases h with
  | same => exact hs
  | added r hr _ hfresh =>
    constructor
    · intro r' hr'
      rcases List.mem_append.1 hr' with hr' | hr'
      · exact hs.holds r' hr'
      · exact List.mem_singleton.1 hr' ▸ hwrote r hr
    · rw [List.map_append, List.map_singleton, ← List.concat_eq_append]
      exact hs.keyed.concat hfresh

theorem Step.kept (h : Step key wrote i o rows rows') : rows <+: rows' := by
  cases h with
  | same => exact List.prefix_rfl
  | added r => exact List.prefix_append _ _

theorem Step.mem_iff (h : Step key wrote i o rows rows') (r : ρ) : r ∈ rows' ↔ r ∈ rows ∨ wrote i o r := by
  cases h with
  | same hno => simp [hno r]
  | added r₀ hr₀ honly =>
    rw [List.mem_append, List.mem_singleton]
    exact or_congr_right ⟨fun heq => heq ▸ hr₀, honly r⟩

theorem Step.fresh (h : Step key wrote i o rows rows') {r : ρ} (hr : wrote i o r) : key r ∉ rows.map key := by
  cases h with
  | same hno => exact absurd hr (hno r)
  | added r₀ _ honly hfresh => exact honly r hr ▸ hfresh

theorem Step.unchanged (h : Step key wrote i o rows rows') (hno : ∀ r, ¬ wrote i o r) : rows' = rows := by
  cases h with
  | same => rfl
  | added r hr => exact absurd hr (hno r)

end

/-- A machine over a table whose steps only add to it. -/
structure Grows (key : ρ → κ) (P : ρ → Prop) (wrote : ι → ο → ρ → Prop) (step : List ρ → ι → ο × List ρ) : Prop where
  step : ∀ rows i, Sound key P rows → Step key wrote i (step rows i).1 rows (step rows i).2
  wrote : ∀ i o r, wrote i o r → P r

section
variable {key : ρ → κ} {P : ρ → Prop} {wrote : ι → ο → ρ → Prop} {step : List ρ → ι → ο × List ρ} {is : List ι}

theorem Grows.sound (h : Grows key P wrote step) (k : Nat) : Sound key P (stateAt step [] is k) := by
  apply stateAt_inv (I := Sound key P)
  · exact fun rows i hs => (h.step rows i hs).sound (h.wrote i _) hs
  · exact sound_nil

theorem Grows.kept (h : Grows key P wrote step) {j k : Nat} (hjk : j ≤ k) :
    stateAt step [] is j <+: stateAt step [] is k := by
  apply stateAt_rel (I := Sound key P) (R := fun a b => a <+: b)
  · exact fun rows i hs => (h.step rows i hs).sound (h.wrote i _) hs
  · exact sound_nil
  · exact fun rows => List.prefix_rfl
  · exact fun _ _ _ => List.IsPrefix.trans
  · exact fun rows i hs => (h.step rows i hs).kept
  · exact hjk

/-- Step `j` of the run wrote row `r`. -/
def Writes (wrote : ι → ο → ρ → Prop) (step : List ρ → ι → ο × List ρ) (is : List ι) (j : Nat) (r : ρ) : Prop :=
  ∃ rows i o rows', Happens step [] is j rows i o rows' ∧ wrote i o r

theorem Grows.happens (h : Grows key P wrote step) {j : Nat} {rows rows' : List ρ} {i : ι} {o : ο}
    (hj : Happens step [] is j rows i o rows') : Step key wrote i o rows rows' := by
  have hs : Sound key P rows := hj.before ▸ h.sound j
  have hstep := h.step rows i hs
  rwa [hj.reply, hj.after] at hstep

theorem Grows.mem_iff (h : Grows key P wrote step) (k : Nat) (r : ρ) :
    r ∈ stateAt step [] is k ↔ ∃ j < k, Writes wrote step is j r := by
  induction k with
  | zero =>
    constructor
    · nofun
    · rintro ⟨j, hj, -⟩
      exact absurd hj (Nat.not_lt_zero j)
  | succ k ih =>
    cases hi : is[k]? with
    | none =>
      rw [stateAt_succ_none step hi, ih]
      refine exists_congr fun j => ?_
      constructor
      · exact fun ⟨hj, hw⟩ => ⟨Nat.lt_succ_of_lt hj, hw⟩
      · rintro ⟨hj, hw⟩
        refine ⟨?_, hw⟩
        -- the run is over before step `k`, so step `j` is none of its later ones
        obtain ⟨_, i, _, _, hhappens, -⟩ := hw
        rcases Nat.lt_succ_iff_lt_or_eq.1 hj with hlt | rfl
        · exact hlt
        · rw [hhappens.input] at hi
          cases hi
    | some i =>
      have hk : Happens step [] is k _ i _ _ := happens_of_input hi
      rw [(h.happens hk).mem_iff, ih]
      constructor
      · rintro (⟨j, hj, hw⟩ | hw)
        · exact ⟨j, Nat.lt_succ_of_lt hj, hw⟩
        · exact ⟨k, Nat.lt_succ_self k, _, _, _, _, hk, hw⟩
      · rintro ⟨j, hj, hw⟩
        rcases Nat.lt_succ_iff_lt_or_eq.1 hj with hlt | rfl
        · exact .inl ⟨j, hlt, hw⟩
        · obtain ⟨rows, i', o, rows', hj', hwrote⟩ := hw
          obtain rfl : i' = i := Option.some.inj (hj'.input.symm.trans hi)
          rw [← hj'.reply, hj'.before] at hwrote
          exact .inr hwrote

theorem Grows.fresh (h : Grows key P wrote step) {j : Nat} {r : ρ} (hw : Writes wrote step is j r) :
    key r ∉ (stateAt step [] is j).map key := by
  obtain ⟨rows, i, o, rows', hj, hwrote⟩ := hw
  exact hj.before ▸ (h.happens hj).fresh hwrote

/-- Two steps that write one key are one step. -/
theorem Grows.once (h : Grows key P wrote step) {j k : Nat} {r s : ρ} (hr : Writes wrote step is j r)
    (hs : Writes wrote step is k s) (hkey : key r = key s) : j = k := by
  have hbefore : ∀ {j k : Nat} {r s : ρ}, Writes wrote step is j r → Writes wrote step is k s →
      key r = key s → ¬ j < k := by
    intro j k r s hr hs hkey hlt
    exact h.fresh hs (List.mem_map.2 ⟨r, (h.mem_iff k r).2 ⟨j, hlt, hr⟩, hkey⟩)
  rcases Nat.lt_trichotomy j k with hlt | heq | hlt
  · exact absurd hlt (hbefore hr hs hkey)
  · exact heq
  · exact absurd hlt (hbefore hs hr hkey.symm)

end
end AppendOnly
