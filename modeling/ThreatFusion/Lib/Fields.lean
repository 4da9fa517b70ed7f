import Mathlib.Data.List.Nodup
import ThreatFusion.Lib.Result
/-
# Lines read into a table

`collect` reads lines one by one into a table of keys and values. A line that cannot be read ends it,
and so does a key that the table has, or one that is refused. Where the lines that can be read are
the texts `f h` of fields `h`, the tables are those of fields with different keys (`collect_ok`).
-/
namespace Fields

variable {ε σ κ ν η : Type} [BEq κ]

def collect (read : σ → Except ε (κ × ν)) (taken : ε) (refuse : κ → Option ε) :
    List σ → List (κ × ν) → Except ε (List (κ × ν))
  | [], table => .ok table
  | line :: lines, table => do
    let entry ← read line
    if (table.lookup entry.1).isSome then .error taken
    else match refuse entry.1 with
      | some e => .error e
      | none => collect read taken refuse lines (table ++ [entry])

variable {read : σ → Except ε (κ × ν)} {taken : ε} {refuse : κ → Option ε}

theorem lookup_isSome [LawfulBEq κ] {table : List (κ × ν)} {k : κ} :
    (table.lookup k).isSome = true ↔ k ∈ table.map Prod.fst := by
  rw [List.lookup_isSome_iff, List.mem_map]
  constructor
  · rintro ⟨e, he, hk⟩
    exact ⟨e, he, (beq_iff_eq.mp hk).symm⟩
  · rintro ⟨e, he, rfl⟩
    exact ⟨e, he, beq_self_eq_true _⟩

/-- What ends it before the last line. -/
theorem collect_error {lines : List σ} {table : List (κ × ν)} {e : ε}
    (h : collect read taken refuse lines table = .error e) :
    (∃ line ∈ lines, read line = .error e) ∨ e = taken ∨ ∃ k, refuse k = some e := by
  induction lines generalizing table with
  | nil => cases h
  | cons line lines ih =>
    rw [collect] at h
    cases hl : read line with
    | error e' =>
      rw [hl, Except.error_bind] at h
      obtain rfl := Except.error.inj h
      exact .inl ⟨line, List.mem_cons_self .., hl⟩
    | ok entry =>
      rw [hl, Except.ok_bind] at h
      by_cases hk : (table.lookup entry.1).isSome
      · rw [if_pos hk] at h
        exact .inr (.inl (Except.error.inj h).symm)
      · rw [if_neg hk] at h
        cases hr : refuse entry.1 with
        | some e' =>
          rw [hr] at h
          exact .inr (.inr ⟨entry.1, hr.trans (congrArg some (Except.error.inj h))⟩)
        | none =>
          rw [hr] at h
          rcases ih h with ⟨l, hl, he⟩ | h
          · exact .inl ⟨l, List.mem_cons_of_mem _ hl, he⟩
          · exact .inr h

variable [LawfulBEq κ]

/-- One line more. -/
theorem collect_cons {line : σ} {lines : List σ} {table t : List (κ × ν)} :
    collect read taken refuse (line :: lines) table = .ok t ↔
      ∃ e, read line = .ok e ∧ e.1 ∉ table.map Prod.fst ∧ refuse e.1 = none ∧
        collect read taken refuse lines (table ++ [e]) = .ok t := by
  rw [collect, Except.bind_eq_ok]
  apply exists_congr
  intro e
  apply and_congr_right
  intro _
  by_cases hk : (table.lookup e.1).isSome
  · rw [if_pos hk]
    simp [lookup_isSome.mp hk]
  · rw [if_neg hk]
    have hmem : e.1 ∉ table.map Prod.fst := fun h => hk (lookup_isSome.mpr h)
    cases hr : refuse e.1 <;> simp [hmem]

variable {P : η → Prop} {f : η → σ} {g : η → κ × ν}

theorem collect_from (hread : ∀ l e, read l = .ok e ↔ ∃ h, P h ∧ l = f h ∧ e = g h) {lines : List σ}
    {table t : List (κ × ν)} (hnodup : (table.map Prod.fst).Nodup) :
    collect read taken refuse lines table = .ok t ↔
      ∃ hs : List η, (∀ h ∈ hs, P h) ∧ lines = hs.map f ∧ t = table ++ hs.map g ∧ (t.map Prod.fst).Nodup ∧
        ∀ h ∈ hs, refuse (g h).1 = none := by
  induction lines generalizing table with
  | nil =>
    constructor
    · intro h
      obtain rfl := Except.ok.inj h
      exact ⟨[], by simp, rfl, by simp, hnodup, by simp⟩
    · rintro ⟨hs, -, hnil, rfl, -⟩
      obtain rfl := List.map_eq_nil_iff.mp hnil.symm
      simp [collect]
  | cons line lines ih =>
    rw [collect_cons]
    constructor
    · rintro ⟨e, he, hfresh, hr, hrest⟩
      obtain ⟨h, hP, rfl, rfl⟩ := (hread line e).mp he
      have hnodup' : ((table ++ [g h]).map Prod.fst).Nodup := by
        rw [List.map_append, List.nodup_append]
        refine ⟨hnodup, by simp, ?_⟩
        rintro k hk _ hk' rfl
        exact hfresh ((List.mem_singleton.mp hk') ▸ hk)
      obtain ⟨hs, hall, rfl, rfl, hkeys, href⟩ := (ih hnodup').mp hrest
      exact ⟨h :: hs, List.forall_mem_cons.mpr ⟨hP, hall⟩, rfl, by simp, hkeys, List.forall_mem_cons.mpr ⟨hr, href⟩⟩
    · rintro ⟨hs, hall, hlines, rfl, hkeys, href⟩
      cases hs with
      | nil => cases hlines
      | cons h hs =>
        obtain ⟨rfl, rfl⟩ := List.cons.inj hlines
        rw [List.forall_mem_cons] at hall href
        have hsplit : table ++ (h :: hs).map g = (table ++ [g h]) ++ hs.map g := by simp
        have hnodup' : ((table ++ [g h]).map Prod.fst).Nodup := by
          rw [hsplit, List.map_append] at hkeys
          exact (List.nodup_append.mp hkeys).1
        have hfresh : (g h).1 ∉ table.map Prod.fst := by
          rw [List.map_append, List.nodup_append] at hnodup'
          exact fun hk => hnodup'.2.2 _ hk _ (by simp) rfl
        exact ⟨g h, (hread _ _).mpr ⟨h, hall.1, rfl, rfl⟩, hfresh, href.1,
          (ih hnodup').mpr ⟨hs, hall.2, rfl, hsplit, hkeys, href.2⟩⟩

/-- **The tables that lines give**: those of readable lines with different keys, none refused. -/
theorem collect_ok (hread : ∀ l e, read l = .ok e ↔ ∃ h, P h ∧ l = f h ∧ e = g h) {lines : List σ} {t : List (κ × ν)} :
    collect read taken refuse lines [] = .ok t ↔
      ∃ hs : List η, (∀ h ∈ hs, P h) ∧ lines = hs.map f ∧ t = hs.map g ∧ (t.map Prod.fst).Nodup ∧
        ∀ h ∈ hs, refuse (g h).1 = none :=
  collect_from hread List.nodup_nil

end Fields
