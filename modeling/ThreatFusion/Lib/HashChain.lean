import Mathlib.Data.List.Basic
/-
# Hash chains

A row carries a tag of its own and names the tag of the row before it. `Chained link` says that every row
is `link`ed to its position and to the tag it follows; `headTag` is the tag the next row has to follow.

* `chained_append_singleton`: a chain grows at its end by one linked row.
* `Chained.mono`, `Chained.get`: what every link gives, every row of the chain has.
* `Chained.commit`: when a tag pins down its row and the tag before, two chains of one length and one head
  have the same rows.
* `Chained.of_forall₂`: row by row, a chain may be replaced by rows with the same tags and links.
-/
namespace HashChain

variable {ρ η : Type} (tag : ρ → η)

/-- The rows from position `n` on, after tag `h`. -/
def Chained (link : Nat → η → ρ → Prop) : Nat → η → List ρ → Prop
  | _, _, [] => True
  | n, h, r :: rs => link n h r ∧ Chained link (n + 1) (tag r) rs

def headTag (h : η) (rs : List ρ) : η := (rs.getLast?.map tag).getD h

attribute [local grind] Chained

@[simp] theorem headTag_nil (h : η) : headTag tag h [] = h := rfl

@[simp] theorem headTag_cons (h : η) (r : ρ) (rs : List ρ) :
    headTag tag h (r :: rs) = headTag tag (tag r) rs := by
  cases rs with
  | nil => rfl
  | cons s rs => simp [headTag, List.getLast?_cons]

@[simp] theorem headTag_append_singleton (h : η) (rs : List ρ) (r : ρ) :
    headTag tag h (rs ++ [r]) = tag r := by
  simp [headTag]

variable {tag} {link link' : Nat → η → ρ → Prop}

theorem chained_append_singleton {r : ρ} : ∀ {n : Nat} {h : η} {rs : List ρ},
    Chained tag link n h (rs ++ [r]) ↔
      Chained tag link n h rs ∧ link (n + rs.length) (headTag tag h rs) r
  | n, h, [] => by simp [Chained]
  | n, h, s :: rs => by
    rw [List.cons_append, Chained, Chained, chained_append_singleton, headTag_cons, List.length_cons,
      and_assoc, Nat.add_right_comm, Nat.add_assoc n]

theorem Chained.mono (himp : ∀ n h r, link n h r → link' n h r) : ∀ {n : Nat} {h : η} {rs : List ρ},
    Chained tag link n h rs → Chained tag link' n h rs
  | _, _, [], _ => trivial
  | _, _, _ :: _, hc => ⟨himp _ _ _ hc.1, hc.2.mono himp⟩

/-- What every row has may be added to the link. -/
theorem Chained.and_forall {Q : ρ → Prop} : ∀ {n : Nat} {h : η} {rs : List ρ}, Chained tag link n h rs → (∀ r ∈ rs, Q r) →
    Chained tag (fun n h r => link n h r ∧ Q r) n h rs
  | _, _, [], _, _ => trivial
  | _, _, r :: _, hc, hq =>
    ⟨⟨hc.1, hq r List.mem_cons_self⟩, hc.2.and_forall fun s hs => hq s (List.mem_cons_of_mem r hs)⟩

/-- The row at position `n + i` is linked to the tag of the row before it. -/
theorem Chained.get : ∀ {n : Nat} {h : η} {rs : List ρ} {i : Nat} {r : ρ}, Chained tag link n h rs →
    rs[i]? = some r → link (n + i) (headTag tag h (rs.take i)) r
  | _, _, [], _, _, _, hr => by simp at hr
  | n, h, s :: rs, 0, r, hc, hr => by
    obtain rfl : s = r := by simpa using hr
    exact hc.1
  | n, h, s :: rs, i + 1, r, hc, hr => by
    have hrest := hc.2.get (i := i) (by simpa using hr)
    rw [Nat.add_right_comm] at hrest
    rw [List.take_succ_cons, headTag_cons]
    exact hrest

/-- **The head commits to the chain.** -/
theorem Chained.commit {Same : ρ → ρ → Prop}
    (pinned : ∀ n h k r s, link n h r → link' n k s → tag r = tag s → h = k ∧ Same r s) :
    ∀ {n : Nat} {h k : η} {rs ss : List ρ}, Chained tag link n h rs → Chained tag link' n k ss →
      rs.length = ss.length → headTag tag h rs = headTag tag k ss → h = k ∧ List.Forall₂ Same rs ss
  | _, _, _, [], [], _, _, _, hhead => ⟨hhead, .nil⟩
  | _, _, _, [], _ :: _, _, _, hlen, _ => by simp at hlen
  | _, _, _, _ :: _, [], _, _, hlen, _ => by simp at hlen
  | n, h, k, r :: rs, s :: ss, hr, hs, hlen, hhead => by
    rw [headTag_cons, headTag_cons] at hhead
    -- the tails agree first: their common head gives the tags of `r` and `s`
    obtain ⟨htag, hrest⟩ := hr.2.commit pinned hs.2 (by simpa using hlen) hhead
    obtain ⟨hprev, hsame⟩ := pinned n h k r s hr.1 hs.1 htag
    exact ⟨hprev, .cons hsame hrest⟩

/-- Rows that stand for the rows of a chain form one. -/
theorem Chained.of_forall₂ {Same : ρ → ρ → Prop} (htag : ∀ r s, Same r s → tag r = tag s)
    (hlink : ∀ n h r s, Same r s → link' n h s → link n h r) :
    ∀ {n : Nat} {h : η} {rs ss : List ρ}, List.Forall₂ Same rs ss → Chained tag link' n h ss →
      Chained tag link n h rs
  | _, _, _, _, .nil, _ => trivial
  | _, _, r :: _, s :: _, .cons hsame hrest, hc => by
    refine ⟨hlink _ _ _ _ hsame hc.1, ?_⟩
    rw [htag r s hsame]
    exact Chained.of_forall₂ htag hlink hrest hc.2

theorem headTag_forall₂ {Same : ρ → ρ → Prop} (htag : ∀ r s, Same r s → tag r = tag s) :
    ∀ {h : η} {rs ss : List ρ}, List.Forall₂ Same rs ss → headTag tag h rs = headTag tag h ss
  | _, _, _, .nil => rfl
  | _, r :: _, s :: _, .cons hsame hrest => by
    rw [headTag_cons, headTag_cons, htag r s hsame]
    exact headTag_forall₂ htag hrest

end HashChain
