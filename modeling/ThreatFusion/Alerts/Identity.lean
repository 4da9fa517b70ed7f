import ThreatFusion.Alerts.Candidate
import Mathlib.Data.List.Nodup
/-
# The identity digest determines its parts

`_identity_digest` puts the length of every part before it, so two lists of parts give one message only
when they are one list (`framed_inj`); what is left is the digest itself (`identityDigest_inj`).
-/
namespace ThreatFusion.Alerts
open Py

@[simp] theorem length_packBE (w n : Nat) : (packBE w n).length = w := by
  induction w generalizing n with
  | zero => rfl
  | succ w ih => simp [packBE, ih]

theorem packBE_inj {w m n : Nat} (hm : m < 256 ^ w) (hn : n < 256 ^ w) (h : packBE w m = packBE w n) :
    m = n := by
  induction w generalizing m n with
  | zero => simp at hm hn; omega
  | succ w ih =>
    obtain ⟨hhigh, hlow⟩ := List.append_inj h (by simp)
    have hdiv := ih (m := m / 256) (n := n / 256) (by omega) (by omega) hhigh
    have hbyte : (UInt8.ofNat (m % 256)).toNat = (UInt8.ofNat (n % 256)).toNat := by
      rw [List.singleton_inj.1 hlow]
    simp only [UInt8.toNat_ofNat', Nat.mod_mod] at hbyte
    omega

/-- A part that `struct.pack(">I", len)` can frame. -/
def Framable (part : String) : Prop := (utf8 part).length < 256 ^ 4

theorem framable_of_plain {s : String} (h : isPlainText s = true) : Framable s := by
  have hlen := length_utf8_le s
  simp only [isPlainText, decide_eq_true_eq] at h
  unfold Framable
  omega

/-- **Framing is injective.** -/
theorem framed_inj : ∀ {ps qs : List String}, (∀ p ∈ ps, Framable p) → (∀ q ∈ qs, Framable q) →
    ps.flatMap framePart = qs.flatMap framePart → ps = qs
  | [], [], _, _, _ => rfl
  | [], q :: qs, _, _, h => by
    have := congrArg List.length h
    simp [framePart] at this
    omega
  | p :: ps, [], _, _, h => by
    have := congrArg List.length h
    simp [framePart] at this
  | p :: ps, q :: qs, hp, hq, h => by
    simp only [List.flatMap_cons, framePart, List.append_assoc] at h
    obtain ⟨hlen, hrest⟩ := List.append_inj h (by simp)
    have hsize := packBE_inj (hp p List.mem_cons_self) (hq q List.mem_cons_self) hlen
    obtain ⟨htext, htail⟩ := List.append_inj hrest hsize
    have hps := framed_inj (fun x hx => hp x (List.mem_cons_of_mem _ hx))
      (fun x hx => hq x (List.mem_cons_of_mem _ hx)) htail
    rw [utf8_inj.1 htext, hps]

theorem identityDigest_inj {sha256 : Bytes → String} (hsha : Function.Injective sha256) {domain : String}
    {ps qs : List String} (hp : ∀ p ∈ ps, Framable p) (hq : ∀ q ∈ qs, Framable q)
    (h : identityDigest sha256 domain ps = identityDigest sha256 domain qs) : ps = qs := by
  have hbytes := hsha h
  simp only [identityMessage, List.append_assoc, List.append_cancel_left_eq] at hbytes
  exact framed_inj hp hq hbytes

/-! ## A digest known on a few messages -/

/-- The digest of the messages in the table; any other message is spelled out, beyond the hex digits. -/
def tableDigest (table : List (Bytes × String)) (b : Bytes) : String :=
  match table.find? (·.1 = b) with
  | some e => e.2
  | none => String.ofList (b.map fun u => Char.ofNat (256 + u.toNat))

theorem toNat_spelled (u : UInt8) : (Char.ofNat (256 + u.toNat)).toNat = 256 + u.toNat := by
  have hu := u.toNat_lt
  rw [Char.ofNat, dif_pos (.inl (by omega))]
  rfl

theorem tableDigest_injective {table : List (Bytes × String)} (hnodup : (table.map Prod.snd).Nodup)
    (hdigits : (table.all fun e => e.2.toList.any fun c => c.toNat < 256) = true) :
    Function.Injective (tableDigest table) := by
  have apart : ∀ e ∈ table, ∀ b : Bytes, e.2 ≠ String.ofList (b.map fun u => Char.ofNat (256 + u.toNat)) := by
    intro e he b heq
    obtain ⟨c, hc, hlt⟩ := List.any_eq_true.1 (List.all_eq_true.1 hdigits e he)
    rw [decide_eq_true_eq] at hlt
    rw [heq, String.toList_ofList] at hc
    obtain ⟨u, -, rfl⟩ := List.mem_map.1 hc
    rw [toNat_spelled] at hlt
    omega
  intro a b h
  unfold tableDigest at h
  cases ha : table.find? (·.1 = a) with
  | some e =>
    have hea : e.1 = a := by simpa using List.find?_some ha
    cases hb : table.find? (·.1 = b) with
    | some e' =>
      have heb : e'.1 = b := by simpa using List.find?_some hb
      simp only [ha, hb] at h
      rw [← hea, ← heb, List.inj_on_of_nodup_map hnodup (List.mem_of_find?_eq_some ha)
        (List.mem_of_find?_eq_some hb) h]
    | none =>
      simp only [ha, hb] at h
      exact absurd h (apart e (List.mem_of_find?_eq_some ha) b)
  | none =>
    cases hb : table.find? (·.1 = b) with
    | some e' =>
      simp only [ha, hb] at h
      exact absurd h.symm (apart e' (List.mem_of_find?_eq_some hb) a)
    | none =>
      simp only [ha, hb] at h
      refine List.map_injective_iff.2 (fun u v huv => ?_) (String.ofList_injective h)
      have hnat := congrArg Char.toNat huv
      rw [toNat_spelled, toNat_spelled] at hnat
      exact UInt8.toNat_inj.1 (by omega)

end ThreatFusion.Alerts
