import ThreatFusion.LabHunt.Runner
import ThreatFusion.Lib.HashChain
/-
# What the verifier accepts, and what it raises on

* `walk_ok`, `walk_raised`: the loop comes to its end on a hash chain; it raises at an entry that stands in its place and
  has no canonical text.
* `verifyDocument_ok`, `verifyDocument_raised`: so does the whole check.
* `verifyDocument_sortKeys`: the order of keys is not seen.
* `Verified.same`: the head of a chain commits to its entries and hypotheses.
-/
namespace ThreatFusion.LabHunt
open Py PyJson HashChain
open JsonText (points points_inj)

variable {F : Type} {rt : Runtime F}

/-! ## Canonical text -/

theorem canonicalSha256_isSome {value : Value F} :
    (canonicalSha256 rt value).isSome ↔ value.writes rt.toPython rt.writeDepth = true := by
  rw [canonicalSha256, Option.isSome_map, canonicalJson]
  split_ifs with h <;> simp [h]

theorem canonicalSha256_none {value : Value F} :
    canonicalSha256 rt value = none ↔ value.writes rt.toPython rt.writeDepth = false := by
  rw [← Option.not_isSome_iff_eq_none, canonicalSha256_isSome, Bool.not_eq_true]

theorem canonicalSha256_congr {v w : Value F} (h : sortKeys v = sortKeys w) : canonicalSha256 rt v = canonicalSha256 rt w := by
  rw [canonicalSha256, canonicalSha256, canonicalJson, canonicalJson, writes_congr h, dumps_congr h]

theorem encode_inj {s t : List Char} (h : encode s = encode t) : s = t := by
  have hs := decodeUtf8_encode s
  rw [h, decodeUtf8_encode] at hs
  exact (Option.some.inj hs).symm

/-- The hash commits to the value. -/
theorem canonicalSha256_inj {v w : Value F} {digest : String} (hv : canonicalSha256 rt v = some digest)
    (hw : canonicalSha256 rt w = some digest) (hvd : v.Distinct) (hwd : w.Distinct) : sortKeys v = sortKeys w := by
  have hvwrites := canonicalSha256_isSome.mp (by rw [hv]; rfl)
  have hwwrites := canonicalSha256_isSome.mp (by rw [hw]; rfl)
  rw [canonicalSha256, canonicalJson, if_pos hvwrites, Option.map_some, Option.some.injEq] at hv
  rw [canonicalSha256, canonicalJson, if_pos hwwrites, Option.map_some, Option.some.injEq] at hw
  have htext := encode_inj (rt.sha256_inj _ _ (hv.trans hw.symm))
  exact dumps_inj hvd hwd hvwrites hwwrites htext

/-! ## Comparisons -/

theorem isStr_iff {value : Option (Value F)} {s : String} : isStr value s = true ↔ value = some (str s) := by
  unfold isStr
  split
  · rw [beq_iff_eq, str, Option.some.injEq, Value.str.injEq]
  · rename_i hnot
    constructor
    · intro h
      cases h
    · rintro rfl
      exact absurd rfl (hnot (points s))

theorem str_inj {s t : String} (h : (str s : Value F) = str t) : s = t := points_inj.mp (Value.str.inj h)

theorem isNumber_iff {py : Python F} {value : Option (Value F)} {n : Nat} :
    isNumber py value n = true ↔ ∃ v, value = some v ∧ v.number py = some (n : ℚ) := by
  cases value with
  | none => simp [isNumber]
  | some v => simp [isNumber]

@[simp] theorem isStr_sortKeys (value : Option (Value F)) (s : String) : isStr (value.map sortKeys) s = isStr value s := by
  cases value with
  | none => rfl
  | some v =>
    cases v with
    | arr xs => rw [Option.map_some, sortKeys_arr]; rfl
    | obj pairs => rw [Option.map_some, sortKeys_obj]; rfl
    | _ => rfl

@[simp] theorem isNumber_sortKeys (py : Python F) (value : Option (Value F)) (n : Nat) :
    isNumber py (value.map sortKeys) n = isNumber py value n := by
  cases value with
  | none => rfl
  | some v =>
    rw [Option.map_some, isNumber, isNumber, number_sortKeys]

/-! ## Checks in sequence -/

section Sequence

variable {α β : Type} {f : α → Except Stop β} {g : Unit → Except Stop β} {b : Bool} {o : Option α} {x : β}

theorem check_ok : check b = .ok () ↔ b = true := by cases b <;> simp [check]

theorem check_raised : check b ≠ .error .raised := by cases b <;> simp [check]

theorem check_bind_ok : (check b >>= g) = .ok x ↔ b = true ∧ g () = .ok x := by cases b <;> simp [check]

theorem check_bind_raised : (check b >>= g) = .error .raised ↔ b = true ∧ g () = .error .raised := by
  cases b <;> simp [check]

theorem orStop_bind_ok : (orStop o >>= f) = .ok x ↔ ∃ a, o = some a ∧ f a = .ok x := by cases o <;> simp [orStop]

theorem orStop_bind_raised : (orStop o >>= f) = .error .raised ↔ o = none ∨ ∃ a, o = some a ∧ f a = .error .raised := by
  cases o <;> simp [orStop]

end Sequence

/-! ## The loop over the entries -/

/-- The entry names the hash before it, and its place. -/
def Placed (rt : Runtime F) (n : Nat) (prev : String) (pairs : List (Str × Value F)) : Prop :=
  isStr (get pairs "prev_entry_sha256") prev = true ∧ isNumber rt.toPython (get pairs "sequence_id") n = true

/-- The part of an entry that is hashed. -/
def hashedPart (pairs : List (Str × Value F)) : Value F := .obj (select HASHED_ENTRY_KEYS pairs)

def Linked (rt : Runtime F) (n : Nat) (prev : String) (entry : Value F) : Prop :=
  ∃ pairs digest, entry = .obj pairs ∧ Placed rt n prev pairs ∧ canonicalSha256 rt (hashedPart pairs) = some digest ∧
    isStr (get pairs "entry_sha256") digest = true

/-- In its place, and without a canonical text. -/
def Stuck (rt : Runtime F) (n : Nat) (prev : String) (entry : Value F) : Prop :=
  ∃ pairs, entry = .obj pairs ∧ Placed rt n prev pairs ∧
    (hashedPart pairs).writes rt.toPython rt.writeDepth = false

def entryDigest (rt : Runtime F) : Value F → String
  | .obj pairs => (canonicalSha256 rt (hashedPart pairs)).getD ""
  | _ => ""

abbrev IsChain (rt : Runtime F) (n : Nat) (prev : String) (entries : List (Value F)) : Prop :=
  Chained (entryDigest rt) (Linked rt) n prev entries

abbrev headDigest (rt : Runtime F) (entries : List (Value F)) : String :=
  headTag (entryDigest rt) LAB_CHAIN_GENESIS entries

variable {index : Nat} {prev head : String} {entry : Value F} {entries : List (Value F)}

theorem walk_obj {pairs : List (Str × Value F)} : walk rt index prev (.obj pairs :: entries) = .ok head ↔
    ∃ digest, (Placed rt (index + 1) prev pairs ∧ canonicalSha256 rt (hashedPart pairs) = some digest ∧
      isStr (get pairs "entry_sha256") digest = true) ∧ walk rt (index + 1) digest entries = .ok head := by
  rw [walk, check_bind_ok, check_bind_ok, orStop_bind_ok]
  simp only [check_bind_ok]
  constructor
  · rintro ⟨hprev, hseq, digest, hdigest, hentry, hrest⟩
    exact ⟨digest, ⟨⟨hprev, hseq⟩, hdigest, hentry⟩, hrest⟩
  · rintro ⟨digest, ⟨⟨hprev, hseq⟩, hdigest, hentry⟩, hrest⟩
    exact ⟨hprev, hseq, digest, hdigest, hentry, hrest⟩

theorem walk_obj_raised {pairs : List (Str × Value F)} : walk rt index prev (.obj pairs :: entries) = .error .raised ↔
    Stuck rt (index + 1) prev (.obj pairs) ∨
      ∃ digest, (Placed rt (index + 1) prev pairs ∧ canonicalSha256 rt (hashedPart pairs) = some digest ∧
        isStr (get pairs "entry_sha256") digest = true) ∧ walk rt (index + 1) digest entries = .error .raised := by
  have hstuck : Stuck rt (index + 1) prev (.obj pairs) ↔
      Placed rt (index + 1) prev pairs ∧ canonicalSha256 rt (hashedPart pairs) = none := by
    rw [canonicalSha256_none]
    constructor
    · rintro ⟨ps, heq, hplaced, hwrites⟩
      obtain rfl := Value.obj.inj heq
      exact ⟨hplaced, hwrites⟩
    · exact fun h => ⟨pairs, rfl, h.1, h.2⟩
  rw [hstuck, walk, check_bind_raised, check_bind_raised, orStop_bind_raised]
  simp only [check_bind_raised]
  constructor
  · rintro ⟨hprev, hseq, hnone | ⟨digest, hdigest, hentry, hrest⟩⟩
    · exact .inl ⟨⟨hprev, hseq⟩, hnone⟩
    · exact .inr ⟨digest, ⟨⟨hprev, hseq⟩, hdigest, hentry⟩, hrest⟩
  · rintro (⟨⟨hprev, hseq⟩, hnone⟩ | ⟨digest, ⟨⟨hprev, hseq⟩, hdigest, hentry⟩, hrest⟩)
    · exact ⟨hprev, hseq, .inl hnone⟩
    · exact ⟨hprev, hseq, .inr ⟨digest, hdigest, hentry, hrest⟩⟩

theorem walk_not_obj (h : ∀ pairs, entry ≠ .obj pairs) : walk rt index prev (entry :: entries) = .error .refused := by
  unfold walk
  split
  · rename_i heq
    cases heq
  · rename_i heq
    exact absurd (List.cons.inj heq).1 (h _)
  · rfl

theorem walk_cons : walk rt index prev (entry :: entries) = .ok head ↔
    Linked rt (index + 1) prev entry ∧ walk rt (index + 1) (entryDigest rt entry) entries = .ok head := by
  by_cases hobj : ∃ pairs, entry = .obj pairs
  · obtain ⟨pairs, rfl⟩ := hobj
    rw [walk_obj]
    constructor
    · rintro ⟨digest, ⟨hplaced, hdigest, hentry⟩, hrest⟩
      refine ⟨⟨pairs, digest, rfl, hplaced, hdigest, hentry⟩, ?_⟩
      rwa [entryDigest, hdigest]
    · rintro ⟨⟨ps, digest, heq, hplaced, hdigest, hentry⟩, hrest⟩
      obtain rfl := Value.obj.inj heq
      rw [entryDigest, hdigest] at hrest
      exact ⟨digest, ⟨hplaced, hdigest, hentry⟩, hrest⟩
  · rw [walk_not_obj fun pairs heq => hobj ⟨pairs, heq⟩]
    constructor
    · intro h
      cases h
    · rintro ⟨⟨pairs, -, heq, -⟩, -⟩
      exact absurd ⟨pairs, heq⟩ hobj

theorem walk_cons_raised : walk rt index prev (entry :: entries) = .error .raised ↔
    Stuck rt (index + 1) prev entry ∨
      Linked rt (index + 1) prev entry ∧ walk rt (index + 1) (entryDigest rt entry) entries = .error .raised := by
  by_cases hobj : ∃ pairs, entry = .obj pairs
  · obtain ⟨pairs, rfl⟩ := hobj
    rw [walk_obj_raised]
    refine or_congr_right ?_
    constructor
    · rintro ⟨digest, ⟨hplaced, hdigest, hentry⟩, hrest⟩
      refine ⟨⟨pairs, digest, rfl, hplaced, hdigest, hentry⟩, ?_⟩
      rwa [entryDigest, hdigest]
    · rintro ⟨⟨ps, digest, heq, hplaced, hdigest, hentry⟩, hrest⟩
      obtain rfl := Value.obj.inj heq
      rw [entryDigest, hdigest] at hrest
      exact ⟨digest, ⟨hplaced, hdigest, hentry⟩, hrest⟩
  · rw [walk_not_obj fun pairs heq => hobj ⟨pairs, heq⟩]
    constructor
    · intro h
      cases h
    · rintro (⟨pairs, heq, -⟩ | ⟨⟨pairs, -, heq, -⟩, -⟩)
      · exact absurd ⟨pairs, heq⟩ hobj
      · exact absurd ⟨pairs, heq⟩ hobj

/-- The loop comes to its end on a chain. -/
theorem walk_ok : walk rt index prev entries = .ok head ↔
    IsChain rt (index + 1) prev entries ∧ headTag (entryDigest rt) prev entries = head := by
  induction entries generalizing index prev with
  | nil => simp [walk, Chained]
  | cons entry entries ih =>
    rw [walk_cons, ih, headTag_cons]
    exact and_assoc.symm

/-- It raises at an entry after a chain. -/
theorem walk_raised : walk rt index prev entries = .error .raised ↔
    ∃ before entry after, entries = before ++ entry :: after ∧ IsChain rt (index + 1) prev before ∧
      Stuck rt (index + 1 + before.length) (headTag (entryDigest rt) prev before) entry := by
  induction entries generalizing index prev with
  | nil =>
    constructor
    · intro h
      cases h
    · rintro ⟨before, entry, after, heq, -⟩
      simp at heq
  | cons first rest ih =>
    rw [walk_cons_raised, ih]
    constructor
    · rintro (hstuck | ⟨hlinked, before, entry, after, rfl, hchain, hstuck⟩)
      · exact ⟨[], first, rest, rfl, trivial, hstuck⟩
      · refine ⟨first :: before, entry, after, rfl, ⟨hlinked, hchain⟩, ?_⟩
        rwa [headTag_cons, List.length_cons, Nat.add_comm before.length, ← Nat.add_assoc]
    · rintro ⟨before, entry, after, heq, hchain, hstuck⟩
      cases before with
      | nil =>
        obtain ⟨rfl, rfl⟩ := List.cons.inj heq
        exact .inl hstuck
      | cons b before =>
        obtain ⟨rfl, rfl⟩ := List.cons.inj heq
        rw [headTag_cons, List.length_cons, Nat.add_comm before.length, ← Nat.add_assoc] at hstuck
        exact .inr ⟨hchain.1, before, entry, after, rfl, hchain.2, hstuck⟩

/-! ## The whole document -/

/-- The labels in front of the entries. -/
def Labelled (pairs : List (Str × Value F)) : Prop :=
  isStr (get pairs "schema_version") LAB_CHAIN_SCHEMA_VERSION = true ∧
    isStr (get pairs "genesis_sha256") LAB_CHAIN_GENESIS = true ∧ isStr (get pairs "classification") LAB_CLASSIFICATION = true

/-- The parts of a document that is a labelled object. -/
structure Opened (document : Value F) (pairs : List (Str × Value F)) (entries hypotheses : List (Value F)) : Prop where
  object : document = .obj pairs
  labelled : Labelled pairs
  entries : get pairs "entries" = some (.arr entries)
  hypotheses : get pairs "hypotheses" = some (.arr hypotheses)

/-- The entries are a chain that ends at the head, which holds the hash of the hypotheses. -/
structure Verified (rt : Runtime F) (pairs : List (Str × Value F)) (entries hypotheses : List (Value F)) : Prop where
  nonempty : entries ≠ []
  chain : IsChain rt 1 LAB_CHAIN_GENESIS entries
  head : isStr (get pairs "head_sha256") (headDigest rt entries) = true
  hashed : ∃ digest, canonicalSha256 rt (.arr hypotheses) = some digest ∧ isStr (lastHypotheses entries) digest = true
  rows : hypotheses.all isHypothesis = true

/-- Some value that the checks come to has no canonical text. -/
def Trips (rt : Runtime F) (pairs : List (Str × Value F)) (entries hypotheses : List (Value F)) : Prop :=
  (∃ before entry after, entries = before ++ entry :: after ∧ IsChain rt 1 LAB_CHAIN_GENESIS before ∧
      Stuck rt (1 + before.length) (headDigest rt before) entry) ∨
    entries ≠ [] ∧ IsChain rt 1 LAB_CHAIN_GENESIS entries ∧
      isStr (get pairs "head_sha256") (headDigest rt entries) = true ∧
      (Value.arr hypotheses).writes rt.toPython rt.writeDepth = false

variable {pairs : List (Str × Value F)} {hypotheses : List (Value F)} {document : Value F}

theorem not_isEmpty {xs : List (Value F)} : (!xs.isEmpty) = true ↔ xs ≠ [] := by cases xs <;> simp

theorem verifyEntries_ok : verifyEntries rt pairs entries hypotheses = .ok () ↔ Verified rt pairs entries hypotheses := by
  rw [verifyEntries, check_bind_ok, not_isEmpty, Except.bind_eq_ok]
  simp only [check_bind_ok, orStop_bind_ok, check_ok, walk_ok]
  constructor
  · rintro ⟨hne, head, ⟨hchain, rfl⟩, hhead, digest, hdigest, hlast, hrows⟩
    exact ⟨hne, hchain, hhead, ⟨digest, hdigest, hlast⟩, hrows⟩
  · rintro ⟨hne, hchain, hhead, ⟨digest, hdigest, hlast⟩, hrows⟩
    exact ⟨hne, _, ⟨hchain, rfl⟩, hhead, digest, hdigest, hlast, hrows⟩

/-- What a block that raised did: its first call raised, or the rest after it. -/
theorem bind_raised {α β : Type} {x : Except Stop α} {f : α → Except Stop β} :
    (x >>= f) = .error .raised ↔ x = .error .raised ∨ ∃ a, x = .ok a ∧ f a = .error .raised := by
  cases x with
  | error e => simp
  | ok a => simp

theorem verifyEntries_raised : verifyEntries rt pairs entries hypotheses = .error .raised ↔ Trips rt pairs entries hypotheses := by
  rw [verifyEntries, check_bind_raised, not_isEmpty, bind_raised, walk_raised]
  simp only [check_bind_raised, orStop_bind_raised, check_raised, walk_ok, canonicalSha256_none, and_false, exists_false,
    or_false]
  constructor
  · rintro ⟨hne, hstuck | ⟨head, ⟨hchain, rfl⟩, hhead, hwrites⟩⟩
    · exact .inl hstuck
    · exact .inr ⟨hne, hchain, hhead, hwrites⟩
  · rintro (hstuck | ⟨hne, hchain, hhead, hwrites⟩)
    · refine ⟨?_, .inl hstuck⟩
      obtain ⟨before, entry, after, rfl, -⟩ := hstuck
      exact List.append_ne_nil_of_right_ne_nil _ (List.cons_ne_nil _ _)
    · exact ⟨hne, .inr ⟨_, ⟨hchain, rfl⟩, hhead, hwrites⟩⟩

/-- Only a labelled object with both lists comes to the loop. -/
theorem verifyDocument_eq (h : Opened document pairs entries hypotheses) :
    verifyDocument rt document = verifyEntries rt pairs entries hypotheses := by
  obtain ⟨rfl, ⟨hschema, hgenesis, hclass⟩, hentries, hhypotheses⟩ := h
  simp only [verifyDocument, hschema, hgenesis, hclass, hentries, hhypotheses, check, if_true, Except.ok_bind]

variable (rt) in
theorem opened_of_not_refused (h : verifyDocument rt document ≠ .error .refused) :
    ∃ pairs entries hypotheses, Opened document pairs entries hypotheses := by
  unfold verifyDocument at h
  split at h
  · rename_i pairs
    by_cases hlabelled : Labelled pairs
    · obtain ⟨hschema, hgenesis, hclass⟩ := hlabelled
      simp only [hschema, hgenesis, hclass, check, if_true, Except.ok_bind] at h
      split at h
      · rename_i entries hypotheses hentries hhypotheses
        exact ⟨pairs, entries, hypotheses, rfl, ⟨hschema, hgenesis, hclass⟩, hentries, hhypotheses⟩
      · exact absurd rfl h
    · refine absurd ?_ h
      -- the first label that is wrong refuses
      by_cases hschema : isStr (get pairs "schema_version") LAB_CHAIN_SCHEMA_VERSION = true
      · by_cases hgenesis : isStr (get pairs "genesis_sha256") LAB_CHAIN_GENESIS = true
        · have hclass : isStr (get pairs "classification") LAB_CLASSIFICATION = false := by
            rw [← Bool.not_eq_true]
            exact fun hclass => hlabelled ⟨hschema, hgenesis, hclass⟩
          simp [check, hschema, hgenesis, hclass]
        · simp [check, hschema, hgenesis]
      · simp [check, hschema]
  · exact absurd rfl h

theorem verifyDocument_ok : verifyDocument rt document = .ok () ↔
    ∃ pairs entries hypotheses, Opened document pairs entries hypotheses ∧ Verified rt pairs entries hypotheses := by
  constructor
  · intro h
    obtain ⟨pairs, entries, hypotheses, hopened⟩ := opened_of_not_refused rt (by rw [h]; exact fun heq => (by cases heq))
    rw [verifyDocument_eq hopened, verifyEntries_ok] at h
    exact ⟨pairs, entries, hypotheses, hopened, h⟩
  · rintro ⟨pairs, entries, hypotheses, hopened, h⟩
    rwa [verifyDocument_eq hopened, verifyEntries_ok]

theorem verifyDocument_raised : verifyDocument rt document = .error .raised ↔
    ∃ pairs entries hypotheses, Opened document pairs entries hypotheses ∧ Trips rt pairs entries hypotheses := by
  constructor
  · intro h
    obtain ⟨pairs, entries, hypotheses, hopened⟩ := opened_of_not_refused rt (by rw [h]; exact fun heq => (by cases heq))
    rw [verifyDocument_eq hopened, verifyEntries_raised] at h
    exact ⟨pairs, entries, hypotheses, hopened, h⟩
  · rintro ⟨pairs, entries, hypotheses, hopened, h⟩
    rwa [verifyDocument_eq hopened, verifyEntries_raised]

/-! ## What the head commits to -/

/-- Equal in all that is hashed, up to the order of keys. -/
def SameEntry (r s : Value F) : Prop :=
  ∃ a b, r = .obj a ∧ s = .obj b ∧ ∀ key ∈ HASHED_ENTRY_KEYS, (get a key).map sortKeys = (get b key).map sortKeys

theorem hashedKeys_nodup : HASHED_ENTRY_KEYS.Nodup := by decide

theorem distinct_hashedPart (h : (Value.obj pairs).Distinct) : (hashedPart pairs).Distinct :=
  distinct_select hashedKeys_nodup (distinct_obj.mp h).2

/-- An entry's hash pins down its place, the hash before it and what is hashed. -/
theorem Linked.pinned {n m : Nat} {h k : String} {r s : Value F} (hr : Linked rt n h r) (hs : Linked rt m k s)
    (hrd : r.Distinct) (hsd : s.Distinct) (htag : entryDigest rt r = entryDigest rt s) :
    (h = k ∧ SameEntry r s) ∧ n = m := by
  obtain ⟨a, digest, rfl, ⟨haprev, haseq⟩, hadigest, -⟩ := hr
  obtain ⟨b, digest', rfl, ⟨hbprev, hbseq⟩, hbdigest, -⟩ := hs
  rw [entryDigest, entryDigest, hadigest, hbdigest] at htag
  obtain rfl : digest = digest' := htag
  have ha := distinct_hashedPart hrd
  have hb := distinct_hashedPart hsd
  have hsort := canonicalSha256_inj hadigest hbdigest ha hb
  have same : ∀ key ∈ HASHED_ENTRY_KEYS, (get a key).map sortKeys = (get b key).map sortKeys := by
    intro key hkey
    have hget := get_of_sortKeys ha hb hsort key
    rwa [get_select hkey, get_select hkey] at hget
  refine ⟨⟨?_, a, b, rfl, rfl, same⟩, ?_⟩
  · have hprev := same "prev_entry_sha256" (by decide)
    rw [isStr_iff.mp haprev, isStr_iff.mp hbprev] at hprev
    exact str_inj (Option.some.inj hprev)
  · have hseq := same "sequence_id" (by decide)
    obtain ⟨v, hv, hvn⟩ := isNumber_iff.mp haseq
    obtain ⟨w, hw, hwn⟩ := isNumber_iff.mp hbseq
    rw [hv, hw, Option.map_some, Option.map_some, Option.some.injEq] at hseq
    rw [← number_sortKeys, hseq, number_sortKeys, hwn] at hvn
    exact (Rat.natCast_inj.mp (Option.some.inj hvn)).symm

variable {pairs' : List (Str × Value F)} {entries' hypotheses' : List (Value F)}

theorem lastHypotheses_append (before : List (Value F)) (a : List (Str × Value F)) :
    lastHypotheses (before ++ [.obj a]) = get a "hypotheses_sha256" := by
  rw [lastHypotheses, List.getLast?_concat]

/-- **The head commits to the document**: the entries, one by one, and the hypotheses. -/
theorem Verified.same (h : Verified rt pairs entries hypotheses) (h' : Verified rt pairs' entries' hypotheses')
    (hd : ∀ e ∈ entries, e.Distinct) (hd' : ∀ e ∈ entries', e.Distinct) (hrows : ∀ v ∈ hypotheses, v.Distinct)
    (hrows' : ∀ v ∈ hypotheses', v.Distinct) (hhead : get pairs "head_sha256" = get pairs' "head_sha256") :
    List.Forall₂ SameEntry entries entries' ∧ hypotheses.map sortKeys = hypotheses'.map sortKeys := by
  have hsame : headDigest rt entries = headDigest rt entries' := by
    have heq := isStr_iff.mp h.head
    rw [hhead, isStr_iff.mp h'.head] at heq
    exact (str_inj (Option.some.inj heq)).symm
  have hchain := h.chain.and_forall hd
  have hchain' := h'.chain.and_forall hd'
  obtain ⟨before, last, rfl⟩ := (List.eq_nil_or_concat' entries).resolve_left h.nonempty
  obtain ⟨before', last', rfl⟩ := (List.eq_nil_or_concat' entries').resolve_left h'.nonempty
  obtain ⟨-, hlast, hlastd⟩ := chained_append_singleton.mp hchain
  obtain ⟨-, hlast', hlastd'⟩ := chained_append_singleton.mp hchain'
  have htag : entryDigest rt last = entryDigest rt last' := by
    rwa [headDigest, headDigest, headTag_append_singleton, headTag_append_singleton] at hsame
  -- the places of the last entries are the lengths of the chains
  obtain ⟨⟨-, a, b, rfl, rfl, hsameLast⟩, hplace⟩ := hlast.pinned hlast' hlastd hlastd' htag
  have hlength : (before ++ [Value.obj a]).length = (before' ++ [Value.obj b]).length := by
    rw [List.length_append, List.length_append, List.length_singleton, List.length_singleton]
    omega
  constructor
  · refine (hchain.commit ?_ hchain' hlength hsame).2
    exact fun n h k r s hr hs heq => (hr.1.pinned hs.1 hr.2 hs.2 heq).1
  · obtain ⟨digest, hdigest, hstr⟩ := h.hashed
    obtain ⟨digest', hdigest', hstr'⟩ := h'.hashed
    rw [lastHypotheses_append, isStr_iff] at hstr hstr'
    have hkey := hsameLast "hypotheses_sha256" (by decide)
    rw [hstr, hstr'] at hkey
    obtain rfl : digest = digest' := str_inj (Option.some.inj hkey)
    have hsort := canonicalSha256_inj hdigest hdigest' (distinct_arr.mpr hrows) (distinct_arr.mpr hrows')
    rw [sortKeys_arr, sortKeys_arr] at hsort
    exact Value.arr.inj hsort

/-! ## The order of keys -/

variable (rt) in
theorem hashedPart_sortKeys (h : (Value.obj pairs).Distinct) :
    canonicalSha256 rt (hashedPart (sortedByKey (pairs.map fun p => (p.1, sortKeys p.2)))) =
      canonicalSha256 rt (hashedPart pairs) :=
  canonicalSha256_congr (sortKeys_select HASHED_ENTRY_KEYS h)

theorem walk_sortKeys (h : ∀ e ∈ entries, e.Distinct) :
    walk rt index prev (entries.map sortKeys) = walk rt index prev entries := by
  induction entries generalizing index prev with
  | nil => rfl
  | cons entry entries ih =>
    have hentry := h entry List.mem_cons_self
    have hrest {index : Nat} {prev : String} : walk rt index prev (entries.map sortKeys) = walk rt index prev entries :=
      ih fun e he => h e (List.mem_cons_of_mem entry he)
    rw [List.map_cons]
    cases entry with
    | obj pairs =>
      have hdigest := hashedPart_sortKeys rt hentry
      unfold hashedPart at hdigest
      simp only [sortKeys_obj, walk, get_sorted hentry, isStr_sortKeys, isNumber_sortKeys, hdigest, hrest]
    | arr xs =>
      rw [sortKeys_arr, walk_not_obj fun _ heq => (by cases heq), walk_not_obj fun _ heq => (by cases heq)]
    | null => rfl
    | bool b => rfl
    | int n => rfl
    | float x => rfl
    | str s => rfl

theorem isHypothesis_sortKeys {v : Value F} (h : v.Distinct) : isHypothesis (sortKeys v) = isHypothesis v := by
  cases v with
  | obj pairs =>
    rw [sortKeys_obj, isHypothesis, isHypothesis, get_sorted h, get_sorted h, isStr_sortKeys]
    congr 1
    cases get pairs "alert_created" with
    | none => rfl
    | some w =>
      cases w with
      | arr xs => rw [Option.map_some, sortKeys_arr]
      | obj ps => rw [Option.map_some, sortKeys_obj]
      | _ => rfl
  | arr xs => rw [sortKeys_arr]; rfl
  | _ => rfl

theorem lastHypotheses_sortKeys (h : ∀ e ∈ entries, e.Distinct) :
    lastHypotheses (entries.map sortKeys) = (lastHypotheses entries).map sortKeys := by
  rw [lastHypotheses, lastHypotheses, List.getLast?_map]
  cases hlast : entries.getLast? with
  | none => rfl
  | some last =>
    have hdistinct := h last (List.mem_of_getLast? hlast)
    cases last with
    | obj pairs =>
      rw [Option.map_some, sortKeys_obj]
      exact get_sorted hdistinct _
    | arr xs => rw [Option.map_some, sortKeys_arr]; rfl
    | _ => rfl

theorem distinct_entries (h : (Value.obj pairs).Distinct) {key : String} (hget : get pairs key = some (.arr entries)) :
    ∀ e ∈ entries, e.Distinct :=
  distinct_arr.mp ((distinct_obj.mp h).2 _ (mem_of_get hget))

/-- A document is verified as it was before its keys were sorted. -/
theorem verified_sortKeys (h : document.Distinct) (hopened : Opened document pairs entries hypotheses)
    (hverified : Verified rt pairs entries hypotheses) : verifyDocument rt (sortKeys document) = .ok () := by
  obtain ⟨rfl, ⟨hschema, hgenesis, hclass⟩, hentries, hhypotheses⟩ := hopened
  have hed := distinct_entries h hentries
  have hrd := distinct_entries h hhypotheses
  have hgets := get_sorted h
  rw [verifyDocument_ok]
  refine ⟨_, entries.map sortKeys, hypotheses.map sortKeys, ⟨sortKeys_obj pairs, ⟨?_, ?_, ?_⟩, ?_, ?_⟩, ?_⟩
  · rw [hgets, isStr_sortKeys, hschema]
  · rw [hgets, isStr_sortKeys, hgenesis]
  · rw [hgets, isStr_sortKeys, hclass]
  · rw [hgets, hentries, Option.map_some, sortKeys_arr]
  · rw [hgets, hhypotheses, Option.map_some, sortKeys_arr]
  have hwalk : walk rt 0 LAB_CHAIN_GENESIS (entries.map sortKeys) = .ok (headDigest rt entries) := by
    rw [walk_sortKeys hed]
    exact walk_ok.mpr ⟨hverified.chain, rfl⟩
  obtain ⟨hchain, hhead⟩ := walk_ok.mp hwalk
  refine ⟨fun hnil => hverified.nonempty (List.map_eq_nil_iff.mp hnil), hchain, ?_, ?_, ?_⟩
  · rw [headDigest, hhead, hgets, isStr_sortKeys]
    exact hverified.head
  · obtain ⟨digest, hdigest, hstr⟩ := hverified.hashed
    refine ⟨digest, ?_, ?_⟩
    · rw [← sortKeys_arr, canonicalSha256_congr (sortKeys_sortKeys _), hdigest]
    · rw [lastHypotheses_sortKeys hed, isStr_sortKeys, hstr]
  · rw [List.all_map, List.all_eq_true]
    intro v hv
    rw [Function.comp_apply, isHypothesis_sortKeys (hrd v hv)]
    exact List.all_eq_true.mp hverified.rows v hv

end ThreatFusion.LabHunt
