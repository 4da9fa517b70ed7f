import ThreatFusion.Py.IpAddress
/-
# Addresses in a text

`findall` is `IP_REGEX.findall` (`advisory/explanation_engine.py:22`), a pattern over the digits and word characters of
Unicode; `letter` says which characters outside ASCII are letters or numbers. A token is what stands between two
characters that are no word character, dot or colon, less the dots at its end; `ipv6Literals` are the tokens that are
IPv6 addresses, which the pattern does not look for.
-/
namespace ThreatFusion.Advisory
open Py

variable (letter : Char → Bool)

/-- `\d`. -/
def isDecimal (c : Char) : Bool := (decimalValue c).isSome

/-- `\w`. -/
def isWord (c : Char) : Bool :=
  if c.toNat < 128 then c.isAlphanum || c == '_' else letter c || isDecimal c

/-- `\d{1,3}`, where no more digits follow. -/
def digitGroup (text : List Char) : Option (List Char × List Char) :=
  let digits := text.takeWhile isDecimal
  if digits.isEmpty || 3 < digits.length then none else some (digits, text.dropWhile isDecimal)

/-- `\d{1,3}\.`. -/
def dottedGroup (text : List Char) : Option (List Char × List Char) :=
  match digitGroup text with
  | some (digits, '.' :: rest) => some (digits ++ ['.'], rest)
  | _ => none

/-- The pattern from a word boundary on. A group takes all the digits that there are, so it matches in one way. -/
def matchHere (text : List Char) : Option (List Char) :=
  match dottedGroup text with
  | none => none
  | some (a, text) => match dottedGroup text with
    | none => none
    | some (b, text) => match dottedGroup text with
      | none => none
      | some (c, text) => match digitGroup text with
        | none => none
        | some (d, text) => if text.head?.any (isWord letter) then none else some (a ++ b ++ c ++ d)

/-- The matches from left to right; `skip` characters belong to the last one. -/
def findGo : Nat → Bool → List Char → List (List Char)
  | _, _, [] => []
  | skip + 1, _, c :: rest => findGo skip (isWord letter c) rest
  | 0, true, c :: rest => findGo 0 (isWord letter c) rest
  | 0, false, c :: rest => match matchHere letter (c :: rest) with
    | none => findGo 0 (isWord letter c) rest
    | some found => found :: findGo (found.length - 1) (isWord letter c) rest

def findall (text : List Char) : List (List Char) := findGo letter 0 false text

/-- Stands between two tokens. -/
def isGap (c : Char) : Bool := !isWord letter c && c != '.' && c != ':'

/-- A token without the dots at its end. -/
def trimDots : List Char → List Char
  | [] => []
  | c :: rest =>
    let trimmed := trimDots rest
    if trimmed.isEmpty && c == '.' then [] else c :: trimmed

def ipv6Literals (text : List Char) : List (List Char) :=
  ((text.splitOnP (isGap letter)).map trimDots).filter fun token => (ipv6Number token).isSome

/-- Every address in a text. -/
def literals (text : List Char) : List (List Char) := findall letter text ++ ipv6Literals letter text

example : literals letter "at 1.2.3.4.5, fe80::1. or 10.0.0.300".toList =
    ["1.2.3.4".toList, "10.0.0.300".toList, "fe80::1".toList] := by rfl

/-! ## A text in parts -/

variable {letter}

theorem isWord_of_isDecimal {c : Char} (h : isDecimal c = true) : isWord letter c = true := by
  unfold isWord
  by_cases hascii : c.toNat < 128
  · rw [if_pos hascii]
    have hzeros : ∀ z ∈ DECIMAL_ZEROS, z = 48 ∨ 128 ≤ z := by decide
    obtain ⟨d, hd⟩ := Option.isSome_iff_exists.mp h
    obtain ⟨z, hfind, -⟩ := Option.map_eq_some_iff.mp hd
    have hrange := List.find?_some hfind
    rw [Bool.and_eq_true, decide_eq_true_eq, decide_eq_true_eq] at hrange
    have hz : z = 48 := (hzeros z (List.mem_of_find?_eq_some hfind)).resolve_right (by omega)
    have hdigit : c.isDigit = true := by
      simp only [Char.isDigit, Bool.and_eq_true, decide_eq_true_eq, UInt32.le_iff_toNat_le]
      have hlow : 48 ≤ c.val.toNat := hz ▸ hrange.1
      have hhigh : c.val.toNat ≤ 48 + 9 := hz ▸ hrange.2
      exact ⟨hlow, hhigh⟩
    simp [Char.isAlphanum, hdigit]
  · rw [if_neg hascii, h, Bool.or_true]

/-- What may follow a text without a change to the matches in it. -/
structure Follows (letter : Char → Bool) (tail : List Char) : Prop where
  word : tail.head?.any (isWord letter) = false
  dot : ∀ rest, tail = '.' :: rest → rest.head?.any isDecimal = false

theorem Follows.decimal {tail : List Char} (h : Follows letter tail) : tail.head?.any isDecimal = false := by
  cases tail with
  | nil => rfl
  | cons c rest =>
    refine Bool.eq_false_of_not_eq_true fun hdecimal => ?_
    have hword := h.word
    rw [List.head?_cons, Option.any_some] at hdecimal hword
    rw [isWord_of_isDecimal hdecimal] at hword
    cases hword

theorem takeWhile_append_of_head {p : Char → Bool} {tail : List Char} (h : tail.head?.any p = false)
    (text : List Char) :
    (text ++ tail).takeWhile p = text.takeWhile p ∧ (text ++ tail).dropWhile p = text.dropWhile p ++ tail := by
  induction text with
  | nil =>
    cases tail with
    | nil => exact ⟨rfl, rfl⟩
    | cons c rest =>
      rw [List.head?_cons, Option.any_some] at h
      simp [h]
  | cons c text ih =>
    by_cases hc : p c = true
    · simp [hc, ih]
    · simp [hc]

theorem digitGroup_eq_none {text : List Char} (h : text.head?.any isDecimal = false) : digitGroup text = none := by
  have hnone : text.takeWhile isDecimal = [] := by
    cases text with
    | nil => rfl
    | cons c rest =>
      rw [List.head?_cons, Option.any_some] at h
      rw [List.takeWhile_cons_of_neg (by simp [h])]
  rw [digitGroup, hnone]
  rfl

section Groups

variable {tail : List Char}

theorem digitGroup_append (htail : Follows letter tail) (text : List Char) :
    digitGroup (text ++ tail) = (digitGroup text).map fun p => (p.1, p.2 ++ tail) := by
  obtain ⟨htake, hdrop⟩ := takeWhile_append_of_head htail.decimal text
  unfold digitGroup
  rw [htake, hdrop]
  dsimp only
  split_ifs <;> rfl

/-- A group may borrow a dot from behind the text; then no group follows. -/
theorem dottedGroup_append (htail : Follows letter tail) (text : List Char) :
    dottedGroup (text ++ tail) = (dottedGroup text).map (fun p => (p.1, p.2 ++ tail)) ∨
    dottedGroup text = none ∧
      ∃ digits rest, dottedGroup (text ++ tail) = some (digits, rest) ∧ digitGroup rest = none := by
  unfold dottedGroup
  rw [digitGroup_append htail]
  cases digitGroup text with
  | none => exact .inl rfl
  | some p =>
    obtain ⟨digits, rest⟩ := p
    cases rest with
    | cons c rest =>
      left
      by_cases hc : c = '.'
      · subst hc
        rfl
      · simp [hc]
    | nil =>
      cases tail with
      | nil => exact .inl rfl
      | cons c rest =>
        by_cases hc : c = '.'
        · subst hc
          exact .inr ⟨rfl, _, rest, rfl, digitGroup_eq_none (htail.dot rest rfl)⟩
        · left
          simp [hc]

theorem matchHere_append (htail : Follows letter tail) (text : List Char) :
    matchHere letter (text ++ tail) = matchHere letter text := by
  have ends {rest : List Char} (h : digitGroup rest = none) : dottedGroup rest = none := by rw [dottedGroup, h]
  unfold matchHere
  rcases dottedGroup_append htail text with h | ⟨h, digits, rest, hborrowed, hnone⟩
  · rw [h]
    cases dottedGroup text with
    | none => rfl
    | some p =>
      obtain ⟨a, text⟩ := p
      dsimp only [Option.map_some]
      rcases dottedGroup_append htail text with h | ⟨h, digits, rest, hborrowed, hnone⟩
      · rw [h]
        cases dottedGroup text with
        | none => rfl
        | some p =>
          obtain ⟨b, text⟩ := p
          dsimp only [Option.map_some]
          rcases dottedGroup_append htail text with h | ⟨h, digits, rest, hborrowed, hnone⟩
          · rw [h]
            cases dottedGroup text with
            | none => rfl
            | some p =>
              obtain ⟨c, text⟩ := p
              dsimp only [Option.map_some]
              rw [digitGroup_append htail]
              cases digitGroup text with
              | none => rfl
              | some p =>
                obtain ⟨d, text⟩ := p
                dsimp only [Option.map_some]
                cases text with
                | nil =>
                  rw [List.nil_append, htail.word]
                  rfl
                | cons c rest => rfl
          · rw [h, hborrowed]
            dsimp only
            rw [hnone]
      · rw [h, hborrowed]
        dsimp only
        rw [ends hnone]
  · rw [h, hborrowed]
    dsimp only
    rw [ends hnone]

theorem eq_of_digitGroup {text digits rest : List Char} (h : digitGroup text = some (digits, rest)) :
    text = digits ++ rest := by
  unfold digitGroup at h
  dsimp only at h
  split_ifs at h
  obtain ⟨rfl, rfl⟩ := Prod.mk.inj (Option.some.inj h)
  exact (List.takeWhile_append_dropWhile).symm

theorem eq_of_dottedGroup {text digits rest : List Char} (h : dottedGroup text = some (digits, rest)) :
    text = digits ++ rest := by
  unfold dottedGroup at h
  split at h
  · rename_i hgroup
    obtain ⟨rfl, rfl⟩ := Prod.mk.inj (Option.some.inj h)
    rw [eq_of_digitGroup hgroup, List.append_assoc, List.singleton_append]
  · cases h

theorem prefix_of_matchHere {text found : List Char} (h : matchHere letter text = some found) : found <+: text := by
  unfold matchHere at h
  split at h
  · cases h
  · rename_i ha
    split at h
    · cases h
    · rename_i hb
      split at h
      · cases h
      · rename_i hc
        split at h
        · cases h
        · rename_i _ rest hd
          split_ifs at h
          obtain rfl := Option.some.inj h
          refine ⟨rest, ?_⟩
          rw [eq_of_dottedGroup ha, eq_of_dottedGroup hb, eq_of_dottedGroup hc, eq_of_digitGroup hd]
          simp only [List.append_assoc]

end Groups

/-- Whether a character of a word stands last. -/
def endsInWord (letter : Char → Bool) (prevWord : Bool) (text : List Char) : Bool :=
  (text.getLast?.map (isWord letter)).getD prevWord

theorem endsInWord_cons (prevWord : Bool) (c : Char) (text : List Char) :
    endsInWord letter prevWord (c :: text) = endsInWord letter (isWord letter c) text := by
  unfold endsInWord
  rw [List.getLast?_cons]
  cases text.getLast? <;> rfl

theorem findGo_append {tail : List Char} (htail : Follows letter tail) {skip : Nat} {prevWord : Bool} {text : List Char}
    (hskip : skip ≤ text.length) : findGo letter skip prevWord (text ++ tail) =
      findGo letter skip prevWord text ++ findGo letter 0 (endsInWord letter prevWord text) tail := by
  induction text generalizing skip prevWord with
  | nil =>
    obtain rfl := Nat.le_zero.mp hskip
    rfl
  | cons c text ih =>
    rw [List.cons_append, endsInWord_cons]
    cases skip with
    | succ skip => exact ih (Nat.le_of_succ_le_succ hskip)
    | zero =>
      cases prevWord with
      | true => exact ih (Nat.zero_le _)
      | false =>
        rw [findGo, findGo, ← List.cons_append, matchHere_append htail]
        cases hmatch : matchHere letter (c :: text) with
        | none => exact ih (Nat.zero_le _)
        | some found =>
          have hlength := (prefix_of_matchHere hmatch).length_le
          rw [List.length_cons] at hlength
          dsimp only
          rw [ih (by omega), List.cons_append]

theorem findGo_of_not_word {c : Char} (h : isWord letter c = false) (prevWord : Bool) (text : List Char) :
    findGo letter 0 prevWord (c :: text) = findall letter text := by
  cases prevWord with
  | true =>
    rw [findGo, h]
    rfl
  | false =>
    have hdecimal : (c :: text).head?.any isDecimal = false := by
      refine Bool.eq_false_of_not_eq_true fun hd => ?_
      rw [isWord_of_isDecimal hd] at h
      cases h
    have hnone : matchHere letter (c :: text) = none := by
      rw [matchHere, dottedGroup, digitGroup_eq_none hdecimal]
    rw [findGo, hnone, h]
    rfl

/-! ## Gaps and last dots -/

theorem gap_word {c : Char} (h : isGap letter c = true) : isWord letter c = false := by
  unfold isGap at h
  rw [Bool.and_eq_true, Bool.and_eq_true, Bool.not_eq_true'] at h
  exact h.1.1

theorem follows_gap {c : Char} (h : isGap letter c = true) (text : List Char) : Follows letter (c :: text) := by
  refine ⟨gap_word h, fun rest hdot => ?_⟩
  obtain ⟨rfl, rfl⟩ := List.cons.inj hdot
  unfold isGap at h
  simp at h

theorem findall_gap {c : Char} (h : isGap letter c = true) (a b : List Char) :
    findall letter (a ++ c :: b) = findall letter a ++ findall letter b := by
  rw [findall, findGo_append (follows_gap h b) (Nat.zero_le _), findGo_of_not_word (gap_word h)]
  rfl

theorem follows_dot : Follows letter ['.'] := by
  refine ⟨rfl, fun rest hdot => ?_⟩
  obtain ⟨-, rfl⟩ := List.cons.inj hdot
  rfl

theorem findall_dot (a : List Char) : findall letter (a ++ ['.']) = findall letter a := by
  have hword : isWord letter '.' = false := rfl
  rw [findall, findGo_append follows_dot (Nat.zero_le _), findGo_of_not_word hword]
  exact List.append_nil _

theorem ipv6Literals_gap {c : Char} (h : isGap letter c = true) (a b : List Char) :
    ipv6Literals letter (a ++ c :: b) = ipv6Literals letter a ++ ipv6Literals letter b := by
  rw [ipv6Literals, List.splitOnP_append_cons _ _ h, List.map_append, List.filter_append]
  rfl

theorem map_trimDots_modifyHead (c : Char) (tokens : List (List Char)) :
    (tokens.modifyHead (c :: ·)).map trimDots =
      (tokens.map trimDots).modifyHead fun trimmed => if trimmed.isEmpty && c == '.' then [] else c :: trimmed := by
  cases tokens <;> rfl

theorem ipv6Literals_dot (a : List Char) : ipv6Literals letter (a ++ ['.']) = ipv6Literals letter a := by
  have htokens : ((a ++ ['.']).splitOnP (isGap letter)).map trimDots = (a.splitOnP (isGap letter)).map trimDots := by
    induction a with
    | nil => rfl
    | cons c a ih =>
      rw [List.cons_append, List.splitOnP_cons_eq_if_modifyHead, List.splitOnP_cons_eq_if_modifyHead]
      split_ifs
      · rw [List.map_cons, List.map_cons, ih]
      · rw [map_trimDots_modifyHead, map_trimDots_modifyHead, ih]
  rw [ipv6Literals, ipv6Literals, htokens]

theorem mem_literals_gap {c : Char} (h : isGap letter c = true) {a b token : List Char} :
    token ∈ literals letter (a ++ c :: b) ↔ token ∈ literals letter a ∨ token ∈ literals letter b := by
  rw [literals, literals, literals, findall_gap h, ipv6Literals_gap h]
  simp only [List.mem_append]
  tauto

@[simp] theorem literals_dot (a : List Char) : literals letter (a ++ ['.']) = literals letter a := by
  rw [literals, findall_dot, ipv6Literals_dot, literals]

@[simp] theorem literals_nil : literals letter [] = [] := rfl

/-! ## Texts without an address -/

theorem dot_of_dottedGroup {text digits rest : List Char} (h : dottedGroup text = some (digits, rest)) :
    1 ≤ digits.count '.' := by
  unfold dottedGroup at h
  split at h
  · obtain ⟨rfl, rfl⟩ := Prod.mk.inj (Option.some.inj h)
    exact List.count_pos_iff.mpr (List.mem_append_right _ (List.mem_singleton_self _))
  · cases h

theorem dots_of_matchHere {text found : List Char} (h : matchHere letter text = some found) : 3 ≤ found.count '.' := by
  unfold matchHere at h
  split at h
  · cases h
  · rename_i ha
    split at h
    · cases h
    · rename_i hb
      split at h
      · cases h
      · rename_i hc
        split at h
        · cases h
        · split_ifs at h
          obtain rfl := Option.some.inj h
          have h₁ := dot_of_dottedGroup ha
          have h₂ := dot_of_dottedGroup hb
          have h₃ := dot_of_dottedGroup hc
          simp only [List.count_append]
          omega

theorem findGo_eq_nil {skip : Nat} {prevWord : Bool} {text : List Char} (h : text.count '.' < 3) :
    findGo letter skip prevWord text = [] := by
  induction text generalizing skip prevWord with
  | nil => cases skip <;> rfl
  | cons c text ih =>
    have hrest : text.count '.' < 3 := Nat.lt_of_le_of_lt (List.count_le_count_cons) h
    cases skip with
    | succ skip => exact ih hrest
    | zero =>
      cases prevWord with
      | true => exact ih hrest
      | false =>
        rw [findGo]
        cases hmatch : matchHere letter (c :: text) with
        | none => exact ih hrest
        | some found =>
          have hle := (prefix_of_matchHere hmatch).sublist.count_le '.'
          have := dots_of_matchHere hmatch
          omega

theorem sublist_of_mem_splitOnP {p : Char → Bool} {text piece : List Char} (h : piece ∈ text.splitOnP p) :
    List.Sublist piece text := by
  induction text generalizing piece with
  | nil =>
    rw [List.splitOnP_nil, List.mem_singleton] at h
    rw [h]
  | cons c text ih =>
    rw [List.splitOnP_cons_eq_if_modifyHead] at h
    split_ifs at h
    · rcases List.mem_cons.mp h with rfl | h
      · exact List.nil_sublist _
      · exact (ih h).trans (List.sublist_cons_self c text)
    · cases hpieces : text.splitOnP p with
      | nil => exact absurd hpieces (List.splitOnP_ne_nil p text)
      | cons first rest =>
        rw [hpieces] at h
        rcases List.mem_cons.mp h with rfl | h
        · exact (ih (by rw [hpieces]; exact List.mem_cons_self)).cons_cons c
        · exact (ih (by rw [hpieces]; exact List.mem_cons_of_mem _ h)).trans (List.sublist_cons_self c text)

theorem trimDots_sublist (token : List Char) : List.Sublist (trimDots token) token := by
  induction token with
  | nil => exact List.Sublist.refl _
  | cons c rest ih =>
    unfold trimDots
    dsimp only
    split_ifs
    · exact List.nil_sublist _
    · exact ih.cons_cons c

theorem ipv6Literals_eq_nil {text : List Char} (h : text.count ':' < 2) : ipv6Literals letter text = [] := by
  refine List.filter_eq_nil_iff.mpr fun token htoken hsome => ?_
  obtain ⟨piece, hpiece, rfl⟩ := List.mem_map.mp htoken
  obtain ⟨ip, hip⟩ := Option.isSome_iff_exists.mp hsome
  have hle := ((trimDots_sublist piece).trans (sublist_of_mem_splitOnP hpiece)).count_le ':'
  have := colons_of_ipv6Number hip
  omega

theorem literals_eq_nil {text : List Char} (hdots : text.count '.' < 3) (hcolons : text.count ':' < 2) :
    literals letter text = [] := by
  rw [literals, findall, findGo_eq_nil hdots, ipv6Literals_eq_nil hcolons, List.append_nil]

end ThreatFusion.Advisory
