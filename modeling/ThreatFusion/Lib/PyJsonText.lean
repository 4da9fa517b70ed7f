import ThreatFusion.Lib.PyJson
/-
# What is written is read back

`Value.Distinct`: no dict has a key twice. What the reader gives is so (`loads_distinct`), and of such values

* `loads_dumps`: the reader gives back what the writer wrote, with its keys sorted;
* `dumps_inj`: one text stands for one value, up to the order of the keys;
* `get_sortKeys`: which is not seen by a lookup.

`loads_fuel`: the reader has fuel for every text.
-/
namespace PyJson
open JsonText (points scanString scanKey scanScalar skipBlanks unicodeEscape joinComma MAX_INT_DIGITS)

variable {F : Type} {py : Python F}

/-! ## Distinct keys -/

mutual
def Value.Distinct : Value F → Prop
  | .arr xs => DistinctItems xs
  | .obj pairs => (pairs.map Prod.fst).Nodup ∧ DistinctPairs pairs
  | _ => True

def DistinctItems : List (Value F) → Prop
  | [] => True
  | x :: xs => x.Distinct ∧ DistinctItems xs

def DistinctPairs : List (Str × Value F) → Prop
  | [] => True
  | (_, v) :: rest => v.Distinct ∧ DistinctPairs rest
end

attribute [local grind] Value.Distinct DistinctItems DistinctPairs

@[simp] theorem distinctItems_iff {xs : List (Value F)} : DistinctItems xs ↔ ∀ x ∈ xs, x.Distinct := by
  induction xs with
  | nil => exact ⟨fun _ _ h => absurd h List.not_mem_nil, fun _ => trivial⟩
  | cons x xs ih => rw [DistinctItems, ih, List.forall_mem_cons]

@[simp] theorem distinctPairs_iff {pairs : List (Str × Value F)} : DistinctPairs pairs ↔ ∀ p ∈ pairs, p.2.Distinct := by
  induction pairs with
  | nil => exact ⟨fun _ _ h => absurd h List.not_mem_nil, fun _ => trivial⟩
  | cons p pairs ih =>
    obtain ⟨k, v⟩ := p
    rw [DistinctPairs, ih, List.forall_mem_cons]

theorem distinct_arr {xs : List (Value F)} : (Value.arr xs).Distinct ↔ ∀ x ∈ xs, x.Distinct := by
  rw [Value.Distinct, distinctItems_iff]

theorem distinct_obj {pairs : List (Str × Value F)} :
    (Value.obj pairs).Distinct ↔ (pairs.map Prod.fst).Nodup ∧ ∀ p ∈ pairs, p.2.Distinct := by
  rw [Value.Distinct, distinctPairs_iff]

/-! ## Sorted keys -/

section Sorting

variable {α β : Type}

instance : Std.Total (keyLe (α := α)) := ⟨fun a b => le_total a.1 b.1⟩

instance : IsTrans (Str × α) keyLe := ⟨fun _ _ _ => le_trans (α := Str)⟩

def sortedByKey (pairs : List (Str × α)) : List (Str × α) := pairs.insertionSort keyLe

theorem sortedByKey_perm (pairs : List (Str × α)) : (sortedByKey pairs).Perm pairs := List.perm_insertionSort _ _

theorem sortedByKey_map {f : Str × α → Str × β} (hf : ∀ p, (f p).1 = p.1) (pairs : List (Str × α)) :
    (sortedByKey pairs).map f = sortedByKey (pairs.map f) := by
  refine List.map_insertionSort _ _ f pairs fun a _ b _ => ?_
  unfold keyLe
  rw [hf, hf]

theorem sortedByKey_sortedByKey (pairs : List (Str × α)) : sortedByKey (sortedByKey pairs) = sortedByKey pairs :=
  List.Pairwise.insertionSort_eq (List.pairwise_insertionSort keyLe pairs)

/-- Of distinct keys, the order of the pairs is not seen. -/
theorem get_perm {pairs pairs' : List (Str × α)} (h : (pairs.map Prod.fst).Nodup) (hperm : pairs'.Perm pairs)
    (key : String) : get pairs' key = get pairs key := by
  have h' : (pairs'.map Prod.fst).Nodup := ((hperm.map Prod.fst).nodup_iff).mpr h
  have finds {ps : List (Str × α)} (hnodup : (ps.map Prod.fst).Nodup) {p : Str × α} (hp : p ∈ ps)
      (hkey : p.1 = points key) : get ps key = some p.2 := by
    have hfind := Grouping.find?_key hnodup hp
    rw [get, ← hkey]
    exact congrArg (Option.map Prod.snd) hfind
  cases hget : get pairs key with
  | none =>
    rw [get, Option.map_eq_none_iff, List.find?_eq_none] at hget ⊢
    exact fun p hp => hget p (hperm.mem_iff.mp hp)
  | some v =>
    obtain ⟨p, hfind, rfl⟩ := Option.map_eq_some_iff.mp hget
    have hkey : p.1 = points key := by simpa using List.find?_some hfind
    exact finds h' (hperm.mem_iff.mpr (List.mem_of_find?_eq_some hfind)) hkey

theorem get_map {f : Str × α → Str × β} {g : α → β} (hf : ∀ p, f p = (p.1, g p.2)) (pairs : List (Str × α))
    (key : String) : get (pairs.map f) key = (get pairs key).map g := by
  rw [get, get, List.find?_map, Option.map_map, Option.map_map]
  have hkey : (fun p : Str × β => decide (p.1 = points key)) ∘ f = fun p => decide (p.1 = points key) := by
    funext p
    rw [Function.comp_apply, hf]
  rw [hkey]
  congr 1
  funext p
  rw [Function.comp_apply, Function.comp_apply, hf]

end Sorting

theorem sortKeys_arr (xs : List (Value F)) : sortKeys (.arr xs) = .arr (xs.map sortKeys) := by
  rw [sortKeys, sortItems_eq_map]

theorem sortKeys_obj (pairs : List (Str × Value F)) :
    sortKeys (.obj pairs) = .obj (sortedByKey (pairs.map fun p => (p.1, sortKeys p.2))) := by
  rw [sortKeys, sortPairs_eq_map]
  rfl

theorem sortKeys_sortKeys (v : Value F) : sortKeys (sortKeys v) = sortKeys v := by
  induction v using Value.induct with
  | hnull => rfl
  | hbool b => rfl
  | hint n => rfl
  | hfloat x => rfl
  | hstr s => rfl
  | harr xs ih =>
    rw [sortKeys_arr, sortKeys_arr, List.map_map]
    exact congrArg Value.arr (List.map_congr_left ih)
  | hobj pairs ih =>
    have hsort : ∀ p : Str × Value F, ((fun p : Str × Value F => (p.1, sortKeys p.2)) p).1 = p.1 := fun _ => rfl
    rw [sortKeys_obj, sortKeys_obj, sortedByKey_map hsort, sortedByKey_sortedByKey, List.map_map]
    refine congrArg (fun ps => Value.obj (sortedByKey ps)) (List.map_congr_left fun p hp => ?_)
    exact congrArg (Prod.mk p.1) (ih p hp)

theorem writes_arr {d : Nat} {xs : List (Value F)} :
    (Value.arr xs).writes py (d + 1) = true ↔ ∀ x ∈ xs, x.writes py d = true := by
  rw [Value.writes, writesItems_eq_all, List.all_eq_true]

theorem writes_obj {d : Nat} {pairs : List (Str × Value F)} : (Value.obj pairs).writes py (d + 1) = true ↔
    ∀ p ∈ pairs, isText p.1 = true ∧ p.2.writes py d = true := by
  rw [Value.writes, writesPairs_eq_all, List.all_eq_true]
  simp only [Bool.and_eq_true]

theorem writes_sortKeys (v : Value F) (d : Nat) : (sortKeys v).writes py d = true ↔ v.writes py d = true := by
  induction v using Value.induct generalizing d with
  | hnull => rfl
  | hbool b => rfl
  | hint n => rfl
  | hfloat x => rfl
  | hstr s => rfl
  | harr xs ih =>
    cases d with
    | zero => rw [sortKeys_arr, Value.writes, Value.writes]
    | succ d =>
      rw [sortKeys_arr, writes_arr, writes_arr, List.forall_mem_map]
      exact forall₂_congr fun x hx => ih x hx d
  | hobj pairs ih =>
    cases d with
    | zero => rw [sortKeys_obj, Value.writes, Value.writes]
    | succ d =>
      have hmem (p : Str × Value F) : p ∈ sortedByKey (pairs.map fun p => (p.1, sortKeys p.2)) ↔
          p ∈ pairs.map fun p => (p.1, sortKeys p.2) := (sortedByKey_perm _).mem_iff
      rw [sortKeys_obj, writes_obj, writes_obj]
      simp only [hmem, List.forall_mem_map]
      exact forall₂_congr fun p hp => and_congr_right fun _ => ih p hp d

theorem writes_mono (v : Value F) {d d' : Nat} (hle : d ≤ d') (h : v.writes py d = true) : v.writes py d' = true := by
  induction v using Value.induct generalizing d d' with
  | hnull => rfl
  | hbool b => rfl
  | hint n => exact h
  | hfloat x => exact h
  | hstr s => exact h
  | harr xs ih =>
    cases d with
    | zero => rw [Value.writes] at h; cases h
    | succ d =>
      obtain ⟨d', rfl⟩ : ∃ k, d' = k + 1 := ⟨d' - 1, by omega⟩
      rw [writes_arr] at h ⊢
      exact fun x hx => ih x hx (Nat.le_of_succ_le_succ hle) (h x hx)
  | hobj pairs ih =>
    cases d with
    | zero => rw [Value.writes] at h; cases h
    | succ d =>
      obtain ⟨d', rfl⟩ : ∃ k, d' = k + 1 := ⟨d' - 1, by omega⟩
      rw [writes_obj] at h ⊢
      exact fun p hp => ⟨(h p hp).1, ih p hp (Nat.le_of_succ_le_succ hle) (h p hp).2⟩

theorem distinct_sortKeys (v : Value F) (h : v.Distinct) : (sortKeys v).Distinct := by
  induction v using Value.induct with
  | hnull => trivial
  | hbool b => trivial
  | hint n => trivial
  | hfloat x => trivial
  | hstr s => trivial
  | harr xs ih =>
    rw [distinct_arr] at h
    rw [sortKeys_arr, distinct_arr, List.forall_mem_map]
    exact fun x hx => ih x hx (h x hx)
  | hobj pairs ih =>
    rw [distinct_obj] at h
    rw [sortKeys_obj, distinct_obj]
    have hperm := sortedByKey_perm (pairs.map fun p => (p.1, sortKeys p.2))
    constructor
    · rw [(hperm.map Prod.fst).nodup_iff, List.map_map]
      exact h.1
    · intro p hp
      obtain ⟨q, hq, rfl⟩ := List.mem_map.mp (hperm.mem_iff.mp hp)
      exact ih q hq (h.2 q hq)

/-- A lookup in a sorted object. -/
theorem get_sorted {pairs : List (Str × Value F)} (h : (Value.obj pairs).Distinct) (key : String) :
    get (sortedByKey (pairs.map fun p => (p.1, sortKeys p.2))) key = (get pairs key).map sortKeys := by
  have hnodup : ((pairs.map fun p => (p.1, sortKeys p.2)).map Prod.fst).Nodup := by
    rw [List.map_map]
    exact (distinct_obj.mp h).1
  rw [get_perm hnodup (sortedByKey_perm _), get_map (fun _ => rfl)]

/-! ## Strings are read back -/

theorem toNat_ofNat {u : Nat} (h : u.isValidChar) : (Char.ofNat u).toNat = u := by
  rw [Char.ofNat, dif_pos h]
  rfl

theorem escape_cases (c : Char) :
    ((c ≠ '"' ∧ c ≠ '\\' ∧ 32 ≤ c.toNat) ∧ escape c = [c]) ∨
    (∃ e, escape c = ['\\', e] ∧ e ≠ 'u' ∧ JsonText.escapedUnit e = some c.toNat) ∨
    (c.toNat < 32 ∧ escape c = unicodeEscape c.toNat) := by
  unfold escape
  by_cases hq : c = '"'
  · subst hq
    exact .inr (.inl ⟨'"', rfl, by decide, rfl⟩)
  by_cases hb : c = '\\'
  · subst hb
    exact .inr (.inl ⟨'\\', rfl, by decide, rfl⟩)
  rw [if_neg hq, if_neg hb]
  by_cases hn : c = '\n'
  · subst hn
    exact .inr (.inl ⟨'n', rfl, by decide, rfl⟩)
  by_cases hr : c = '\r'
  · subst hr
    exact .inr (.inl ⟨'r', rfl, by decide, rfl⟩)
  by_cases ht : c = '\t'
  · subst ht
    exact .inr (.inl ⟨'t', rfl, by decide, rfl⟩)
  rw [if_neg hn, if_neg hr, if_neg ht]
  by_cases hf : c.toNat = 12
  · exact .inr (.inl ⟨'f', if_pos hf, by decide, by rw [hf]; rfl⟩)
  by_cases hbs : c.toNat = 8
  · rw [if_neg hf]
    exact .inr (.inl ⟨'b', if_pos hbs, by decide, by rw [hbs]; rfl⟩)
  rw [if_neg hf, if_neg hbs]
  by_cases hlow : c.toNat < 32
  · exact .inr (.inr ⟨hlow, if_pos hlow⟩)
  · exact .inl ⟨⟨hq, hb, Nat.le_of_not_lt hlow⟩, if_neg hlow⟩

theorem scanUnits_escape (c : Char) (rest : List Char) : JsonText.scanUnits (escape c ++ rest) =
    (JsonText.scanUnits rest).map fun p => (c.toNat :: p.1, p.2) := by
  rcases escape_cases c with ⟨⟨hq, hb, hc⟩, he⟩ | ⟨e, he, hu, hunit⟩ | ⟨hlow, he⟩
  · rw [he, List.singleton_append, JsonText.scanUnits_char hq hb hc]
  · rw [he, List.cons_append, List.singleton_append, JsonText.scanUnits_short hu hunit]
  · rw [he, JsonText.scanUnits_unicodeEscape (by omega)]

theorem scanUnits_flatMap (cs rest : List Char) :
    JsonText.scanUnits (cs.flatMap escape ++ '"' :: rest) = some (cs.map Char.toNat, rest) := by
  induction cs with
  | nil =>
    rw [List.flatMap_nil, List.nil_append, JsonText.scanUnits.eq_def]
    rfl
  | cons c cs ih =>
    rw [List.flatMap_cons, List.append_assoc, scanUnits_escape, ih]
    rfl

/-- Without surrogates there are no pairs. -/
theorem joinPairs_text {s : Str} (h : ∀ u ∈ s, u.isValidChar) : JsonText.joinPairs s = s := by
  induction s using JsonText.joinPairs.induct with
  | case1 => rfl
  | case2 u => rfl
  | case3 u v rest hpair ih =>
    have hu := h u List.mem_cons_self
    rw [Bool.and_eq_true, JsonText.isHigh, Bool.and_eq_true, decide_eq_true_eq, decide_eq_true_eq] at hpair
    rcases hu with hu | hu
    · exact absurd hu (by omega)
    · exact absurd hu.1 (by omega)
  | case4 u v rest hpair ih =>
    rw [JsonText.joinPairs, if_neg hpair, ih fun w hw => h w (List.mem_cons_of_mem u hw)]

theorem isText_iff {s : Str} : isText s = true ↔ ∀ u ∈ s, u.isValidChar := by
  rw [isText, List.all_eq_true]
  simp only [decide_eq_true_eq]

theorem scanString_quote {s : Str} (h : isText s = true) (rest : List Char) :
    scanString ((s.map Char.ofNat).flatMap escape ++ '"' :: rest) = some (s, rest) := by
  have hvalid := isText_iff.mp h
  have hback : (s.map Char.ofNat).map Char.toNat = s := by
    rw [List.map_map]
    exact (List.map_congr_left fun u hu => toNat_ofNat (hvalid u hu)).trans (List.map_id s)
  rw [scanString, scanUnits_flatMap, hback, Option.map_some, joinPairs_text hvalid]

/-! ## Values are read back -/

theorem render_starts {v : Value F} {d : Nat} (h : v.writes py d = true) :
    ∃ c r, render py v = c :: r ∧ JsonText.Starts c := by
  cases v with
  | null => exact ⟨'n', _, rfl, by decide, by decide, by decide⟩
  | bool b =>
    cases b
    · exact ⟨'f', _, rfl, by decide, by decide, by decide⟩
    · exact ⟨'t', _, rfl, by decide, by decide, by decide⟩
  | int n =>
    have hhead := (JsonText.numberHead_int n []).starts
    rwa [List.append_nil] at hhead
  | float x =>
    have hhead := (JsonText.numberHead_float (py.repr_text x h) []).starts
    rwa [List.append_nil] at hhead
  | str s => exact ⟨'"', _, rfl, by decide, by decide, by decide⟩
  | arr xs => exact ⟨'[', _, by rw [render], by decide, by decide, by decide⟩
  | obj pairs => exact ⟨'\x7b', _, by rw [render], by decide, by decide, by decide⟩

/-- A text that is neither quoted nor bracketed is a scalar. -/
theorem readValue_scalar {c : Char} (hc : c ≠ '"' ∧ c ≠ '[' ∧ c ≠ '\x7b') (r : List Char) (n d : Nat) :
    readValue py (n + 1) d (c :: r) = readScalar py (c :: r) := by
  rw [readValue.eq_def]
  dsimp only
  split
  · rename_i heq
    exact absurd (List.cons.inj heq).1 hc.1
  · rename_i heq
    exact absurd (List.cons.inj heq).1 hc.2.1
  · rename_i heq
    exact absurd (List.cons.inj heq).1 hc.2.2
  · rfl

variable (py) in
theorem readValue_number {t : List Char} (h : JsonText.NumberHead t) (n d : Nat) :
    readValue py (n + 1) d t = readScalar py t ∧ scanScalar t = JsonText.scanNumber t := by
  refine ⟨?_, by rw [scanScalar, JsonText.scanConstant_number h]⟩
  obtain ⟨s, e, r, rfl, rfl | rfl, he⟩ := h
  · refine readValue_scalar ⟨?_, ?_, ?_⟩ r n d <;> (rintro rfl; exact absurd he (by decide))
  · exact readValue_scalar (by decide) _ n d

theorem scanKey_quote {k : Str} (hk : isText k = true) {c : Char} (hc : JsonText.Starts c) (t : List Char) :
    scanKey (quote k ++ ':' :: c :: t) = some (k, c :: t) := by
  have hcolon : skipBlanks (':' :: c :: t) = ':' :: c :: t :=
    JsonText.skipBlanks_of_starts ⟨by decide, by decide, by decide⟩ _
  rw [quote, List.cons_append, List.append_assoc, List.singleton_append, scanKey, scanString_quote hk]
  simp only [hcolon, JsonText.skipBlanks_of_starts hc]

/-- The value is read back from its text, with what stops it. -/
def ReadsBack (py : Python F) (v : Value F) : Prop :=
  ∀ (n d : Nat) (rest : List Char), v.writes py d = true → 2 * (render py v).length ≤ n → JsonText.Stops rest →
    readValue py n d (render py v ++ rest) = .ok (v, rest)

theorem starts_comma : JsonText.Starts ',' := ⟨by decide, by decide, by decide⟩

theorem items_start {x : Value F} {d : Nat} (hx : x.writes py d = true) (xs : List (Value F)) :
    ∃ c r, joinComma ((x :: xs).map (render py)) = c :: r ∧ JsonText.Starts c := by
  obtain ⟨c, r, hr, hc⟩ := render_starts hx
  cases xs with
  | nil => exact ⟨c, r, hr, hc⟩
  | cons y ys => exact ⟨c, _, by rw [List.map_cons, List.map_cons, joinComma, hr, List.cons_append], hc⟩

theorem readItems_render {d : Nat} (rest : List Char) (xs : List (Value F)) : ∀ (x : Value F) (n : Nat),
    (∀ y ∈ x :: xs, ReadsBack py y) → (∀ y ∈ x :: xs, y.writes py d = true) →
    2 * (joinComma ((x :: xs).map (render py))).length + 1 ≤ n →
    readItems py n d (joinComma ((x :: xs).map (render py)) ++ ']' :: rest) = .ok (x :: xs, rest) := by
  induction xs with
  | nil =>
    intro x n hback hwrites hn
    obtain ⟨m, rfl⟩ : ∃ m, n = m + 1 := ⟨n - 1, by omega⟩
    have htext : joinComma ([x].map (render py)) = render py x := rfl
    rw [htext] at hn ⊢
    have hread := hback x List.mem_cons_self m d (']' :: rest) (hwrites x List.mem_cons_self) (by omega)
      (JsonText.stops_of (.inr (.inl rfl)) rest)
    rw [readItems, hread]
    rfl
  | cons y ys ih =>
    intro x n hback hwrites hn
    obtain ⟨m, rfl⟩ : ∃ m, n = m + 1 := ⟨n - 1, by omega⟩
    have htext : joinComma ((x :: y :: ys).map (render py)) =
        render py x ++ ',' :: joinComma ((y :: ys).map (render py)) := rfl
    rw [htext] at hn ⊢
    rw [List.length_append, List.length_cons] at hn
    have hrest := ih y m (fun z hz => hback z (List.mem_cons_of_mem x hz))
      (fun z hz => hwrites z (List.mem_cons_of_mem x hz)) (by omega)
    obtain ⟨c, r, hnext, hc⟩ := items_start (hwrites y (List.mem_cons_of_mem x List.mem_cons_self)) ys
    have hread := hback x List.mem_cons_self m d (',' :: (joinComma ((y :: ys).map (render py)) ++ ']' :: rest))
      (hwrites x List.mem_cons_self) (by omega) (JsonText.stops_of (.inl rfl) _)
    rw [List.append_assoc, List.cons_append, readItems, hread]
    rw [hnext, List.cons_append] at hrest ⊢
    simp only [JsonText.skipBlanks_of_starts starts_comma, JsonText.skipBlanks_of_starts hc, hrest]
    rfl

def renderPair (py : Python F) (p : Str × Value F) : List Char := quote p.1 ++ ':' :: render py p.2

variable (py) in
theorem pairs_start (p : Str × Value F) (ps : List (Str × Value F)) :
    ∃ r, joinComma ((p :: ps).map (renderPair py)) = '"' :: r := by
  cases ps with
  | nil => exact ⟨_, rfl⟩
  | cons q qs => exact ⟨_, rfl⟩

theorem readPairs_render {d : Nat} (rest : List Char) (ps : List (Str × Value F)) : ∀ (p : Str × Value F) (n : Nat),
    (∀ q ∈ p :: ps, ReadsBack py q.2) → (∀ q ∈ p :: ps, isText q.1 = true ∧ q.2.writes py d = true) →
    2 * (joinComma ((p :: ps).map (renderPair py))).length + 1 ≤ n →
    readPairs py n d (joinComma ((p :: ps).map (renderPair py)) ++ '\x7d' :: rest) = .ok (p :: ps, rest) := by
  -- what the step does with the first pair, up to the text `t` that stops its value
  have first (p : Str × Value F) (m : Nat) (t : List Char) (hback : ReadsBack py p.2) (hkey : isText p.1 = true)
      (hvalue : p.2.writes py d = true) (hm : 2 * (render py p.2).length ≤ m) (ht : JsonText.Stops t) :
      ∃ after, scanKey (renderPair py p ++ t) = some (p.1, after) ∧ readValue py m d after = .ok (p.2, t) := by
    obtain ⟨c, r, htext, hc⟩ := render_starts hvalue
    refine ⟨render py p.2 ++ t, ?_, hback m d t hvalue hm ht⟩
    rw [renderPair, List.append_assoc, List.cons_append, htext, List.cons_append]
    exact scanKey_quote hkey hc _
  induction ps with
  | nil =>
    intro p n hback hwrites hn
    obtain ⟨m, rfl⟩ : ∃ m, n = m + 1 := ⟨n - 1, by omega⟩
    have htext : joinComma ([p].map (renderPair py)) = renderPair py p := rfl
    rw [htext] at hn ⊢
    rw [renderPair, List.length_append, List.length_cons] at hn
    obtain ⟨hkey, hvalue⟩ := hwrites p List.mem_cons_self
    obtain ⟨after, hscan, hread⟩ := first p m ('\x7d' :: rest) (hback p List.mem_cons_self) hkey hvalue (by omega)
      (JsonText.stops_of (.inr (.inr rfl)) rest)
    rw [readPairs, hscan]
    simp only [hread]
    rfl
  | cons q qs ih =>
    intro p n hback hwrites hn
    obtain ⟨m, rfl⟩ : ∃ m, n = m + 1 := ⟨n - 1, by omega⟩
    have htext : joinComma ((p :: q :: qs).map (renderPair py)) =
        renderPair py p ++ ',' :: joinComma ((q :: qs).map (renderPair py)) := rfl
    rw [htext] at hn ⊢
    rw [List.length_append, List.length_cons, renderPair, List.length_append, List.length_cons] at hn
    have hrest := ih q m (fun z hz => hback z (List.mem_cons_of_mem p hz))
      (fun z hz => hwrites z (List.mem_cons_of_mem p hz)) (by omega)
    obtain ⟨r, hnext⟩ := pairs_start py q qs
    obtain ⟨hkey, hvalue⟩ := hwrites p List.mem_cons_self
    obtain ⟨after, hscan, hread⟩ := first p m (',' :: (joinComma ((q :: qs).map (renderPair py)) ++ '\x7d' :: rest))
      (hback p List.mem_cons_self) hkey hvalue (by omega) (JsonText.stops_of (.inl rfl) _)
    rw [hnext, List.cons_append] at hrest hread hscan
    rw [List.append_assoc, List.cons_append, readPairs, hnext, List.cons_append, hscan]
    simp only [hread, JsonText.skipBlanks_of_starts starts_comma,
      JsonText.skipBlanks_of_starts JsonText.starts_quote, hrest]
    rfl

/-- **A value is read back**, with the text that stops it. -/
theorem readsBack (v : Value F) (h : v.Distinct) : ReadsBack py v := by
  induction v using Value.induct with
  | hnull =>
    intro n d rest _ hn _
    obtain ⟨m, rfl⟩ := JsonText.exists_fuel (List.cons_ne_nil _ _) hn
    exact readValue_scalar (by decide) _ _ _
  | hbool b =>
    intro n d rest _ hn _
    cases b
    · obtain ⟨m, rfl⟩ := JsonText.exists_fuel (List.cons_ne_nil _ _) hn
      exact readValue_scalar (by decide) _ _ _
    · obtain ⟨m, rfl⟩ := JsonText.exists_fuel (List.cons_ne_nil _ _) hn
      exact readValue_scalar (by decide) _ _ _
  | hint i =>
    intro n d rest hwrites hn hrest
    obtain ⟨c, r, htext, -⟩ := render_starts hwrites
    obtain ⟨m, rfl⟩ := JsonText.exists_fuel (by rw [htext]; exact List.cons_ne_nil c r) hn
    obtain ⟨hread, hscan⟩ := readValue_number py (JsonText.numberHead_int i rest) (m + 1) d
    rw [Value.writes] at hwrites
    rw [render, hread, readScalar, hscan, JsonText.scanNumber_int i hrest]
    exact if_pos hwrites
  | hfloat x =>
    intro n d rest hwrites hn hrest
    obtain ⟨c, r, htext, -⟩ := render_starts hwrites
    obtain ⟨m, rfl⟩ := JsonText.exists_fuel (by rw [htext]; exact List.cons_ne_nil c r) hn
    rw [Value.writes] at hwrites
    have hfloat := py.repr_text x hwrites
    obtain ⟨hread, hscan⟩ := readValue_number py (JsonText.numberHead_float hfloat rest) (m + 1) d
    rw [render, hread, readScalar, hscan, JsonText.scanNumber_float hfloat hrest]
    dsimp only
    rw [String.toList_ofList, py.parse_repr x hwrites]
  | hstr s =>
    intro n d rest hwrites hn _
    obtain ⟨m, rfl⟩ := JsonText.exists_fuel (List.cons_ne_nil _ _) hn
    rw [Value.writes] at hwrites
    rw [render, quote, List.cons_append, List.append_assoc, List.singleton_append, readValue, scanString_quote hwrites]
  | harr xs ih =>
    intro n d rest hwrites hn hrest
    obtain ⟨m, rfl⟩ := JsonText.exists_fuel (by rw [render]; exact List.cons_ne_nil _ _) hn
    cases d with
    | zero =>
      rw [Value.writes] at hwrites
      cases hwrites
    | succ d =>
      rw [writes_arr] at hwrites
      rw [distinct_arr] at h
      rw [render, renderItems_eq_map, List.cons_append, List.append_assoc, List.singleton_append]
      rw [render, renderItems_eq_map, List.length_cons, List.length_append, List.length_singleton] at hn
      cases xs with
      | nil => rfl
      | cons x xs =>
        have hitems := readItems_render (d := d) rest xs x (m + 1) (fun y hy => ih y hy (h y hy)) hwrites (by omega)
        obtain ⟨c, r, htext, hc⟩ := items_start (hwrites x List.mem_cons_self) xs
        rw [htext, List.cons_append] at hitems ⊢
        rw [readValue]
        simp only [JsonText.skipBlanks_of_starts hc]
        split
        · rename_i heq
          exact absurd (List.cons.inj heq).1 hc.2.1
        · rw [hitems]
          rfl
  | hobj pairs ih =>
    intro n d rest hwrites hn hrest
    obtain ⟨m, rfl⟩ := JsonText.exists_fuel (by rw [render]; exact List.cons_ne_nil _ _) hn
    cases d with
    | zero =>
      rw [Value.writes] at hwrites
      cases hwrites
    | succ d =>
      rw [writes_obj] at hwrites
      rw [distinct_obj] at h
      have hpairs : renderPairs py pairs = pairs.map (renderPair py) := renderPairs_eq_map py pairs
      rw [render, hpairs, List.cons_append, List.append_assoc, List.singleton_append]
      rw [render, hpairs, List.length_cons, List.length_append, List.length_singleton] at hn
      cases pairs with
      | nil => rfl
      | cons p ps =>
        have hread := readPairs_render (d := d) rest ps p (m + 1) (fun q hq => ih q hq (h.2 q hq)) hwrites (by omega)
        obtain ⟨r, htext⟩ := pairs_start py p ps
        rw [htext, List.cons_append] at hread ⊢
        rw [readValue]
        simp only [JsonText.skipBlanks_of_starts JsonText.starts_quote]
        split
        · rename_i heq
          exact absurd (List.cons.inj heq).1 (by decide)
        · rw [hread]
          exact congrArg (fun ps => Except.ok (Value.obj ps, rest)) (Grouping.dictOf_of_nodup h.1)

/-- **A whole text is read back**, with its keys sorted. -/
theorem loads_dumps {v : Value F} (h : v.Distinct) (hwrites : v.writes py py.readDepth = true) :
    loads py (dumps py v) = .ok (sortKeys v) := by
  have hsorted := (writes_sortKeys v py.readDepth).mpr hwrites
  have hread := readsBack (sortKeys v) (distinct_sortKeys v h) (2 * (dumps py v).length + 2) py.readDepth [] hsorted
    (by rw [dumps]; omega) (fun _ hc => by cases hc)
  obtain ⟨c, r, htext, hc⟩ := render_starts hsorted
  have hskip : skipBlanks (dumps py v) = dumps py v := by rw [dumps, htext, JsonText.skipBlanks_of_starts hc]
  rw [List.append_nil] at hread
  rw [← dumps] at hread
  rw [loads, hskip, hread]
  rfl

/-- **One text stands for one value**, up to the order of its keys. -/
theorem dumps_inj {v w : Value F} {d : Nat} (hv : v.Distinct) (hw : w.Distinct) (hvwrites : v.writes py d = true)
    (hwwrites : w.writes py d = true) (h : dumps py v = dumps py w) : sortKeys v = sortKeys w := by
  have read {u : Value F} (hu : u.Distinct) (hwrites : u.writes py d = true) :
      readValue py (2 * (dumps py u).length) d (dumps py u) = .ok (sortKeys u, []) := by
    have hread := readsBack (sortKeys u) (distinct_sortKeys u hu) (2 * (dumps py u).length) d []
      ((writes_sortKeys u d).mpr hwrites) (Nat.le_refl _) (fun _ hc => by cases hc)
    rwa [List.append_nil] at hread
  have hread := read hv hvwrites
  rw [h, read hw hwwrites] at hread
  exact (Prod.mk.inj (Except.ok.inj hread)).1.symm

/-! ## What the reader gives -/

theorem length_scanUnits {text : List Char} {us : List Nat} {rest : List Char}
    (h : JsonText.scanUnits text = some (us, rest)) : rest.length < text.length := by
  induction text using JsonText.scanUnits.induct generalizing us with
  | case1 => simp [JsonText.scanUnits] at h
  | case2 tail =>
    rw [JsonText.scanUnits.eq_def] at h
    simp only [if_true, Option.some.injEq, Prod.mk.injEq] at h
    obtain ⟨-, rfl⟩ := h
    exact Nat.lt_succ_self _
  | case3 h₁ h₂ h₃ h₄ tail hunit hq =>
    rw [JsonText.scanUnits, if_neg hq, if_pos rfl] at h
    simp [hunit] at h
  | case4 h₁ h₂ h₃ h₄ tail u hunit hq ih =>
    rw [JsonText.scanUnits, if_neg hq, if_pos rfl] at h
    simp only [hunit] at h
    obtain ⟨⟨us', rest'⟩, hrest, heq⟩ := Option.map_eq_some_iff.mp h
    obtain ⟨-, rfl⟩ := Prod.mk.inj heq
    have hlt : rest'.length < _ := ih hrest
    simp only [List.length_cons]
    omega
  | case5 e tail hnot hunit hq =>
    rw [JsonText.scanUnits.eq_def] at h
    dsimp only at h
    rw [if_neg hq, if_pos rfl] at h
    split at h
    · rename_i heq
      exact absurd (List.cons.inj heq).2 (fun ht => hnot _ _ _ _ _ (List.cons.inj heq).1 ht)
    · rename_i heq
      obtain ⟨rfl, rfl⟩ := List.cons.inj heq
      rw [hunit] at h
      cases h
    · cases h
  | case6 e tail hnot u hunit hq ih =>
    have hu : e ≠ 'u' := by
      rintro rfl
      cases hunit
    rw [JsonText.scanUnits_short hu hunit] at h
    obtain ⟨⟨us', rest'⟩, hrest, heq⟩ := Option.map_eq_some_iff.mp h
    obtain ⟨-, rfl⟩ := Prod.mk.inj heq
    have hlt : rest'.length < _ := ih hrest
    simp only [List.length_cons]
    omega
  | case7 hq => simp [JsonText.scanUnits] at h
  | case8 c tail hq hb hc =>
    rw [JsonText.scanUnits.eq_def] at h
    dsimp only at h
    rw [if_neg hq, if_neg hb, if_pos hc] at h
    cases h
  | case9 c tail hq hb hc ih =>
    rw [JsonText.scanUnits_char hq hb (Nat.le_of_not_lt hc)] at h
    obtain ⟨⟨us', rest'⟩, hrest, heq⟩ := Option.map_eq_some_iff.mp h
    obtain ⟨-, rfl⟩ := Prod.mk.inj heq
    exact Nat.lt_succ_of_lt (ih hrest)

theorem length_scanString {text : List Char} {s : Str} {rest : List Char} (h : scanString text = some (s, rest)) :
    rest.length < text.length := by
  obtain ⟨⟨us, rest'⟩, hunits, heq⟩ := Option.map_eq_some_iff.mp h
  obtain ⟨-, rfl⟩ := Prod.mk.inj heq
  exact length_scanUnits hunits

theorem length_skipBlanks (text : List Char) : (skipBlanks text).length ≤ text.length := List.length_dropWhile_le ..

theorem length_scanKey {text : List Char} {k : Str} {rest : List Char} (h : scanKey text = some (k, rest)) :
    rest.length < text.length := by
  unfold scanKey at h
  split at h
  · split at h
    · cases h
    · rename_i key after hstring
      have hlength := length_scanString hstring
      have hafter := length_skipBlanks after
      split at h
      · rename_i tail hcolon
        obtain ⟨-, rfl⟩ := Prod.mk.inj (Option.some.inj h)
        have htail := length_skipBlanks tail
        rw [hcolon, List.length_cons] at hafter
        rw [List.length_cons]
        omega
      · cases h
  · cases h

theorem length_scanNumber {text : List Char} {v : JsonText.Value} {rest : List Char}
    (h : JsonText.scanNumber text = some (v, rest)) : rest.length < text.length := by
  have hsign := congrArg List.length (JsonText.scanSign_split text).1
  have hwhole := congrArg List.length (JsonText.scanWhole_split (JsonText.scanSign text).2).1
  have hfraction := congrArg List.length
    (JsonText.scanFraction_split (JsonText.scanWhole (JsonText.scanSign text).2).2).1
  have hexponent := congrArg List.length (JsonText.scanExponent_split
    (JsonText.scanFraction (JsonText.scanWhole (JsonText.scanSign text).2).2).2).1
  rw [List.length_append] at hsign hwhole hfraction hexponent
  unfold JsonText.scanNumber at h
  dsimp only at h
  split at h
  · cases h
  · rename_i hne
    have hpos := List.length_pos_of_ne_nil hne
    split at h
    · obtain ⟨-, rfl⟩ := Prod.mk.inj (Option.some.inj h)
      omega
    · obtain ⟨-, rfl⟩ := Prod.mk.inj (Option.some.inj h)
      omega

theorem length_scanScalar {text : List Char} {v : JsonText.Value} {rest : List Char}
    (h : scanScalar text = some (v, rest)) : rest.length < text.length := by
  unfold scanScalar at h
  split at h
  · rename_i p hconstant
    obtain rfl := Option.some.inj h
    unfold JsonText.scanConstant at hconstant
    split at hconstant
    · cases hconstant
    · rename_i q hfind
      obtain ⟨-, rfl⟩ := Prod.mk.inj (Option.some.inj hconstant)
      have hwords : ∀ c ∈ JsonText.constants, 0 < c.1.length := by decide
      have hword := hwords q (List.mem_of_find?_eq_some hfind)
      have hfound := List.find?_some hfind
      have hprefix : q.1.toList <+: text := List.isPrefixOf_iff_prefix.mp hfound
      have hle := hprefix.length_le
      rw [String.length_toList] at hle
      rw [List.length_drop]
      omega
  · exact length_scanNumber h

/-- A part of the text has been read, and only without `enough` fuel there was none left. -/
structure Sound {α : Type} (P : α → Prop) (text : List Char) (enough : Prop) (r : Except Fault (α × List Char)) :
    Prop where
  value : ∀ v rest, r = .ok (v, rest) → P v ∧ rest.length < text.length
  fuel : enough → r ≠ .error .outOfFuel

namespace Sound

variable {α β : Type} {P : α → Prop} {Q : β → Prop} {text text' : List Char} {enough enough' : Prop}

theorem error {fault : Fault} (h : enough → fault ≠ .outOfFuel) :
    Sound P text enough (.error fault : Except Fault (α × List Char)) :=
  ⟨fun _ _ heq => (by cases heq), fun he heq => h he (Except.error.inj heq)⟩

theorem ok {v : α} {rest : List Char} (hv : P v) (h : rest.length < text.length) : Sound P text enough (.ok (v, rest)) := by
  refine ⟨fun w rest' heq => ?_, fun _ heq => (by cases heq)⟩
  obtain ⟨rfl, rfl⟩ := Prod.mk.inj (Except.ok.inj heq)
  exact ⟨hv, h⟩

theorem map {r : Except Fault (α × List Char)} {f : α → β} (h : Sound P text' enough' r) (hf : ∀ v, P v → Q (f v))
    (hle : text'.length ≤ text.length) (henough : enough → enough') :
    Sound Q text enough (r.map fun p => (f p.1, p.2)) := by
  cases r with
  | error fault => exact .error fun he heq => h.fuel (henough he) (congrArg Except.error heq)
  | ok p =>
    obtain ⟨hp, hlt⟩ := h.value p.1 p.2 rfl
    exact .ok (hf p.1 hp) (Nat.lt_of_lt_of_le hlt hle)

end Sound

theorem sound_scalar (text : List Char) (enough : Prop) : Sound Value.Distinct text enough (readScalar py text) := by
  unfold readScalar
  cases hscan : scanScalar text with
  | none => exact .error fun _ h => by cases h
  | some p =>
    obtain ⟨v, rest⟩ := p
    have hlength := length_scanScalar hscan
    cases v with
    | null => exact .ok trivial hlength
    | bool b => exact .ok trivial hlength
    | int n =>
      dsimp only
      split
      · exact .ok trivial hlength
      · exact .error fun _ h => by cases h
    | float digits => exact .ok trivial hlength
    | str s => exact .error fun _ h => by cases h
    | arr xs => exact .error fun _ h => by cases h
    | obj pairs => exact .error fun _ h => by cases h

/-- The three readers with `n` calls. -/
structure SoundReaders (py : Python F) (n : Nat) : Prop where
  value : ∀ d text, Sound Value.Distinct text (2 * text.length < n) (readValue py n d text)
  items : ∀ d text, Sound (fun xs => ∀ x ∈ xs, x.Distinct) text (2 * text.length + 1 < n) (readItems py n d text)
  pairs : ∀ d text, Sound (fun ps => ∀ p ∈ ps, p.2.Distinct) text (2 * text.length + 1 < n) (readPairs py n d text)

theorem sound_readValue {n : Nat} (h : SoundReaders py n) (d : Nat) (text : List Char) :
    Sound Value.Distinct text (2 * text.length < n + 1) (readValue py (n + 1) d text) := by
  rw [readValue.eq_def]
  dsimp only
  split
  · rename_i rest
    cases hstring : scanString rest with
    | none => exact .error fun _ h => by cases h
    | some p => exact .ok trivial (Nat.lt_succ_of_lt (length_scanString hstring))
  · rename_i rest
    have hblanks := length_skipBlanks rest
    cases d with
    | zero => exact .error fun _ h => by cases h
    | succ d =>
      dsimp only
      split
      · rename_i tail hclose
        rw [hclose, List.length_cons] at hblanks
        exact .ok (distinct_arr.mpr fun _ h => absurd h List.not_mem_nil) (by rw [List.length_cons]; omega)
      · refine (h.items d (skipBlanks rest)).map (fun xs hxs => distinct_arr.mpr hxs) ?_ fun henough => ?_
        · rw [List.length_cons]
          omega
        · rw [List.length_cons] at henough
          omega
  · rename_i rest
    have hblanks := length_skipBlanks rest
    cases d with
    | zero => exact .error fun _ h => by cases h
    | succ d =>
      dsimp only
      split
      · rename_i tail hclose
        rw [hclose, List.length_cons] at hblanks
        exact .ok (distinct_obj.mpr ⟨List.nodup_nil, fun _ h => absurd h List.not_mem_nil⟩)
          (by rw [List.length_cons]; omega)
      · refine (h.pairs d (skipBlanks rest)).map (fun ps hps => distinct_obj.mpr ⟨?_, ?_⟩) ?_ fun henough => ?_
        · exact Grouping.nodup_dictOf ps
        · exact fun p hp => hps p (Grouping.mem_of_mem_dictOf hp)
        · rw [List.length_cons]
          omega
        · rw [List.length_cons] at henough
          omega
  · exact sound_scalar text _

theorem sound_readItems {n : Nat} (h : SoundReaders py n) (d : Nat) (text : List Char) :
    Sound (fun xs => ∀ x ∈ xs, x.Distinct) text (2 * text.length + 1 < n + 1) (readItems py (n + 1) d text) := by
  rw [readItems]
  have hvalue := h.value d text
  cases hread : readValue py n d text with
  | error fault => exact .error fun henough heq => hvalue.fuel (by omega) (hread.trans (congrArg Except.error heq))
  | ok p =>
    obtain ⟨v, rest⟩ := p
    obtain ⟨hv, hlt⟩ := hvalue.value v rest hread
    have hblanks := length_skipBlanks rest
    dsimp only
    split
    · rename_i tail hclose
      rw [hclose, List.length_cons] at hblanks
      exact .ok (fun x hx => List.mem_singleton.mp hx ▸ hv) (by omega)
    · rename_i tail hcomma
      rw [hcomma, List.length_cons] at hblanks
      have htail := length_skipBlanks tail
      refine (h.items d (skipBlanks tail)).map (fun xs hxs => List.forall_mem_cons.mpr ⟨hv, hxs⟩) (by omega) ?_
      intro henough
      omega
    · exact .error fun _ h => by cases h

theorem sound_readPairs {n : Nat} (h : SoundReaders py n) (d : Nat) (text : List Char) :
    Sound (fun ps => ∀ p ∈ ps, p.2.Distinct) text (2 * text.length + 1 < n + 1) (readPairs py (n + 1) d text) := by
  rw [readPairs]
  cases hkey : scanKey text with
  | none => exact .error fun _ h => by cases h
  | some p =>
    obtain ⟨key, after⟩ := p
    have hshort := length_scanKey hkey
    have hvalue := h.value d after
    dsimp only
    cases hread : readValue py n d after with
    | error fault => exact .error fun henough heq => hvalue.fuel (by omega) (hread.trans (congrArg Except.error heq))
    | ok p =>
      obtain ⟨v, rest⟩ := p
      obtain ⟨hv, hlt⟩ := hvalue.value v rest hread
      have hblanks := length_skipBlanks rest
      dsimp only
      split
      · rename_i tail hclose
        rw [hclose, List.length_cons] at hblanks
        exact .ok (fun p hp => by rw [List.mem_singleton.mp hp]; exact hv) (by omega)
      · rename_i tail hcomma
        rw [hcomma, List.length_cons] at hblanks
        have htail := length_skipBlanks tail
        refine (h.pairs d (skipBlanks tail)).map (fun ps hps => List.forall_mem_cons.mpr ⟨hv, hps⟩) (by omega) ?_
        intro henough
        omega
      · exact .error fun _ h => by cases h

theorem soundReaders (n : Nat) : SoundReaders py n := by
  induction n with
  | zero =>
    refine ⟨fun d text => ?_, fun d text => ?_, fun d text => ?_⟩
    · exact .error fun h => absurd h (Nat.not_lt_zero _)
    · exact .error fun h => absurd h (Nat.not_lt_zero _)
    · exact .error fun h => absurd h (Nat.not_lt_zero _)
  | succ n ih => exact ⟨sound_readValue ih, sound_readItems ih, sound_readPairs ih⟩

theorem loads_distinct {text : List Char} {v : Value F} (h : loads py text = .ok v) : v.Distinct := by
  unfold loads at h
  cases hread : readValue py (2 * text.length + 2) py.readDepth (skipBlanks text) with
  | error fault =>
    rw [hread] at h
    cases h
  | ok p =>
    rw [hread] at h
    dsimp only at h
    split_ifs at h
    obtain rfl := Except.ok.inj h
    exact (((soundReaders _).value _ _).value _ _ hread).1

/-- **The fuel is enough.** -/
theorem loads_fuel (text : List Char) : loads py text ≠ .error .outOfFuel := by
  intro h
  unfold loads at h
  cases hread : readValue py (2 * text.length + 2) py.readDepth (skipBlanks text) with
  | error fault =>
    rw [hread] at h
    have hle := length_skipBlanks text
    exact ((soundReaders _).value _ _).fuel (by omega) (hread.trans (congrArg Except.error (Except.error.inj h)))
  | ok p =>
    rw [hread] at h
    dsimp only at h
    split_ifs at h
    cases h

/-! ## Lookups -/

theorem mem_of_get {α : Type} {pairs : List (Str × α)} {key : String} {v : α} (h : get pairs key = some v) :
    (points key, v) ∈ pairs := by
  obtain ⟨p, hfind, rfl⟩ := Option.map_eq_some_iff.mp h
  have hkey : p.1 = points key := by simpa using List.find?_some hfind
  rw [← hkey]
  exact List.mem_of_find?_eq_some hfind

theorem mem_select {α : Type} {keys : List String} {pairs : List (Str × α)} {p : Str × α} (h : p ∈ select keys pairs) :
    ∃ key ∈ keys, get pairs key = some p.2 ∧ p.1 = points key := by
  obtain ⟨key, hkey, hp⟩ := List.mem_filterMap.mp h
  obtain ⟨v, hv, rfl⟩ := Option.map_eq_some_iff.mp hp
  exact ⟨key, hkey, hv, rfl⟩

@[simp] theorem get_nil {α : Type} (key : String) : get ([] : List (Str × α)) key = none := rfl

theorem get_cons {α : Type} (p : Str × α) (pairs : List (Str × α)) (key : String) :
    get (p :: pairs) key = if p.1 = points key then some p.2 else get pairs key := by
  rw [get, List.find?_cons]
  by_cases h : p.1 = points key
  · rw [if_pos h, decide_eq_true h]
    rfl
  · rw [if_neg h, decide_eq_false h]
    rfl

theorem get_append {α : Type} (pairs pairs' : List (Str × α)) (key : String) :
    get (pairs ++ pairs') key = (get pairs key).or (get pairs' key) := by
  induction pairs with
  | nil => rfl
  | cons p pairs ih =>
    rw [List.cons_append, get_cons, get_cons, ih]
    by_cases h : p.1 = points key
    · rw [if_pos h, if_pos h]
      rfl
    · rw [if_neg h, if_neg h]

theorem get_select {α : Type} {keys : List String} {key : String} (h : key ∈ keys) (pairs : List (Str × α)) :
    get (select keys pairs) key = get pairs key := by
  induction keys with
  | nil => cases h
  | cons k keys ih =>
    rw [select, List.filterMap_cons]
    by_cases hk : k = key
    · subst hk
      cases hget : get pairs k with
      | none =>
        -- no pair that is kept has the key
        rw [get, Option.map_eq_none_iff, List.find?_eq_none]
        intro p hp hkey
        obtain ⟨key', -, hv, hpoints⟩ : ∃ key ∈ keys, get pairs key = some p.2 ∧ p.1 = points key := mem_select hp
        rw [hpoints, decide_eq_true_eq, JsonText.points_inj] at hkey
        rw [hkey, hget] at hv
        cases hv
      | some v =>
        rw [Option.map_some, get_cons, if_pos rfl]
    · have hrest := ih ((List.mem_cons.mp h).resolve_left (Ne.symm hk))
      cases hget : get pairs k with
      | none => exact hrest
      | some v =>
        rw [Option.map_some, get_cons, if_neg fun heq => hk (JsonText.points_inj.mp heq)]
        exact hrest

theorem select_congr {α : Type} {keys : List String} {pairs pairs' : List (Str × α)}
    (h : ∀ key ∈ keys, get pairs key = get pairs' key) : select keys pairs = select keys pairs' :=
  List.filterMap_congr fun key hkey => by rw [h key hkey]

theorem nodup_select {α : Type} {keys : List String} (h : keys.Nodup) (pairs : List (Str × α)) :
    ((select keys pairs).map Prod.fst).Nodup := by
  have hsub : ((select keys pairs).map Prod.fst).Sublist (keys.map points) := by
    induction keys with
    | nil => exact List.Sublist.refl _
    | cons k keys ih =>
      rw [select, List.filterMap_cons, List.map_cons]
      cases get pairs k with
      | none => exact (ih h.of_cons).cons _
      | some v => exact (ih h.of_cons).cons_cons _
  exact hsub.nodup (h.map fun _ _ => JsonText.points_inj.mp)

theorem distinct_select {keys : List String} (hkeys : keys.Nodup) {pairs : List (Str × Value F)}
    (h : ∀ p ∈ pairs, p.2.Distinct) : (Value.obj (select keys pairs)).Distinct := by
  refine distinct_obj.mpr ⟨nodup_select hkeys pairs, fun p hp => ?_⟩
  obtain ⟨key, -, hget, -⟩ := mem_select hp
  exact h (points key, p.2) (mem_of_get hget)

theorem isText_points (s : String) : isText (points s) = true := by
  rw [isText_iff]
  intro u hu
  obtain ⟨c, -, rfl⟩ := List.mem_map.mp hu
  exact c.valid

theorem writes_select {keys : List String} {pairs : List (Str × Value F)} {d : Nat} :
    (Value.obj (select keys pairs)).writes py (d + 1) = true ↔
      ∀ key ∈ keys, ∀ v, get pairs key = some v → v.writes py d = true := by
  rw [writes_obj]
  constructor
  · intro h key hkey v hget
    have hmem : (points key, v) ∈ select keys pairs := List.mem_filterMap.mpr ⟨key, hkey, by rw [hget]; rfl⟩
    exact (h _ hmem).2
  · intro h p hp
    obtain ⟨key, hkey, hget, hpoints⟩ := mem_select hp
    exact ⟨by rw [hpoints]; exact isText_points key, h key hkey p.2 hget⟩

theorem isShort_mono {m n : Nat} (h : m ≤ n) (hn : isShort n = true) : isShort m = true := by
  have hdigits (k : Nat) : isShort (k : Int) = true ↔ k < 10 ^ MAX_INT_DIGITS := by
    rw [isShort, decide_eq_true_eq, Int.natAbs_natCast]
    exact Nat.length_toDigits_le_iff (by decide) (by decide)
  exact (hdigits m).mpr (Nat.lt_of_le_of_lt h ((hdigits n).mp hn))

/-! ## Values that differ in the order of their keys -/

/-- A lookup sees through the order of the keys. -/
theorem get_of_sortKeys {ps qs : List (Str × Value F)} (hp : (Value.obj ps).Distinct) (hq : (Value.obj qs).Distinct)
    (h : sortKeys (.obj ps) = sortKeys (.obj qs)) (key : String) : (get ps key).map sortKeys = (get qs key).map sortKeys := by
  rw [sortKeys_obj, sortKeys_obj, Value.obj.injEq] at h
  rw [← get_sorted hp, ← get_sorted hq, h]

theorem sortKeys_select (keys : List String) {pairs : List (Str × Value F)} (h : (Value.obj pairs).Distinct) :
    sortKeys (.obj (select keys (sortedByKey (pairs.map fun p => (p.1, sortKeys p.2))))) =
      sortKeys (.obj (select keys pairs)) := by
  have hselect : select keys (sortedByKey (pairs.map fun p => (p.1, sortKeys p.2))) =
      (select keys pairs).map fun p => (p.1, sortKeys p.2) := by
    rw [select, select, List.map_filterMap]
    refine List.filterMap_congr fun key _ => ?_
    rw [get_sorted h, Option.map_map, Option.map_map]
    rfl
  rw [hselect, sortKeys_obj, sortKeys_obj, List.map_map]
  refine congrArg (fun ps => Value.obj (sortedByKey ps)) (List.map_congr_left fun p _ => ?_)
  exact congrArg (Prod.mk p.1) (sortKeys_sortKeys p.2)

@[simp] theorem number_sortKeys (v : Value F) : (sortKeys v).number py = v.number py := by
  cases v with
  | arr xs => rw [sortKeys_arr]; rfl
  | obj pairs => rw [sortKeys_obj]; rfl
  | _ => rfl

theorem writes_congr {v w : Value F} (h : sortKeys v = sortKeys w) (d : Nat) : v.writes py d = w.writes py d := by
  rw [Bool.eq_iff_iff, ← writes_sortKeys, h, writes_sortKeys]

theorem dumps_congr {v w : Value F} (h : sortKeys v = sortKeys w) : dumps py v = dumps py w := by rw [dumps, h, dumps]

/-! ## No carriage return is written -/

theorem escape_return (c : Char) : '\r' ∉ escape c := by
  rcases escape_cases c with ⟨⟨-, -, hc⟩, he⟩ | ⟨e, he, -, hunit⟩ | ⟨-, he⟩ <;> rw [he]
  · intro h
    rw [← List.mem_singleton.mp h] at hc
    exact absurd hc (by decide)
  · intro h
    rcases List.mem_cons.mp h with h | h
    · cases h
    · rw [← List.mem_singleton.mp h] at hunit
      cases hunit
  · have hhex : ∀ d < 16, JsonText.hexDigit d ≠ '\r' := by decide
    intro h
    simp only [unicodeEscape, List.mem_cons, List.not_mem_nil, or_false] at h
    rcases h with h | h | h | h | h | h
    · cases h
    · cases h
    all_goals exact hhex _ (Nat.mod_lt _ (by decide)) h.symm

theorem quote_return (s : Str) : '\r' ∉ quote s := by
  intro h
  rw [quote, List.mem_cons, List.mem_append, List.mem_flatMap, List.mem_singleton] at h
  rcases h with h | ⟨c, -, hc⟩ | h
  · cases h
  · exact escape_return c hc
  · cases h

theorem render_return (v : Value F) {d : Nat} (h : v.writes py d = true) : '\r' ∉ render py v := by
  have plain {t : List Char} (ht : ∀ c ∈ t, JsonText.numberChar c = true) : '\r' ∉ t := fun hr =>
    absurd (ht _ hr) (by decide)
  have joined {ts : List (List Char)} (hts : ∀ t ∈ ts, '\r' ∉ t) : '\r' ∉ joinComma ts := fun hr =>
    JsonText.joinComma_forall (P := fun c => c ≠ '\r') (by decide) (fun t ht c hc heq => hts t ht (heq ▸ hc)) _ hr rfl
  induction v using Value.induct generalizing d with
  | hnull =>
    rw [render]
    decide
  | hbool b =>
    rw [render]
    cases b <;> decide
  | hint n => exact plain (JsonText.numberChar_int n)
  | hfloat x => exact plain (JsonText.numberChar_float (py.repr_text x h))
  | hstr s => exact quote_return s
  | harr xs ih =>
    cases d with
    | zero => rw [Value.writes] at h; cases h
    | succ d =>
      rw [writes_arr] at h
      have hitems : '\r' ∉ joinComma (xs.map (render py)) := joined fun t ht => by
        obtain ⟨x, hx, rfl⟩ := List.mem_map.mp ht
        exact ih x hx (h x hx)
      rw [render, renderItems_eq_map, List.mem_cons, List.mem_append, List.mem_singleton]
      rintro (hr | hr | hr)
      · cases hr
      · exact hitems hr
      · cases hr
  | hobj pairs ih =>
    cases d with
    | zero => rw [Value.writes] at h; cases h
    | succ d =>
      rw [writes_obj] at h
      have hpairs : '\r' ∉ joinComma (renderPairs py pairs) := joined fun t ht => by
        rw [renderPairs_eq_map] at ht
        obtain ⟨p, hp, rfl⟩ := List.mem_map.mp ht
        rw [List.mem_append, List.mem_cons]
        rintro (hr | hr | hr)
        · exact quote_return p.1 hr
        · cases hr
        · exact ih p hp (h p hp).2 hr
      rw [render, List.mem_cons, List.mem_append, List.mem_singleton]
      rintro (hr | hr | hr)
      · cases hr
      · exact hpairs hr
      · cases hr

theorem dumps_return {v : Value F} {d : Nat} (h : v.writes py d = true) : '\r' ∉ dumps py v :=
  render_return (sortKeys v) ((writes_sortKeys v d).mpr h)

end PyJson
