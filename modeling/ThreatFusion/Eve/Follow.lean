import ThreatFusion.Py.Utf8Reads
/-
# Following a growing log: `follow_eve` (`scripts/follow_suricata_eve.py:209-240`)

| here | there |
| --- | --- |
| `Follower`  | `positioned`, `offset`, `partial` |
| `Sight`     | what one turn of the loop finds at the path: its size (`path.stat()`), and its bytes when it is read |
| `readText`  | `read()` to the end of bytes opened as UTF-8 text with `errors="replace"` |
| `readFrom`  | `handle.seek(offset)`, `handle.read()`, `handle.tell()` |
| `drain`     | `while "\n" in partial` |
| `turn`      | one turn of `while True`, with the arguments of its `handle_line` calls, which all return |

`Event` is what happens to one growing file: a writer appends, or the loop takes a turn. Bytes that arrive
between the `stat` and the `read` of a turn are the turn's own. `reads` says, of the events alone, which
bytes each turn reads: all that came since the last read, if the `stat` saw any of it (`follow_eq`).

Each read is decoded to its end, so a character that a read ends in is lost to two or more U+FFFD, and a
carriage return is read as a line end. `handled_iff` says when the lines are the file's own.
-/
namespace ThreatFusion.Eve
open Py Lines

structure Follower where
  positioned : Bool := false
  offset : Nat := 0
  partialLine : List Char := []

inductive Sight where
  | missing
  | file (size : Nat) (contents : Bytes)

def readText (chunk : Bytes) : List Char := universalNewlines (decodeReplace chunk)

/-- The text from `offset` to the end of the file, and the position behind it. -/
def readFrom (contents : Bytes) (offset : Nat) : List Char × Nat :=
  let chunk := contents.drop offset
  (readText chunk, offset + chunk.length)

def drain (text : List Char) : List (List Char) × List Char :=
  match _h : Delimited.cut ['\n'] text with
  | none => ([], text)
  | some (line, rest) => (line :: (drain rest).1, (drain rest).2)
termination_by text.length
decreasing_by
  all_goals
    rw [Delimited.cut_eq _h]
    simp
    omega

def turn (f : Follower) : Sight → Follower × List (List Char)
  | .missing => ({ positioned := false, offset := 0, partialLine := [] }, [])
  | .file size contents =>
    if f.positioned = false then ({ f with offset := size, positioned := true }, [])
    else
      let f := if size < f.offset then { f with offset := 0, partialLine := [] } else f
      if f.offset < size then
        let (chunk, offset) := readFrom contents f.offset
        let (lines, rest) := drain (f.partialLine ++ chunk)
        ({ f with offset := offset, partialLine := rest }, lines)
      else (f, [])

/-! ## One growing file -/

inductive Event where
  | append (bytes : Bytes)
  | poll (between : Bytes)

structure System where
  contents : Bytes
  follower : Follower
  handled : List (List Char)

def System.step (s : System) : Event → System
  | .append bytes => { s with contents := s.contents ++ bytes }
  | .poll between =>
    let contents := s.contents ++ between
    let (follower, lines) := turn s.follower (.file s.contents.length contents)
    ⟨contents, follower, s.handled ++ lines⟩

/-- The first turn finds `base` and positions the follower at its end. -/
def follow (base : Bytes) (events : List Event) : System :=
  events.foldl System.step (System.step ⟨base, {}, []⟩ (.poll []))

/-- The bytes that each turn reads, when `unread` is still to be read. -/
def reads : Bytes → List Event → List Bytes
  | _, [] => []
  | unread, .append bytes :: events => reads (unread ++ bytes) events
  | unread, .poll between :: events =>
    if unread = [] then reads between events else (unread ++ between) :: reads [] events

def polled (events : List Event) : Bytes := (reads [] events).flatten

def appended (events : List Event) : Bytes := events.flatMap fun e => match e with
  | .append bytes => bytes
  | .poll between => between

/-! ## The loop over a buffer -/

theorem drain_eq (text : List Char) : drain text = (lines '\n' text, unfinished '\n' text) := by
  fun_induction drain text with
  | case1 text h =>
    have hnone : '\n' ∉ text := by
      intro hmem
      rw [Delimited.cut_eq_none_iff] at h
      obtain ⟨a, b, rfl⟩ := List.append_of_mem hmem
      exact h ⟨a, b, by simp⟩
    rw [lines_of_not_mem hnone, unfinished_of_not_mem hnone]
  | case2 text line rest h ih =>
    have hmem : '\n' ∈ text := by
      rw [Delimited.cut_eq h]
      simp
    obtain ⟨a, b, rfl, ha⟩ := List.eq_append_cons_of_mem hmem
    have hcut := Delimited.cut_first (c := '\n') (t := []) ha b
    rw [List.append_assoc, List.singleton_append, h] at hcut
    obtain ⟨rfl, rfl⟩ := Prod.mk.inj (Option.some.inj hcut)
    rw [ih, lines_first ha, unfinished_first]

/-- What a turn makes of a file that has grown. -/
theorem turn_grown {f : Follower} {size : Nat} (contents : Bytes) (hpositioned : f.positioned = true)
    (h : f.offset < size) (hsize : size ≤ contents.length) :
    turn f (.file size contents) =
      let text := f.partialLine ++ readText (contents.drop f.offset)
      (⟨true, contents.length, unfinished '\n' text⟩, lines '\n' text) := by
  simp only [turn, hpositioned, Bool.true_eq_false, if_false, if_neg (Nat.not_lt.mpr h.le), if_pos h, readFrom,
    drain_eq, List.length_drop]
  rw [Nat.add_sub_cancel' (by omega)]

theorem turn_same {f : Follower} {size : Nat} (contents : Bytes) (hpositioned : f.positioned = true)
    (h : f.offset = size) : turn f (.file size contents) = (f, []) := by
  simp only [turn, hpositioned, Bool.true_eq_false, if_false, h, Nat.lt_irrefl]

/-! ## Runs -/

/-- The follower has read all but `unread` of the file, and `text` is what it read it as. -/
structure Follows (s : System) (unread : Bytes) (text : List Char) : Prop where
  positioned : s.follower.positioned = true
  unread : s.contents.drop s.follower.offset = unread
  inside : s.follower.offset ≤ s.contents.length
  rest : s.follower.partialLine = unfinished '\n' text
  handled : s.handled = lines '\n' text

theorem follows_start (base : Bytes) : Follows (System.step ⟨base, {}, []⟩ (.poll [])) [] [] := by
  refine ⟨rfl, ?_, ?_, rfl, rfl⟩
  · simp [System.step, turn]
  · simp [System.step, turn]

theorem follows_append {s : System} {unread : Bytes} {text : List Char} (h : Follows s unread text) (bytes : Bytes) :
    Follows (s.step (.append bytes)) (unread ++ bytes) text := by
  refine ⟨h.positioned, ?_, ?_, h.rest, h.handled⟩
  · rw [← h.unread]
    exact List.drop_append_of_le_length h.inside
  · have := h.inside
    simp only [System.step, List.length_append]
    omega

theorem follows_idle {s : System} {text : List Char} (h : Follows s [] text) (between : Bytes) :
    Follows (s.step (.poll between)) between text := by
  have hend : s.follower.offset = s.contents.length := by
    have := List.drop_eq_nil_iff.mp h.unread
    have := h.inside
    omega
  have hturn := turn_same (s.contents ++ between) h.positioned hend
  refine ⟨?_, ?_, ?_, ?_, ?_⟩ <;> simp only [System.step, hturn]
  · exact h.positioned
  · rw [hend, List.drop_left]
  · rw [hend, List.length_append]
    omega
  · exact h.rest
  · rw [List.append_nil]
    exact h.handled

theorem follows_read {s : System} {unread : Bytes} {text : List Char} (h : Follows s unread text)
    (hne : unread ≠ []) (between : Bytes) :
    Follows (s.step (.poll between)) [] (text ++ readText (unread ++ between)) := by
  have hgrown : s.follower.offset < s.contents.length := by
    have := List.length_pos_of_ne_nil hne
    rw [← h.unread, List.length_drop] at this
    omega
  have hturn := turn_grown (s.contents ++ between) h.positioned hgrown (by simp)
  rw [List.drop_append_of_le_length h.inside, h.unread, h.rest] at hturn
  refine ⟨?_, ?_, ?_, ?_, ?_⟩ <;> simp only [System.step, hturn]
  · simp
  · exact le_rfl
  · exact (unfinished_append ..).symm
  · rw [h.handled]
    exact (lines_append ..).symm

/-- **The follower reads what the events say**, and hands over the lines of what it read. -/
theorem follow_eq (base : Bytes) (events : List Event) :
    (follow base events).handled =
      lines '\n' ((reads [] events).flatMap readText) := by
  have hrun : ∀ (events : List Event) (s : System) (unread : Bytes) (text : List Char), Follows s unread text →
      (events.foldl System.step s).handled =
        lines '\n' (text ++ (reads unread events).flatMap readText) := by
    intro events
    induction events with
    | nil =>
      intro s unread text h
      rw [List.foldl_nil, h.handled, reads, List.flatMap_nil, List.append_nil]
    | cons e events ih =>
      intro s unread text h
      rw [List.foldl_cons]
      cases e with
      | append bytes => exact ih _ _ _ (follows_append h bytes)
      | poll between =>
        unfold reads
        split_ifs with hnil
        · subst hnil
          exact ih _ _ _ (follows_idle h between)
        · rw [ih _ _ _ (follows_read h hnil between), List.flatMap_cons, List.append_assoc]
  exact hrun events _ [] [] (follows_start base)

/-- Nothing is read twice and nothing is passed over. -/
theorem reads_appended (unread : Bytes) (events : List Event) :
    ∃ rest, (reads unread events).flatten ++ rest = unread ++ appended events := by
  induction events generalizing unread with
  | nil => exact ⟨unread, by simp [reads, appended]⟩
  | cons e events ih =>
    cases e with
    | append bytes =>
      obtain ⟨rest, hrest⟩ := ih (unread ++ bytes)
      exact ⟨rest, by rw [reads, hrest]; simp [appended]⟩
    | poll between =>
      unfold reads
      split_ifs with hnil
      · obtain ⟨rest, hrest⟩ := ih between
        exact ⟨rest, by rw [hrest, hnil]; simp [appended]⟩
      · obtain ⟨rest, hrest⟩ := ih []
        refine ⟨rest, ?_⟩
        rw [List.flatten_cons, List.append_assoc, hrest]
        simp [appended]

/-- A turn with nothing arriving in it reads all that came before. -/
theorem polled_snoc (events : List Event) : polled (events ++ [.poll []]) = appended events := by
  have hrun : ∀ unread, (reads unread (events ++ [.poll []])).flatten = unread ++ appended events := by
    induction events with
    | nil =>
      intro unread
      rw [List.nil_append, reads]
      split_ifs with hnil
      · rw [hnil]
        rfl
      · simp [reads, appended]
    | cons e events ih =>
      intro unread
      cases e with
      | append bytes =>
        rw [List.cons_append, reads, ih]
        simp [appended]
      | poll between =>
        rw [List.cons_append, reads]
        split_ifs with hnil
        · rw [ih, hnil]
          simp [appended]
        · rw [List.flatten_cons, ih]
          simp [appended]
  exact hrun []

/-! ## Carriage returns -/

theorem readText_clean {chunk : Bytes} (h : 13 ∉ chunk) : readText chunk = decodeReplace chunk := by
  refine universalNewlines_of_not_mem ?_
  rw [← List.count_eq_zero, decodeReplace, count_decodeFrom (by decide) (by decide)]
  exact List.count_eq_zero.mpr h

theorem count_readText_le (chunk : Bytes) : chunk.count 10 ≤ (readText chunk).count '\n' := by
  have hdecoded := count_decodeFrom (c := '\n') (by decide) (by decide) none chunk
  exact hdecoded.symm.trans_le (count_universalNewlines_le _)

/-- A carriage return that no line feed of its read follows becomes a line more. -/
theorem count_readText_lt (before : Bytes) {after : Bytes} (h : 10 ∉ after) :
    (before ++ 13 :: after).count 10 < (readText (before ++ 13 :: after)).count '\n' := by
  have hdecoded := count_decodeFrom (c := '\n') (by decide) (by decide) none (before ++ 13 :: after)
  have hafter : '\n' ∉ decodeReplace after := by
    rw [← List.count_eq_zero, decodeReplace, count_decodeFrom (by decide) (by decide)]
    exact List.count_eq_zero.mpr h
  have hlt := count_universalNewlines_lt (a := decodeFrom none before) hafter
  rw [decodeFrom_append_ascii (by decide)] at hdecoded
  rw [readText, decodeReplace, decodeFrom_append_ascii (by decide)]
  exact hdecoded.symm.trans_lt hlt

theorem count_reads_le (chunks : List Bytes) : chunks.flatten.count 10 ≤ (chunks.flatMap readText).count '\n' := by
  induction chunks with
  | nil => exact le_rfl
  | cons chunk chunks ih =>
    rw [List.flatten_cons, List.flatMap_cons, List.count_append, List.count_append]
    exact Nat.add_le_add (count_readText_le chunk) ih

theorem not_mem_reads (chunks : List Bytes) : '\r' ∉ chunks.flatMap readText := by
  rw [List.mem_flatMap]
  rintro ⟨chunk, -, hmem⟩
  exact not_mem_universalNewlines _ hmem

/-- Lines that are handed over as they stand in the file hold no carriage return, and none stands behind them. -/
theorem not_mem_of_lines_eq {chunks : List Bytes}
    (h : (lines '\n' (chunks.flatMap readText)).map some = (lines 10 chunks.flatten).map decodeUtf8) :
    13 ∉ chunks.flatten := by
  intro hmem
  obtain ⟨chunk, hchunk, hreturn⟩ := List.mem_flatten.mp hmem
  obtain ⟨earlier, later, rfl⟩ := List.append_of_mem hchunk
  obtain ⟨before, after, rfl⟩ := List.append_of_mem hreturn
  by_cases hfeed : 10 ∈ after ++ later.flatten
  · -- the carriage return is in a line of the file, and the follower has handed none over
    obtain ⟨l, hl, hin⟩ := exists_mem_lines (a := earlier.flatten ++ before) (x := (13 : UInt8)) (by decide) hfeed
    have hline : decodeUtf8 l ∈ (lines 10 (earlier ++ (before ++ 13 :: after) :: later).flatten).map decodeUtf8 := by
      refine List.mem_map_of_mem ?_
      simpa using hl
    rw [← h, List.mem_map] at hline
    obtain ⟨t, ht, hdecoded⟩ := hline
    have hclean : '\r' ∉ t := fun hin => not_mem_reads _ (mem_of_mem_lines ht hin)
    rw [← List.count_eq_zero, ← count_encode (by decide) (by decide), ← eq_encode_of_decodeUtf8 hdecoded.symm] at hclean
    exact List.count_eq_zero.mp hclean hin
  · -- the carriage return is behind the lines of the file, and the follower has made a line end of it
    rw [List.mem_append, not_or] at hfeed
    have hlen := congrArg List.length h
    rw [List.length_map, List.length_map, length_lines, length_lines, List.flatten_append, List.flatten_cons,
      List.flatMap_append, List.flatMap_cons, List.count_append, List.count_append, List.count_append,
      List.count_append] at hlen
    have hearlier := count_reads_le earlier
    have hthis := count_readText_lt before hfeed.1
    have hlater := count_reads_le later
    omega

/-- **The lines handed over are the lines of the file** if and only if what was read holds no carriage return
and no read that a line end still follows ended inside a character. -/
theorem handled_iff (base : Bytes) (text : String) (events : List Event) (h : appended events <+: utf8 text) :
    (follow base events).handled.map some = (lines 10 (polled events)).map decodeUtf8 ↔
      13 ∉ polled events ∧ ∀ before after, reads [] events = before ++ after → 10 ∈ after.flatten →
        (decodeUtf8 before.flatten).isSome := by
  have hpolled : (reads [] events).flatten <+: encode text.toList := by
    rw [encode, ← utf8_eq]
    obtain ⟨rest, hrest⟩ := reads_appended [] events
    exact List.IsPrefix.trans ⟨rest, hrest⟩ h
  have hpieces := lines_pieces_iff hpolled
  simp only [← decodeUtf8_isSome_iff] at hpieces
  rw [follow_eq, polled]
  by_cases hreturn : 13 ∈ (reads [] events).flatten
  · exact iff_of_false (fun heq => not_mem_of_lines_eq heq hreturn) fun hclean => hclean.1 hreturn
  · have hclean : ∀ chunk ∈ reads [] events, readText chunk = decodeReplace chunk := fun chunk hchunk =>
      readText_clean fun hmem => hreturn (List.mem_flatten.mpr ⟨chunk, hchunk, hmem⟩)
    rw [List.flatMap_congr hclean, hpieces]
    simp [hreturn]

/-- A line with one letter of two bytes; the loop takes a turn when the first of them is written. -/
def halfLetter : List Event := [.append [0xC3], .poll [], .append [0xA9, 10], .poll []]

theorem halfLetter_text : appended halfLetter <+: utf8 "\u00E9\n" := by decide

theorem handled_iff_halfLetter :
    (follow [] halfLetter).handled.map some = (lines 10 (polled halfLetter)).map decodeUtf8 ↔
      13 ∉ polled halfLetter ∧ ∀ before after, reads [] halfLetter = before ++ after → 10 ∈ after.flatten →
        (decodeUtf8 before.flatten).isSome :=
  handled_iff [] "\u00E9\n" halfLetter halfLetter_text

/-- **A letter that a turn falls into is not handed over.** -/
theorem half_letter_lost :
    (follow [] halfLetter).handled = [[REPLACEMENT, REPLACEMENT]] ∧
      lines 10 (polled halfLetter) = [encode ['\u00E9']] ∧
        ¬ ∀ (base : Bytes) (text : String) (events : List Event), appended events <+: utf8 text →
          (follow base events).handled.map some = (lines 10 (polled events)).map decodeUtf8 := by
  have hhandled : (follow [] halfLetter).handled = [[REPLACEMENT, REPLACEMENT]] := by
    rw [follow_eq]
    decide
  have hlines : lines 10 (polled halfLetter) = [encode ['\u00E9']] := by decide
  refine ⟨hhandled, hlines, fun h => ?_⟩
  have heq := h [] "\u00E9\n" halfLetter halfLetter_text
  rw [hhandled, hlines, List.map_singleton, List.map_singleton, decodeUtf8_encode] at heq
  exact absurd heq (by decide)

end ThreatFusion.Eve
