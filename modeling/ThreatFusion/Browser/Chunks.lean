import ThreatFusion.Browser.Request
import ThreatFusion.Lib.Delimited
import ThreatFusion.Lib.Records
import ThreatFusion.Lib.Result
import Mathlib.Tactic.Linarith
/-
# A browser request in chunks

`answers` is what a socket answers to the reader when its peer sends some chunks and then nothing. The bound of the
first loop is asked between two reads, and a read may go three bytes beyond it: a head of 8190 to 8192 bytes is
read or refused by where the chunks end. What the reader does with a head depends on the head alone
(`judgeHead`); of what follows it, the reader sees what came with the last chunk of the head, and what it asks for.

`chunks_iff`: the texts for which no cut makes a difference.
-/
namespace ThreatFusion.Browser
open Py Delimited Records

/-! ## What a socket answers -/

/-- What is left comes as it is: the loop over the body asks for no more than it needs. -/
def bodyAnswers (socket : Source UInt8) : List Recv :=
  ((socket.current :: socket.coming).filter (· ≠ [])).map .chunk

def answers (buffer : Bytes) (socket : Source UInt8) : List Recv :=
  match splitHead buffer with
  | some _ => bodyAnswers socket
  | none =>
    if MAX_BROWSER_HEAD_BYTES < buffer.length then []
    else match h : socket.recv (min 4096 (MAX_BROWSER_HEAD_BYTES + 4 - buffer.length)) with
      | none => []
      | some (chunk, socket') => .chunk chunk :: answers (buffer ++ chunk) socket'
termination_by socket.left.length
decreasing_by exact Source.recv_lt (by omega) h

/-- Non-empty chunks that are together the text. -/
structure Cut (s : Bytes) where
  chunks : List Bytes
  whole : ∀ c ∈ chunks, c ≠ []
  text : chunks.flatten = s

def Cut.socket {s : Bytes} (cut : Cut s) : Source UInt8 := .ofRecords cut.chunks cut.whole

/-- The reader on a text that comes so. -/
def readChunks (port : Nat) {s : Bytes} (cut : Cut s) : Except ReadError BrowserRequest :=
  readBrowserRequest port (answers [] cut.socket)

/-! ## What the head decides -/

/-- A head that is accepted, and the size of the body that must follow it. -/
inductive Awaited where
  | get (target : String) (headers : List (String × String))
  | post (target : String) (headers : List (String × String)) (size : { n : Nat // 0 < n ∧ n ≤ MAX_BROWSER_BODY_BYTES })

def Awaited.size : Awaited → Nat
  | .get .. => 0
  | .post _ _ size => size

def judgePost (target : String) (headers : List (String × String)) : Except ReadError Awaited := do
  require (isFormType ((headers.lookup "content-type").getD ""))
  let lengthText := (headers.lookup "content-length").getD ""
  require (isDigits lengthText)
  let contentLength ← intOfDigits lengthText
  if hsize : 0 < contentLength ∧ contentLength ≤ MAX_BROWSER_BODY_BYTES then
    .ok (.post target headers ⟨contentLength, hsize⟩)
  else .error .requestInvalid

def judgeGet (port : Nat) (target : String) (headers : List (String × String)) : Except ReadError Awaited := do
  require ((headers.lookup "content-length").getD "0" == "0")
  require (absentOr (expectedOrigins port) (headers.lookup "origin"))
  require (absentOr ["none", "same-origin"] (headers.lookup "sec-fetch-site"))
  .ok (.get target headers)

/-- All checks of the head. -/
def judgeHead (port : Nat) (head : Bytes) : Except ReadError Awaited :=
  match parseHead head with
  | none => .error .requestInvalid
  | some (method, target, headers) => do
    require ((headers.lookup "transfer-encoding").isNone)
    require ((headers.lookup "host").any (expectedHosts port).contains)
    match method with
    | .get => judgeGet port target headers
    | .post => judgePost target headers

/-- What is done with what follows the head. -/
def Awaited.finish (initialBody : Bytes) (turns : List Recv) : Awaited → Except ReadError BrowserRequest
  | .get target headers => do
    require initialBody.isEmpty
    .ok ⟨.get, target, headers, [], Nat.zero_le _⟩
  | .post target headers size => do
    let body ← readBody size initialBody turns
    if hbody : body.length = size then .ok ⟨.post, target, headers, body, hbody ▸ size.2.2⟩
    else .error .requestInvalid

@[simp] theorem require_true : require true = .ok () := rfl

@[simp] theorem require_false : require false = .error .requestInvalid := rfl

theorem readGet_eq (port : Nat) (target : String) (headers : List (String × String)) (initialBody : Bytes)
    (turns : List Recv) : readGet port target headers initialBody =
      judgeGet port target headers >>= Awaited.finish initialBody turns := by
  unfold readGet judgeGet
  cases hempty : initialBody.isEmpty <;>
    cases (headers.lookup "content-length").getD "0" == "0" <;>
    cases absentOr (expectedOrigins port) (headers.lookup "origin") <;>
    cases absentOr ["none", "same-origin"] (headers.lookup "sec-fetch-site") <;>
    simp [Awaited.finish, hempty]

theorem readPost_eq (target : String) (headers : List (String × String)) (initialBody : Bytes) (turns : List Recv) :
    readPost target headers initialBody turns = judgePost target headers >>= Awaited.finish initialBody turns := by
  unfold readPost judgePost
  dsimp only
  cases isFormType ((headers.lookup "content-type").getD "") with
  | false => rfl
  | true =>
    cases isDigits ((headers.lookup "content-length").getD "") with
    | false => rfl
    | true =>
      cases intOfDigits ((headers.lookup "content-length").getD "") with
      | error e => rfl
      | ok n =>
        by_cases hsize : 0 < n ∧ n ≤ MAX_BROWSER_BODY_BYTES
        · simp [hsize, Awaited.finish]
        · simp [hsize]

/-- **The reader**: the head, its checks, the rest. -/
theorem readBrowserRequest_eq (port : Nat) (turns : List Recv) :
    readBrowserRequest port turns = readHead [] turns >>= fun r => judgeHead port r.1 >>= Awaited.finish r.2.1 r.2.2 := by
  unfold readBrowserRequest
  cases readHead [] turns with
  | error e => rfl
  | ok r =>
    obtain ⟨head, initialBody, turns⟩ := r
    rw [Except.ok_bind]
    dsimp only
    unfold judgeHead
    cases parseHead head with
    | none => rfl
    | some p =>
      obtain ⟨method, target, headers⟩ := p
      dsimp only
      cases (headers.lookup "transfer-encoding").isNone with
      | false => rfl
      | true =>
        cases (headers.lookup "host").any (expectedHosts port).contains with
        | false => rfl
        | true =>
          simp only [require_true, Except.ok_bind]
          cases method with
          | get => exact readGet_eq port target headers initialBody turns
          | post => exact readPost_eq target headers initialBody turns

/-! ## The head among the chunks -/

abbrev BLANK_LINE : Bytes := [13, 10, 13, 10]

theorem splitHead_eq (s : Bytes) : splitHead s = cut BLANK_LINE s := by
  induction s with
  | nil => rfl
  | cons b rest ih =>
    unfold splitHead cut
    rw [ih]
    by_cases h : (b :: rest).take 4 = BLANK_LINE
    · have hprefix : BLANK_LINE.isPrefixOf (b :: rest) = true :=
        List.isPrefixOf_iff_prefix.mpr (List.prefix_iff_eq_take.mpr h.symm)
      rw [if_pos h, if_pos hprefix]
      rfl
    · have hprefix : ¬ BLANK_LINE.isPrefixOf (b :: rest) = true := fun hp =>
        h (List.prefix_iff_eq_take.mp (List.isPrefixOf_iff_prefix.mp hp)).symm
      rw [if_neg h, if_neg hprefix]

/-- The buffer ends inside the head or its blank line. -/
theorem short_of_splitHead {buffer d head rest : Bytes} (h : splitHead (buffer ++ d) = some (head, rest))
    (hb : splitHead buffer = none) : buffer.length < head.length + 4 := by
  rw [splitHead_eq] at h hb
  by_contra hlong
  have hprefix : head ++ BLANK_LINE <+: buffer :=
    List.prefix_of_prefix_length_le (cut_eq h ▸ List.prefix_append ..) (List.prefix_append buffer d)
      (by rw [List.length_append]; exact Nat.le_of_not_lt hlong)
  obtain ⟨rest, hrest⟩ := hprefix
  exact cut_eq_none_iff.mp hb ⟨head, rest, hrest⟩

theorem splitHead_append {buffer head body : Bytes} (h : splitHead buffer = some (head, body)) (d : Bytes) :
    splitHead (buffer ++ d) = some (head, body ++ d) := by
  rw [splitHead_eq] at h ⊢
  exact cut_append h d

theorem length_of_splitHead {s head rest : Bytes} (h : splitHead s = some (head, rest)) :
    s.length = head.length + 4 + rest.length := by
  rw [splitHead_eq] at h
  rw [cut_eq h, List.length_append, List.length_append]
  rfl

section Head

variable {buffer head rest : Bytes} {socket : Source UInt8}

/-- One round of the loop over the head. -/
theorem readHead_turn {chunk : Bytes} {socket' : Source UInt8} (hb : splitHead buffer = none)
    (hlen : buffer.length ≤ MAX_BROWSER_HEAD_BYTES)
    (hrecv : socket.recv (min 4096 (MAX_BROWSER_HEAD_BYTES + 4 - buffer.length)) = some (chunk, socket')) :
    readHead buffer (answers buffer socket) = readHead (buffer ++ chunk) (answers (buffer ++ chunk) socket') := by
  have hne := Source.recv_ne_nil (by omega) hrecv
  have htake : chunk.take (min 4096 (MAX_BROWSER_HEAD_BYTES + 4 - buffer.length)) = chunk :=
    List.take_of_length_le (Source.recv_length hrecv)
  have hanswers : answers buffer socket = .chunk chunk :: answers (buffer ++ chunk) socket' := by
    conv_lhs => unfold answers
    rw [hb]
    dsimp only
    rw [if_neg (Nat.not_lt.mpr hlen)]
    split
    · rename_i h
      rw [hrecv] at h
      cases h
    · rename_i h
      rw [hrecv] at h
      obtain ⟨rfl, rfl⟩ := Prod.mk.inj (Option.some.inj h)
      rfl
  conv_lhs => rw [hanswers, readHead.eq_def]
  simp only [hb, if_neg (Nat.not_lt.mpr hlen), htake]
  rw [if_neg (by simpa using hne)]

theorem readHead_done {body : Bytes} (hb : splitHead buffer = some (head, body)) :
    readHead buffer (answers buffer socket) = .ok (head, body, bodyAnswers socket) := by
  rw [answers, hb]
  cases hturns : bodyAnswers socket with
  | nil => rw [readHead.eq_def]; simp only [hb]
  | cons turn turns => rw [readHead.eq_def]; simp only [hb]

theorem readHead_stuck (hb : splitHead buffer = none)
    (h : MAX_BROWSER_HEAD_BYTES < buffer.length ∨
      socket.recv (min 4096 (MAX_BROWSER_HEAD_BYTES + 4 - buffer.length)) = none) :
    readHead buffer (answers buffer socket) =
      .error (if MAX_BROWSER_HEAD_BYTES < buffer.length then .requestInvalid else starved buffer) := by
  have hanswers : answers buffer socket = [] := by
    rw [answers, hb]
    dsimp only
    by_cases hlen : MAX_BROWSER_HEAD_BYTES < buffer.length
    · rw [if_pos hlen]
    · rw [if_neg hlen]
      split
      · rfl
      · rename_i hsome
        rw [h.resolve_left hlen] at hsome
        cases hsome
  rw [hanswers, readHead.eq_def]
  simp only [hb]

/-- What the loop over the head took, and how it can end. -/
theorem readHead_answers (buffer : Bytes) (socket : Source UInt8) (hlen : buffer.length ≤ MAX_BROWSER_HEAD_BYTES + 4) :
    (readHead buffer (answers buffer socket)).Ends
      (fun r => ∃ c socket', splitHead (buffer ++ c) = some (r.1, r.2.1) ∧ socket.left = c ++ socket'.left ∧
        (buffer ++ c).length ≤ MAX_BROWSER_HEAD_BYTES + 4 ∧ r.2.2 = bodyAnswers socket')
      (fun e => e = starved (buffer ++ socket.left)) := by
  induction hn : socket.left.length using Nat.strong_induction_on generalizing buffer socket with
  | _ n ih =>
    cases hb : splitHead buffer with
    | some p =>
      rw [readHead_done hb]
      exact ⟨[], socket, by rw [List.append_nil, hb], rfl, by rwa [List.append_nil], rfl⟩
    | none =>
      by_cases hlong : MAX_BROWSER_HEAD_BYTES < buffer.length
      · rw [readHead_stuck hb (.inl hlong), if_pos hlong]
        refine (if_neg fun h => ?_).symm
        rw [List.isEmpty_iff, List.append_eq_nil_iff] at h
        rw [h.1] at hlong
        exact absurd hlong (Nat.not_lt_zero _)
      · cases hrecv : socket.recv (min 4096 (MAX_BROWSER_HEAD_BYTES + 4 - buffer.length)) with
        | none =>
          rw [readHead_stuck hb (.inr hrecv), if_neg hlong, Source.recv_eq_none hrecv, List.append_nil]
          rfl
        | some p =>
          obtain ⟨chunk, socket'⟩ := p
          have hlt := Source.recv_lt (by omega) hrecv
          have hchunk := Source.recv_length hrecv
          rw [readHead_turn hb (Nat.not_lt.mp hlong) hrecv]
          refine (ih _ (hn ▸ hlt) (buffer ++ chunk) socket' (by rw [List.length_append]; omega) rfl).mono ?_ ?_
          · rintro r ⟨c, socket'', hsplit, hleft, hbound, hturns⟩
            refine ⟨chunk ++ c, socket'', by rwa [← List.append_assoc], ?_, by rwa [← List.append_assoc], hturns⟩
            rw [Source.recv_left hrecv, hleft, List.append_assoc]
          · rintro e rfl
            rw [Source.recv_left hrecv, List.append_assoc]

/-- A head with some bytes to spare is read from any chunks. -/
theorem readHead_fits (h : splitHead (buffer ++ socket.left) = some (head, rest))
    (hfits : head.length + 3 ≤ MAX_BROWSER_HEAD_BYTES) :
    ∃ body socket', readHead buffer (answers buffer socket) = .ok (head, body, bodyAnswers socket') ∧
      rest = body ++ socket'.left := by
  induction hn : socket.left.length using Nat.strong_induction_on generalizing buffer socket with
  | _ n ih =>
    cases hb : splitHead buffer with
    | some p =>
      obtain ⟨head', body⟩ := p
      have := splitHead_append hb socket.left
      rw [h] at this
      obtain ⟨rfl, rfl⟩ := Prod.mk.inj (Option.some.inj this)
      exact ⟨body, socket, readHead_done hb, rfl⟩
    | none =>
      have hshort := short_of_splitHead h hb
      cases hrecv : socket.recv (min 4096 (MAX_BROWSER_HEAD_BYTES + 4 - buffer.length)) with
      | none =>
        rw [Source.recv_eq_none hrecv, List.append_nil, hb] at h
        cases h
      | some p =>
        obtain ⟨chunk, socket'⟩ := p
        rw [readHead_turn hb (by omega) hrecv]
        rw [Source.recv_left hrecv, ← List.append_assoc] at h
        exact ih _ (hn ▸ Source.recv_lt (by omega) hrecv) h rfl

theorem bodyAnswers_refill (socket : Source UInt8) : bodyAnswers socket.refill = bodyAnswers socket := by
  rcases socket with ⟨_ | ⟨c, cs⟩, _ | ⟨r, rs⟩, h⟩ <;> simp [bodyAnswers, Source.refill]

theorem recv_eq (socket : Source UInt8) (n : Nat) (h : socket.refill.current ≠ []) : socket.recv n =
    some (socket.refill.current.take n, ⟨socket.refill.current.drop n, socket.refill.coming, socket.refill.whole⟩) :=
  if_neg (by simpa using h)

/-- A head that is in the chunk at hand is read, from a buffer that holds whole reads of 4096 bytes. -/
theorem readHead_record (buffer : Bytes) (socket : Source UInt8) (h : splitHead (buffer ++ socket.refill.current) = some (head, rest))
    (hlen : head.length ≤ MAX_BROWSER_HEAD_BYTES) (hbuffer : 4096 ∣ buffer.length) :
    ∃ body socket', readHead buffer (answers buffer socket) = .ok (head, body, bodyAnswers socket') ∧
      rest = body ++ socket'.current ∧ socket'.coming = socket.refill.coming := by
  induction hn : socket.refill.current.length using Nat.strong_induction_on generalizing buffer socket with
  | _ n ih =>
    have hmax : MAX_BROWSER_HEAD_BYTES = 8192 := rfl
    cases hb : splitHead buffer with
    | some p =>
      obtain ⟨head', body⟩ := p
      have := splitHead_append hb socket.refill.current
      rw [h] at this
      obtain ⟨rfl, rfl⟩ := Prod.mk.inj (Option.some.inj this)
      exact ⟨body, socket.refill, by rw [readHead_done hb, bodyAnswers_refill], rfl, rfl⟩
    | none =>
      have hshort := short_of_splitHead h hb
      have hne : socket.refill.current ≠ [] := by
        intro hnil
        rw [hnil, List.append_nil, hb] at h
        cases h
      have hrecv := recv_eq socket (min 4096 (MAX_BROWSER_HEAD_BYTES + 4 - buffer.length)) hne
      rw [readHead_turn hb (by omega) hrecv]
      generalize hsize : min 4096 (MAX_BROWSER_HEAD_BYTES + 4 - buffer.length) = size at hrecv ⊢
      have hwhole : buffer ++ socket.refill.current =
          (buffer ++ socket.refill.current.take size) ++ socket.refill.current.drop size := by
        rw [List.append_assoc, List.take_append_drop]
      rw [hwhole] at h
      cases hc : splitHead (buffer ++ socket.refill.current.take size) with
      | some p =>
        obtain ⟨head', body⟩ := p
        have := splitHead_append hc (socket.refill.current.drop size)
        rw [h] at this
        obtain ⟨rfl, rfl⟩ := Prod.mk.inj (Option.some.inj this)
        exact ⟨body, _, readHead_done hc, rfl, rfl⟩
      | none =>
        have hstill := short_of_splitHead h hc
        have hmore : socket.refill.current.drop size ≠ [] := by
          intro hnil
          rw [hnil, List.append_nil, hc] at h
          cases h
        have hlonger : size < socket.refill.current.length := by
          by_contra hle
          exact hmore (List.drop_eq_nil_of_le (Nat.not_lt.mp hle))
        rw [List.length_append, List.length_take, Nat.min_eq_left hlonger.le] at hstill
        have hfull : size = 4096 := by omega
        have hrefill : (⟨socket.refill.current.drop size, socket.refill.coming, socket.refill.whole⟩ :
            Source UInt8).refill = ⟨socket.refill.current.drop size, socket.refill.coming, socket.refill.whole⟩ := by
          cases hd : socket.refill.current.drop size with
          | nil => exact absurd hd hmore
          | cons x xs => rfl
        have hdvd : 4096 ∣ (buffer ++ socket.refill.current.take size).length := by
          rw [List.length_append, List.length_take, Nat.min_eq_left hlonger.le, hfull]
          exact Nat.dvd_add hbuffer (dvd_refl _)
        have hless : (socket.refill.current.drop size).length < n := by
          rw [List.length_drop]
          omega
        obtain ⟨body, socket', hread, hrest, hcoming⟩ := ih _ hless _ _
          (by rw [hrefill]; exact h) hdvd (congrArg (fun s => s.current.length) hrefill)
        exact ⟨body, socket', hread, hrest, by rw [hcoming, hrefill]⟩

theorem splitHead_of_append {d : Bytes} (h : splitHead (buffer ++ d) = none) : splitHead buffer = none := by
  cases hb : splitHead buffer with
  | none => rfl
  | some p =>
    rw [splitHead_append hb d] at h
    cases h

/-- A chunk that ends one byte behind the bound, and no blank line before. -/
theorem readHead_beyond {a b c : Bytes} {more : List Bytes} {w : ∀ r ∈ a :: b :: c :: more, r ≠ []}
    (ha : a.length = 4096) (hb : b.length = 4096) (hc : c.length = 1) (h : splitHead (a ++ b ++ c) = none) :
    readHead [] (answers [] ⟨[], a :: b :: c :: more, w⟩) = .error .requestInvalid := by
  have hmax : MAX_BROWSER_HEAD_BYTES = 8192 := rfl
  have turn {buffer r : Bytes} {rs : List Bytes} {w : ∀ q ∈ r :: rs, q ≠ []} (hb : splitHead buffer = none)
      (hlen : buffer.length ≤ 8192) (hr : r.length ≤ min 4096 (8196 - buffer.length)) :
      readHead buffer (answers buffer ⟨[], r :: rs, w⟩) =
        readHead (buffer ++ r) (answers (buffer ++ r) ⟨[], rs, fun q hq => w q (List.mem_cons_of_mem _ hq)⟩) := by
    refine readHead_turn hb hlen ?_
    rw [recv_eq ⟨[], r :: rs, w⟩ _ (w r List.mem_cons_self)]
    simp only [Source.refill]
    rw [List.take_of_length_le (by rw [hmax]; exact hr), List.drop_of_length_le (by rw [hmax]; exact hr)]
  rw [turn rfl (by simp) (by simp [ha]), List.nil_append,
    turn (splitHead_of_append (splitHead_of_append h)) (by omega) (by omega),
    turn (splitHead_of_append h) (by simp [ha, hb]) (by simp [ha, hb, hc])]
  have hlong : MAX_BROWSER_HEAD_BYTES < (a ++ b ++ c).length := by
    simp only [List.length_append, ha, hb, hc]
    decide
  rw [readHead_stuck h (.inl hlong), if_pos hlong]

end Head

/-! ## What follows the head -/

theorem readBody_full {size : Nat} {body : Bytes} (h : size ≤ body.length) (turns : List Recv) :
    readBody size body turns = .ok body := by
  cases turns with
  | nil => exact if_neg (by omega)
  | cons turn turns => exact if_neg (by omega)

theorem readBody_chunks {size : Nat} (hsize : size ≤ 4096) {cs : List Bytes} (hcs : ∀ c ∈ cs, c ≠ []) {body : Bytes}
    (hbody : body.length ≤ size) : readBody size body (cs.map .chunk) =
      if body.length + cs.flatten.length < size then .error .requestInvalid
      else .ok (body ++ cs.flatten.take (size - body.length)) := by
  induction cs generalizing body with
  | nil =>
    rw [List.map_nil, readBody, List.flatten_nil, List.length_nil, Nat.add_zero, List.take_nil, List.append_nil]
  | cons c cs ih =>
    have hc := List.length_pos_of_ne_nil (hcs c List.mem_cons_self)
    rcases Nat.lt_or_eq_of_le hbody with hlt | heq
    · have hmin : min 4096 (size - body.length) = size - body.length := by omega
      have hgot : ¬ (c.take (size - body.length)).isEmpty = true := by
        rw [List.isEmpty_iff, List.take_eq_nil_iff, not_or]
        exact ⟨by omega, hcs c List.mem_cons_self⟩
      rw [List.map_cons, readBody, if_pos hlt]
      dsimp only
      rw [hmin, if_neg hgot, ih (fun q hq => hcs q (List.mem_cons_of_mem _ hq)) (by
        rw [List.length_append, List.length_take]
        omega)]
      rw [List.flatten_cons, List.length_append, List.length_append, List.length_take, List.take_append, List.append_assoc]
      have hleft : size - (body.length + min (size - body.length) c.length) = size - body.length - c.length := by omega
      rw [hleft]
      by_cases hshort : body.length + (c.length + cs.flatten.length) < size
      · rw [if_pos hshort, if_pos (by omega)]
      · rw [if_neg hshort, if_neg (by omega)]
    · rw [readBody_full heq.ge, if_neg (by omega), ← heq, Nat.sub_self, List.take_zero, List.append_nil]

theorem flatten_bodyAnswers (socket : Source UInt8) :
    ∃ cs : List Bytes, bodyAnswers socket = cs.map .chunk ∧ (∀ c ∈ cs, c ≠ []) ∧ cs.flatten = socket.left := by
  refine ⟨_, rfl, fun c hc => by simpa using (List.mem_filter.mp hc).2, ?_⟩
  rw [List.flatten_filter_ne_nil]
  rfl

/-- The request of an accepted head and its body. -/
def Awaited.request (body : Bytes) : (a : Awaited) → body.length = a.size → BrowserRequest
  | .get target headers, _ => ⟨.get, target, headers, [], Nat.zero_le _⟩
  | .post target headers size, h => ⟨.post, target, headers, body, h ▸ size.2.2⟩

theorem Awaited.body_request {body : Bytes} {a : Awaited} (h : body.length = a.size) : (a.request body h).body = body := by
  cases a with
  | get target headers => exact (List.length_eq_zero_iff.mp h).symm
  | post target headers size => rfl

variable {body rest : Bytes} {socket : Source UInt8} {a : Awaited}

/-- The reader takes as much of what follows as the head declares. -/
theorem finish_eq (a : Awaited) (body : Bytes) (socket : Source UInt8) (hbody : body.length ≤ a.size) (h : a.size ≤ body.length + socket.left.length) :
    ∃ hsize : (body ++ socket.left.take (a.size - body.length)).length = a.size,
      a.finish body (bodyAnswers socket) =
        .ok (a.request (body ++ socket.left.take (a.size - body.length)) hsize) := by
  have hsize : (body ++ socket.left.take (a.size - body.length)).length = a.size := by
    rw [List.length_append, List.length_take]
    omega
  refine ⟨hsize, ?_⟩
  cases a with
  | get target headers =>
    obtain rfl := List.length_eq_zero_iff.mp (Nat.le_zero.mp hbody)
    rfl
  | post target headers size =>
    obtain ⟨cs, hcs, hne, hflat⟩ := flatten_bodyAnswers socket
    have hread := readBody_chunks (size.2.2.trans (by decide)) hne hbody
    have hleft : (size : Nat) ≤ body.length + socket.left.length := h
    rw [hflat, if_neg (Nat.not_lt.mpr hleft)] at hread
    simp only [Awaited.finish, hcs, hread, Except.ok_bind]
    exact dif_pos hsize

theorem finish_short (h : body.length + socket.left.length < a.size) :
    a.finish body (bodyAnswers socket) = .error .requestInvalid := by
  cases a with
  | get target headers => exact absurd h (Nat.not_lt_zero _)
  | post target headers size =>
    obtain ⟨cs, hcs, hne, hflat⟩ := flatten_bodyAnswers socket
    have hleft : body.length + socket.left.length < size := h
    have hread := readBody_chunks (size.2.2.trans (by decide)) hne (show body.length ≤ size by omega)
    rw [hflat, if_pos hleft] at hread
    simp only [Awaited.finish, hcs, hread, Except.error_bind]

/-! ## What the head declares -/

theorem require_ok {ok : Bool} {u : Unit} (h : require ok = .ok u) : ok = true := by
  cases ok with
  | false => cases h
  | true => rfl

theorem judgePost_ok {target : String} {headers : List (String × String)}
    (h : judgePost target headers = .ok a) : ∃ text size, a = .post target headers size ∧
      headers.lookup "content-length" = some text ∧ isDigits text = true ∧ digitsValue text = size := by
  unfold judgePost at h
  obtain ⟨-, -, h⟩ := Except.bind_eq_ok.mp h
  obtain ⟨_, hdigits, h⟩ := Except.bind_eq_ok.mp h
  obtain ⟨n, hn, h⟩ := Except.bind_eq_ok.mp h
  have hdigits := require_ok hdigits
  split_ifs at h with hsize
  cases h
  cases hlookup : headers.lookup "content-length" with
  | none =>
    rw [hlookup] at hdigits
    exact absurd hdigits (by decide)
  | some text =>
    rw [hlookup] at hn hdigits
    refine ⟨text, _, rfl, rfl, hdigits, ?_⟩
    unfold intOfDigits at hn
    split_ifs at hn
    exact Except.ok.inj hn

theorem judgeGet_ok {port : Nat} {target : String} {headers : List (String × String)}
    (h : judgeGet port target headers = .ok a) : a = .get target headers := by
  unfold judgeGet at h
  obtain ⟨-, -, h⟩ := Except.bind_eq_ok.mp h
  obtain ⟨-, -, h⟩ := Except.bind_eq_ok.mp h
  obtain ⟨-, -, h⟩ := Except.bind_eq_ok.mp h
  exact (Except.ok.inj h).symm

theorem judgeHead_ok {port : Nat} {head : Bytes} (h : judgeHead port head = .ok a) :
    (∃ target headers, a = .get target headers) ∨
      ∃ target headers text size, a = .post target headers size ∧ headers.lookup "content-length" = some text ∧
        isDigits text = true ∧ digitsValue text = size := by
  unfold judgeHead at h
  cases hp : parseHead head with
  | none => rw [hp] at h; cases h
  | some p =>
    obtain ⟨method, target, headers⟩ := p
    rw [hp] at h
    obtain ⟨-, -, h⟩ := Except.bind_eq_ok.mp h
    obtain ⟨-, -, h⟩ := Except.bind_eq_ok.mp h
    cases method with
    | get => exact .inl ⟨target, headers, judgeGet_ok h⟩
    | post =>
      obtain ⟨text, size, hpost⟩ := judgePost_ok h
      exact .inr ⟨target, headers, text, size, hpost⟩

theorem intOfDigits_error {text : String} {e : ReadError} (h : intOfDigits text = .error e) : e = .valueError := by
  unfold intOfDigits at h
  split_ifs at h
  cases h
  rfl

theorem judgePost_error {target : String} {headers : List (String × String)} {e : ReadError}
    (h : judgePost target headers = .error e) : e = .requestInvalid ∨ e = .valueError := by
  unfold judgePost at h
  dsimp only at h
  cases hform : isFormType ((headers.lookup "content-type").getD "") with
  | false =>
    rw [hform, require_false, Except.error_bind] at h
    exact .inl (Except.error.inj h).symm
  | true =>
    rw [hform, require_true, Except.ok_bind] at h
    cases hdigits : isDigits ((headers.lookup "content-length").getD "") with
    | false =>
      rw [hdigits, require_false, Except.error_bind] at h
      exact .inl (Except.error.inj h).symm
    | true =>
      rw [hdigits, require_true, Except.ok_bind] at h
      cases hn : intOfDigits ((headers.lookup "content-length").getD "") with
      | error e' =>
        rw [hn, Except.error_bind] at h
        exact .inr (Except.error.inj h ▸ intOfDigits_error hn)
      | ok n =>
        rw [hn, Except.ok_bind] at h
        split_ifs at h
        exact .inl (Except.error.inj h).symm

theorem judgeGet_error {port : Nat} {target : String} {headers : List (String × String)} {e : ReadError}
    (h : judgeGet port target headers = .error e) : e = .requestInvalid := by
  unfold judgeGet at h
  cases hlength : (headers.lookup "content-length").getD "0" == "0" with
  | false =>
    rw [hlength, require_false, Except.error_bind] at h
    exact (Except.error.inj h).symm
  | true =>
    rw [hlength, require_true, Except.ok_bind] at h
    cases horigin : absentOr (expectedOrigins port) (headers.lookup "origin") with
    | false =>
      rw [horigin, require_false, Except.error_bind] at h
      exact (Except.error.inj h).symm
    | true =>
      rw [horigin, require_true, Except.ok_bind] at h
      cases hsite : absentOr ["none", "same-origin"] (headers.lookup "sec-fetch-site") with
      | false =>
        rw [hsite, require_false, Except.error_bind] at h
        exact (Except.error.inj h).symm
      | true =>
        rw [hsite, require_true, Except.ok_bind] at h
        cases h

/-- A head is refused, or its `Content-Length` has too many digits for `int`. -/
theorem judgeHead_error {port : Nat} {head : Bytes} {e : ReadError} (h : judgeHead port head = .error e) :
    e = .requestInvalid ∨ e = .valueError := by
  unfold judgeHead at h
  cases hp : parseHead head with
  | none =>
    rw [hp] at h
    exact .inl (Except.error.inj h).symm
  | some p =>
    obtain ⟨method, target, headers⟩ := p
    rw [hp] at h
    dsimp only at h
    cases hcoding : (headers.lookup "transfer-encoding").isNone with
    | false =>
      rw [hcoding, require_false, Except.error_bind] at h
      exact .inl (Except.error.inj h).symm
    | true =>
      rw [hcoding, require_true, Except.ok_bind] at h
      cases hhost : (headers.lookup "host").any (expectedHosts port).contains with
      | false =>
        rw [hhost, require_false, Except.error_bind] at h
        exact .inl (Except.error.inj h).symm
      | true =>
        rw [hhost, require_true, Except.ok_bind] at h
        cases method with
        | get => exact .inl (judgeGet_error h)
        | post => exact judgePost_error h

end ThreatFusion.Browser
