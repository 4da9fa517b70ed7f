import ThreatFusion.Transport.Connection
/-
# The head read byte by byte (`api/producer_tls_transport.py`:492-519)

The loop checks every part that it has read. These checks reject no part of a head that the parser
accepts (`checkPart_prefix`), so the loop comes to the first blank line of the stream and the parser
decides (`request_head_read`).
-/
namespace ThreatFusion.Transport
open Py Admission Delimited Records

/-! ## The parts of a head -/

/-- The text before the blank line. -/
def headLines (headers : List (String × String)) : Bytes :=
  joined CRLF (ascii requestLine) (headers.map fun h => ascii (headerText h.1.toList h.2.toList))

theorem ascii_headText_eq (headers : List (String × String)) :
    ascii (headText headers) = headLines headers ++ (CRLF ++ CRLF) := ascii_headText headers

theorem endsHead_text (headers : List (String × String)) : endsHead (ascii (headText headers)) = true := by
  rw [endsHead, List.isSuffixOf_iff_suffix, ascii_headText_eq]
  exact List.suffix_append ..

namespace IsRequestHead

variable {headers : List (String × String)} {n : Nat}

/-- The blank line that ends a head is the first. -/
theorem cut_text (h : IsRequestHead headers n) (rest : Bytes) :
    cut (CRLF ++ CRLF) (ascii (headText headers) ++ rest) = some (headLines headers, rest) := by
  have hclean := lines_clean h.fields
  rw [ascii_headText_eq]
  exact cut_doubled (by decide) (fun p hp => ⟨(hclean p hp).1, (hclean p hp).2.1⟩) rest

/-- Before its end a head has no blank line. -/
theorem endsHead_prefix (h : IsRequestHead headers n) {p q : Bytes} (hp : ascii (headText headers) = p ++ q)
    (hend : endsHead p = true) : q = [] := by
  have hinfix : CRLF ++ CRLF <:+: p := (List.isSuffixOf_iff_suffix.mp hend).isInfix
  obtain ⟨⟨a, b⟩, hcut⟩ := Option.isSome_iff_exists.mp (cut_isSome_iff.mpr hinfix)
  have hwhole := cut_append hcut q
  have hfirst := h.cut_text []
  rw [List.append_nil, hp, hwhole] at hfirst
  exact (List.append_eq_nil_iff.mp (Prod.mk.inj (Option.some.inj hfirst)).2).2

/-- The checks of the loop let every part of a head pass. -/
theorem checkPart_part (h : IsRequestHead headers n) {p q : Bytes} (hp : ascii (headText headers) = p ++ q) :
    checkPart p = .ok () := by
  have hclean := lines_clean h.fields
  have hframed : framedFrom none p = true := by
    refine framedFrom_prefix (q := q) ?_
    rw [← hp, ascii_headText, ← List.append_assoc, joined_terminated]
    exact framedFrom_lines fun line hl => (hclean line hl).2
  have hsize : p.length ≤ MAX_HEADER_BYTES := by
    have := h.size
    rw [← length_ascii, hp, List.length_append] at this
    omega
  -- the request line is short, and a part without a line end is inside it
  have hline : ¬ ((cut CRLF p).isNone ∧ MAX_REQUEST_LINE_BYTES + 2 < p.length) := by
    rintro ⟨hnone, hlong⟩
    have hstart : ascii requestLine ++ CRLF <+: p ++ q := by
      rw [← hp, ascii_headText, ← List.append_assoc, joined_terminated, List.flatMap_cons, List.append_assoc]
      exact List.prefix_append ..
    have hinside : ascii requestLine ++ CRLF <+: p := by
      refine List.prefix_of_prefix_length_le hstart (List.prefix_append p q) (Nat.le_trans ?_ (Nat.le_of_lt hlong))
      decide
    obtain ⟨rest, hrest⟩ := hinside
    have hsome : (cut CRLF p).isSome := cut_isSome_iff.mpr ⟨ascii requestLine, rest, hrest⟩
    rw [Option.isNone_iff_eq_none.mp hnone] at hsome
    cases hsome
  rw [checkPart, validatePlainFraming, if_pos hframed, Except.ok_bind, if_neg hline,
    if_neg (Nat.not_lt.mpr hsize)]

end IsRequestHead

/-- **The checks of the loop reject no part of a head that the parser accepts.** -/
theorem checkPart_prefix {raw part : Bytes} {head : ValidatedRequestHead} (h : parseRequestHead raw = .ok head)
    (hpart : part <+: raw) : checkPart part = .ok () := by
  obtain ⟨headers, ⟨hhead, -⟩, rfl⟩ := parseRequestHead_ok.mp h
  obtain ⟨rest, hrest⟩ := hpart
  exact hhead.checkPart_part hrest.symm

/-! ## The loop -/

section Loop

variable {fits : ℚ → Bool} {limits : Limits}

/-- The next `n` receives each bring bytes in time. -/
def Delivers (fits : ℚ → Bool) (limits : Limits) : Option Times → List Turn → Nat → Prop
  | _, _, 0 => True
  | _, [], _ + 1 => False
  | times, turn :: turns, n + 1 => turn.wire = .arrives ∧ ∃ before t t',
    (startTurn fits limits turn times).1 = .ok (before, t) ∧ endTurn limits turn before t = .ok t' ∧
      Delivers fits limits (some t') turns n

theorem monotonicValue_error {r : Reading} {e : Raised} (h : monotonicValue r = .error e) : e = clockInvalid := by
  unfold monotonicValue at h
  split at h
  · split_ifs at h
    exact (Except.error.inj h).symm
  · exact (Except.error.inj h).symm

theorem endTurn_error {turn : Turn} {before : ℚ} {t : Times} {e : Raised}
    (h : endTurn limits turn before t = .error e) : e ≠ .overflowError := by
  unfold endTurn at h
  cases hafter : monotonicValue turn.after with
  | error e' =>
    rw [hafter] at h
    rw [← Except.error.inj h, monotonicValue_error hafter]
    decide
  | ok after =>
    rw [hafter, Except.ok_bind, remaining] at h
    split_ifs at h
    · rw [← Except.error.inj h]
      decide
    · rw [Except.error_bind] at h
      rw [← Except.error.inj h]
      decide
    · rw [Except.ok_bind] at h
      cases h

theorem timeoutFailure_ne (now : Reading) (t : Times) : timeoutFailure limits now t ≠ .overflowError := by
  unfold timeoutFailure
  split
  · decide
  · split_ifs <;> decide
  · split_ifs <;> decide

/-- A receive raises, brings nothing, or brings a chunk in time. `OverflowError` comes from `settimeout`. -/
theorem recv_cases (fits : ℚ → Bool) (limits : Limits) (size : Nat) (turn : Turn) (io : Io) :
    (∃ e, (recv fits limits size turn io).1 = .error e ∧
      (e = .overflowError → (startTurn fits limits turn io.times).1 = .error .overflowError) ∧
      ((recv fits limits size turn io).2.source = io.source ∨
      ∃ chunk, io.source.recv size = some (chunk, (recv fits limits size turn io).2.source))) ∨
    ((recv fits limits size turn io).1 = .ok [] ∧ (recv fits limits size turn io).2.source = io.source) ∨
    ∃ chunk before t t', (recv fits limits size turn io).1 = .ok chunk ∧
      io.source.recv size = some (chunk, (recv fits limits size turn io).2.source) ∧ turn.wire = .arrives ∧
      (startTurn fits limits turn io.times).1 = .ok (before, t) ∧ endTurn limits turn before t = .ok t' ∧
      (recv fits limits size turn io).2.times = some t' := by
  unfold recv
  rcases hstart : startTurn fits limits turn io.times with ⟨e | ⟨before, t⟩, times⟩
  · exact .inl ⟨e, rfl, fun he => he ▸ rfl, .inl rfl⟩
  · cases hwire : turn.wire with
    | timedOut now => exact .inl ⟨_, rfl, fun he => absurd he (timeoutFailure_ne now t), .inl rfl⟩
    | ended => exact .inr (.inl ⟨rfl, rfl⟩)
    | arrives =>
      cases hrecv : io.source.recv size with
      | none => exact .inr (.inl ⟨rfl, rfl⟩)
      | some p =>
        obtain ⟨chunk, source⟩ := p
        cases hclock : endTurn limits turn before t with
        | error e =>
          simp only [hclock]
          exact .inl ⟨e, rfl, fun he => absurd he (endTurn_error hclock), .inr ⟨chunk, rfl⟩⟩
        | ok t' =>
          simp only [hclock]
          exact .inr (.inr ⟨chunk, before, t, t', rfl, rfl, trivial, rfl, hclock, rfl⟩)

theorem recv_arrives {size : Nat} {turn : Turn} {io : Io} {chunk : Bytes} {source : Source UInt8} {before : ℚ}
    {t t' : Times} (hrecv : io.source.recv size = some (chunk, source)) (hwire : turn.wire = .arrives)
    (hstart : (startTurn fits limits turn io.times).1 = .ok (before, t))
    (hend : endTurn limits turn before t = .ok t') :
    recv fits limits size turn io = (.ok chunk, ⟨source, some t'⟩) := by
  unfold recv
  rcases hs : startTurn fits limits turn io.times with ⟨x, times⟩
  rw [hs] at hstart
  simp only at hstart
  simp only [hstart, hwire, hrecv, hend]

/-- A receive of one byte. -/
theorem recv_byte {source source' : Source UInt8} {chunk : Bytes} (h : source.recv 1 = some (chunk, source')) :
    ∃ b, chunk = [b] ∧ source.left = b :: source'.left := by
  have hlen := Source.recv_length h
  have hpos := List.length_pos_of_ne_nil (Source.recv_ne_nil Nat.one_pos h)
  obtain ⟨b, rfl⟩ := List.length_eq_one_iff.mp (by omega : chunk.length = 1)
  exact ⟨b, rfl, Source.recv_left h⟩

theorem checkPart_size {raw : Bytes} {u : Unit} (h : checkPart raw = .ok u) : raw.length ≤ MAX_HEADER_BYTES := by
  unfold checkPart at h
  obtain ⟨-, -, h⟩ := Except.bind_eq_ok.mp h
  split_ifs at h with hline hsize
  exact Nat.le_of_not_lt hsize

/-- What the loop took, whatever its end: at most one byte beyond the limit of a head. -/
theorem readHead_taken (fits : ℚ → Bool) (limits : Limits) :
    ∀ (turns : List Turn) (raw : Bytes) (io : Io), raw.length ≤ MAX_HEADER_BYTES →
    ∃ taken, io.source.left = taken ++ (readHead fits limits raw turns io).2.2.source.left ∧
      raw.length + taken.length ≤ MAX_HEADER_BYTES + 1 ∧
      ∀ text, (readHead fits limits raw turns io).1 = .ok text →
        text = raw ++ taken ∧ endsHead text = true ∧ Delivers fits limits io.times turns taken.length
  | [], raw, io, hraw => by
    unfold readHead
    split_ifs with hend
    · refine ⟨[], rfl, by simpa using Nat.le_succ_of_le hraw, fun text h => ?_⟩
      obtain rfl := Except.ok.inj h
      exact ⟨by simp, hend, trivial⟩
    · exact ⟨[], rfl, by simpa using Nat.le_succ_of_le hraw, fun text h => by cases h⟩
  | turn :: turns, raw, io, hraw => by
    unfold readHead
    split_ifs with hend
    · refine ⟨[], rfl, by simpa using Nat.le_succ_of_le hraw, fun text h => ?_⟩
      obtain rfl := Except.ok.inj h
      exact ⟨by simp, hend, trivial⟩
    · have hcases := recv_cases fits limits 1 turn io
      rcases hr : recv fits limits 1 turn io with ⟨result, io'⟩
      rw [hr] at hcases
      rcases hcases with ⟨e, rfl, -, hsource⟩ | ⟨rfl, hsource⟩ |
        ⟨chunk, before, t, t', rfl, hrecv, hwire, hstart, hclock, htimes⟩
      · rcases hsource with hsource | ⟨chunk, hrecv⟩
        · exact ⟨[], by simp [← hsource], by simpa using Nat.le_succ_of_le hraw, fun text h => by cases h⟩
        · obtain ⟨b, rfl, hleft⟩ := recv_byte hrecv
          exact ⟨[b], hleft, by simpa using hraw, fun text h => by cases h⟩
      · exact ⟨[], by simp [← hsource], by simpa using Nat.le_succ_of_le hraw, fun text h => by cases h⟩
      · obtain ⟨b, rfl, hleft⟩ := recv_byte hrecv
        simp only [List.isEmpty_cons, Bool.false_eq_true, if_false]
        cases hcheck : checkPart (raw ++ [b]) with
        | error e => exact ⟨[b], hleft, by simpa using hraw, fun text h => by cases h⟩
        | ok _ =>
          obtain ⟨taken, htaken, hsize, hok⟩ :=
            readHead_taken fits limits turns (raw ++ [b]) io' (checkPart_size hcheck)
          refine ⟨b :: taken, ?_, ?_, fun text h => ?_⟩
          · simp only
            rw [hleft, htaken]
            rfl
          · simp only [List.length_append, List.length_cons, List.length_nil] at hsize ⊢
            omega
          · obtain ⟨rfl, hend', hdelivers⟩ := hok text h
            refine ⟨by simp, hend', hwire, before, t, t', hstart, hclock, ?_⟩
            rw [← htimes]
            exact hdelivers

/-- A head that is delivered is read to its end. -/
theorem readHead_delivers {headers : List (String × String)} {n : Nat} (h : IsRequestHead headers n) {rest : Bytes} :
    ∀ {turns : List Turn} {raw d : Bytes} {io : Io}, ascii (headText headers) = raw ++ d → io.source.left = d ++ rest →
      Delivers fits limits io.times turns d.length →
      ∃ turns' io', readHead fits limits raw turns io = (.ok (ascii (headText headers)), turns', io') ∧
        io'.source.left = rest
  | turns, raw, [], io, hd, hleft, _ => by
    rw [List.append_nil] at hd
    have hend := endsHead_text headers
    rw [hd] at hend ⊢
    refine ⟨turns, io, ?_, hleft⟩
    cases turns with
    | nil => rw [readHead, if_pos hend]
    | cons turn turns => rw [readHead, if_pos hend]
  | [], raw, b :: d, io, _, _, hdelivers => hdelivers.elim
  | turn :: turns, raw, b :: d, io, hd, hleft, ⟨hwire, before, t, t', hstart, hclock, hmore⟩ => by
    have hpart : ascii (headText headers) = (raw ++ [b]) ++ d := by simpa using hd
    have hend : endsHead raw ≠ true := fun hend => by cases h.endsHead_prefix hd hend
    cases hrecv : io.source.recv 1 with
    | none =>
      rw [Source.recv_eq_none hrecv] at hleft
      cases hleft
    | some p =>
      obtain ⟨chunk, source⟩ := p
      obtain ⟨b', rfl, hleft'⟩ := recv_byte hrecv
      rw [hleft'] at hleft
      obtain ⟨rfl, hrest⟩ := List.cons.inj hleft
      have hio : (Io.mk source (some t')).source.left = d ++ rest := hrest
      obtain ⟨turns', io', hread, hend'⟩ := readHead_delivers h hpart hio hmore
      refine ⟨turns', io', ?_, hend'⟩
      rw [readHead, if_neg hend, recv_arrives hrecv hwire hstart hclock]
      simp only [List.isEmpty_cons, Bool.false_eq_true, if_false, h.checkPart_part hpart]
      exact hread

end Loop

/-! ## `read_request_head` -/

/-- **The head reader accepts the heads of the grammar.** A valid capability gets the head that the stream has
up to its first blank line, when that is in the grammar and is delivered. The checks on the way reject no part
of it, and no more than one byte beyond the limit is ever taken. -/
theorem request_head_read (sha256 : String → String) (fits : ℚ → Bool) (token : String)
    (capability : Option TransportCapability) (c : Connection) :
    (∀ head, (∃ next, (readRequestHead sha256 fits token capability c).1 = .ok (head, next)) ↔
      c.require sha256 capability [.authenticated] = true ∧ ∃ headers text rest, IsHeadOf head headers ∧
        cut (CRLF ++ CRLF) c.io.source.left = some (text, rest) ∧ text ++ (CRLF ++ CRLF) = ascii (headText headers) ∧
        Delivers fits c.limits c.io.times c.turns (headText headers).length) ∧
    (∀ raw head part, parseRequestHead raw = .ok head → part <+: raw → checkPart part = .ok ()) ∧
    ∃ taken, c.io.source.left = taken ++ (readRequestHead sha256 fits token capability c).2.io.source.left ∧
      taken.length ≤ MAX_HEADER_BYTES + 1 := by
  have htaken := readHead_taken fits c.limits c.turns [] c.io (Nat.zero_le _)
  refine ⟨fun head => ⟨?_, ?_⟩, fun raw head part => checkPart_prefix, ?_⟩
  · rintro ⟨next, h⟩
    unfold readRequestHead at h
    split_ifs at h with hcap
    rw [Bool.not_eq_false] at hcap
    refine ⟨hcap, ?_⟩
    obtain ⟨taken, hleft, -, hok⟩ := htaken
    rcases hread : readHead fits c.limits [] c.turns c.io with ⟨e | raw, turns, io⟩
    · simp [hread] at h
    · rw [hread] at h hleft hok
      obtain ⟨htext, -, hdelivers⟩ := hok raw rfl
      rw [List.nil_append] at htext
      subst htext
      cases hparse : parseRequestHead raw with
      | error e => simp [hparse] at h
      | ok head' =>
        simp only [hparse] at h
        obtain rfl := (Prod.mk.inj (Except.ok.inj h)).1
        obtain ⟨headers, hhead, rfl⟩ := parseRequestHead_ok.mp hparse
        refine ⟨headers, headLines headers, io.source.left, hhead, ?_, (ascii_headText_eq headers).symm, ?_⟩
        · rw [hleft]
          exact hhead.1.cut_text _
        · rwa [← length_ascii]
  · rintro ⟨hcap, headers, text, rest, hhead, hcut, htext, hdelivers⟩
    have hleft : c.io.source.left = ascii (headText headers) ++ rest := by rw [cut_eq hcut, htext]
    rw [← length_ascii] at hdelivers
    obtain ⟨turns', io', hread, -⟩ := readHead_delivers hhead.1 (List.nil_append _).symm hleft hdelivers
    refine ⟨⟨some c.connectionId, some .headValidated, some token⟩, ?_⟩
    unfold readRequestHead
    rw [if_neg (by rw [hcap]; exact Bool.noConfusion), hread]
    simp only [parseRequestHead_ok.mpr ⟨headers, hhead, rfl⟩]
    rfl
  · obtain ⟨taken, hleft, hsize, -⟩ := htaken
    rw [List.length_nil, Nat.zero_add] at hsize
    unfold readRequestHead
    split_ifs with hcap
    · exact ⟨[], rfl, Nat.zero_le _⟩
    · refine ⟨taken, ?_, hsize⟩
      rw [hleft]
      rcases readHead fits c.limits [] c.turns c.io with ⟨e | raw, turns, io⟩
      · cases e <;> rfl
      · simp only
        cases parseRequestHead raw <;> rfl

end ThreatFusion.Transport
