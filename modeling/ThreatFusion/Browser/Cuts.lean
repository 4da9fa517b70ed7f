import ThreatFusion.Browser.Chunks
/-
# Reading a request from any chunks

`ReadsAlike`: every cut of a text gives one result, no `ValueError` leaves the reader, and what is read is the whole
text. `Definite` is the exact condition (`readsAlike_iff`). It leaves out three kinds of texts with an acceptable head:
those with more bytes than the body, those of a whole request whose head ends within three bytes of the bound, and
those with a `Content-Length` that `int` does not take.
-/
namespace ThreatFusion.Browser
open Py Records

variable {port : Nat} {s : Bytes}

/-! ## One cut -/

@[simp] theorem Cut.left_socket (cut : Cut s) : cut.socket.left = s := by
  rw [Source.left, Cut.socket, Source.ofRecords, List.nil_append, cut.text]

/-- The loop over the head ends with the head of the text, or as one that got nothing more. -/
theorem readHead_cut (cut : Cut s) :
    (∃ head body socket', readHead [] (answers [] cut.socket) = .ok (head, body, bodyAnswers socket') ∧
      splitHead s = some (head, body ++ socket'.left) ∧ head.length ≤ MAX_BROWSER_HEAD_BYTES) ∨
    readHead [] (answers [] cut.socket) = .error (starved s) := by
  have hends := readHead_answers [] cut.socket (Nat.zero_le _)
  cases hread : readHead [] (answers [] cut.socket) with
  | error e =>
    rw [hread] at hends
    right
    rw [show e = starved ([] ++ cut.socket.left) from hends, Cut.left_socket, List.nil_append]
  | ok r =>
    rw [hread] at hends
    obtain ⟨head, body, turns⟩ := r
    obtain ⟨c, socket', hsplit, hleft, hbound, hturns⟩ := hends
    left
    dsimp only at hsplit hturns
    rw [List.nil_append] at hsplit hbound
    refine ⟨head, body, socket', by rw [hturns], ?_, ?_⟩
    · rw [Cut.left_socket] at hleft
      rw [hleft]
      exact splitHead_append hsplit _
    · have := length_of_splitHead hsplit
      omega

variable (port) in
theorem readChunks_of_head {cut : Cut s} {head body : Bytes} {turns : List Recv}
    (h : readHead [] (answers [] cut.socket) = .ok (head, body, turns)) :
    readChunks port cut = judgeHead port head >>= Awaited.finish body turns := by
  rw [readChunks, readBrowserRequest_eq, h]
  rfl

variable (port) in
theorem readChunks_of_error {cut : Cut s} {e : ReadError} (h : readHead [] (answers [] cut.socket) = .error e) :
    readChunks port cut = .error e := by
  rw [readChunks, readBrowserRequest_eq, h]
  rfl

/-! ## The promise and its condition -/

/-- A request is the whole text. -/
structure Whole (s : Bytes) (r : BrowserRequest) : Prop where
  text : ∃ head, splitHead s = some (head, r.body) ∧ head.length ≤ MAX_BROWSER_HEAD_BYTES
  get : r.method = .get → r.body = []
  post : r.method = .post → ∃ text, r.headers.lookup "content-length" = some text ∧ isDigits text = true ∧
    digitsValue text = r.body.length ∧ 1 ≤ r.body.length ∧ r.body.length ≤ MAX_BROWSER_BODY_BYTES

structure ReadsAlike (port : Nat) (s : Bytes) : Prop where
  same : ∀ cut cut' : Cut s, readChunks port cut = readChunks port cut'
  raises : ∀ cut : Cut s, readChunks port cut ≠ .error .valueError
  whole : ∀ (cut : Cut s) r, readChunks port cut = .ok r → Whole s r

def Definite (port : Nat) (s : Bytes) : Prop :=
  ∀ head rest, splitHead s = some (head, rest) → head.length ≤ MAX_BROWSER_HEAD_BYTES →
    judgeHead port head ≠ .error .valueError ∧
      ∀ a, judgeHead port head = .ok a →
        rest.length < a.size ∨ rest.length = a.size ∧ head.length + 3 ≤ MAX_BROWSER_HEAD_BYTES

/-- The result for a text, without a word of chunks. -/
def textResult (port : Nat) (s : Bytes) : Except ReadError BrowserRequest :=
  match splitHead s with
  | none => .error (starved s)
  | some (head, rest) =>
    if MAX_BROWSER_HEAD_BYTES < head.length then .error .requestInvalid
    else match judgeHead port head with
      | .error e => .error e
      | .ok a => if h : rest.length = a.size then .ok (a.request rest h) else .error .requestInvalid

theorem starved_of_splitHead {head rest : Bytes} (h : splitHead s = some (head, rest)) : starved s = .requestInvalid := by
  refine if_neg fun hempty => ?_
  rw [List.isEmpty_iff.mp hempty] at h
  cases h

/-! ## Every cut, where the text is definite -/

theorem Definite.readChunks_eq (h : Definite port s) (cut : Cut s) : readChunks port cut = textResult port s := by
  unfold textResult
  rcases readHead_cut cut with ⟨head, body, socket', hread, hsplit, hlen⟩ | hread
  · rw [readChunks_of_head port hread, hsplit]
    dsimp only
    rw [if_neg (Nat.not_lt.mpr hlen)]
    cases hjudge : judgeHead port head with
    | error e => rfl
    | ok a =>
      rw [Except.ok_bind]
      dsimp only
      rcases (h head _ hsplit hlen).2 a hjudge with hshort | ⟨hsize, -⟩
      · rw [dif_neg hshort.ne]
        rw [List.length_append] at hshort
        exact finish_short hshort
      · rw [dif_pos hsize]
        have hlengths := hsize
        rw [List.length_append] at hlengths
        obtain ⟨hlength, hfinish⟩ := finish_eq a body socket' (by omega) (by omega)
        have htake : socket'.left.take (a.size - body.length) = socket'.left := List.take_of_length_le (by omega)
        rw [hfinish]
        simp only [htake]
  · rw [readChunks_of_error port hread]
    cases hsplit : splitHead s with
    | none => rfl
    | some p =>
      obtain ⟨head, rest⟩ := p
      dsimp only
      rw [starved_of_splitHead hsplit]
      by_cases hlen : MAX_BROWSER_HEAD_BYTES < head.length
      · rw [if_pos hlen]
      · rw [if_neg hlen]
        obtain ⟨hvalue, hsizes⟩ := h head rest hsplit (Nat.not_lt.mp hlen)
        cases hjudge : judgeHead port head with
        | error e =>
          rcases judgeHead_error hjudge with rfl | rfl
          · rfl
          · exact absurd hjudge hvalue
        | ok a =>
          dsimp only
          rcases hsizes a hjudge with hshort | ⟨-, hfits⟩
          · rw [dif_neg hshort.ne]
          · -- such a head is read from any chunks
            have hleft : splitHead ([] ++ cut.socket.left) = some (head, rest) := by
              rw [Cut.left_socket]
              exact hsplit
            obtain ⟨body, socket', hok, -⟩ := readHead_fits hleft hfits
            rw [hread] at hok
            cases hok

theorem whole_of_textResult {r : BrowserRequest} (h : textResult port s = .ok r) : Whole s r := by
  unfold textResult at h
  cases hsplit : splitHead s with
  | none =>
    rw [hsplit] at h
    cases h
  | some p =>
    obtain ⟨head, rest⟩ := p
    rw [hsplit] at h
    dsimp only at h
    split_ifs at h with hlen
    cases hjudge : judgeHead port head with
    | error e =>
      rw [hjudge] at h
      cases h
    | ok a =>
      rw [hjudge] at h
      dsimp only at h
      split_ifs at h with hsize
      obtain rfl := Except.ok.inj h
      have hbody := Awaited.body_request hsize
      refine ⟨⟨head, by rw [hsplit, hbody], Nat.not_lt.mp hlen⟩, fun hget => ?_, fun hpost => ?_⟩
      · rcases judgeHead_ok hjudge with ⟨target, headers, rfl⟩ | ⟨target, headers, text, size, rfl, -⟩
        · rfl
        · cases hget
      · rcases judgeHead_ok hjudge with ⟨target, headers, rfl⟩ | ⟨target, headers, text, size, rfl, hlookup, hdigits, hvalue⟩
        · cases hpost
        · have hlength : rest.length = size := hsize
          refine ⟨text, hlookup, hdigits, ?_⟩
          rw [hbody, hlength]
          exact ⟨hvalue, size.2⟩

theorem Definite.readsAlike (h : Definite port s) : ReadsAlike port s := by
  refine ⟨fun cut cut' => by rw [h.readChunks_eq, h.readChunks_eq], fun cut hvalue => ?_, fun cut r hr => ?_⟩
  · rcases readHead_cut cut with ⟨head, body, socket', hread, hsplit, hlen⟩ | hread
    · rw [readChunks_of_head port hread] at hvalue
      cases hjudge : judgeHead port head with
      | error e =>
        rw [hjudge, Except.error_bind] at hvalue
        cases hvalue
        exact (h head _ hsplit hlen).1 hjudge
      | ok a =>
        have := h.readChunks_eq cut
        rw [readChunks_of_head port hread, hvalue, textResult, hsplit] at this
        dsimp only at this
        rw [if_neg (Nat.not_lt.mpr hlen), hjudge] at this
        dsimp only at this
        split_ifs at this
        cases this
    · rw [readChunks_of_error port hread] at hvalue
      have hstarved := Except.error.inj hvalue
      unfold starved at hstarved
      split_ifs at hstarved
  · rw [h.readChunks_eq] at hr
    exact whole_of_textResult hr

/-! ## Three cuts that tell texts apart -/

section Cuts

variable {head rest : Bytes}

theorem ne_nil_of_splitHead (h : splitHead s = some (head, rest)) : s ≠ [] := by
  rintro rfl
  cases h

theorem eq_of_splitHead (h : splitHead s = some (head, rest)) : s = head ++ BLANK_LINE ++ rest := by
  rw [splitHead_eq] at h
  exact Delimited.cut_eq h

/-- All at once. -/
def Cut.one (h : s ≠ []) : Cut s where
  chunks := [s]
  whole _ hc := List.mem_singleton.mp hc ▸ h
  text := List.flatten_singleton

theorem readHead_one (h : splitHead s = some (head, rest)) (hlen : head.length ≤ MAX_BROWSER_HEAD_BYTES) :
    ∃ body socket', readHead [] (answers [] (Cut.one (ne_nil_of_splitHead h)).socket) =
      .ok (head, body, bodyAnswers socket') ∧ rest = body ++ socket'.left := by
  have hcurrent : (Cut.one (ne_nil_of_splitHead h)).socket.refill = ⟨s, [], fun _ hq => absurd hq List.not_mem_nil⟩ := rfl
  obtain ⟨body, socket', hread, hrest, hcoming⟩ := readHead_record [] (Cut.one (ne_nil_of_splitHead h)).socket
    (by rw [hcurrent, List.nil_append]; exact h) hlen (dvd_zero _)
  refine ⟨body, socket', hread, ?_⟩
  rw [Source.left, hcoming, hcurrent, List.flatten_nil, List.append_nil]
  exact hrest

/-- The head, and then the rest. -/
def Cut.two (h : splitHead s = some (head, rest)) (hrest : rest ≠ []) : Cut s where
  chunks := [head ++ BLANK_LINE, rest]
  whole c hc := by
    rcases List.mem_cons.mp hc with rfl | hc
    · simp
    · exact List.mem_singleton.mp hc ▸ hrest
  text := by
    rw [eq_of_splitHead h]
    simp

theorem splitHead_head (h : splitHead s = some (head, rest)) : splitHead (head ++ BLANK_LINE) = some (head, []) := by
  rw [eq_of_splitHead h] at h
  cases hhead : splitHead (head ++ BLANK_LINE) with
  | none =>
    have := short_of_splitHead h hhead
    rw [List.length_append] at this
    exact absurd this (Nat.lt_irrefl _)
  | some p =>
    obtain ⟨head', body⟩ := p
    rw [splitHead_append hhead] at h
    obtain ⟨rfl, hbody⟩ := Prod.mk.inj (Option.some.inj h)
    have := congrArg List.length hbody
    rw [List.length_append] at this
    rw [List.length_eq_zero_iff.mp (show body.length = 0 by omega)]

theorem readHead_two (h : splitHead s = some (head, rest)) (hrest : rest ≠ [])
    (hlen : head.length ≤ MAX_BROWSER_HEAD_BYTES) :
    ∃ socket', readHead [] (answers [] (Cut.two h hrest).socket) = .ok (head, [], bodyAnswers socket') ∧
      socket'.left = rest := by
  have hcurrent : (Cut.two h hrest).socket.refill.current = head ++ BLANK_LINE := rfl
  have hcoming : (Cut.two h hrest).socket.refill.coming = [rest] := rfl
  obtain ⟨body, socket', hread, hempty, hlater⟩ := readHead_record [] (Cut.two h hrest).socket
    (by rw [hcurrent, List.nil_append]; exact splitHead_head h) hlen (dvd_zero _)
  obtain ⟨rfl, hused⟩ := List.append_eq_nil_iff.mp hempty.symm
  refine ⟨socket', hread, ?_⟩
  rw [Source.left, hused, hlater, hcoming, List.nil_append, List.flatten_singleton]

theorem Cut.beyond_whole (h : 8193 < s.length) :
    ∀ c ∈ [s.take 4096, (s.drop 4096).take 4096, (s.drop 8192).take 1, s.drop 8193], c ≠ [] := by
  intro c hc
  simp only [List.mem_cons, List.not_mem_nil, or_false] at hc
  rintro rfl
  rcases hc with hc | hc | hc | hc <;>
  · have := congrArg List.length hc
    simp only [List.length_nil, List.length_take, List.length_drop] at this
    omega

theorem Cut.beyond_text (s : Bytes) :
    [s.take 4096, (s.drop 4096).take 4096, (s.drop 8192).take 1, s.drop 8193].flatten = s := by
  have hone : (s.drop 8192).take 1 ++ s.drop 8193 = s.drop 8192 := by
    have := List.take_append_drop 1 (s.drop 8192)
    rwa [List.drop_drop] at this
  have htwo : (s.drop 4096).take 4096 ++ s.drop 8192 = s.drop 4096 := by
    have := List.take_append_drop 4096 (s.drop 4096)
    rwa [List.drop_drop] at this
  rw [List.flatten_cons, List.flatten_cons, List.flatten_cons, List.flatten_singleton, hone, htwo,
    List.take_append_drop]

/-- Two full reads, one byte, and the rest. -/
def Cut.beyond (h : 8193 < s.length) : Cut s where
  chunks := [s.take 4096, (s.drop 4096).take 4096, (s.drop 8192).take 1, s.drop 8193]
  whole := Cut.beyond_whole h
  text := Cut.beyond_text s

theorem readHead_cut_beyond (h : splitHead s = some (head, rest)) (hlen : 8190 ≤ head.length) (hs : 8193 < s.length) :
    readHead [] (answers [] (Cut.beyond hs).socket) = .error .requestInvalid := by
  refine readHead_beyond ?_ ?_ ?_ ?_
  · rw [List.length_take]
    omega
  · rw [List.length_take, List.length_drop]
    omega
  · rw [List.length_take, List.length_drop]
    omega
  · cases hsplit : splitHead (s.take 4096 ++ (s.drop 4096).take 4096 ++ (s.drop 8192).take 1) with
    | none => rfl
    | some p =>
      obtain ⟨head', body⟩ := p
      have hall := splitHead_append hsplit (s.drop 8193)
      have htext := (Cut.beyond hs).text
      simp only [Cut.beyond, List.flatten_cons, List.flatten_nil, List.append_nil] at htext
      rw [List.append_assoc, List.append_assoc, htext, h] at hall
      obtain ⟨rfl, -⟩ := Prod.mk.inj (Option.some.inj hall)
      have := length_of_splitHead hsplit
      simp only [List.length_append, List.length_take, List.length_drop] at this
      omega

end Cuts

theorem ReadsAlike.definite (h : ReadsAlike port s) : Definite port s := by
  intro head rest hsplit hlen
  obtain ⟨body, socket', hread, hrest⟩ := readHead_one hsplit hlen
  refine ⟨fun hvalue => ?_, fun a hjudge => ?_⟩
  · refine h.raises (Cut.one (ne_nil_of_splitHead hsplit)) ?_
    rw [readChunks_of_head port hread, hvalue]
    rfl
  · rcases Nat.lt_trichotomy rest.length a.size with hlt | heq | hgt
    · exact .inl hlt
    · refine .inr ⟨heq, ?_⟩
      by_contra hlong
      have hmax : MAX_BROWSER_HEAD_BYTES = 8192 := rfl
      have hs : 8193 < s.length := by
        rw [length_of_splitHead hsplit]
        omega
      have hsame := h.same (Cut.one (ne_nil_of_splitHead hsplit)) (Cut.beyond hs)
      have hlengths := congrArg List.length hrest
      rw [List.length_append] at hlengths
      obtain ⟨hsize, hfinish⟩ := finish_eq a body socket' (by omega) (by omega)
      rw [readChunks_of_head port hread, hjudge, Except.ok_bind, hfinish,
        readChunks_of_error port (readHead_cut_beyond hsplit (by omega) hs)] at hsame
      cases hsame
    · -- the rest comes in a chunk of its own, and only some of it is asked for
      exfalso
      have hne : rest ≠ [] := List.ne_nil_of_length_pos (Nat.zero_lt_of_lt hgt)
      obtain ⟨socket'', hread', hleft⟩ := readHead_two hsplit hne hlen
      obtain ⟨hsize, hfinish⟩ := finish_eq a [] socket'' (Nat.zero_le _) (by
        rw [hleft, List.length_nil]
        omega)
      have hok := readChunks_of_head port hread'
      rw [hjudge, Except.ok_bind, hfinish] at hok
      obtain ⟨head', hsplit', -⟩ := (h.whole _ _ hok).text
      rw [hsplit, Awaited.body_request hsize] at hsplit'
      have hrest' := (Prod.mk.inj (Option.some.inj hsplit')).2
      rw [hrest', hsize] at hgt
      exact Nat.lt_irrefl _ hgt

/-- **A text is read alike from any chunks** exactly when it is definite. -/
theorem readsAlike_iff (port : Nat) (s : Bytes) : ReadsAlike port s ↔ Definite port s :=
  ⟨ReadsAlike.definite, Definite.readsAlike⟩

/-- A page that is asked for, and one byte more. -/
def followedPage : Bytes := utf8 "GET / HTTP/1.1\r\nHost: localhost\r\n\r\nX"

/-- The byte is refused with the head, and not looked at when it comes later. -/
theorem followedPage_unlike : ¬ ReadsAlike 8443 followedPage := by
  intro h
  have hsplit : splitHead followedPage = some (utf8 "GET / HTTP/1.1\r\nHost: localhost", [88]) := by decide
  have hjudge : judgeHead 8443 (utf8 "GET / HTTP/1.1\r\nHost: localhost") = .ok (.get "/" [("host", "localhost")]) := by rfl
  rcases (h.definite _ _ hsplit (by decide)).2 _ hjudge with hshort | ⟨hsize, -⟩
  · exact absurd hshort (by decide)
  · exact absurd hsize (by decide)

end ThreatFusion.Browser
