import ThreatFusion.Analyst.TlsRequest
/-
# Requests read from records (`api/analyst_tls_service.py`:153-239)

A read never crosses the end of a record, so the reader passes every end of a record on its way. It
stops where the head and the body are whole, and asks whether the record at hand is used up. What it
reads is therefore what `IsRequest` says, up to the end of a record (`request_read`). Bytes in a later
record are not looked at (`followed_request_accepted`).
-/
namespace ThreatFusion.AnalystTls
open Py Delimited Records

/-! ## Receiving -/

/-- The head that is in the buffer, or is ahead, is read, with no byte beyond what is ahead. -/
theorem readHead_ahead {raw total : Bytes} (hraw : raw.length + 4 ≤ MAX_HEAD_BYTES) : ∀ {n : Nat} {buffer d : Bytes}
    {socket : Source UInt8}, d.length ≤ n → socket.Ahead d → cut (CRLF ++ CRLF) (buffer ++ d) = some (raw, total) →
    ∃ body socket' d', readHead buffer socket = .ok (raw, body, socket') ∧ total = body ++ d' ∧ socket'.Ahead d' := by
  intro n
  induction n with
  | zero =>
    intro buffer d socket hd hahead hcut
    obtain rfl := List.length_eq_zero_iff.mp (Nat.le_zero.mp hd)
    rw [List.append_nil] at hcut
    refine ⟨total, socket, [], ?_, by simp, hahead⟩
    unfold readHead
    rw [hcut]
  | succ n ih =>
    intro buffer d socket hd hahead hcut
    cases hb : cut (CRLF ++ CRLF) buffer with
    | some p =>
      have := cut_append hb d
      rw [hcut] at this
      obtain ⟨rfl, rfl⟩ := Prod.mk.inj (Option.some.inj this)
      refine ⟨p.2, socket, d, ?_, rfl, hahead⟩
      unfold readHead
      rw [hb]
    | none =>
      have hne : d ≠ [] := by
        rintro rfl
        rw [List.append_nil, hb] at hcut
        cases hcut
      -- the buffer ends inside the head: it has no blank line
      have hshort : buffer.length < raw.length + 4 := by
        by_contra hlong
        have hprefix : raw ++ (CRLF ++ CRLF) <+: buffer :=
          List.prefix_of_prefix_length_le (cut_eq hcut ▸ List.prefix_append ..) (List.prefix_append buffer d)
            (by rw [List.length_append]; exact Nat.le_of_not_lt hlong)
        obtain ⟨rest, hrest⟩ := hprefix
        exact cut_eq_none_iff.mp hb ⟨raw, rest, hrest⟩
      obtain ⟨chunk, socket', d', hrecv, rfl, hahead'⟩ :=
        Source.recv_ahead (n := min 4096 (MAX_HEAD_BYTES + 4 - buffer.length)) hahead hne
      have hchunk := List.length_pos_of_ne_nil (Source.recv_ne_nil (by omega) hrecv)
      rw [← List.append_assoc] at hcut
      rw [List.length_append] at hd
      obtain ⟨body, socket'', d'', hread, htotal, hend⟩ := ih (by omega) hahead' hcut
      refine ⟨body, socket'', d'', ?_, htotal, hend⟩
      unfold readHead
      rw [hb]
      simp only
      rw [dif_neg (by omega), hrecv]
      exact hread

/-- The rest of the body is ahead: it is read, and the record it ends is used up. -/
theorem readBody_ahead {size : Nat} : ∀ {n : Nat} {body d : Bytes} {socket : Source UInt8}, d.length ≤ n →
    socket.Ahead d → (body ++ d).length = size →
    ∃ socket', readBody size body socket = .ok (body ++ d, socket') ∧ socket'.current = [] := by
  intro n
  induction n with
  | zero =>
    intro body d socket hd hahead hsize
    obtain rfl := List.length_eq_zero_iff.mp (Nat.le_zero.mp hd)
    rw [List.append_nil] at hsize ⊢
    refine ⟨socket, ?_, Source.ahead_nil_iff.mp hahead⟩
    unfold readBody
    rw [if_neg (by omega), dif_neg (by omega)]
  | succ n ih =>
    intro body d socket hd hahead hsize
    by_cases hne : d = []
    · subst hne
      exact ih (by simp) hahead hsize
    · have hpos := List.length_pos_of_ne_nil hne
      rw [List.length_append] at hsize
      obtain ⟨chunk, socket', d', hrecv, rfl, hahead'⟩ :=
        Source.recv_ahead (n := min 4096 (size - body.length + 1)) hahead hne
      have hchunk := List.length_pos_of_ne_nil (Source.recv_ne_nil (by omega) hrecv)
      rw [List.length_append] at hd hsize
      have hsize' : ((body ++ chunk) ++ d').length = size := by
        rw [List.append_assoc, List.length_append, List.length_append]
        omega
      obtain ⟨socket'', hread, hend⟩ := ih (by omega) hahead' hsize'
      refine ⟨socket'', ?_, hend⟩
      unfold readBody
      rw [if_neg (by omega), dif_pos (by omega), hrecv, ← List.append_assoc]
      exact hread

/-- What a read of the head took, and how it can end. -/
theorem readHead_ends (buffer : Bytes) (socket : Source UInt8) :
    (readHead buffer socket).Ends
      (fun r => ∃ c, cut (CRLF ++ CRLF) (buffer ++ c) = some (r.1, r.2.1) ∧ socket.left = c ++ r.2.2.left ∧
        ∀ d, r.2.2.Ahead d → socket.Ahead (c ++ d))
      (fun e => ∃ code, e = .analystTls code ∧ (buffer ++ socket.left = [] ↔ code = .connectionIdle)) := by
  fun_induction readHead buffer socket with
  | case1 buffer socket raw body hcut => exact ⟨[], by rw [List.append_nil, hcut], rfl, fun d hd => hd⟩
  | case2 buffer socket hcut hlen =>
    refine ⟨_, rfl, iff_of_false (fun h => ?_) (by decide)⟩
    rw [(List.append_eq_nil_iff.mp h).1] at hlen
    exact absurd hlen (Nat.not_lt_zero _)
  | case3 buffer socket hcut hlen hrecv =>
    have hleft := Source.recv_eq_none hrecv
    by_cases hb : buffer.isEmpty
    · refine ⟨.connectionIdle, if_pos hb, iff_of_true ?_ rfl⟩
      rw [List.isEmpty_iff.mp hb, hleft]
      rfl
    · refine ⟨.requestInvalid, if_neg hb, iff_of_false (fun h => hb ?_) (by decide)⟩
      exact List.isEmpty_iff.mpr (List.append_eq_nil_iff.mp h).1
  | case4 buffer socket hcut hlen chunk socket' hrecv ih =>
    refine ih.mono ?_ ?_
    · rintro r ⟨c, hc, hleft, hahead⟩
      refine ⟨chunk ++ c, by rwa [← List.append_assoc], ?_, fun d hd => ?_⟩
      · rw [Source.recv_left hrecv, hleft, List.append_assoc]
      rw [List.append_assoc]
      exact Source.ahead_recv hrecv (hahead d hd)
    · rintro e ⟨code, rfl, hcode⟩
      exact ⟨code, rfl, by rwa [Source.recv_left hrecv, ← List.append_assoc]⟩

theorem readBody_ends (size : Nat) (body : Bytes) (socket : Source UInt8) :
    (readBody size body socket).Ends
      (fun r => ∃ c, r.1 = body ++ c ∧ r.1.length = size ∧ ∀ d, r.2.Ahead d → socket.Ahead (c ++ d))
      (fun e => e = invalid) := by
  fun_induction readBody size body socket with
  | case1 body socket hlong => exact rfl
  | case2 body socket hlong hlen hrecv => exact rfl
  | case3 body socket hlong hlen chunk socket' hrecv ih =>
    refine ih.mono ?_ fun e he => he
    rintro r ⟨c, hc, hsize, hahead⟩
    refine ⟨chunk ++ c, by rw [hc, List.append_assoc], hsize, fun d hd => ?_⟩
    rw [List.append_assoc]
    exact Source.ahead_recv hrecv (hahead d hd)
  | case4 body socket hlong hlen => exact ⟨[], by simp, by simp; omega, fun d hd => hd⟩

/-- A request that is ahead to the end of a record is read. -/
theorem readRequest_ahead {method target : String} {body s : Bytes} (h : IsRequest method target body s)
    {socket : Source UInt8} (hs : socket.Ahead s) : readRequest socket = .ok (method, target, body) := by
  obtain ⟨raw, hlen, hhead, rfl⟩ := isRequest_iff.mp h
  have hcut : cut (CRLF ++ CRLF) ([] ++ (raw ++ (CRLF ++ CRLF) ++ body)) = some (raw, body) := hhead.cut body
  obtain ⟨first, socket', d, hread, rfl, hahead⟩ := readHead_ahead hlen le_rfl hs hcut
  have hsize : (first ++ d).length = (first ++ d).length := rfl
  obtain ⟨socket'', hbody, hend⟩ := readBody_ahead le_rfl hahead hsize
  simp only [readRequest, Except.bind_eq_ok]
  refine ⟨_, hread, _, checkHead_ok.mpr ⟨hlen, hhead⟩, _, hbody, ?_⟩
  rw [if_neg (not_not.mpr hend)]

/-- What is read is a request, up to the end of a record. -/
theorem ahead_readRequest {method target : String} {body : Bytes} {socket : Source UInt8}
    (h : readRequest socket = .ok (method, target, body)) : ∃ s, socket.Ahead s ∧ IsRequest method target body s := by
  simp only [readRequest, Except.bind_eq_ok] at h
  obtain ⟨⟨raw, first, socket'⟩, hhead, ⟨m, t, size⟩, hcheck, ⟨whole, socket''⟩, hbody, hend⟩ := h
  split_ifs at hend with hcurrent
  obtain ⟨rfl, rfl, rfl⟩ : m = method ∧ t = target ∧ whole = body := by simpa using hend
  have hends := readHead_ends [] socket
  rw [hhead] at hends
  obtain ⟨c, hcut, -, hahead⟩ := hends
  have hends' := readBody_ends size first socket'
  rw [hbody] at hends'
  obtain ⟨c', rfl, hsize, hahead'⟩ := hends'
  obtain ⟨hlen, hok⟩ := checkHead_ok.mp hcheck
  refine ⟨c ++ c', hahead _ ?_, isRequest_iff.mpr ⟨raw, hlen, ?_, ?_⟩⟩
  · simpa using hahead' [] (Source.ahead_nil (not_not.mp hcurrent))
  · rwa [hsize]
  · have := cut_eq hcut
    rw [List.nil_append] at this
    rw [this, List.append_assoc]

/-- What is refused is refused with `AnalystTlsError`. -/
theorem readRequest_error {e : Raised} {socket : Source UInt8} (h : readRequest socket = .error e) :
    e = .analystTls (if socket.left = [] then .connectionIdle else .requestInvalid) := by
  have hends := readHead_ends [] socket
  unfold readRequest at h
  cases hhead : readHead [] socket with
  | error e' =>
    rw [hhead] at hends h
    obtain ⟨code, rfl, hcode⟩ := hends
    rw [← Except.error.inj h]
    by_cases hleft : socket.left = []
    · rw [if_pos hleft, hcode.mp (by rw [hleft]; rfl)]
    · rw [if_neg hleft]
      cases code with
      | connectionIdle => exact absurd (hcode.mpr rfl) (by simpa using hleft)
      | requestInvalid => rfl
  | ok r =>
    rw [hhead] at hends h
    -- a blank line was received
    have hleft : socket.left ≠ [] := by
      obtain ⟨c, hcut, hleft, -⟩ := hends
      rw [List.nil_append] at hcut
      rw [hleft, cut_eq hcut]
      simp [CRLF]
    rw [if_neg hleft]
    change _ = invalid
    rw [Except.ok_bind] at h
    cases hcheck : checkHead r.1 with
    | error e' =>
      rw [hcheck] at h
      exact Except.error.inj h ▸ checkHead_error hcheck
    | ok request =>
      have hends' := readBody_ends request.2.2 r.2.1 r.2.2
      rw [hcheck, Except.ok_bind] at h
      cases hbody : readBody request.2.2 r.2.1 r.2.2 with
      | error e' =>
        rw [hbody] at h hends'
        exact Except.error.inj h ▸ hends'
      | ok rest =>
        rw [hbody, Except.ok_bind] at h
        split_ifs at h
        exact (Except.error.inj h).symm

/-! ## The reader -/

/-- The ways a socket splits what it brings: records that are not empty. -/
abbrev Split := {records : List Bytes // ∀ r ∈ records, r ≠ []}

def Split.socket (split : Split) : Source UInt8 := .ofRecords split.1 split.2

/-- **The reader accepts the requests of the grammar and no other text.** Of what a socket brings it takes
the records up to one that ends a request. So a request is read the same however it is split, and what has
no request before the end of a record is refused, with `AnalystTlsError` and nothing else. -/
theorem request_read (split : Split) :
    (∀ method target body, readRequest split.socket = .ok (method, target, body) ↔
      ∃ k, IsRequest method target body (split.1.take k).flatten) ∧
    (∀ method target body, IsRequest method target body split.1.flatten →
      readRequest split.socket = .ok (method, target, body)) ∧
    ((∀ k method target body, ¬ IsRequest method target body (split.1.take k).flatten) →
      readRequest split.socket =
        .error (.analystTls (if split.1.flatten = [] then .connectionIdle else .requestInvalid))) := by
  have hiff (method target : String) (body : Bytes) : readRequest split.socket = .ok (method, target, body) ↔
      ∃ k, IsRequest method target body (split.1.take k).flatten := by
    constructor
    · intro h
      obtain ⟨s, ⟨k, rfl⟩, hreq⟩ := ahead_readRequest h
      exact ⟨k, hreq⟩
    · rintro ⟨k, hreq⟩
      exact readRequest_ahead hreq ⟨k, rfl⟩
  refine ⟨hiff, fun method target body hreq => ?_, fun hnone => ?_⟩
  · rw [hiff]
    exact ⟨split.1.length, by rwa [List.take_length]⟩
  · cases h : readRequest split.socket with
    | error e => rw [readRequest_error h]; rfl
    | ok r =>
      obtain ⟨k, hreq⟩ := (hiff r.1 r.2.1 r.2.2).mp h
      exact absurd hreq (hnone k r.1 r.2.1 r.2.2)

def sampleHead : String :=
  "GET /v1/analyst/alerts HTTP/1.1\r\nHost: threatfusion-analyst-loopback\r\nConnection: close\r\n\r\n"

/-- A request and one byte more, in a record of its own. -/
def followed : Split := ⟨[utf8 sampleHead, [88]], by decide⟩

theorem sampleHead_isRequest : IsRequest "GET" "/v1/analyst/alerts" [] (utf8 sampleHead) where
  method_size := .inl ⟨rfl, rfl⟩
  target_ok := by decide
  text := ⟨[("Host", ANALYST_HOST), ("Connection", "close")], by decide, by decide, by decide⟩

/-- The byte after the request is never read: the text is not a request, and it is read as one. -/
theorem followed_request_accepted :
    readRequest followed.socket = .ok ("GET", "/v1/analyst/alerts", []) ∧
      ∀ method target body, ¬ IsRequest method target body followed.1.flatten := by
  refine ⟨readRequest_ahead sampleHead_isRequest ⟨1, rfl⟩, ?_⟩
  intro method target body h
  obtain ⟨raw, hlen, hhead, hs⟩ := isRequest_iff.mp h
  obtain ⟨raw', hlen', hhead', hs'⟩ := isRequest_iff.mp sampleHead_isRequest
  have hflat : followed.1.flatten = utf8 sampleHead ++ [88] := by simp [followed]
  have hcut := hhead.cut body
  rw [← hs, hflat, hs', cut_append (hhead'.cut []) [88]] at hcut
  obtain ⟨rfl, rfl⟩ := Prod.mk.inj (Option.some.inj hcut)
  have hsame := (checkHead_ok.mpr ⟨hlen, hhead⟩).symm.trans (checkHead_ok.mpr ⟨hlen', hhead'⟩)
  have hsize : ([88] : Bytes).length = ([] : Bytes).length := (Prod.mk.inj (Prod.mk.inj (Except.ok.inj hsame)).2).2
  exact absurd hsize (by decide)

end ThreatFusion.AnalystTls
