import XnetSocket.Inbound
import XnetSocket.Lifecycle

/-!
The end of the stream.

A read that finds the peer gone is meant to end the interest in reading. What `read` looks at,
though, is not how much came but how much the input buffer stores, which includes what has
long been handed to the handler; so the end is noticed on a connection that has never received
anything, and on no other.
-/

namespace XnetSocket.EndOfStream

open Buffer Runs Connection Inbound Lifecycle

variable {H : Type}

/-- The connection has noticed the end: it no longer wants to read, and it is disconnected
unless output is pending. -/
def EndNoticed (c c' : Connection (Recorded H)) : Prop :=
  c'.events.is_readable = false ∧
    if c.events.is_writable then c'.events = c.events.remove readable
    else c'.events = .empty ∧ closes c'.handler.calls = closes c.handler.calls + 1

section Reads

variable [Growth]

/-- Filling the buffer at the end of the stream: nothing comes, and what is stored is
reported. -/
lemma buffer_in_eof (c : Connection H) (rest : List (Except IoError Bytes)) :
    ∃ sock buf, (c.with_reads (.ok [] :: rest)).buffer_in =
        .ok ({ c with socket := sock, in_buffer := { c.in_buffer with inner := buf } },
          .ok (some c.in_buffer.inner.data.length)) ∧
      buf.data = c.in_buffer.inner.data := by
  obtain ⟨s', buf', hg⟩ := got_of_reads (s := (c.with_reads (.ok [] :: rest)).socket) rfl
    c.in_buffer.inner
  rw [List.take_nil] at hg
  have hdata : buf'.data = c.in_buffer.inner.data := by
    have := hg.data
    rwa [List.append_nil] at this
  refine ⟨s', buf', ?_, hdata⟩
  have heq : (c.with_reads (.ok [] :: rest)).socket.try_read_buf
      (c.with_reads (.ok [] :: rest)).in_buffer.inner = (s', buf', .ok (some 0)) := hg.eq
  simp only [buffer_in, buffer_in_loop, heq, if_true, Cursor.get_ref, Vec.len, hdata]
  rfl

/-- The calls leave what is stored empty exactly as long as nothing was received. -/
def Stored (c : Connection H) : Prop :=
  c.in_buffer.InBounds ∧ (c.in_buffer.inner.data = [] ↔ c.socket.received = [])

omit [Growth] in
lemma Stored.of_eq {c c' : Connection H} (h : Stored c) (hb : c'.in_buffer = c.in_buffer)
    (hl : c'.socket.log = c.socket.log) : Stored c' := by
  unfold Stored at h ⊢
  rw [hb, TcpStream.received, hl]
  exact h

lemma buffer_in_stored {c c' : Connection H} {res : Result (Option ℕ)} (hc : Stored c)
    (h : c.buffer_in = .ok (c', res)) : Stored c' := by
  obtain ⟨d, r, new, hd, hfill⟩ := buffer_in_spec hc.1
  rw [hd] at h
  cases h
  refine ⟨hfill.inBounds, ?_⟩
  rw [received_eq, hfill.log, bytesOf_append, List.append_eq_nil_iff, ← received_eq, ← hc.2]
  constructor
  · intro h0
    have hb : c'.in_buffer.bytes = [] := by simp [Cursor.bytes, h0]
    rw [hfill.bytes, List.append_eq_nil_iff] at hb
    exact ⟨by rw [← hfill.keep hb.2, h0], hb.2⟩
  · rintro ⟨h0, hn⟩
    rw [hfill.keep hn, h0]

variable [Handler H]

omit [Growth] in
lemma read_data_stored {c : Connection H} (hc : Stored c) : Stored c.read_data.1 := by
  have hin := Cursor.read_to_end_inBounds hc.1
  unfold read_data
  dsimp only
  split <;> exact ⟨hin, hc.2⟩

lemma read_stored {c c' : Connection H} {res : Result Unit} (hc : Stored c)
    (h : c.read = .ok (c', res)) : Stored c' := by
  rcases read_ok h with ⟨rfl, -⟩ | ⟨d, r, hb, hf⟩
  · exact hc
  have hd := buffer_in_stored hc hb
  have hdata : ∀ {e res}, d.read_data = (e, res) → Stored e := fun hx => by
    have := read_data_stored hd
    rwa [hx] at this
  cases hf with
  | failed => exact hd
  | blocked => exact hd
  | refused hx => exact hdata hx
  | handed hx => exact hdata hx
  | half_closed hx => exact (hdata hx).of_eq rfl rfl
  | closed hx =>
    have hcalm := disconnect_calm (H := H)
    exact (hdata hx).of_eq (hcalm _).in_buffer (by rw [(hcalm _).socket])

omit [Handler H] in
lemma write_input (c : Connection H) :
    c.write.1.in_buffer = c.in_buffer ∧ c.write.1.socket.log = c.socket.log := by
  have hlog : (c.socket.try_write_buf c.out_buffer).1.log = c.socket.log := by
    unfold TcpStream.try_write_buf TcpStream.write
    dsimp only
    split <;> split <;> simp_all
  unfold Connection.write
  split
  · exact ⟨rfl, rfl⟩
  · split
    · exact ⟨rfl, rfl⟩
    · dsimp only
      rcases ht : c.socket.try_write_buf c.out_buffer with ⟨sock, out, err | len⟩
      · rw [ht] at hlog; exact ⟨rfl, hlog⟩
      · rw [ht] at hlog
        have hcalm : ∀ d : Connection H, d.check_events.in_buffer = d.in_buffer ∧
            d.check_events.socket.log = d.socket.log :=
          fun d => ⟨(check_events_calm d).in_buffer, by rw [(check_events_calm d).socket]⟩
        dsimp only
        split
        · split
          · exact ⟨rfl, hlog⟩
          · exact ⟨(hcalm _).1, (hcalm _).2.trans hlog⟩
        · exact ⟨(hcalm _).1, (hcalm _).2.trans hlog⟩

/-- Only a read changes the input side. -/
lemma perform_input {c c' : Connection H} {call : Call} {res : Result Unit}
    (hread : ∀ reads, call ≠ .read reads) (h : c.perform call = .ok (c', res)) :
    c'.in_buffer = c.in_buffer ∧ c'.socket.log = c.socket.log := by
  have hcalm : ∀ {d : Connection H}, Calm c d →
      d.in_buffer = c.in_buffer ∧ d.socket.log = c.socket.log :=
    fun hd => ⟨hd.in_buffer, by rw [hd.socket]⟩
  cases call with
  | as_server => cases h; exact ⟨rfl, rfl⟩
  | as_client url addrs =>
    simp only [perform, as_client] at h
    split at h <;> cases h <;> exact ⟨rfl, rfl⟩
  | send_message msg =>
    obtain ⟨out, rfl | rfl⟩ := send_message_frame h
    · exact ⟨rfl, rfl⟩
    · have hd := check_events_calm ({ c with out_buffer := out } : Connection H)
      exact ⟨hd.in_buffer, by rw [hd.socket]⟩
  | send_close code reason =>
    have hs : c.send_close code reason = .ok (c', res) := h
    exact hcalm (send_close_calm hs)
  | error err =>
    obtain ⟨d, hd, h⟩ := bind_eq_ok.mp h
    cases h
    exact hcalm (error_calm hd)
  | read reads => exact absurd rfl (hread reads)
  | write answer =>
    obtain ⟨hb, hl⟩ := write_input (c.with_writes [answer])
    simp only [perform, Except.ok.injEq] at h
    rw [h] at hb hl
    exact ⟨hb, hl⟩
  | shutdown =>
    obtain ⟨d, hd, h⟩ := bind_eq_ok.mp h
    cases h
    exact hcalm (shutdown_calm hd)
  | disconnect => cases h; exact hcalm (disconnect_calm c)
  | new_timeout event timeout => cases h; exact ⟨rfl, rfl⟩
  | timeout_triggered event => cases h; exact ⟨rfl, rfl⟩

lemma call_stored {c c' : Connection H} {call : Call} (hc : Stored c)
    (h : c.call call = .ok c') : Stored c' := by
  obtain ⟨⟨d, res⟩, hp, h⟩ := bind_eq_ok.mp h
  cases h
  by_cases hread : ∃ reads, call = .read reads
  · obtain ⟨reads, rfl⟩ := hread
    exact read_stored (c := c.with_reads reads) hc hp
  · obtain ⟨hb, hl⟩ := perform_input (fun reads hr => hread ⟨reads, hr⟩) hp
    exact hc.of_eq hb hl

omit [Growth] in
/-- What `read_data` does to the interest and the record. -/
lemma read_data_quiet (c : Connection (Recorded H)) :
    c.read_data.1.events = c.events ∧
      closes c.read_data.1.handler.calls = closes c.handler.calls := by
  unfold read_data
  dsimp only
  split
  · exact ⟨rfl, rfl⟩
  · exact ⟨rfl, by rw [Recorded.calls_on_message, closes_append]; rfl⟩

omit [Growth] in
/-- With nothing unread the handler gets the empty text. -/
lemma read_data_empty {c : Connection (Recorded H)} (hb : c.in_buffer.bytes = [])
    (hok : ∀ msg, (Handler.on_message c.handler.inner msg).2 = .ok ()) :
    c.read_data.2 = .ok () := by
  obtain ⟨text, ht, -⟩ := from_utf8_valid Utf8.valid_nil
  have hr : c.in_buffer.read_to_end.2 = [] := hb
  simp only [read_data, hr, ht]
  exact hok _

/-- The end of the stream is noticed exactly when the input buffer stores nothing, or when the
connection had stopped reading before. -/
lemma read_eof_noticed {c : Connection (Recorded H)} (hc : Opened c)
    (hok : ∀ msg, (Handler.on_message c.handler.inner msg).2 = .ok ())
    (rest : List (Except IoError Bytes)) :
    ∃ c' res, (c.with_reads (.ok [] :: rest)).read = .ok (c', res) ∧
      (EndNoticed c c' ↔ c.in_buffer.inner.data = [] ∨
        c.events.is_writable = true ∧ c.events.is_readable = false) := by
  obtain ⟨sock, buf, hb, hdata⟩ := buffer_in_eof c rest
  set d : Connection (Recorded H) :=
    { c with socket := sock, in_buffer := { c.in_buffer with inner := buf } } with hd
  obtain ⟨c', res, hread, hf⟩ :=
    read_finish (c := c.with_reads (.ok [] :: rest)) hc.not_connecting hb
  refine ⟨c', res, hread, ?_⟩
  obtain ⟨hqe, hqc⟩ := read_data_quiet d
  have hst : d.read_data.1.state = c.state := read_data_state d
  have hmissed : c.in_buffer.inner.data ≠ [] → c'.events = c.events →
      closes c'.handler.calls = closes c.handler.calls →
      (EndNoticed c c' ↔ c.in_buffer.inner.data = [] ∨
        c.events.is_writable = true ∧ c.events.is_readable = false) := by
    intro hne he hcl
    unfold EndNoticed
    rw [he, hcl]
    constructor
    · rintro ⟨hr, hw⟩
      split at hw
      · exact Or.inr ⟨by assumption, hr⟩
      · omega
    · rintro (h0 | ⟨hw, hr⟩)
      · exact absurd h0 hne
      · refine ⟨hr, ?_⟩
        rw [if_pos hw]
        cases hev : c.events
        simp_all [Ready.remove, Ready.is_readable, Ready.is_writable, readable]
  generalize hlen : c.in_buffer.inner.data.length = len at hf
  cases hf with
  | @refused _ e err hx =>
    rw [hx] at hqe hqc
    refine hmissed (fun h0 => ?_) hqe hqc
    have hempty : d.in_buffer.bytes = [] := by simp [hd, Cursor.bytes, hdata, h0]
    have := read_data_empty hempty hok
    rw [hx] at this
    cases this
  | @handed _ e hx hne =>
    rw [hx] at hqe hqc
    exact hmissed (fun h0 => hne (by rw [← hlen, h0]; rfl)) hqe hqc
  | @half_closed e hx hw =>
    rw [hx] at hqe
    refine iff_of_true ⟨?_, ?_⟩ (Or.inl (List.length_eq_zero_iff.mp hlen))
    · simp [Ready.remove, Ready.is_readable, readable]
    · rw [if_pos (by rw [← hw]; exact congrArg Ready.is_writable hqe.symm)]
      exact congrArg (Ready.remove · readable) hqe
  | @closed e hx hw =>
    rw [hx] at hqe hqc hst
    dsimp only at hqc hst
    have hdis : e.disconnect.events = .empty ∧
        closes e.disconnect.handler.calls = closes c.handler.calls + 1 := by
      rcases hc with hs | hs <;> simp [disconnect, hst.trans hs, hqc, hd]
    refine iff_of_true ⟨by rw [hdis.1]; rfl, ?_⟩ (Or.inl (List.length_eq_zero_iff.mp hlen))
    rw [if_neg (by
      rw [show c.events.is_writable = false from hw ▸ congrArg Ready.is_writable hqe.symm]; simp)]
    exact hdis

/-- **When the end of the stream is noticed.** After any calls on an opened connection, a read
that finds the peer gone ends the interest in reading exactly when the connection has never
received a byte, or had stopped reading before. -/
theorem end_noticed_iff (tok : Token) (handler : H) (settings : Settings) (id : UInt32)
    (calls : List Call) {c : Connection (Recorded H)}
    (h : run call (opened tok ⟨handler, 0, []⟩ settings id) calls = .ok c)
    (hok : ∀ msg, (Handler.on_message c.handler.inner msg).2 = .ok ())
    (rest : List (Except IoError Bytes)) :
    ∃ c' res, (c.with_reads (.ok [] :: rest)).read = .ok (c', res) ∧
      (EndNoticed c c' ↔ c.socket.received = [] ∨
        c.events.is_writable = true ∧ c.events.is_readable = false) := by
  have hs : Opened c ∧ Stored c := by
    refine run_inv_true (I := fun c => Opened c ∧ Stored c)
      (fun c call c' hc hcall => ⟨call_opened hc.1 hcall, call_stored hc.2 hcall⟩) ?_ h
    exact ⟨open_opened _, Nat.zero_le _, Iff.intro (fun _ => rfl) fun _ => rfl⟩
  obtain ⟨c', res, hread, hiff⟩ := read_eof_noticed hs.1 hok rest
  exact ⟨c', res, hread, by rw [hiff, hs.2.2]⟩

end Reads

/-- The peer sends one byte and closes: the end of the stream is missed. -/
theorem end_missed_after_a_byte :
    ∃ c c' : Connection (Recorded (Message → Result Unit)),
      run (@call _ _ amortized) (opened 3 ⟨fun _ => .ok (), 0, []⟩ {} 7)
        [.as_server, .read [.ok [65]]] = .ok c ∧
      @Connection.read _ _ amortized (c.with_reads [.ok []]) = .ok (c', .ok ()) ∧
      ¬ EndNoticed c c' := by
  have hok : Returns (run (@call (Recorded (Message → Result Unit)) _ amortized)
      (opened 3 ⟨fun _ => .ok (), 0, []⟩ {} 7) [.as_server, .read [.ok [65]]]) fun c =>
        Returns (@Connection.read _ _ amortized (c.with_reads [.ok []])) fun p =>
          p.2.isOk ∧ p.1.events.is_readable := by decide +kernel
  obtain ⟨c, hc, ⟨c', res⟩, hread, hres, hreadable⟩ := hok
  obtain ⟨u, rfl⟩ := exists_of_isOk hres
  exact ⟨c, c', hc, hread, fun h => by rw [h.1] at hreadable; cases hreadable⟩

/-- The peer closes without sending anything: the end of the stream is noticed. -/
theorem end_noticed_iff_silent :
    ∃ c c' : Connection (Recorded (Message → Result Unit)), ∃ res,
      run (@call _ _ amortized) (opened 3 ⟨fun _ => .ok (), 0, []⟩ {} 7) [.as_server] = .ok c ∧
      @Connection.read _ _ amortized (c.with_reads [.ok []]) = .ok (c', res) ∧
      EndNoticed c c' := by
  have hc : run (@call (Recorded (Message → Result Unit)) _ amortized)
      (opened 3 ⟨fun _ => .ok (), 0, []⟩ {} 7) [.as_server] =
        .ok (opened 3 ⟨fun _ => .ok (), 0, []⟩ {} 7).as_server.1 := rfl
  obtain ⟨c', res, hread, hiff⟩ :=
    @end_noticed_iff (Message → Result Unit) amortized _ 3 (fun _ => .ok ()) {} 7 [.as_server] _ hc
      (fun _ => rfl) []
  exact ⟨_, c', res, hc, hread, hiff.mpr (Or.inl rfl)⟩

end XnetSocket.EndOfStream
