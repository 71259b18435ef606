import XnetSocket.Lib.Pipe
import XnetSocket.Frames

/-!
The output side of a connection is a pipe.

What the socket has taken has come out of the pipe, and the unwritten part of the output
buffer is still inside. Accepting a message puts its bytes in, a write lets some out, and
nothing else moves anything, whatever the buffer does to make room.
-/

namespace XnetSocket.Outbound

open Buffer Runs Connection

variable {H : Type}

/-- The output side of the connection. -/
def outbound (c : Connection H) : Pipe UInt8 := ⟨c.socket.sent, c.out_buffer.bytes⟩

/-- The bytes a call puts into the output: those of a message that was not refused, unless the
connection was closing. -/
def accepts (c : Connection H) : Call → Result Unit → Bytes
  | .send_message msg, .ok () => if c.state.is_closing then [] else msg.into_data
  | _, _ => []

/-! ### Sending -/

section Send

variable [Growth]

/-- Making room keeps the unwritten bytes, and fails only when growing is not allowed. -/
lemma check_buffer_out_spec {c : Connection H} (hc : c.out_buffer.InBounds) (frame : Bytes) :
    ∃ out res, c.check_buffer_out frame = .ok ({ c with out_buffer := out }, res) ∧
      out.InBounds ∧ out.bytes = c.out_buffer.bytes ∧
      (c.settings.out_buffer_grow = true → res = .ok ()) := by
  have hs : slice_from c.out_buffer.get_ref.data c.out_buffer.position =
      .ok c.out_buffer.bytes := if_pos hc
  unfold check_buffer_out
  split
  · rw [hs, ok_bind]
    dsimp only
    split
    · split
      · refine ⟨_, _, rfl, Cursor.new_inBounds _, ?_, fun _ => rfl⟩
        rw [Cursor.new_bytes, Vec.reserve_data]
        rfl
      · rename_i hg
        exact ⟨c.out_buffer, _, rfl, hc, rfl, fun h => absurd h hg⟩
    · exact ⟨_, _, rfl, Cursor.new_inBounds _, rfl, fun _ => rfl⟩
  · exact ⟨c.out_buffer, _, rfl, hc, rfl, fun _ => rfl⟩

/-- **What `send_message` does**: it appends the message behind the unwritten bytes, or leaves
them alone. -/
theorem send_message_spec {c : Connection H} (hc : c.out_buffer.InBounds) (msg : Message) :
    ∃ c' res, c.send_message msg = .ok (c', res) ∧ c'.out_buffer.InBounds ∧
      c'.socket = c.socket ∧
      c'.out_buffer.bytes = c.out_buffer.bytes ++ accepts c (.send_message msg) res ∧
      (c.settings.out_buffer_grow = true → res = .ok ()) := by
  unfold send_message
  split
  · rename_i hcl
    exact ⟨c, _, rfl, hc, rfl, by simp [accepts, hcl], fun _ => rfl⟩
  · rename_i hcl
    obtain ⟨out, res, hb, hin, hbytes, hgrow⟩ := check_buffer_out_spec hc msg.into_data
    dsimp only
    rw [hb, ok_bind]
    rcases res with err | u
    · exact ⟨_, _, rfl, hin, rfl, by simp [accepts, hbytes], hgrow⟩
    · dsimp only
      have hcalm := check_events_calm ({ c with
        out_buffer := (out.seek_end.write msg.into_data).seek_start out.position })
      refine ⟨_, _, rfl, ?_, hcalm.socket, ?_, fun _ => rfl⟩
      · rw [hcalm.out_buffer]
        exact Cursor.append_inBounds hin _
      · rw [hcalm.out_buffer]
        change ((out.seek_end.write msg.into_data).seek_start out.pos).bytes = _
        rw [Cursor.append_bytes hin, hbytes]
        simp [accepts, hcl]

end Send

/-! ### Writing -/

lemma map_non_block_error {α : Type} (err : IoError) :
    map_non_block (.error err : Except IoError α) = .ok none ∨
      map_non_block (.error err : Except IoError α) = .error err := by
  simp only [map_non_block]
  split
  · exact Or.inl rfl
  · exact Or.inr rfl

lemma tcp_write_error {s t : TcpStream} {bytes : Bytes} {err : IoError}
    (h : s.write bytes = (t, .error err)) : t.sent = s.sent := by
  unfold TcpStream.write at h
  split at h <;> cases h <;> rfl

lemma tcp_write_ok {s t : TcpStream} {bytes : Bytes} {n : ℕ} (h : s.write bytes = (t, .ok n)) :
    n ≤ bytes.length ∧ t.sent = s.sent ++ bytes.take n := by
  unfold TcpStream.write at h
  split at h
  · cases h
  · cases h
  · rename_i cnt rest _
    cases h
    refine ⟨Nat.min_le_right _ _, ?_⟩
    rcases Nat.le_total cnt bytes.length with hle | hle
    · rw [Nat.min_eq_left hle]
    · rw [Nat.min_eq_right hle, List.take_of_length_le hle, List.take_length]

/-- A write hands over a front part of what is offered. -/
lemma try_write_buf_spec (s : TcpStream) (buf : Cursor UInt8) :
    ∃ n ≤ buf.bytes.length, (s.try_write_buf buf).1.sent = s.sent ++ buf.bytes.take n ∧
      (s.try_write_buf buf).2.1 = buf.advance n := by
  unfold TcpStream.try_write_buf
  rcases hw : s.write buf.bytes with ⟨t, err | n⟩
  · have ht := tcp_write_error hw
    rcases map_non_block_error (α := ℕ) err with h | h <;> simp only [h] <;>
      exact ⟨0, by simp, by simp [ht], rfl⟩
  · obtain ⟨hn, ht⟩ := tcp_write_ok hw
    exact ⟨n, hn, ht, rfl⟩

/-- A write lets the socket take a front part of the unwritten output, and keeps the settings. -/
structure Writes (c : Connection H) (n : ℕ) (c' : Connection H) : Prop where
  bound : n ≤ c.out_buffer.bytes.length
  out_buffer : c'.out_buffer = c.out_buffer.advance n
  sent : c'.socket.sent = c.socket.sent ++ c.out_buffer.bytes.take n
  settings : c'.settings = c.settings

lemma Writes.check_events {c d : Connection H} {n : ℕ} (h : Writes c n d) :
    Writes c n d.check_events := by
  have hd := check_events_calm d
  exact ⟨h.bound, hd.out_buffer.trans h.out_buffer, hd.socket ▸ h.sent,
    hd.settings.trans h.settings⟩

lemma write_writes [Growth] (c : Connection H) : ∃ n, Writes c n c.write.1 := by
  obtain ⟨n, hn, hsent, hout⟩ := try_write_buf_spec c.socket c.out_buffer
  have hnone : Writes c 0 c := ⟨Nat.zero_le _, rfl, by simp, rfl⟩
  unfold Connection.write
  split
  · exact ⟨0, hnone⟩
  split
  · exact ⟨0, hnone⟩
  · dsimp only
    rcases hw : c.socket.try_write_buf c.out_buffer with ⟨sock, out, err | len⟩ <;>
      rw [hw] at hsent hout <;> dsimp only at hsent hout ⊢
    · exact ⟨n, hn, hout, hsent, rfl⟩
    · have hd : ∀ events, Writes c n { c with
          events := events, socket := sock, out_buffer := out } := fun _ => ⟨hn, hout, hsent, rfl⟩
      split
      · split
        · exact ⟨n, hd _⟩
        · exact ⟨n, (hd _).check_events⟩
      · exact ⟨n, (hd _).check_events⟩

/-- **What `write` does**: it lets some bytes out of the pipe. -/
theorem write_spec [Growth] {c : Connection H} (hc : c.out_buffer.InBounds) :
    c.write.1.out_buffer.InBounds ∧ ∃ n, outbound c.write.1 = (outbound c).pull n := by
  obtain ⟨n, hw⟩ := write_writes c
  refine ⟨hw.out_buffer ▸ Cursor.advance_inBounds hc hw.bound, n, ?_⟩
  unfold outbound
  rw [hw.out_buffer, hw.sent, Cursor.advance_bytes]
  rfl

/-! ### Runs -/

section Runs

variable [Handler H] [Growth]

/-- One call moves the pipe by what the call accepts. -/
theorem perform_outbound {c c' : Connection H} {call : Call} {res : Result Unit}
    (hc : c.out_buffer.InBounds) (h : c.perform call = .ok (c', res)) :
    c'.out_buffer.InBounds ∧ (outbound c).Moves (accepts c call res) (outbound c') := by
  have hcalm : ∀ {d : Connection H}, Calm c d →
      d.out_buffer.InBounds ∧ (outbound c).Moves [] (outbound d) := by
    intro d hd
    refine ⟨hd.out_buffer ▸ hc, ?_⟩
    have : outbound d = outbound c := by unfold outbound; rw [hd.socket, hd.out_buffer]
    rw [this]; exact .none _
  cases call with
  | as_server => cases h; exact hcalm (calm_with c _ _ _)
  | as_client url addrs =>
    simp only [perform, as_client] at h
    split at h <;> cases h <;> exact ⟨hc, .none _⟩
  | send_message msg =>
    obtain ⟨d, r, hd, hin, hsock, hbytes, -⟩ := send_message_spec hc msg
    simp only [perform, hd] at h
    cases h
    refine ⟨hin, ?_⟩
    have : outbound c' = (outbound c).push (accepts c (.send_message msg) res) := by
      unfold outbound; rw [hsock, hbytes]; rfl
    rw [this]; exact .push _ _
  | send_close code reason =>
    have hs : c.send_close code reason = .ok (c', res) := h
    exact hcalm (send_close_calm hs)
  | error err =>
    obtain ⟨d, hd, h⟩ := bind_eq_ok.mp h
    cases h; exact hcalm (error_calm hd)
  | read reads =>
    have hr := read_inward h
    have : outbound c' = outbound c := by unfold outbound; rw [hr.sent, hr.out_buffer]; rfl
    refine ⟨hr.out_buffer ▸ hc, ?_⟩
    rw [this]; exact .none _
  | write answer =>
    obtain ⟨hin, n, hn⟩ := write_spec (c := c.with_writes [answer]) hc
    simp only [perform, Except.ok.injEq] at h
    rw [h] at hin hn
    refine ⟨hin, ?_⟩
    rw [hn]; exact .pull _ n
  | shutdown =>
    obtain ⟨d, hd, h⟩ := bind_eq_ok.mp h
    cases h; exact hcalm (shutdown_calm hd)
  | disconnect => cases h; exact hcalm (disconnect_calm c)
  | new_timeout event timeout => cases h; exact hcalm (new_timeout_calm c event timeout)
  | timeout_triggered event => cases h; exact hcalm (timeout_triggered_calm c event)

/-- A connection, and the bytes of the messages it has accepted, in order. -/
structure Posted (H : Type) where
  conn : Connection H
  accepted : Bytes

/-- One call, with the account of what it accepted. -/
def post (s : Posted H) (call : Call) : Except Panic (Posted H) := do
  let (c, res) ← s.conn.perform call
  .ok ⟨c, s.accepted ++ accepts s.conn call res⟩

/-- What the socket has taken and what is unwritten make up what was accepted. -/
structure Accounted (s : Posted H) : Prop where
  inBounds : s.conn.out_buffer.InBounds
  all : (outbound s.conn).all = s.accepted

lemma post_accounted {s s' : Posted H} {call : Call} (hs : Accounted s)
    (h : post s call = .ok s') : Accounted s' := by
  obtain ⟨⟨c, res⟩, hp, h⟩ := bind_eq_ok.mp h
  cases h
  obtain ⟨hin, hm⟩ := perform_outbound hs.inBounds hp
  exact ⟨hin, by rw [hm.all, hs.all]⟩

/-- **The outbound byte stream.** After any calls on an opened connection, what the socket has
accepted followed by what is still in the output buffer is what the accepted messages contain,
in order; the position lies within the buffer, so that sending never panics; a refused message
leaves the unwritten bytes alone; and none is refused when the buffer may grow. -/
theorem outbound_stream (tok : Token) (handler : H) (settings : Settings) (id : UInt32)
    (calls : List Call) {s : Posted H}
    (h : run post ⟨opened tok handler settings id, []⟩ calls = .ok s) :
    s.conn.socket.sent ++ s.conn.out_buffer.bytes = s.accepted ∧
      s.conn.out_buffer.position ≤ s.conn.out_buffer.get_ref.len ∧
      ∀ msg, ∃ c' res, s.conn.send_message msg = .ok (c', res) ∧
        (∀ err, res = .error err → c'.out_buffer.bytes = s.conn.out_buffer.bytes) ∧
        (s.conn.settings.out_buffer_grow = true → res = .ok ()) := by
  have hopen : Accounted ⟨opened tok handler settings id, []⟩ := ⟨Nat.zero_le _, rfl⟩
  have hs : Accounted s :=
    run_inv_true (fun _ _ _ hs => post_accounted hs) hopen h
  refine ⟨hs.all, hs.inBounds, fun msg => ?_⟩
  obtain ⟨c', res, hsend, -, -, hbytes, hgrow⟩ := send_message_spec hs.inBounds msg
  refine ⟨c', res, hsend, fun err herr => ?_, hgrow⟩
  rw [hbytes, herr]
  exact List.append_nil _

end Runs

/-- A message, a write of a part of it, and a message that makes the buffer drop that part. -/
def two_messages : List Call :=
  [.send_message (.Binary [1, 2]), .write (.ok 1), .send_message (.Binary [3, 4]),
    .write (.error would_block)]

theorem outbound_stream_two_messages :
    ∃ s : Posted (Message → Result Unit),
      @run _ _ _ (@post _ _ amortized)
        ⟨opened 3 (fun _ => .ok ()) { out_buffer_capacity := 3 } 7, []⟩ two_messages = .ok s ∧
      s.conn.socket.sent ++ s.conn.out_buffer.bytes = s.accepted := by
  have hok : (@run _ _ _ (@post (Message → Result Unit) _ amortized)
      ⟨opened 3 (fun _ => .ok ()) { out_buffer_capacity := 3 } 7, []⟩ two_messages).isOk = true :=
    by decide +kernel
  obtain ⟨s, hs⟩ := exists_of_isOk hok
  exact ⟨s, hs, (@outbound_stream _ _ amortized _ _ _ _ _ s hs).1⟩

end XnetSocket.Outbound
