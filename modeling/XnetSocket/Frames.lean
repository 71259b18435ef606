import XnetSocket.Calls

/-!
What the methods of a connection leave alone.

Reporting an error, closing and disconnecting touch the state, the interest and the handler;
sending touches the output buffer as well, writing the socket too, and reading the socket, the
input buffer and the handler. None of them touches what identifies the connection.
-/

namespace XnetSocket.Connection

open Buffer Runs

variable {H : Type}

/-- Only the state, the interest and the handler may differ. -/
structure Calm (c c' : Connection H) : Prop where
  token : c'.token = c.token
  socket : c'.socket = c.socket
  endpoint : c'.endpoint = c.endpoint
  in_buffer : c'.in_buffer = c.in_buffer
  out_buffer : c'.out_buffer = c.out_buffer
  addresses : c'.addresses = c.addresses
  settings : c'.settings = c.settings
  connection_id : c'.connection_id = c.connection_id

lemma Calm.refl (c : Connection H) : Calm c c := ⟨rfl, rfl, rfl, rfl, rfl, rfl, rfl, rfl⟩

lemma Calm.trans {c d e : Connection H} (h : Calm c d) (h' : Calm d e) : Calm c e :=
  ⟨h'.token.trans h.token, h'.socket.trans h.socket, h'.endpoint.trans h.endpoint,
    h'.in_buffer.trans h.in_buffer, h'.out_buffer.trans h.out_buffer,
    h'.addresses.trans h.addresses, h'.settings.trans h.settings,
    h'.connection_id.trans h.connection_id⟩

/-- Replacing the state, the interest and the handler is calm. -/
lemma calm_with (c : Connection H) (state : State) (events : Ready) (handler : H) :
    Calm c { c with state := state, events := events, handler := handler } :=
  ⟨rfl, rfl, rfl, rfl, rfl, rfl, rfl, rfl⟩

/-- Only what identifies the connection need be the same. -/
structure Same (c c' : Connection H) : Prop where
  token : c'.token = c.token
  settings : c'.settings = c.settings
  connection_id : c'.connection_id = c.connection_id

lemma Same.refl (c : Connection H) : Same c c := ⟨rfl, rfl, rfl⟩

lemma Same.trans {c d e : Connection H} (h : Same c d) (h' : Same d e) : Same c e :=
  ⟨h'.token.trans h.token, h'.settings.trans h.settings,
    h'.connection_id.trans h.connection_id⟩

lemma Calm.same {c c' : Connection H} (h : Calm c c') : Same c c' :=
  ⟨h.token, h.settings, h.connection_id⟩

lemma check_events_calm (c : Connection H) : Calm c c.check_events := by
  unfold check_events
  split
  · exact .refl c
  · split <;> exact calm_with c _ _ _

lemma send_close_calm {c c' : Connection H} {code : CloseCode} {reason : String}
    {res : Result Unit} (h : c.send_close code reason = .ok (c', res)) : Calm c c' := by
  unfold send_close at h
  split at h
  · cases h; exact (calm_with c _ _ _).trans (check_events_calm _)
  · cases h; exact check_events_calm c
  · cases h; exact check_events_calm c
  · cases h; exact (calm_with c _ _ _).trans (check_events_calm _)
  · cases h

/-- The close request itself never fails. -/
lemma send_close_res {c c' : Connection H} {code : CloseCode} {reason : String}
    {res : Result Unit} (h : c.send_close code reason = .ok (c', res)) : res = .ok () := by
  unfold send_close at h
  split at h <;> cases h <;> rfl

section Callbacks

variable [Handler H]

lemma disconnect_calm (c : Connection H) : Calm c c.disconnect := by
  unfold disconnect
  split <;> exact calm_with c _ _ _

lemma shutdown_eq (c : Connection H) :
    c.shutdown = ({ c with handler := Handler.on_shutdown c.handler } : Connection H).send_close
      .Away "Shutting down." >>= fun r => .ok r.1 := by
  unfold shutdown
  dsimp only
  rcases hs : ({ c with handler := Handler.on_shutdown c.handler } : Connection H).send_close
      .Away "Shutting down." with e | ⟨d, res⟩
  · rfl
  · cases send_close_res hs; rfl

lemma shutdown_calm {c c' : Connection H} (h : c.shutdown = .ok c') : Calm c c' := by
  rw [shutdown_eq, bind_eq_ok] at h
  obtain ⟨⟨d, res⟩, hs, h⟩ := h
  cases h
  exact (calm_with c _ _ _).trans (send_close_calm hs)

/-- Closing because of an error: the handler hears of it and the close request goes out. -/
lemma close_on_eq (c : Connection H) (err : Error) (code : CloseCode) :
    c.close_on err false code =
      ({ c with handler := Handler.on_error c.handler err } : Connection H).send_close code
        err.to_string >>= fun r => .ok r.1 := by
  unfold close_on
  rw [if_neg (by simp)]
  dsimp only
  rcases hs : ({ c with handler := Handler.on_error c.handler err } : Connection H).send_close code
      err.to_string with e | ⟨d, res⟩
  · rfl
  · cases send_close_res hs; rfl

lemma close_on_calm {c c' : Connection H} {err : Error} {panics : Bool} {code : CloseCode}
    (h : c.close_on err panics code = .ok c') : Calm c c' := by
  cases panics
  · rw [close_on_eq, bind_eq_ok] at h
    obtain ⟨⟨d, res⟩, hs, h⟩ := h
    cases h
    exact (calm_with c _ _ _).trans (send_close_calm hs)
  · cases h

lemma report_calm {c c' : Connection H} {err : Error} {panics : Bool}
    (h : c.report err panics = .ok c') : Calm c c' := by
  unfold report at h
  split at h
  · cases h
  · cases h; exact calm_with c _ _ _

lemma new_timeout_calm (c : Connection H) (event : Token) (timeout : TimerHandle) :
    Calm c (c.new_timeout event timeout).1 :=
  calm_with c _ _ _

lemma timeout_triggered_calm (c : Connection H) (event : Token) :
    Calm c (c.timeout_triggered event).1 :=
  calm_with c _ _ _

variable [Growth]

lemma refuse_calm (c : Connection H) (req res : Cursor UInt8) (status : String) (err : Error) :
    Calm c (c.refuse req res status err) := by
  unfold refuse
  dsimp only
  split <;> exact calm_with c _ _ _

lemma error_calm {c c' : Connection H} {err : Error} (h : c.error err = .ok c') : Calm c c' := by
  unfold error at h
  split at h
  · split at h <;> cases h <;> exact refuse_calm c _ _ _ err
  · split at h
    · exact close_on_calm h
    · exact close_on_calm h
    · exact close_on_calm h
    · exact close_on_calm h
    · obtain ⟨d, hd, h⟩ := bind_eq_ok.mp h
      cases h
      exact (report_calm hd).trans (disconnect_calm d)
    · exact report_calm h
    · exact report_calm h
    · exact report_calm h
    · obtain ⟨d, hd, h⟩ := bind_eq_ok.mp h
      cases h
      exact (report_calm hd).trans (disconnect_calm d)

end Callbacks

/-! ### Reading -/

/-- Only the input side, the interest and the handler may differ. -/
structure Inward (c c' : Connection H) : Prop where
  token : c'.token = c.token
  sent : c'.socket.sent = c.socket.sent
  state : c'.state = c.state
  endpoint : c'.endpoint = c.endpoint
  out_buffer : c'.out_buffer = c.out_buffer
  addresses : c'.addresses = c.addresses
  settings : c'.settings = c.settings
  connection_id : c'.connection_id = c.connection_id

lemma Inward.refl (c : Connection H) : Inward c c := ⟨rfl, rfl, rfl, rfl, rfl, rfl, rfl, rfl⟩

lemma Inward.trans {c d e : Connection H} (h : Inward c d) (h' : Inward d e) : Inward c e :=
  ⟨h'.token.trans h.token, h'.sent.trans h.sent, h'.state.trans h.state,
    h'.endpoint.trans h.endpoint, h'.out_buffer.trans h.out_buffer,
    h'.addresses.trans h.addresses, h'.settings.trans h.settings,
    h'.connection_id.trans h.connection_id⟩

lemma Inward.same {c c' : Connection H} (h : Inward c c') : Same c c' :=
  ⟨h.token, h.settings, h.connection_id⟩

lemma read_sent (s : TcpStream) (room : ℕ) : (s.read room).1.sent = s.sent := by
  unfold TcpStream.read
  split <;> rfl

lemma read_data_inward [Handler H] (c : Connection H) : Inward c c.read_data.1 := by
  unfold read_data
  dsimp only
  split <;> exact ⟨rfl, rfl, rfl, rfl, rfl, rfl, rfl, rfl⟩

lemma disconnect_inward [Handler H] (c : Connection H) : Inward c c.disconnect := by
  unfold disconnect
  split <;> exact ⟨rfl, rfl, rfl, rfl, rfl, rfl, rfl, rfl⟩

variable [Growth]

lemma try_read_buf_sent (s : TcpStream) (buf : Vec UInt8) :
    (s.try_read_buf buf).1.sent = s.sent := by
  unfold TcpStream.try_read_buf
  dsimp only
  split <;> exact read_sent s _

/-- Filling the input buffer touches the socket and the input buffer only. -/
lemma buffer_in_loop_inward (fuel : ℕ) {c c' : Connection H} {res : Result (Option ℕ)}
    (h : c.buffer_in_loop fuel = .ok (c', res)) :
    Inward c c' ∧ c'.events = c.events ∧ c'.handler = c.handler := by
  induction fuel generalizing c with
  | zero => cases h; exact ⟨.refl _, rfl, rfl⟩
  | succ fuel ih =>
    have hsent := try_read_buf_sent c.socket c.in_buffer.inner
    have hround : ∀ buf : Cursor UInt8, Inward c { c with
        socket := (c.socket.try_read_buf c.in_buffer.inner).1, in_buffer := buf } :=
      fun buf => ⟨rfl, hsent, rfl, rfl, rfl, rfl, rfl, rfl⟩
    rcases ht : c.socket.try_read_buf c.in_buffer.inner with ⟨sock, buf, r⟩
    rw [ht] at hround
    simp only [buffer_in_loop, ht] at h
    rcases r with err | _ | len
    · cases h; exact ⟨hround _, rfl, rfl⟩
    · cases h; exact ⟨hround _, rfl, rfl⟩
    · dsimp only at h
      split at h
      · cases h; exact ⟨hround _, rfl, rfl⟩
      · split at h
        · obtain ⟨unread, -, h⟩ := bind_eq_ok.mp h
          split at h
          · split at h
            · obtain ⟨hi, he, hh⟩ := ih h
              exact ⟨(hround _).trans hi, he, hh⟩
            · cases h; exact ⟨hround _, rfl, rfl⟩
          · obtain ⟨hi, he, hh⟩ := ih h
            exact ⟨(hround _).trans hi, he, hh⟩
        · cases h; exact ⟨hround _, rfl, rfl⟩

variable [Handler H]

/-- How a read ends, from how filling the buffer ended. -/
inductive Finish (d : Connection H) : Result (Option ℕ) → Connection H → Result Unit → Prop
  | failed (err : Error) : Finish d (.error err) d (.error err)
  | blocked : Finish d (.ok none) d (.ok ())
  | refused {len : ℕ} {e : Connection H} {err : Error} (h : d.read_data = (e, .error err)) :
    Finish d (.ok (some len)) e (.error err)
  | handed {len : ℕ} {e : Connection H} (h : d.read_data = (e, .ok ())) (hlen : len ≠ 0) :
    Finish d (.ok (some len)) e (.ok ())
  | half_closed {e : Connection H} (h : d.read_data = (e, .ok ()))
    (hw : e.events.is_writable = true) :
    Finish d (.ok (some 0)) { e with events := e.events.remove readable } (.ok ())
  | closed {e : Connection H} (h : d.read_data = (e, .ok ())) (hw : e.events.is_writable = false) :
    Finish d (.ok (some 0)) e.disconnect (.ok ())

/-- **What `read` does** once the buffer is filled. -/
theorem read_finish {c d : Connection H} {r : Result (Option ℕ)}
    (hc : c.state.is_connecting = false) (hd : c.buffer_in = .ok (d, r)) :
    ∃ c' res, c.read = .ok (c', res) ∧ Finish d r c' res := by
  have hn : c.socket.is_negotiating = false := rfl
  simp only [read, hn, hc, hd, Bool.false_eq_true, if_false, ok_bind]
  rcases r with err | _ | len
  · exact ⟨d, _, rfl, .failed err⟩
  · exact ⟨d, _, rfl, .blocked⟩
  · rcases hx : d.read_data with ⟨e, err | u⟩
    · exact ⟨e, _, rfl, .refused hx⟩
    · by_cases hlen : len = 0
      · subst hlen
        cases hw : e.events.is_writable
        · exact ⟨_, _, by simp [hw], .closed hx hw⟩
        · exact ⟨_, _, by simp [hw], .half_closed hx hw⟩
      · exact ⟨e, _, by simp [hlen], .handed hx hlen⟩

/-- A read that returns has filled the buffer, unless the connection is not open yet. -/
lemma read_ok {c c' : Connection H} {res : Result Unit} (h : c.read = .ok (c', res)) :
    (c' = c ∧ c.state.is_connecting = true) ∨
      ∃ d r, c.buffer_in = .ok (d, r) ∧ Finish d r c' res := by
  rcases hc : c.state.is_connecting
  · have hn : c.socket.is_negotiating = false := rfl
    have hb : ∃ x, c.buffer_in = .ok x := by
      rcases hb : c.buffer_in with p | x
      · simp only [read, hn, hc, hb, Bool.false_eq_true, if_false] at h
        cases h
      · exact ⟨x, rfl⟩
    obtain ⟨⟨d, r⟩, hd⟩ := hb
    obtain ⟨c'', res', hr, hf⟩ := read_finish hc hd
    rw [hr] at h
    cases h
    exact Or.inr ⟨d, r, hd, hf⟩
  · have hn : c.socket.is_negotiating = false := rfl
    simp only [read, hn, hc, Bool.false_eq_true, if_false, if_true] at h
    cases h
    exact Or.inl ⟨rfl, rfl⟩

omit [Growth] in
lemma Finish.inward {d c' : Connection H} {r : Result (Option ℕ)} {res : Result Unit}
    (h : Finish d r c' res) : Inward d c' := by
  have hdata : ∀ {e res}, d.read_data = (e, res) → Inward d e := fun hx => by
    have := read_data_inward d
    rwa [hx] at this
  cases h with
  | failed => exact .refl d
  | blocked => exact .refl d
  | refused hx => exact hdata hx
  | handed hx => exact hdata hx
  | half_closed hx => exact (hdata hx).trans ⟨rfl, rfl, rfl, rfl, rfl, rfl, rfl, rfl⟩
  | closed hx => exact (hdata hx).trans (disconnect_inward _)

lemma read_inward {c c' : Connection H} {res : Result Unit} (h : c.read = .ok (c', res)) :
    Inward c c' := by
  rcases read_ok h with ⟨rfl, -⟩ | ⟨d, r, hd, hf⟩
  · exact .refl _
  · exact (buffer_in_loop_inward _ hd).1.trans hf.inward

end XnetSocket.Connection
