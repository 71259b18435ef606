import XnetSocket.Frames
import XnetSocket.Record

/-!
The life of an opened connection.

It is live while it wants something of its socket and has not been reported closed; it is dead
once it wants nothing and `on_close` was the last its handler heard. Every method takes a live
connection to a live one, or to a dead one when it disconnects. Only a write that fails leaves
it in between, for the report of that failure to finish.
-/

namespace XnetSocket.Lifecycle

open Buffer Runs Connection

variable {H : Type}

/-! ### The states of an opened connection -/

/-- The states an opened connection can be in. -/
def Opened (c : Connection H) : Prop := c.state = .Open ∨ c.state = .AwaitingClose

lemma Opened.not_connecting {c : Connection H} (h : Opened c) : c.state.is_connecting = false := by
  rcases h with h | h <;> rw [h] <;> rfl

lemma Opened.of_state {c c' : Connection H} (h : Opened c) (hs : c'.state = c.state) :
    Opened c' := by
  unfold Opened
  rw [hs]
  exact h

lemma open_opened (c : Connection H) : Opened c.open.1 := by
  unfold Connection.open
  split <;> exact Or.inl rfl

@[simp] lemma check_events_state (c : Connection H) : c.check_events.state = c.state := by
  unfold check_events
  split
  · rfl
  · split <;> rfl

@[simp] lemma check_events_handler (c : Connection H) : c.check_events.handler = c.handler := by
  unfold check_events
  split
  · rfl
  · split <;> rfl

/-- The close request of an opened connection. -/
lemma send_close_opened {c c' : Connection H} {code : CloseCode} {reason : String}
    {res : Result Unit} (hc : Opened c) (h : c.send_close code reason = .ok (c', res)) :
    c' = ({ c with state := .AwaitingClose } : Connection H).check_events := by
  unfold send_close at h
  rcases hc with hs | hs
  · simp only [hs] at h; cases h; rfl
  · simp only [hs] at h
    cases h
    have : ({ c with state := .AwaitingClose } : Connection H) = c := by rw [← hs]
    rw [this]

lemma check_buffer_out_frame [Growth] {c c' : Connection H} {frame : Bytes} {res : Result Unit}
    (h : c.check_buffer_out frame = .ok (c', res)) :
    ∃ out, c' = { c with out_buffer := out } := by
  unfold check_buffer_out at h
  split at h
  · obtain ⟨pending, -, h⟩ := bind_eq_ok.mp h
    dsimp only at h
    split at h
    · split at h <;> cases h
      · exact ⟨_, rfl⟩
      · exact ⟨c.out_buffer, rfl⟩
    · cases h; exact ⟨_, rfl⟩
  · cases h; exact ⟨c.out_buffer, rfl⟩

/-- Sending changes the output buffer, and brings the interest up to date unless it fails or
is ignored. -/
lemma send_message_frame [Growth] {c c' : Connection H} {msg : Message} {res : Result Unit}
    (h : c.send_message msg = .ok (c', res)) :
    ∃ out, c' = { c with out_buffer := out } ∨
      c' = ({ c with out_buffer := out } : Connection H).check_events := by
  unfold send_message at h
  split at h
  · cases h; exact ⟨c.out_buffer, Or.inl rfl⟩
  · obtain ⟨⟨d, r⟩, hb, h⟩ := bind_eq_ok.mp h
    obtain ⟨out, rfl⟩ := check_buffer_out_frame hb
    rcases r with err | u
    · cases h; exact ⟨out, Or.inl rfl⟩
    · cases h; exact ⟨_, Or.inr rfl⟩

/-- Writing changes the socket and the output buffer, and brings the interest up to date; when
it fails the interest in writing is dropped first. -/
lemma write_frame [Growth] {c : Connection H} (hc : Opened c) :
    ∃ sock out, (c.write.2 = .ok () ∧ c.write.1 =
        ({ c with events := c.events.remove writable, socket := sock, out_buffer := out } :
          Connection H).check_events) ∨
      ∃ err, c.write.2 = .error (.from_io err) ∧ c.write.1 =
        { c with events := c.events.remove writable, socket := sock, out_buffer := out } := by
  have hn : c.socket.is_negotiating = false := rfl
  rcases ht : c.socket.try_write_buf c.out_buffer with ⟨sock, out, err | len⟩
  · refine ⟨sock, out, Or.inr ⟨err, ?_, ?_⟩⟩ <;>
      simp [Connection.write, hn, hc.not_connecting, ht]
  · refine ⟨sock, out, Or.inl ⟨?_, ?_⟩⟩ <;> rcases hc with hs | hs <;>
      simp [Connection.write, hn, State.is_connecting, ht, hs]

lemma read_data_state [Handler H] (c : Connection H) : c.read_data.1.state = c.state := by
  unfold read_data
  dsimp only
  split <;> rfl

lemma disconnect_state [Handler H] (c : Connection H) : c.disconnect.state = c.state := by
  unfold disconnect
  split <;> rfl

/-! ### Live, faint and dead -/

/-- Opened, and not reported closed. -/
structure Faint (c : Connection (Recorded H)) : Prop where
  opened : Opened c
  quiet : closes c.handler.calls = 0

/-- Opened, not reported closed, and interested in its socket. -/
structure Live (c : Connection (Recorded H)) : Prop where
  faint : Faint c
  wants : (c.events.is_readable || c.events.is_writable) = true

/-- The callbacks end with the only `on_close`. -/
def ClosedLast (calls : List Callback) : Prop :=
  ∃ pre code reason, calls = pre ++ [.on_close code reason] ∧ closes pre = 0

/-- Reported closed and interested in nothing. -/
structure Dead (c : Connection (Recorded H)) : Prop where
  events : c.events = .empty
  last : ClosedLast c.handler.calls

/-- A callback other than `on_close`. -/
lemma Faint.heard {c : Connection (Recorded H)} (h : Faint c) {handler : Recorded H}
    (new : Callback) (hn : handler.calls = c.handler.calls ++ [new]) (h0 : closes [new] = 0) :
    Faint { c with handler := handler } :=
  ⟨h.opened, by rw [hn, closes_append, h.quiet, h0]⟩

lemma check_events_live {c : Connection (Recorded H)} (h : Faint c) : Live c.check_events := by
  refine ⟨⟨h.opened.of_state (check_events_state c),
    by rw [check_events_handler]; exact h.quiet⟩, ?_⟩
  unfold check_events
  rw [if_neg (by rw [h.opened.not_connecting]; simp)]
  split <;> simp [Ready.insert, Ready.is_readable, Ready.is_writable, readable]

lemma send_close_live {c c' : Connection (Recorded H)} {code : CloseCode} {reason : String}
    {res : Result Unit} (hc : Faint c) (h : c.send_close code reason = .ok (c', res)) :
    Live c' := by
  rw [send_close_opened hc.opened h]
  exact check_events_live ⟨Or.inr rfl, hc.quiet⟩

lemma send_message_live [Growth] {c c' : Connection (Recorded H)} {msg : Message}
    {res : Result Unit}
    (hc : Live c) (h : c.send_message msg = .ok (c', res)) : Live c' := by
  obtain ⟨out, rfl | rfl⟩ := send_message_frame h
  · exact ⟨⟨hc.faint.opened, hc.faint.quiet⟩, hc.wants⟩
  · exact check_events_live ⟨hc.faint.opened, hc.faint.quiet⟩

/-- A write leaves the connection live, unless it fails. -/
theorem write_live [Growth] {c : Connection (Recorded H)} (hc : Live c) :
    (c.write.2 = .ok () ∧ Live c.write.1) ∨
      ∃ err, c.write.2 = .error (.from_io err) ∧ Faint c.write.1 := by
  obtain ⟨sock, out, ⟨hr, hw⟩ | ⟨err, hr, hw⟩⟩ := write_frame hc.faint.opened
  · rw [hw]
    exact Or.inl ⟨hr, check_events_live ⟨hc.faint.opened, hc.faint.quiet⟩⟩
  · rw [hw]
    exact Or.inr ⟨err, hr, ⟨hc.faint.opened, hc.faint.quiet⟩⟩

section Methods

variable [Handler H]

lemma disconnect_dead {c : Connection (Recorded H)} (h : Faint c) : Dead c.disconnect := by
  have hlast : ClosedLast (Handler.on_close c.handler .Abnormal "").calls :=
    ⟨_, _, _, rfl, h.quiet⟩
  rcases h.opened with hs | hs <;> simp only [disconnect, hs] <;> exact ⟨rfl, hlast⟩

lemma shutdown_live {c c' : Connection (Recorded H)} (hc : Faint c) (h : c.shutdown = .ok c') :
    Live c' := by
  rw [shutdown_eq, bind_eq_ok] at h
  obtain ⟨⟨d, res⟩, hs, h⟩ := h
  cases h
  exact send_close_live (hc.heard .on_shutdown rfl rfl) hs

lemma new_timeout_faint {c : Connection (Recorded H)} (hc : Faint c) (event : Token)
    (timeout : TimerHandle) : Faint (c.new_timeout event timeout).1 :=
  hc.heard (.on_new_timeout event timeout) rfl rfl

lemma timeout_triggered_faint {c : Connection (Recorded H)} (hc : Faint c) (event : Token) :
    Faint (c.timeout_triggered event).1 :=
  hc.heard (.on_timeout event) rfl rfl

lemma close_on_live {c c' : Connection (Recorded H)} {err : Error} {panics : Bool}
    {code : CloseCode} (hc : Faint c) (h : c.close_on err panics code = .ok c') : Live c' := by
  cases panics
  · rw [close_on_eq, bind_eq_ok] at h
    obtain ⟨⟨d, res⟩, hs, h⟩ := h
    cases h
    exact send_close_live (hc.heard (.on_error err) rfl rfl) hs
  · cases h

lemma report_eq {c c' : Connection H} {err : Error} {panics : Bool}
    (h : c.report err panics = .ok c') :
    c' = { c with handler := Handler.on_error c.handler err } := by
  unfold report at h
  split at h
  · cases h
  · cases h; rfl

lemma report_faint {c c' : Connection (Recorded H)} {err : Error} {panics : Bool} (hc : Faint c)
    (h : c.report err panics = .ok c') : Faint c' ∧ c'.events = c.events := by
  rw [report_eq h]
  exact ⟨hc.heard (.on_error err) rfl rfl, rfl⟩

lemma read_data_live {c : Connection (Recorded H)} (hc : Live c) : Live c.read_data.1 := by
  unfold read_data
  dsimp only
  split
  · exact ⟨⟨hc.faint.opened, hc.faint.quiet⟩, hc.wants⟩
  · rename_i text ht
    have hf : Faint { c with handler := (Handler.on_message c.handler (.text text)).1 } :=
      hc.faint.heard (.on_message (.text text)) rfl rfl
    exact ⟨⟨hf.opened, hf.quiet⟩, hc.wants⟩

variable [Growth]

/-- The kinds of error that end in a disconnect. -/
def disconnects : Kind → Bool
  | .Io _ => true
  | .Http _ => true
  | _ => false

/-- **Reporting an error.** An input or output error or a parse error disconnects; any other
leaves the connection opened, with at least the interest it had. -/
theorem error_faint {c c' : Connection (Recorded H)} {err : Error} (hc : Faint c)
    (h : c.error err = .ok c') :
    if disconnects err.kind then Dead c' else Faint c' ∧ (Live c → Live c') := by
  have hnot : ∀ req res, c.state ≠ .Connecting req res := by
    intro req res hs
    have := hc.opened.not_connecting
    rw [hs] at this
    cases this
  have hclose : ∀ {panics code}, c.close_on err panics code = .ok c' →
      Faint c' ∧ (Live c → Live c') := fun hr =>
    ⟨(close_on_live hc hr).faint, fun _ => close_on_live hc hr⟩
  have hreport : ∀ {panics}, c.report err panics = .ok c' → Faint c' ∧ (Live c → Live c') := by
    intro panics hr
    obtain ⟨hf, he⟩ := report_faint hc hr
    exact ⟨hf, fun hl => ⟨hf, he ▸ hl.wants⟩⟩
  unfold Connection.error at h
  split at h
  · rename_i req res hs
    exact absurd hs (hnot req res)
  · split at h <;> rename_i hk <;> simp only [hk, disconnects]
    · exact hclose h
    · exact hclose h
    · exact hclose h
    · exact hclose h
    · obtain ⟨d, hd, h⟩ := bind_eq_ok.mp h
      cases h
      exact disconnect_dead (report_faint hc hd).1
    · exact hreport h
    · exact hreport h
    · exact hreport h
    · obtain ⟨d, hd, h⟩ := bind_eq_ok.mp h
      cases h
      exact disconnect_dead (report_faint hc hd).1

lemma error_live {c c' : Connection (Recorded H)} {err : Error} (hc : Live c)
    (h : c.error err = .ok c') : Live c' ∨ Dead c' := by
  have := error_faint hc.faint h
  split at this
  · exact Or.inr this
  · exact Or.inl (this.2 hc)

omit [Handler H] in
lemma buffer_in_live {c d : Connection (Recorded H)} {r : Result (Option ℕ)} (hc : Live c)
    (h : c.buffer_in = .ok (d, r)) : Live d := by
  obtain ⟨hi, he, hh⟩ := buffer_in_loop_inward _ h
  exact ⟨⟨hc.faint.opened.of_state hi.state, by rw [hh]; exact hc.faint.quiet⟩,
    by rw [he]; exact hc.wants⟩

/-- A read leaves the connection live, or dead when it ends without error. -/
theorem read_live {c c' : Connection (Recorded H)} {res : Result Unit} (hc : Live c)
    (h : c.read = .ok (c', res)) : Live c' ∨ Dead c' ∧ res = .ok () := by
  rcases read_ok h with ⟨rfl, hs⟩ | ⟨d, r, hb, hf⟩
  · exact Or.inl hc
  have hd := buffer_in_live hc hb
  have hdata : ∀ {e res}, d.read_data = (e, res) → Live e := fun hx => by
    have := read_data_live hd
    rwa [hx] at this
  cases hf with
  | failed => exact Or.inl hd
  | blocked => exact Or.inl hd
  | refused hx => exact Or.inl (hdata hx)
  | handed hx => exact Or.inl (hdata hx)
  | half_closed hx hw =>
    refine Or.inl ⟨⟨(hdata hx).faint.opened, (hdata hx).faint.quiet⟩, ?_⟩
    simp only [Ready.is_writable] at hw
    simp [Ready.remove, Ready.is_readable, Ready.is_writable, hw, readable]
  | closed hx => exact Or.inr ⟨disconnect_dead (hdata hx).faint, rfl⟩

omit [Growth] in
lemma close_on_opened {c c' : Connection H} {err : Error} {panics : Bool} {code : CloseCode}
    (hc : Opened c) (h : c.close_on err panics code = .ok c') : Opened c' := by
  cases panics
  · rw [close_on_eq, bind_eq_ok] at h
    obtain ⟨⟨d, res⟩, hs, h⟩ := h
    cases h
    have hd : Opened ({ c with handler := Handler.on_error c.handler err } : Connection H) := hc
    rw [send_close_opened hd hs]
    exact Or.inr (check_events_state _)
  · cases h

lemma error_opened {c c' : Connection H} {err : Error} (hc : Opened c)
    (h : c.error err = .ok c') : Opened c' := by
  have hreport : ∀ {d panics}, c.report err panics = .ok d → Opened d := fun hr =>
    report_eq hr ▸ hc
  unfold Connection.error at h
  split at h
  · rename_i req res hs
    have := hc.not_connecting
    rw [hs] at this
    cases this
  · split at h
    · exact close_on_opened hc h
    · exact close_on_opened hc h
    · exact close_on_opened hc h
    · exact close_on_opened hc h
    · obtain ⟨d, hd, h⟩ := bind_eq_ok.mp h
      cases h
      exact (hreport hd).of_state (disconnect_state d)
    · exact hreport h
    · exact hreport h
    · exact hreport h
    · obtain ⟨d, hd, h⟩ := bind_eq_ok.mp h
      cases h
      exact (hreport hd).of_state (disconnect_state d)

/-- The connection stays opened whatever is called on it. -/
theorem call_opened {c c' : Connection H} {call : Call} (hc : Opened c)
    (h : c.call call = .ok c') : Opened c' := by
  obtain ⟨⟨d, res⟩, hp, h⟩ := bind_eq_ok.mp h
  cases h
  cases call with
  | as_server => cases hp; exact hc
  | as_client url addrs =>
    simp only [perform, as_client] at hp
    split at hp
    · rename_i hs
      cases hp
      exact Or.inl hs
    · cases hp; exact hc
  | send_message msg =>
    obtain ⟨out, rfl | rfl⟩ := send_message_frame hp
    · exact hc
    · exact hc.of_state (check_events_state _)
  | send_close code reason =>
    have hs : c.send_close code reason = .ok (c', res) := hp
    rw [send_close_opened hc hs]
    exact Or.inr (check_events_state _)
  | error err =>
    obtain ⟨d, hd, hp⟩ := bind_eq_ok.mp hp
    cases hp
    exact error_opened hc hd
  | read reads => exact hc.of_state (read_inward hp).state
  | write answer =>
    obtain ⟨sock, out, ⟨-, hw⟩ | ⟨err, -, hw⟩⟩ := write_frame (c := c.with_writes [answer]) hc
    all_goals
      simp only [perform, Except.ok.injEq] at hp
      rw [hp] at hw
      cases hw
    · exact hc.of_state (check_events_state _)
    · exact hc
  | shutdown =>
    obtain ⟨d, hd, hp⟩ := bind_eq_ok.mp hp
    cases hp
    rw [shutdown_eq, bind_eq_ok] at hd
    obtain ⟨⟨e, r⟩, hs, hd⟩ := hd
    cases hd
    have hd : Opened ({ c with handler := Handler.on_shutdown c.handler } : Connection H) := hc
    rw [send_close_opened hd hs]
    exact Or.inr (check_events_state _)
  | disconnect => cases hp; exact hc.of_state (disconnect_state c)
  | new_timeout event timeout => cases hp; exact hc
  | timeout_triggered event => cases hp; exact hc

end Methods

end XnetSocket.Lifecycle
