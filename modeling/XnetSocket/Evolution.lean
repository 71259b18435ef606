import XnetSocket.Lifecycle

/-!
What every method keeps of a recorded connection.

Whatever is called on a connection, it stays the same connection with the same handler, which
has heard at least what it had heard before.
-/

namespace XnetSocket.Evolution

open Buffer Runs Connection Lifecycle

variable {H : Type}

/-- The same connection and the same handler, perhaps later. -/
structure Evolves (c c' : Connection (Recorded H)) : Prop where
  same : Same c c'
  birth : c'.handler.birth = c.handler.birth
  calls : c.handler.calls <+: c'.handler.calls

lemma Evolves.refl (c : Connection (Recorded H)) : Evolves c c :=
  ⟨.refl c, rfl, List.prefix_refl _⟩

lemma Evolves.trans {c d e : Connection (Recorded H)} (h : Evolves c d) (h' : Evolves d e) :
    Evolves c e :=
  ⟨h.same.trans h'.same, h'.birth.trans h.birth, h.calls.trans h'.calls⟩

/-- Nothing happened to the handler. -/
lemma Evolves.of_handler {c c' : Connection (Recorded H)} (hs : Same c c')
    (hh : c'.handler = c.handler) : Evolves c c' :=
  ⟨hs, by rw [hh], ⟨[], by rw [hh, List.append_nil]⟩⟩

/-- The handler heard one thing. -/
lemma Evolves.heard {c c' : Connection (Recorded H)} (call : Callback) (hs : Same c c')
    (hb : c'.handler.birth = c.handler.birth)
    (hc : c'.handler.calls = c.handler.calls ++ [call]) : Evolves c c' :=
  ⟨hs, hb, ⟨[call], hc.symm⟩⟩

lemma check_events_evolves (c : Connection (Recorded H)) : Evolves c c.check_events :=
  .of_handler (check_events_calm c).same (check_events_handler c)

lemma open_evolves (c : Connection (Recorded H)) : Evolves c c.open.1 := by
  unfold Connection.open
  split <;> exact .of_handler ⟨rfl, rfl, rfl⟩ rfl

lemma as_server_evolves (c : Connection (Recorded H)) : Evolves c c.as_server.1 :=
  .of_handler ⟨rfl, rfl, rfl⟩ rfl

lemma as_client_evolves (c : Connection (Recorded H)) (url : String) (addrs : List SocketAddr) :
    Evolves c (c.as_client url addrs).1 := by
  unfold as_client
  split <;> exact .of_handler ⟨rfl, rfl, rfl⟩ rfl

lemma send_close_handler {c c' : Connection H} {code : CloseCode} {reason : String}
    {res : Result Unit} (h : c.send_close code reason = .ok (c', res)) :
    c'.handler = c.handler := by
  unfold send_close at h
  split at h <;> cases h <;> exact check_events_handler _

lemma send_close_evolves {c c' : Connection (Recorded H)} {code : CloseCode} {reason : String}
    {res : Result Unit} (h : c.send_close code reason = .ok (c', res)) : Evolves c c' :=
  .of_handler (send_close_calm h).same (send_close_handler h)

lemma send_message_evolves [Growth] {c c' : Connection (Recorded H)} {msg : Message}
    {res : Result Unit} (h : c.send_message msg = .ok (c', res)) : Evolves c c' := by
  obtain ⟨out, rfl | rfl⟩ := send_message_frame h
  · exact .of_handler ⟨rfl, rfl, rfl⟩ rfl
  · have hd := check_events_evolves ({ c with out_buffer := out } : Connection (Recorded H))
    refine .trans ?_ hd
    exact .of_handler ⟨rfl, rfl, rfl⟩ rfl

lemma reset_evolves {c c' : Connection (Recorded H)} {os os' : Os} {res : Result Unit}
    (h : c.reset os = .ok (c', os', res)) : Evolves c c' := by
  have hframe : ∀ {d : Connection (Recorded H)}, Same c d → d.handler = c.handler → Evolves c d :=
    fun hs hh => .of_handler hs hh
  unfold reset at h
  split at h
  · split at h
    · dsimp only at h
      split at h
      · split at h <;> cases h <;> exact hframe ⟨rfl, rfl, rfl⟩ rfl
      · split at h <;> cases h
        exact hframe ⟨rfl, rfl, rfl⟩ rfl
    · cases h; exact .refl c
  · cases h; exact .refl c

lemma write_evolves [Growth] (c : Connection (Recorded H)) : Evolves c c.write.1 := by
  unfold Connection.write
  split
  · exact .refl c
  · split
    · exact .refl c
    · dsimp only
      have hframe : ∀ (events : Ready) (sock : TcpStream) (out : Cursor UInt8), Evolves c
          { c with events := events, socket := sock, out_buffer := out } :=
        fun _ _ _ => .of_handler ⟨rfl, rfl, rfl⟩ rfl
      rcases ht : c.socket.try_write_buf c.out_buffer with ⟨sock, out, err | len⟩
      · exact hframe _ _ _
      · dsimp only
        split
        · split
          · exact hframe _ _ _
          · exact (hframe _ _ _).trans (check_events_evolves _)
        · exact (hframe _ _ _).trans (check_events_evolves _)

section Callbacks

variable [Handler H]

lemma disconnect_evolves (c : Connection (Recorded H)) : Evolves c c.disconnect := by
  have hs := (disconnect_calm c).same
  unfold disconnect at hs ⊢
  split
  · exact .of_handler ⟨rfl, rfl, rfl⟩ rfl
  · exact .of_handler ⟨rfl, rfl, rfl⟩ rfl
  · exact .of_handler ⟨rfl, rfl, rfl⟩ rfl
  · exact .heard (.on_close .Abnormal "") ⟨rfl, rfl, rfl⟩ rfl rfl

lemma shutdown_evolves {c c' : Connection (Recorded H)} (h : c.shutdown = .ok c') :
    Evolves c c' := by
  rw [shutdown_eq, bind_eq_ok] at h
  obtain ⟨⟨d, res⟩, hs, h⟩ := h
  cases h
  have hd := send_close_evolves hs
  refine .trans ?_ hd
  exact .heard .on_shutdown ⟨rfl, rfl, rfl⟩ rfl rfl

lemma new_timeout_evolves (c : Connection (Recorded H)) (event : Token) (timeout : TimerHandle) :
    Evolves c (c.new_timeout event timeout).1 :=
  .heard (.on_new_timeout event timeout) ⟨rfl, rfl, rfl⟩ rfl rfl

lemma timeout_triggered_evolves (c : Connection (Recorded H)) (event : Token) :
    Evolves c (c.timeout_triggered event).1 :=
  .heard (.on_timeout event) ⟨rfl, rfl, rfl⟩ rfl rfl

lemma close_on_evolves {c c' : Connection (Recorded H)} {err : Error} {panics : Bool}
    {code : CloseCode} (h : c.close_on err panics code = .ok c') : Evolves c c' := by
  cases panics
  · rw [close_on_eq, bind_eq_ok] at h
    obtain ⟨⟨d, res⟩, hs, h⟩ := h
    cases h
    have hd := send_close_evolves hs
    refine .trans ?_ hd
    exact .heard (.on_error err) ⟨rfl, rfl, rfl⟩ rfl rfl
  · cases h

lemma report_evolves {c c' : Connection (Recorded H)} {err : Error} {panics : Bool}
    (h : c.report err panics = .ok c') : Evolves c c' := by
  rw [report_eq h]
  exact .heard (.on_error err) ⟨rfl, rfl, rfl⟩ rfl rfl

lemma read_data_evolves (c : Connection (Recorded H)) : Evolves c c.read_data.1 := by
  unfold read_data
  dsimp only
  split
  · exact .of_handler ⟨rfl, rfl, rfl⟩ rfl
  · rename_i text _
    exact .heard (.on_message (.text text)) ⟨rfl, rfl, rfl⟩ rfl rfl

variable [Growth]

lemma error_evolves {c c' : Connection (Recorded H)} {err : Error} (h : c.error err = .ok c') :
    Evolves c c' := by
  have hrefuse : ∀ (req res : Cursor UInt8) (status : String),
      Evolves c (c.refuse req res status err) := by
    intro req res status
    unfold refuse
    dsimp only
    split <;> exact .heard (.on_error err) ⟨rfl, rfl, rfl⟩ rfl rfl
  unfold Connection.error at h
  split at h
  · split at h <;> cases h <;> exact hrefuse _ _ _
  · split at h
    · exact close_on_evolves h
    · exact close_on_evolves h
    · exact close_on_evolves h
    · exact close_on_evolves h
    · obtain ⟨d, hd, h⟩ := bind_eq_ok.mp h
      cases h
      exact (report_evolves hd).trans (disconnect_evolves d)
    · exact report_evolves h
    · exact report_evolves h
    · exact report_evolves h
    · obtain ⟨d, hd, h⟩ := bind_eq_ok.mp h
      cases h
      exact (report_evolves hd).trans (disconnect_evolves d)

lemma read_evolves {c c' : Connection (Recorded H)} {res : Result Unit}
    (h : c.read = .ok (c', res)) : Evolves c c' := by
  rcases read_ok h with ⟨rfl, -⟩ | ⟨d, r, hd, hf⟩
  · exact .refl _
  obtain ⟨hi, -, hh⟩ := buffer_in_loop_inward _ hd
  have hcd : Evolves c d := .of_handler hi.same hh
  have hdata : ∀ {e r}, d.read_data = (e, r) → Evolves c e := by
    intro e r hx
    have := read_data_evolves d
    rw [hx] at this
    exact hcd.trans this
  cases hf with
  | failed => exact hcd
  | blocked => exact hcd
  | refused hx => exact hdata hx
  | handed hx => exact hdata hx
  | half_closed hx => exact (hdata hx).trans (.of_handler ⟨rfl, rfl, rfl⟩ rfl)
  | closed hx => exact (hdata hx).trans (disconnect_evolves _)

/-! ### Hearing of something -/

/-- The handler has heard more than it had. -/
def Hears (c c' : Connection (Recorded H)) : Prop :=
  c.handler.calls.length < c'.handler.calls.length

omit [Handler H] [Growth] in
lemma Hears.ne {c c' : Connection (Recorded H)} (h : Hears c c') : c' ≠ c := fun e => by
  rw [e] at h
  exact absurd h (lt_irrefl _)

omit [Handler H] [Growth] in
/-- Whoever hears of something and evolves has heard of it. -/
lemma Hears.of_heard {c d c' : Connection (Recorded H)} (call : Callback)
    (hd : d.handler.calls = c.handler.calls ++ [call]) (he : Evolves d c') : Hears c c' := by
  have := he.calls.length_le
  rw [hd, List.length_append] at this
  exact this

lemma error_hears {c c' : Connection (Recorded H)} {err : Error} (h : c.error err = .ok c') :
    Hears c c' := by
  have hrefuse : ∀ (req res : Cursor UInt8) (status : String),
      Hears c (c.refuse req res status err) := by
    intro req res status
    unfold refuse
    dsimp only
    split <;> exact .of_heard (.on_error err) rfl (.refl _)
  have hclose : ∀ {panics code}, c.close_on err panics code = .ok c' → Hears c c' := by
    intro panics code hc
    cases panics
    · rw [close_on_eq, bind_eq_ok] at hc
      obtain ⟨⟨d, res⟩, hs, hc⟩ := hc
      cases hc
      exact .of_heard (.on_error err) rfl (send_close_evolves hs)
    · cases hc
  have hreport : ∀ {panics d}, c.report err panics = .ok d → Evolves d c' → Hears c c' := by
    intro panics d hd he
    rw [report_eq hd] at he
    exact .of_heard (.on_error err) rfl he
  unfold Connection.error at h
  split at h
  · split at h <;> cases h <;> exact hrefuse _ _ _
  · split at h
    · exact hclose h
    · exact hclose h
    · exact hclose h
    · exact hclose h
    · obtain ⟨d, hd, h⟩ := bind_eq_ok.mp h
      cases h
      exact hreport hd (disconnect_evolves d)
    · exact hreport h (.refl _)
    · exact hreport h (.refl _)
    · exact hreport h (.refl _)
    · obtain ⟨d, hd, h⟩ := bind_eq_ok.mp h
      cases h
      exact hreport hd (disconnect_evolves d)

/-! ### What is said of an error -/

/-- The handler has heard of errors and of the end of the connection, and of nothing else. -/
def Complains (c c' : Connection (Recorded H)) : Prop :=
  ∃ new, c'.handler.calls = c.handler.calls ++ new ∧
    ∀ call ∈ new, (∃ err, call = .on_error err) ∨ call = .on_close .Abnormal ""

omit [Handler H] [Growth] in
lemma Complains.of_handler {c c' : Connection (Recorded H)} (hh : c'.handler = c.handler) :
    Complains c c' :=
  ⟨[], by rw [hh, List.append_nil], by simp⟩

omit [Handler H] [Growth] in
lemma Complains.trans {c d e : Connection (Recorded H)} (h : Complains c d) (h' : Complains d e) :
    Complains c e := by
  obtain ⟨new, hc, hall⟩ := h
  obtain ⟨more, hc', hall'⟩ := h'
  refine ⟨new ++ more, by rw [hc', hc, List.append_assoc], fun call hcall => ?_⟩
  rcases List.mem_append.mp hcall with hm | hm
  · exact hall call hm
  · exact hall' call hm

omit [Growth] in
lemma on_error_complains {c d : Connection (Recorded H)} (err : Error)
    (hd : d.handler = Handler.on_error c.handler err) : Complains c d :=
  ⟨[.on_error err], by rw [hd]; rfl, by simp⟩

omit [Growth] in
lemma disconnect_complains (c : Connection (Recorded H)) : Complains c c.disconnect := by
  unfold disconnect
  split
  · exact .of_handler rfl
  · exact .of_handler rfl
  · exact .of_handler rfl
  · exact ⟨[.on_close .Abnormal ""], rfl, by simp⟩

lemma error_complains {c c' : Connection (Recorded H)} {err : Error} (h : c.error err = .ok c') :
    Complains c c' := by
  have hrefuse : ∀ (req res : Cursor UInt8) (status : String),
      Complains c (c.refuse req res status err) := by
    intro req res status
    unfold refuse
    dsimp only
    split <;> exact on_error_complains err rfl
  have hclose : ∀ {panics code}, c.close_on err panics code = .ok c' → Complains c c' := by
    intro panics code hc
    cases panics
    · rw [close_on_eq, bind_eq_ok] at hc
      obtain ⟨⟨d, res⟩, hs, hc⟩ := hc
      cases hc
      exact on_error_complains err (send_close_handler hs)
    · cases hc
  have hreport : ∀ {panics d}, c.report err panics = .ok d → Complains c d := fun hd =>
    on_error_complains err (by rw [report_eq hd])
  unfold Connection.error at h
  split at h
  · split at h <;> cases h <;> exact hrefuse _ _ _
  · split at h
    · exact hclose h
    · exact hclose h
    · exact hclose h
    · exact hclose h
    · obtain ⟨d, hd, h⟩ := bind_eq_ok.mp h
      cases h
      exact (hreport hd).trans (disconnect_complains d)
    · exact hreport h
    · exact hreport h
    · exact hreport h
    · obtain ⟨d, hd, h⟩ := bind_eq_ok.mp h
      cases h
      exact (hreport hd).trans (disconnect_complains d)

end Callbacks

end XnetSocket.Evolution
