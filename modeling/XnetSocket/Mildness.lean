import XnetSocket.Custody

/-!
Errors that do a live connection no harm.

An error that is reported to a connection nobody looks at afterwards must not end its interest.
Most kinds only start the closing handshake, which at most adds to the interest, and which adds
nothing when it is up to date.
-/

namespace XnetSocket.Mildness

open Buffer Runs Connection Lifecycle Evolution Custody

variable {H : Type}

/-- The kinds of error that start the closing handshake. -/
def starts_closing : Kind → Bool
  | .Internal => true
  | .Capacity => true
  | .Protocol => true
  | .Encoding _ => true
  | _ => false

/-- The interest is up to date. -/
def Steadfast (c : Connection (Recorded H)) : Prop := c.check_events.events = c.events

/-- Reporting the error does not disconnect, nor, when `strict`, change the interest. -/
structure Mild (strict : Prop) (c : Connection (Recorded H)) (err : Error) : Prop where
  stays : disconnects err.kind = false
  same : strict → starts_closing err.kind = true → Steadfast c

lemma check_events_congr {c d : Connection (Recorded H)}
    (hs : d.state.is_connecting = c.state.is_connecting) (ho : d.out_buffer = c.out_buffer)
    (he : d.events = c.events) : d.check_events.events = c.check_events.events := by
  unfold check_events
  rw [hs, ho]
  split
  · exact he
  · split
    · simp only [he]
    · simp only [he]

lemma check_events_steadfast (c : Connection (Recorded H)) : Steadfast c.check_events := by
  have hout : c.check_events.out_buffer = c.out_buffer := (check_events_calm c).out_buffer
  unfold Steadfast
  rcases hc : c.state.is_connecting
  · rw [check_events, check_events_state, hc, if_neg (by simp), hout]
    by_cases hp : c.out_buffer.position < c.out_buffer.get_ref.len
    · rw [if_pos hp]
      unfold check_events
      simp [hc, hp, Ready.insert, readable, writable]
    · rw [if_neg hp]
      unfold check_events
      simp [hc, hp, Ready.insert, readable]
  · rw [check_events, check_events_state, hc, if_pos rfl]

/-- An opened connection that is to close. -/
lemma closing_events {c : Connection (Recorded H)} (hc : Opened c) (handler : Recorded H) :
    ({ c with
      handler := handler, state := .AwaitingClose } : Connection (Recorded H)).check_events.events =
        c.check_events.events :=
  check_events_congr hc.not_connecting.symm rfl rfl

section Callbacks

variable [Handler H]

lemma shutdown_result {c c' : Connection (Recorded H)} (hc : Opened c) (h : c.shutdown = .ok c') :
    c' = ({ c with
      handler := Handler.on_shutdown c.handler, state := .AwaitingClose } :
        Connection (Recorded H)).check_events := by
  rw [shutdown_eq, bind_eq_ok] at h
  obtain ⟨⟨d, res⟩, hs, h⟩ := h
  cases h
  have hd : Opened ({ c with handler := Handler.on_shutdown c.handler } :
    Connection (Recorded H)) := hc
  exact send_close_opened hd hs

lemma close_on_result {c c' : Connection (Recorded H)} {err : Error} {panics : Bool}
    {code : CloseCode} (hc : Opened c) (h : c.close_on err panics code = .ok c') :
    c' = ({ c with
      handler := Handler.on_error c.handler err, state := .AwaitingClose } :
        Connection (Recorded H)).check_events := by
  cases panics
  · rw [close_on_eq, bind_eq_ok] at h
    obtain ⟨⟨d, res⟩, hs, h⟩ := h
    cases h
    have hd : Opened ({ c with handler := Handler.on_error c.handler err } :
      Connection (Recorded H)) := hc
    exact send_close_opened hd hs
  · cases h

variable [Host]

/-- **A mild error** leaves the connection live, and when `strict`, its interest as it was. -/
theorem error_mild {strict : Prop} {c c' : Connection (Recorded H)} {err : Error} (hc : Live c)
    (hm : Mild strict c err) (h : c.error err = .ok c') :
    Live c' ∧ (strict → c'.events = c.events) ∧ (Steadfast c → Steadfast c') := by
  have hlive : Live c' := by
    have := error_faint hc.faint h
    rw [hm.stays] at this
    exact this.2 hc
  have hclose : ∀ {panics code}, starts_closing err.kind = true →
      c.close_on err panics code = .ok c' →
      (strict → c'.events = c.events) ∧ (Steadfast c → Steadfast c') := by
    intro panics code hk hr
    rw [close_on_result hc.faint.opened hr]
    refine ⟨fun hstrict => ?_, fun _ => check_events_steadfast _⟩
    rw [closing_events hc.faint.opened]
    exact hm.same hstrict hk
  have hreport : ∀ {panics}, c.report err panics = .ok c' →
      (strict → c'.events = c.events) ∧ (Steadfast c → Steadfast c') := by
    intro panics hr
    rw [report_eq hr]
    have hcheck : ∀ handler : Recorded H, ({ c with handler := handler } :
        Connection (Recorded H)).check_events.events = c.check_events.events :=
      fun handler => check_events_congr rfl rfl rfl
    exact ⟨fun _ => rfl, fun hs => (hcheck _).trans hs⟩
  refine ⟨hlive, ?_⟩
  unfold Connection.error at h
  split at h
  · rename_i req res hs
    have := hc.faint.opened.not_connecting
    rw [hs] at this
    cases this
  · split at h <;> rename_i hk
    · exact hclose (by rw [hk]; rfl) h
    · exact hclose (by rw [hk]; rfl) h
    · exact hclose (by rw [hk]; rfl) h
    · exact hclose (by rw [hk]; rfl) h
    · exact absurd hm.stays (by rw [hk]; simp [disconnects])
    · exact hreport h
    · exact hreport h
    · exact hreport h
    · exact absurd hm.stays (by rw [hk]; simp [disconnects])

/-- An error that does not disconnect. -/
lemma error_stays {c c' : Connection (Recorded H)} {err : Error} (hc : Live c)
    (hk : disconnects err.kind = false) (h : c.error err = .ok c') : Live c' := by
  have hm : Mild False c err := ⟨hk, fun hf => hf.elim⟩
  exact (error_mild hc hm h).1

/-- What leaves a connection live, or fails without being fatal. -/
def Gentle (f : Connection (Recorded H) → Except Panic (Connection (Recorded H) × Result Unit)) :
    Prop :=
  ∀ c c' res, Live c → f c = .ok (c', res) →
    Live c' ∧ Evolves c c' ∧ ∀ err, res = .error err → disconnects err.kind = false

/-- The output buffer holds as much pending output as it can and may not grow. -/
def Full (c : Connection H) : Prop :=
  c.state.is_closing = false ∧ c.settings.out_buffer_grow = false ∧
    c.out_buffer.get_ref.len - c.out_buffer.position = c.out_buffer.get_ref.capacity

omit [Handler H] in
/-- Only a full connection refuses a message. -/
lemma send_message_refused {c c' : Connection (Recorded H)} {msg : Message} {err : Error}
    (h : c.send_message msg = .ok (c', .error err)) : c' = c ∧ err.kind = .Capacity ∧ Full c := by
  unfold send_message at h
  split at h
  · cases h
  rename_i hopen
  obtain ⟨⟨d, r⟩, hb, h⟩ := bind_eq_ok.mp h
  rcases r with e | u
  · cases h
    unfold check_buffer_out at hb
    split at hb
    · obtain ⟨pending, hp, hb⟩ := bind_eq_ok.mp hb
      dsimp only at hb
      split at hb
      · rename_i hfull
        split at hb <;> cases hb
        rename_i hgrow
        refine ⟨rfl, rfl, Bool.not_eq_true _ ▸ hopen, Bool.not_eq_true _ ▸ hgrow, ?_⟩
        have hlen : pending.length = c.out_buffer.get_ref.len - c.out_buffer.position := by
          unfold slice_from at hp
          split at hp <;> cases hp
          exact List.length_drop
        have hfit : pending.length ≤ c.out_buffer.get_ref.capacity := by
          have := c.out_buffer.get_ref.length_le
          unfold Vec.len at hlen
          omega
        rw [Vec.extend_capacity (by simpa [Vec.with_capacity] using hfit)] at hfull
        rw [← hlen]
        simpa [Vec.len, Vec.with_capacity] using hfull
      · cases hb
    · cases hb
  · cases h

omit [Handler H] in
lemma send_message_gentle (msg : Message) :
    Gentle fun c : Connection (Recorded H) => c.send_message msg := by
  intro c c' res hc h
  refine ⟨send_message_live hc h, send_message_evolves h, fun err he => ?_⟩
  subst he
  rw [(send_message_refused h).2.1]
  rfl

omit [Handler H] [Host] in
lemma send_close_gentle (code : CloseCode) (reason : String) :
    Gentle fun c : Connection (Recorded H) => c.send_close code reason := by
  intro c c' res hc h
  refine ⟨send_close_live hc.faint h, send_close_evolves h, fun err he => ?_⟩
  have hres : res = .ok () := send_close_res h
  rw [hres] at he
  cases he

/-- What `on_new_timeout` answers is mild. -/
def MildTimeout (strict : Prop) (event : Token) (timeout : TimerHandle)
    (c : Connection (Recorded H)) : Prop :=
  ∀ err, (Handler.on_new_timeout c.handler event timeout).2 = .error err → Mild strict c err

lemma take_timeout_mild {c c' : Connection (Recorded H)} {event : Token} {timeout : TimerHandle}
    (hc : Live c) (hm : MildTimeout strict event timeout c)
    (h : Io.Handler.take_timeout event timeout c = .ok c') :
    Live c' ∧ (strict → c'.events = c.events) := by
  have hn : Live (c.new_timeout event timeout).1 ∧
      (c.new_timeout event timeout).1.events = c.events :=
    ⟨⟨new_timeout_faint hc.faint event timeout, hc.wants⟩, rfl⟩
  have hcheck : (c.new_timeout event timeout).1.check_events.events = c.check_events.events :=
    check_events_congr rfl rfl rfl
  have hres : (c.new_timeout event timeout).2 =
      (Handler.on_new_timeout c.handler event timeout).2 := rfl
  unfold Io.Handler.take_timeout at h
  split at h <;> rename_i heq <;> rw [heq] at hn hcheck hres
  · cases h
    exact ⟨hn.1, fun _ => hn.2⟩
  · rename_i d err
    have hmild := hm err hres.symm
    have hd : Mild strict d err := ⟨hmild.stays, fun hs hk =>
      hcheck.trans ((hmild.same hs hk).trans hn.2.symm)⟩
    obtain ⟨hl, hev, -⟩ := error_mild hn.1 hd h
    exact ⟨hl, fun hs => (hev hs).trans hn.2⟩

end Callbacks

end XnetSocket.Mildness
