import XnetSocket.Deeds
import XnetSocket.Outbound

/-!
The closing handshake, of which only the request is left.

A connection in the slab is open until it is asked to close, and awaits the close from then on;
what it had left to send it may still send. The other states of the handshake are never entered,
and what is guarded against a connection that is still being set up never happens to one in the
slab.
-/

namespace XnetSocket.Handshake

open Buffer Runs Connection Lifecycle Evolution Custody Joining Touches Deeds Outbound

variable {F H : Type}

/-- What reading and writing say of a connection that is still being set up. -/
def not_changed : Error := .new .Internal "connect state not change"

/-- A connection that awaits the close still does, and nothing was appended to its output, of which
no less has been written. -/
def Awaiting (c c' : Connection H) : Prop :=
  c.state = .AwaitingClose → c'.state = .AwaitingClose ∧
    c'.out_buffer.inner = c.out_buffer.inner ∧ c.out_buffer.position ≤ c'.out_buffer.position

/-- Nothing is done to the output. -/
lemma Awaiting.of_output {c c' : Connection H}
    (hs : c.state = .AwaitingClose → c'.state = .AwaitingClose)
    (hb : c'.out_buffer = c.out_buffer) : Awaiting c c' :=
  fun h => ⟨hs h, by rw [hb], by rw [hb]⟩

lemma Awaiting.refl (c : Connection H) : Awaiting c c := .of_output id rfl

lemma Awaiting.trans {c d e : Connection H} (h : Awaiting c d) (h' : Awaiting d e) :
    Awaiting c e := by
  intro hs
  obtain ⟨hd, hb, hp⟩ := h hs
  obtain ⟨he, hb', hp'⟩ := h' hd
  exact ⟨he, hb'.trans hb, hp.trans hp'⟩

/-! ### The methods -/

lemma send_close_awaiting {c c' : Connection H} {code : CloseCode} {reason : String}
    {res : Result Unit} (h : c.send_close code reason = .ok (c', res)) : Awaiting c c' := by
  refine .of_output (fun hs => ?_) (send_close_calm h).out_buffer
  rw [send_close_opened (Or.inr hs) h]
  exact check_events_state _

section Methods

variable [Host]

lemma send_message_awaiting {c c' : Connection H} {msg : Message} {res : Result Unit}
    (h : c.send_message msg = .ok (c', res)) : Awaiting c c' := by
  intro hs
  have hclosing : c.state.is_closing = true := by rw [hs]; rfl
  unfold send_message at h
  rw [if_pos hclosing] at h
  cases h
  exact ⟨hs, rfl, le_refl _⟩

/-- Writing moves the position only. -/
lemma write_awaiting (c : Connection H) : Awaiting c c.write.1 := by
  intro hs
  obtain ⟨n, hout⟩ := write_writes c
  refine ⟨?_, by rw [hout.out_buffer]; rfl, by rw [hout.out_buffer]; exact Nat.le_add_right _ _⟩
  obtain ⟨sock, out, ⟨-, hw⟩ | ⟨err, -, hw⟩⟩ := write_frame (c := c) (Or.inr hs) <;> rw [hw]
  · exact (check_events_state _).trans hs
  · exact hs

variable [Handler H]

omit [Host] in
lemma close_on_awaiting {c c' : Connection H} {err : Error} {panics : Bool} {code : CloseCode}
    (h : c.close_on err panics code = .ok c') : Awaiting c c' := by
  cases panics
  · rw [close_on_eq, bind_eq_ok] at h
    obtain ⟨⟨d, res⟩, hs, h⟩ := h
    cases h
    have hc : Awaiting c ({ c with handler := Handler.on_error c.handler err } : Connection H) :=
      .of_output id rfl
    exact hc.trans (send_close_awaiting hs)
  · cases h

lemma error_awaiting {c c' : Connection H} {err : Error} (h : c.error err = .ok c') :
    Awaiting c c' := by
  have hreport : ∀ {d panics}, c.report err panics = .ok d → Awaiting c d := fun hr => by
    rw [report_eq hr]
    exact .of_output id rfl
  have hlost : ∀ d : Connection H, Awaiting d d.disconnect := fun d =>
    .of_output (disconnect_state d).trans (disconnect_calm d).out_buffer
  unfold Connection.error at h
  split at h
  · rename_i req res hs
    intro hs'
    rw [hs] at hs'
    cases hs'
  · split at h
    · exact close_on_awaiting h
    · exact close_on_awaiting h
    · exact close_on_awaiting h
    · exact close_on_awaiting h
    · obtain ⟨d, hd, h⟩ := bind_eq_ok.mp h
      cases h
      exact (hreport hd).trans (hlost d)
    · exact hreport h
    · exact hreport h
    · exact hreport h
    · obtain ⟨d, hd, h⟩ := bind_eq_ok.mp h
      cases h
      exact (hreport hd).trans (hlost d)

lemma read_awaiting {c c' : Connection H} {res : Result Unit} (h : c.read = .ok (c', res)) :
    Awaiting c c' :=
  .of_output (read_inward h).state.trans (read_inward h).out_buffer

omit [Host] in
lemma shutdown_awaiting {c c' : Connection H} (h : c.shutdown = .ok c') : Awaiting c c' := by
  rw [shutdown_eq, bind_eq_ok] at h
  obtain ⟨⟨d, res⟩, hs, h⟩ := h
  cases h
  have hc : Awaiting c ({ c with handler := Handler.on_shutdown c.handler } : Connection H) :=
    .of_output id rfl
  exact hc.trans (send_close_awaiting hs)

/-- **Closing is for good**, whatever is called on the connection. -/
theorem call_awaiting {c c' : Connection H} {call : Call} (h : c.call call = .ok c') :
    Awaiting c c' := by
  obtain ⟨⟨d, res⟩, hp, h⟩ := bind_eq_ok.mp h
  cases h
  cases call with
  | as_server => cases hp; exact .of_output id rfl
  | as_client url addrs =>
    intro hs
    simp only [perform, as_client, hs] at hp
    cases hp
    exact ⟨hs, rfl, le_refl _⟩
  | send_message msg => exact send_message_awaiting hp
  | send_close code reason =>
    have hs : c.send_close code reason = .ok (c', res) := hp
    exact send_close_awaiting hs
  | error err =>
    obtain ⟨d, hd, hp⟩ := bind_eq_ok.mp hp
    cases hp
    exact error_awaiting hd
  | read reads => exact read_awaiting (c := c.with_reads reads) hp
  | write answer =>
    have hw := write_awaiting (c.with_writes [answer])
    rw [Except.ok.inj hp] at hw
    exact hw
  | shutdown =>
    obtain ⟨d, hd, hp⟩ := bind_eq_ok.mp hp
    cases hp
    exact shutdown_awaiting hd
  | disconnect =>
    cases hp
    exact .of_output (disconnect_state c).trans (disconnect_calm c).out_buffer
  | new_timeout event timeout => cases hp; exact .of_output id rfl
  | timeout_triggered event => cases hp; exact .of_output id rfl

/-- And whatever the loop does to it. -/
lemma touch_awaiting {d : Deed} {c c' : Connection H} (h : Touch d c c') : Awaiting c c' := by
  have hwrite : ∀ {d res}, c.write = (d, res) → Awaiting c d := fun hw => by
    have := write_awaiting c
    rwa [hw] at this
  have hheard : ∀ handler : H, Awaiting c { c with handler := handler } := fun _ =>
    .of_output id rfl
  cases h with
  | supply reads writes => exact .of_output id rfl
  | message h => exact send_message_awaiting h
  | message_told h he => exact (send_message_awaiting h).trans (error_awaiting he)
  | close h => exact send_close_awaiting h
  | tell h => exact error_awaiting h
  | read h => exact read_awaiting h
  | read_told h he => exact (read_awaiting h).trans (error_awaiting he)
  | write h => exact hwrite h
  | write_told h he => exact (hwrite h).trans (error_awaiting he)
  | new_timeout h =>
    obtain ⟨handler, rfl | ⟨err, he⟩⟩ := take_timeout_cases h
    · exact hheard handler
    · exact (hheard handler).trans (error_awaiting he)
  | timeout h =>
    obtain ⟨handler, rfl | ⟨err, he⟩⟩ := trigger_cases h
    · exact hheard handler
    · exact (hheard handler).trans (error_awaiting he)
  | shut h => exact shutdown_awaiting h

/-! ### Being set up -/

omit [Handler H] in
/-- Filling the input buffer has no internal errors. -/
lemma buffer_in_loop_error (fuel : ℕ) {c c' : Connection H} {err : Error}
    (h : c.buffer_in_loop fuel = .ok (c', .error err)) : err.kind ≠ .Internal := by
  induction fuel generalizing c with
  | zero => cases h
  | succ fuel ih =>
    unfold buffer_in_loop at h
    split at h
    · cases h
      exact Kind.noConfusion
    · cases h
    · dsimp only at h
      split at h
      · cases h
      · split at h
        · obtain ⟨unread, -, h⟩ := bind_eq_ok.mp h
          split at h
          · split at h
            · exact ih h
            · cases h
              exact Kind.noConfusion
          · exact ih h
        · cases h

/-- Reading an opened connection says that it is being set up only when its handler does. -/
theorem read_not_changed {c c' : Connection H} (hc : Opened c)
    (h : c.read = .ok (c', .error not_changed)) :
    ∃ text, (Handler.on_message c.handler (.text text)).2 = .error not_changed := by
  rcases read_ok h with ⟨rfl, hs⟩ | ⟨d, r, hb, hf⟩
  · rw [hc.not_connecting] at hs
    cases hs
  obtain ⟨-, -, hh⟩ := buffer_in_loop_inward _ hb
  cases hf with
  | failed => exact absurd rfl (buffer_in_loop_error _ hb)
  | refused hx =>
    unfold read_data at hx
    dsimp only at hx
    split at hx
    · cases hx
    · rename_i text ht
      exact ⟨text, by rw [← hh]; exact congrArg Prod.snd hx⟩

omit [Handler H] in
/-- Writing one never does. -/
lemma write_not_changed {c c' : Connection H} (hc : Opened c) :
    c.write ≠ (c', .error not_changed) := by
  intro h
  obtain ⟨sock, out, ⟨hr, -⟩ | ⟨err, hr, -⟩⟩ := write_frame hc <;> rw [h] at hr <;> cases hr

end Methods

/-! ### Runs -/

section Runs

variable [Factory F H] [Handler H] [Host]

/-- What a reached state answers for: its connections are opened, whatever is called on one leaves
it opened and closing is for good, and nothing finds a connection that is being set up, neither a
read or a write of the loop nor the assertion of a close request. -/
structure Settled (h : Watched F H) : Prop where
  opened : AllOpened h
  calls : ∀ t c call c', h.connections.get t = some c → c.call call = .ok c' →
    Opened c' ∧ Awaiting c c'
  reads : ∀ (evt : Io.Event) c c', (h.supply evt.token evt.answers).connections.get evt.token =
    some c → c.read = .ok (c', .error not_changed) →
    ∃ text, (Handler.on_message c.handler (.text text)).2 = .error not_changed
  writes : ∀ (evt : Io.Event) g done c c', (h.supply evt.token evt.answers).attempt evt.token
    Ready.is_readable evt.kind Connection.read = .ok (g, done) →
    g.connections.get evt.token = some c → c.write ≠ (c', .error not_changed)
  asserts : ∀ s, h.step s = .error .debug_assert → ∃ kind a, s = .on SYSTEM kind a

/-- The connections that await the close and are still there await it still, and nothing was
appended to their output. -/
def KeepAwaiting (h h' : Watched F H) : Prop :=
  ∀ t c t' c', h.connections.get t = some c → h'.connections.get t' = some c' →
    c'.handler.birth = c.handler.birth → Awaiting c c'

lemma opened_settled {h : Watched F H} (ho : AllOpened h) : Settled h := by
  have hsup : ∀ t a, AllOpened (h.supply t a) := fun t a => (supply_deeds h t a).opened ho
  refine ⟨ho, fun t c call c' hc hcall => ⟨call_opened (ho t c hc) hcall, call_awaiting hcall⟩,
    fun evt c c' hc => read_not_changed (hsup _ _ _ c hc), fun evt g done c c' hg hc => ?_,
    fun s hs => (step_deeds ho s).of_error hs rfl⟩
  exact write_not_changed (((read_deeds (hsup _ _) _ _).holds _ hg).2.opened (hsup _ _) _ c hc)

/-- **The states of a connection.** In every state a run reaches the connections are open or
await the close, and a connection that awaits it does so for the rest of the run. -/
theorem states_settled {inner : F} {settings : Settings} {addr : Option SocketAddr}
    {steps : List Io.Step} {h : Watched F H}
    (hr : Io.Handler.execute (Ledger.blank inner) settings addr steps = .ok h) :
    Settled h ∧ ∀ later h', run Io.Handler.step h later = .ok h' → KeepAwaiting h h' := by
  have ho := execute_opened hr
  refine ⟨opened_settled ho, fun later h' hl t c t' c' hc hc' hb => ?_⟩
  have hstems := run_stems Awaiting.refl (fun _ _ _ => Awaiting.trans)
    (fun _ _ _ _ ht => touch_awaiting ht) ho hl
  exact (hstems.of_birth (execute_sound hr).numbered.accounted hc hc' hb).2

end Runs

/-- A peer connects and is asked to close, and a message for it comes too late. -/
def closes_then_sends : List Io.Step :=
  [accepts_peer, .post (Sender.close ⟨0, 0⟩ .Normal), takes_command]

theorem states_settled_late_message :
    ∃ h h' c c', serve calm closes_then_sends = .ok h ∧
      run serve_on h [.post (Sender.send ⟨0, 0⟩ (.text "late")), takes_command] = .ok h' ∧
      h.connections.get 0 = some c ∧ h'.connections.get 0 = some c' ∧
      c.state = .AwaitingClose ∧ Awaiting c c' := by
  have hrun : Returns (serve calm closes_then_sends) fun h =>
      ((h.connections.get 0).map fun c => (c.state.is_closing, c.handler.birth)) = some (true, 0) ∧
      Returns (run serve_on h [.post (Sender.send ⟨0, 0⟩ (.text "late")), takes_command]) fun h' =>
        (h'.connections.get 0).map (·.handler.birth) = some 0 := by decide +kernel
  obtain ⟨h, hh, hc, h', hl, hc'⟩ := hrun
  obtain ⟨c, hc, hst⟩ := Option.map_eq_some_iff.mp hc
  obtain ⟨c', hc', hb⟩ := Option.map_eq_some_iff.mp hc'
  obtain ⟨hclosing, hb'⟩ := Prod.mk.inj hst
  obtain ⟨⟨hopen, -⟩, hkeep⟩ := @states_settled _ _ _ _ plain _ _ _ _ _ hh
  refine ⟨h, h', c, c', hh, hl, hc, hc', ?_, hkeep _ h' hl 0 c 0 c' hc hc' (hb.trans hb'.symm)⟩
  rcases hopen 0 c hc with hs | hs
  · rw [hs] at hclosing
    cases hclosing
  · exact hs

end XnetSocket.Handshake
