import XnetSocket.Custody

/-!
What the loop does to one connection.

A deed is one kind of thing the loop does; a touch is a deed done to a connection: a method called
on it, with its failure reported to it where the loop reports it at once.

Connections are opened before the loop gets hold of them, so the touches leave out what only
happens to one that is not: a refused connection never gets another socket.
-/

namespace XnetSocket.Touches

open Buffer Runs Connection Lifecycle Evolution Custody

variable {H : Type}

/-! ### Deeds -/

inductive Deed
  /-- A command or a timeout comes or goes. -/
  | wait
  /-- The operating system is asked something. -/
  | ask
  /-- A socket gets its answers. -/
  | supply
  | message
  | close
  | tell
  | read
  | write
  | timeout
  | shut
  /-- A connection joins the slab. -/
  | join
  /-- One joins that the poll refused to watch. -/
  | strand
  /-- A handler is made and passed back. -/
  | turn_away
  /-- A handler is made and dropped. -/
  | drop
  | lose
  /-- The factory hears of a shutdown, and the loop stops. -/
  | announce
  /-- The loop stops. -/
  | stop
  deriving DecidableEq

section Touches

variable [Handler H] [Host]

/-- What is done to one connection; failures are reported to it, except by broadcasts, which
report them later. -/
inductive Touch : Deed → Connection H → Connection H → Prop
  | supply (c : Connection H) (reads : List (Except IoError Bytes))
      (writes : List (Except IoError ℕ)) :
    Touch .supply c { c with socket := { c.socket with reads := reads, writes := writes } }
  | message {c c' : Connection H} {msg : Message} {res : Result Unit}
      (h : c.send_message msg = .ok (c', res)) : Touch .message c c'
  | message_told {c d c' : Connection H} {msg : Message} {err : Error}
      (h : c.send_message msg = .ok (d, .error err)) (he : d.error err = .ok c') :
    Touch .message c c'
  | close {c c' : Connection H} {code : CloseCode} {reason : String} {res : Result Unit}
      (h : c.send_close code reason = .ok (c', res)) : Touch .close c c'
  | tell {c c' : Connection H} {err : Error} (h : c.error err = .ok c') : Touch .tell c c'
  | read {c c' : Connection H} (h : c.read = .ok (c', .ok ())) : Touch .read c c'
  | read_told {c d c' : Connection H} {err : Error} (h : c.read = .ok (d, .error err))
      (he : d.error err = .ok c') : Touch .read c c'
  | write {c c' : Connection H} (h : c.write = (c', .ok ())) : Touch .write c c'
  | write_told {c d c' : Connection H} {err : Error} (h : c.write = (d, .error err))
      (he : d.error err = .ok c') : Touch .write c c'
  | new_timeout {c c' : Connection H} {event : Token} {timeout : TimerHandle}
      (h : Io.Handler.take_timeout event timeout c = .ok c') : Touch .timeout c c'
  | timeout {c c' : Connection H} {event : Token} (h : Io.Handler.trigger event c = .ok c') :
    Touch .timeout c c'
  | shut {c c' : Connection H} (h : c.shutdown = .ok c') : Touch .shut c c'

/-- A new timeout is heard of by the handler; so is its failure. -/
lemma take_timeout_cases {c c' : Connection H} {event : Token} {timeout : TimerHandle}
    (h : Io.Handler.take_timeout event timeout c = .ok c') :
    ∃ handler, c' = { c with handler := handler } ∨
      ∃ err, ({ c with handler := handler } : Connection H).error err = .ok c' := by
  have hn : (c.new_timeout event timeout).1 =
      { c with handler := (Handler.on_new_timeout c.handler event timeout).1 } := rfl
  refine ⟨(Handler.on_new_timeout c.handler event timeout).1, ?_⟩
  unfold Io.Handler.take_timeout at h
  split at h <;> rename_i heq <;> rw [heq] at hn
  · cases h; exact Or.inl hn
  · exact Or.inr ⟨_, by rw [← hn]; exact h⟩

lemma trigger_cases {c c' : Connection H} {event : Token}
    (h : Io.Handler.trigger event c = .ok c') :
    ∃ handler, c' = { c with handler := handler } ∨
      ∃ err, ({ c with handler := handler } : Connection H).error err = .ok c' := by
  have hn : (c.timeout_triggered event).1 =
      { c with handler := (Handler.on_timeout c.handler event).1 } := rfl
  refine ⟨(Handler.on_timeout c.handler event).1, ?_⟩
  unfold Io.Handler.trigger at h
  split at h <;> rename_i heq <;> rw [heq] at hn
  · cases h; exact Or.inl hn
  · exact Or.inr ⟨_, by rw [← hn]; exact h⟩

omit [Handler H] in
lemma send_message_opened {c c' : Connection H} {msg : Message} {res : Result Unit}
    (hc : Opened c) (h : c.send_message msg = .ok (c', res)) : Opened c' := by
  obtain ⟨out, rfl | rfl⟩ := send_message_frame h
  · exact hc
  · exact hc.of_state (check_events_state _)

omit [Handler H] in
lemma write_opened {c c' : Connection H} {res : Result Unit} (hc : Opened c)
    (h : c.write = (c', res)) : Opened c' := by
  obtain ⟨sock, out, ⟨-, hw⟩ | ⟨err, -, hw⟩⟩ := write_frame hc <;> rw [h] at hw <;>
    dsimp only at hw <;> rw [hw]
  · exact hc.of_state (check_events_state _)
  · exact hc

lemma shutdown_opened {c c' : Connection H} (hc : Opened c) (h : c.shutdown = .ok c') :
    Opened c' := by
  have hcall : c.call .shutdown = .ok c' := by simp only [Connection.call, perform, h, ok_bind]
  exact call_opened hc hcall

/-- Whatever is done to an opened connection, it stays opened. -/
theorem Touch.opened {d : Deed} {c c' : Connection H} (hc : Opened c) (h : Touch d c c') :
    Opened c' := by
  cases h with
  | supply reads writes => exact hc
  | message h => exact send_message_opened hc h
  | message_told h he => exact error_opened (send_message_opened hc h) he
  | close h => rw [send_close_opened hc h]; exact Or.inr (check_events_state _)
  | tell h => exact error_opened hc h
  | read h => exact hc.of_state (read_inward h).state
  | read_told h he => exact error_opened (hc.of_state (read_inward h).state) he
  | write h => exact write_opened hc h
  | write_told h he => exact error_opened (write_opened hc h) he
  | new_timeout h =>
    obtain ⟨handler, rfl | ⟨err, he⟩⟩ := take_timeout_cases h
    · exact hc
    · exact error_opened (c := { c with handler := handler }) hc he
  | timeout h =>
    obtain ⟨handler, rfl | ⟨err, he⟩⟩ := trigger_cases h
    · exact hc
    · exact error_opened (c := { c with handler := handler }) hc he
  | shut h => exact shutdown_opened hc h

/-- Whatever is done to a connection, it stays the same one with the same handler. -/
theorem Touch.evolves {d : Deed} {c c' : Connection (Recorded H)} (h : Touch d c c') :
    Evolves c c' := by
  have hwrite : ∀ {d res}, c.write = (d, res) → Evolves c d := fun hw => by
    have := write_evolves c
    rwa [hw] at this
  cases h with
  | supply reads writes => exact .of_handler ⟨rfl, rfl, rfl⟩ rfl
  | message h => exact send_message_evolves h
  | message_told h he => exact (send_message_evolves h).trans (error_evolves he)
  | close h => exact send_close_evolves h
  | tell h => exact error_evolves h
  | read h => exact read_evolves h
  | read_told h he => exact (read_evolves h).trans (error_evolves he)
  | write h => exact hwrite h
  | write_told h he => exact (hwrite h).trans (error_evolves he)
  | new_timeout h => exact take_timeout_evolves h
  | timeout h => exact trigger_evolves h
  | shut h => exact shutdown_evolves h

/-! ### What stops a method -/

/-- Everything that can stop the loop but the assertion that a connection is not being set up. -/
abbrev Mishap (p : Panic) : Prop := p ≠ .debug_assert

/-- A mishap that is no empty slot. -/
abbrev Setback (p : Panic) : Prop := p ≠ .debug_assert ∧ p ≠ .index

omit [Host] in
lemma slice_from_meets (bytes : Bytes) (pos : ℕ) :
    Meets (slice_from bytes pos) Setback fun _ => True := by
  unfold slice_from
  split
  · trivial
  · exact .stop ⟨Panic.noConfusion, Panic.noConfusion⟩

lemma send_message_meets (c : Connection H) (msg : Message) :
    Meets (c.send_message msg) Setback fun r => Touch .message c r.1 := by
  have hbuf : Meets (c.check_buffer_out msg.into_data) Setback fun _ => True := by
    unfold check_buffer_out
    split
    · refine (slice_from_meets _ _).bind fun pending _ _ => ?_
      dsimp only
      split
      · split <;> trivial
      · trivial
    · trivial
  have hsend : Meets (c.send_message msg) Setback fun _ => True := by
    unfold send_message
    split
    · trivial
    · refine hbuf.bind fun r _ _ => ?_
      rcases r with ⟨d, err | u⟩ <;> trivial
  exact hsend.of_ok fun _ h => .message h

/-- A connection that is not being set up can be closed. -/
lemma send_close_meets {c : Connection H} (hc : Opened c) (code : CloseCode) (reason : String) :
    Meets (c.send_close code reason) Setback fun r => Touch .close c r.1 := by
  rcases h : c.send_close code reason with p | ⟨d, res⟩
  · unfold send_close at h
    rcases hc with hs | hs <;> rw [hs] at h <;> cases h
  · exact .close h

lemma close_on_meets {c : Connection H} (hc : Opened c) (err : Error) (panics : Bool)
    (code : CloseCode) : Meets (c.close_on err panics code) Setback fun _ => True := by
  unfold close_on
  split
  · exact .stop ⟨Panic.noConfusion, Panic.noConfusion⟩
  · refine (send_close_meets (c := { c with handler := Handler.on_error c.handler err })
      hc _ _).bind fun r _ _ => ?_
    rcases r with ⟨d, e | u⟩ <;> trivial

omit [Host] in
lemma report_meets (c : Connection H) (err : Error) (panics : Bool) :
    Meets (c.report err panics) Setback fun _ => True := by
  unfold report
  split
  · exact .stop ⟨Panic.noConfusion, Panic.noConfusion⟩
  · trivial

/-- Nor does an error of such a connection meet the assertion. -/
lemma error_meets {c : Connection H} (hc : Opened c) (err : Error) :
    Meets (c.error err) Setback fun d => Touch .tell c d := by
  have herr : Meets (c.error err) Setback fun _ => True := by
    unfold Connection.error
    split
    · split <;> trivial
    · split
      · exact close_on_meets hc _ _ _
      · exact close_on_meets hc _ _ _
      · exact close_on_meets hc _ _ _
      · exact close_on_meets hc _ _ _
      · exact (report_meets c err _).bind fun _ _ _ => trivial
      · exact report_meets c err _
      · exact report_meets c err _
      · exact report_meets c err _
      · exact (report_meets c err _).bind fun _ _ _ => trivial
  exact herr.of_ok fun _ h => .tell h

omit [Handler H] in
lemma buffer_in_loop_meets (fuel : ℕ) (c : Connection H) :
    Meets (c.buffer_in_loop fuel) Setback fun _ => True := by
  induction fuel generalizing c with
  | zero => trivial
  | succ fuel ih =>
    unfold buffer_in_loop
    split
    · trivial
    · trivial
    · dsimp only
      split
      · trivial
      · split
        · refine (slice_from_meets _ _).bind fun unread _ _ => ?_
          split
          · split
            · exact ih _
            · trivial
          · exact ih _
        · trivial

/-- Reading does not stop at the assertion, whatever the handler says. -/
lemma read_meets (c : Connection H) : Meets c.read Setback fun _ => True := by
  unfold Connection.read
  split
  · trivial
  · split
    · trivial
    · refine (buffer_in_loop_meets _ c).bind fun r _ _ => ?_
      rcases r with ⟨d, err | len | len⟩
      · trivial
      · trivial
      · dsimp only
        split
        · trivial
        · split
          · split <;> trivial
          · trivial

lemma shutdown_meets {c : Connection H} (hc : Opened c) :
    Meets c.shutdown Setback fun d => Touch .shut c d := by
  have hshut : Meets c.shutdown Setback fun _ => True := by
    unfold Connection.shutdown
    refine (send_close_meets (c := { c with handler := Handler.on_shutdown c.handler }) hc _ _).bind
      fun r _ _ => ?_
    rcases r with ⟨d, err | u⟩ <;> trivial
  exact hshut.of_ok fun _ h => .shut h

lemma take_timeout_meets {c : Connection H} (hc : Opened c) (event : Token)
    (timeout : TimerHandle) :
    Meets (Io.Handler.take_timeout event timeout c) Setback fun d => Touch .timeout c d := by
  have hnew : Opened (c.new_timeout event timeout).1 := hc
  have htake : Meets (Io.Handler.take_timeout event timeout c) Setback fun _ => True := by
    unfold Io.Handler.take_timeout
    split <;> rename_i heq <;> rw [heq] at hnew
    · trivial
    · exact (error_meets hnew _).mono fun _ _ => trivial
  exact htake.of_ok fun _ h => .new_timeout h

lemma trigger_meets {c : Connection H} (hc : Opened c) (event : Token) :
    Meets (Io.Handler.trigger event c) Setback fun d => Touch .timeout c d := by
  have hnew : Opened (c.timeout_triggered event).1 := hc
  have htrig : Meets (Io.Handler.trigger event c) Setback fun _ => True := by
    unfold Io.Handler.trigger
    split <;> rename_i heq <;> rw [heq] at hnew
    · trivial
    · exact (error_meets hnew _).mono fun _ _ => trivial
  exact htrig.of_ok fun _ h => .timeout h

/-- What is done to a connection with its failure reported to it. -/
def told (r : Connection H × Result Unit) : Except Panic (Connection H) :=
  match r.2 with
  | .ok () => .ok r.1
  | .error err => r.1.error err

lemma told_meets {r : Connection H × Result Unit} (ho : Opened r.1) :
    Meets (told r) Setback fun _ => True := by
  rcases r with ⟨d, err | u⟩
  · exact (error_meets ho err).mono fun _ _ => trivial
  · trivial

/-- A failure is reported to an opened connection. -/
lemma told_of {d : Deed} {c e : Connection H} {err : Error} (he : Opened e)
    (ht : ∀ c', e.error err = .ok c' → Touch d c c') :
    Meets (told (e, .error err)) Setback (Touch d c) :=
  (told_meets (r := (e, .error err)) he).of_ok ht

/-- Something is done to a connection, and a failure is reported to it. -/
def Told (d : Deed) (c : Connection H) (r : Connection H × Result Unit) : Prop :=
  Meets (told r) Mishap fun c' => Touch d c c'

lemma send_message_told {c : Connection H} (hc : Opened c) (msg : Message) :
    Meets (c.send_message msg) Setback fun r => Meets (told r) Setback (Touch .message c) := by
  refine (send_message_meets c msg).of_ok fun r hr => ?_
  rcases r with ⟨d, err | u⟩
  · exact told_of (send_message_opened hc hr) fun _ he => .message_told hr he
  · exact .message hr

lemma send_close_told {c : Connection H} (hc : Opened c) (code : CloseCode) (reason : String) :
    Meets (c.send_close code reason) Setback fun r => Meets (told r) Setback (Touch .close c) := by
  refine (send_close_meets hc code reason).of_ok fun r hr => ?_
  rcases r with ⟨d, err | u⟩
  · cases send_close_res hr
  · exact .close hr

omit [Host] in
/-- What stops short of an empty slot stops short of the assertion. -/
lemma mishap {α : Type} {x : Except Panic α} {Q : α → Prop} (h : Meets x Setback Q) :
    Meets x Mishap Q :=
  h.of_stops fun _ hp => hp.1

lemma read_told {c : Connection H} (hc : Opened c) : Meets c.read Mishap (Told .read c) := by
  refine mishap ((read_meets c).of_ok fun r hr => ?_)
  rcases r with ⟨d, err | u⟩
  · exact mishap (told_of (hc.of_state (read_inward hr).state) fun _ he => .read_told hr he)
  · exact .read hr

lemma write_told {c : Connection H} (hc : Opened c) : Told .write c c.write := by
  rcases hw : c.write with ⟨d, err | u⟩
  · exact mishap (told_of (write_opened hc hw) fun _ he => .write_told hw he)
  · exact .write hw

omit [Handler H] [Host] in
/-- An opened connection never gets another socket. -/
lemma reset_opened {c : Connection H} (hc : Opened c) (os : Os) :
    ∃ err, c.reset os = .ok (c, os, .error err) := by
  unfold reset
  split
  · rcases hc with hs | hs <;> rw [hs] <;> exact ⟨_, rfl⟩
  · exact ⟨_, rfl⟩

/-- Reading, when the event and the interest ask for it. -/
def reading (events : Ready) (c : Connection H) : Except Panic (Connection H) :=
  if (events.and c.events).is_readable then c.read >>= told else .ok c

/-- Writing, when the event and the interest ask for it. -/
def writing (events : Ready) (c : Connection H) : Except Panic (Connection H) :=
  if (events.and c.events).is_writable then told c.write else .ok c

lemma reading_meets {c : Connection H} (ho : Opened c) (events : Ready) :
    Meets (reading events c) Mishap fun d => d = c ∨ Touch .read c d := by
  unfold reading
  split
  · exact (read_told ho).bind fun r _ hr => Meets.mono hr fun _ ht => Or.inr ht
  · exact Or.inl rfl

lemma writing_meets {c : Connection H} (ho : Opened c) (events : Ready) :
    Meets (writing events c) Mishap fun d => d = c ∨ Touch .write c d := by
  unfold writing
  split
  · exact Meets.mono (write_told ho) fun _ ht => Or.inr ht
  · exact Or.inl rfl

lemma reading_opened {c d : Connection H} {events : Ready} (ho : Opened c)
    (hd : reading events c = .ok d) : Opened d := by
  rcases (reading_meets ho events).holds d hd with rfl | ht
  · exact ho
  · exact ht.opened ho

lemma writing_opened {c d : Connection H} {events : Ready} (ho : Opened c)
    (hd : writing events c = .ok d) : Opened d := by
  rcases (writing_meets ho events).holds d hd with rfl | ht
  · exact ho
  · exact ht.opened ho

/-- Reading and writing keep the connection the same. -/
lemma exchange_evolves {c e : Connection (Recorded H)} {events : Ready} (ho : Opened c)
    (he : (reading events c >>= writing events) = .ok e) : Evolves c e := by
  obtain ⟨d, hd, he⟩ := bind_eq_ok.mp he
  have hread : Evolves c d := by
    rcases (reading_meets ho events).holds d hd with rfl | ht
    · exact .refl d
    · exact ht.evolves
  rcases (writing_meets (reading_opened ho hd) events).holds e he with rfl | ht
  · exact hread
  · exact hread.trans ht.evolves

end Touches

end XnetSocket.Touches
