import XnetSocket.Chunking
import XnetSocket.Closing
import XnetSocket.Housekeeping

/-!
Why nobody lets go.

A connection leaves its slab when an error disconnects it, or when it notices the end of its
stream. As long as nothing fails the first does not happen, and the second only when the other
connection has left before; so of two joined connections neither is the first to leave.
-/

namespace XnetSocket.Lingering

open Buffer Runs Connection Inbound Outbound Lifecycle Evolution Custody Joining Touches Deeds
open Chunking Conservation Fallback Mildness Occupancy Upkeep Tidying Housekeeping Network Closing

/-- The only errors among the answers are that the socket would block. -/
def OnlyBlocks {α : Type} (answers : List (Except IoError α)) : Prop :=
  ∀ err, .error err ∈ answers → err.kind = .WouldBlock

/-! ### Reading and writing -/

section Connections

variable {H : Type} [Host]

/-- What filling the input buffer does: it reports the end of the stream only after meeting it,
and an error that disconnects only when the socket fails. -/
structure Fills (c d : Connection H) (r : Result (Option ℕ)) : Prop where
  writes : d.socket.writes = c.socket.writes
  log : ∃ new, d.socket.log = c.socket.log ++ new ∧ (r = .ok (some 0) → ∃ e ∈ new, e.2 = [])
  failure : OnlyBlocks c.socket.reads → ∀ err, r = .error err → disconnects err.kind = false

omit [Host] in
/-- Nothing came. -/
lemma Fills.nothing {c d : Connection H} {r : Result (Option ℕ)}
    (hw : d.socket.writes = c.socket.writes) (hl : d.socket.log = c.socket.log)
    (hr : r ≠ .ok (some 0))
    (hf : OnlyBlocks c.socket.reads → ∀ err, r = .error err → disconnects err.kind = false) :
    Fills c d r :=
  ⟨hw, ⟨[], by rw [hl, List.append_nil], fun h => absurd h hr⟩, hf⟩

lemma try_read_buf_writes (s : TcpStream) (buf : Vec UInt8) :
    (s.try_read_buf buf).1.writes = s.writes := by
  have hread : ∀ room, (s.read room).1.writes = s.writes := by
    intro room
    unfold TcpStream.read
    split <;> rfl
  unfold TcpStream.try_read_buf
  dsimp only
  split <;> exact hread _

lemma buffer_in_loop_fills (fuel : ℕ) {c d : Connection H} {r : Result (Option ℕ)}
    (h : c.buffer_in_loop fuel = .ok (d, r)) : Fills c d r := by
  induction fuel generalizing c with
  | zero =>
    cases h
    exact .nothing rfl rfl (by simp) fun _ _ he => by cases he
  | succ fuel ih =>
    have hw := try_read_buf_writes c.socket c.in_buffer.inner
    rcases try_read_buf_cases c.socket c.in_buffer.inner with ⟨s', hb⟩ | ⟨s', err, hf⟩ |
      ⟨s', buf', got, hg⟩
    · simp only [buffer_in_loop, hb.eq] at h hw
      cases h
      exact .nothing hw hb.log (by simp) fun _ _ he => by cases he
    · simp only [buffer_in_loop, hf.eq] at h hw
      cases h
      exact .nothing hw hf.log (by simp) fun hr => absurd (hr err hf.mem) hf.kind
    · simp only [buffer_in_loop, hg.eq] at h hw
      -- the loop goes on
      have hnext : ∀ buf : Cursor UInt8, ({ c with
          socket := s', in_buffer := buf } : Connection H).buffer_in_loop fuel = .ok (d, r) →
          Fills c d r := by
        intro buf hrun
        obtain ⟨hwrites, ⟨new, hlog, hend⟩, hfail⟩ := ih hrun
        refine ⟨hwrites.trans hw, ⟨(room c.in_buffer.inner, got) :: new, ?_, fun he => ?_⟩,
          fun hr => hfail fun err herr => ?_⟩
        · rw [hlog, hg.log, List.append_assoc]
          rfl
        · obtain ⟨e, he, h0⟩ := hend he
          exact ⟨e, List.mem_cons_of_mem _ he, h0⟩
        · exact hr err (List.mem_of_mem_tail (hg.reads ▸ herr))
      -- it ends here
      have hlast : ∀ {e : Connection H} {r' : Result (Option ℕ)}, e.socket = s' →
          (r' = .ok (some 0) → got = []) →
          (∀ err, r' = .error err → disconnects err.kind = false) → Fills c e r' := by
        intro e r' hs hgot hk
        refine ⟨by rw [hs, hw], ⟨[(room c.in_buffer.inner, got)], by rw [hs, hg.log], fun he => ?_⟩,
          fun _ => hk⟩
        exact ⟨_, List.mem_singleton_self _, hgot he⟩
      split at h
      · rename_i h0
        cases h
        exact hlast rfl (fun _ => List.length_eq_zero_iff.mp h0) fun _ he => by cases he
      rename_i hne
      split at h
      · obtain ⟨unread, -, h⟩ := bind_eq_ok.mp h
        split at h
        · split at h
          · exact hnext _ h
          · cases h
            exact hlast rfl (by simp) fun _ he => by cases he; rfl
        · exact hnext _ h
      · cases h
        refine hlast rfl (fun he => absurd ?_ hne) fun _ he => by cases he
        have hlen : buf'.data.length = 0 := by simpa [Cursor.get_ref, Vec.len] using he
        rw [hg.data, List.length_append] at hlen
        omega

omit [Host] in
/-- Writing fails only as the socket does. -/
lemma try_write_buf_error {s t : TcpStream} {buf out : Cursor UInt8} {err : IoError}
    (h : s.try_write_buf buf = (t, out, .error err)) :
    .error err ∈ s.writes ∧ err.kind ≠ .WouldBlock := by
  unfold TcpStream.try_write_buf TcpStream.write at h
  rcases hs : s.writes with _ | ⟨e | n, rest⟩ <;> simp only [hs, map_non_block] at h
  · simp [would_block] at h
  · split at h <;> rename_i heq
    · split at heq <;> cases heq
    · cases h
    · split at heq <;> rename_i hk <;> cases heq
      cases h
      exact ⟨List.mem_cons_self, hk⟩
  · cases h

lemma write_stays {c : Connection H} (hc : Opened c) (hw : OnlyBlocks c.socket.writes) :
    c.write.2 = .ok () := by
  have hn : c.socket.is_negotiating = false := rfl
  rcases ht : c.socket.try_write_buf c.out_buffer with ⟨sock, out, err | len⟩
  · obtain ⟨hmem, hk⟩ := try_write_buf_error ht
    exact absurd (hw err hmem) hk
  · rcases hc with hs | hs <;> simp [Connection.write, hn, State.is_connecting, ht, hs]

/-- Handlers whose answers to messages and timeouts are never errors that disconnect. -/
structure Meek (H : Type) [Handler H] : Prop where
  message : ∀ (h : H) msg err, (Handler.on_message h msg).2 = .error err →
    disconnects err.kind = false
  timeout : ∀ (h : H) event err, (Handler.on_timeout h event).2 = .error err →
    disconnects err.kind = false

variable [Handler H]

/-- The end of the stream was met on the way. -/
def MetEnd (c c' : Connection H) : Prop :=
  ∃ new, c'.socket.log = c.socket.log ++ new ∧ ∃ e ∈ new, e.2 = []

omit [Host] in
lemma read_data_meek (hm : Meek H) {c d : Connection (Recorded H)} {err : Error}
    (h : c.read_data = (d, .error err)) : disconnects err.kind = false := by
  unfold read_data at h
  dsimp only at h
  split at h
  · cases h
    rfl
  · exact hm.message _ _ err (Prod.mk.inj h).2

/-- A read leaves the connection live, with an error at most that does not disconnect, unless it
meets the end of the stream. -/
lemma read_stays (hm : Meek H) {c c' : Connection (Recorded H)} {res : Result Unit} (hc : Live c)
    (hr : OnlyBlocks c.socket.reads) (h : c.read = .ok (c', res)) :
    c'.socket.writes = c.socket.writes ∧
      (MetEnd c c' ∨ Live c' ∧ ∀ err, res = .error err → disconnects err.kind = false) := by
  rcases read_ok h with ⟨rfl, hs⟩ | ⟨d, r, hb, hf⟩
  · rw [hc.faint.opened.not_connecting] at hs
    cases hs
  obtain ⟨hwrites, ⟨new, hlog, hend⟩, hfail⟩ := buffer_in_loop_fills _ hb
  have hd := buffer_in_live hc hb
  have hdata : ∀ {e res}, d.read_data = (e, res) → e.socket = d.socket ∧ Live e := fun hx => by
    have hs := read_data_socket d
    have hl := read_data_live hd
    rw [hx] at hs hl
    exact ⟨hs, hl⟩
  cases hf with
  | failed err => exact ⟨hwrites, Or.inr ⟨hd, fun _ he => by cases he; exact hfail hr err rfl⟩⟩
  | blocked => exact ⟨hwrites, Or.inr ⟨hd, fun _ he => by cases he⟩⟩
  | refused hx =>
    refine ⟨(hdata hx).1 ▸ hwrites, Or.inr ⟨(hdata hx).2, fun err he => ?_⟩⟩
    cases he
    exact read_data_meek hm hx
  | handed hx => exact ⟨(hdata hx).1 ▸ hwrites, Or.inr ⟨(hdata hx).2, fun _ he => by cases he⟩⟩
  | half_closed hx =>
    have hs := (hdata hx).1
    exact ⟨hs ▸ hwrites, Or.inl ⟨new, hs ▸ hlog, hend rfl⟩⟩
  | @closed e hx =>
    have hs := (disconnect_calm e).socket.trans (hdata hx).1
    exact ⟨hs ▸ hwrites, Or.inl ⟨new, hs ▸ hlog, hend rfl⟩⟩

/-- **An exchange leaves the connection live**, unless it meets the end of the stream. -/
theorem exchange_stays (hm : Meek H) {events : Ready} {c e : Connection (Recorded H)}
    (hc : Live c) (hr : OnlyBlocks c.socket.reads) (hw : OnlyBlocks c.socket.writes)
    (h : exchange events c = .ok e) : MetEnd c e ∨ Live e := by
  obtain ⟨d, hd, he⟩ := bind_eq_ok.mp h
  have hread : d.socket.writes = c.socket.writes ∧ (MetEnd c d ∨ Live d) := by
    unfold reading at hd
    split at hd
    · obtain ⟨⟨d', res⟩, hread, hd⟩ := bind_eq_ok.mp hd
      obtain ⟨hwrites, hor⟩ := read_stays hm hc hr hread
      rcases res with err | u
      · have hs := (error_calm (show d'.error err = .ok d from hd)).socket
        refine ⟨hs ▸ hwrites, hor.imp (fun hend => ?_) fun hl => error_stays hl.1 (hl.2 err rfl) hd⟩
        unfold MetEnd
        rw [hs]
        exact hend
      · cases hd
        exact ⟨hwrites, hor.imp id And.left⟩
    · cases hd
      exact ⟨rfl, Or.inr hc⟩
  refine hread.2.imp (fun hend => ?_) fun hl => ?_
  · unfold MetEnd
    rw [writing_log he]
    exact hend
  · unfold writing at he
    split at he
    · have hok := write_stays hl.faint.opened (hread.1 ▸ hw)
      have hlive := write_live hl
      rcases hwr : d.write with ⟨d', res⟩
      rw [hwr] at hok hlive he
      cases hok
      cases he
      rcases hlive with ⟨-, hl⟩ | ⟨_, hres, -⟩
      · exact hl
      · cases hres
    · cases he
      exact hl

end Connections

/-! ### One loop -/

section Loops

variable {F H : Type} [Factory F H] [Handler H] [Host] {h h' : Watched F H}

/-- Nothing fails in the step: the poll agrees, the sockets at most block, and the command reports
only mild errors. -/
structure Smooth (h : Watched F H) (st : Io.Step) : Prop where
  agreeing : Agreeing st
  mild : MildStep False h st
  reads : ∀ evt, st = .input (.event evt) → OnlyBlocks evt.answers.reads
  writes : ∀ evt, st = .input (.event evt) → OnlyBlocks evt.answers.writes

/-- A connection that is still live after an event stays. -/
lemma check_active_stays {t : Token} {c e : Connection (Recorded H)} (hp : h.poll.Agrees)
    (hc : h.connections.get t = some c) (hev : Evolves c e) (hl : Live e)
    (hr : (h.put t e).check_active (e.events.is_readable || e.events.is_writable) t = .ok h') :
    Stays h h' := by
  have hput : (h.put t e).poll.Agrees := hp
  unfold Io.Handler.check_active at hr
  rw [at_slot_of_get (get_put hc e), ok_bind, if_pos hl.wants, schedule_agrees hput] at hr
  cases hr
  intro j d hd
  by_cases hj : t = j
  · subst hj
    rw [hc, Option.some.injEq] at hd
    subst hd
    exact ⟨e, get_put hc e, hev⟩
  · exact ⟨d, (Slab.get_set_ne hj).trans hd, .refl d⟩

lemma expire_stays (hm : Meek H) {number : ℕ} (hw : Well False h)
    (he : h.expire number = .ok h') : Stays h h' := by
  rcases expire_cases he with ⟨-, rfl⟩ | ⟨timeout, -, ht⟩
  · exact fun t c hc => ⟨c, hc, .refl c⟩
  · rcases handle_timeout_cases ht with ⟨-, rfl⟩ | ⟨c, e, hc, htrig, he⟩
    · exact fun t c hc => ⟨c, hc, .refl c⟩
    · have hlive := (hw.kept _ c hc).live
      have hl : Live e := by
        have hn : Live (c.timeout_triggered timeout.event).1 :=
          ⟨timeout_triggered_faint hlive.faint timeout.event, hlive.wants⟩
        have hres : (c.timeout_triggered timeout.event).2 =
            (Handler.on_timeout c.handler.inner timeout.event).2 := rfl
        unfold Io.Handler.trigger at htrig
        split at htrig <;> rename_i heq <;> rw [heq] at hn hres
        · cases htrig
          exact hn
        · exact error_stays hn (hm.timeout _ _ _ hres.symm) htrig
      exact check_active_stays (h := { h with timer := h.timer.expire number }) hw.agrees hc
        (trigger_evolves htrig) hl he

/-- The timeouts that are due remove nobody. -/
lemma expire_all_stays (hm : Meek H) {due : List ℕ} (hw : Well False h)
    (he : due.foldlM Io.Handler.expire h = .ok h') : Stays h h' := by
  induction due generalizing h with
  | nil =>
    cases he
    exact fun t c hc => ⟨c, hc, .refl c⟩
  | cons number due ih =>
    rw [List.foldlM_cons] at he
    obtain ⟨d, hd, he⟩ := bind_eq_ok.mp he
    exact (expire_stays hm hw hd).trans (ih (expire_well hw hd).well he)

/-- An event of a socket is about its own connection only. -/
lemma handle_socket_others {t j : Token} {events : Ready} {c : Connection (Recorded H)}
    (hc : h.connections.get t = some c) (ho : Opened c) (hj : t ≠ j)
    (hs : h.handle_socket t events = .ok h') : h'.connections.get j = h.connections.get j := by
  rw [handle_socket_eq hc ho] at hs
  obtain ⟨d, -, hs⟩ := bind_eq_ok.mp hs
  obtain ⟨e, -, hs⟩ := bind_eq_ok.mp hs
  rcases check_active_slots hs with hslots | hslots
  · rw [hslots]
    exact Slab.get_set_ne hj
  · rw [hslots, if_neg hj]
    exact Slab.get_set_ne hj

/-- The connection of the event stays, unless its socket meets the end of its stream. -/
lemma handle_socket_stays (hm : Meek H) {t : Token} {events : Ready} {c e : Connection (Recorded H)}
    (hw : Well False h) (hc : h.connections.get t = some c) (hr : OnlyBlocks c.socket.reads)
    (hwr : OnlyBlocks c.socket.writes) (he : exchange events c = .ok e) (hend : ¬ MetEnd c e)
    (hs : h.handle_socket t events = .ok h') : Stays h h' := by
  have hlive := (hw.kept t c hc).live
  have ho := hlive.faint.opened
  have hl := (exchange_stays hm hlive hr hwr he).resolve_left hend
  have hev := exchange_evolves ho he
  obtain ⟨d, hd, he⟩ := bind_eq_ok.mp he
  rw [handle_socket_eq hc ho, hd, ok_bind, he, ok_bind] at hs
  exact check_active_stays hw.agrees hc hev hl hs

omit [Factory F H] in
/-- A connection that meets the end of its stream has traffic that ends. -/
lemma traffic_ends {evt : Io.Event} {c d e : Connection (Recorded H)}
    (hc : h.connections.get evt.token = some c)
    (hd : (h.supply evt.token evt.answers).connections.get evt.token = some d)
    (he : exchange evt.kind d = .ok e) (hend : MetEnd d e) :
    ∃ x, traffic h (.input (.event evt)) = some x ∧ x.birth = c.handler.birth ∧ x.ends = true := by
  have hbirth : d.handler.birth = c.handler.birth := by
    rw [supply_slot hc, Option.some.injEq] at hd
    rw [← hd]
  obtain ⟨new, hlog, y, hy, h0⟩ := hend
  unfold traffic
  simp only [hd, he]
  refine ⟨_, rfl, hbirth, ?_⟩
  simp only [Traffic.ends, hlog, List.drop_left, List.any_map, List.any_eq_true]
  exact ⟨y, hy, by simp [h0]⟩

/-- An event of a socket removes only a connection that reads the end of its stream. -/
lemma socket_stays (hm : Meek H) {evt : Io.Event} (hw : Well False h)
    (hsm : Smooth h (.input (.event evt)))
    (he : (h.supply evt.token evt.answers).handle_socket evt.token evt.kind = .ok h') {t : Token}
    {c : Connection (Recorded H)} (hc : h.connections.get t = some c)
    (hend : ∀ x ∈ traffic h (.input (.event evt)), x.ends = true →
      x.birth ≠ c.handler.birth) :
    ∃ c', h'.connections.get t = some c' ∧ Evolves c c' := by
  have hsup : Well False (h.supply evt.token evt.answers) := supply_well hw hsm.agreeing
  obtain ⟨c1, hc1, he1⟩ := (supply_grows h evt.token evt.answers).stays t c hc
  obtain ⟨⟨_, _⟩, hat, -⟩ := bind_eq_ok.mp he
  obtain ⟨d, hat, -⟩ := bind_eq_ok.mp hat
  have hd := at_slot_eq hat
  have ho := (hsup.kept _ d hd).live.faint.opened
  by_cases ht : evt.token = t
  · subst ht
    have hslot := supply_slot hc evt.answers
    rw [hc1, Option.some.injEq] at hslot
    obtain ⟨e, hex⟩ : ∃ e, exchange evt.kind c1 = .ok e := by
      have hlet := he
      rw [handle_socket_eq hc1 (by rw [hslot]; exact (hw.kept _ c hc).live.faint.opened)] at hlet
      obtain ⟨d, hd, hlet⟩ := bind_eq_ok.mp hlet
      obtain ⟨e, he, -⟩ := bind_eq_ok.mp hlet
      exact ⟨e, bind_eq_ok.mpr ⟨d, hd, he⟩⟩
    have hmet : ¬ MetEnd c1 e := fun hmet => by
      obtain ⟨x, hx, hb, hends⟩ := traffic_ends hc hc1 hex hmet
      exact hend x hx hends hb
    obtain ⟨c', hc', he'⟩ := handle_socket_stays hm hsup hc1 (by rw [hslot]; exact hsm.reads _ rfl)
      (by rw [hslot]; exact hsm.writes _ rfl) hex hmet he _ c1 hc1
    exact ⟨c', hc', he1.trans he'⟩
  · exact ⟨c1, (handle_socket_others hd ho ht he).trans hc1, he1⟩

/-- **Nobody leaves in a smooth step** but a connection that reads the end of its stream. -/
theorem step_stays (hm : Meek H) {st : Io.Step} (hs : Sound h) (hw : Well False h)
    (hsm : Smooth h st) (hst : h.step st = .ok h') {t : Token} {c : Connection (Recorded H)}
    (hc : h.connections.get t = some c)
    (hend : ∀ x ∈ traffic h st, x.ends = true → x.birth ≠ c.handler.birth) :
    ∃ c', h'.connections.get t = some c' ∧ Evolves c c' := by
  by_cases hloop : ∀ evt, st = .input (.event evt) → evt.token = ALL ∨ evt.token = QUEUE
  · exact (step_grows hs hw hsm.agreeing hsm.mild hst hloop).2.stays t c hc
  obtain ⟨evt, hevt⟩ := not_forall.mp hloop
  obtain ⟨rfl, htok⟩ := Classical.not_imp.mp hevt
  obtain ⟨hall, hqueue⟩ := not_or.mp htok
  have he : (h.supply evt.token evt.answers).handle_event evt.token evt.kind = .ok h' := hst
  unfold Io.Handler.handle_event at he
  rw [if_neg hall, if_neg hqueue] at he
  split at he
  · cases he
  split at he
  · have hgrows := supply_grows h evt.token evt.answers
    exact hgrows.stays.trans (expire_all_stays hm (supply_well hw hsm.agreeing) he) t c hc
  · exact socket_stays hm hw hsm he hc hend

end Loops

/-! ### Both sides -/

section Nets

variable {F H : Side → Type} [∀ i, Factory (F i) (H i)] [∀ i, Handler (H i)] [Host]
variable {joined : ℕ ≃ ℕ} {n n' : Net F H} {l : Side × Io.Step}

/-- The connection numbered `k` is in the slab. -/
def Present {F H : Type} (h : Watched F H) (k : ℕ) : Prop :=
  ∃ t c, h.connections.get t = some c ∧ c.handler.birth = k

/-- Both loops keep their connections, and the two that are joined by name are there. -/
structure Together (joined : ℕ ≃ ℕ) (name : Side → ℕ) (n : Net F H) : Prop where
  mates : ∀ i : Side, i.mate joined (name i) = name i.other
  present : ∀ i, Present (n.loops i) (name i)

omit [∀ i, Factory (F i) (H i)] [∀ i, Handler (H i)] in
lemma start_well {inner : ∀ i, F i} {settings : Side → Settings}
    {addr : Side → Option SocketAddr} (hs : Net.start inner settings addr = .ok n) :
    ∀ i, Well False (n.loops i) := by
  obtain ⟨near, hnear, hs⟩ := bind_eq_ok.mp hs
  obtain ⟨far, hfar, hs⟩ := bind_eq_ok.mp hs
  cases hs
  intro i
  cases i with
  | near => exact started_well hnear
  | far => exact started_well hfar

/-- Both loops keep their connections in a smooth step. -/
lemma step_well (hh : n.Healthy) (hw : ∀ i, Well False (n.loops i))
    (hsm : Smooth (n.loops l.1) l.2) (hs : n.step joined l = .ok n') :
    ∀ i, Well False (n'.loops i) := by
  obtain ⟨hstep, hrest⟩ := Net.step_loops hs
  intro i
  by_cases hi : i = l.1
  · subst hi
    exact (step_ordered (hh l.1).1 (hw l.1) hsm.agreeing hsm.mild hstep).well
  · rw [hrest i hi]
    exact hw i

/-- **Neither of two joined connections is the first to leave** in a smooth step. -/
theorem step_together {name : Side → ℕ} (hm : ∀ i, Meek (H i)) (hh : n.Healthy)
    (hw : ∀ i, Well False (n.loops i)) (ht : Together joined name n)
    (hsm : Smooth (n.loops l.1) l.2) (hrel : n.Reliable joined l)
    (hs : n.step joined l = .ok n') : Together joined name n' := by
  obtain ⟨hstep, hrest⟩ := Net.step_loops hs
  refine ⟨ht.mates, fun i => ?_⟩
  by_cases hi : i = l.1
  · subst hi
    obtain ⟨t, c, hc, hb⟩ := ht.present l.1
    obtain ⟨c', hc', he⟩ := step_stays (hm l.1) (hh l.1).1 (hw l.1) hsm hstep hc
      fun x hx hends hxb => by
        -- the end of the stream comes only when the other connection is gone
        obtain ⟨-, hgone⟩ := (hrel x hx).2 hends
        obtain ⟨t', d, hd, hdb⟩ := ht.present l.1.other
        rw [hxb, hb, ht.mates] at hgone
        exact hgone.ne hd hdb
    exact ⟨t, c', hc', he.birth.trans hb⟩
  · rw [hrest i hi]
    exact ht.present i

/-- The names of a connection and of the one it is joined to. -/
def names (joined : ℕ ≃ ℕ) (i : Side) (k : ℕ) (j : Side) : ℕ :=
  if j = i then k else i.mate joined k

omit [∀ i, Factory (F i) (H i)] [∀ i, Handler (H i)] [Host] in
lemma names_together {i : Side} {k : ℕ} (hp : Present (n.loops i) k)
    (hm : Present (n.loops i.other) (i.mate joined k)) : Together joined (names joined i k) n := by
  refine ⟨fun j => ?_, fun j => ?_⟩
  · cases i <;> cases j <;> simp [names, Side.mate, Side.other]
  · cases i <;> cases j <;> first | exact hp | exact hm

/-- The connection numbered `k` is there and awaits the close, and so is the one it is joined to. -/
structure Lasting (joined : ℕ ≃ ℕ) (i : Side) (k : ℕ) (n : Net F H) : Prop where
  healthy : n.Healthy
  well : ∀ j, Well False (n.loops j)
  together : Together joined (names joined i k) n
  made : k < (n.loops i).factory.made.length
  awaits : Awaits k (n.loops i)

lemma step_lasting {i : Side} {k : ℕ} (hm : ∀ i, Meek (H i)) (hl : Lasting joined i k n)
    (hsm : Smooth (n.loops l.1) l.2) (hrel : n.Reliable joined l)
    (hs : n.step joined l = .ok n') : Lasting joined i k n' := by
  obtain ⟨hmade, hawaits⟩ := awaits_step hl.healthy hl.made hl.awaits hs
  exact ⟨Net.step_healthy hl.healthy hs, step_well hl.healthy hl.well hsm hs,
    step_together hm hl.healthy hl.well hl.together hsm hrel hs, hmade, hawaits⟩

/-- A connection that is asked to close while the one it is joined to is there. -/
lemma closing_lasting {c : Connection (Recorded (H l.1))} (hm : ∀ i, Meek (H i))
    (hh : n.Healthy) (hw : ∀ i, Well False (n.loops i)) (hc : c ∈ closing (n.loops l.1) l.2)
    (hp : Present (n.loops l.1.other) (l.1.mate joined c.handler.birth))
    (hsm : Smooth (n.loops l.1) l.2) (hrel : n.Reliable joined l)
    (hs : n.step joined l = .ok n') : Lasting joined l.1 c.handler.birth n' := by
  obtain ⟨hsound, ho⟩ := hh l.1
  obtain ⟨kind, a, cmd, rest, t, -, -, hget, -⟩ := mem_closing hc
  have hstep := (Net.step_loops hs).1
  have hmade := (hsound.numbered.accounted.slots_lt t c hget).trans_le
    (path_awaiting (step_path ho hstep) ho).made
  exact ⟨Net.step_healthy hh hs, step_well hh hw hsm hs,
    step_together hm hh hw (names_together ⟨t, c, hget, rfl⟩ hp) hsm hrel hs, hmade,
    closing_awaits hsound ho hc hstep⟩

/-- **A close never completes while the other side stays.** In a run over reliable streams in
which nothing fails, a connection that was asked to close while the one it is joined to was there
awaits the close ever after. -/
theorem close_lingers {inner : ∀ i, F i} {settings : Side → Settings}
    {addr : Side → Option SocketAddr} {n₀ n₁ n₂ : Net F H} {before after : List (Side × Io.Step)}
    {c : Connection (Recorded (H l.1))} (hm : ∀ i, Meek (H i))
    (h₀ : Net.start inner settings addr = .ok n₀)
    (hrun : Along (Net.step joined)
      (fun n l => Smooth (n.loops l.1) l.2 ∧ Net.Reliable joined n l) n₀ (before ++ l :: after))
    (h₁ : run (Net.step joined) n₀ before = .ok n₁) (hc : c ∈ closing (n₁.loops l.1) l.2)
    (hp : Present (n₁.loops l.1.other) (l.1.mate joined c.handler.birth))
    (h₂ : run (Net.step joined) n₁ (l :: after) = .ok n₂) :
    ∃ t d, (n₂.loops l.1).connections.get t = some d ∧ d.handler.birth = c.handler.birth ∧
      d.state = .AwaitingClose := by
  obtain ⟨hbefore, hafter⟩ := along_append.mp hrun
  have hkept : n₁.Healthy ∧ ∀ i, Well False (n₁.loops i) :=
    run_inv (I := fun n : Net F H => n.Healthy ∧ ∀ i, Well False (n.loops i))
      (fun n l' n' hn hg hs => ⟨Net.step_healthy hn.1 hs, step_well hn.1 hn.2 hg.1 hs⟩)
      ⟨Net.start_healthy h₀, start_well h₀⟩ hbefore h₁
  obtain ⟨n, hs, h₂⟩ := run_cons.mp h₂
  obtain ⟨hg, hafter⟩ := (along_cons hs).mp (hafter n₁ h₁)
  have hlast := closing_lasting hm hkept.1 hkept.2 hc hp hg.1 hg.2 hs
  have hall : Lasting joined l.1 c.handler.birth n₂ :=
    run_inv (fun n l' n' hn hg hs => step_lasting hm hn hg.1 hg.2 hs) hlast hafter h₂
  obtain ⟨t, d, hd, hb⟩ := hall.together.present l.1
  have hname : names joined l.1 c.handler.birth l.1 = c.handler.birth := if_pos rfl
  rw [hname] at hb
  exact ⟨t, d, hd, hb, hall.awaits t d hd hb⟩

end Nets

end XnetSocket.Lingering
