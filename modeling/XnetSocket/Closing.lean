import XnetSocket.EndOfStream
import XnetSocket.Handshake
import XnetSocket.Network

/-!
Whether closing completes.

Asking a connection to close sends nothing, so the other side never hears of it. A connection that
awaits the close is let go when it notices the end of its stream, for which the other side must be
gone already.
-/

namespace XnetSocket.Closing

open Buffer Runs Connection Lifecycle Evolution Custody Joining Touches Deeds Conservation Fallback
open Handshake EndOfStream Network

section Loops

variable {F H : Type} [Factory F H] [Handler H] [Host] {h g h' : Watched F H}

/-! ### Asking to close -/

/-- The command asks the connection in slot `t` to close. -/
def told_to_close (cmd : Command) (t : Token) (c : Connection (Recorded H)) : Bool :=
  match cmd.signal with
  | .Close _ _ => cmd.token = ALL || (cmd.token = t && cmd.connection_id = c.connection_id)
  | _ => false

/-- The open connections that a step asks to close. -/
def closing (h : Watched F H) : Io.Step → List (Connection (Recorded H))
  | .input (.event evt) =>
    match h.queue.commands with
    | cmd :: _ =>
      if evt.token = QUEUE then
        h.connections.keys.filterMap fun t =>
          (h.connections.get t).filter fun c => told_to_close cmd t c && c.state.is_open
      else []
    | [] => []
  | _ => []

/-- The connections with the number `k` await the close. -/
def Awaits (k : ℕ) (h : Watched F H) : Prop :=
  ∀ t c, h.connections.get t = some c → c.handler.birth = k → c.state = .AwaitingClose

omit [Factory F H] [Handler H] [Host] in
lemma Awaits.of_stems {k : ℕ} (ha : Awaits k h) (hk : k < h.factory.made.length)
    (hs : Stems Awaiting h g) : Awaits k g := by
  intro t c' hc' hb
  rcases hs.slots t c' hc' with ⟨c, hc, hsame, haw⟩ | hnew
  · exact (haw (ha t c hc (hsame ▸ hb))).1
  · omega

/-- Whatever is done, closing is for good. -/
lemma path_awaiting {ds : List Deed} (hp : Path ds h g) (ho : AllOpened h) : Stems Awaiting h g :=
  hp.stems Awaiting.refl (fun _ _ _ => Awaiting.trans) ho fun _ _ _ _ _ ht => touch_awaiting ht

omit [Handler H] [Host] in
lemma send_close_awaits {c c' : Connection (Recorded H)} {code : CloseCode} {reason : String}
    {res : Result Unit} (ho : Opened c) (h : c.send_close code reason = .ok (c', res)) :
    c'.state = .AwaitingClose := by
  rw [send_close_opened ho h]
  exact check_events_state _

/-- A close request to all connections. -/
lemma broadcast_awaits {k : ℕ} {code : CloseCode} {reason : String} (ho : AllOpened h)
    (hk : k < h.factory.made.length)
    (hb : h.handle_broadcast (.Close code reason) = .ok g) : Awaits k g := by
  obtain ⟨⟨f, dead⟩, hf, hb⟩ := bind_eq_ok.mp hb
  have hp := (for_each_deeds ho fun c hc => send_close_meets hc code reason).holds _ hf
  have hall : Awaits k f := by
    obtain ⟨⟨conns, as⟩, hi, hf⟩ := bind_eq_ok.mp hf
    cases hf
    intro t c' hc' _
    obtain ⟨c, hc, res, hclose⟩ := Slab.iter_mut_rel
      (R := fun x x' => ∃ res, x.send_close code reason = .ok (x', res)) (by
        intro x x' cs hx
        obtain ⟨⟨d, res⟩, hd, hx⟩ := bind_eq_ok.mp hx
        rcases res with err | u <;> cases hx <;> exact ⟨_, hd⟩) hi hc'
    exact send_close_awaits (ho t c hc) hclose
  have hmade : k < f.factory.made.length :=
    hk.trans_le (path_awaiting hp ho).made
  exact hall.of_stems hmade
    (path_awaiting ((finish_broadcast_deeds (hp.opened ho) dead).holds g hb) (hp.opened ho))

/-- A close request to one connection. -/
lemma directed_awaits {t : Token} {c : Connection (Recorded H)} {code : CloseCode} {reason : String}
    (hs : Sound h) (ho : AllOpened h) (hc : h.connections.get t = some c)
    (hd : h.handle_directed t c.connection_id (.Close code reason) = .ok g) :
    Awaits c.handler.birth g := by
  obtain ⟨f, hf, hd⟩ := bind_eq_ok.mp hd
  have hp := (with_id_deeds ho t c.connection_id (List.mem_singleton_self _)
    fun c hc => send_close_told hc code reason).holds f hf
  have hall : Awaits c.handler.birth f := by
    unfold Io.Handler.with_id at hf
    rw [hc] at hf
    dsimp only at hf
    rw [if_pos rfl] at hf
    obtain ⟨⟨c', res⟩, hclose, hf⟩ := bind_eq_ok.mp hf
    have hres := send_close_res hclose
    subst hres
    cases hf
    intro j d hd hb
    by_cases hj : t = j
    · subst hj
      rw [get_put hc, Option.some.injEq] at hd
      subst hd
      exact send_close_awaits (ho t c hc) hclose
    · rw [Io.Handler.put, Slab.get_set_ne hj] at hd
      exact absurd (hs.numbered.accounted.distinct t j c d hc hd hb.symm) hj
  have hmade : c.handler.birth < f.factory.made.length :=
    (hs.numbered.accounted.slots_lt t c hc).trans_le (path_awaiting hp ho).made
  exact hall.of_stems hmade
    (path_awaiting ((schedule_at_deeds (hp.opened ho) t).holds g hd) (hp.opened ho))

omit [Factory F H] [Handler H] [Host] in
lemma mem_closing {s : Io.Step} {c : Connection (Recorded H)} (hc : c ∈ closing h s) :
    ∃ kind a cmd rest t, s = .on QUEUE kind a ∧ h.queue.commands = cmd :: rest ∧
      h.connections.get t = some c ∧ told_to_close cmd t c = true ∧ c.state.is_open = true := by
  unfold closing at hc
  split at hc
  · rename_i evt
    obtain ⟨token, kind, a⟩ := evt
    split at hc
    · rename_i cmd rest hq
      split at hc
      · rename_i htok
        obtain ⟨t, -, ht⟩ := List.mem_filterMap.mp hc
        obtain ⟨hget, hp⟩ := Option.filter_eq_some_iff.mp ht
        obtain ⟨htold, hopen⟩ := Bool.and_eq_true_iff.mp hp
        change token = QUEUE at htok
        subst htok
        exact ⟨kind, a, cmd, rest, t, rfl, hq, hget, htold, hopen⟩
      · cases hc
    · cases hc
  · cases hc

/-- **A connection that is asked to close awaits the close.** -/
theorem closing_awaits {s : Io.Step} {c : Connection (Recorded H)} (hs : Sound h)
    (ho : AllOpened h) (hc : c ∈ closing h s) (hstep : h.step s = .ok h') :
    Awaits c.handler.birth h' := by
  obtain ⟨kind, a, cmd, rest, t, rfl, hq, hget, htold, -⟩ := mem_closing hc
  have hslots := hs.supply_slots (t := QUEUE) (by decide) a
  have hqueue : (h.supply QUEUE a).queue.commands = cmd :: rest := hq
  change (h.supply QUEUE a).handle_event QUEUE kind = .ok h' at hstep
  rw [Io.Handler.handle_event_queue] at hstep
  obtain ⟨g, hg, hstep⟩ := bind_eq_ok.mp hstep
  cases hstep
  rw [Io.Handler.take_command_cons hqueue] at hg
  have hsound : Sound ({ h.supply QUEUE a with
      queue := ⟨(h.supply QUEUE a).queue.bound, rest⟩ } : Watched F H) :=
    hs.of_keeps ((supply_keeps h QUEUE a).requeue _)
  have hopened : AllOpened ({ h.supply QUEUE a with
      queue := ⟨(h.supply QUEUE a).queue.bound, rest⟩ } : Watched F H) :=
    (supply_deeds h QUEUE a).opened ho
  show Awaits c.handler.birth g
  obtain ⟨token, signal, id⟩ := cmd
  cases signal with
  | Close code reason =>
    have hor : token = ALL ∨ token = t ∧ id = c.connection_id := by
      simpa [told_to_close] using htold
    have hsys : token ≠ SYSTEM := by
      rcases hor with rfl | ⟨rfl, -⟩
      · decide
      · exact Nat.ne_of_lt (hs.lt_system (Slab.get_lt_capacity hget))
    unfold Io.Handler.handle_queue at hg
    rw [if_neg hsys] at hg
    split at hg
    · exact broadcast_awaits hopened (hs.numbered.accounted.slots_lt t c hget) hg
    · rename_i hall
      obtain ⟨rfl, rfl⟩ := hor.resolve_left hall
      exact directed_awaits hsound hopened (hslots ▸ hget) hg
  | Message msg => cases htold
  | Connect url => cases htold
  | Shutdown => cases htold
  | Timeout delay event => cases htold
  | Cancel timeout => cases htold

/-! ### Noticing the end of the stream -/

/-- The first read is answered with the end of the stream. -/
def ends_first : List (Except IoError Bytes) → Bool
  | .ok [] :: _ => true
  | _ => false

/-- The handler is content, or fails in a way that disconnects. -/
def content (res : Result Unit) : Bool :=
  match res with
  | .ok () => true
  | .error err => disconnects err.kind

/-- A connection that notices the end of its stream when it reads it: it has stored no input, is
not interested in writing, and its handler is content with an empty message. -/
structure Attends (c : Connection (Recorded H)) : Prop where
  stored : c.in_buffer.inner.data = []
  idle : c.events.is_writable = false
  content : content (Handler.on_message c.handler (.text "")).2 = true

/-- **The end of the stream is noticed.** -/
lemma read_ends {c d : Connection (Recorded H)} (ho : Opened c) (ha : Attends c)
    (he : ends_first c.socket.reads = true) (hd : (c.read >>= told) = .ok d) :
    d.events = .empty := by
  obtain ⟨rest, hreads⟩ : ∃ rest, c.socket.reads = .ok [] :: rest := by
    unfold ends_first at he
    split at he
    · exact ⟨_, by assumption⟩
    · cases he
  have hself : c.with_reads (.ok [] :: rest) = c := by
    unfold with_reads
    rw [← hreads]
  obtain ⟨sock, buf, hb, hdata⟩ := buffer_in_eof c rest
  rw [hself, ha.stored] at hb
  rw [ha.stored] at hdata
  obtain ⟨c', res, hread, hf⟩ := read_finish ho.not_connecting hb
  rw [hread, ok_bind] at hd
  -- the handler gets an empty message
  have hx : (Connection.read_data { c with
      socket := sock, in_buffer := { c.in_buffer with inner := buf } }).2 =
      (Handler.on_message c.handler (.text "")).2 := by
    have hunread : ({ c.in_buffer with inner := buf } : Cursor UInt8).read_to_end.2 = [] := by
      simp [Cursor.read_to_end, Cursor.bytes, hdata]
    have hempty : from_utf8 [] = .ok "" := rfl
    unfold read_data
    simp only [hunread, hempty]
  obtain ⟨hev, -⟩ := read_data_quiet ({ c with
    socket := sock, in_buffer := { c.in_buffer with inner := buf } } : Connection (Recorded H))
  generalize hlen : ([] : Bytes).length = len at hf
  cases hf with
  | @refused _ e err h =>
    rw [h] at hx
    have hk := ha.content
    rw [← hx] at hk
    exact (error_forsakes (ho.of_state (read_inward hread).state) hk hd).1
  | @handed _ e h hne => exact absurd hlen.symm hne
  | @half_closed e h hw =>
    rw [h] at hev
    have hidle := ha.idle
    rw [show c.events = e.events from hev.symm, hw] at hidle
    cases hidle
  | @closed e h hw =>
    cases hd
    have hst : Opened e := by
      have := read_data_state ({ c with
        socket := sock, in_buffer := { c.in_buffer with inner := buf } } : Connection (Recorded H))
      rw [h] at this
      exact ho.of_state this
    rcases hst with hs | hs <;> simp [disconnect, hs]

/-- Writing reads nothing. -/
lemma writing_log {events : Ready} {c d : Connection (Recorded H)}
    (h : writing events c = .ok d) : d.socket.log = c.socket.log := by
  unfold writing at h
  split at h
  · have hlog := (write_input c).2
    rcases hw : c.write with ⟨e, err | u⟩ <;> rw [hw] at h hlog
    · have hcalm := error_calm (show e.error err = .ok d from h)
      exact (congrArg TcpStream.log hcalm.socket).trans hlog
    · cases h
      exact hlog
  · cases h
    rfl

/-- A connection that attends is let go when it reads the end of its stream. -/
theorem end_lets_go {evt : Io.Event} {c : Connection (Recorded H)} {x : Traffic} (hs : Sound h)
    (ho : AllOpened h) (hc : h.connections.get evt.token = some c) (ha : Attends c)
    (he : ends_first evt.answers.reads = true) (hx : traffic h (.input (.event evt)) = some x)
    (hend : x.ends = true) (hstep : h.input (.event evt) = .ok h') {t : Token}
    {c' : Connection (Recorded H)} (hc' : h'.connections.get t = some c') :
    c'.handler.birth ≠ c.handler.birth := by
  have hget := supply_slot hc evt.answers
  set c0 : Connection (Recorded H) := { c with
    socket := { c.socket with reads := evt.answers.reads, writes := evt.answers.writes } } with hc0
  have ho0 : Opened c0 := ho _ c hc
  have ha0 : Attends c0 := ⟨ha.stored, ha.idle, ha.content⟩
  unfold traffic at hx
  simp only [hget] at hx
  split at hx
  swap
  · cases hx
  rename_i d hd
  cases hx
  obtain ⟨d', hread, hwrite⟩ := bind_eq_ok.mp hd
  -- it has read, and wants nothing any more
  have hgone : d'.events = .empty := by
    unfold reading at hread
    split at hread
    · exact read_ends ho0 ha0 he hread
    · cases hread
      rw [Traffic.ends, writing_log hwrite] at hend
      simp at hend
  have hsame : d = d' := by
    unfold writing at hwrite
    rw [if_neg (by simp [hgone, Ready.and, Ready.is_writable, Ready.empty])] at hwrite
    cases hwrite
    rfl
  subst hsame
  have hslot : evt.token < SYSTEM := hs.lt_system (Slab.get_lt_capacity hc)
  change (h.supply evt.token evt.answers).handle_event evt.token evt.kind = .ok h' at hstep
  rw [Io.Handler.handle_event_slot _ hslot] at hstep
  obtain ⟨-, hslots, -⟩ := handle_socket_loses hget ho0 hd hgone hstep
  rw [hslots] at hc'
  split at hc'
  · cases hc'
  · rename_i hne
    have hold : h.connections.get t = some c' := by
      rw [← hc']
      unfold Io.Handler.supply
      rw [hc]
      exact (Slab.get_set_ne hne).symm
    exact fun hb => hne (hs.numbered.accounted.distinct _ _ c c' hc hold hb.symm)

instance (c : Connection (Recorded H)) : Decidable (Attends c) :=
  decidable_of_iff (c.in_buffer.inner.data = [] ∧ c.events.is_writable = false ∧
      content (Handler.on_message c.handler (.text "")).2 = true)
    ⟨fun h => ⟨h.1, h.2.1, h.2.2⟩, fun h => ⟨h.stored, h.idle, h.content⟩⟩

/-- If the event is for a connection that awaits the close, it attends, and the end of its stream
is the first thing it reads. -/
def Notices (h : Watched F H) : Io.Step → Prop
  | .input (.event evt) => ∀ c ∈ h.connections.get evt.token, c.state.is_closing = true →
    Attends c ∧ ends_first evt.answers.reads = true
  | _ => True

instance (h : Watched F H) : ∀ s, Decidable (Notices h s)
  | .input (.event evt) => inferInstanceAs (Decidable (∀ c ∈ h.connections.get evt.token, _ → _))
  | .input (.send _) => isTrue trivial
  | .interrupted => isTrue trivial
  | .check_count => isTrue trivial

end Loops

/-! ### Both sides -/

section Nets

variable {F H : Side → Type} [∀ i, Factory (F i) (H i)] [∀ i, Handler (H i)] [Host]
variable (joined : ℕ ≃ ℕ) {n n' : Net F H} {l : Side × Io.Step}

/-- A connection is asked to close while it is open only when the one it is joined to is gone and
it has not read the end of its stream; and one that awaits the close and reads that end notices
it. -/
def Fit (n : Net F H) (l : Side × Io.Step) : Prop :=
  (∀ c ∈ closing (n.loops l.1) l.2,
    Gone (n.loops l.1.other) (l.1.mate joined c.handler.birth) ∧
      n.ended l.1 c.handler.birth = false) ∧
  ∀ x ∈ traffic (n.loops l.1) l.2, x.ends = true → Notices (n.loops l.1) l.2

instance decidableFit (n : Net F H) (l : Side × Io.Step) : Decidable (Fit joined n l) :=
  inferInstanceAs (Decidable ((∀ c ∈ closing _ _, _ ∧ _) ∧ ∀ x ∈ traffic _ _, _ → _))

/-- The connection numbered `k` awaits the close, if it is there, and the end of its stream, since
the one it is joined to is gone. -/
structure Doomed (n : Net F H) (i : Side) (k : ℕ) : Prop where
  made : k < (n.loops i).factory.made.length
  gone : Gone (n.loops i.other) (i.mate joined k)
  awaits : Awaits k (n.loops i)
  ended : ∀ t c, (n.loops i).connections.get t = some c → c.handler.birth = k →
    n.ended i k = false

variable {joined}

/-- What is gone on one side stays gone, whichever side takes a step. -/
lemma gone_step {i : Side} {k : ℕ} (hh : n.Healthy) (hs : n.step joined l = .ok n')
    (hg : Gone (n.loops i) k) : Gone (n'.loops i) k := by
  obtain ⟨hstep, hrest⟩ := Net.step_loops hs
  by_cases hi : i = l.1
  · subst hi
    exact hg.step (hh l.1).2 hstep
  · rw [hrest i hi]
    exact hg

/-- Closing is for good, whichever side takes a step. -/
lemma awaits_step {i : Side} {k : ℕ} (hh : n.Healthy) (hk : k < (n.loops i).factory.made.length)
    (ha : Awaits k (n.loops i)) (hs : n.step joined l = .ok n') :
    k < (n'.loops i).factory.made.length ∧ Awaits k (n'.loops i) := by
  obtain ⟨hstep, hrest⟩ := Net.step_loops hs
  by_cases hi : i = l.1
  · subst hi
    have ho := (hh l.1).2
    have hstems := path_awaiting (step_path ho hstep) ho
    exact ⟨hk.trans_le hstems.made, ha.of_stems hk hstems⟩
  · rw [hrest i hi]
    exact ⟨hk, ha⟩

/-- A connection that is asked to close while it is open is doomed. -/
lemma closing_doomed {c : Connection (Recorded (H l.1))} (hh : n.Healthy)
    (hc : c ∈ closing (n.loops l.1) l.2) (hf : Fit joined n l) (hs : n.step joined l = .ok n') :
    Doomed joined n' l.1 c.handler.birth := by
  obtain ⟨hstep, hrest⟩ := Net.step_loops hs
  obtain ⟨hgone, hended⟩ := hf.1 c hc
  obtain ⟨hsound, ho⟩ := hh l.1
  have hmade := hsound.numbered.accounted.slots_lt
  obtain ⟨kind, a, cmd, rest, t, hl, -, hget, -⟩ := mem_closing hc
  refine ⟨(hmade t c hget).trans_le (path_awaiting (step_path ho hstep) ho).made,
    gone_step hh hs hgone, closing_awaits hsound ho hc hstep, fun _ _ _ _ => ?_⟩
  refine Bool.eq_false_iff.mpr fun he => ?_
  rcases Net.step_ended hs he with he | ⟨-, x, hx, -⟩
  · rw [hended] at he
    cases he
  · -- no socket is read in an event of the queue
    obtain ⟨evt, d, hevt, hd, -⟩ := traffic_slot hx
    rw [hl] at hevt
    cases hevt
    exact absurd (hsound.lt_system (Slab.get_lt_capacity hd)) (show ¬ QUEUE < SYSTEM by decide)

/-- **Steps leave a doomed connection doomed.** -/
theorem step_doomed {i : Side} {k : ℕ} (hh : n.Healthy) (hd : Doomed joined n i k)
    (hf : Fit joined n l) (hs : n.step joined l = .ok n') : Doomed joined n' i k := by
  obtain ⟨hstep, hrest⟩ := Net.step_loops hs
  obtain ⟨hmade, hawaits⟩ := awaits_step hh hd.made hd.awaits hs
  refine ⟨hmade, gone_step hh hs hd.gone, hawaits, fun t c' hc' hb => ?_⟩
  refine Bool.eq_false_iff.mpr fun he => ?_
  by_cases hi : i = l.1
  · subst hi
    obtain ⟨hsound, ho⟩ := hh l.1
    rcases Net.step_ended hs he with he | ⟨-, x, hx, hxk, hends⟩
    · rcases (path_awaiting (step_path ho hstep) ho).slots t c' hc' with ⟨c, hc, hsame, -⟩ | hnew
      · rw [hd.ended t c hc (hsame ▸ hb)] at he
        cases he
      · exact absurd hd.made (Nat.not_lt.mpr (hb ▸ hnew))
    · -- it has read the end of its stream, so it is not there any more
      obtain ⟨evt, c, hevt, hc, hxb⟩ := traffic_slot hx
      have hck : c.handler.birth = k := hxb ▸ hxk
      have hnotices := hf.2 x hx hends
      rw [hevt] at hnotices hx hstep
      obtain ⟨ha, hfirst⟩ := hnotices c hc (by rw [hd.awaits evt.token c hc hck]; rfl)
      exact end_lets_go hsound ho hc ha hfirst hx hends hstep hc' (hb.trans hck.symm)
  · rcases Net.step_ended hs he with he | ⟨hil, -⟩
    · rw [hd.ended t c' (hrest i hi ▸ hc') hb] at he
      cases he
    · exact hi hil

/-- **Closing completes when the other side is gone.** In every run in which connections are asked
to close only when the other one is gone, and then notice the end of their stream, a connection
that was asked to close while it was open is not in the slab of its loop any more when nothing is
left to be done. -/
theorem closing_completes {inner : ∀ i, F i} {settings : Side → Settings}
    {addr : Side → Option SocketAddr} {n₀ n₁ n₂ : Net F H} {before after : List (Side × Io.Step)}
    {c : Connection (Recorded (H l.1))} (h₀ : Net.start inner settings addr = .ok n₀)
    (hfit : Along (Net.step joined) (Fit joined) n₀ (before ++ l :: after))
    (h₁ : run (Net.step joined) n₀ before = .ok n₁) (hc : c ∈ closing (n₁.loops l.1) l.2)
    (h₂ : run (Net.step joined) n₁ (l :: after) = .ok n₂) (hq : n₂.Quiescent joined) :
    ∀ t d, (n₂.loops l.1).connections.get t = some d → d.handler.birth ≠ c.handler.birth := by
  have hh := Net.run_healthy (Net.start_healthy h₀) h₁
  have hfit' := (along_append.mp hfit).2 n₁ h₁
  obtain ⟨n, hs, h₂⟩ := run_cons.mp h₂
  obtain ⟨hf, hfit'⟩ := (along_cons hs).mp hfit'
  have hall : n₂.Healthy ∧ Doomed joined n₂ l.1 c.handler.birth := by
    refine run_inv (I := fun n : Net F H => n.Healthy ∧ Doomed joined n l.1 c.handler.birth)
      (fun n l' n' hn hf hs => ?_)
      ⟨Net.step_healthy hh hs, closing_doomed hh hc hf hs⟩ hfit' h₂
    exact ⟨Net.step_healthy hn.1 hs, step_doomed hn.1 hn.2 hf hs⟩
  intro t d hd hb
  have hread := (hq.rests l.1 t d hd).ended (hb ▸ hall.2.gone)
  rw [hb, hall.2.ended t d hd hb] at hread
  cases hread

end Nets

/-! ### Two loops to run -/

/-- A server on the near side and a client on the far one, whose handlers are content with every
message. -/
abbrev Line := Net (fun _ => Sender → M) (fun _ => M)

def line : Except Panic Line :=
  @Net.start _ _ plain (fun _ _ => {}) (fun _ => {}) fun
    | .near => some ⟨"127.0.0.1:3012"⟩
    | .far => none

def line_step (n : Line) (l : Side × Io.Step) : Except Panic Line :=
  @Net.step _ _ _ _ plain (.refl ℕ) n l

/-- The streams between them are reliable. -/
def line_reliable (n : Line) (l : Side × Io.Step) : Prop :=
  @Net.Reliable _ _ _ plain (.refl ℕ) n l

instance (n : Line) (l : Side × Io.Step) : Decidable (line_reliable n l) :=
  @Net.decidableReliable _ _ _ plain _ n l

/-- Connections are only asked to close when that completes. -/
def line_fit (n : Line) (l : Side × Io.Step) : Prop := @Fit _ _ _ plain (.refl ℕ) n l

instance (n : Line) (l : Side × Io.Step) : Decidable (line_fit n l) :=
  @decidableFit _ _ _ plain _ n l

/-- The client connects, and the server accepts it. -/
def connects : List (Side × Io.Step) :=
  [(.far, .post (Sender.connect ⟨ALL, 0⟩ "ws://localhost:3012")),
    (.far, .on QUEUE readable { resolves := [.ok [⟨"127.0.0.1:3012"⟩]], connects := [.ok .fresh] }),
    (.near, accepts_peer)]

/-- The handler of the client asks for the close. -/
def asks_for_close : Side × Io.Step := (.far, .post (Sender.close ⟨0, 0⟩ .Normal))

/-- The client closes, and everything has been done: it still awaits the close. -/
theorem close_never_completes :
    ∃ n₀ n₁ n₂ c d, line = .ok n₀ ∧
      Along line_step line_reliable n₀ (connects ++ [asks_for_close, (.far, takes_command)]) ∧
      run line_step n₀ (connects ++ [asks_for_close]) = .ok n₁ ∧
      c ∈ closing (n₁.loops .far) takes_command ∧
      line_step n₁ (.far, takes_command) = .ok n₂ ∧ n₂.Quiescent (.refl ℕ) ∧
      (n₂.loops .far).connections.get 0 = some d ∧ d.handler.birth = c.handler.birth ∧
      d.state.is_closing = true := by
  have hrun : Returns line fun n₀ =>
      Along line_step line_reliable n₀ (connects ++ [asks_for_close, (.far, takes_command)]) ∧
      Returns (run line_step n₀ (connects ++ [asks_for_close])) fun n₁ =>
        (closing (n₁.loops .far) takes_command).map (·.handler.birth) = [0] ∧
        Returns (line_step n₁ (.far, takes_command)) fun n₂ => n₂.Quiescent (.refl ℕ) ∧
          ((n₂.loops .far).connections.get 0).map (fun d =>
            (d.handler.birth, d.state.is_closing)) = some (0, true) := by
    decide +kernel
  obtain ⟨n₀, h₀, hrel, n₁, h₁, hc, n₂, h₂, hq, hd⟩ := hrun
  obtain ⟨c, rest, hclosing, hb, -⟩ := List.map_eq_cons_iff.mp hc
  obtain ⟨d, hd, hfacts⟩ := Option.map_eq_some_iff.mp hd
  obtain ⟨hbd, hst⟩ := Prod.mk.inj hfacts
  exact ⟨n₀, n₁, n₂, c, d, h₀, hrel, h₁, by rw [hclosing]; exact List.mem_cons_self, h₂, hq, hd,
    hbd.trans hb.symm, hst⟩

/-- The server loses its connection when the poll refuses to watch it any longer. -/
def loses : Side × Io.Step :=
  (.near, .on 0 readable { polls := [.error ⟨.Other, none, "refused"⟩] })

/-- The client reads the end of its stream. -/
def reads_end : Side × Io.Step := (.far, peer_closes 0)

/-- The client closes when the server has lost it. -/
theorem closing_completes_server_gone :
    ∃ n₀ n₁ n₂ c, line = .ok n₀ ∧ run line_step n₀ (connects ++ [loses, asks_for_close]) = .ok n₁ ∧
      c ∈ closing (n₁.loops .far) takes_command ∧
      run line_step n₁ [(.far, takes_command), reads_end] = .ok n₂ ∧
      Along line_step line_reliable n₀
        (connects ++ [loses, asks_for_close] ++ [(.far, takes_command), reads_end]) ∧
      ∀ t d, (n₂.loops .far).connections.get t = some d → d.handler.birth ≠ c.handler.birth := by
  have hrun : Returns line fun n₀ =>
      (Along line_step line_reliable n₀
          (connects ++ [loses, asks_for_close] ++ [(.far, takes_command), reads_end]) ∧
        Along line_step line_fit n₀
          (connects ++ [loses, asks_for_close] ++ [(.far, takes_command), reads_end])) ∧
      Returns (run line_step n₀ (connects ++ [loses, asks_for_close])) fun n₁ =>
        (closing (n₁.loops .far) takes_command).length = 1 ∧
        Returns (run line_step n₁ [(.far, takes_command), reads_end]) fun n₂ =>
          n₂.Quiescent (.refl ℕ) := by
    decide +kernel
  obtain ⟨n₀, h₀, ⟨hrel, hfit⟩, n₁, h₁, hc, n₂, h₂, hq⟩ := hrun
  obtain ⟨c, hclosing⟩ := List.length_eq_one_iff.mp hc
  have hmem : c ∈ closing (n₁.loops .far) takes_command := by
    rw [hclosing]
    exact List.mem_singleton_self c
  exact ⟨n₀, n₁, n₂, c, h₀, h₁, hmem, h₂, hrel,
    @closing_completes _ _ _ _ plain (.refl ℕ) (.far, takes_command) _ _ _ n₀ n₁ n₂ _ _ c h₀
      hfit h₁ hmem h₂ hq⟩

end XnetSocket.Closing
