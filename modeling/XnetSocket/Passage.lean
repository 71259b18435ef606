import XnetSocket.Lib.Projection
import XnetSocket.Closing
import XnetSocket.Delivery

/-!
From one loop's queue to the other loop's handlers.

Between two connections that are joined there are the output of the one, the stream, and the input
of the other. When the stream is reliable the three are one pipe: what comes out of it at the
handler is what the commands handled on the other side have put in, in order, each byte once.
-/

namespace XnetSocket.Passage

open Buffer Runs Connection Inbound Lifecycle Evolution Intake Custody Touches Deeds Outbound
open Network Closing EndOfStream Fallback Streams Delivery Chunking

/-! ### What a step carries -/

section Loops

variable {F H : Type}

/-- The bytes written by the connection numbered `k`. -/
def wrote (x : Option Traffic) (k : ℕ) : Bytes :=
  x.elim [] fun x => if x.birth = k then x.written else []

/-- The bytes it received. -/
def got (x : Option Traffic) (k : ℕ) : Bytes :=
  x.elim [] fun x => if x.birth = k then x.received else []

variable [Factory F H] [Handler H] [Host] {h h' : Watched F H}

/-- The socket is left alone, but for its answers. -/
structure Still (c c' : Connection H) : Prop where
  sent : c'.socket.sent = c.socket.sent
  log : c'.socket.log = c.socket.log

omit [Factory F H] [Handler H] [Host] in
lemma Still.trans {c d e : Connection H} (h : Still c d) (h' : Still d e) : Still c e :=
  ⟨h'.sent.trans h.sent, h'.log.trans h.log⟩

omit [Factory F H] [Handler H] [Host] in
lemma still_of_calm {c c' : Connection H} (h : Calm c c') : Still c c' :=
  ⟨by rw [h.socket], by rw [h.socket]⟩

omit [Factory F H] [Handler H] in
lemma send_message_still {c c' : Connection H} {msg : Message} {res : Result Unit}
    (h : c.send_message msg = .ok (c', res)) : Still c c' := by
  obtain ⟨out, rfl | rfl⟩ := send_message_frame h
  · exact ⟨rfl, rfl⟩
  · exact ⟨congrArg TcpStream.sent (check_events_calm _).socket,
      congrArg TcpStream.log (check_events_calm _).socket⟩

omit [Factory F H] in
/-- Only reading and writing use the socket. -/
lemma touch_still {d : Deed} {c c' : Connection H} (ht : Touch d c c') (hr : d ≠ .read)
    (hw : d ≠ .write) : Still c c' := by
  have hheard : ∀ handler : H, Still c { c with handler := handler } := fun _ => ⟨rfl, rfl⟩
  cases ht with
  | supply reads writes => exact ⟨rfl, rfl⟩
  | message h => exact send_message_still h
  | message_told h he => exact (send_message_still h).trans (still_of_calm (error_calm he))
  | close h => exact still_of_calm (send_close_calm h)
  | tell h => exact still_of_calm (error_calm h)
  | read h => exact absurd rfl hr
  | read_told h he => exact absurd rfl hr
  | write h => exact absurd rfl hw
  | write_told h he => exact absurd rfl hw
  | new_timeout h =>
    obtain ⟨handler, rfl | ⟨err, he⟩⟩ := take_timeout_cases h
    · exact hheard handler
    · exact (hheard handler).trans (still_of_calm (error_calm he))
  | timeout h =>
    obtain ⟨handler, rfl | ⟨err, he⟩⟩ := trigger_cases h
    · exact hheard handler
    · exact (hheard handler).trans (still_of_calm (error_calm he))
  | shut h => exact still_of_calm (shutdown_calm h)

lemma Path.still {ds : List Deed} (hp : Path ds h h') (ho : AllOpened h) (hr : .read ∉ ds)
    (hw : .write ∉ ds) : Stems Still h h' :=
  Path.stems hp (fun _ => ⟨rfl, rfl⟩) (fun _ _ _ => Still.trans) ho fun _ hd _ _ _ ht =>
    touch_still ht (fun he => hr (he ▸ hd)) (fun he => hw (he ▸ hd))

omit [Factory F H] in
/-- Reading receives, and writes nothing. -/
lemma reading_log {events : Ready} {c d : Connection (Recorded H)} (hb : Buffered c)
    (h : reading events c = .ok d) : c.socket.log <+: d.socket.log ∧
      d.socket.sent = c.socket.sent ∧ d.out_buffer = c.out_buffer := by
  unfold reading at h
  split at h
  · obtain ⟨⟨e, res⟩, hread, h⟩ := bind_eq_ok.mp h
    have hin := read_inward hread
    obtain ⟨new, e', r, hm⟩ := read_moved hb.opened hb.input c.socket.reads
    have heq : c.read = .ok (e', r) := hm.eq
    rw [hread] at heq
    cases heq
    have hlog : c.socket.log <+: e.socket.log := ⟨new, hm.log.symm⟩
    rcases res with err | u
    · have hc := error_calm h
      exact ⟨(still_of_calm hc).log ▸ hlog, (still_of_calm hc).sent.trans hin.sent,
        hc.out_buffer.trans hin.out_buffer⟩
    · cases h
      exact ⟨hlog, hin.sent, hin.out_buffer⟩
  · cases h
    exact ⟨List.prefix_refl _, rfl, rfl⟩

omit [Factory F H] in
/-- Writing writes a front part of what is to be written. -/
lemma writing_sent {events : Ready} {c d : Connection (Recorded H)}
    (h : writing events c = .ok d) :
    ∃ w, d.socket.sent = c.socket.sent ++ w ∧ w <+: c.out_buffer.bytes := by
  unfold writing at h
  split at h
  · obtain ⟨n, hw⟩ := write_writes c
    have hsent : c.write.1.socket.sent = c.socket.sent ++ c.out_buffer.bytes.take n := hw.sent
    refine ⟨c.out_buffer.bytes.take n, ?_, List.take_prefix _ _⟩
    rcases hx : c.write with ⟨e, err | u⟩ <;> rw [hx] at h hsent
    · exact (still_of_calm (error_calm h)).sent.trans hsent
    · cases h
      exact hsent
  · cases h
    exact ⟨[], (List.append_nil _).symm, List.nil_prefix⟩

/-- The connection once its socket has the answers to an event. -/
def supplied (evt : Io.Event) (c : Connection (Recorded H)) : Connection (Recorded H) :=
  { c with socket := { c.socket with reads := evt.answers.reads, writes := evt.answers.writes } }

omit [Factory F H] in
/-- An event of a socket: the traffic is what its connection reads and writes. -/
lemma exchange_traffic {evt : Io.Event} {c : Connection (Recorded H)} (hb : AllBuffered h)
    (hc : h.connections.get evt.token = some c) {e : Connection (Recorded H)}
    (he : exchange evt.kind (supplied evt c) = .ok e) :
    ∃ x, traffic h (.input (.event evt)) = some x ∧ x.birth = c.handler.birth ∧
      e.socket.sent = c.socket.sent ++ x.written ∧
      e.socket.received = c.socket.received ++ x.received ∧ x.written <+: c.out_buffer.bytes := by
  have hbc := hb _ c hc
  obtain ⟨d, hd, hw⟩ := bind_eq_ok.mp he
  obtain ⟨⟨new, hlog⟩, hsent, hout⟩ := reading_log
    (touch_buffered hbc (.supply _ _ _)).1 hd
  obtain ⟨w, hsent', hpre⟩ := writing_sent hw
  have hlog' : e.socket.log = c.socket.log ++ new := (writing_log hw).trans hlog.symm
  have hsent'' : e.socket.sent = c.socket.sent ++ w := by rw [hsent', hsent]
  have hslot : (h.supply evt.token evt.answers).connections.get evt.token = some (supplied evt c) :=
    supply_slot hc evt.answers
  refine ⟨⟨c.handler.birth, (e.socket.log.drop c.socket.log.length).map Prod.snd,
    e.socket.sent.drop c.socket.sent.length⟩, by simp only [traffic, hslot, he]; rfl, rfl,
    ?_, ?_, ?_⟩
  · dsimp only
    rw [hsent'', List.drop_left]
  · rw [TcpStream.received, TcpStream.received, hlog', List.flatMap_append, Traffic.received,
      List.drop_left]
    simp only [List.flatMap_def]
  · dsimp only
    rw [hsent'', List.drop_left]
    rwa [hout] at hpre

/-- Without a connection for its event a step neither reads nor writes. -/
lemma quiet_deeds {s : Io.Step} (hst : h.step s = .ok h')
    (hn : ∀ evt, s = .input (.event evt) → h.connections.get evt.token = none) :
    .read ∉ deeds h s ∧ .write ∉ deeds h s := by
  rcases s with (cmd | evt) | _ | _
  · simp [deeds]
  · have hslot := hn evt rfl
    have hsupply : (h.supply evt.token evt.answers).connections = h.connections := by
      unfold Io.Handler.supply
      rw [hslot]
    suffices hhap : .read ∉ happening h.queue.commands evt.token ∧
        .write ∉ happening h.queue.commands evt.token by
      simp [deeds, hhap]
    have hst : (h.supply evt.token evt.answers).handle_event evt.token evt.kind = .ok h' := hst
    unfold Io.Handler.handle_event at hst
    unfold happening
    split at hst
    · cases hst
    split at hst
    · rw [if_pos (by assumption)]
      simp [accepting]
    split at hst
    · rw [if_neg (by assumption), if_pos (by assumption)]
      simp [expiring]
    split at hst
    · rw [if_neg (by assumption), if_neg (by assumption), if_pos (by assumption)]
      rcases h.queue.commands with _ | ⟨cmd, rest⟩
      · simp [taking]
      · rcases hsig : cmd.signal <;> simp [taking, hsig, commanded, connecting]
    · -- there is no connection to index
      unfold Io.Handler.handle_socket Io.Handler.attempt Io.Handler.at_slot at hst
      rw [hsupply, hslot] at hst
      cases hst
  · simp [deeds]
  · simp [deeds]

/-- So it uses no socket. -/
lemma step_quiet {s : Io.Step} (hb : AllBuffered h) (hst : h.step s = .ok h')
    (hn : ∀ evt, s = .input (.event evt) → h.connections.get evt.token = none) :
    traffic h s = none ∧ Stems Still h h' := by
  have hd := quiet_deeds hst hn
  refine ⟨?_, Path.still (step_path hb.opened hst) hb.opened hd.1 hd.2⟩
  rcases s with (cmd | evt) | _ | _
  · rfl
  · have hslot := hn evt rfl
    simp only [traffic, Io.Handler.supply, hslot]
  · rfl
  · rfl

/-- What is sent and what is received by a connection. -/
structure Carried (x : Option Traffic) (c c' : Connection (Recorded H)) : Prop where
  sent : c'.socket.sent = c.socket.sent ++ wrote x c.handler.birth
  received : c'.socket.received = c.socket.received ++ got x c.handler.birth

/-- **An event of a socket** makes its connection read and write, and then looks at it. -/
lemma event_exchanges {evt : Io.Event} {c : Connection (Recorded H)} (hs : Sound h)
    (hb : AllBuffered h) (hc : h.connections.get evt.token = some c)
    (hst : h.step (.input (.event evt)) = .ok h') :
    ∃ e, exchange evt.kind (supplied evt c) = .ok e ∧ Opened e ∧
      e.handler.birth = c.handler.birth ∧
      ((h.supply evt.token evt.answers).put evt.token e).check_active
        (e.events.is_readable || e.events.is_writable) evt.token = .ok h' := by
  have hlt : evt.token < SYSTEM := hs.lt_system (Slab.get_lt_capacity hc)
  have hopen : Opened (supplied evt c) := (touch_buffered (hb _ c hc) (.supply _ _ _)).1.opened
  have hst : (h.supply evt.token evt.answers).handle_event evt.token evt.kind = .ok h' := hst
  rw [Io.Handler.handle_event_slot _ hlt, handle_socket_eq (supply_slot hc evt.answers) hopen]
    at hst
  obtain ⟨d, hd, hst⟩ := bind_eq_ok.mp hst
  obtain ⟨e, he, hst⟩ := bind_eq_ok.mp hst
  have hbd : d.handler.birth = c.handler.birth := by
    rcases (reading_meets hopen evt.kind).holds d hd with heq | ht
    · rw [heq]
      rfl
    · exact ht.evolves.birth
  have hbe : e.handler.birth = d.handler.birth := by
    rcases (writing_meets (reading_opened hopen hd) evt.kind).holds e he with rfl | ht
    · rfl
    · exact ht.evolves.birth
  exact ⟨e, bind_eq_ok.mpr ⟨d, hd, he⟩, writing_opened (reading_opened hopen hd) he,
    hbe.trans hbd, hst⟩

/-- An event of a socket uses that socket. -/
lemma socket_carries {evt : Io.Event} {c : Connection (Recorded H)} (hs : Sound h)
    (hb : AllBuffered h) (hc : h.connections.get evt.token = some c)
    (hst : h.step (.input (.event evt)) = .ok h') :
    Stems (Carried (traffic h (.input (.event evt)))) h h' := by
  obtain ⟨e, he, hoe, hbe, hst⟩ := event_exchanges hs hb hc hst
  obtain ⟨x, hx, hbirth, hsent, hrec, -⟩ := exchange_traffic hb hc he
  have hsupply := supply_slot hc evt.answers
  have hput : ∀ j f, ((h.supply evt.token evt.answers).put evt.token e).connections.get j = some f →
      j = evt.token ∧ f = e ∨ j ≠ evt.token ∧ h.connections.get j = some f := by
    intro j f hf
    rw [Io.Handler.put, Slab.get_set] at hf
    split at hf
    · rename_i hj
      cases hf
      exact Or.inl ⟨hj.1.symm, rfl⟩
    · rename_i hj
      have hne : j ≠ evt.token := fun heq => hj ⟨heq.symm, by rw [hsupply]; rfl⟩
      refine Or.inr ⟨hne, ?_⟩
      unfold Io.Handler.supply at hf
      rw [hc] at hf
      rwa [Slab.get_set_ne hne.symm] at hf
  have ho : AllOpened ((h.supply evt.token evt.answers).put evt.token e) := by
    intro j f hf
    rcases hput j f hf with ⟨rfl, rfl⟩ | ⟨-, hf⟩
    · exact hoe
    · exact (hb j f hf).opened
  have hrest := Path.still ((check_active_deeds ho _ evt.token).holds h' hst) ho (by simp) (by simp)
  refine ⟨hrest.made, fun j f' hf' => ?_⟩
  rcases hrest.slots j f' hf' with ⟨f, hf, hbf, hstill⟩ | hnew
  · left
    rcases hput j f hf with ⟨rfl, rfl⟩ | ⟨hne, hf⟩
    · refine ⟨c, hc, hbf.trans hbe, ?_, ?_⟩
      · rw [hstill.sent, hsent, hx, wrote, Option.elim_some, if_pos hbirth]
      · rw [TcpStream.received, hstill.log, ← TcpStream.received, hrec, hx, got, Option.elim_some,
          if_pos hbirth]
    · -- another connection
      have hother : x.birth ≠ f.handler.birth := fun heq =>
        hne (hs.numbered.accounted.distinct j evt.token f c hf hc (heq.symm.trans hbirth))
      refine ⟨f, hf, hbf, ?_, ?_⟩
      · rw [hstill.sent, hx, wrote, Option.elim_some, if_neg hother, List.append_nil]
      · rw [TcpStream.received, hstill.log, ← TcpStream.received, hx, got, Option.elim_some,
          if_neg hother, List.append_nil]
  · exact Or.inr hnew

/-- **One step** uses the sockets as its traffic says. -/
theorem step_carries {s : Io.Step} (hs : Sound h) (hb : AllBuffered h) (hst : h.step s = .ok h') :
    Stems (Carried (traffic h s)) h h' := by
  by_cases hn : ∀ evt, s = .input (.event evt) → h.connections.get evt.token = none
  · obtain ⟨hx, hstill⟩ := step_quiet hb hst hn
    refine Stems.imp hstill fun _ c c' _ _ h => ⟨?_, ?_⟩
    · rw [h.sent, hx]
      exact (List.append_nil _).symm
    · rw [TcpStream.received, TcpStream.received, h.log, hx]
      exact (List.append_nil _).symm
  · push Not at hn
    obtain ⟨evt, rfl, hslot⟩ := hn
    obtain ⟨c, hc⟩ := Option.ne_none_iff_exists'.mp hslot
    exact socket_carries hs hb hc hst

/-- What is written was to be written. -/
lemma wrote_prefix {s : Io.Step} (hs : Sound h) (hb : AllBuffered h) (hst : h.step s = .ok h')
    {t : Token} {c : Connection (Recorded H)} (hc : h.connections.get t = some c) :
    wrote (traffic h s) c.handler.birth <+: c.out_buffer.bytes := by
  rcases hx : traffic h s with _ | x
  · exact List.nil_prefix
  · obtain ⟨evt, c', rfl, hc', hbirth⟩ := traffic_slot hx
    rw [wrote, Option.elim_some]
    split
    · rename_i heq
      have ht := hs.numbered.accounted.distinct t evt.token c c' hc hc' (heq.symm.trans hbirth)
      subst ht
      rw [hc, Option.some.injEq] at hc'
      subst hc'
      obtain ⟨e, he, -⟩ := event_exchanges hs hb hc hst
      obtain ⟨y, hy, -, -, -, hpre⟩ := exchange_traffic hb hc he
      rw [hx, Option.some.injEq] at hy
      exact hy ▸ hpre
    · exact List.nil_prefix

omit [Factory F H] in
/-- Who is not there writes nothing. -/
lemma wrote_absent {s : Io.Step} {k : ℕ}
    (hk : ∀ t c, h.connections.get t = some c → c.handler.birth ≠ k) :
    wrote (traffic h s) k = [] := by
  rcases hx : traffic h s with _ | x
  · rfl
  · obtain ⟨evt, c, -, hc, hbirth⟩ := traffic_slot hx
    rw [wrote, Option.elim_some, if_neg fun heq => hk _ c hc (hbirth.symm.trans heq)]

end Loops

/-! ### The streams -/

section Nets

variable {F H : Side → Type} [∀ i, Factory (F i) (H i)] [∀ i, Handler (H i)] [Host]
variable {joined : ℕ ≃ ℕ} {n n' : Net F H} {l : Side × Io.Step}

omit [∀ i, Factory (F i) (H i)] [∀ i, Handler (H i)] [Host] in
lemma mate_eq_iff (i : Side) {k m : ℕ} : k = i.other.mate joined m ↔ m = i.mate joined k := by
  cases i <;> simp [Side.other, Side.mate, Equiv.eq_symm_apply, eq_comm]

/-- What a side has to do in a step. -/
def step_of (i : Side) (l : Side × Io.Step) : Option Io.Step := if l.1 = i then some l.2 else none

omit [Host] in
lemma step_of_eq_some {i : Side} {l : Side × Io.Step} {s : Io.Step} :
    step_of i l = some s ↔ l = (i, s) := by
  obtain ⟨j, t⟩ := l
  simp [step_of, Prod.ext_iff]

/-- What a step takes out of the stream to a connection. -/
def taken (n : Net F H) (l : Side × Io.Step) (i : Side) (k : ℕ) : Bytes :=
  if l.1 = i then got (traffic (n.loops l.1) l.2) k else []

/-- What it puts in. -/
def given (joined : ℕ ≃ ℕ) (n : Net F H) (l : Side × Io.Step) (i : Side) (k : ℕ) : Bytes :=
  if l.1 = i then [] else wrote (traffic (n.loops l.1) l.2) (i.mate joined k)

/-- **The stream is a pipe.** -/
theorem step_wire (hrel : n.Reliable joined l) (hs : n.step joined l = .ok n') (i : Side) (k : ℕ) :
    n.wire i k ++ given joined n l i k = taken n l i k ++ n'.wire i k := by
  obtain ⟨h, hh, hs⟩ := bind_eq_ok.mp hs
  cases hs
  rcases hx : traffic (n.loops l.1) l.2 with _ | x
  · simp [given, taken, hx, wrote, got]
  · have hpre := (hrel x hx).1
    rw [Option.elim_some]
    by_cases hi : l.1 = i
    · subst hi
      rw [given, taken, if_pos rfl, if_pos rfl, List.append_nil, hx, got, Option.elim_some]
      dsimp only [Net.carry]
      rw [if_pos rfl]
      by_cases hk : x.birth = k
      · subst hk
        rw [if_pos rfl, if_pos rfl]
        obtain ⟨rest, hrest⟩ := hpre
        rw [← hrest, List.drop_left]
      · rw [if_neg hk, if_neg (Ne.symm hk)]
        rfl
    · rw [given, taken, if_neg hi, if_neg hi, hx, wrote, Option.elim_some]
      dsimp only [Net.carry]
      rw [if_neg (Ne.symm hi)]
      have hside : l.1 = i.other := by
        revert hi
        cases l.1 <;> cases i <;> simp [Side.other]
      have hmate : k = l.1.mate joined x.birth ↔ x.birth = i.mate joined k := by
        rw [hside]
        exact mate_eq_iff i
      by_cases hk : x.birth = i.mate joined k
      · rw [if_pos hk, if_pos (hmate.mpr hk)]
        rfl
      · rw [if_neg hk, if_neg fun h => hk (hmate.mp h), List.append_nil]
        rfl

/-- The loops are sound, and their connections buffered. -/
def Sturdy (n : Net F H) : Prop := ∀ i, Sound (n.loops i) ∧ AllBuffered (n.loops i)

lemma step_sturdy (hn : Sturdy n) (hs : n.step joined l = .ok n') : Sturdy n' := by
  obtain ⟨hstep, hrest⟩ := Net.step_loops hs
  intro i
  by_cases hi : i = l.1
  · subst hi
    exact ⟨step_sound (hn l.1).1 hstep, step_buffered (hn l.1).2 hstep⟩
  · rw [hrest i hi]
    exact hn i

omit [∀ i, Factory (F i) (H i)] [∀ i, Handler (H i)] in
/-- Each loop starts. -/
lemma start_loops {inner : ∀ i, F i} {settings : Side → Settings}
    {addr : Side → Option SocketAddr} (hs : Net.start inner settings addr = .ok n) (i : Side) :
    Io.Handler.started (Ledger.blank (inner i)) (settings i) (addr i) = .ok (n.loops i) := by
  obtain ⟨near, hnear, hs⟩ := bind_eq_ok.mp hs
  obtain ⟨far, hfar, hs⟩ := bind_eq_ok.mp hs
  cases hs
  cases i with
  | near => exact hnear
  | far => exact hfar

/-- Each loop runs as its own steps say. -/
lemma run_loops {ls : List (Side × Io.Step)} (hr : run (Net.step joined) n ls = .ok n')
    (i : Side) : run Io.Handler.step (n.loops i) (ls.filterMap (step_of i)) = .ok (n'.loops i) := by
  have himage : run Io.Handler.step (n.loops i) (ls.filterMap (step_of i)) = .ok (n'.loops i) ∧
      Along Io.Handler.step (fun _ _ => True) (n.loops i) (ls.filterMap (step_of i)) := by
    refine run_image (fun n : Net F H => n.loops i) (fun n l s n' hl _ hs => ?_)
      (fun n l n' hl hs => ?_) (along_true n ls) hr
    · obtain rfl := step_of_eq_some.mp hl
      exact ⟨(Net.step_loops hs).1, trivial⟩
    · refine (Net.step_loops hs).2 i fun heq => ?_
      rw [step_of, if_pos heq.symm] at hl
      cases hl
  exact himage.1

omit [∀ i, Factory (F i) (H i)] [∀ i, Handler (H i)] in
lemma start_sturdy {inner : ∀ i, F i} {settings : Side → Settings}
    {addr : Side → Option SocketAddr} (hs : Net.start inner settings addr = .ok n) : Sturdy n := by
  intro i
  have hi := start_loops hs i
  refine ⟨started_sound hi, fun t c hc => ?_⟩
  rw [(Io.Handler.started_fresh hi).connections, Slab.get_with_capacity] at hc
  cases hc

/-- What the command that a step of side `j` handles has to say to a connection there. -/
def posted (j : Side) (s : Sender) (n : Net F H) (l : Side × Io.Step) : Bytes :=
  if l.1 = j then letters s (n.loops l.1) l.2 else []

variable {i j : Side}

/-- What has become of two connections that are joined, `c` that hears and `d` that speaks, once
`mail` has been handled for `d`, of which `given` has gone into the stream. -/
structure Passed (n₀ : Net F H) (c : Connection (Recorded (H i))) (d : Connection (Recorded (H j)))
    (n : Net F H) (mail given : Bytes) : Prop where
  hears : ∀ t c', (n.loops i).connections.get t = some c' → c'.handler.birth = c.handler.birth →
    c'.state = .Open → c.state = .Open ∧
      heard c' ++ n.wire i c.handler.birth = heard c ++ n₀.wire i c.handler.birth ++ given
  speaks : ∀ t d', (n.loops j).connections.get t = some d' → d'.handler.birth = d.handler.birth →
    sender d' = sender d ∧ Posts mail d d' ∧ d'.socket.sent = d.socket.sent ++ given
  given : given <+: d.out_buffer.bytes ++ mail
  hearer : c.handler.birth < (n.loops i).factory.made.length
  speaker : d.handler.birth < (n.loops j).factory.made.length

omit [∀ i, Factory (F i) (H i)] [∀ i, Handler (H i)] [Host] in
/-- What has gone into the stream and what is yet to be written make up what was to be written and
what was taken since. -/
lemma Passed.balance {n₀ : Net F H} {c : Connection (Recorded (H i))}
    {d d' : Connection (Recorded (H j))} {mail given : Bytes} (hp : Passed n₀ c d n mail given)
    {t : Token} (hd : (n.loops j).connections.get t = some d')
    (hb : d'.handler.birth = d.handler.birth) :
    ∃ took, given ++ d'.out_buffer.bytes = d.out_buffer.bytes ++ took ∧ took <+: mail ∧
      (d'.state = .Open → took = mail) := by
  obtain ⟨-, ⟨⟨took, hall, hpre, hopen, -⟩, -⟩, hsent⟩ := hp.speaks t d' hd hb
  refine ⟨took, ?_, hpre, hopen⟩
  rw [outbound, outbound, Pipe.all, Pipe.all, hsent, List.append_assoc, List.append_assoc] at hall
  exact List.append_cancel_left hall

/-- **One step** of either side. -/
theorem step_passed {n₀ : Net F H} {c : Connection (Recorded (H i))}
    {d : Connection (Recorded (H j))} {mail given : Bytes} (hij : i ≠ j)
    (hmate : d.handler.birth = i.mate joined c.handler.birth) (hn : Sturdy n)
    (hrel : n.Reliable joined l) (hs : n.step joined l = .ok n')
    (hp : Passed n₀ c d n mail given) :
    ∃ given', Passed n₀ c d n' (mail ++ posted j (sender d) n l) given' := by
  obtain ⟨hstep, hrest⟩ := Net.step_loops hs
  have hwire := step_wire hrel hs i c.handler.birth
  by_cases hi : l.1 = i
  · subst hi
    have hj : n'.loops j = n.loops j := hrest j (Ne.symm hij)
    obtain ⟨hsound, hbuf⟩ := hn l.1
    have hstems := Stems.and (step_carries hsound hbuf hstep) (step_hears hbuf hstep)
    rw [posted, if_neg hij, List.append_nil]
    rw [Passage.given, taken, if_pos rfl, if_pos rfl, List.append_nil] at hwire
    refine ⟨given, ⟨fun t e he hb ho => ?_, hj ▸ hp.speaks, hp.given,
      lt_of_lt_of_le hp.hearer hstems.made, hj ▸ hp.speaker⟩⟩
    rcases hstems.slots t e he with ⟨c', hc', hb', hcarried, r, hears⟩ | hnew
    · have hbirth := hb'.symm.trans hb
      obtain ⟨hcopen, hheard⟩ := hp.hears t c' hc' hbirth (hears.opens ho)
      have hr : r = got (traffic (n.loops l.1) l.2) c.handler.birth := by
        rw [← hbirth]
        exact List.append_cancel_left (hears.received.symm.trans hcarried.received)
      refine ⟨hcopen, ?_⟩
      rw [hears.exact ho, hr, List.append_assoc, ← hwire, hheard]
    · exact absurd hp.hearer (by rw [← hb]; exact Nat.not_lt.mpr hnew)
  · have hlj : l.1 = j := by
      revert hi hij
      cases l.1 <;> cases i <;> cases j <;> simp
    subst hlj
    have hloop : n'.loops i = n.loops i := hrest i hij
    obtain ⟨hsound, hbuf⟩ := hn l.1
    have hstems := Stems.and (step_carries hsound hbuf hstep)
      (Stems.and (step_sender hbuf hstep) (step_posts hsound hbuf hstep))
    rw [posted, if_pos rfl]
    rw [Passage.given, taken, if_neg hi, if_neg hi, ← hmate] at hwire
    refine ⟨given ++ wrote (traffic (n.loops l.1) l.2) d.handler.birth, ⟨fun t e he hb ho => ?_,
      fun t e he hb => ?_, ?_, hloop ▸ hp.hearer, lt_of_lt_of_le hp.speaker hstems.made⟩⟩
    · obtain ⟨hcopen, hheard⟩ := hp.hears t e (hloop ▸ he) hb ho
      refine ⟨hcopen, ?_⟩
      rw [← List.append_assoc, ← hheard, List.append_assoc, hwire]
      rfl
    · rcases hstems.slots t e he with ⟨d', hd', hb', hcarried, hsender, hposts⟩ | hnew
      · have hbirth := hb'.symm.trans hb
        obtain ⟨hsd, hmail, hsent⟩ := hp.speaks t d' hd' hbirth
        rw [hsd] at hposts
        refine ⟨hsender.trans hsd, hmail.trans hposts, ?_⟩
        rw [hcarried.sent, hsent, hbirth, List.append_assoc]
      · exact absurd hp.speaker (by rw [← hb]; exact Nat.not_lt.mpr hnew)
    · by_cases hthere : ∃ t d', (n.loops l.1).connections.get t = some d' ∧
          d'.handler.birth = d.handler.birth
      · obtain ⟨t, d', hd', hb'⟩ := hthere
        obtain ⟨took, hall, hpre, -⟩ := hp.balance hd' hb'
        have hw := wrote_prefix hsound hbuf hstep hd'
        rw [hb'] at hw
        refine ((List.prefix_append_right_inj given).mpr hw).trans ?_
        rw [hall]
        exact (List.prefix_append_right_inj _).mpr (hpre.trans (List.prefix_append _ _))
      · have hw : wrote (traffic (n.loops l.1) l.2) d.handler.birth = [] :=
          wrote_absent fun t d' hd' hb' => hthere ⟨t, d', hd', hb'⟩
        rw [hw, List.append_nil, ← List.append_assoc]
        exact hp.given.trans (List.prefix_append _ _)

omit [∀ i, Factory (F i) (H i)] [∀ i, Handler (H i)] [Host] in
lemma start_passed {c : Connection (Recorded (H i))} {d : Connection (Recorded (H j))}
    (hn : Sturdy n) {t u : Token} (hc : (n.loops i).connections.get t = some c)
    (hd : (n.loops j).connections.get u = some d) : Passed n c d n [] [] := by
  have hci := (hn i).1.numbered.accounted
  have hdj := (hn j).1.numbered.accounted
  refine ⟨fun t' c' hc' hb ho => ?_, fun u' d' hd' hb => ?_, List.nil_prefix, hci.slots_lt t c hc,
    hdj.slots_lt u d hd⟩
  · have ht := hci.distinct t' t c' c hc' hc hb
    subst ht
    rw [hc, Option.some.injEq] at hc'
    subst hc'
    exact ⟨ho, (List.append_nil _).symm⟩
  · have ht := hdj.distinct u' u d' d hd' hd hb
    subst ht
    rw [hd, Option.some.injEq] at hd'
    subst hd'
    exact ⟨rfl, Idles.posts (.refl d), (List.append_nil _).symm⟩

/-- **A run** of both sides. -/
theorem run_passed {ls : List (Side × Io.Step)} {c : Connection (Recorded (H i))}
    {d : Connection (Recorded (H j))} (hij : i ≠ j)
    (hmate : d.handler.birth = i.mate joined c.handler.birth) (hn : Sturdy n)
    (hrel : Along (Net.step joined) (Net.Reliable joined) n ls)
    (hr : run (Net.step joined) n ls = .ok n') {t u : Token}
    (hc : (n.loops i).connections.get t = some c) (hd : (n.loops j).connections.get u = some d) :
    ∃ given, Passed n c d n' (account (Net.step joined) (posted j (sender d)) n ls) given := by
  have hinv := account_inv (I := fun m mail => Sturdy m ∧ ∃ given, Passed n c d m mail given)
    (fun m l m' mail ⟨hm, given, hp⟩ hrel hs =>
      ⟨step_sturdy hm hs, step_passed hij hmate hm hrel hs hp⟩)
    ⟨hn, [], start_passed hn hc hd⟩ hrel hr
  exact hinv.2

lemma run_sturdy {inner : ∀ i, F i} {settings : Side → Settings}
    {addr : Side → Option SocketAddr} {ls : List (Side × Io.Step)}
    (h₀ : Net.start inner settings addr = .ok n) (hr : run (Net.step joined) n ls = .ok n') :
    Sturdy n' :=
  run_inv_true (fun _ _ _ hg hs => step_sturdy hg hs) (start_sturdy h₀) hr

/-- **From one loop's queue to the other loop's handlers.** Over a reliable stream, from any reached
state on, what the handler of an open connection is told, with what it has yet to read and what is
on the way to it, is a front part of what there was of these, what the connection it is joined to
had yet to write, and the messages handled on the other side that were for that one, in the order
they were handled; and all of it, with what the other connection has yet to write, while that one
is open. -/
theorem end_to_end {inner : ∀ i, F i} {settings : Side → Settings}
    {addr : Side → Option SocketAddr} {n₀ n₁ n₂ : Net F H} {before after : List (Side × Io.Step)}
    (h₀ : Net.start inner settings addr = .ok n₀)
    (h₁ : run (Net.step joined) n₀ before = .ok n₁) (h₂ : run (Net.step joined) n₁ after = .ok n₂)
    (hrel : Along (Net.step joined) (Net.Reliable joined) n₁ after) (hij : i ≠ j) {t u : Token}
    {c : Connection (Recorded (H i))} {d : Connection (Recorded (H j))}
    (hc : (n₁.loops i).connections.get t = some c) (hd : (n₁.loops j).connections.get u = some d)
    (hmate : d.handler.birth = i.mate joined c.handler.birth) {t' : Token}
    {c' : Connection (Recorded (H i))} (hc' : (n₂.loops i).connections.get t' = some c')
    (hb : c'.handler.birth = c.handler.birth) (ho : c'.state = .Open) :
    delivered c'.handler.calls ++ c'.in_buffer.bytes ++ n₂.wire i c.handler.birth <+:
        delivered c.handler.calls ++ c.in_buffer.bytes ++ n₁.wire i c.handler.birth ++
          d.out_buffer.bytes ++ account (Net.step joined) (posted j (sender d)) n₁ after ∧
      ∀ u' d', (n₂.loops j).connections.get u' = some d' →
        d'.handler.birth = d.handler.birth → d'.state = .Open →
          delivered c'.handler.calls ++ c'.in_buffer.bytes ++ n₂.wire i c.handler.birth ++
              d'.out_buffer.bytes =
            delivered c.handler.calls ++ c.in_buffer.bytes ++ n₁.wire i c.handler.birth ++
              d.out_buffer.bytes ++ account (Net.step joined) (posted j (sender d)) n₁ after := by
  obtain ⟨given, hp⟩ := run_passed hij hmate (run_sturdy h₀ h₁) hrel h₂ hc hd
  have hheard : delivered c'.handler.calls ++ c'.in_buffer.bytes ++ n₂.wire i c.handler.birth =
      delivered c.handler.calls ++ c.in_buffer.bytes ++ n₁.wire i c.handler.birth ++ given :=
    (hp.hears t' c' hc' hb ho).2
  refine ⟨?_, fun u' d' hd' hbd hod => ?_⟩
  · rw [hheard, List.append_assoc _ d.out_buffer.bytes]
    exact (List.prefix_append_right_inj _).mpr hp.given
  · obtain ⟨took, hall, -, htook⟩ := hp.balance hd' hbd
    rw [hheard, List.append_assoc, hall, htook hod, ← List.append_assoc]

end Nets

/-- The client sends two bytes; the socket takes both of them, and the server reads the first. -/
def says_hi : List (Side × Io.Step) :=
  [(.far, .post (Sender.send ⟨0, 0⟩ (.text "hi"))), (.far, takes_command),
    (.far, .on 0 writable { writes := [.ok 2] }),
    (.near, .on 0 readable { reads := [.ok [104]] })]

/-- Of the first connection of a side: its number, whether it is open, what it has told, and what
is on the way to it. -/
def first_slot (n : Line) (i : Side) : Option (ℕ × Bool × Bytes × Bytes) :=
  ((n.loops i).connections.get 0).map fun c =>
    (c.handler.birth, c.state.is_open, delivered c.handler.calls, n.wire i 0)

def FirstSlots (n : Line) (near far : ℕ × Bool × Bytes × Bytes) : Prop :=
  first_slot n .near = some near ∧ first_slot n .far = some far

instance (n : Line) (near far : ℕ × Bool × Bytes × Bytes) : Decidable (FirstSlots n near far) :=
  inferInstanceAs (Decidable (_ ∧ _))

theorem end_to_end_says_hi :
    ∃ (n₀ n₁ n₂ : Line) (c c' d d' : Connection (Recorded M)), line = .ok n₀ ∧
      run line_step n₀ connects = .ok n₁ ∧ run line_step n₁ says_hi = .ok n₂ ∧
      (n₁.loops .near).connections.get 0 = some c ∧ (n₁.loops .far).connections.get 0 = some d ∧
      (n₂.loops .near).connections.get 0 = some c' ∧ (n₂.loops .far).connections.get 0 = some d' ∧
      delivered c'.handler.calls = [104] ∧ n₂.wire .near 0 = [105] ∧
      delivered c'.handler.calls ++ c'.in_buffer.bytes ++ n₂.wire .near c.handler.birth ++
          d'.out_buffer.bytes =
        delivered c.handler.calls ++ c.in_buffer.bytes ++ n₁.wire .near c.handler.birth ++
          d.out_buffer.bytes ++ account line_step (posted .far (sender d)) n₁ says_hi := by
  have hrun : Returns line fun n₀ =>
      Returns (run line_step n₀ connects) fun n₁ =>
        Along line_step line_reliable n₁ says_hi ∧
        FirstSlots n₁ (0, true, [], []) (0, true, [], []) ∧
        Returns (run line_step n₁ says_hi) fun n₂ =>
          FirstSlots n₂ (0, true, [104], [105]) (0, true, [], []) := by
    decide +kernel
  obtain ⟨n₀, h₀, n₁, h₁, hrel, ⟨hc, hd⟩, n₂, h₂, hc', hd'⟩ := hrun
  obtain ⟨c, hc, hsc⟩ := Option.map_eq_some_iff.mp hc
  obtain ⟨d, hd, hsd⟩ := Option.map_eq_some_iff.mp hd
  obtain ⟨c', hc', hsc'⟩ := Option.map_eq_some_iff.mp hc'
  obtain ⟨d', hd', hsd'⟩ := Option.map_eq_some_iff.mp hd'
  simp only [Prod.mk.injEq] at hsc hsd hsc' hsd'
  have hpass := (@end_to_end _ _ _ _ plain (.refl ℕ) .near .far _ _ _ n₀ n₁ n₂ _ _ h₀ h₁ h₂
    hrel (by decide) 0 0 c d hc hd (by rw [hsd.1, hsc.1]; rfl) 0 c' hc' (by rw [hsc'.1, hsc.1])
    (is_open_iff.mp hsc'.2.1)).2 0 d' hd' (by rw [hsd'.1, hsd.1]) (is_open_iff.mp hsd'.2.1)
  exact ⟨n₀, n₁, n₂, c, c', d, d', h₀, h₁, h₂, hc, hd, hc', hd', hsc'.2.2.1, hsc'.2.2.2, hpass⟩

end XnetSocket.Passage
