import XnetSocket.Handshake
import XnetSocket.Interest
import XnetSocket.Shutdown
import XnetSocket.Upkeep

/-!
What a shutdown leaves unsent.

A shutdown asks every connection to close and schedules it once more, but it also stops the loop,
so what a connection still has to write is only written by the events of the same batch.
-/

namespace XnetSocket.Flush

open Buffer Runs Connection Lifecycle Evolution Custody Joining Touches Deeds Outbound
open Handshake Interest Shutdown Upkeep

variable {F H : Type}

/-- Nothing is left to be written. -/
def AllSent (h : Watched F H) : Prop := ∀ t c, h.connections.get t = some c → ¬ Pending c

/-- An input by which the loop may take a command. -/
def from_queue : Io.Input → Bool
  | .send _ => false
  | .event evt => evt.token = QUEUE

/-- What was accepted before the inputs of `batch` is sent: the connections there were then have
nothing left, and if no further command was taken none has. -/
def Sent (h : Watched F H) (batch : List Io.Input) (h' : Watched F H) : Prop :=
  ∀ t c, h'.connections.get t = some c →
    (c.handler.birth < h.factory.made.length ∨ ∀ i ∈ batch, from_queue i = false) → ¬ Pending c

/-- Nothing is appended to the output, of which no less has been written. -/
structure Drains (c c' : Connection H) : Prop where
  inner : c'.out_buffer.inner = c.out_buffer.inner
  position : c.out_buffer.position ≤ c'.out_buffer.position

lemma Drains.of_output {c c' : Connection H} (h : c'.out_buffer = c.out_buffer) : Drains c c' :=
  ⟨by rw [h], by rw [h]⟩

lemma Drains.trans {c d e : Connection H} (h : Drains c d) (h' : Drains d e) : Drains c e :=
  ⟨h'.inner.trans h.inner, h.position.trans h'.position⟩

/-- What is sent stays sent. -/
lemma Drains.sent {c c' : Connection H} (h : Drains c c') (hp : ¬ Pending c) : ¬ Pending c' := by
  have hpos := h.position
  unfold Pending Cursor.get_ref at hp ⊢
  rw [h.inner]
  omega

section Steps

variable [Factory F H] [Handler H] [Host] {h g h' : Watched F H}

/-- Only a message adds to the output. -/
theorem touch_drains {d : Deed} {c c' : Connection H} (ht : Touch d c c') (hd : d ≠ .message) :
    Drains c c' := by
  have htold : ∀ {c c' : Connection H} {err : Error}, c.error err = .ok c' → Drains c c' :=
    fun he => .of_output (error_calm he).out_buffer
  have hread : ∀ {c c' : Connection H} {res : Result Unit}, c.read = .ok (c', res) → Drains c c' :=
    fun hr => .of_output (read_inward hr).out_buffer
  have hwrite : ∀ {d res}, c.write = (d, res) → Drains c d := fun hw => by
    obtain ⟨n, hn⟩ := write_writes c
    rw [hw] at hn
    exact ⟨by rw [hn.out_buffer]; rfl, by rw [hn.out_buffer]; exact Nat.le_add_right _ _⟩
  have hheard : ∀ handler : H, Drains c { c with handler := handler } := fun _ => .of_output rfl
  cases ht with
  | supply reads writes => exact .of_output rfl
  | message h => exact absurd rfl hd
  | message_told h he => exact absurd rfl hd
  | close h => exact .of_output (send_close_calm h).out_buffer
  | tell h => exact htold h
  | read h => exact hread h
  | read_told h he => exact (hread h).trans (htold he)
  | write h => exact hwrite h
  | write_told h he => exact (hwrite h).trans (htold he)
  | new_timeout h =>
    obtain ⟨handler, rfl | ⟨err, he⟩⟩ := take_timeout_cases h
    · exact hheard handler
    · exact (hheard handler).trans (htold he)
  | timeout h =>
    obtain ⟨handler, rfl | ⟨err, he⟩⟩ := trigger_cases h
    · exact hheard handler
    · exact (hheard handler).trans (htold he)
  | shut h => exact .of_output (shutdown_calm h).out_buffer

omit [Factory F H] [Handler H] [Host] in
lemma born_sent {tok : Token} {handler : Recorded H} {c : Connection (Recorded H)}
    (hb : Born h tok handler c) : ¬ Pending c := by
  rw [pending_iff, hb.out_buffer]
  exact fun hne => hne rfl

/-- While no message is sent, what is sent stays sent. -/
lemma act_sent {d : Deed} (ha : Act d h g) (hd : d ≠ .message) (hs : AllSent h) : AllSent g :=
  ha.slots (fun _ _ _ _ ht hc => (touch_drains ht hd).sent hc) (fun _ _ _ hb _ => born_sent hb) hs

lemma path_sent {ds : List Deed} (hp : Path ds h g) (hd : .message ∉ ds) (hs : AllSent h) :
    AllSent g :=
  hp.inv (fun _ hm _ _ ha => act_sent ha fun he => hd (he ▸ hm)) hs

/-- Inputs that take no command send no message. -/
lemma batch_sent {batch : List Io.Input} (ho : AllOpened h) (hs : AllSent h)
    (hq : ∀ i ∈ batch, from_queue i = false) (hr : run Io.Handler.input h batch = .ok g) :
    AllSent g := by
  induction batch generalizing h with
  | nil =>
    cases hr
    exact hs
  | cons i batch ih =>
    obtain ⟨f, hf, hr⟩ := run_cons.mp hr
    have hp := step_path (s := .input i) ho hf
    refine ih (hp.opened ho) (path_sent hp ?_ hs) (fun j hj => hq j (List.mem_cons_of_mem _ hj)) hr
    have hi := hq i (by simp)
    cases i with
    | send cmd => simp [deeds]
    | event evt =>
      have htok : evt.token ≠ QUEUE := by simpa [from_queue] using hi
      simp only [deeds, happening, if_neg htok]
      split
      · simp [accepting]
      · split <;> simp [expiring, exchanging]

/-! ### Closing every connection -/

/-- A connection that was asked to close because of the shutdown. -/
structure Closed (c c' : Connection (Recorded H)) : Prop where
  state : c'.state = .AwaitingClose
  birth : c'.handler.birth = c.handler.birth
  out_buffer : c'.out_buffer = c.out_buffer

omit [Factory F H] in
lemma shutdown_closes {c : Connection (Recorded H)} (ho : Opened c) :
    Meets c.shutdown (fun _ => False) fun c' => Closed c c' ∧ Touch .shut c c' := by
  rcases hs : c.shutdown with p | c'
  · rw [shutdown_eq] at hs
    have hc : Opened ({ c with handler := Handler.on_shutdown c.handler } : Connection _) := ho
    unfold send_close at hs
    rcases hc with hst | hst <;> rw [hst] at hs <;> cases hs
  · refine ⟨⟨?_, (shutdown_evolves hs).birth, (shutdown_calm hs).out_buffer⟩, .shut hs⟩
    rw [shutdown_eq, bind_eq_ok] at hs
    obtain ⟨⟨d, res⟩, hd, hs⟩ := hs
    cases hs
    rw [send_close_opened (c := { c with handler := Handler.on_shutdown c.handler }) ho hd]
    exact check_events_state _

/-- What the shutdown makes of the slots. -/
structure AllClosed (h g : Watched F H) : Prop where
  made : g.factory.made = h.factory.made
  after : ∀ t c', g.connections.get t = some c' → ∃ c, h.connections.get t = some c ∧ Closed c c'
  before : ∀ t c, h.connections.get t = some c → ∃ c', g.connections.get t = some c' ∧ Closed c c'
  poll : g.poll = h.poll
  state : g.state = .Inactive

lemma shutdown_all (ho : AllOpened h) :
    Meets h.shutdown (fun _ => h.settings.panic_on_shutdown = true) (AllClosed h) := by
  have hf : ∀ c : Connection (Recorded H), Opened c →
      Meets (c.shutdown >>= fun c => .ok (c, ([] : List Unit))) (fun _ => False)
        fun r => Touch .shut c r.1 :=
    fun c hc => (shutdown_closes hc).bind fun _ _ ht => ht.2
  have hclosed : ∀ c : Connection (Recorded H), Opened c → ∀ c' us,
      (c.shutdown >>= fun c => .ok (c, ([] : List Unit))) = .ok (c', us) → Closed c c' := by
    intro c hc c' us h
    obtain ⟨d, hd, h⟩ := bind_eq_ok.mp h
    cases h
    exact ((shutdown_closes hc).holds _ hd).1
  refine ((iter_mut_deeds ho hf).of_stops fun _ hp => hp.elim).bind fun r hr _ => ?_
  obtain ⟨conns, us⟩ := r
  have hv := Slab.iter_mut_visited hr
  dsimp only
  split
  · assumption
  · refine ⟨rfl, fun t c' hc' => ?_, fun t c hc => ?_, rfl, rfl⟩
    · have hne : h.connections.get t ≠ none := fun h0 => by
        rw [(hv.vacant t).mpr h0] at hc'
        cases hc'
      obtain ⟨c, hc⟩ := Option.ne_none_iff_exists'.mp hne
      obtain ⟨d, vs, hd, hget, -⟩ := hv.filled t (Slab.mem_keys.mpr (by simp [hc])) c hc
      rw [hc', Option.some.injEq] at hget
      exact ⟨c, hc, hget ▸ hclosed c (ho t c hc) d vs hd⟩
    · obtain ⟨d, vs, hd, hget, -⟩ := hv.filled t (Slab.mem_keys.mpr (by simp [hc])) c hc
      exact ⟨d, hget, hclosed c (ho t c hc) d vs hd⟩

/-! ### The input that hands the command over -/

/-- The handler once the answers of the event are in and the first command is taken. -/
def took (h : Watched F H) (a : Io.Answers) : Watched F H :=
  { h.supply QUEUE a with queue := ⟨h.queue.bound, h.queue.commands.tail⟩ }

/-- What follows the shutdown itself: the connections it is for are scheduled again. -/
def reschedule (cmd : Command) (g : Watched F H) : Except Panic (Watched F H) :=
  if cmd.token = ALL then g.finish_broadcast [] else g.schedule_at cmd.token

/-- **The input that hands a shutdown command over.** -/
theorem input_shutdown {kind : Ready} {a : Io.Answers} {cmd : Command} {rest : List Command}
    (hq : h.queue.commands = cmd :: rest) (hcmd : asks_shutdown cmd = true) :
    h.input (.event ⟨QUEUE, kind, a⟩) = (took h a).shutdown >>= fun g => reschedule cmd g >>=
      fun g => .ok { g with poll := (g.poll.reregister QUEUE readable).1 } := by
  have hqueue : (h.supply QUEUE a).queue.commands = cmd :: rest := hq
  have htook : took h a = { h.supply QUEUE a with queue := ⟨h.queue.bound, rest⟩ } := by
    unfold took
    rw [hq]
    rfl
  obtain ⟨token, signal, id⟩ := cmd
  cases signal with
  | Shutdown =>
    have hsys : token ≠ SYSTEM := by simpa [asks_shutdown] using hcmd
    show (h.supply QUEUE a).handle_event QUEUE kind = _
    rw [Io.Handler.handle_event_queue, htook]
    unfold Io.Handler.handle_commands
    rw [Io.Handler.take_command_cons hqueue]
    simp only [Io.Handler.handle_queue, if_neg hsys]
    unfold reschedule
    split
    · simp only [Io.Handler.handle_broadcast, bind_assoc]
      rfl
    · simp only [Io.Handler.handle_directed, bind_assoc]
      rfl
  | Message msg => cases hcmd
  | Close code reason => cases hcmd
  | Connect url => cases hcmd
  | Timeout delay event => cases hcmd
  | Cancel timeout => cases hcmd

lemma reschedule_deeds (ho : AllOpened g) (cmd : Command) :
    Meets (reschedule cmd g) Mishap (Path [.ask, .tell] g) := by
  unfold reschedule
  split
  · exact finish_broadcast_deeds ho []
  · exact mishap (schedule_at_deeds ho _)

omit [Factory F H] in
/-- The rest of a shutdown has no failures when the poll agrees. -/
lemma reschedule_agrees (hp : g.poll.Agrees) (cmd : Command) :
    ∃ f, reschedule cmd g = .ok f ∧ f.connections = g.connections := by
  unfold reschedule
  split
  · obtain ⟨os, hall⟩ := schedule_all_agrees hp
    unfold Io.Handler.finish_broadcast
    rw [hall]
    exact ⟨_, rfl, rfl⟩
  · unfold Io.Handler.schedule_at
    split
    · rw [schedule_agrees hp]
      exact ⟨_, rfl, rfl⟩
    · exact ⟨g, rfl, rfl⟩

/-! ### The rest of the batch -/

/-- Every connection awaits the close. -/
def AllClosing (h : Watched F H) : Prop :=
  ∀ t c, h.connections.get t = some c → c.state = .AwaitingClose

/-- Scheduling and reporting failures opens nothing. -/
lemma path_closing (hp : Path [.ask, .tell] h g) (hs : AllClosing h) : AllClosing g := by
  refine hp.inv (I := AllClosing) (fun d hd g g' ha hg => ?_) hs
  cases ha with
  | ask hr => exact hg
  | touch hc ht =>
    intro t e he
    rw [Io.Handler.put, Slab.get_set] at he
    split at he
    · cases he
      exact (touch_awaiting ht (hg _ _ hc)).1
    · exact hg t e he
  | _ => simp at hd

/-- The input that hands a shutdown over leaves every connection closing, and sends nothing. -/
lemma input_closing {kind : Ready} {a : Io.Answers} {cmd : Command} {rest : List Command}
    (ho : AllOpened h) (hq : h.queue.commands = cmd :: rest) (hcmd : asks_shutdown cmd = true)
    (hi : h.input (.event ⟨QUEUE, kind, a⟩) = .ok g) :
    h.settings.panic_on_shutdown = false ∧ AllClosing g ∧
      g.factory.made.length = h.factory.made.length ∧ (AllSent h → AllSent g) := by
  have hp := step_path (s := .input (.event ⟨QUEUE, kind, a⟩)) ho hi
  have htook : AllOpened (took h a) := (supply_deeds h QUEUE a).opened ho
  have hmessage : .message ∉ deeds h (.input (.event ⟨QUEUE, kind, a⟩)) := by
    have hsignal : cmd.signal = .Shutdown := by
      unfold asks_shutdown at hcmd
      split at hcmd
      · assumption
      · cases hcmd
    have hhappen : happening h.queue.commands QUEUE =
        [.wait, .ask, .shut, .announce, .ask, .tell] := by
      unfold happening taking
      rw [if_neg (by decide), if_neg (by decide), if_pos rfl, hq]
      simp [hsignal, commanded]
    simp [deeds, hhappen]
  rw [input_shutdown hq hcmd] at hi
  obtain ⟨f, hf, hi⟩ := bind_eq_ok.mp hi
  obtain ⟨f', hf', hi⟩ := bind_eq_ok.mp hi
  cases hi
  have hall := (shutdown_all htook).holds f hf
  have hre := (reschedule_deeds ((shutdown_deeds htook).holds f hf |>.opened htook) cmd).holds
    f' hf'
  have hclosing : AllClosing f := fun t c' hc' => by
    obtain ⟨c, -, hc⟩ := hall.after t c' hc'
    exact hc.state
  have hdone : AllClosing f' := path_closing hre hclosing
  refine ⟨?_, hdone, ?_, path_sent hp hmessage⟩
  · obtain ⟨⟨conns, us⟩, -, hf⟩ := bind_eq_ok.mp hf
    dsimp only at hf
    split at hf
    · cases hf
    · rename_i hpanic
      exact Bool.eq_false_iff.mpr hpanic
  · have hmade : f'.factory.made = f.factory.made := by
      refine hre.inv (I := fun g => g.factory.made = f.factory.made) (fun d hd g g' ha hg => ?_) rfl
      cases ha with
      | ask hr => exact hg
      | touch hc ht => exact hg
      | _ => simp at hd
    exact congrArg List.length (hmade.trans hall.made)

/-- Whatever the inputs after it are, what was sent before a shutdown stays sent. -/
lemma batch_closing {batch : List Io.Input} (ho : AllOpened h) (hc : AllClosing h)
    (hs : AllSent h) (hr : run Io.Handler.input h batch = .ok g) : Sent h batch g := by
  intro t c' hc' hold
  rcases hold with hold | hq
  · have hstems : Stems Awaiting h g := by
      have hall : AllOpened g ∧ Stems Awaiting h g := by
        refine run_inv_true (I := fun g => AllOpened g ∧ Stems Awaiting h g)
          (fun g i g' hg hi => ?_) ⟨ho, .refl Awaiting.refl h⟩ hr
        have hp := step_path (s := .input i) hg.1 hi
        exact ⟨hp.opened hg.1, hg.2.trans (fun _ _ _ => Awaiting.trans)
          (hp.stems Awaiting.refl (fun _ _ _ => Awaiting.trans) hg.1
            fun _ _ _ _ _ ht => touch_awaiting ht)⟩
      exact hall.2
    rcases hstems.slots t c' hc' with ⟨c, hget, -, ha⟩ | hnew
    · obtain ⟨-, hinner, hpos⟩ := ha (hc t c hget)
      exact Drains.sent ⟨hinner, hpos⟩ (hs t c hget)
    · omega
  · exact batch_sent ho hs hq hr t c' hc'

/-! ### What a shutdown leaves unsent -/

/-- The batch in which a shutdown is handled is the last one. -/
lemma event_loop_last {kind : Ready} {a : Io.Answers} {batch : List Io.Input}
    {polls : List Io.Handler.Poll} (ho : AllOpened h) (hs : h.state = .Active)
    (htakes : takes_shutdown h (.event ⟨QUEUE, kind, a⟩) = true) :
    h.event_loop (.ok (.event ⟨QUEUE, kind, a⟩ :: batch) :: polls) =
      run Io.Handler.input h (.event ⟨QUEUE, kind, a⟩ :: batch) >>= fun g =>
        .ok (g, some (.ok ())) := by
  have hact : h.state.is_active = true := by rw [hs]; rfl
  rw [Io.Handler.event_loop, if_pos hact]
  rcases hg : run Io.Handler.input h (.event ⟨QUEUE, kind, a⟩ :: batch) with p | g
  · rfl
  · obtain ⟨-, -, hstate⟩ := batch_announces ho hg
    rw [if_neg (by simp [taken, htakes])] at hstate
    rw [ok_bind, ok_bind, check_count_inactive hstate, event_loop_inactive hstate]

omit [Factory F H] [Handler H] [Host] in
lemma asks_takes {cmd : Command} {rest : List Command} (hq : h.queue.commands = cmd :: rest)
    (hcmd : asks_shutdown cmd = true) (kind : Ready) (a : Io.Answers) :
    takes_shutdown h (.event ⟨QUEUE, kind, a⟩) = true := by
  simp [takes_shutdown, hq, hcmd]

/-- What is left to be written when a shutdown is handled is left by a loop that returns without
another event of a socket. -/
lemma shutdown_leaves {cmd : Command} {rest : List Command} (hsound : Sound h) (ho : AllOpened h)
    (hs : h.state = .Active) (hq : h.queue.commands = cmd :: rest)
    (hcmd : asks_shutdown cmd = true) (hpanic : h.settings.panic_on_shutdown ≠ true)
    (hall : ∀ kind a batch polls h',
      h.event_loop (.ok (.event ⟨QUEUE, kind, a⟩ :: batch) :: polls) = .ok (h', some (.ok ())) →
        Sent h batch h') : AllSent h := by
  -- no further event comes, and the poll agrees to everything
  have htook : AllOpened (took h {}) := (supply_deeds h QUEUE {}).opened ho
  have hslots : (took h {}).connections = h.connections :=
    hsound.supply_slots (by decide) {}
  have hshut := shutdown_all htook
  rcases hf : (took h {}).shutdown with p | f
  · rw [hf] at hshut
    exact absurd hshut hpanic
  have hclosed := hshut.holds f hf
  have hagrees : f.poll.Agrees := by
    rw [hclosed.poll]
    intro p hp
    cases hp
  obtain ⟨f', hf', hsame⟩ := reschedule_agrees hagrees cmd
  have hi : h.input (.event ⟨QUEUE, readable, {}⟩) =
      .ok { f' with poll := (f'.poll.reregister QUEUE readable).1 } := by
    rw [input_shutdown hq hcmd, hf, ok_bind, hf', ok_bind]
  intro t c hc
  obtain ⟨c', hc', hclose⟩ := hclosed.before t c (hslots ▸ hc)
  have hdone := hall readable {} [] [] _ (by
    rw [event_loop_last ho hs (asks_takes hq hcmd readable {}), run_cons.mpr ⟨_, hi, run_nil _⟩,
      ok_bind])
  have hsent := hdone t c' (by rw [← hc', ← hsame]) (Or.inr fun i hi => by cases hi)
  unfold Pending at hsent ⊢
  rwa [hclose.out_buffer] at hsent

/-- When nothing is left to be written, or the shutdown stops the loop, a loop that returns has
sent everything. -/
lemma shutdown_flushes {cmd : Command} {rest : List Command} {kind : Ready} {a : Io.Answers}
    {batch : List Io.Input} {polls : List Io.Handler.Poll} {h' : Watched F H} (ho : AllOpened h)
    (hs : h.state = .Active) (hq : h.queue.commands = cmd :: rest)
    (hcmd : asks_shutdown cmd = true) (hor : h.settings.panic_on_shutdown = true ∨ AllSent h)
    (hl : h.event_loop (.ok (.event ⟨QUEUE, kind, a⟩ :: batch) :: polls) =
      .ok (h', some (.ok ()))) : Sent h batch h' := by
  rw [event_loop_last ho hs (asks_takes hq hcmd kind a)] at hl
  obtain ⟨g, hg, hl⟩ := bind_eq_ok.mp hl
  cases hl
  obtain ⟨f, hf, hg⟩ := run_cons.mp hg
  obtain ⟨hpanic, hclosing, hmade, hsent⟩ := input_closing ho hq hcmd hf
  rcases hor with hpanic' | hall
  · rw [hpanic] at hpanic'
    cases hpanic'
  have hof := (step_path (s := .input (.event ⟨QUEUE, kind, a⟩)) ho hf).opened ho
  have hdone := batch_closing hof hclosing (hsent hall) hg
  unfold Sent at hdone
  rw [hmade] at hdone
  exact hdone

/-- **What a shutdown leaves unsent.** In the state in which a shutdown is handled, everything
that was accepted is sent whenever the loop returns, exactly when nothing is left to be written
already, unless the shutdown stops the loop. -/
theorem flushed_iff {inner : F} {settings : Settings} {addr : Option SocketAddr}
    {steps : List Io.Step} {cmd : Command} {rest : List Command}
    (hr : Io.Handler.execute (Ledger.blank inner) settings addr steps = .ok h)
    (hs : h.state = .Active) (hq : h.queue.commands = cmd :: rest)
    (hcmd : asks_shutdown cmd = true) :
    (∀ kind a batch polls h', h.event_loop (.ok (.event ⟨QUEUE, kind, a⟩ :: batch) :: polls) =
      .ok (h', some (.ok ())) → Sent h batch h') ↔
      h.settings.panic_on_shutdown = true ∨ AllSent h := by
  have hsound := execute_sound hr
  have ho := execute_opened hr
  constructor
  · intro hall
    by_cases hpanic : h.settings.panic_on_shutdown = true
    · exact Or.inl hpanic
    · exact Or.inr (shutdown_leaves hsound ho hs hq hcmd hpanic hall)
  · intro hor kind a batch polls h' hl
    exact shutdown_flushes ho hs hq hcmd hor hl

end Steps

/-- A peer connects, a message for it is accepted, and the shutdown comes before its socket takes
any of it. -/
def accepts_then_shuts_down : List Io.Step :=
  [accepts_peer, .post (Sender.send ⟨0, 0⟩ (.text "abcd")), takes_command,
    .post (Sender.shutdown ⟨0, 0⟩)]

/-- An event of the queue that brings no answers. -/
def queue_event : Io.Input := .event ⟨QUEUE, readable, {}⟩

/-- The loop returns, and the message is never written. -/
theorem shutdown_drops_output :
    ∃ h h', serve {} accepts_then_shuts_down = .ok h ∧ h.state = .Active ∧
      h.queue.commands.head?.any asks_shutdown = true ∧
      loop h [.ok [queue_event]] = .ok (h', some (.ok ())) ∧ ¬ Sent h [] h' := by
  have hrun : Returns (serve {} accepts_then_shuts_down) fun h =>
      (h.state = .Active ∧ h.queue.commands.head?.any asks_shutdown = true) ∧
      Returns (loop h [.ok [queue_event]]) fun r => r.2 = some (.ok ()) ∧
        (r.1.connections.get 0).map (fun c => (c.out_buffer.position, c.out_buffer.get_ref.len)) =
          some (0, 4) := by decide +kernel
  obtain ⟨h, hh, ⟨hs, hq⟩, ⟨h', res⟩, hl, rfl, hc⟩ := hrun
  refine ⟨h, h', hh, hs, hq, hl, fun hsent => ?_⟩
  obtain ⟨c, hc, hpos⟩ := Option.map_eq_some_iff.mp hc
  obtain ⟨hpos, hlen⟩ := Prod.mk.inj hpos
  refine hsent 0 c hc (Or.inr fun i hi => by cases hi) ?_
  unfold Pending
  omega

/-- A peer connects, and the loop is told to shut down. -/
def only_shuts_down : List Io.Step := [accepts_peer, .post (Sender.shutdown ⟨0, 0⟩)]

theorem flushed_iff_no_output :
    ∃ h cmd rest, serve {} only_shuts_down = .ok h ∧ h.queue.commands = cmd :: rest ∧
      ((∀ kind a batch polls h', loop h (.ok (.event ⟨QUEUE, kind, a⟩ :: batch) :: polls) =
        .ok (h', some (.ok ())) → Sent h batch h') ↔
        h.settings.panic_on_shutdown = true ∨ AllSent h) := by
  have hrun : Returns (serve {} only_shuts_down) fun h =>
      h.state = .Active ∧ h.queue.commands.head?.any asks_shutdown = true := by decide +kernel
  obtain ⟨h, hh, hs, hq⟩ := hrun
  rcases hcmds : h.queue.commands with _ | ⟨cmd, rest⟩ <;> rw [hcmds] at hq
  · cases hq
  · exact ⟨h, cmd, rest, hh, hcmds, @flushed_iff _ _ _ _ plain h _ _ _ _ cmd rest hh hs hcmds hq⟩

end XnetSocket.Flush
