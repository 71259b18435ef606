import XnetSocket.Broadcast
import XnetSocket.Connecting
import XnetSocket.Indexing
import XnetSocket.Independence

/-!
Everything that can stop the loop.

With no setting that asks to panic, five things are left: an event for the token `SYSTEM`, an
event of a listener that a client does not have, an event of a socket whose slot is empty, a
request to connect to a name that does not resolve, and buffers that cannot be allocated for a
connection that would be there. Nothing a peer sends and nothing a handler answers is among them.
-/

namespace XnetSocket.Panics

open Buffer Runs Connection Outbound Intake Lifecycle Evolution Custody Touches Deeds Streams
open Broadcast Connecting Indexing Joining Independence

variable {F H : Type}

/-- Nothing stops the computation. -/
abbrev Never (_ : Panic) : Prop := False

lemma never {α : Type} {x : Except Panic α} (h : ∃ a, x = .ok a) :
    Meets x Never fun _ => True := by
  obtain ⟨a, rfl⟩ := h
  trivial

lemma returns_of_never {α : Type} {x : Except Panic α} {Q : α → Prop} (h : Meets x Never Q) :
    ∃ a, x = .ok a := by
  cases x with
  | error p => exact h.elim
  | ok a => exact ⟨a, rfl⟩

/-- What stops the computation, if anything does, is `o`. -/
def Stops {α : Type} (x : Except Panic α) (o : Option Panic) : Prop :=
  Meets x (fun p => o = some p) fun _ => o = none

lemma stops_none {α : Type} {x : Except Panic α} (h : Meets x Never fun _ => True) :
    Stops x none :=
  (h.of_stops fun _ hp => hp.elim).mono fun _ _ => rfl

lemma stops_some {α : Type} {x : Except Panic α} {p : Panic} (h : x = .error p) :
    Stops x (some p) := by
  subst h
  exact rfl

lemma Stops.error_iff {α : Type} {x : Except Panic α} {o : Option Panic} (h : Stops x o)
    (p : Panic) : x = .error p ↔ o = some p := by
  cases x with
  | error q =>
    rw [show o = some q from h, Option.some.injEq, Except.error.injEq]
  | ok a =>
    rw [show o = none from h]
    exact ⟨nofun, nofun⟩

lemma Stops.ok_iff {α : Type} {x : Except Panic α} {o : Option Panic} (h : Stops x o) :
    (∃ a, x = .ok a) ↔ o = none := by
  cases x with
  | error q =>
    rw [show o = some q from h]
    exact ⟨nofun, nofun⟩
  | ok a => exact iff_of_true ⟨a, rfl⟩ h

/-! ### A connection -/

section Touches

/-- An opened connection with its cursors in place, and no setting that asks to panic. -/
structure Able (c : Connection H) : Prop where
  buffered : Buffered c
  quiet : c.settings.Quiet

/-- Hearing of something does not matter. -/
lemma Able.note {c : Connection H} (hc : Able c) (handler : H) :
    Able { c with handler := handler } :=
  ⟨⟨hc.buffered.opened, hc.buffered.input, hc.buffered.output⟩, hc.quiet⟩

variable [Handler H] [Host]

lemma error_never {c : Connection H} (hc : Able c) (err : Error) :
    Meets (c.error err) Never fun _ => True :=
  never (error_returns hc.quiet err)

omit [Handler H] in
lemma send_message_never {c : Connection H} (hc : Able c) (msg : Message) :
    Meets (c.send_message msg) Never fun _ => True := by
  obtain ⟨c', res, h, -⟩ := send_message_spec hc.buffered.output msg
  exact never ⟨_, h⟩

omit [Handler H] [Host] in
lemma send_close_never {c : Connection H} (hc : Able c) (code : CloseCode) (reason : String) :
    Meets (c.send_close code reason) Never fun _ => True := by
  obtain ⟨c', h⟩ := send_close_quiet c hc.buffered.opened.not_connecting code reason
  exact never ⟨_, h⟩

omit [Host] in
lemma shutdown_never {c : Connection H} (hc : Able c) :
    Meets c.shutdown Never fun _ => True := by
  unfold Connection.shutdown
  refine (send_close_never (hc.note _) _ _).bind fun r _ _ => ?_
  rcases r with ⟨d, err | u⟩ <;> trivial

lemma take_timeout_never {c : Connection H} (hc : Able c) (event : Token)
    (timeout : TimerHandle) :
    Meets (Io.Handler.take_timeout event timeout c) Never fun _ => True := by
  have hable : Able (c.new_timeout event timeout).1 := hc.note _
  unfold Io.Handler.take_timeout
  split <;> rename_i heq <;> rw [heq] at hable
  · trivial
  · exact error_never hable _

lemma trigger_never {c : Connection H} (hc : Able c) (event : Token) :
    Meets (Io.Handler.trigger event c) Never fun _ => True := by
  have hable : Able (c.timeout_triggered event).1 := hc.note _
  unfold Io.Handler.trigger
  split <;> rename_i heq <;> rw [heq] at hable
  · trivial
  · exact error_never hable _

lemma Able.touch {d : Deed} {c c' : Connection (Recorded H)} (hc : Able c) (ht : Touch d c c') :
    Able c' :=
  ⟨(touch_buffered hc.buffered ht).1, ht.evolves.same.settings ▸ hc.quiet⟩

lemma reading_never {c : Connection (Recorded H)} (hc : Able c) (events : Ready) :
    Meets (reading events c) Never Able := by
  have hread : Meets (reading events c) Never fun _ => True := by
    unfold reading
    split
    · obtain ⟨new, d, res, hm⟩ := read_moved hc.buffered.opened hc.buffered.input c.socket.reads
      have heq : c.read = .ok (d, res) := hm.eq
      rw [heq, ok_bind]
      rcases res with err | u
      · exact never (error_returns ((read_inward heq).settings ▸ hc.quiet) err)
      · trivial
    · trivial
  refine hread.of_ok fun d hd => ?_
  rcases (reading_meets hc.buffered.opened events).holds d hd with rfl | ht
  · exact hc
  · exact hc.touch ht

lemma writing_never {c : Connection (Recorded H)} (hc : Able c) (events : Ready) :
    Meets (writing events c) Never Able := by
  have hwrite : Meets (writing events c) Never fun _ => True := by
    unfold writing
    split
    · have hset := (write_evolves c).same.settings
      rcases hw : c.write with ⟨d, err | u⟩ <;> rw [hw] at hset
      · exact never (error_returns (hset ▸ hc.quiet) err)
      · trivial
    · trivial
  refine hwrite.of_ok fun d hd => ?_
  rcases (writing_meets hc.buffered.opened events).holds d hd with rfl | ht
  · exact hc
  · exact hc.touch ht

end Touches

/-! ### The loop -/

section Loops

variable [Factory F H] [Handler H] [Host] {h g h' : Watched F H} {ds : List Deed}

/-- A reached state of a loop with no setting that asks to panic. -/
structure Fit (h : Watched F H) : Prop where
  sound : Sound h
  buffered : AllBuffered h
  quiet : h.settings.Quiet

omit [Factory F H] [Handler H] [Host] in
lemma Fit.able (hf : Fit h) {t : Token} {c : Connection (Recorded H)}
    (hc : h.connections.get t = some c) : Able c :=
  ⟨hf.buffered t c hc, (hf.sound.settings t c hc).symm ▸ hf.quiet⟩

lemma Fit.next {queue : SyncChannel} {timer : Timer} (hf : Fit h)
    (hk : Keeps { h with queue := queue, timer := timer } h') (hp : Path ds h h') : Fit h' :=
  ⟨hf.sound.of_keeps hk, Path.buffered hp hf.buffered, by rw [hk.settings]; exact hf.quiet⟩

omit [Factory F H] [Handler H] [Host] in
lemma Fit.waiting (hf : Fit h) (queue : SyncChannel) (timer : Timer) :
    Fit { h with queue := queue, timer := timer } :=
  ⟨hf.sound.of_keeps (.refl _), hf.buffered, hf.quiet⟩

lemma check_active_never (hf : Fit h) {t : Token} {c : Connection (Recorded H)}
    (hc : h.connections.get t = some c) (active : Bool) :
    Meets (h.check_active active t) Never fun _ => True := by
  have hlose : ∀ {g : Watched F H} {d : Connection (Recorded H)}, g.connections.get t = some d →
      Meets (g.lose t) Never fun _ => True := fun hd =>
    never ((lose_returns hd).imp fun _ hg => hg.1)
  unfold Io.Handler.check_active
  rw [at_slot_of_get hc, ok_bind]
  split
  · have hslots := schedule_slots h c
    split <;> rename_i g _ heq <;> rw [heq] at hslots
    · trivial
    · refine (error_never (hf.able hc) _).bind fun d _ _ => hlose (d := d) (get_put (c := c) ?_ d)
      rw [← hc]
      exact congrArg (Slab.get · t) hslots
  · exact hlose hc

omit [Factory F H] [Handler H] [Host] in
/-- Every connection is visited. -/
lemma iter_mut_never {A : Type} (hf : Fit h)
    {f : Connection (Recorded H) → Except Panic (Connection (Recorded H) × List A)}
    (hn : ∀ c, Able c → Meets (f c) Never fun _ => True) :
    Meets (h.connections.iter_mut f) Never fun _ => True :=
  never (Slab.visit_returns h.connections.nodup_keys
    (fun _ _ c hc => returns_of_never (hn c (hf.able hc))) [])

omit [Host] in
lemma shutdown_all_never (hf : Fit h) : Meets h.shutdown Never fun _ => True := by
  unfold Io.Handler.shutdown
  have hshut : ∀ c : Connection (Recorded H), Able c →
      Meets (c.shutdown >>= fun c => .ok (c, ([] : List Unit))) Never fun _ => True :=
    fun c hc => (shutdown_never hc).bind fun _ _ _ => trivial
  refine (iter_mut_never hf hshut).bind fun r _ _ => ?_
  dsimp only
  rw [if_neg (by rw [hf.quiet.2.1]; decide)]
  trivial

/-! ### Commands -/

omit [Factory F H] in
lemma with_id_never (hf : Fit h) (t : Token) (id : UInt32)
    {f : Connection (Recorded H) → Except Panic (Connection (Recorded H) × Result Unit)}
    (hn : ∀ c, Able c → Meets (f c) Never fun r => Able r.1) :
    Meets (h.with_id t id f) Never fun _ => True := by
  unfold Io.Handler.with_id
  split
  · rename_i c hc
    split
    · refine (hn c (hf.able hc)).bind fun r _ hr => ?_
      rcases r with ⟨d, err | u⟩
      · exact (error_never hr err).bind fun _ _ _ => trivial
      · trivial
    · trivial
  · trivial

omit [Factory F H] in
lemma error_at_never (hf : Fit h) (t : Token) (err : Error) :
    Meets (h.error_at t err) Never fun _ => True := by
  unfold Io.Handler.error_at
  split
  · rename_i c hc
    exact (error_never (hf.able hc) err).bind fun _ _ _ => trivial
  · trivial

omit [Factory F H] in
lemma schedule_at_never (hf : Fit h) (t : Token) :
    Meets (h.schedule_at t) Never fun _ => True := by
  unfold Io.Handler.schedule_at
  split
  · rename_i c hc
    split
    · trivial
    · exact (error_never (hf.able hc) _).bind fun _ _ _ => trivial
  · trivial

omit [Factory F H] [Handler H] [Host] in
lemma for_each_never (hf : Fit h)
    {f : Connection (Recorded H) → Except Panic (Connection (Recorded H) × Result Unit)}
    (hn : ∀ c, Able c → Meets (f c) Never fun _ => True) :
    Meets (h.for_each f) Never fun _ => True := by
  unfold Io.Handler.for_each
  refine (iter_mut_never hf fun c hc => (hn c hc).bind fun r _ _ => ?_).bind fun _ _ _ => trivial
  rcases r with ⟨d, err | u⟩ <;> trivial

lemma bury_all_never {dead : List (Token × Error)} (hf : Fit h) (hd : Occupied h dead) :
    Meets (dead.foldlM Io.Handler.bury h) Never fun _ => True := by
  refine (Meets.foldlM (I := fun g : Watched F H => Fit g ∧ Occupied g dead) ⟨hf, hd⟩
    fun p hp g hg => ?_).mono fun _ _ => trivial
  obtain ⟨c, hc⟩ := hg.2 p hp
  unfold Io.Handler.bury
  rw [at_slot_of_get hc, ok_bind]
  refine (error_never (hg.1.able hc) p.2).bind fun d hd _ => ⟨?_, fun q hq => ?_⟩
  · exact hg.1.next (put_keeps hc (error_evolves hd))
      (.of (.touch hc (.tell hd)) (List.mem_singleton.mpr rfl))
  · obtain ⟨e, he⟩ := hg.2 q hq
    have hne : (g.put p.1 d).connections.get q.1 ≠ none := fun hn => by
      rw [Slab.get_set_none.mp hn] at he
      cases he
    exact Option.ne_none_iff_exists'.mp hne

lemma finish_broadcast_never {dead : List (Token × Error)} (hf : Fit h) (hd : Occupied h dead) :
    Meets (h.finish_broadcast dead) Never fun _ => True := by
  have hmore := schedule_all_occupied hf.sound
  obtain ⟨hk, hslots⟩ := schedule_all_keeps h
  have hp := schedule_all_deeds h
  unfold Io.Handler.finish_broadcast
  rcases hall : h.schedule_all with ⟨g, more⟩
  rw [hall] at hmore hslots hk hp
  have hslots : g.connections = h.connections := hslots
  refine bury_all_never (hf.next hk hp) fun p hp => ?_
  rw [hslots]
  rcases List.mem_append.mp hp with hp | hp
  · exact hd p hp
  · exact hmore p hp

/-- What stops an attempt to connect, when there is a slot to connect in: a name that does not
resolve, or buffers that cannot be allocated for a socket that has connected. -/
def connect_blunder (h : Watched F H) : Option Panic :=
  if h.connections.vacant_entry = none then none
  else match answer h.poll with
    | .error _ => some .unwrap
    | .ok addrs =>
      if Reaches h.poll addrs ∧ ¬ Objects h.settings h.poll ∧ ¬ h.settings.Allocatable then
        some .capacity
      else none

omit [Handler H] [Host] in
lemma connect_stops (h : Watched F H) (url : String) :
    Stops (h.connect url) (connect_blunder h) := by
  rcases hv : h.connections.vacant_entry with _ | tok
  · simp only [connect_blunder, hv, if_true]
    unfold Io.Handler.connect
    rw [hv]
    exact rfl
  · rcases ha : answer h.poll with err | addrs <;>
      simp only [connect_blunder, hv, ha, reduceCtorEq, if_false]
    · exact stops_some (connect_unresolved hv ha)
    · rcases connect_resolved url hv ha with ⟨hreach, hobj, hno, hc⟩ | ⟨g, res, hc, hend⟩
      · rw [if_pos ⟨hreach, hobj, hno⟩]
        exact stops_some hc
      · have hfine :
            ¬ (Reaches h.poll addrs ∧ ¬ Objects h.settings h.poll ∧ ¬ h.settings.Allocatable) := by
          rintro ⟨hreach, hobj, hno⟩
          rcases hend with ⟨-, hyes, -⟩ | ⟨hfine, -⟩
          · exact hobj hyes
          · exact hno (hfine hreach).2
        rw [if_neg hfine]
        exact stops_none (never ⟨_, hc⟩)

/-- What stops a request, if it is not for the token `SYSTEM`. -/
def signal_blunder (h : Watched F H) : Signal → Option Panic
  | .Connect _ => connect_blunder h
  | _ => none

/-- The commands that stop the loop. -/
def command_blunder (h : Watched F H) (cmd : Command) : Option Panic :=
  if cmd.token = SYSTEM then none else signal_blunder h cmd.signal

/-- What a command for all connections comes to. -/
lemma handle_broadcast_stops (hf : Fit h) (signal : Signal) :
    Stops (h.handle_broadcast signal) (signal_blunder h signal) := by
  cases signal with
  | Message msg =>
    have hev : ∀ (c c' : Connection (Recorded H)) res, c.send_message msg = .ok (c', res) →
        Evolves c c' := fun _ _ _ h => send_message_evolves h
    refine stops_none
      ((for_each_never hf fun c hc => send_message_never hc msg).bind fun r hr _ => ?_)
    have hp := (for_each_deeds hf.buffered.opened fun c _ => send_message_meets c msg).holds r hr
    exact finish_broadcast_never (hf.next (for_each_keeps hev hr) hp)
      (for_each_occupied hev hf.sound hr)
  | Close code reason =>
    have hev : ∀ (c c' : Connection (Recorded H)) res, c.send_close code reason = .ok (c', res) →
        Evolves c c' := fun _ _ _ h => send_close_evolves h
    refine stops_none
      ((for_each_never hf fun c hc => send_close_never hc code reason).bind fun r hr _ => ?_)
    have hp := (for_each_deeds hf.buffered.opened
      fun c hc => send_close_meets hc code reason).holds r hr
    exact finish_broadcast_never (hf.next (for_each_keeps hev hr) hp)
      (for_each_occupied hev hf.sound hr)
  | Connect url =>
    refine Meets.bind (connect_stops h url) fun r hr hnone => ?_
    rcases r with ⟨g, err | u⟩
    · dsimp only
      rw [if_neg (by rw [(connect_keeps hr).settings, hf.quiet.1]; decide)]
      exact hnone
    · exact hnone
  | Shutdown =>
    refine stops_none ((shutdown_all_never hf).bind fun g hg _ => ?_)
    exact finish_broadcast_never
      (hf.next (shutdown_keeps hg) ((shutdown_deeds hf.buffered.opened).holds g hg))
      (List.forall_mem_nil _)
  | Timeout delay event =>
    refine stops_none ?_
    simp only [Io.Handler.handle_broadcast]
    rcases h.timer.set_timeout delay ⟨ALL, event⟩ with ⟨timer, err | timeout⟩
    · dsimp only
      rw [if_neg (by rw [hf.quiet.2.2.2.2.2.2.2.2]; decide)]
      trivial
    · have htake : ∀ c : Connection (Recorded H), Able c →
          Meets (Io.Handler.take_timeout event timeout c >>= fun c => .ok (c, ([] : List Unit)))
            Never fun _ => True :=
        fun c hc => (take_timeout_never hc event timeout).bind fun _ _ _ => trivial
      exact (iter_mut_never hf htake).bind fun _ _ _ => trivial
  | Cancel timeout => exact rfl

lemma handle_directed_stops (hf : Fit h) (t : Token) (id : UInt32) (signal : Signal) :
    Stops (h.handle_directed t id signal) (signal_blunder h signal) := by
  have ho := hf.buffered.opened
  cases signal with
  | Message msg =>
    refine stops_none ((with_id_never hf t id fun c hc => (send_message_never hc msg).of_ok
      fun r hr => hc.touch (.message hr)).bind fun g hg _ => ?_)
    have hp := (with_id_deeds (l := [.message]) ho t id (List.mem_singleton.mpr rfl)
      fun c hc => send_message_told hc msg).holds g hg
    exact schedule_at_never
      (hf.next (with_id_keeps (fun _ _ _ h => send_message_evolves h) hg) hp) t
  | Close code reason =>
    refine stops_none ((with_id_never hf t id fun c hc => (send_close_never hc code reason).of_ok
      fun r hr => hc.touch (.close hr)).bind fun g hg _ => ?_)
    have hp := (with_id_deeds (l := [.close]) ho t id (List.mem_singleton.mpr rfl)
      fun c hc => send_close_told hc code reason).holds g hg
    exact schedule_at_never
      (hf.next (with_id_keeps (fun _ _ _ h => send_close_evolves h) hg) hp) t
  | Connect url =>
    refine Meets.bind (connect_stops h url) fun r hr hnone => ?_
    have hg : Fit r.1 := hf.next (connect_keeps hr) ((connect_deeds h url).holds r hr)
    rcases r with ⟨g, err | u⟩
    · dsimp only
      split
      · exact (error_at_never hg t err).of_stops (fun _ hp => hp.elim) |>.mono fun _ _ => hnone
      · rw [if_neg (by rw [hg.quiet.1]; decide)]
        exact hnone
    · exact hnone
  | Shutdown =>
    refine stops_none ((shutdown_all_never hf).bind fun g hg _ => ?_)
    exact schedule_at_never
      (hf.next (shutdown_keeps hg) ((shutdown_deeds ho).holds g hg)) t
  | Timeout delay event =>
    refine stops_none ?_
    simp only [Io.Handler.handle_directed]
    rcases h.timer.set_timeout delay ⟨t, event⟩ with ⟨timer, err | timeout⟩
    · exact error_at_never (hf.waiting h.queue timer) t _
    · dsimp only
      split
      · rename_i c hc
        exact (take_timeout_never (hf.able hc) event timeout).bind fun _ _ _ => trivial
      · trivial
  | Cancel timeout => exact rfl

/-- **A command** stops the loop just when it asks for a connection that stops it. -/
theorem handle_queue_stops (hf : Fit h) (cmd : Command) :
    Stops (h.handle_queue cmd) (command_blunder h cmd) := by
  unfold Io.Handler.handle_queue command_blunder
  split
  · exact rfl
  · split
    · exact handle_broadcast_stops hf _
    · exact handle_directed_stops hf _ _ _

/-- **An event of the queue** stops the loop when the command at its head does. -/
theorem handle_commands_stops (hf : Fit h) :
    Stops h.handle_commands (h.queue.commands.head?.bind (command_blunder h)) := by
  have htake : Stops h.take_command (h.queue.commands.head?.bind (command_blunder h)) := by
    rcases hcmds : h.queue.commands with _ | ⟨cmd, rest⟩
    · rw [Io.Handler.take_command_nil hcmds]
      exact rfl
    · rw [Io.Handler.take_command_cons hcmds]
      exact handle_queue_stops (hf.waiting ⟨h.queue.bound, rest⟩ h.timer) cmd
  exact Meets.bind htake fun _ _ hn => hn

/-! ### Events -/

lemma expire_never (hf : Fit h) (number : ℕ) :
    Meets (h.expire number) Never Fit := by
  have hexp : Meets (h.expire number) Never fun _ => True := by
    unfold Io.Handler.expire
    split
    · trivial
    · rename_i timeout _
      have hf' := hf.waiting h.queue (h.timer.expire number)
      unfold Io.Handler.handle_timeout
      split
      · trivial
      · rename_i c hc
        refine (trigger_never (hf'.able hc) timeout.event).bind fun d hd _ => ?_
        have hp : Path [.timeout] _ _ := .of (.touch hc (.timeout hd)) (List.mem_singleton.mpr rfl)
        exact check_active_never (hf'.next (put_keeps hc (trigger_evolves hd)) hp)
          (get_put hc d) _
  exact hexp.of_ok fun g hg =>
    hf.next (expire_keeps hg) ((expire_deeds hf.buffered.opened number).holds g hg)

lemma handle_socket_never (hf : Fit h) {t : Token} {c : Connection (Recorded H)}
    (hc : h.connections.get t = some c) (events : Ready) :
    Meets (h.handle_socket t events) Never fun _ => True := by
  have ho := (hf.able hc).buffered.opened
  rw [handle_socket_eq hc ho]
  refine (reading_never (hf.able hc) events).bind fun d hd hable => ?_
  refine (writing_never hable events).bind fun e he _ => ?_
  have hp : Path [.read, .write] h (h.put t e) := by
    have hre : Path [.read, .write] h (h.put t d) := by
      rcases (reading_meets ho events).holds d hd with rfl | ht
      · rw [put_self hc]
        exact .refl h
      · exact .of (.touch hc ht) (by simp)
    refine hre.trans ?_
    rcases (writing_meets hable.buffered.opened events).holds e he with rfl | ht
    · exact .refl _
    · rw [← put_put h t d e]
      exact .of (.touch (get_put hc d) ht) (by simp)
  have hev := exchange_evolves ho (bind_eq_ok.mpr ⟨d, hd, he⟩)
  exact check_active_never (hf.next (put_keeps hc hev) hp) (get_put hc e) _

/-- A failure to set a connection up is reported to it. -/
lemma setup_failed_never {c : Connection (Recorded H)} {req res : Cursor UInt8}
    (hs : c.state = .Connecting req res) (err : Error) :
    Meets (Io.Handler.setup_failed c false err) Never
      fun d => ∃ res', d.state = .Connecting req res' := by
  obtain ⟨res', events, he⟩ := error_connecting hs err
  unfold Io.Handler.setup_failed
  rw [he, ok_bind]
  exact ⟨res', rfl⟩

/-- What stops an accepted peer, when there is a slot for it: its buffers cannot be allocated. -/
def accept_blunder (h : Watched F H) : Option Panic :=
  if h.connections.vacant_entry = none ∨ Objects h.settings h.poll ∨ h.settings.Allocatable then
    none
  else some .capacity

omit [Host] in
/-- How setting the option ends. -/
lemma nodelay_cases (settings : Settings) (os : Os) :
    (∃ os' err, (if settings.tcp_nodelay then os.set_nodelay else (os, .ok ())) =
        (os', .error err) ∧ Objects settings os) ∨
      ∃ os', (if settings.tcp_nodelay then os.set_nodelay else (os, .ok ())) = (os', .ok ()) ∧
        ¬ Objects settings os := by
  unfold Objects Os.set_nodelay
  cases settings.tcp_nodelay
  · exact Or.inr ⟨os, rfl, fun h => nomatch h.1⟩
  · rcases os.nodelays with _ | ⟨err | u, rest⟩
    · exact Or.inr ⟨_, rfl, fun h => nomatch h.2⟩
    · exact Or.inl ⟨_, _, rfl, rfl, rfl⟩
    · exact Or.inr ⟨_, rfl, fun h => nomatch h.2⟩

/-- A peer is accepted or turned away. -/
lemma accept_stops (hf : Fit h) (sock : TcpStream) :
    Stops (h.accept sock) (accept_blunder h) := by
  have hquiet := hf.quiet.1
  unfold Io.Handler.accept accept_blunder
  rcases nodelay_cases h.settings h.poll with ⟨os, err, hset, hobj⟩ | ⟨os, hset, hobj⟩ <;>
    rw [hset]
  · rw [if_pos (Or.inr (Or.inl hobj))]
    exact rfl
  dsimp only
  rcases hv : h.connections.vacant_entry with _ | tok
  · rw [if_pos (Or.inl rfl)]
    exact rfl
  rcases Factory.server_connected h.factory ⟨tok, h.next_connection_id⟩ with ⟨factory, handler⟩
  by_cases halloc : h.settings.Allocatable
  swap
  · -- the buffers cannot be allocated
    rw [if_neg (by simp [hobj, halloc])]
    simp only [Connection.new, if_neg halloc]
    exact rfl
  rw [if_pos (Or.inr (Or.inr halloc))]
  refine stops_none ?_
  dsimp only
  rw [new_of_allocatable halloc, ok_bind, hquiet]
  dsimp only [as_server]
  have hreg : ∀ (os : Os) (c : Connection (Recorded H)) req res, c.state = .Connecting req res →
      Meets (Io.Handler.register_accepted os c false) Never
        fun r => ∃ res', r.2.state = .Connecting req res' := by
    intro os c req res hs
    unfold Io.Handler.register_accepted
    split
    · exact ⟨res, hs⟩
    · exact (setup_failed_never hs _).bind fun d _ hd => hd
  refine (hreg _ _ _ _ rfl).bind fun r _ hr => ?_
  obtain ⟨res', hr⟩ := hr
  have hopen : Meets (Io.Handler.open_accepted r.2 false) Never fun _ => True := by
    simp only [Io.Handler.open_accepted, Connection.open, hr]
    trivial
  exact hopen.bind fun _ _ _ => trivial

/-- What stops an event of the listener: there is no listener, or an accepted peer does. -/
def listener_blunder (h : Watched F H) (events : Ready) : Option Panic :=
  if events.is_readable then
    match h.listener, h.poll.accept with
    | none, _ => some .expect
    | some _, (os, .ok _) => accept_blunder { h with poll := os }
    | some _, (_, .error _) => none
  else none

lemma handle_listener_stops (hf : Fit h) (events : Ready) :
    Stops (h.handle_listener events) (listener_blunder h events) := by
  unfold Io.Handler.handle_listener listener_blunder
  split
  swap
  · exact rfl
  rcases hl : h.listener with _ | l
  · exact rfl
  rcases h.poll.accept with ⟨os, err | sock⟩
  · exact rfl
  have hpoll : Fit { h with poll := os } :=
    ⟨hf.sound.of_keeps (keeps_with h os h.state), hf.buffered, hf.quiet⟩
  rw [hl] at hpoll
  refine Meets.bind (accept_stops hpoll sock) fun r hr hnone => ?_
  rcases r with ⟨g, err | u⟩
  · dsimp only
    rw [if_neg (by rw [(accept_keeps hr).settings, hpoll.quiet.1]; decide)]
    exact hnone
  · exact hnone

/-- An event of a socket whose slot is empty. -/
lemma handle_socket_panics {t : Token} (hg : h.connections.get t = none) (events : Ready) :
    h.handle_socket t events = .error .index := by
  unfold Io.Handler.handle_socket Io.Handler.attempt Io.Handler.at_slot
  rw [hg]
  rfl

/-- **What stops the loop** in a step, if anything does. -/
def blunder (h : Watched F H) : Io.Step → Option Panic
  | .input (.event evt) =>
    if evt.token = SYSTEM then some .debug_assert
    else if evt.token = ALL then listener_blunder (h.supply evt.token evt.answers) evt.kind
    else if evt.token = TIMER then none
    else if evt.token = QUEUE then
      h.queue.commands.head?.bind (command_blunder (h.supply evt.token evt.answers))
    else if h.connections.get evt.token = none then some .index
    else none
  | _ => none

/-- A step stops at a blunder, and at nothing else. -/
theorem step_stops (hf : Fit h) (s : Io.Step) : Stops (h.step s) (blunder h s) := by
  rcases s with (cmd | ⟨token, kind, a⟩) | _ | _
  · exact rfl
  · have hf' : Fit (h.supply token a) := hf.next (supply_keeps h token a) (supply_deeds h token a)
    show Stops ((h.supply token a).handle_event token kind) _
    unfold blunder Io.Handler.handle_event
    dsimp only
    split
    · exact rfl
    split
    · exact handle_listener_stops hf' kind
    split
    · exact stops_none ((Meets.foldlM hf' fun number _ g hg =>
        expire_never hg number).mono fun _ _ => trivial)
    split
    · exact handle_commands_stops hf'
    split
    · rename_i hget
      refine stops_some (handle_socket_panics ?_ kind)
      unfold Io.Handler.supply
      rw [hget]
      exact hget
    · rename_i hget
      obtain ⟨c, hc⟩ := Option.ne_none_iff_exists'.mp hget
      exact stops_none (handle_socket_never hf' (Fallback.supply_slot hc a) kind)
  · exact rfl
  · exact rfl

lemma step_fit {s : Io.Step} (hf : Fit h) (hs : h.step s = .ok h') : Fit h' := by
  obtain ⟨queue, timer, hk⟩ := step_keeps hs
  exact hf.next hk (step_path hf.buffered.opened hs)

lemma execute_fit {inner : F} {settings : Settings} {addr : Option SocketAddr}
    {steps : List Io.Step} (hq : settings.Quiet)
    (hr : Io.Handler.execute (Ledger.blank inner) settings addr steps = .ok h) : Fit h := by
  obtain ⟨h0, h0s, hrun⟩ := bind_eq_ok.mp hr
  have hf0 := Io.Handler.started_fresh h0s
  refine run_inv_true (fun g s g' => step_fit) ⟨started_sound h0s, fun t c hc => ?_, ?_⟩ hrun
  · rw [hf0.connections, Slab.get_with_capacity] at hc
    cases hc
  · rw [hf0.settings]
    exact hq

/-- **What stops the loop.** With no setting that asks to panic, a step of a reached state stops at
its blunder and at nothing else, and a run goes to its end when none of its steps is a blunder. -/
theorem panics_exactly {inner : F} {settings : Settings} {addr : Option SocketAddr}
    {steps : List Io.Step} (hq : settings.Quiet)
    (hr : Io.Handler.execute (Ledger.blank inner) settings addr steps = .ok h) :
    (∀ s p, h.step s = .error p ↔ blunder h s = some p) ∧
      ∀ more, (∃ h', run Io.Handler.step h more = .ok h') ↔
        Along Io.Handler.step (fun g s => blunder g s = none) h more := by
  have hf := execute_fit hq hr
  refine ⟨fun s p => (step_stops hf s).error_iff p, fun more => ?_⟩
  exact run_returns_iff (fun g s (hg : Fit g) => (step_stops hg s).ok_iff)
    (fun g s g' hg hs => step_fit hg hs) hf

end Loops

/-- A peer connects and leaves. -/
def visited : List Io.Step := [accepts_peer, peer_closes 0]

theorem panics_exactly_visited :
    calm.Quiet ∧ ∃ h : Watched (Sender → M) M, serve calm visited = .ok h ∧
      serve_on h (peer_closes 0) = .error .index ∧ ∃ h', run serve_on h visited = .ok h' := by
  have hq : calm.Quiet := by simp [Settings.Quiet, calm]
  have hrun : Returns (serve calm visited) fun h => blunder h (peer_closes 0) = some .index ∧
      Along serve_on (fun g s => blunder g s = none) h visited := by
    decide +kernel
  obtain ⟨h, hr, hb, hg⟩ := hrun
  have hall := @panics_exactly _ _ _ _ plain _ _ _ _ _ hq hr
  exact ⟨hq, h, hr, (hall.1 _ _).mpr hb, (hall.2 visited).mpr hg⟩

end XnetSocket.Panics
