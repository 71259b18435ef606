import XnetSocket.Census
import XnetSocket.Queueing
import XnetSocket.Shutdown

/-!
Clients that stop with a connection request unserved.

A client stops when it has no connection left, and it is asked after every poll. Each event of
the queue takes one command out, so the commands behind it wait for the next poll, which a client
that has stopped never gets to.
-/

namespace XnetSocket.Unserved

open Buffer Runs Connection Custody Deeds Occupancy Census Queueing

variable {F H : Type}

section Clients

variable [Factory F H] [Handler H] [Host] {h g : Watched F H}

/-- What the handler of a client comes to: after its loop has started, in every step, and when it
runs again, with whatever poll. -/
inductive Reached (inner : F) (settings : Settings) : Watched F H → Prop
  | started {h : Watched F H} (hs : Io.Handler.started (Ledger.blank inner) settings none = .ok h) :
      Reached inner settings h
  | step {h h' : Watched F H} {s : Io.Step} (hr : Reached inner settings h)
      (hs : h.step s = .ok h') : Reached inner settings h'
  | again {h : Watched F H} (hr : Reached inner settings h) (poll : Os) :
      Reached inner settings { h with poll := poll, state := .Active }

/-- The loop over the polls gets to `g` without returning, and takes the poll `p` there. -/
def Taken (h : Watched F H) (polls : List Io.Handler.Poll) (g : Watched F H)
    (p : Io.Handler.Poll) : Prop :=
  ∃ front back, polls = front ++ p :: back ∧ h.event_loop front = .ok (g, none)

omit [Handler H] [Host] in
/-- Counting the connections does not stop the loop with a request waiting. -/
def Attentive (h : Watched F H) : Prop :=
  h.state = .Active → h.check_count.state = .Inactive →
    ∀ cmd ∈ h.queue.commands, connects cmd.signal = false

/-- Neither when the batch of a poll has been handled, nor when a poll was interrupted. -/
def Attends (h : Watched F H) : Io.Handler.Poll → Prop
  | .ok batch => Holds (run Io.Handler.input h batch) Attentive
  | .error err => err.kind = .Interrupted → Attentive h.interrupted

/-- The commands that wait or come with a batch of inputs and are not taken. -/
def left (h : Watched F H) (batch : List Io.Input) : List Command :=
  (h.queue.commands ++ account Io.Handler.step queued h (batch.map .input)).drop
    (account Io.Handler.step handled h (batch.map .input)).length

/-- In the batch a shutdown is taken; or fewer connections end than there are and come with the
requests that are served; or every request is taken. -/
def Occupied (h : Watched F H) (batch : List Io.Input) : Prop :=
  Shutdown.taken h batch ≠ 0 ∨
    (account Io.Handler.input ended h batch).length <
      h.connections.len + (account Io.Handler.input served h batch).length ∨
    ∀ cmd ∈ left h batch, connects cmd.signal = false

/-- What a poll has to bring: an occupied batch, if it does not panic; an interrupt brings none, and
may stop the loop itself. -/
def Tended (h : Watched F H) : Io.Handler.Poll → Prop
  | .ok batch => Holds (run Io.Handler.input h batch) fun _ => Occupied h batch
  | .error err => err.kind = .Interrupted → h.settings.shutdown_on_interrupt = true ∨ Occupied h []

/-- A client has no listener, and its connections have been opened. -/
lemma reached_client {inner : F} {settings : Settings} (hr : Reached inner settings h) :
    h.listener = none ∧ AllOpened h := by
  induction hr with
  | started hs => exact ⟨(Io.Handler.started_fresh hs).listener, started_opened hs⟩
  | step _ hs ih =>
    obtain ⟨queue, timer, hk⟩ := step_keeps hs
    exact ⟨hk.listener.trans ih.1, (step_path ih.2 hs).opened ih.2⟩
  | again _ _ ih => exact ih

lemma run_reached {inner : F} {settings : Settings} {steps : List Io.Step}
    (hr : Reached inner settings h) (hs : run Io.Handler.step h steps = .ok g) :
    Reached inner settings g :=
  run_inv_true (fun _ _ _ hr hs => hr.step hs) hr hs

/-- A loop that has not returned is active. -/
lemma event_loop_active {polls : List Io.Handler.Poll}
    (hl : h.event_loop polls = .ok (g, none)) : g.state = .Active := by
  induction polls generalizing h with
  | nil =>
    unfold Io.Handler.event_loop at hl
    split at hl
    · rename_i hact
      cases hl
      cases hs : g.state
      · rfl
      · rw [hs] at hact
        cases hact
    · cases hl
  | cons p polls ih =>
    unfold Io.Handler.event_loop at hl
    split at hl
    · rcases p with err | batch
      · dsimp only at hl
        split at hl
        · exact ih hl
        · cases hl
      · obtain ⟨d, -, hl⟩ := bind_eq_ok.mp hl
        exact ih hl
    · cases hl

omit [Handler H] [Host] in
/-- A client that is counted stops when it is active and has no connection. -/
lemma attentive_iff_len (hl : h.listener = none) : Attentive h ↔ h.state = .Inactive ∨
    h.connections.len ≠ 0 ∨ ∀ cmd ∈ h.queue.commands, connects cmd.signal = false := by
  unfold Attentive Io.Handler.check_count Io.Handler.is_client
  rw [hl]
  rcases hs : h.state with _ | _
  · by_cases h0 : h.connections.len = 0
    · simp [h0, Io.State.is_active]
    · simp [h0, hs]
  · refine iff_of_true (fun h => ?_) (Or.inl rfl)
    cases h

/-- What is left in the queue. -/
lemma queue_left {batch : List Io.Input} (hb : run Io.Handler.input h batch = .ok g) :
    g.queue.commands = left h batch := by
  have hsteps : run Io.Handler.step h (batch.map .input) = .ok g := (run_map _ _ _).trans hb
  have hline := run_line hsteps
  rw [left, ← hline, List.drop_left]

/-- **A batch of inputs**, and the count after it. -/
lemma batch_attentive {batch : List Io.Input} (hl : h.listener = none) (ho : AllOpened h)
    (ha : h.state = .Active) (hb : run Io.Handler.input h batch = .ok g) :
    Attentive g ↔ Occupied h batch := by
  have hlist : g.listener = none := run_inv_true (I := fun g => g.listener = none ∧ AllOpened g)
    (fun _ _ _ hg hi => input_client hg.1 hg.2 hi) ⟨hl, ho⟩ hb |>.1
  have hstate : g.state = .Inactive ↔ Shutdown.taken h batch ≠ 0 := by
    rw [(Shutdown.batch_announces ho hb).2.2, ha]
    split <;> simp_all
  have hcount := batch_len hl ho hb
  have hlen : g.connections.len ≠ 0 ↔ (account Io.Handler.input ended h batch).length <
      h.connections.len + (account Io.Handler.input served h batch).length := by
    omega
  rw [attentive_iff_len hlist, hstate, hlen, queue_left hb]
  exact Iff.rfl

/-- **One round of the loop.** -/
theorem attends_iff {p : Io.Handler.Poll} (hl : h.listener = none) (ho : AllOpened h)
    (ha : h.state = .Active) : Attends h p ↔ Tended h p := by
  rcases p with err | batch
  · refine forall_congr' fun _ => ?_
    unfold Io.Handler.interrupted
    rcases hset : h.settings.shutdown_on_interrupt
    · simp only [Bool.false_eq_true, if_false, false_or]
      exact batch_attentive hl ho ha rfl
    · exact iff_of_true nofun (Or.inl rfl)
  · exact forall₂_congr fun g hb => batch_attentive hl ho ha hb

/-- **When a client stops too early.** Over any polls, the count after each of them leaves no
request waiting in a loop that it stops exactly when, in every batch that does not panic, a shutdown
is taken, or fewer connections end than there are before and come with the requests that are served,
or every request that waits or comes is taken. -/
theorem attentive_iff {inner : F} {settings : Settings} (hr : Reached inner settings h)
    (polls : List Io.Handler.Poll) :
    (∀ g p, Taken h polls g p → Attends g p) ↔ ∀ g p, Taken h polls g p → Tended g p := by
  refine forall₃_congr fun g p ht => ?_
  obtain ⟨front, back, -, hloop⟩ := ht
  obtain ⟨steps, hsteps⟩ := Io.Handler.event_loop_run hloop
  obtain ⟨hl, ho⟩ := reached_client (run_reached hr hsteps)
  exact attends_iff hl ho (event_loop_active hloop)

/-- **A poll that brings the event of the queue alone**: the first command is a shutdown, there is a
connection, the first command is a request that is served, or no request is behind it. -/
theorem occupied_queue (h : Watched F H) (kind : Ready) (a : Io.Answers) :
    Occupied h [.event ⟨QUEUE, kind, a⟩] ↔
      h.queue.commands.head?.any Shutdown.asks_shutdown = true ∨ h.connections.len ≠ 0 ∨
        h.queue.commands.head?.any (is_served (h.supply QUEUE a)) = true ∨
        ∀ cmd ∈ h.queue.commands.tail, connects cmd.signal = false := by
  have htaken : Shutdown.taken h [.event ⟨QUEUE, kind, a⟩] ≠ 0 ↔
      h.queue.commands.head?.any Shutdown.asks_shutdown = true := by
    rcases hi : h.input (.event ⟨QUEUE, kind, a⟩) with p | g <;>
      simp [Shutdown.taken, Shutdown.takes_shutdown, hi]
  have hended : ended h (.event ⟨QUEUE, kind, a⟩) = [] := by simp [ended]
  have hqueued : queued h (.input (.event ⟨QUEUE, kind, a⟩)) = [] := rfl
  have hhandled : handled h (.input (.event ⟨QUEUE, kind, a⟩)) = h.queue.commands.take 1 := by
    simp [handled]
  have hserved : served h (.event ⟨QUEUE, kind, a⟩) =
      (h.queue.commands.take 1).filter (is_served (h.supply QUEUE a)) := by
    simp [served]
  unfold Occupied left
  rw [htaken, List.map_singleton, account_singleton, account_singleton, account_singleton,
    account_singleton, hended, hqueued, hhandled, hserved]
  rcases h.queue.commands with _ | ⟨cmd, rest⟩
  · simp
  · cases hs : is_served (h.supply QUEUE a) cmd <;> simp [hs, Nat.pos_iff_ne_zero]

end Clients

/-- A client that has queued some commands before its loop runs. -/
def client (cmds : List Command) : Except Panic (Watched (Sender → M) M) :=
  @Io.Handler.execute _ _ _ _ plain (Ledger.blank fun _ => {}) {} none (cmds.map .post)

lemma client_reached {cmds : List Command} {h : Watched (Sender → M) M} (hc : client cmds = .ok h) :
    @Reached _ _ _ _ plain (fun _ => {}) {} h := by
  obtain ⟨g, hg, hr⟩ := bind_eq_ok.mp hc
  exact @run_reached _ _ _ _ plain g h _ _ _ (@Reached.started _ _ _ _ plain _ _ _ hg) hr

/-- A poll that brings the event of the queue. -/
def queue_poll (a : Io.Answers) : Io.Handler.Poll := .ok [.event ⟨QUEUE, readable, a⟩]

/-- A broadcast, and a connection request behind it. -/
def broadcast_first : List Command :=
  [Sender.send ⟨ALL, 0⟩ (.text "hello"), Sender.connect ⟨ALL, 0⟩ "localhost"]

/-- With a broadcast in front, the request is never served. -/
theorem broadcast_first_stops :
    ∃ h, client broadcast_first = .ok h ∧ h.listener = none ∧ h.queue.commands = broadcast_first ∧
      @Taken _ _ _ _ plain h [queue_poll {}] h (queue_poll {}) ∧
      ¬ @Attends _ _ _ _ plain h (queue_poll {}) := by
  have hrun : Returns (client broadcast_first) fun h =>
      h.listener.isNone ∧ h.state = .Active ∧ h.queue.commands = broadcast_first ∧
      Returns (run (@Io.Handler.input _ _ _ _ plain) h [.event ⟨QUEUE, readable, {}⟩]) fun g =>
        g.state = .Active ∧ g.check_count.state = .Inactive ∧
          g.queue.commands = [Sender.connect ⟨ALL, 0⟩ "localhost"] := by decide +kernel
  obtain ⟨h, hh, hl, ha, hq, g, hg, hactive, hstops, hleft⟩ := hrun
  refine ⟨h, hh, Option.isNone_iff_eq_none.mp hl, hq, ⟨[], [], rfl, ?_⟩, fun hatt => ?_⟩
  · simp [Io.Handler.event_loop, ha, Io.State.is_active]
  · have := hatt g hg hactive hstops (Sender.connect ⟨ALL, 0⟩ "localhost") (by rw [hleft]; simp)
    cases this

/-- What the system answers to a request for a name that has an address that answers. -/
def reachable : Io.Answers :=
  { resolves := [.ok [⟨"127.0.0.1:3012"⟩]], connects := [.ok .fresh] }

/-- A request alone is served when its name has an address that answers. -/
theorem attentive_iff_request :
    ∃ h, client [Sender.connect ⟨ALL, 0⟩ "localhost"] = .ok h ∧
      ∀ g p, @Taken _ _ _ _ plain h [queue_poll reachable] g p → @Attends _ _ _ _ plain g p := by
  have hrun : Returns (client [Sender.connect ⟨ALL, 0⟩ "localhost"]) fun h =>
      h.queue.commands.head?.any (is_served (h.supply QUEUE reachable)) = true := by
    decide +kernel
  obtain ⟨h, hh, hserved⟩ := hrun
  refine ⟨h, hh, (@attentive_iff _ _ _ _ plain h _ _ (client_reached hh) _).mpr fun g p ht => ?_⟩
  obtain ⟨front, back, hpolls, hloop⟩ := ht
  rcases front with _ | ⟨q, front⟩
  · cases hpolls
    obtain rfl : h = g := (Prod.mk.inj (Except.ok.inj hloop)).1
    exact fun _ _ => (@occupied_queue _ _ _ _ plain h _ _).mpr (Or.inr (Or.inr (Or.inl hserved)))
  · cases front <;> cases hpolls

end XnetSocket.Unserved
