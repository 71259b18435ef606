import XnetSocket.Io

/-!
The event loop, and runs of its steps.

What the operating system, the peers and the clock do comes from outside: every event brings
the answers to the calls made while it is handled, and commands are queued between events by
whoever holds a sender, the handlers of the connections among them. A run of steps is any
sequence of these; the loop proper takes them in batches, and stops when it is inactive.
-/

namespace XnetSocket.Io

open Buffer Runs

/-- What the outside answers while one event is handled. -/
structure Answers where
  polls : List (Except IoError Unit) := []
  resolves : List (Except IoError (List SocketAddr)) := []
  connects : List (Except IoError TcpStream) := []
  nodelays : List (Except IoError Unit) := []
  accepts : List (Except IoError TcpStream) := []
  reads : List (Except IoError Bytes) := []
  writes : List (Except IoError ℕ) := []
  due : List ℕ := []

structure Event where
  token : Token
  kind : Ready
  answers : Answers := {}

inductive Input
  | send (cmd : Command)
  | event (evt : Event)

inductive Step
  | input (i : Input)
  | interrupted
  | check_count

/-- An event of the poll. -/
def Step.on (token : Token) (kind : Ready) (answers : Answers) : Step :=
  .input (.event ⟨token, kind, answers⟩)

/-- A command that is queued. -/
def Step.post (cmd : Command) : Step := .input (.send cmd)

namespace Handler

variable {F H : Type}

/-- The connection an event is for reads and writes its socket; nothing else does. -/
def supply (h : Handler F H) (token : Token) (a : Answers) : Handler F H :=
  { h with
    poll := { h.poll with
      polls := a.polls
      resolves := a.resolves
      connects := a.connects
      nodelays := a.nodelays
      accepts := a.accepts }
    timer := { h.timer with due := a.due }
    connections := match h.connections.get token with
      | some c => h.connections.set token
          { c with socket := { c.socket with reads := a.reads, writes := a.writes } }
      | none => h.connections }

variable [Factory F H] [XnetSocket.Handler H] [Host]

/-- A sender that finds the channel full waits, and nothing happens. -/
def send (h : Handler F H) (cmd : Command) : Handler F H :=
  match h.queue.send cmd with
  | some queue => { h with queue := queue }
  | none => h

def input (h : Handler F H) : Input → Except Panic (Handler F H)
  | .send cmd => .ok (h.send cmd)
  | .event evt => (h.supply evt.token evt.answers).handle_event evt.token evt.kind

/-- A poll that was interrupted. -/
def interrupted (h : Handler F H) : Handler F H :=
  if h.settings.shutdown_on_interrupt then { h with state := .Inactive } else h

def step (h : Handler F H) : Step → Except Panic (Handler F H)
  | .input i => h.input i
  | .interrupted => .ok h.interrupted
  | .check_count => .ok h.check_count

/-! ### The loop -/

/-- What `poll` returns with: a batch of events, with the commands queued on the way, or an
error. -/
abbrev Poll := Except IoError (List Input)

/-- The loop over the polls, with its result once it has returned; it waits when they run
out. -/
def event_loop : Handler F H → List Poll → Except Panic (Handler F H × Option (Result Unit))
  | h, [] => .ok (h, if h.state.is_active then none else some (.ok ()))
  | h, p :: polls =>
    if h.state.is_active then
      match p with
      | .ok batch => do
        let h ← Runs.run input h batch
        event_loop h.check_count polls
      | .error err =>
        if err.kind = .Interrupted then event_loop h.interrupted.check_count polls
        else .ok (h, some (.error (.from_io err)))
    else .ok (h, some (.ok ()))

/-- Register the queue and the timer, and become active. -/
def start (h : Handler F H) : Handler F H × Result Unit :=
  match h.poll.register QUEUE readable with
  | (os, .error err) => ({ h with poll := os }, .error (.from_io err))
  | (os, .ok ()) =>
    match os.register TIMER readable with
    | (os, .error err) => ({ h with poll := os }, .error (.from_io err))
    | (os, .ok ()) => ({ h with poll := os, state := .Active }, .ok ())

/-- Start, loop, and clean up; `deregisters` are the answers to the last two calls. -/
def run (h : Handler F H) (polls : List Poll)
    (deregisters : Except IoError Unit × Except IoError Unit) :
    Except Panic (Handler F H × Option (Result Unit)) :=
  match h.start with
  | (h, .error err) => .ok (h, some (.error err))
  | (h, .ok ()) => do
    let (h, res) ← h.event_loop polls
    match res with
    | none => .ok (h, none)
    | some res =>
      let h := { h with state := .Inactive }
      match res, deregisters.1, deregisters.2 with
      | .error err, _, _ => .ok (h, some (.error err))
      | .ok (), .error err, _ => .ok (h, some (.error (.from_io err)))
      | .ok (), .ok (), .error err => .ok (h, some (.error (.from_io err)))
      | .ok (), .ok (), .ok () => .ok (h, some (.ok ()))

/-- Listen, if there is an address to listen on. -/
def bind (h : Handler F H) (addr : Option SocketAddr) : Except Panic (Handler F H × Result Unit) :=
  match addr with
  | some addr => h.listen addr
  | none => .ok (h, .ok ())

/-- A handler when its loop starts: new, listening if there is an address to listen on, and
with the queue and the timer registered. -/
def started (factory : F) (settings : Settings) (addr : Option SocketAddr) :
    Except Panic (Handler F H) := do
  let h ← new factory settings
  let (h, _) ← h.bind addr
  .ok h.start.1

/-- The handler after a run of steps from its start. -/
def execute (factory : F) (settings : Settings) (addr : Option SocketAddr) (steps : List Step) :
    Except Panic (Handler F H) := do
  let h ← started factory settings addr
  Runs.run step h steps

/-- The channel and the slab can be made as large as the settings ask. -/
def Makeable (settings : Settings) : Prop :=
  settings.max_connections * settings.queue_size ≤ usize_MAX ∧
    settings.max_connections * settings.queue_size ≤ Host.channel_max ∧
    settings.max_connections ≤ Host.slab_max

omit [Factory F H] [XnetSocket.Handler H] in
lemma new_of_makeable {settings : Settings} (hm : Makeable settings) (factory : F) :
    (new factory settings : Except Panic (Handler F H)) = .ok (blank factory settings) := by
  unfold new
  rw [if_neg (Nat.not_lt.mpr hm.1), if_neg (Nat.not_lt.mpr hm.2.1), if_neg (Nat.not_lt.mpr hm.2.2)]

omit [Factory F H] [XnetSocket.Handler H] in
lemma new_eq_ok {factory : F} {settings : Settings} {h : Handler F H}
    (hn : new factory settings = .ok h) : Makeable settings ∧ h = blank factory settings := by
  unfold new at hn
  split at hn
  · cases hn
  split at hn
  · cases hn
  split at hn
  · cases hn
  · cases hn
    unfold Makeable
    exact ⟨by omega, rfl⟩

/-- What a handler is when its loop starts. -/
structure Fresh (factory : F) (settings : Settings) (addr : Option SocketAddr)
    (h : Handler F H) : Prop where
  connections : h.connections = .with_capacity settings.max_connections
  bounded : settings.max_connections ≤ isize_MAX
  queue : h.queue = .new (settings.max_connections * settings.queue_size)
  factory : h.factory = factory
  settings : h.settings = settings
  listener : h.listener = addr.map TcpListener.mk
  state : h.state = .Active
  timer : h.timer = .new
  next_connection_id : h.next_connection_id = 0

omit [Factory F H] [XnetSocket.Handler H] in
lemma started_fresh {factory : F} {settings : Settings} {addr : Option SocketAddr}
    {h : Handler F H} (hs : started factory settings addr = .ok h) :
    Fresh factory settings addr h := by
  obtain ⟨g, hg, hs⟩ := bind_eq_ok.mp hs
  obtain ⟨⟨d, res⟩, hd, hs⟩ := bind_eq_ok.mp hs
  obtain ⟨hmade, rfl⟩ := new_eq_ok hg
  cases addr <;> cases hd <;> cases hs <;>
    exact ⟨rfl, hmade.2.2.trans Host.slab_max_le, rfl, rfl, rfl, rfl, rfl, rfl, rfl⟩

/-! ### Which event it is -/

lemma handle_event_all (h : Handler F H) (events : Ready) :
    h.handle_event ALL events = h.handle_listener events := by
  unfold handle_event
  rw [if_neg (by decide), if_pos rfl]

lemma handle_event_queue (h : Handler F H) (events : Ready) :
    h.handle_event QUEUE events = h.handle_commands := by
  unfold handle_event
  rw [if_neg (by decide), if_neg (by decide), if_neg (by decide), if_pos rfl]

lemma handle_event_timer (h : Handler F H) (events : Ready) :
    h.handle_event TIMER events = h.timer.due.foldlM expire h := by
  unfold handle_event
  rw [if_neg (by decide), if_neg (by decide), if_pos rfl]

/-- The queue is empty, and there is nothing to do. -/
lemma take_command_nil {h : Handler F H} (hq : h.queue.commands = []) :
    h.take_command = .ok h := by
  unfold take_command SyncChannel.try_recv
  rw [hq]

/-- The command at the head of the queue is the one that is handled. -/
lemma take_command_cons {h : Handler F H} {cmd : Command} {rest : List Command}
    (hq : h.queue.commands = cmd :: rest) :
    h.take_command = Handler.handle_queue { h with queue := ⟨h.queue.bound, rest⟩ } cmd := by
  unfold take_command SyncChannel.try_recv
  rw [hq]

/-- The tokens of the loop itself lie above those of the slots. -/
lemma handle_event_slot (h : Handler F H) {t : ℕ} (ht : t < SYSTEM) (events : Ready) :
    h.handle_event t events = h.handle_socket t events := by
  have hall : SYSTEM < ALL := by decide
  have htimer : SYSTEM < TIMER := by decide
  have hqueue : SYSTEM < QUEUE := by decide
  unfold handle_event
  rw [if_neg (Nat.ne_of_lt ht), if_neg (Nat.ne_of_lt (lt_trans ht hall)),
    if_neg (Nat.ne_of_lt (lt_trans ht htimer)), if_neg (Nat.ne_of_lt (lt_trans ht hqueue))]

/-- **The loop takes a run of steps.** Whatever the polls bring, the state it gets to is
reached by steps. -/
theorem event_loop_run {h h' : Handler F H} {polls : List Poll} {res : Option (Result Unit)}
    (hloop : h.event_loop polls = .ok (h', res)) :
    ∃ steps, Runs.run step h steps = .ok h' := by
  induction polls generalizing h with
  | nil => cases hloop; exact ⟨[], rfl⟩
  | cons p polls ih =>
    unfold event_loop at hloop
    split at hloop
    · rcases p with err | batch
      · dsimp only at hloop
        split at hloop
        · obtain ⟨steps, hsteps⟩ := ih hloop
          exact ⟨.interrupted :: .check_count :: steps, hsteps⟩
        · cases hloop; exact ⟨[], rfl⟩
      · obtain ⟨d, hd, hloop⟩ := bind_eq_ok.mp hloop
        obtain ⟨steps, hsteps⟩ := ih hloop
        have hbatch : Runs.run step h (batch.map .input) = .ok d := by
          rw [run_map, ← hd]
          rfl
        exact ⟨batch.map .input ++ .check_count :: steps,
          run_append.mpr ⟨d, hbatch, run_cons.mpr ⟨_, rfl, hsteps⟩⟩⟩
    · cases hloop; exact ⟨[], rfl⟩

/-- Commands that there is room for are queued. -/
lemma run_posts {h : Handler F H} {cmds : List Command}
    (hroom : h.queue.commands.length + cmds.length ≤ h.queue.bound) :
    Runs.run step h (cmds.map .post) =
      .ok { h with queue := ⟨h.queue.bound, h.queue.commands ++ cmds⟩ } := by
  induction cmds generalizing h with
  | nil => rw [List.append_nil]; rfl
  | cons cmd cmds ih =>
    rw [List.length_cons] at hroom
    have hsend : h.send cmd =
        { h with queue := ⟨h.queue.bound, h.queue.commands ++ [cmd]⟩ } := by
      rw [send, SyncChannel.send, if_pos (by omega)]
    refine run_cons.mpr ⟨_, congrArg Except.ok hsend, ?_⟩
    rw [ih (by simp only [List.length_append, List.length_singleton]; omega)]
    simp only [List.append_assoc, List.singleton_append]

end Handler

end XnetSocket.Io
