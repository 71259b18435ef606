import XnetSocket.Connection
import XnetSocket.Factory
import XnetSocket.Lib.Slab
import XnetSocket.Timer

/-!
The handler of the event loop: its connections, its queue and its timer, and what it does with
each event.

The poll the source passes along is a field here. A method that indexes an empty slot, unwraps
an error or meets a setting that asks for it panics.
-/

namespace XnetSocket.Io

open Buffer

def MESSAGES_PER_TICK : ℕ := 256

inductive State
  | Active
  | Inactive
  deriving DecidableEq

def State.is_active : State → Bool
  | .Active => true
  | .Inactive => false

structure TcpListener where
  addr : SocketAddr

structure Handler (F H : Type) where
  listener : Option TcpListener
  connections : Slab (Connection H)
  factory : F
  settings : Settings
  state : State
  queue : SyncChannel
  timer : Timer
  next_connection_id : UInt32
  poll : Os

/-- The addresses of a name; a name that does not resolve panics. -/
def url_to_addrs (os : Os) (url : String) : Except Panic (Os × Result (List SocketAddr)) :=
  match os.to_socket_addrs url with
  | (os, .ok addrs) => .ok (os, .ok addrs)
  | (_, .error _) => .error .unwrap

/-- Connect to the first address that answers. The addresses come last first, as they are
popped; failing to set an option of the socket ends the search, running out of addresses gives
nothing. -/
def first_socket (settings : Settings) :
    Os → List SocketAddr → Os × Except IoError (Option (TcpStream × List SocketAddr))
  | os, [] => (os, .ok none)
  | os, addr :: rest =>
    match os.connect addr with
    | (os, .ok sock) =>
      if settings.tcp_nodelay then
        match os.set_nodelay with
        | (os, .ok ()) => (os, .ok (some (sock, rest)))
        | (os, .error err) => (os, .error err)
      else (os, .ok (some (sock, rest)))
    | (os, .error _) => first_socket settings os rest

namespace Handler

variable {F H : Type}

/-- The handler that is made, when its channel and its slab can be. -/
def blank (factory : F) (settings : Settings) : Handler F H where
  listener := none
  connections := .with_capacity settings.max_connections
  factory := factory
  settings := settings
  state := .Inactive
  queue := .new (settings.max_connections * settings.queue_size)
  timer := .new
  next_connection_id := 0
  poll := .init

/-- The new handler; panics when the product of the settings overflows or when the channel or the
slab cannot be that large. -/
def new [Host] (factory : F) (settings : Settings) : Except Panic (Handler F H) :=
  if usize_MAX < settings.max_connections * settings.queue_size then .error .overflow
  else if Host.channel_max < settings.max_connections * settings.queue_size then .error .capacity
  else if Host.slab_max < settings.max_connections then .error .capacity
  else .ok (blank factory settings)

/-- The sender of broadcasts. -/
def sender (_h : Handler F H) : Sender := ⟨ALL, 0⟩

def listen (h : Handler F H) (addr : SocketAddr) : Except Panic (Handler F H × Result Unit) :=
  if h.listener.isSome then .error .debug_assert
  else match h.poll.register ALL readable with
    | (os, .ok ()) => .ok ({ h with listener := some ⟨addr⟩, poll := os }, .ok ())
    | (os, .error err) => .ok ({ h with poll := os }, .error (.from_io err))

def is_client (h : Handler F H) : Bool := h.listener.isNone

/-- `connections[token]`. -/
def at_slot (h : Handler F H) (token : Token) : Except Panic (Connection H) :=
  match h.connections.get token with
  | some c => .ok c
  | none => .error .index

/-- Put a connection back in the slot it was taken from. -/
def put (h : Handler F H) (token : Token) (c : Connection H) : Handler F H :=
  { h with connections := h.connections.set token c }

def schedule (h : Handler F H) (c : Connection H) : Handler F H × Result Unit :=
  match h.poll.reregister c.token c.events with
  | (os, .ok ()) => ({ h with poll := os }, .ok ())
  | (os, .error err) => ({ h with poll := os }, .error (.from_io err))

section Factories

variable [Factory F H]

/-- Take a connection out of the slab and pass its handler back to the factory. -/
def lose (h : Handler F H) (token : Token) : Except Panic (Handler F H) :=
  match h.connections.remove token with
  | some (c, connections) =>
    .ok { h with
      connections := connections
      factory := Factory.connection_lost h.factory c.handler }
  | none => .error .unwrap

def connect (h : Handler F H) (url : String) : Except Panic (Handler F H × Result Unit) :=
  match h.connections.vacant_entry with
  | none =>
    .ok (h, .error (.new .Capacity "Unable to add another connection to the event loop."))
  | some tok =>
    let connection_id := h.next_connection_id
    match Factory.client_connected h.factory ⟨tok, connection_id⟩ with
    | (factory, handler) => do
      let h := { h with factory := factory, next_connection_id := connection_id + 1 }
      let (os, addrs) ← url_to_addrs h.poll url
      let h := { h with poll := os }
      match addrs with
      | .error err =>
        .ok ({ h with factory := Factory.connection_lost h.factory handler }, .error err)
      | .ok addresses =>
        match first_socket h.settings h.poll addresses.reverse with
        -- The handler is dropped here without the factory hearing of it.
        | (os, .error err) => .ok ({ h with poll := os }, .error (.from_io err))
        | (os, .ok none) =>
          .ok ({ h with poll := os, factory := Factory.connection_lost h.factory handler },
            .error (.new .Internal ("Unable to obtain any socket address for " ++ url)))
        | (os, .ok (some (sock, rest))) => do
          let conn ← Connection.new tok sock handler h.settings connection_id
          let conn := conn.open.1
          match conn.as_client url rest.reverse with
          | (conn, .error err) =>
            let h ← ({ h with poll := os, connections := h.connections.insert conn }).lose tok
            .ok (h, .error err)
          | (conn, .ok ()) =>
            let h := { h with poll := os, connections := h.connections.insert conn }
            match h.poll.register conn.token conn.events with
            | (os, .ok ()) => .ok ({ h with poll := os }, .ok ())
            | (os, .error err) =>
              let h ← ({ h with poll := os }).lose tok
              .ok (h, .error (.from_io err))

variable [XnetSocket.Handler H] [Host]

/-- Report a failure to set an accepted connection up, unless a setting asks to panic. -/
def setup_failed (c : Connection H) (panics : Bool) (err : Error) : Except Panic (Connection H) :=
  do
    let c ← c.error err
    if panics then .error .setting else .ok c

/-- Register an accepted connection. -/
def register_accepted (os : Os) (c : Connection H) (panics : Bool) :
    Except Panic (Os × Connection H) :=
  match os.register c.token c.events with
  | (os, .ok ()) => .ok (os, c)
  | (os, .error err) => do
    let c ← setup_failed c panics (.from_io err)
    .ok (os, c)

/-- Open an accepted connection. -/
def open_accepted (c : Connection H) (panics : Bool) : Except Panic (Connection H) :=
  match c.open with
  | (c, .ok ()) => .ok c
  | (c, .error err) => setup_failed c panics err

def accept (h : Handler F H) (sock : TcpStream) : Except Panic (Handler F H × Result Unit) :=
  match if h.settings.tcp_nodelay then h.poll.set_nodelay else (h.poll, .ok ()) with
  | (os, .error err) => .ok ({ h with poll := os }, .error (.from_io err))
  | (os, .ok ()) =>
    let h := { h with poll := os }
    match h.connections.vacant_entry with
    | none =>
      .ok (h, .error (.new .Capacity "Unable to add another connection to the event loop."))
    | some tok =>
      let connection_id := h.next_connection_id
      match Factory.server_connected h.factory ⟨tok, connection_id⟩ with
      | (factory, handler) => do
        let h := { h with factory := factory, next_connection_id := connection_id + 1 }
        let conn ← Connection.new tok sock handler h.settings connection_id
        match conn.as_server with
        | (conn, .error err) =>
          .ok ({ h with connections := h.connections.insert conn }, .error err)
        | (conn, .ok ()) =>
          let (os, conn) ← register_accepted h.poll conn h.settings.panic_on_new_connection
          let conn ← open_accepted conn h.settings.panic_on_new_connection
          .ok ({ h with poll := os, connections := h.connections.insert conn }, .ok ())

def shutdown (h : Handler F H) : Except Panic (Handler F H) := do
  let (connections, _) ← h.connections.iter_mut fun c => do
    let c ← c.shutdown
    .ok (c, ([] : List Unit))
  let h := { h with
    connections := connections
    factory := Factory.on_shutdown h.factory
    state := .Inactive }
  if h.settings.panic_on_shutdown then .error .setting else .ok h

/-- Schedule a connection again after an event, or remove it when it is not active. -/
def check_active (h : Handler F H) (active : Bool) (token : Token) :
    Except Panic (Handler F H) := do
  let c ← h.at_slot token
  if active then
    match h.schedule c with
    | (h, .ok ()) => .ok h
    | (h, .error err) => do
      let c ← c.error err
      (h.put token c).lose token
  else h.lose token

omit [XnetSocket.Handler H] [Host] in
def check_count (h : Handler F H) : Handler F H :=
  if h.connections.len = 0 then
    if h.state.is_active ∧ h.is_client then
      { h with factory := Factory.on_shutdown h.factory, state := .Inactive }
    else h
  else h

/-! ### Commands -/

/-- Call `f` on the connection in a slot, if there is one and it has the id; a failure is
reported to it. -/
def with_id (h : Handler F H) (token : Token) (connection_id : UInt32)
    (f : Connection H → Except Panic (Connection H × Result Unit)) : Except Panic (Handler F H) :=
  match h.connections.get token with
  | some c =>
    if c.connection_id = connection_id then do
      let (c, res) ← f c
      match res with
      | .ok () => .ok (h.put token c)
      | .error err => do
        let c ← c.error err
        .ok (h.put token c)
    else .ok h
  | none => .ok h

/-- Report an error to the connection in a slot, if there is one. -/
def error_at (h : Handler F H) (token : Token) (err : Error) : Except Panic (Handler F H) :=
  match h.connections.get token with
  | some c => do
    let c ← c.error err
    .ok (h.put token c)
  | none => .ok h

/-- Schedule the connection in a slot, if there is one; a failure is reported to it. -/
def schedule_at (h : Handler F H) (token : Token) : Except Panic (Handler F H) :=
  match h.connections.get token with
  | some c =>
    match h.schedule c with
    | (h, .ok ()) => .ok h
    | (h, .error err) => do
      let c ← c.error err
      .ok (h.put token c)
  | none => .ok h

/-- A connection that takes a new timeout; a failure is reported to it. -/
def take_timeout (event : Token) (timeout : TimerHandle) (c : Connection H) :
    Except Panic (Connection H) :=
  match c.new_timeout event timeout with
  | (c, .ok ()) => .ok c
  | (c, .error err) => c.error err

/-- Call `f` on every connection, and collect the failures with their tokens. -/
def for_each (h : Handler F H) (f : Connection H → Except Panic (Connection H × Result Unit)) :
    Except Panic (Handler F H × List (Token × Error)) := do
  let (connections, dead) ← h.connections.iter_mut fun c => do
    let (c, res) ← f c
    match res with
    | .ok () => .ok (c, [])
    | .error err => .ok (c, [(c.token, err)])
  .ok ({ h with connections := connections }, dead)

/-- Schedule the connection in one of `slots`, and collect its failure with its token. -/
def schedule_slot (slots : Slab (Connection H)) (acc : Handler F H × List (Token × Error))
    (slot : Token) : Handler F H × List (Token × Error) :=
  match slots.get slot with
  | some c =>
    match acc.1.schedule c with
    | (h, .ok ()) => (h, acc.2)
    | (h, .error err) => (h, acc.2 ++ [(c.token, err)])
  | none => acc

/-- Schedule every connection, and collect the failures with their tokens. -/
def schedule_all (h : Handler F H) : Handler F H × List (Token × Error) :=
  h.connections.keys.foldl (schedule_slot h.connections) (h, [])

/-- Report an error to the connection with a token. -/
def bury (h : Handler F H) (p : Token × Error) : Except Panic (Handler F H) := do
  let c ← h.at_slot p.1
  let c ← c.error p.2
  .ok (h.put p.1 c)

/-- The end of a broadcast: schedule every connection, then report the failures. -/
def finish_broadcast (h : Handler F H) (dead : List (Token × Error)) :
    Except Panic (Handler F H) :=
  match h.schedule_all with
  | (h, more) => (dead ++ more).foldlM bury h

/-- A command to all connections. -/
def handle_broadcast (h : Handler F H) (signal : Signal) : Except Panic (Handler F H) :=
  match signal with
  | .Message msg => do
    let (h, dead) ← h.for_each fun c => c.send_message msg
    h.finish_broadcast dead
  | .Close code reason => do
    let (h, dead) ← h.for_each fun c => c.send_close code reason
    h.finish_broadcast dead
  | .Connect url => do
    let (h, res) ← h.connect url
    match res with
    | .ok () => .ok h
    | .error _ => if h.settings.panic_on_new_connection then .error .setting else .ok h
  | .Shutdown => do
    let h ← h.shutdown
    h.finish_broadcast []
  | .Timeout delay event =>
    match h.timer.set_timeout delay ⟨ALL, event⟩ with
    | (timer, .ok timeout) => do
      let (connections, _) ← h.connections.iter_mut fun c => do
        let c ← take_timeout event timeout c
        .ok (c, ([] : List Unit))
      .ok { h with timer := timer, connections := connections }
    | (timer, .error _) =>
      if h.settings.panic_on_timeout then .error .setting else .ok { h with timer := timer }
  | .Cancel timeout => .ok { h with timer := h.timer.cancel_timeout timeout }

/-- A command to the connection in one slot. -/
def handle_directed (h : Handler F H) (token : Token) (connection_id : UInt32)
    (signal : Signal) : Except Panic (Handler F H) :=
  match signal with
  | .Message msg => do
    let h ← h.with_id token connection_id fun c => c.send_message msg
    h.schedule_at token
  | .Close code reason => do
    let h ← h.with_id token connection_id fun c => c.send_close code reason
    h.schedule_at token
  | .Connect url => do
    let (h, res) ← h.connect url
    match res with
    | .ok () => .ok h
    | .error err =>
      match h.connections.get token with
      | some _ => h.error_at token err
      | none => if h.settings.panic_on_new_connection then .error .setting else .ok h
  | .Shutdown => do
    let h ← h.shutdown
    h.schedule_at token
  | .Timeout delay event =>
    match h.timer.set_timeout delay ⟨token, event⟩ with
    | (timer, .ok timeout) => do
      let h := { h with timer := timer }
      match h.connections.get token with
      | some c => do
        let c ← take_timeout event timeout c
        .ok (h.put token c)
      | none => .ok h
    | (timer, .error err) => ({ h with timer := timer }).error_at token (.from_timer err)
  | .Cancel timeout => .ok { h with timer := h.timer.cancel_timeout timeout }

def handle_queue (h : Handler F H) (cmd : Command) : Except Panic (Handler F H) :=
  if cmd.token = SYSTEM then .ok h
  else if cmd.token = ALL then h.handle_broadcast cmd.signal
  else h.handle_directed cmd.token cmd.connection_id cmd.signal

/-! ### Events -/

/-- A connection whose timeout expires; a failure is reported to it. -/
def trigger (event : Token) (c : Connection H) : Except Panic (Connection H) :=
  match c.timeout_triggered event with
  | (c, .ok ()) => .ok c
  | (c, .error err) => c.error err

def handle_timeout (h : Handler F H) (timeout : Timeout) : Except Panic (Handler F H) :=
  match h.connections.get timeout.connection with
  | none => .ok h
  | some c => do
    let c ← trigger timeout.event c
    (h.put timeout.connection c).check_active (c.events.is_readable || c.events.is_writable)
      timeout.connection

/-- One timeout that is due, unless it is not pending any more. -/
def expire (h : Handler F H) (number : ℕ) : Except Panic (Handler F H) :=
  match h.timer.find number with
  | none => .ok h
  | some timeout =>
    ({ h with timer := h.timer.expire number }).handle_timeout timeout

/-- Whether the error is a refused connection. -/
def refused (err : Error) : Bool :=
  match err.kind with
  | .Io err => err.raw_os_error = some CONNECTION_REFUSED
  | _ => false

/-- A refused connection tries its next address. The result says whether it has another
socket now. -/
def try_next (c : Connection H) (os : Os) (err : Error) :
    Except Panic (Connection H × Os × Bool) :=
  if refused err then do
    let (c, os, res) ← c.reset os
    match res with
    | .ok () => .ok (c, os, true)
    | .error _ => .ok (c, os, false)
  else .ok (c, os, false)

/-- What happens to an error of reading or writing: a refused connection tries its next
address, and the event is done with if that works; otherwise the error is reported. The result
says whether the event is done with. -/
def recover (h : Handler F H) (token : Token) (err : Error) :
    Except Panic (Handler F H × Bool) := do
  let c ← h.at_slot token
  let (c, os, done) ← try_next c h.poll err
  let h := ({ h with poll := os }).put token c
  if done then
    match h.poll.register c.token c.events with
    | (os, .ok ()) => .ok ({ h with poll := os }, true)
    | (os, .error err) => do
      let c ← c.error (.from_io err)
      let h ← (({ h with poll := os }).put token c).lose token
      .ok (h, true)
  else do
    let c ← c.error err
    .ok (h.put token c, false)

/-- One direction of a socket event: when it is ready, `act`, and recover from its failure. -/
def attempt (h : Handler F H) (token : Token) (ready : Ready → Bool) (events : Ready)
    (act : Connection H → Except Panic (Connection H × Result Unit)) :
    Except Panic (Handler F H × Bool) := do
  let c ← h.at_slot token
  if ready (events.and c.events) then do
    let (c, res) ← act c
    match res with
    | .ok () => .ok (h.put token c, false)
    | .error err => (h.put token c).recover token err
  else .ok (h, false)

/-- An event of a socket. -/
def handle_socket (h : Handler F H) (token : Token) (events : Ready) :
    Except Panic (Handler F H) := do
  let (h, done) ← h.attempt token Ready.is_readable events Connection.read
  if done then .ok h
  else do
    let (h, done) ← h.attempt token Ready.is_writable events fun c => .ok c.write
    if done then .ok h
    else do
      let c ← h.at_slot token
      h.check_active (c.events.is_readable || c.events.is_writable) token

/-- Take a command from the queue, if there is one, and handle it. -/
def take_command (h : Handler F H) : Except Panic (Handler F H) :=
  match h.queue.try_recv with
  | some (cmd, queue) => ({ h with queue := queue }).handle_queue cmd
  | none => .ok h

/-- An event of the queue. The loop over `MESSAGES_PER_TICK` commands breaks at the end of its
first round, so that one command is taken; then the queue is armed again. -/
def handle_commands (h : Handler F H) : Except Panic (Handler F H) := do
  let h ← h.take_command
  .ok { h with poll := (h.poll.reregister QUEUE readable).1 }

/-- An event of the listener. -/
def handle_listener (h : Handler F H) (events : Ready) : Except Panic (Handler F H) :=
  if events.is_readable then
    match h.listener with
    | none => .error .expect
    | some _ =>
      match h.poll.accept with
      | (os, .ok sock) => do
        let (h, res) ← ({ h with poll := os }).accept sock
        match res with
        | .ok () => .ok h
        | .error _ => if h.settings.panic_on_new_connection then .error .setting else .ok h
      | (os, .error _) => .ok { h with poll := os }
  else .ok h

def handle_event (h : Handler F H) (token : Token) (events : Ready) :
    Except Panic (Handler F H) :=
  if token = SYSTEM then .error .debug_assert
  else if token = ALL then h.handle_listener events
  else if token = TIMER then h.timer.due.foldlM expire h
  else if token = QUEUE then h.handle_commands
  else h.handle_socket token events

end Factories

end Handler

end XnetSocket.Io
