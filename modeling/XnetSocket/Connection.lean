import XnetSocket.Lib.Runs
import XnetSocket.Handler
import XnetSocket.Os
import XnetSocket.Settings

/-!
One connection: its buffers, the state of its closing handshake, the interest it wants
registered, and the handler it calls back.

A method that takes the connection by mutable reference returns the connection it leaves; one
that can panic returns it under `Except Panic`, and one that can fail returns its result
beside it.
-/

namespace XnetSocket

open Buffer

inductive State
  /-- Accepted or connected, waiting to be opened. -/
  | Connecting (req res : Cursor UInt8)
  /-- Ready to send and receive messages. -/
  | Open
  | AwaitingClose
  | RespondingClose
  | FinishedClose

namespace State

def is_connecting : State → Bool
  | .Connecting _ _ => true
  | _ => false

def is_open : State → Bool
  | .Open => true
  | _ => false

def is_closing : State → Bool
  | .AwaitingClose => true
  | .FinishedClose => true
  | _ => false

end State

inductive Endpoint
  | Client (url : String)
  | Server
  deriving DecidableEq

/-- The buffers the settings ask for can be allocated. -/
def Settings.Allocatable (s : Settings) : Prop :=
  s.in_buffer_capacity ≤ isize_MAX ∧ s.out_buffer_capacity ≤ isize_MAX

instance (s : Settings) : Decidable s.Allocatable :=
  inferInstanceAs (Decidable (_ ∧ _))

structure Connection (H : Type) where
  token : Token
  socket : TcpStream
  state : State
  endpoint : Endpoint
  events : Ready
  in_buffer : Cursor UInt8
  out_buffer : Cursor UInt8
  handler : H
  addresses : List SocketAddr
  settings : Settings
  connection_id : UInt32

/-- The bytes from `pos` on; taking a slice past the end panics. -/
def slice_from (bytes : Bytes) (pos : ℕ) : Except Panic Bytes :=
  if pos ≤ bytes.length then .ok (bytes.drop pos) else .error .slice

namespace Connection

variable {H : Type}

/-- The connection that is made, when its buffers can be. -/
def blank (tok : Token) (sock : TcpStream) (handler : H) (settings : Settings)
    (connection_id : UInt32) : Connection H where
  token := tok
  socket := sock
  state := .Connecting (.new (.with_capacity 2048)) (.new (.with_capacity 2048))
  endpoint := .Server
  events := .empty
  in_buffer := .new (.with_capacity settings.in_buffer_capacity)
  out_buffer := .new (.with_capacity settings.out_buffer_capacity)
  handler := handler
  addresses := []
  settings := settings
  connection_id := connection_id

/-- The new connection; panics when its buffers cannot be as large as the settings ask. -/
def new (tok : Token) (sock : TcpStream) (handler : H) (settings : Settings)
    (connection_id : UInt32) : Except Panic (Connection H) :=
  if settings.Allocatable then .ok (blank tok sock handler settings connection_id)
  else .error .capacity

lemma new_of_allocatable {settings : Settings} (h : settings.Allocatable) (tok : Token)
    (sock : TcpStream) (handler : H) (connection_id : UInt32) :
    new tok sock handler settings connection_id =
      .ok (blank tok sock handler settings connection_id) :=
  if_pos h

lemma new_eq_ok {tok : Token} {sock : TcpStream} {handler : H} {settings : Settings}
    {connection_id : UInt32} {c : Connection H}
    (h : new tok sock handler settings connection_id = .ok c) :
    settings.Allocatable ∧ c = blank tok sock handler settings connection_id := by
  unfold new at h
  split at h
  · rename_i ha
    cases h
    exact ⟨ha, rfl⟩
  · cases h

/-- The state is `Open` afterwards in either case. -/
def «open» (c : Connection H) : Connection H × Result Unit :=
  match c.state with
  | .Connecting _ _ => ({ c with state := .Open }, .ok ())
  | _ => ({ c with state := .Open },
      .error (.new .Internal "Tried to write socket while not in connecting state!"))

def as_server (c : Connection H) : Connection H × Result Unit :=
  ({ c with events := c.events.insert readable }, .ok ())

def as_client (c : Connection H) (url : String) (addrs : List SocketAddr) :
    Connection H × Result Unit :=
  match c.state with
  | .Open => ({ c with
      addresses := addrs
      events := c.events.insert readable
      endpoint := .Client url }, .ok ())
  | _ => (c, .error (.new .Internal "Tried to set connection to client while not connecting."))

def is_client (c : Connection H) : Bool :=
  match c.endpoint with
  | .Client _ => true
  | .Server => false

def is_server (c : Connection H) : Bool :=
  match c.endpoint with
  | .Client _ => false
  | .Server => true

/-- Replace the socket by one connected to the next address left. -/
def reset (c : Connection H) (os : Os) : Except Panic (Connection H × Os × Result Unit) :=
  if c.is_client then
    match c.state with
    | .Connecting req res =>
      let c := { c with
        state := .Connecting (req.set_position 0) (res.set_position 0)
        events := (c.events.remove writable).insert readable }
      match c.addresses.getLast? with
      | some addr =>
        let c := { c with addresses := c.addresses.dropLast }
        match os.connect addr with
        | (os, .ok sock) => .ok ({ c with socket := sock }, os, .ok ())
        | (os, .error err) => .ok (c, os, .error (.from_io err))
      | none =>
        if c.settings.panic_on_new_connection then .error .setting
        else .ok (c, os, .error (.new .Internal "Exhausted possible addresses."))
    | _ => .ok (c, os,
        .error (.new .Internal "Unable to reset client connection because it is active."))
  else .ok (c, os, .error (.new .Internal "Server connections cannot be reset."))

/-- Interest in reading, and in writing while output is pending. -/
def check_events (c : Connection H) : Connection H :=
  if c.state.is_connecting then c
  else if c.out_buffer.position < c.out_buffer.get_ref.len then
    { c with events := (c.events.insert readable).insert writable }
  else { c with events := c.events.insert readable }

def send_close (c : Connection H) (_code : CloseCode) (_reason : String) :
    Except Panic (Connection H × Result Unit) :=
  match c.state with
  -- The peer asked to close; when this goes out we are done.
  | .RespondingClose => .ok (({ c with state := .FinishedClose }).check_events, .ok ())
  -- Already closing: later requests are ignored.
  | .AwaitingClose | .FinishedClose => .ok (c.check_events, .ok ())
  | .Open => .ok (({ c with state := .AwaitingClose }).check_events, .ok ())
  | .Connecting _ _ => .error .debug_assert

section Callbacks

variable [Handler H]

def disconnect (c : Connection H) : Connection H :=
  match c.state with
  | .RespondingClose | .FinishedClose | .Connecting _ _ => { c with events := .empty }
  | _ => { c with handler := Handler.on_close c.handler .Abnormal "", events := .empty }

def shutdown (c : Connection H) : Except Panic (Connection H) := do
  let c := { c with handler := Handler.on_shutdown c.handler }
  let (c, res) ← c.send_close .Away "Shutting down."
  match res with
  | .ok () => .ok c
  | .error err => .ok ({ c with handler := Handler.on_error c.handler err }).disconnect

def new_timeout (c : Connection H) (event : Token) (timeout : TimerHandle) :
    Connection H × Result Unit :=
  let (handler, res) := Handler.on_new_timeout c.handler event timeout
  ({ c with handler := handler }, res)

def timeout_triggered (c : Connection H) (event : Token) : Connection H × Result Unit :=
  let (handler, res) := Handler.on_timeout c.handler event
  ({ c with handler := handler }, res)

/-- Report an error of a connection that is not open yet: a server answers with a status line
and the text of the error, a client gives up. -/
def refuse [Growth] (c : Connection H) (req res : Cursor UInt8) (status : String) (err : Error) :
    Connection H :=
  let msg := err.to_string
  let c := { c with handler := Handler.on_error c.handler err }
  match c.endpoint with
  | .Server =>
    let res := { res with inner := res.inner.clear.extend (into_bytes (status ++ msg)) }
    { c with
      state := .Connecting req res
      events := (c.events.remove readable).insert writable }
  | .Client _ => { c with events := .empty }

/-- Report an error and start closing because of it, unless a setting asks to panic. -/
def close_on (c : Connection H) (err : Error) (panics : Bool) (code : CloseCode) :
    Except Panic (Connection H) :=
  if panics then .error .setting
  else do
    let reason := err.to_string
    let c := { c with handler := Handler.on_error c.handler err }
    let (c, res) ← c.send_close code reason
    match res with
    | .ok () => .ok c
    | .error err => .ok ({ c with handler := Handler.on_error c.handler err }).disconnect

/-- Report an error and leave the connection as it is, unless a setting asks to panic. -/
def report (c : Connection H) (err : Error) (panics : Bool) : Except Panic (Connection H) :=
  if panics then .error .setting
  else .ok { c with handler := Handler.on_error c.handler err }

def error [Growth] (c : Connection H) (err : Error) : Except Panic (Connection H) :=
  match c.state with
  | .Connecting req res =>
    match err.kind with
    | .Protocol => .ok (c.refuse req res "Bad Request\r\n\r\n" err)
    | _ => .ok (c.refuse req res "Internal Server Error\r\n\r\n" err)
  | _ =>
    match err.kind with
    | .Internal => c.close_on err c.settings.panic_on_internal .Error
    | .Capacity => c.close_on err c.settings.panic_on_capacity .Size
    | .Protocol => c.close_on err c.settings.panic_on_protocol .Protocol
    | .Encoding _ => c.close_on err c.settings.panic_on_encoding .Invalid
    | .Http _ => do
      let c ← c.report err false
      .ok c.disconnect
    | .Custom _ => c.report err false
    | .Timer _ => c.report err c.settings.panic_on_timeout
    | .Queue _ => c.report err c.settings.panic_on_queue
    | .Io _ => do
      let c ← c.report err c.settings.panic_on_io
      .ok c.disconnect

end Callbacks

/-! ### Output -/

/-- Make room for `frame`: drop what has been written, and grow if that frees nothing. -/
def check_buffer_out [Growth] (c : Connection H) (frame : Bytes) :
    Except Panic (Connection H × Result Unit) :=
  if c.out_buffer.get_ref.capacity ≤ c.out_buffer.get_ref.len + frame.length then do
    let pending ← slice_from c.out_buffer.get_ref.data c.out_buffer.position
    let new := (Vec.with_capacity c.out_buffer.get_ref.capacity).extend pending
    if new.len = new.capacity then
      if c.settings.out_buffer_grow then
        .ok ({ c with out_buffer := .new (new.reserve c.settings.out_buffer_capacity) }, .ok ())
      else .ok (c, .error (.new .Capacity "Maxed out output buffer for connection."))
    else .ok ({ c with out_buffer := .new new }, .ok ())
  else .ok (c, .ok ())

def send_message [Growth] (c : Connection H) (msg : Message) :
    Except Panic (Connection H × Result Unit) :=
  if c.state.is_closing then .ok (c, .ok ())
  else do
    let data := msg.into_data
    let (c, res) ← c.check_buffer_out data
    match res with
    | .error err => .ok (c, .error err)
    | .ok () =>
      let pos := c.out_buffer.position
      let out := (c.out_buffer.seek_end.write data).seek_start pos
      .ok (({ c with out_buffer := out }).check_events, .ok ())

def write [Growth] (c : Connection H) : Connection H × Result Unit :=
  if c.socket.is_negotiating then (c, c.socket.clear_negotiating)
  else if c.state.is_connecting then
    (c, .error (.new .Internal "connect state not change"))
  else
    -- Start out assuming that this write clears the whole buffer.
    let c := { c with events := c.events.remove writable }
    match c.socket.try_write_buf c.out_buffer with
    | (sock, out, .error err) =>
      ({ c with socket := sock, out_buffer := out }, .error (.from_io err))
    | (sock, out, .ok len) =>
      let c := { c with socket := sock, out_buffer := out }
      match c.state with
      | .FinishedClose =>
        if len = some 0 ∧ c.is_server then ({ c with events := .empty }, .ok ())
        else (c.check_events, .ok ())
      | _ => (c.check_events, .ok ())

/-! ### Input -/

/-- Fill the input buffer until a read leaves room in it. Every round takes one answer of the
socket, and the socket would block when it has none left, so `fuel` bounds the rounds. -/
def buffer_in_loop [Growth] : ℕ → Connection H → Except Panic (Connection H × Result (Option ℕ))
  | 0, c => .ok (c, .ok none)
  | fuel + 1, c =>
    match c.socket.try_read_buf c.in_buffer.inner with
    | (sock, buf, .error err) =>
      .ok ({ c with socket := sock, in_buffer := { c.in_buffer with inner := buf } },
        .error (.from_io err))
    | (sock, buf, .ok none) =>
      .ok ({ c with socket := sock, in_buffer := { c.in_buffer with inner := buf } }, .ok none)
    | (sock, buf, .ok (some len)) =>
      let c := { c with socket := sock, in_buffer := { c.in_buffer with inner := buf } }
      if len = 0 then .ok (c, .ok (some c.in_buffer.get_ref.len))
      else if c.in_buffer.get_ref.len = c.in_buffer.get_ref.capacity then do
        -- Full: drop what has been read, and grow if that frees nothing.
        let unread ← slice_from c.in_buffer.get_ref.data c.in_buffer.position
        let new := (Vec.with_capacity c.in_buffer.get_ref.capacity).extend unread
        if new.len = new.capacity then
          if c.settings.in_buffer_grow then
            buffer_in_loop fuel
              { c with in_buffer := .new (new.reserve c.settings.in_buffer_capacity) }
          else .ok (c, .error (.new .Capacity "Maxed out input buffer for connection"))
        else buffer_in_loop fuel { c with in_buffer := .new new }
      else .ok (c, .ok (some c.in_buffer.get_ref.len))

def buffer_in [Growth] (c : Connection H) : Except Panic (Connection H × Result (Option ℕ)) :=
  c.buffer_in_loop (c.socket.reads.length + 1)

variable [Handler H]

/-- Hand everything unread to the handler as one text message. -/
def read_data (c : Connection H) : Connection H × Result Unit :=
  let (in_buffer, buffer) := c.in_buffer.read_to_end
  let c := { c with in_buffer := in_buffer }
  match from_utf8 buffer with
  | .error err => (c, .error (.from_utf8_error err))
  | .ok text =>
    let (handler, res) := Handler.on_message c.handler (.text text)
    ({ c with handler := handler }, res)

def read [Growth] (c : Connection H) : Except Panic (Connection H × Result Unit) :=
  if c.socket.is_negotiating then .ok (c, c.socket.clear_negotiating)
  else if c.state.is_connecting then
    .ok (c, .error (.new .Internal "connect state not change"))
  else do
    let (c, res) ← c.buffer_in
    match res with
    | .error err => .ok (c, .error err)
    | .ok none => .ok (c, .ok ())
    | .ok (some len) =>
      match c.read_data with
      | (c, .error err) => .ok (c, .error err)
      | (c, .ok ()) =>
        if len = 0 then
          if c.events.is_writable then
            .ok ({ c with events := c.events.remove readable }, .ok ())
          else .ok (c.disconnect, .ok ())
        else .ok (c, .ok ())

end Connection

end XnetSocket
