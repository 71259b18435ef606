import XnetSocket.Connection

/-!
Sequences of calls on one connection.

A call comes with what the socket answers while it runs, so that a sequence of calls is one
history of the connection under one behaviour of the socket.
-/

namespace XnetSocket

open Buffer

inductive Call
  | as_server
  | as_client (url : String) (addrs : List SocketAddr)
  | send_message (msg : Message)
  | send_close (code : CloseCode) (reason : String)
  | error (err : Error)
  | read (reads : List (Except IoError Bytes))
  | write (answer : Except IoError ℕ)
  | shutdown
  | disconnect
  | new_timeout (event : Token) (timeout : TimerHandle)
  | timeout_triggered (event : Token)

namespace Connection

variable {H : Type}

/-- Put what the socket will answer to reads in store. -/
def with_reads (c : Connection H) (reads : List (Except IoError Bytes)) : Connection H :=
  { c with socket := { c.socket with reads := reads } }

/-- Put what the socket will answer to writes in store. -/
def with_writes (c : Connection H) (writes : List (Except IoError ℕ)) : Connection H :=
  { c with socket := { c.socket with writes := writes } }

variable [Handler H] [Growth]

def perform (c : Connection H) : Call → Except Panic (Connection H × Result Unit)
  | .as_server => .ok c.as_server
  | .as_client url addrs => .ok (c.as_client url addrs)
  | .send_message msg => c.send_message msg
  | .send_close code reason => c.send_close code reason
  | .error err => do
    let c ← c.error err
    .ok (c, .ok ())
  | .read reads => (c.with_reads reads).read
  | .write answer => .ok (c.with_writes [answer]).write
  | .shutdown => do
    let c ← c.shutdown
    .ok (c, .ok ())
  | .disconnect => .ok (c.disconnect, .ok ())
  | .new_timeout event timeout => .ok (c.new_timeout event timeout)
  | .timeout_triggered event => .ok (c.timeout_triggered event)

/-- One call, as a step of the connection. -/
def call (c : Connection H) (call : Call) : Except Panic (Connection H) := do
  let (c, _) ← c.perform call
  .ok c

/-- A connection as `accept` and `connect` leave it when they open it. -/
def opened (tok : Token) (handler : H) (settings : Settings) (connection_id : UInt32) :
    Connection H :=
  ((blank tok .fresh handler settings connection_id).open).1

end Connection

end XnetSocket
