import XnetSocket.Lib.Buffer
import XnetSocket.Mio

/-!
Reading from a socket into a buffer and writing a buffer to a socket.

A socket answers each read with bytes, at most as many as there is room for, or with an error,
and each write with how many of the offered bytes it takes; no bytes read means that the peer
has closed. When it has no answer in store it would block. What it has handed over, read by
read with the room there was, and what it has taken so far is kept.
-/

namespace XnetSocket

open Buffer

structure TcpStream where
  reads : List (Except IoError Bytes)
  writes : List (Except IoError ℕ)
  /-- The reads that succeeded: the room offered, and the bytes that came. -/
  log : List (ℕ × Bytes)
  sent : Bytes

/-- A socket nothing has happened on. -/
def TcpStream.fresh : TcpStream := ⟨[], [], [], []⟩

/-- Everything read from the socket. -/
def TcpStream.received (s : TcpStream) : Bytes := s.log.flatMap Prod.snd

def would_block : IoError := ⟨.WouldBlock, none, "would block"⟩

/-- A read with room for `room` bytes. -/
def TcpStream.read (s : TcpStream) (room : ℕ) : TcpStream × Except IoError Bytes :=
  match s.reads with
  | [] => (s, .error would_block)
  | .error err :: rest => ({ s with reads := rest }, .error err)
  | .ok bytes :: rest =>
    ({ s with reads := rest, log := s.log ++ [(room, bytes.take room)] }, .ok (bytes.take room))

/-- A write of `bytes`. -/
def TcpStream.write (s : TcpStream) (bytes : Bytes) : TcpStream × Except IoError ℕ :=
  match s.writes with
  | [] => (s, .error would_block)
  | .error err :: rest => ({ s with writes := rest }, .error err)
  | .ok cnt :: rest =>
    ({ s with writes := rest, sent := s.sent ++ bytes.take cnt }, .ok (min cnt bytes.length))

def map_non_block {α : Type} (res : Except IoError α) : Except IoError (Option α) :=
  match res with
  | .ok value => .ok (some value)
  | .error err => if err.kind = .WouldBlock then .ok none else .error err

variable [Growth]

def TcpStream.try_read_buf (s : TcpStream) (buf : Vec UInt8) :
    TcpStream × Vec UInt8 × Except IoError (Option ℕ) :=
  let buf := buf.bytes_mut
  let (s, res) := s.read (buf.capacity - buf.data.length)
  match map_non_block res with
  | .ok (some bytes) => (s, buf.advance_mut bytes, .ok (some bytes.length))
  | .ok none => (s, buf, .ok none)
  | .error err => (s, buf, .error err)

def TcpStream.try_write_buf (s : TcpStream) (buf : Cursor UInt8) :
    TcpStream × Cursor UInt8 × Except IoError (Option ℕ) :=
  let (s, res) := s.write buf.bytes
  match map_non_block res with
  | .ok (some cnt) => (s, buf.advance cnt, .ok (some cnt))
  | .ok none => (s, buf, .ok none)
  | .error err => (s, buf, .error err)

/-- A plain socket never negotiates. -/
def TcpStream.is_negotiating (_ : TcpStream) : Bool := false

def TcpStream.clear_negotiating (_ : TcpStream) : Result Unit :=
  .error (.new .Internal "Attempted to clear negotiating flag on non ssl connection.")

end XnetSocket
