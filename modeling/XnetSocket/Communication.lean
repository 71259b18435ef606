import XnetSocket.Message
import XnetSocket.Mio

/-!
Commands to the event loop, the senders that make them, and the bounded channel they wait in.
-/

namespace XnetSocket

inductive Signal
  | Message (msg : Message)
  | Close (code : CloseCode) (reason : String)
  | Connect (url : String)
  | Shutdown
  | Timeout (delay : ℕ) (token : Token)
  | Cancel (timeout : TimerHandle)
  deriving DecidableEq

structure Command where
  token : Token
  signal : Signal
  connection_id : UInt32
  deriving DecidableEq

/-! ### The tokens of the event loop -/

/-- The token of the receiving end of the channel. -/
def QUEUE : Token := usize_MAX - 3

def TIMER : Token := usize_MAX - 4

def ALL : Token := usize_MAX - 5

def SYSTEM : Token := usize_MAX - 6

/-! ### Senders -/

structure Sender where
  token : Token
  connection_id : UInt32
  deriving DecidableEq

namespace Sender

def send (s : Sender) (msg : Message) : Command := ⟨s.token, .Message msg, s.connection_id⟩

def broadcast (s : Sender) (msg : Message) : Command := ⟨ALL, .Message msg, s.connection_id⟩

def close (s : Sender) (code : CloseCode) : Command := ⟨s.token, .Close code "", s.connection_id⟩

def close_with_reason (s : Sender) (code : CloseCode) (reason : String) : Command :=
  ⟨s.token, .Close code reason, s.connection_id⟩

def connect (s : Sender) (url : String) : Command := ⟨s.token, .Connect url, s.connection_id⟩

def shutdown (s : Sender) : Command := ⟨s.token, .Shutdown, s.connection_id⟩

def timeout (s : Sender) (ms : ℕ) (token : Token) : Command :=
  ⟨s.token, .Timeout ms token, s.connection_id⟩

def cancel (s : Sender) (timeout : TimerHandle) : Command :=
  ⟨s.token, .Cancel timeout, s.connection_id⟩

end Sender

/-!
### The channel

A bounded channel of the standard library: commands come out in the order they went in, and whoever
sends one waits until there is room for it.
-/

structure SyncChannel where
  bound : ℕ
  commands : List Command

namespace SyncChannel

def new (bound : ℕ) : SyncChannel := ⟨bound, []⟩

/-- A sender waits while the channel holds as many commands as it can. -/
def send (ch : SyncChannel) (cmd : Command) : Option SyncChannel :=
  if ch.commands.length < ch.bound then some { ch with commands := ch.commands ++ [cmd] }
  else none

def try_recv (ch : SyncChannel) : Option (Command × SyncChannel) :=
  match ch.commands with
  | [] => none
  | cmd :: rest => some (cmd, { ch with commands := rest })

end SyncChannel

end XnetSocket
