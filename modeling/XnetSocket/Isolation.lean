import XnetSocket.Lib.Projection
import XnetSocket.Occupancy
import XnetSocket.Panics

/-!
The loop as one connection has it.

Of everything that happens in the loop a connection sees the events of its own socket, the
commands that are taken from the queue and the timeouts that expire. It follows them by steps of
its own, in which no other connection occurs; so what the peers of the others send, how many of
them there are, and when they come and go, makes no difference to it.
-/

namespace XnetSocket.Isolation

open Buffer Runs Connection Lifecycle Evolution Custody Touches Deeds Streams Occupancy DataPath
open Broadcast Joining Upkeep Independence Passage Network Panics

variable {F H : Type}

/-- What a connection shares with the loop: the queue and the timer, but for the timeouts that are
due, which come with the event. -/
structure Share (H : Type) where
  queue : SyncChannel
  timer : Timer
  conn : Option (Connection (Recorded H))

section Steps

variable [Factory F H] [Handler H] [Host] {h h' : Watched F H} {t : Token} {b : ℕ}

/-! ### A step of a connection -/

omit [Factory F H] in
/-- What is done to the connection, while there is one. -/
def on_holder (f : Connection (Recorded H) → Except Panic (Option (Connection (Recorded H)))) :
    Option (Connection (Recorded H)) → Except Panic (Option (Connection (Recorded H)))
  | none => .ok none
  | some c => f c

omit [Factory F H] in
/-- One timeout that is due. -/
def ring (t : Token) (s : Share H) (number : ℕ) : Except Panic (Share H) :=
  match s.timer.find number with
  | none => .ok s
  | some timeout => do
    let conn ← on_holder (fun c =>
      if timeout.connection = t then do
        let c ← Io.Handler.trigger timeout.event c
        .ok (if is_active c then some c else none)
      else .ok (some c)) s.conn
    .ok { s with timer := s.timer.expire number, conn := conn }

end Steps

end XnetSocket.Isolation
