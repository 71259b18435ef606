import XnetSocket.Communication
import XnetSocket.Record

/-!
Factories, which make a handler for every connection, and the ledger of what a factory did.

As with the record of a handler, the ledger is how the factory is observed: it numbers the
handlers in the order they are made, with the sender each was given, and keeps the handlers
that are passed back when their connection is lost.
-/

namespace XnetSocket

class Factory (F : Type) (H : outParam Type) where
  connection_made : F → Sender → F × H
  client_connected : F → Sender → F × H := connection_made
  server_connected : F → Sender → F × H := connection_made
  connection_lost : F → H → F := fun f _ => f
  on_shutdown : F → F := id

/-- A function of the sender is a factory that only makes handlers. -/
instance {H : Type} : Factory (Sender → H) H where
  connection_made f out := (f, f out)

/-- A factory with the account of what was asked of it. -/
structure Ledger (F H : Type) where
  inner : F
  made : List Sender
  lost : List (Recorded H)
  shutdowns : ℕ

namespace Ledger

variable {F H : Type}

/-- The ledger nothing has been entered in. -/
def blank (inner : F) : Ledger F H := ⟨inner, [], [], 0⟩

/-- Enter a new handler. -/
def enter (l : Ledger F H) (sender : Sender) (made : F × H) : Ledger F H × Recorded H :=
  ({ l with inner := made.1, made := l.made ++ [sender] }, ⟨made.2, l.made.length, []⟩)

instance [Factory F H] : Factory (Ledger F H) (Recorded H) where
  connection_made l sender := l.enter sender (Factory.connection_made l.inner sender)
  client_connected l sender := l.enter sender (Factory.client_connected l.inner sender)
  server_connected l sender := l.enter sender (Factory.server_connected l.inner sender)
  connection_lost l handler :=
    { l with inner := Factory.connection_lost l.inner handler.inner, lost := l.lost ++ [handler] }
  on_shutdown l := { l with inner := Factory.on_shutdown l.inner, shutdowns := l.shutdowns + 1 }

end Ledger

end XnetSocket
