import XnetSocket.Message
import XnetSocket.Mio

/-!
The callbacks a connection makes.
-/

namespace XnetSocket

/-- A handler of one connection. Every callback may change it; the fallible ones may return
any error. -/
class Handler (H : Type) where
  on_shutdown : H → H := id
  on_message : H → Message → H × Result Unit
  on_close : H → CloseCode → String → H := fun h _ _ => h
  on_error : H → Error → H := fun h _ => h
  on_timeout : H → Token → H × Result Unit := fun h _ => (h, .ok ())
  on_new_timeout : H → Token → TimerHandle → H × Result Unit := fun h _ _ => (h, .ok ())

/-- A function of the message is a handler that only answers messages. -/
instance : Handler (Message → Result Unit) where
  on_message f msg := (f, f msg)

/-- The handler of the tests, which is content with every message. -/
structure M where
  deriving DecidableEq

instance : Handler M where
  on_message h _ := (h, .ok ())

end XnetSocket
