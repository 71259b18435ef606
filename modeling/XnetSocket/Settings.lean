import XnetSocket.Result

/-!
The settings of the event loop, with their defaults.
-/

namespace XnetSocket

structure Settings where
  max_connections : ℕ := 100
  queue_size : ℕ := 5
  panic_on_new_connection : Bool := false
  panic_on_shutdown : Bool := false
  in_buffer_capacity : ℕ := 2048
  in_buffer_grow : Bool := true
  out_buffer_capacity : ℕ := 2048
  out_buffer_grow : Bool := true
  panic_on_internal : Bool := true
  panic_on_capacity : Bool := false
  panic_on_protocol : Bool := false
  panic_on_encoding : Bool := false
  panic_on_queue : Bool := false
  panic_on_io : Bool := false
  panic_on_timeout : Bool := false
  shutdown_on_interrupt : Bool := true
  tcp_nodelay : Bool := false

/-- None of the `panic_on_` settings is on. -/
def Settings.Quiet (s : Settings) : Prop :=
  s.panic_on_new_connection = false ∧ s.panic_on_shutdown = false ∧
    s.panic_on_internal = false ∧ s.panic_on_capacity = false ∧ s.panic_on_protocol = false ∧
    s.panic_on_encoding = false ∧ s.panic_on_queue = false ∧ s.panic_on_io = false ∧
    s.panic_on_timeout = false

end XnetSocket
