import XnetSocket.Lib.Buffer
import XnetSocket.Result
import Mathlib.Algebra.Group.Nat.Defs
import Mathlib.Logic.Function.Basic

/-!
The parts of the event library the loop is written against: tokens, readiness, the handles of
timeouts, and the table of what is registered with the poll.

Nothing here decides what the operating system answers. A call that asks it something takes
the next of the answers in store, so that every behaviour is the behaviour for some list of
answers. What the libraries themselves leave open is a parameter, with the laws they document.
-/

namespace XnetSocket

open Buffer

abbrev Token := ℕ

/-- The largest value of a machine word. -/
def usize_MAX : ℕ := 2 ^ 64 - 1

/-- The largest size an allocation can have. -/
def isize_MAX : ℕ := 2 ^ 63 - 1

structure Ready where
  readable : Bool
  writable : Bool
  deriving DecidableEq

namespace Ready

def empty : Ready := ⟨false, false⟩

def is_readable (r : Ready) : Bool := r.readable

def is_writable (r : Ready) : Bool := r.writable

def insert (r other : Ready) : Ready :=
  ⟨r.readable || other.readable, r.writable || other.writable⟩

def remove (r other : Ready) : Ready :=
  ⟨r.readable && !other.readable, r.writable && !other.writable⟩

/-- What is ready in both. -/
def and (r other : Ready) : Ready :=
  ⟨r.readable && other.readable, r.writable && other.writable⟩

end Ready

/-- Interest in reading. -/
def readable : Ready := ⟨true, false⟩

/-- Interest in writing. -/
def writable : Ready := ⟨false, true⟩

/-- The handle of a timeout: where the timer keeps it, and the tick it is due at. A handle may
come back once its timeout is gone. -/
structure TimerHandle where
  token : ℕ
  tick : ℕ
  deriving DecidableEq

/-- A socket address. -/
structure SocketAddr where
  addr : String
  deriving DecidableEq

/-- What the libraries leave open. -/
class Host extends Growth where
  /-- The largest channel of commands that can be made. -/
  channel_max : ℕ
  /-- The largest slab of connections that can be made. -/
  slab_max : ℕ
  slab_max_le : slab_max ≤ isize_MAX
  /-- Whether a timer made for so many timeouts takes no more, with so many pending. -/
  timer_full : ℕ → ℕ → Bool
  /-- A timer takes at least as many timeouts as it was made for. -/
  le_of_timer_full : ∀ capacity pending, timer_full capacity pending = true → capacity ≤ pending
  /-- The handle of the next timeout, from how many were set before, its delay and the handles of
  the pending ones. -/
  timer_handle : ℕ → ℕ → List TimerHandle → TimerHandle
  /-- No pending timeout has the handle of another. -/
  timer_handle_fresh : ∀ count delay pending, timer_handle count delay pending ∉ pending

/-- The first place behind the ones that are taken. -/
def next_token (pending : List TimerHandle) : ℕ :=
  pending.foldr (fun handle token => max (handle.token + 1) token) 0

lemma lt_next_token {handle : TimerHandle} {pending : List TimerHandle} (h : handle ∈ pending) :
    handle.token < next_token pending := by
  induction pending with
  | nil => cases h
  | cons other pending ih =>
    unfold next_token at ih ⊢
    rw [List.foldr_cons]
    rcases List.mem_cons.mp h with rfl | h
    · exact lt_of_lt_of_le (Nat.lt_succ_self _) (le_max_left _ _)
    · exact lt_of_lt_of_le (ih h) (le_max_right _ _)

/-- Commands and connections take up to 1024 bytes each, and a timer holds what it was made for. -/
@[reducible] def plain : Host where
  toGrowth := amortized
  channel_max := isize_MAX / 1024
  slab_max := isize_MAX / 1024
  slab_max_le := Nat.div_le_self _ _
  timer_full capacity pending := decide (capacity ≤ pending)
  le_of_timer_full _ _ h := of_decide_eq_true h
  timer_handle _ delay pending := ⟨next_token pending, delay / 100 + 1⟩
  timer_handle_fresh _ _ _ h := absurd (lt_next_token h) (lt_irrefl _)

end XnetSocket
