import XnetSocket.Communication
import XnetSocket.Result

/-!
The timer: what each timeout is to be reported to, kept until it expires or is cancelled.

The timeouts are numbered in the order they are set. When a timeout expires is up to the clock, so
the numbers of those that are due are given from outside; one that is not pending any more is
passed over. The handles that are given out are the host's, and may come back: cancelling goes by
the handle alone.
-/

namespace XnetSocket

def TIMER_CAPACITY : ℕ := 65536

/-- What a timeout is to be reported to. -/
structure Timeout where
  connection : Token
  event : Token
  deriving DecidableEq

/-- A timeout that has been set. -/
structure Entry where
  number : ℕ
  handle : TimerHandle
  timeout : Timeout
  deriving DecidableEq

structure Timer where
  pending : List Entry
  /-- The number of timeouts set so far. -/
  count : ℕ
  /-- The timeouts that are due, in the order they will be given out. -/
  due : List ℕ

namespace Timer

def new : Timer := ⟨[], 0, []⟩

/-- The handles of the pending timeouts. -/
def handles (t : Timer) : List TimerHandle := t.pending.map Entry.handle

/-- The entry of a timeout that is set now. -/
def entry [Host] (t : Timer) (delay : ℕ) (timeout : Timeout) : Entry :=
  ⟨t.count, Host.timer_handle t.count delay t.handles, timeout⟩

def set_timeout [Host] (t : Timer) (delay : ℕ) (timeout : Timeout) :
    Timer × Except TimerError TimerHandle :=
  if Host.timer_full TIMER_CAPACITY t.pending.length then (t, .error .TimerOverflow)
  else ({ t with pending := t.pending ++ [t.entry delay timeout], count := t.count + 1 },
    .ok (t.entry delay timeout).handle)

/-- The pending timeout with the handle is gone. -/
def cancel_timeout (t : Timer) (handle : TimerHandle) : Timer :=
  { t with pending := t.pending.filter fun e => e.handle ≠ handle }

/-- The timeout with the number, if it is pending. -/
def find (t : Timer) (number : ℕ) : Option Timeout :=
  (t.pending.find? fun e => e.number = number).map Entry.timeout

/-- The timeout with the number has been given out. -/
def expire (t : Timer) (number : ℕ) : Timer :=
  { t with pending := t.pending.filter fun e => e.number ≠ number }

/-- No timeout has been set, and perhaps some are gone. -/
structure Drops (t t' : Timer) : Prop where
  pending : t'.pending ⊆ t.pending
  count : t'.count = t.count

lemma Drops.refl (t : Timer) : Drops t t := ⟨List.Subset.refl _, rfl⟩

lemma Drops.trans {t t' t'' : Timer} (h : Drops t t') (h' : Drops t' t'') : Drops t t'' :=
  ⟨List.Subset.trans h'.pending h.pending, h'.count.trans h.count⟩

lemma cancel_drops (t : Timer) (handle : TimerHandle) : Drops t (t.cancel_timeout handle) :=
  ⟨List.filter_subset_self _, rfl⟩

lemma expire_drops (t : Timer) (number : ℕ) : Drops t (t.expire number) :=
  ⟨List.filter_subset_self _, rfl⟩

lemma expire_of_find_none {t : Timer} {number : ℕ} (h : t.find number = none) :
    t.expire number = t := by
  have hall : t.pending.filter (fun e => e.number ≠ number) = t.pending := by
    rw [List.filter_eq_self]
    intro e he
    unfold find at h
    rw [Option.map_eq_none_iff, List.find?_eq_none] at h
    simpa using h e he
  unfold expire
  rw [hall]

section Commands

variable [Host]

/-- What a command with the token does to the timer. -/
def after (t : Timer) (token : Token) : Signal → Timer
  | .Timeout delay event => (t.set_timeout delay ⟨token, event⟩).1
  | .Cancel timeout => t.cancel_timeout timeout
  | _ => t

/-- One more timeout has been set. -/
structure Sets (t t' : Timer) (delay : ℕ) (timeout : Timeout) : Prop where
  pending : t'.pending = t.pending ++ [t.entry delay timeout]
  count : t'.count = t.count + 1

/-- A timeout that is set now gets a handle that no pending one has. -/
lemma entry_fresh (t : Timer) (delay : ℕ) (timeout : Timeout) :
    (t.entry delay timeout).handle ∉ t.handles :=
  Host.timer_handle_fresh _ _ _

/-- A timer that has room takes the timeout. -/
lemma set_timeout_room {t : Timer} (hroom : t.pending.length < TIMER_CAPACITY) (delay : ℕ)
    (timeout : Timeout) : (t.set_timeout delay timeout).2 = .ok (t.entry delay timeout).handle := by
  unfold set_timeout
  rw [if_neg fun hfull => absurd (Host.le_of_timer_full _ _ hfull) (Nat.not_le.mpr hroom)]

/-- A timeout is set, with the handle that is returned, or nothing is. -/
lemma set_timeout_cases (t : Timer) (delay : ℕ) (timeout : Timeout) :
    t.set_timeout delay timeout = (t, .error .TimerOverflow) ∨
      Sets t (t.set_timeout delay timeout).1 delay timeout ∧
        (t.set_timeout delay timeout).2 = .ok (t.entry delay timeout).handle := by
  unfold set_timeout
  split
  · exact Or.inl rfl
  · exact Or.inr ⟨⟨rfl, rfl⟩, rfl⟩

/-- A command sets a timeout, or sets none. -/
lemma after_cases (t : Timer) (token : Token) (signal : Signal) :
    Drops t (t.after token signal) ∨
      ∃ delay event, signal = .Timeout delay event ∧
        Sets t (t.after token signal) delay ⟨token, event⟩ := by
  cases signal with
  | Timeout delay event =>
    rcases set_timeout_cases t delay ⟨token, event⟩ with hfull | ⟨hset, -⟩
    · simp only [after, hfull]
      exact Or.inl (.refl t)
    · exact Or.inr ⟨delay, event, rfl, hset⟩
  | Cancel timeout => exact Or.inl (cancel_drops t timeout)
  | Message msg => exact Or.inl (.refl t)
  | Close code reason => exact Or.inl (.refl t)
  | Connect url => exact Or.inl (.refl t)
  | Shutdown => exact Or.inl (.refl t)

end Commands

end Timer

end XnetSocket
