import XnetSocket.Conservation
import XnetSocket.Fallback
import Mathlib.Logic.Equiv.Defs

/-!
Two event loops whose connections are joined by streams.

A connection is named by its side and the number of its handler, and every connection is joined to
one of the other side. What one of them writes is on the way to the other until it is read, in the
same order; the end of the stream is read once nothing is on the way any more and the other
connection is gone.
-/

namespace XnetSocket.Network

open Buffer Runs Connection Lifecycle Evolution Custody Joining Touches Deeds Conservation Fallback

/-! ### What an event makes a connection read and write -/

section Loops

variable {F H : Type}

/-- The chunks a connection reads while an event is handled, and the bytes it writes. -/
structure Traffic where
  birth : ℕ
  reads : List Bytes
  written : Bytes

def Traffic.received (x : Traffic) : Bytes := x.reads.flatten

/-- No bytes came where there was room for some. -/
def Traffic.ends (x : Traffic) : Bool := x.reads.any List.isEmpty

variable [Factory F H] [Handler H] [Host]

/-- Reading and writing, as far as the event and the interest ask for it. -/
def exchange (events : Ready) (c : Connection (Recorded H)) :
    Except Panic (Connection (Recorded H)) :=
  reading events c >>= writing events

/-- What a step makes a connection read and write. -/
def traffic (h : Watched F H) : Io.Step → Option Traffic
  | .input (.event evt) =>
    match (h.supply evt.token evt.answers).connections.get evt.token with
    | some c =>
      match exchange evt.kind c with
      | .ok d => some {
          birth := c.handler.birth
          reads := (d.socket.log.drop c.socket.log.length).map Prod.snd
          written := d.socket.sent.drop c.socket.sent.length }
      | .error _ => none
    | none => none
  | _ => none

omit [Factory F H] in
/-- The traffic is that of the connection the event is for. -/
lemma traffic_slot {h : Watched F H} {s : Io.Step} {x : Traffic} (hx : traffic h s = some x) :
    ∃ evt c, s = .input (.event evt) ∧ h.connections.get evt.token = some c ∧
      x.birth = c.handler.birth := by
  unfold traffic at hx
  split at hx
  · rename_i evt
    split at hx
    · rename_i c0 hc0
      split at hx
      · cases hx
        rcases hc : h.connections.get evt.token with _ | c
        · unfold Io.Handler.supply at hc0
          rw [hc] at hc0
          dsimp only at hc0
          rw [hc] at hc0
          cases hc0
        · rw [supply_slot hc, Option.some.injEq] at hc0
          exact ⟨evt, c, rfl, hc, hc0 ▸ rfl⟩
      · cases hx
    · cases hx
  · cases hx

/-- The handler was made, and no connection in the slab has it. -/
def Gone (h : Watched F H) (k : ℕ) : Prop := k < h.factory.made.length ∧ held h k = 0

instance (h : Watched F H) (k : ℕ) : Decidable (Gone h k) :=
  inferInstanceAs (Decidable (_ ∧ _))

omit [Factory F H] [Handler H] [Host] in
lemma Gone.ne {h : Watched F H} {k : ℕ} (hg : Gone h k) {t : Token} {c : Connection (Recorded H)}
    (hc : h.connections.get t = some c) : c.handler.birth ≠ k := by
  intro hb
  refine List.count_eq_zero.mp hg.2 (List.mem_filterMap.mpr ⟨t, ?_, by rw [hc, ← hb]; rfl⟩)
  exact Slab.mem_keys.mpr (by rw [hc]; rfl)

/-- What is gone stays gone. -/
lemma Gone.step {h h' : Watched F H} {k : ℕ} {s : Io.Step} (hg : Gone h k) (ho : AllOpened h)
    (hs : h.step s = .ok h') : Gone h' k := by
  have hstems := (step_path ho hs).stems (P := fun _ _ => True) (fun _ => trivial)
    (fun _ _ _ _ _ => trivial) ho fun _ _ _ _ _ _ => trivial
  refine ⟨hg.1.trans_le hstems.made, held_eq_zero fun t c' hc' hb => ?_⟩
  rcases hstems.slots t c' hc' with ⟨c, hc, hsame, -⟩ | hnew
  · exact hg.ne hc (hsame ▸ hb)
  · exact absurd hg.1 (Nat.not_lt.mpr (hb ▸ hnew))

end Loops

/-! ### Both sides -/

inductive Side
  | near
  | far
  deriving DecidableEq

def Side.other : Side → Side
  | .near => .far
  | .far => .near

/-- Something for each side. -/
def both {T : Side → Type} (near : T .near) (far : T .far) : ∀ i, T i
  | .near => near
  | .far => far

/-- The number of the connection that the one numbered `k` is joined to. -/
def Side.mate (joined : ℕ ≃ ℕ) : Side → ℕ → ℕ
  | .near, k => joined k
  | .far, k => joined.symm k

structure Net (F H : Side → Type) where
  loops : ∀ i, Watched (F i) (H i)
  /-- What is on the way to a connection. -/
  wire : Side → ℕ → Bytes
  /-- The connections that have read the end of their stream. -/
  ended : Side → ℕ → Bool

namespace Net

variable {F H : Side → Type} [∀ i, Factory (F i) (H i)] [∀ i, Handler (H i)] [Host]
variable (joined : ℕ ≃ ℕ)

/-- The bytes read are taken from the stream, and those written are on their way. -/
def carry (n : Net F H) (i : Side) (x : Traffic) : Net F H :=
  { n with
    wire := fun j k =>
      if j = i then if k = x.birth then (n.wire j k).drop x.received.length else n.wire j k
      else if k = i.mate joined x.birth then n.wire j k ++ x.written else n.wire j k
    ended := fun j k => n.ended j k || (j = i && k = x.birth && x.ends) }

/-- One side takes a step. -/
def step (n : Net F H) (l : Side × Io.Step) : Except Panic (Net F H) := do
  let h ← (n.loops l.1).step l.2
  let n' := (traffic (n.loops l.1) l.2).elim n (n.carry joined l.1)
  .ok { n' with loops := Function.update n.loops l.1 h }

/-- The streams are reliable: a connection reads what is on the way to it, and the end of the
stream only when nothing is on the way and the other connection is gone. -/
def Reliable (n : Net F H) (l : Side × Io.Step) : Prop :=
  ∀ x ∈ traffic (n.loops l.1) l.2, x.received <+: n.wire l.1 x.birth ∧
    (x.ends = true → x.received = n.wire l.1 x.birth ∧
      Gone (n.loops l.1.other) (l.1.mate joined x.birth))

/-- Both loops start, with nothing on the way. -/
def start (inner : ∀ i, F i) (settings : Side → Settings) (addr : Side → Option SocketAddr) :
    Except Panic (Net F H) := do
  let near ← Io.Handler.started (H := Recorded (H .near)) (Ledger.blank (inner .near))
    (settings .near) (addr .near)
  let far ← Io.Handler.started (H := Recorded (H .far)) (Ledger.blank (inner .far))
    (settings .far) (addr .far)
  .ok ⟨both near far, fun _ _ => [], fun _ _ => false⟩

/-- A connection with nothing left to be written, on the way to it, or of the end of its stream to
be read. -/
structure Rests (n : Net F H) (i : Side) (c : Connection (Recorded (H i))) : Prop where
  sent : c.out_buffer.get_ref.len ≤ c.out_buffer.position
  received : n.wire i c.handler.birth = []
  ended : Gone (n.loops i.other) (i.mate joined c.handler.birth) → n.ended i c.handler.birth = true

/-- No command is queued, no timeout is set, and all connections rest. -/
structure Quiescent (n : Net F H) : Prop where
  commands : ∀ i, (n.loops i).queue.commands = []
  timeouts : ∀ i, (n.loops i).timer.pending = []
  rests : ∀ i t c, (n.loops i).connections.get t = some c → n.Rests joined i c

instance (n : Net F H) (i : Side) (c : Connection (Recorded (H i))) :
    Decidable (n.Rests joined i c) :=
  decidable_of_iff (c.out_buffer.get_ref.len ≤ c.out_buffer.position ∧
      n.wire i c.handler.birth = [] ∧
      (Gone (n.loops i.other) (i.mate joined c.handler.birth) → n.ended i c.handler.birth = true))
    ⟨fun h => ⟨h.1, h.2.1, h.2.2⟩, fun h => ⟨h.sent, h.received, h.ended⟩⟩

instance (n : Net F H) : Decidable (n.Quiescent joined) :=
  decidable_of_iff (∀ i ∈ [Side.near, .far], (n.loops i).queue.commands = [] ∧
      (n.loops i).timer.pending = [] ∧ ∀ t ∈ (n.loops i).connections.keys,
        ∀ c ∈ (n.loops i).connections.get t, n.Rests joined i c) (by
    have hmem : ∀ i, i ∈ [Side.near, .far] := fun i => by cases i <;> decide
    constructor
    · intro h
      refine ⟨fun i => (h i (hmem i)).1, fun i => (h i (hmem i)).2.1, fun i t c hc => ?_⟩
      exact (h i (hmem i)).2.2 t (Slab.mem_keys.mpr (by rw [hc]; rfl)) c hc
    · intro h i _
      exact ⟨h.commands i, h.timeouts i, fun t _ c hc => h.rests i t c hc⟩)

instance decidableReliable (n : Net F H) (l : Side × Io.Step) :
    Decidable (n.Reliable joined l) :=
  inferInstanceAs (Decidable (∀ x ∈ traffic _ _, _ <+: _ ∧ (_ → _ ∧ Gone _ _)))

variable {joined : ℕ ≃ ℕ} {n n' : Net F H} {l : Side × Io.Step}

/-! ### Steps and runs -/

/-- What a step does to the loops. -/
lemma step_loops (hs : n.step joined l = .ok n') :
    (n.loops l.1).step l.2 = .ok (n'.loops l.1) ∧ ∀ i, i ≠ l.1 → n'.loops i = n.loops i := by
  obtain ⟨h, hh, hs⟩ := bind_eq_ok.mp hs
  cases hs
  refine ⟨?_, fun i hi => Function.update_of_ne hi _ _⟩
  have hsame : Function.update n.loops l.1 h l.1 = h := Function.update_self ..
  rw [hh]
  exact congrArg Except.ok hsame.symm

/-- The end of a stream is read only by the traffic of the step. -/
lemma step_ended {i : Side} {k : ℕ} (hs : n.step joined l = .ok n') (he : n'.ended i k = true) :
    n.ended i k = true ∨ i = l.1 ∧ ∃ x, traffic (n.loops l.1) l.2 = some x ∧ x.birth = k ∧
      x.ends = true := by
  obtain ⟨h, hh, hs⟩ := bind_eq_ok.mp hs
  cases hs
  rcases hx : traffic (n.loops l.1) l.2 with _ | x <;> rw [hx] at he
  · exact Or.inl he
  · rcases Bool.or_eq_true_iff.mp he with he | he
    · exact Or.inl he
    · obtain ⟨hik, hends⟩ := Bool.and_eq_true_iff.mp he
      obtain ⟨hi, hk⟩ := Bool.and_eq_true_iff.mp hik
      exact Or.inr ⟨of_decide_eq_true hi, x, rfl, (of_decide_eq_true hk).symm, hends⟩

/-- The loops are sound, and their connections opened. -/
def Healthy (n : Net F H) : Prop := ∀ i, Sound (n.loops i) ∧ AllOpened (n.loops i)

lemma step_healthy (hh : n.Healthy) (hs : n.step joined l = .ok n') : n'.Healthy := by
  obtain ⟨hstep, hrest⟩ := step_loops hs
  intro i
  by_cases hi : i = l.1
  · subst hi
    exact ⟨step_sound (hh l.1).1 hstep, (step_path (hh l.1).2 hstep).opened (hh l.1).2⟩
  · rw [hrest i hi]
    exact hh i

omit [∀ i, Factory (F i) (H i)] [∀ i, Handler (H i)] in
lemma start_healthy {inner : ∀ i, F i} {settings : Side → Settings}
    {addr : Side → Option SocketAddr} (hs : start inner settings addr = .ok n) : n.Healthy := by
  obtain ⟨near, hnear, hs⟩ := bind_eq_ok.mp hs
  obtain ⟨far, hfar, hs⟩ := bind_eq_ok.mp hs
  cases hs
  intro i
  cases i with
  | near => exact ⟨started_sound hnear, started_opened hnear⟩
  | far => exact ⟨started_sound hfar, started_opened hfar⟩

lemma run_healthy {ls : List (Side × Io.Step)} (hh : n.Healthy)
    (hr : run (Net.step joined) n ls = .ok n') : n'.Healthy :=
  run_inv_true (fun _ _ _ hg hs => step_healthy hg hs) hh hr

end Net

end XnetSocket.Network
