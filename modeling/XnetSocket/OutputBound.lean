import XnetSocket.Outbound
import XnetSocket.Lifecycle

/-!
How much output a buffer that may not grow takes.

Making room checks whether the buffer is full once what was written is dropped, not whether the
message fits in what is left; a message that does not fit is taken all the same, and the vector
grows behind the settings. So the bound holds as long as every message either fits into a buffer
that is not full, or meets a full one and is refused.
-/

namespace XnetSocket.OutputBound

open Buffer Runs Connection Lifecycle Outbound

variable {H : Type}

/-- The number of bytes that wait to be written. -/
def pending (c : Connection H) : ℕ := c.out_buffer.bytes.length

/-- The connection refuses for want of room. -/
def at_capacity : Result Unit → Bool
  | .error err => err.kind = .Capacity
  | .ok () => false

/-- What a message meets: a buffer with room for it, or a full buffer, which refuses it. -/
def Suits (c : Connection H) (call : Call) : Prop :=
  ∀ msg, call = .send_message msg → c.state = .Open →
    pending c < c.settings.out_buffer_capacity ∧
        pending c + msg.into_data.length ≤ c.settings.out_buffer_capacity ∨
      pending c = c.settings.out_buffer_capacity ∧ 0 < msg.into_data.length

section Sending

/-- A buffer that may not grow, and has not. -/
structure Fixed (c : Connection H) : Prop where
  opened : Opened c
  inBounds : c.out_buffer.InBounds
  grow : c.settings.out_buffer_grow = false
  capacity : c.out_buffer.inner.capacity = c.settings.out_buffer_capacity

lemma Fixed.pending_le {c : Connection H} (hc : Fixed c) :
    pending c ≤ c.settings.out_buffer_capacity := by
  have hle := c.out_buffer.inner.length_le
  rw [hc.capacity] at hle
  unfold pending
  rw [Cursor.bytes_length]
  omega

variable [Growth]

/-- Making room in a buffer that has not grown: a full one refuses. -/
lemma check_buffer_out_fixed {c : Connection H} (hc : Fixed c) (frame : Bytes) :
    if pending c = c.settings.out_buffer_capacity then
      ∃ err, c.check_buffer_out frame = .ok (c, .error err) ∧ err.kind = .Capacity
    else ∃ out, c.check_buffer_out frame = .ok ({ c with out_buffer := out }, .ok ()) ∧
      out.InBounds ∧ out.bytes = c.out_buffer.bytes ∧
      out.inner.capacity = c.settings.out_buffer_capacity ∧
      (pending c + frame.length ≤ c.settings.out_buffer_capacity →
        out.inner.data.length + frame.length ≤ out.inner.capacity) := by
  have hs : slice_from c.out_buffer.get_ref.data c.out_buffer.position =
      .ok c.out_buffer.bytes := if_pos hc.inBounds
  have hcap : c.out_buffer.get_ref.capacity = c.settings.out_buffer_capacity := hc.capacity
  have hlen := Cursor.bytes_length c.out_buffer
  have hle := c.out_buffer.inner.length_le
  have hfit : c.out_buffer.bytes.length ≤ c.settings.out_buffer_capacity := hc.pending_le
  have hnew : ((Vec.with_capacity c.settings.out_buffer_capacity).extend
      c.out_buffer.bytes).capacity = c.settings.out_buffer_capacity :=
    Vec.extend_capacity (by simpa [Vec.with_capacity] using hfit)
  have hnewlen : ((Vec.with_capacity c.settings.out_buffer_capacity).extend
      c.out_buffer.bytes).len = pending c := by
    simp [Vec.len, Vec.with_capacity, pending]
  unfold check_buffer_out
  rw [hs, ok_bind, hcap]
  dsimp only
  rw [hnew, hnewlen]
  split
  · rename_i hfull
    rw [hc.capacity] at hle
    have hroom : c.settings.out_buffer_capacity ≤ c.out_buffer.get_ref.len + frame.length := by
      have : c.out_buffer.get_ref.len = c.out_buffer.inner.data.length := rfl
      unfold pending at hfull
      omega
    rw [if_pos hroom, if_neg (by simp [hc.grow])]
    exact ⟨_, rfl, rfl⟩
  · split
    · refine ⟨_, rfl, Cursor.new_inBounds _, ?_, hnew, fun h => ?_⟩
      · simp [Vec.with_capacity]
      · rw [show (Cursor.new ((Vec.with_capacity c.settings.out_buffer_capacity).extend
          c.out_buffer.bytes)).inner.capacity = _ from hnew]
        exact le_trans (le_of_eq (congrArg (· + frame.length) hnewlen)) h
    · rename_i hroom
      refine ⟨c.out_buffer, rfl, hc.inBounds, rfl, hc.capacity, fun _ => ?_⟩
      rw [hc.capacity]
      exact le_of_lt (Nat.not_le.mp hroom)

/-- **What an open connection does with a message.** A full buffer refuses it; any other takes it,
and grows unless it fits. -/
lemma send_message_fixed {c : Connection H} (hc : Fixed c) (hopen : c.state = .Open)
    (msg : Message) :
    if pending c = c.settings.out_buffer_capacity then
      ∃ err, c.send_message msg = .ok (c, .error err) ∧ err.kind = .Capacity
    else ∃ c', c.send_message msg = .ok (c', .ok ()) ∧
      pending c' = pending c + msg.into_data.length ∧ c'.settings = c.settings ∧
      (pending c + msg.into_data.length ≤ c.settings.out_buffer_capacity → Fixed c') := by
  have hroom := check_buffer_out_fixed hc msg.into_data
  have hcl : c.state.is_closing = false := by rw [hopen]; rfl
  simp only [send_message, hcl, Bool.false_eq_true, if_false]
  split at hroom
  · rename_i hfull
    obtain ⟨err, hb, hk⟩ := hroom
    rw [if_pos hfull]
    exact ⟨err, by rw [hb, ok_bind], hk⟩
  · rename_i hfull
    obtain ⟨out, hb, hin, hbytes, hcap, hfit⟩ := hroom
    rw [if_neg hfull, hb, ok_bind]
    have hcalm := check_events_calm ({ c with
      out_buffer := (out.seek_end.write msg.into_data).seek_start out.position })
    have hout : ((out.seek_end.write msg.into_data).seek_start out.position).bytes =
        c.out_buffer.bytes ++ msg.into_data := by
      have := Cursor.append_bytes hin msg.into_data
      rw [hbytes] at this
      exact this
    refine ⟨_, rfl, ?_, hcalm.settings, fun hle => ⟨?_, ?_, ?_, ?_⟩⟩
    · unfold pending
      rw [hcalm.out_buffer]
      dsimp only
      rw [hout, List.length_append]
    · exact hc.opened.of_state (check_events_state _)
    · rw [hcalm.out_buffer]
      exact Cursor.append_inBounds hin msg.into_data
    · rw [hcalm.settings]
      exact hc.grow
    · rw [hcalm.out_buffer, hcalm.settings]
      have hinner : ((out.seek_end.write msg.into_data).seek_start out.position).inner =
          out.inner.extend msg.into_data := Cursor.write_seek_end out msg.into_data
      dsimp only
      rw [hinner, Vec.extend_capacity (hfit hle), hcap]

/-- A closing connection ignores messages. -/
lemma send_message_closing {c : Connection H} (hs : c.state = .AwaitingClose) (msg : Message) :
    c.send_message msg = .ok (c, .ok ()) := by
  have hcl : c.state.is_closing = true := by rw [hs]; rfl
  simp [send_message, hcl]

variable [Handler H]

/-- Only sending changes the vector. -/
lemma perform_inner {c c' : Connection H} {call : Call} {res : Result Unit}
    (hsend : ∀ msg, call ≠ .send_message msg) (h : c.perform call = .ok (c', res)) :
    c'.out_buffer.inner = c.out_buffer.inner ∧ c'.settings = c.settings := by
  have hcalm : ∀ {d : Connection H}, Calm c d →
      d.out_buffer.inner = c.out_buffer.inner ∧ d.settings = c.settings :=
    fun hd => ⟨by rw [hd.out_buffer], hd.settings⟩
  cases call with
  | as_server => cases h; exact ⟨rfl, rfl⟩
  | as_client url addrs =>
    simp only [perform, as_client] at h
    split at h <;> cases h <;> exact ⟨rfl, rfl⟩
  | send_message msg => exact absurd rfl (hsend msg)
  | send_close code reason =>
    have hs : c.send_close code reason = .ok (c', res) := h
    exact hcalm (send_close_calm hs)
  | error err =>
    obtain ⟨d, hd, h⟩ := bind_eq_ok.mp h
    cases h
    exact hcalm (error_calm hd)
  | read reads =>
    have hr := read_inward (c := c.with_reads reads) h
    exact ⟨congrArg Cursor.inner hr.out_buffer, hr.settings⟩
  | write answer =>
    obtain ⟨n, hw⟩ := write_writes (c.with_writes [answer])
    simp only [perform, Except.ok.injEq] at h
    rw [h] at hw
    exact ⟨by rw [hw.out_buffer]; rfl, hw.settings⟩
  | shutdown =>
    obtain ⟨d, hd, h⟩ := bind_eq_ok.mp h
    cases h
    exact hcalm (shutdown_calm hd)
  | disconnect => cases h; exact hcalm (disconnect_calm c)
  | new_timeout event timeout => cases h; exact ⟨rfl, rfl⟩
  | timeout_triggered event => cases h; exact ⟨rfl, rfl⟩

lemma perform_fixed {c c' : Connection H} {call : Call} {res : Result Unit} (hc : Fixed c)
    (hsend : ∀ msg, call ≠ .send_message msg) (h : c.perform call = .ok (c', res)) : Fixed c' := by
  obtain ⟨hinner, hset⟩ := perform_inner hsend h
  have hcall : c.call call = .ok c' := by simp only [Connection.call, h, ok_bind]
  refine ⟨call_opened hc.opened hcall, (perform_outbound hc.inBounds h).1, ?_, ?_⟩
  · rw [hset]; exact hc.grow
  · rw [hinner, hset]; exact hc.capacity

/-! ### Runs -/

/-- No more waits to be written than the settings allow; an open connection refuses a message
exactly when that would exceed it, and a refusal leaves alone what waits. -/
def Bounded (c : Connection H) (call : Call) : Prop :=
  ∀ c' res, c.perform call = .ok (c', res) →
    pending c' ≤ c.settings.out_buffer_capacity ∧
      ∀ msg, call = .send_message msg → c.state = .Open →
        (at_capacity res = true ↔
          c.settings.out_buffer_capacity < pending c + msg.into_data.length) ∧
        (at_capacity res = true → c'.out_buffer.bytes = c.out_buffer.bytes)

/-- One call respects the bound exactly when it suits the buffer. -/
theorem bounded_iff {c : Connection H} (hc : Fixed c) (call : Call) :
    Bounded c call ↔ Suits c call := by
  by_cases hsend : ∃ msg, call = .send_message msg
  · obtain ⟨msg, rfl⟩ := hsend
    have hle := hc.pending_le
    rcases hc.opened with hs | hs
    · have hspec := send_message_fixed hc hs msg
      split at hspec
      · rename_i hfull
        obtain ⟨err, hsend, hk⟩ := hspec
        have hcap : at_capacity (.error err) = true := by simp [at_capacity, hk]
        constructor
        · intro hb m hm _
          cases hm
          have := (hb c _ hsend).2 msg rfl hs
          exact Or.inr ⟨hfull, by have := this.1.mp hcap; omega⟩
        · intro hsuits c' res hp
          have hp : c.send_message msg = .ok (c', res) := hp
          rw [hsend] at hp
          cases hp
          refine ⟨hle, fun m hm _ => ?_⟩
          cases hm
          refine ⟨iff_of_true hcap ?_, fun _ => rfl⟩
          rcases hsuits msg rfl hs with h | h <;> omega
      · rename_i hfull
        obtain ⟨d, hsend, hp, -, -⟩ := hspec
        constructor
        · intro hb m hm _
          cases hm
          have := (hb d _ hsend).1
          exact Or.inl ⟨by omega, by omega⟩
        · intro hsuits c' res hperf
          have hperf : c.send_message msg = .ok (c', res) := hperf
          rw [hsend] at hperf
          cases hperf
          have hfit : pending c + msg.into_data.length ≤ c.settings.out_buffer_capacity := by
            rcases hsuits msg rfl hs with h | h <;> omega
          refine ⟨by omega, fun m hm _ => ?_⟩
          cases hm
          exact ⟨iff_of_false (by simp [at_capacity]) (by omega), fun h => by cases h⟩
    · refine iff_of_true (fun c' res hp => ?_) fun m _ ho => by rw [hs] at ho; cases ho
      have hp : c.send_message msg = .ok (c', res) := hp
      rw [send_message_closing hs] at hp
      cases hp
      exact ⟨hle, fun m _ ho => by rw [hs] at ho; cases ho⟩
  · have hno : ∀ msg, call ≠ .send_message msg := fun msg hm => hsend ⟨msg, hm⟩
    refine iff_of_true (fun c' res hp => ?_) fun m hm => absurd hm (hno m)
    have hset := (perform_inner hno hp).2
    have hle := (perform_fixed hc hno hp).pending_le
    rw [hset] at hle
    exact ⟨hle, fun m hm => absurd hm (hno m)⟩

lemma suits_fixed {c c' : Connection H} {call : Call} (hc : Fixed c) (hsuits : Suits c call)
    (h : c.call call = .ok c') : Fixed c' := by
  obtain ⟨⟨d, res⟩, hp, h⟩ := bind_eq_ok.mp h
  cases h
  by_cases hsend : ∃ msg, call = .send_message msg
  · obtain ⟨msg, rfl⟩ := hsend
    have hp : c.send_message msg = .ok (c', res) := hp
    rcases hc.opened with hs | hs
    · have hspec := send_message_fixed hc hs msg
      split at hspec
      · obtain ⟨err, hsend, -⟩ := hspec
        rw [hsend] at hp
        cases hp
        exact hc
      · rename_i hfull
        obtain ⟨d, hsend, -, -, hfixed⟩ := hspec
        rw [hsend] at hp
        cases hp
        exact hfixed (by rcases hsuits msg rfl hs with h | h <;> omega)
    · rw [send_message_closing hs] at hp
      cases hp
      exact hc
  · exact perform_fixed hc (fun msg hm => hsend ⟨msg, hm⟩) hp

/-- **The output bound.** On an opened connection whose output buffer may not grow, every call of a
run respects the bound exactly when every message either fits into a buffer that is not full or is
not empty and meets a full one. -/
theorem output_bound_iff (tok : Token) (handler : H) (settings : Settings) (id : UInt32)
    (hgrow : settings.out_buffer_grow = false) (calls : List Call) :
    Along Connection.call Bounded (opened tok handler settings id) calls ↔
      Along Connection.call Suits (opened tok handler settings id) calls := by
  have hopen : Fixed (opened tok handler settings id) :=
    ⟨open_opened _, Nat.zero_le _, hgrow, rfl⟩
  exact along_congr (fun _ _ _ hc hb hcall => suits_fixed hc ((bounded_iff hc _).mp hb) hcall)
    (fun _ call hc => bounded_iff hc call) hopen

end Sending

/-- Settings with an output buffer of two bytes that may not grow. -/
def two_bytes : Settings := { out_buffer_capacity := 2, out_buffer_grow := false }

/-- A message of three bytes is taken into a buffer of two. -/
theorem three_bytes_taken :
    two_bytes.out_buffer_grow = false ∧
      ¬ @Along _ _ _ (@call M _ amortized) (@Bounded M amortized _) (opened 3 {} two_bytes 7)
        [.send_message (.Binary [1, 2, 3])] := by
  refine ⟨rfl, fun h => ?_⟩
  have hrun : Returns (@perform M _ amortized (opened 3 {} two_bytes 7)
      (.send_message (.Binary [1, 2, 3]))) fun p => pending p.1 = 3 := by decide +kernel
  obtain ⟨⟨c', res⟩, hsend, hp⟩ := hrun
  have := (h.1 c' res hsend).1
  rw [hp] at this
  exact absurd this (by decide)

theorem output_bound_iff_two_bytes :
    @Along _ _ _ (@call M _ amortized) (@Bounded M amortized _) (opened 3 {} two_bytes 7)
        [.send_message (.Binary [1, 2]), .send_message (.Binary [3])] ↔
      @Along _ _ _ (@call M _ amortized) Suits (opened 3 {} two_bytes 7)
        [.send_message (.Binary [1, 2]), .send_message (.Binary [3])] :=
  @output_bound_iff M amortized _ 3 {} two_bytes 7 rfl _

end XnetSocket.OutputBound
