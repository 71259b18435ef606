import XnetSocket.Draining

/-!
What is queued at one side arrives at the other.

What waits in the queue of one loop is handed to the connection it is for, is then written by it,
and goes into the stream to the connection it is joined to, whose handler is told of it. How many
events of the queue and of the socket that takes is known beforehand, whatever else the two loops
do.
-/

namespace XnetSocket.Arrival

open Buffer Runs Connection Lifecycle Custody Chunking Lingering Interest Streams Delivery
open Touches Deeds Network Closing Passage Independence Draining
open Queueing (serves_queue)

section Nets

variable {F H : Side → Type} [∀ i, Factory (F i) (H i)] [∀ i, Handler (H i)] [Host]
variable {joined : ℕ ≃ ℕ} {i j : Side}

/-- **What is queued arrives.** Over a reliable stream, and when the poll of the side that speaks
watches every accepted peer, what is to be heard of a connection in some state, what it has yet to
write and what waits in its queue for it, has been told to the handler of the connection it is
joined to, or is on the way there, once the queue has had as many events as there were commands in
it, with the one that speaks still open, and then its socket has been found ready as often as there
were bytes to write, with the one that speaks still there and the one that hears still open. -/
theorem queued_arrives {inner : ∀ i, F i} {settings : Side → Settings}
    {addr : Side → Option SocketAddr} {n₀ n n₁ n₂ : Net F H}
    {front mid back : List (Side × Io.Step)} (h₀ : Net.start inner settings addr = .ok n₀)
    (hf : run (Net.step joined) n₀ front = .ok n) (hm : run (Net.step joined) n mid = .ok n₁)
    (hr : run (Net.step joined) n₁ back = .ok n₂)
    (hrel : Along (Net.step joined) (Net.Reliable joined) n (mid ++ back))
    (ha : Along Io.Handler.step Admits (n₀.loops j)
      ((front ++ (mid ++ back)).filterMap (step_of j))) (hij : i ≠ j) {t u u₁ t₂ u₂ : Token}
    {c c₂ : Connection (Recorded (H i))} {d d₁ d₂ : Connection (Recorded (H j))}
    (hc : (n.loops i).connections.get t = some c) (hd : (n.loops j).connections.get u = some d)
    (hmate : d.handler.birth = i.mate joined c.handler.birth)
    (hd₁ : (n₁.loops j).connections.get u₁ = some d₁) (hbd₁ : d₁.handler.birth = d.handler.birth)
    (hod : d₁.state = .Open) (hd₂ : (n₂.loops j).connections.get u₂ = some d₂)
    (hbd₂ : d₂.handler.birth = d.handler.birth) (hc₂ : (n₂.loops i).connections.get t₂ = some c₂)
    (hbc₂ : c₂.handler.birth = c.handler.birth) (hoc : c₂.state = .Open)
    (hq : (n.loops j).queue.commands.length ≤ (mid.filterMap (step_of j)).countP serves_queue)
    (hp : d.out_buffer.bytes.length + (waiting (sender d) (n.loops j)).length ≤
      (back.filterMap (step_of j)).countP (pushes u)) :
    delivered c.handler.calls ++ c.in_buffer.bytes ++ n.wire i c.handler.birth ++
        d.out_buffer.bytes ++ waiting (sender d) (n.loops j) <+:
      delivered c₂.handler.calls ++ c₂.in_buffer.bytes ++ n₂.wire i c.handler.birth := by
  have hn : Sturdy n := run_sturdy h₀ hf
  -- the side that speaks writes it
  rw [List.filterMap_append, List.filterMap_append] at ha
  obtain ⟨hfront, hrest⟩ := along_append.mp ha
  have hrun := run_loops hf j
  have hstart := start_loops h₀ j
  have hall := run_matched (started_opened hstart) (started_matched hstart) hfront hrun
  have hwritten := run_written (hn j).1 (hn j).2 hall (hrest _ hrun) (run_loops hm j)
    (run_loops hr j) hd hd₁ hbd₁ hod hd₂ hbd₂ hq hp
  -- and what is written passes through the stream
  obtain ⟨given, hpassed⟩ := run_passed hij hmate hn hrel (run_append.mpr ⟨n₁, hm, hr⟩) hc hd
  obtain ⟨-, -, hsent⟩ := hpassed.speaks u₂ d₂ hd₂ hbd₂
  have hheard : delivered c₂.handler.calls ++ c₂.in_buffer.bytes ++ n₂.wire i c.handler.birth =
      delivered c.handler.calls ++ c.in_buffer.bytes ++ n.wire i c.handler.birth ++ given :=
    (hpassed.hears t₂ c₂ hc₂ hbc₂ hoc).2
  rw [hsent, List.append_assoc, List.prefix_append_right_inj] at hwritten
  rw [hheard, List.append_assoc _ d.out_buffer.bytes]
  exact (List.prefix_append_right_inj _).mpr hwritten

end Nets

/-- The client has two bytes to send. -/
def has_to_say : List (Side × Io.Step) :=
  connects ++ [(.far, .post (Sender.send ⟨0, 0⟩ (.text "hi")))]

/-- Its socket takes one of them at a time, and the server reads the first. -/
def one_by_one : List (Side × Io.Step) :=
  [(.far, .on 0 writable { writes := [.ok 1] }), (.near, .on 0 readable { reads := [.ok [104]] }),
    (.far, .on 0 writable { writes := [.ok 1] })]

/-- Of the first connections: what that of the server has told and what is on the way to it, and
what that of the client has to write and what waits for it. -/
def FirstTwo (n : Line) (near : ℕ × Bool × Bytes × Bytes) (far : ℕ × Bool × ℕ × Bytes) : Prop :=
  first_slot n .near = some near ∧ First (n.loops .far) far

instance (n : Line) (near : ℕ × Bool × Bytes × Bytes) (far : ℕ × Bool × ℕ × Bytes) :
    Decidable (FirstTwo n near far) :=
  inferInstanceAs (Decidable (_ ∧ _))

theorem queued_arrives_one_by_one :
    ∃ (n₀ n n₂ : Line) (c c₂ d : Connection (Recorded M)), line = .ok n₀ ∧
      run line_step n₀ has_to_say = .ok n ∧
      run line_step n ((.far, takes_command) :: one_by_one) = .ok n₂ ∧
      (n.loops .near).connections.get 0 = some c ∧ (n.loops .far).connections.get 0 = some d ∧
      (n₂.loops .near).connections.get 0 = some c₂ ∧
      waiting (sender d) (n.loops .far) = [104, 105] ∧
      delivered c₂.handler.calls = [104] ∧ n₂.wire .near 0 = [105] ∧
      delivered c.handler.calls ++ c.in_buffer.bytes ++ n.wire .near c.handler.birth ++
          d.out_buffer.bytes ++ waiting (sender d) (n.loops .far) <+:
        delivered c₂.handler.calls ++ c₂.in_buffer.bytes ++ n₂.wire .near c.handler.birth := by
  have hrun : Returns line fun n₀ => Returns (run line_step n₀ has_to_say) fun n =>
      (Along line_step line_reliable n ([(.far, takes_command)] ++ one_by_one) ∧
        FirstTwo n (0, true, [], []) (0, true, 0, [104, 105]) ∧
        (n.loops .far).queue.commands.length = 1) ∧
      Returns (run line_step n [(.far, takes_command)]) fun n₁ =>
        First (n₁.loops .far) (0, true, 2, []) ∧
        Returns (run line_step n₁ one_by_one) fun n₂ =>
          (n₂.loops .far).poll.refused = (n₀.loops .far).poll.refused ∧
          FirstTwo n₂ (0, true, [104], [105]) (0, true, 0, []) := by
    decide +kernel
  obtain ⟨n₀, h₀, n, hf, ⟨hrel, ⟨hc, hd⟩, hone⟩, n₁, hm, hd₁, n₂, hr, hrefused, hc₂, hd₂⟩ := hrun
  obtain ⟨c, hc, hsc⟩ := Option.map_eq_some_iff.mp hc
  obtain ⟨d, hd, hsd⟩ := Option.map_eq_some_iff.mp hd
  obtain ⟨d₁, hd₁, hsd₁⟩ := Option.map_eq_some_iff.mp hd₁
  obtain ⟨c₂, hc₂, hsc₂⟩ := Option.map_eq_some_iff.mp hc₂
  obtain ⟨d₂, hd₂, hsd₂⟩ := Option.map_eq_some_iff.mp hd₂
  simp only [Prod.mk.injEq] at hsc hsd hsd₁ hsc₂ hsd₂
  obtain ⟨hbd, -, hlen, hwait⟩ := hsd
  have hrest : run line_step n ([(.far, takes_command)] ++ one_by_one) = .ok n₂ :=
    run_append.mpr ⟨n₁, hm, hr⟩
  have hall : run line_step n₀ (has_to_say ++ ([(.far, takes_command)] ++ one_by_one)) = .ok n₂ :=
    run_append.mpr ⟨n, hf, hrest⟩
  have ha := @along_admits _ _ _ _ plain _ _ _ (@started_opened _ _ plain _ _ _ _
      (@start_loops _ _ plain _ _ _ _ h₀ .far))
    (@run_loops _ _ _ _ plain (.refl ℕ) n₀ n₂ _ hall .far) hrefused
  have harrived := @queued_arrives _ _ _ _ plain (.refl ℕ) .near .far _ _ _ n₀ n n₁ n₂ _ _ _
    h₀ hf hm hr hrel ha (by decide) 0 0 0 0 0 c c₂ d d₁ d₂ hc hd (by rw [hbd, hsc.1]; rfl) hd₁
    (hsd₁.1.trans hbd.symm) (is_open_iff.mp hsd₁.2.1) hd₂ (hsd₂.1.trans hbd.symm) hc₂
    (hsc₂.1.trans hsc.1.symm) (is_open_iff.mp hsc₂.2.1) (by rw [hone]; decide)
    (by rw [hlen, hwait]; decide)
  exact ⟨n₀, n, n₂, c, c₂, d, h₀, hf, hrest, hc, hd, hc₂, hwait, hsc₂.2.2.1, hsc₂.2.2.2, harrived⟩

end XnetSocket.Arrival
