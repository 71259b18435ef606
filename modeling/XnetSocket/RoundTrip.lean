import XnetSocket.Lib.Projection
import XnetSocket.Echo

/-!
There and back again.

A client is joined by reliable streams to a server that sends back what it is told. What the client
sends passes through its output, the stream to the server, the input of the server, the queue of the
server, its output, and the stream back to the input of the client. All this is one ring: whatever
the two loops do, and however their steps are mixed, what the client's handler is told is what the
client has sent, in order, each byte once, but for what is still on its way round.
-/

namespace XnetSocket.RoundTrip

open Buffer Runs Connection Lifecycle Custody Closing Outbound Chunking Phantom Streams Delivery
open Network Passage Echo

section Nets

variable {F H : Side → Type} [∀ i, Factory (F i) (H i)] [∀ i, Handler (H i)] [Host]
variable {joined : ℕ ≃ ℕ} {n n' : Net F H}

/-! ### The server answers -/

/-- A step of either side, with what the server, which is near, sends back in it. -/
def turns (n : Net F H) : Side × Io.Step → List (Side × Io.Step)
  | (.near, s) => (answered (n.loops .near) s).map (Prod.mk .near)
  | (.far, s) => [(.far, s)]

def advance (joined : ℕ ≃ ℕ) (n : Net F H) (l : Side × Io.Step) : Except Panic (Net F H) :=
  run (Net.step joined) n (turns n l)

lemma advance_eq (n : Net F H) (l : Side × Io.Step) :
    advance joined n l = run (Net.step joined) n (turns n l) := rfl

/-- The streams are reliable, and there is room in the queue of the server for what it sends back,
which is all that is sent there. -/
def Allowed (joined : ℕ ≃ ℕ) (n : Net F H) (l : Side × Io.Step) : Prop :=
  Along (Net.step joined) (Net.Reliable joined) n (turns n l) ∧
    (l.1 = .near → Fits (n.loops .near) l.2)

instance decidableAllowed (n : Net F H) (l : Side × Io.Step) : Decidable (Allowed joined n l) :=
  inferInstanceAs (Decidable (Along _ _ _ _ ∧ (_ → _)))

/-- The steps of one side make a run of its loop, and leave the other side alone. -/
lemma run_side {i : Side} {steps : List Io.Step}
    (hr : run (Net.step joined) n (steps.map (Prod.mk i)) = .ok n') :
    run Io.Handler.step (n.loops i) steps = .ok (n'.loops i) ∧
      ∀ j, j ≠ i → n'.loops j = n.loops j := by
  induction steps generalizing n with
  | nil =>
    cases hr
    exact ⟨rfl, fun _ _ => rfl⟩
  | cons s steps ih =>
    obtain ⟨m, hm, hr⟩ := run_cons.mp hr
    obtain ⟨hstep, hrest⟩ := Net.step_loops hm
    obtain ⟨hsteps, hothers⟩ := ih hr
    exact ⟨run_cons.mpr ⟨m.loops i, hstep, hsteps⟩, fun j hj => (hothers j hj).trans (hrest j hj)⟩

/-- **The server of a run** takes its own steps, and sends back what it is told. -/
lemma run_near {ls : List (Side × Io.Step)} (hr : run (advance joined) n ls = .ok n')
    (hG : Along (advance joined) (Allowed joined) n ls) :
    run echo (n.loops .near) (ls.filterMap (step_of .near)) = .ok (n'.loops .near) ∧
      Along echo Fits (n.loops .near) (ls.filterMap (step_of .near)) := by
  refine run_image (fun n : Net F H => n.loops .near) (fun n l s n' hl hG hs => ?_)
    (fun n l n' hl hs => ?_) hG hr
  · obtain rfl := step_of_eq_some.mp hl
    exact ⟨(run_side hs).1, hG.2 rfl⟩
  · obtain ⟨i, s⟩ := l
    cases i with
    | near => cases hl
    | far => exact (@run_side _ _ _ _ _ _ _ _ .far [s] hs).2 .near (by decide)

/-- What the commands handled by the client have to say is the same whether the answers of the
server are seen as steps or not. -/
lemma account_turns {ls : List (Side × Io.Step)} (hr : run (advance joined) n ls = .ok n')
    (s : Sender) :
    account (Net.step joined) (posted .far s) n (account (advance joined) turns n ls) =
      account (advance joined) (posted .far s) n ls := by
  rw [account_parts advance_eq hr]
  congr 1
  funext n l
  obtain ⟨i, t⟩ := l
  cases i with
  | near =>
    refine account_eq_nil fun l hl m => ?_
    obtain ⟨t, -, rfl⟩ := List.mem_map.mp hl
    rfl
  | far => exact account_singleton n (Side.far, t)

/-! ### The ring -/

/-- All that is on its way round, from what the handler of the client has been told back to what
the client has yet to write. -/
def ring (n : Net F H) (c : Connection (Recorded (H .near))) (d : Connection (Recorded (H .far))) :
    Bytes :=
  delivered d.handler.calls ++ d.in_buffer.bytes ++ n.wire .far d.handler.birth ++
    c.out_buffer.bytes ++ waiting (sender c) (n.loops .near) ++ c.in_buffer.bytes ++
    n.wire .near c.handler.birth ++ d.out_buffer.bytes

omit [∀ i, Factory (F i) (H i)] [∀ i, Handler (H i)] [Host] in
/-- An open connection has taken one mail only. -/
lemma mail_unique {H : Type} {mail mail' : Bytes} {c c' : Connection H} (h : Posts mail c c')
    (h' : Posts mail' c c') (ho : c'.state = .Open) : mail = mail' := by
  obtain ⟨took, hall, -, hopen, -⟩ := h.took
  obtain ⟨took', hall', -, hopen', -⟩ := h'.took
  rw [← hopen ho, ← hopen' ho]
  exact List.append_cancel_left (hall.symm.trans hall')

omit [∀ i, Factory (F i) (H i)] [∀ i, Handler (H i)] [Host] in
/-- Pipes in a row: what one gives the next one takes. -/
lemma in_a_row {told told' out out' queue queue' inn inn' wire wire' last last' : Bytes}
    {back mail heard there sent : Bytes} (h₁ : told' = told ++ back)
    (h₂ : back ++ out' = out ++ mail) (h₃ : mail ++ queue' = queue ++ heard)
    (h₄ : heard ++ (inn' ++ wire') = inn ++ (wire ++ there)) (h₅ : there ++ last' = last ++ sent) :
    told' ++ out' ++ queue' ++ inn' ++ wire' ++ last' =
      told ++ out ++ queue ++ inn ++ wire ++ last ++ sent := by
  calc told' ++ out' ++ queue' ++ inn' ++ wire' ++ last'
    _ = told ++ (back ++ out') ++ queue' ++ inn' ++ wire' ++ last' := by
        rw [h₁]; simp only [List.append_assoc]
    _ = told ++ out ++ (mail ++ queue') ++ inn' ++ wire' ++ last' := by
        rw [h₂]; simp only [List.append_assoc]
    _ = told ++ out ++ queue ++ (heard ++ (inn' ++ wire')) ++ last' := by
        rw [h₃]; simp only [List.append_assoc]
    _ = told ++ out ++ queue ++ inn ++ wire ++ (there ++ last') := by
        rw [h₄]; simp only [List.append_assoc]
    _ = told ++ out ++ queue ++ inn ++ wire ++ last ++ sent := by
        rw [h₅]; simp only [List.append_assoc]

/-- **There and back.** From any reached state on, as long as the two joined connections are open,
the ring grows by exactly what the client sends: the messages for its connection that its loop
handles, in order. So what its handler is told is a front part of what was on its way round and what
was sent since. -/
theorem round_trip {inner : ∀ i, F i} {settings : Side → Settings}
    {addr : Side → Option SocketAddr} {n₀ n₁ n₂ : Net F H} {before after : List (Side × Io.Step)}
    (h₀ : Net.start inner settings addr = .ok n₀)
    (h₁ : run (Net.step joined) n₀ before = .ok n₁) (h₂ : run (advance joined) n₁ after = .ok n₂)
    (hG : Along (advance joined) (Allowed joined) n₁ after) {t u t' u' : Token}
    {c c' : Connection (Recorded (H .near))} {d d' : Connection (Recorded (H .far))}
    (hc : (n₁.loops .near).connections.get t = some c)
    (hd : (n₁.loops .far).connections.get u = some d)
    (hmate : d.handler.birth = joined c.handler.birth)
    (hc' : (n₂.loops .near).connections.get t' = some c') (hbc : c'.handler.birth = c.handler.birth)
    (hd' : (n₂.loops .far).connections.get u' = some d') (hbd : d'.handler.birth = d.handler.birth)
    (hoc : c'.state = .Open) (hod : d'.state = .Open) :
    ring n₂ c' d' = ring n₁ c d ++
        account (advance joined) (posted .far (sender d)) n₁ after ∧
      delivered d'.handler.calls <+: ring n₁ c d ++
        account (advance joined) (posted .far (sender d)) n₁ after := by
  have hn₁ : Sturdy n₁ := run_sturdy h₀ h₁
  have hrun := run_parts advance_eq h₂
  have hrel := along_parts advance_eq (Along.mono (fun _ _ h => h.1) hG) h₂
  -- from the client to the handler of the server
  obtain ⟨there, hp⟩ := run_passed (by decide : Side.near ≠ .far) hmate hn₁ hrel hrun hc hd
  obtain ⟨-, hheard⟩ := hp.hears t' c' hc' hbc hoc
  obtain ⟨took, hall, -, htook⟩ := hp.balance hd' hbd
  rw [htook hod, account_turns h₂] at hall
  -- from the output of the server to the handler of the client
  have hmate' : c.handler.birth = Side.far.mate joined d.handler.birth := by
    rw [hmate]
    exact (joined.symm_apply_apply _).symm
  obtain ⟨back, hq⟩ := run_passed (by decide : Side.far ≠ .near) hmate' hn₁ hrel hrun hd hc
  obtain ⟨-, hheard'⟩ := hq.hears u' d' hd' hbd hod
  obtain ⟨took', hall', -, htook'⟩ := hq.balance hc' hbc
  rw [htook' hoc] at hall'
  -- and in between what the handler of the server is told is what it sends back
  obtain ⟨hnear, hfits⟩ := run_near h₂ hG
  obtain ⟨hsound, hbuf⟩ := hn₁ .near
  have hechoed := (run_echoed hsound hbuf hfits hnear).of_birth hsound.numbered.accounted hc hc' hbc
  obtain ⟨-, hsender, ⟨told, mail, htold, hmail, hposts⟩, -⟩ := hechoed
  rw [mail_unique hposts (hq.speaks t' c' hc' hbc).2.1 hoc] at hmail
  have hin : told ++ (c'.in_buffer.bytes ++ n₂.wire .near c.handler.birth) =
      c.in_buffer.bytes ++ (n₁.wire .near c.handler.birth ++ there) := by
    rw [heard, heard, htold] at hheard
    simp only [List.append_assoc] at hheard
    exact List.append_cancel_left hheard
  have hring : ring n₂ c' d' = ring n₁ c d ++
      account (advance joined) (posted .far (sender d)) n₁ after := by
    rw [ring, hsender, hbd, hbc]
    exact in_a_row hheard' hall' hmail hin hall
  refine ⟨hring, hring ▸ ?_⟩
  simp only [ring, List.append_assoc]
  exact List.prefix_append _ _

end Nets

def line_advance (n : Line) (l : Side × Io.Step) : Except Panic Line :=
  @advance _ _ _ _ plain (.refl ℕ) n l

def line_allowed (n : Line) (l : Side × Io.Step) : Prop :=
  @Allowed _ _ _ _ plain (.refl ℕ) n l

instance (n : Line) (l : Side × Io.Step) : Decidable (line_allowed n l) :=
  @decidableAllowed _ _ _ _ plain (.refl ℕ) n l

/-- The client sends two bytes. The server reads one of them and sends it back, the other has only
been told to its handler when the client hears the first. -/
def hears_back : List (Side × Io.Step) :=
  [(.far, .post (Sender.send ⟨0, 0⟩ (.text "hi"))), (.far, takes_command),
    (.far, .on 0 writable { writes := [.ok 2] }), (.near, .on 0 readable { reads := [.ok [104]] }),
    (.near, takes_command), (.near, .on 0 readable { reads := [.ok [105]] }),
    (.near, .on 0 writable { writes := [.ok 1] }), (.far, .on 0 readable { reads := [.ok [104]] })]

theorem round_trip_hears_back :
    ∃ (n₀ n₁ n₂ : Line) (c c' d d' : Connection (Recorded M)), line = .ok n₀ ∧
      run line_step n₀ connects = .ok n₁ ∧ run line_advance n₁ hears_back = .ok n₂ ∧
      (n₁.loops .near).connections.get 0 = some c ∧ (n₁.loops .far).connections.get 0 = some d ∧
      (n₂.loops .near).connections.get 0 = some c' ∧ (n₂.loops .far).connections.get 0 = some d' ∧
      delivered c'.handler.calls = [104, 105] ∧ delivered d'.handler.calls = [104] ∧
      ring n₂ c' d' =
        ring n₁ c d ++ account line_advance (posted .far (sender d)) n₁ hears_back := by
  have hrun : Returns line fun n₀ =>
      Returns (run line_step n₀ connects) fun n₁ =>
        Along line_advance line_allowed n₁ hears_back ∧
        FirstSlots n₁ (0, true, [], []) (0, true, [], []) ∧
        Returns (run line_advance n₁ hears_back) fun n₂ =>
          FirstSlots n₂ (0, true, [104, 105], []) (0, true, [104], []) := by
    decide +kernel
  obtain ⟨n₀, h₀, n₁, h₁, hG, ⟨hc, hd⟩, n₂, h₂, hc', hd'⟩ := hrun
  obtain ⟨c, hc, hsc⟩ := Option.map_eq_some_iff.mp hc
  obtain ⟨d, hd, hsd⟩ := Option.map_eq_some_iff.mp hd
  obtain ⟨c', hc', hsc'⟩ := Option.map_eq_some_iff.mp hc'
  obtain ⟨d', hd', hsd'⟩ := Option.map_eq_some_iff.mp hd'
  simp only [Prod.mk.injEq] at hsc hsd hsc' hsd'
  have hring := @round_trip _ _ _ _ plain (.refl ℕ) _ _ _ n₀ n₁ n₂ _ _ h₀ h₁ h₂ hG 0 0 0 0
    c c' d d' hc hd (by rw [hsd.1, hsc.1]; rfl) hc' (by rw [hsc'.1, hsc.1]) hd'
    (by rw [hsd'.1, hsd.1]) (is_open_iff.mp hsc'.2.1) (is_open_iff.mp hsd'.2.1)
  exact ⟨n₀, n₁, n₂, c, c', d, d', h₀, h₁, h₂, hc, hd, hc', hd', hsc'.2.2.1, hsd'.2.2.1, hring.1⟩

end XnetSocket.RoundTrip
