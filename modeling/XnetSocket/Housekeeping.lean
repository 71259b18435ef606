import XnetSocket.Tidying

/-!
How a whole run keeps the connections in the slab.

While the poll agrees to everything, and the commands report only mild errors to connections they
do not look at afterwards, every step leaves every connection in the slab live. One that wants
nothing any more is gone by the end of the step, and its handler has been passed back.
-/

namespace XnetSocket.Housekeeping

open Buffer Runs Connection Lifecycle Evolution Custody Joining Mildness Occupancy Upkeep Tidying

variable {F H : Type} {strict : Prop}

/-! ### Where nobody leaves -/

/-- The connections stay in their slots. -/
def Stays (h h' : Watched F H) : Prop :=
  ∀ t c, h.connections.get t = some c → ∃ c', h'.connections.get t = some c' ∧ Evolves c c'

lemma Stays.trans {h d h' : Watched F H} (hd : Stays h d) (hh : Stays d h') : Stays h h' := by
  intro t c hc
  obtain ⟨c1, hc1, he1⟩ := hd t c hc
  obtain ⟨c2, hc2, he2⟩ := hh t c1 hc1
  exact ⟨c2, hc2, he1.trans he2⟩

/-- The connections stay, whoever joins them, and the handlers passed back heard nothing. -/
structure Grows (h h' : Watched F H) : Prop where
  stays : Stays h h'
  lost : ∃ new, h'.factory.lost = h.factory.lost ++ new ∧ ∀ x ∈ new, x.calls = []

lemma Grows.of_slots {h h' : Watched F H}
    (hs : ∀ t, h'.connections.get t = h.connections.get t)
    (hl : h'.factory.lost = h.factory.lost) : Grows h h' :=
  ⟨fun t c hc => ⟨c, by rw [hs, hc], .refl c⟩, [], by rw [hl, List.append_nil],
    List.forall_mem_nil _⟩

lemma Grows.trans {h d h' : Watched F H} (hd : Grows h d) (hh : Grows d h') : Grows h h' := by
  obtain ⟨new, hl, hcalls⟩ := hd.lost
  obtain ⟨new', hl', hcalls'⟩ := hh.lost
  exact ⟨hd.stays.trans hh.stays, new ++ new', by rw [hl', hl, List.append_assoc],
    fun x hx => (List.mem_append.mp hx).elim (hcalls x) (hcalls' x)⟩

lemma Steady.grows {h h' : Watched F H} (hs : Steady h h') (hk : Keeps h h') : Grows h h' :=
  ⟨fun _ _ hc => hs.evolves hk hc, [], by rw [hs.lost, List.append_nil], List.forall_mem_nil _⟩

/-- A connection that is put in the vacant slot is in nobody's way. -/
lemma grows_of_insert {h h' : Watched F H} {tok : Token} {c : Connection (Recorded H)}
    (hv : h.connections.vacant_entry = some tok) (hi : h'.connections = h.connections.insert c)
    (hl : h'.factory.lost = h.factory.lost) : Grows h h' := by
  refine ⟨fun t d hd => ⟨d, ?_, .refl d⟩, [], by rw [hl, List.append_nil], List.forall_mem_nil _⟩
  rw [hi, Slab.get_insert hv, if_neg fun e => ?_, hd]
  rw [← e, Slab.get_vacant hv] at hd
  cases hd

lemma Joined.grows {h h' : Watched F H} {tok : Token} {c : Connection (Recorded H)}
    (hj : Joined h h' tok c) : Grows h h' :=
  grows_of_insert hj.vacant hj.slots hj.lost

lemma Unjoined.grows {h h' : Watched F H} (hu : Unjoined h h') : Grows h h' := by
  rcases hu.lost with hl | ⟨handler, hl, hcalls⟩
  · exact .of_slots hu.slots hl
  · refine ⟨fun t c hc => ⟨c, by rw [hu.slots, hc], .refl c⟩, [handler], hl, fun x hx => ?_⟩
    rw [List.mem_singleton.mp hx]
    exact hcalls

section Steps

variable [Factory F H] [Handler H] [Host]

/-- A command removes nobody. -/
lemma handle_queue_grows {h h' : Watched F H} {cmd : Command} (hq : h.handle_queue cmd = .ok h') :
    Grows h h' := by
  have hkept := handle_queue_keeps hq
  unfold Io.Handler.handle_queue at hq
  split at hq
  · cases hq
    exact .of_slots (fun _ => rfl) rfl
  · rcases hcon : connects cmd.signal with _ | _
    · -- no connection comes or goes
      have hs : Steady { h with state := state_after h cmd.signal } h' := by
        split at hq
        · exact handle_broadcast_steady hcon hq
        · exact handle_directed_steady hcon hq
      have hpast : Grows h { h with
          state := state_after h cmd.signal, timer := timer_after h.timer cmd } :=
        .of_slots (fun _ => rfl) rfl
      have hk : Keeps { h with
          state := state_after h cmd.signal, timer := timer_after h.timer cmd } h' :=
        (keeps_with _ h.poll h.state).trans hkept
      exact hpast.trans (Steady.grows ⟨hs.state, hs.vacant, hs.made, hs.lost⟩ hk)
    · -- a request
      rcases hsig : cmd.signal with msg | ⟨code, reason⟩ | url | _ | ⟨delay, event⟩ | timeout <;>
        rw [hsig] at hcon hq <;> try cases hcon
      split at hq
      · obtain ⟨⟨d, res⟩, hc, hq⟩ := bind_eq_ok.mp hq
        have hd : Grows h d := by
          rcases connect_cases hc with ⟨err, -, -, hu⟩ | ⟨-, -, tok, c, hj⟩
          · exact Unjoined.grows hu
          · exact Joined.grows hj
        rcases res with err | u
        · dsimp only at hq
          split at hq <;> cases hq
          exact hd
        · cases hq
          exact hd
      · obtain ⟨⟨d, res⟩, hc, hq⟩ := bind_eq_ok.mp hq
        rcases connect_cases hc with ⟨err, -, rfl, hu⟩ | ⟨-, rfl, tok, c, hj⟩
        · dsimp only at hq
          split at hq
          · exact (Unjoined.grows hu).trans (Steady.grows (error_at_steady hq) (error_at_keeps hq))
          · split at hq <;> cases hq
            exact Unjoined.grows hu
        · cases hq
          exact Joined.grows hj

/-! ### Events -/

omit [Factory F H] [Handler H] [Host] in
/-- What the outside answers is no change to speak of. -/
lemma supply_steady (h : Watched F H) (t : Token) (a : Io.Answers) : Steady h (h.supply t a) := by
  unfold Io.Handler.supply
  rcases hc : h.connections.get t with _ | c
  · exact .of_slots rfl rfl rfl
  · exact ⟨rfl, fun _ => Slab.get_set_none, rfl, rfl⟩

omit [Factory F H] [Handler H] [Host] in
lemma supply_grows (h : Watched F H) (t : Token) (a : Io.Answers) : Grows h (h.supply t a) := by
  have hs := supply_steady h t a
  have hpast : Grows h { h with timer := { h.timer with due := a.due } } :=
    .of_slots (fun _ => rfl) rfl
  exact hpast.trans (Steady.grows ⟨hs.state, hs.vacant, hs.made, hs.lost⟩ (supply_keeps h t a))

omit [Factory F H] [Handler H] [Host] in
lemma supply_parts {h h' : Watched F H} {new : List (Recorded H)} (t : Token) (a : Io.Answers)
    (hp : Parts (h.supply t a) h' new) : Parts h h' new := by
  refine ⟨hp.lost.trans (by rw [(supply_steady h t a).lost]), fun j c hc => ?_⟩
  obtain ⟨c1, hc1, he1⟩ := (supply_grows h t a).stays j c hc
  rcases hp.stays j c1 hc1 with ⟨c2, hc2, he2⟩ | ⟨hn, x, hx, hb, hcalls⟩
  · exact Or.inl ⟨c2, hc2, he1.trans he2⟩
  · exact Or.inr ⟨hn, x, hx, hb.trans he1.birth, he1.calls.trans hcalls⟩

omit [Factory F H] [Handler H] [Host] in
lemma supply_well {h : Watched F H} {t : Token} {a : Io.Answers} (hw : Well strict h)
    (ha : ∀ p ∈ a.polls, p = .ok ()) : Well strict (h.supply t a) := by
  refine ⟨ha, fun j d hd => ?_⟩
  have hgoal : ∀ {d'}, h.connections.get j = some d' → d.token = d'.token → Live d →
      d.events = d'.events → Kept strict (h.supply t a).poll j d := by
    intro d' hd' htok hl hev
    have hk := hw.kept j d' hd'
    exact ⟨htok.trans hk.token, hl, fun hs => by rw [hev]; exact hk.registered hs⟩
  unfold Io.Handler.supply at hd
  rcases hc : h.connections.get t with _ | c <;> simp only [hc] at hd
  · exact hgoal hd rfl (hw.kept j d hd).live rfl
  · by_cases hj : t = j
    · subst hj
      rw [Slab.get_set_self hc, Option.some.injEq] at hd
      subst hd
      have hl := (hw.kept t c hc).live
      exact hgoal hc rfl ⟨⟨hl.faint.opened, hl.faint.quiet⟩, hl.wants⟩ rfl
    · rw [Slab.get_set_ne hj] at hd
      exact hgoal hd rfl (hw.kept j d hd).live rfl

omit [Factory F H] [Handler H] [Host] in
/-- A registration of the loop itself. -/
lemma reregister_queue_well {h : Watched F H} (hs : Sound h) (hw : Well strict h) :
    Well strict { h with poll := (h.poll.reregister QUEUE readable).1 } := by
  have hreg := hw.agrees.register QUEUE readable
  unfold Os.reregister
  rw [hreg]
  refine ⟨hw.agrees.tail _, fun t c hc => ?_⟩
  have hk := hw.kept t c hc
  refine ⟨hk.token, hk.live, fun hstrict => ?_⟩
  have hne : t ≠ QUEUE := by
    have hlt := hs.lt_system (Slab.get_lt_capacity hc)
    exact Nat.ne_of_lt (lt_trans hlt (by decide))
  simp only
  rw [Function.update_of_ne hne]
  exact hk.registered hstrict

/-- What a step makes of the connections: they are kept, and a handler that was passed back was
closed last or heard nothing. -/
structure Ordered (strict : Prop) (h h' : Watched F H) : Prop where
  well : Well strict h'
  parts : ∃ new, Parts h h' new ∧ ∀ x ∈ new, ClosedLast x.calls ∨ x.calls = []

omit [Factory F H] [Handler H] [Host] in
lemma ordered_of_tidied {h h' : Watched F H} (ht : Tidied strict h h') : Ordered strict h h' := by
  obtain ⟨new, hp, hclosed⟩ := ht.parts
  exact ⟨ht.well, new, hp, fun x hx => Or.inl (hclosed x hx)⟩

omit [Factory F H] [Handler H] [Host] in
lemma Grows.ordered {h h' : Watched F H} (hg : Grows h h') (hw : Well strict h') :
    Ordered strict h h' := by
  obtain ⟨new, hl, hcalls⟩ := hg.lost
  exact ⟨hw, new, ⟨hl, fun t c hc => Or.inl (hg.stays t c hc)⟩, fun x hx => Or.inr (hcalls x hx)⟩

omit [Factory F H] [Handler H] [Host] in
lemma Well.with_poll {h : Watched F H} (hw : Well strict h) {os : Os} (hi : Idle h.poll os) :
    Well strict { h with poll := os } := by
  refine ⟨fun p hp => hw.agrees p (by rw [← hi.polls]; exact hp), fun t c hc => ?_⟩
  have hk := hw.kept t c hc
  exact ⟨hk.token, hk.live, fun hs => by rw [hi.interest]; exact hk.registered hs⟩

/-- Whether it is turned away or not, a peer that asks to be accepted removes nobody. -/
lemma handle_listener_grows {h h' : Watched F H} {events : Ready}
    (hl : h.handle_listener events = .ok h') : Grows h h' := by
  rcases handle_listener_cases hl with rfl | rfl | ⟨sock, res, ha⟩
  · exact .of_slots (fun _ => rfl) rfl
  · exact .of_slots (fun _ => rfl) rfl
  · rcases accept_cases ha with ⟨err, -, hslots, hlost, -⟩ | ⟨-, tok, c, hj | hstr⟩
    · exact .of_slots (fun t => by rw [hslots]) hlost
    · exact grows_of_insert hj.vacant hj.slots hj.lost
    · exact grows_of_insert hstr.vacant hstr.slots hstr.lost

lemma handle_listener_well {h h' : Watched F H} {events : Ready} (hw : Well strict h)
    (hl : h.handle_listener events = .ok h') : Well strict h' := by
  rcases handle_listener_cases hl with rfl | rfl | ⟨sock, res, ha⟩
  · exact hw
  · exact Well.with_poll hw (accept_idle h.poll)
  · exact accept_well (Well.with_poll hw (accept_idle h.poll)) ha

/-- An event of the queue removes nobody. -/
lemma handle_commands_grows {h h' : Watched F H} (hc : h.handle_commands = .ok h') :
    Grows h h' := by
  obtain ⟨d, hd, hc⟩ := bind_eq_ok.mp hc
  cases hc
  rcases hcmds : h.queue.commands with _ | ⟨cmd, rest⟩
  · rw [Io.Handler.take_command_nil hcmds] at hd
    cases hd
    exact .of_slots (fun _ => rfl) rfl
  · rw [Io.Handler.take_command_cons hcmds] at hd
    have hg := handle_queue_grows hd
    exact ⟨hg.stays, hg.lost⟩

/-- An event of the queue, with a command that is mild. -/
lemma handle_commands_well {h h' : Watched F H} (hs : Sound h) (hw : Well strict h)
    (hm : ∀ cmd rest, h.queue.commands = cmd :: rest → cmd.token ≠ SYSTEM →
      MildCommand strict h cmd)
    (hc : h.handle_commands = .ok h') : Well strict h' := by
  obtain ⟨d, hd, hc⟩ := bind_eq_ok.mp hc
  cases hc
  have hsd : Sound d ∧ Well strict d := by
    rcases hcmds : h.queue.commands with _ | ⟨cmd, rest⟩
    · rw [Io.Handler.take_command_nil hcmds] at hd
      cases hd
      exact ⟨hs, hw⟩
    · rw [Io.Handler.take_command_cons hcmds] at hd
      have hwq : Well strict { h with queue := ⟨h.queue.bound, rest⟩ } := ⟨hw.agrees, hw.kept⟩
      have hk := handle_queue_keeps (h := { h with queue := ⟨h.queue.bound, rest⟩ }) hd
      exact ⟨hs.of_keeps hk, handle_queue_well hwq (hm cmd rest hcmds) hd⟩
  exact reregister_queue_well hsd.1 hsd.2

/-! ### Steps -/

/-- The poll agrees to whatever the step registers. -/
def Agreeing : Io.Step → Prop
  | .input (.event evt) => ∀ p ∈ evt.answers.polls, p = .ok ()
  | _ => True

/-- The command the step takes, if it takes one, is mild. -/
def MildStep (strict : Prop) (h : Watched F H) : Io.Step → Prop
  | .input (.event evt) => evt.token = QUEUE → ∀ cmd rest, h.queue.commands = cmd :: rest →
      cmd.token ≠ SYSTEM → MildCommand strict (h.supply QUEUE evt.answers) cmd
  | _ => True

/-- An event of a socket or of the timer. -/
lemma handle_event_tidied {h h' : Watched F H} {t : Token} {events : Ready} (hw : Well strict h)
    (hall : t ≠ ALL) (hqueue : t ≠ QUEUE) (he : h.handle_event t events = .ok h') :
    Tidied strict h h' := by
  unfold Io.Handler.handle_event at he
  rw [if_neg hall, if_neg hqueue] at he
  split at he
  · cases he
  split at he
  · exact expire_all_well hw he
  · exact handle_socket_well hw he

/-- A mild step that is no event of a socket or of the timer removes nobody. -/
lemma step_grows {h h' : Watched F H} {st : Io.Step} (hs : Sound h) (hw : Well strict h)
    (ha : Agreeing st) (hm : MildStep strict h st) (hst : h.step st = .ok h')
    (hloop : ∀ evt, st = .input (.event evt) → evt.token = ALL ∨ evt.token = QUEUE) :
    Well strict h' ∧ Grows h h' := by
  cases st with
  | input i =>
    cases i with
    | send cmd =>
      cases hst
      unfold Io.Handler.send
      split
      · exact ⟨⟨hw.agrees, hw.kept⟩, .of_slots (fun _ => rfl) rfl⟩
      · exact ⟨hw, .of_slots (fun _ => rfl) rfl⟩
    | event evt =>
      have hsup : Well strict (h.supply evt.token evt.answers) := supply_well hw ha
      have hsound : Sound (h.supply evt.token evt.answers) :=
        hs.of_keeps (supply_keeps h evt.token evt.answers)
      have he : (h.supply evt.token evt.answers).handle_event evt.token evt.kind = .ok h' := hst
      have hdone : Well strict h' ∧ Grows (h.supply evt.token evt.answers) h' := by
        rcases hloop evt rfl with hall | hqueue
        · rw [hall, Io.Handler.handle_event_all] at he
          rw [hall] at hsup ⊢
          exact ⟨handle_listener_well hsup he, handle_listener_grows he⟩
        · rw [hqueue, Io.Handler.handle_event_queue] at he
          rw [hqueue] at hsup hsound ⊢
          exact ⟨handle_commands_well hsound hsup (fun cmd rest => hm hqueue cmd rest) he,
            handle_commands_grows he⟩
      exact ⟨hdone.1, (supply_grows h evt.token evt.answers).trans hdone.2⟩
  | interrupted =>
    cases hst
    unfold Io.Handler.interrupted
    split
    · exact ⟨⟨hw.agrees, hw.kept⟩, .of_slots (fun _ => rfl) rfl⟩
    · exact ⟨hw, .of_slots (fun _ => rfl) rfl⟩
  | check_count =>
    cases hst
    unfold Io.Handler.check_count
    split
    · split
      · exact ⟨⟨hw.agrees, hw.kept⟩, .of_slots (fun _ => rfl) rfl⟩
      · exact ⟨hw, .of_slots (fun _ => rfl) rfl⟩
    · exact ⟨hw, .of_slots (fun _ => rfl) rfl⟩

/-- **A mild step keeps the connections.** -/
theorem step_ordered {h h' : Watched F H} {st : Io.Step} (hs : Sound h) (hw : Well strict h)
    (ha : Agreeing st) (hm : MildStep strict h st) (hst : h.step st = .ok h') :
    Ordered strict h h' := by
  by_cases hloop : ∀ evt, st = .input (.event evt) → evt.token = ALL ∨ evt.token = QUEUE
  · obtain ⟨hw', hg⟩ := step_grows hs hw ha hm hst hloop
    exact hg.ordered hw'
  · obtain ⟨evt, hevt⟩ := not_forall.mp hloop
    obtain ⟨rfl, htok⟩ := Classical.not_imp.mp hevt
    obtain ⟨hall, hqueue⟩ := not_or.mp htok
    have hdone := ordered_of_tidied (handle_event_tidied (supply_well hw ha) hall hqueue hst)
    obtain ⟨new, hp, hcalls⟩ := hdone.parts
    exact ⟨hdone.well, new, supply_parts evt.token evt.answers hp, hcalls⟩

/-! ### Runs -/

omit [Factory F H] [Handler H] in
/-- There is nothing to keep at first. -/
lemma started_well {inner : F} {settings : Settings} {addr : Option SocketAddr} {h : Watched F H}
    (hs : Io.Handler.started (Ledger.blank inner) settings addr = .ok h) : Well strict h := by
  have hf := Io.Handler.started_fresh hs
  refine ⟨?_, fun t c hc => ?_⟩
  · obtain ⟨g, hg, hs⟩ := bind_eq_ok.mp hs
    obtain ⟨⟨d, res⟩, hd, hs⟩ := bind_eq_ok.mp hs
    obtain ⟨-, rfl⟩ := Io.Handler.new_eq_ok hg
    cases addr <;> cases hd <;> cases hs <;> exact List.forall_mem_nil _
  · rw [hf.connections, Slab.get_with_capacity] at hc
    cases hc

/-- What one mild step keeps of a state, and what it makes of it. -/
lemma mild_step {g g' : Watched F H} {st : Io.Step} (hg : Sound g ∧ Well strict g)
    (hm : Agreeing st ∧ MildStep strict g st) (hst : g.step st = .ok g') :
    (Sound g' ∧ Well strict g') ∧ Ordered strict g g' := by
  have ho := step_ordered hg.1 hg.2 hm.1 hm.2 hst
  exact ⟨⟨step_sound hg.1 hst, ho.well⟩, ho⟩

/-- **A mild run keeps the connections** at every step. -/
theorem along_ordered {inner : F} {settings : Settings} {addr : Option SocketAddr}
    {h : Watched F H} {steps : List Io.Step}
    (hh : Io.Handler.started (Ledger.blank inner) settings addr = .ok h)
    (ha : ∀ st ∈ steps, Agreeing st) (hm : Along Io.Handler.step (MildStep strict) h steps) :
    Along Io.Handler.step (fun g st => (Sound g ∧ Well strict g) ∧ Agreeing st ∧
      MildStep strict g st) h steps := by
  have hguard : Along Io.Handler.step (fun g st => Agreeing st ∧ MildStep strict g st) h steps :=
    (along_of_forall fun _ st hst => ha st hst).and hm
  exact hguard.mono_inv (fun g st g' hg hms hst => (mild_step hg hms hst).1)
    (fun g st hg hms => ⟨hg, hms⟩) ⟨started_sound hh, started_well hh⟩

/-- What a completed step leaves: every connection in the slab wants something of its socket and
is registered for exactly that, and every one that is no longer there had its handler passed
back. -/
structure Swept (h h' : Watched F H) : Prop where
  wants : ∀ t c, h'.connections.get t = some c →
    (c.events.is_readable || c.events.is_writable) = true
  registered : ∀ t c, h'.connections.get t = some c → h'.poll.interest c.token = some c.events
  gone : ∃ new, Parts h h' new

omit [Factory F H] [Handler H] [Host] in
lemma Ordered.swept {h h' : Watched F H} (ho : Ordered True h h') : Swept h h' := by
  obtain ⟨new, hp, -⟩ := ho.parts
  refine ⟨fun t c hc => (ho.well.kept t c hc).live.wants, fun t c hc => ?_, new, hp⟩
  have hk := ho.well.kept t c hc
  rw [hk.token]
  exact hk.registered trivial

/-- **No dead connection is kept.** In a run in which the poll agrees to everything and every
command is mild, each step leaves only connections that want something and are registered for
it, and passes back the handlers of the others. -/
theorem no_dead_kept {inner : F} {settings : Settings} {addr : Option SocketAddr}
    {h : Watched F H} {steps : List Io.Step}
    (hh : Io.Handler.started (Ledger.blank inner) settings addr = .ok h)
    (ha : ∀ st ∈ steps, Agreeing st) (hm : Along Io.Handler.step (MildStep True) h steps) :
    Along Io.Handler.step (fun g st => Holds (g.step st) (Swept g)) h steps := by
  have hall := along_ordered hh ha hm
  exact hall.mono fun g st hg g' hst => (mild_step hg.1 hg.2 hst).2.swept

end Steps

/-! ### A connection that a command closes -/

/-- A handler that fails when it is given a timeout. -/
structure Hasty where
  err : Error

instance : Handler Hasty where
  on_message h _ := (h, .ok ())
  on_new_timeout h _ _ := (h, .error h.err)

/-- A server whose handlers fail with an input or output error when they are given a timeout. -/
def hasty : Except Panic (Watched (Sender → Hasty) Hasty) :=
  @Io.Handler.started _ _ plain (Ledger.blank fun _ => ⟨.from_io ⟨.Other, none, "no time"⟩⟩) calm
    (some ⟨"127.0.0.1:3012"⟩)

def hasty_step (h : Watched (Sender → Hasty) Hasty) (st : Io.Step) :
    Except Panic (Watched (Sender → Hasty) Hasty) :=
  @Io.Handler.step _ _ _ _ plain h st

/-- A peer connects, and its handler asks for a timeout. -/
def sets_timeout : List Io.Step := [accepts_peer, .post (Sender.timeout ⟨0, 0⟩ 100 7)]

/-- The connection is closed by its timeout command and kept in its slot. -/
theorem dead_after_timeout :
    calm.Quiet ∧ (∀ st ∈ sets_timeout ++ [takes_command], Agreeing st) ∧
    ∃ h h', hasty = .ok h ∧ run hasty_step h (sets_timeout ++ [takes_command]) = .ok h' ∧
      ¬ Along hasty_step (fun g st => Holds (hasty_step g st) (Swept g)) h
        (sets_timeout ++ [takes_command]) := by
  refine ⟨by simp [Settings.Quiet, calm], by simp [sets_timeout, accepts_peer, takes_command,
    Io.Step.on, Io.Step.post, Agreeing], ?_⟩
  have hrun : Returns hasty fun h => Returns (run hasty_step h sets_timeout) fun t =>
      Returns (hasty_step t takes_command) fun h' =>
        (h'.connections.get 0).map (·.events) = some .empty := by decide +kernel
  obtain ⟨h, hh, t, ht, h', hst, hempty⟩ := hrun
  obtain ⟨c, hc, hev⟩ := Option.map_eq_some_iff.mp hempty
  refine ⟨h, h', hh, run_snoc.mpr ⟨t, ht, hst⟩, fun hall => ?_⟩
  have hwants := (hall.last ht h' hst).wants 0 c hc
  rw [hev] at hwants
  cases hwants

/-- A server whose handlers are content. -/
def content : Except Panic (Watched (Sender → M) M) :=
  @Io.Handler.started _ _ plain (Ledger.blank fun _ => {}) calm (some ⟨"127.0.0.1:3012"⟩)

/-- A peer connects, is asked to close, and does. -/
def asks_close : List Io.Step :=
  [accepts_peer, .post (Sender.close ⟨0, 0⟩ .Normal)] ++ [takes_command, peer_closes 0]

lemma asks_close_agreeing : ∀ st ∈ asks_close, Agreeing st := by
  simp [asks_close, accepts_peer, takes_command, peer_closes, Io.Step.on, Io.Step.post, Agreeing]

/-- Closing when asked to is a mild run. -/
lemma asks_close_mild {strict : Prop} {h : Watched (Sender → M) M} (hh : content = .ok h) :
    Along serve_on (@MildStep _ _ _ plain strict) h asks_close := by
  have hrun : Returns content fun h =>
      Returns (run serve_on h [accepts_peer, .post (Sender.close ⟨0, 0⟩ .Normal)]) fun t =>
        t.queue.commands = [Sender.close ⟨0, 0⟩ .Normal] := by decide +kernel
  rw [hh, returns_ok] at hrun
  obtain ⟨t, ht, hq⟩ := hrun
  have haccept : ∀ g : Watched (Sender → M) M, @MildStep _ _ _ plain strict g accepts_peer :=
    fun _ hcon => by cases hcon
  have hcloses : ∀ g : Watched (Sender → M) M, @MildStep _ _ _ plain strict g (peer_closes 0) :=
    fun _ hcon => by cases hcon
  refine along_append.mpr ⟨⟨haccept _, fun _ _ => ⟨trivial, fun _ _ => trivial⟩⟩,
    fun t' ht' => ⟨fun _ cmd rest hcmd _ => ?_, fun g _ => ⟨hcloses g, fun _ _ => trivial⟩⟩⟩
  have htt : t' = t := Except.ok.inj (ht'.symm.trans ht)
  rw [htt, hq] at hcmd
  cases hcmd
  trivial

theorem no_dead_kept_close :
    ∃ h, content = .ok h ∧
      Along serve_on (fun g st => Holds (serve_on g st) (Swept g)) h asks_close := by
  have hrun : content.isOk = true := by decide +kernel
  obtain ⟨h, hh⟩ := exists_of_isOk hrun
  exact ⟨h, hh, @no_dead_kept _ _ _ _ plain _ _ _ h _ hh asks_close_agreeing
    (asks_close_mild hh)⟩

end XnetSocket.Housekeeping
