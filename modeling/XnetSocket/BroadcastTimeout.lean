import XnetSocket.TimerPath

/-!
Timeouts set by a broadcast.

The connections are all told that the timeout is set, and by then the timer has recorded the token
of the broadcast for it. When it expires the loop looks for the connection in the slot with that
token, and there is no such slot; so the timeout goes by unheard, whatever happened in between.
-/

namespace XnetSocket.BroadcastTimeout

open Buffer Runs Connection Evolution Custody DataPath Joining TimerPath

section Timeouts

variable {F H : Type} [Factory F H] [Handler H] [Host]

/-- How often `on_timeout` for an event is among the callbacks. -/
def timeouts (event : Token) (calls : List Callback) : ℕ := calls.count (.on_timeout event)

/-- The connection in the slot hears of the timeout once, and then is scheduled again or
removed. -/
def Fires (g g' : Watched F H) (t event : Token) : Prop :=
  ∃ c c', g.connections.get t = some c ∧ c'.handler.birth = c.handler.birth ∧
    timeouts event c'.handler.calls = timeouts event c.handler.calls + 1 ∧
    (g'.connections.get t = some c' ∧ g'.poll.interest t = some c'.events ∨
      g'.connections.get t = none ∧ c'.handler ∈ g'.factory.lost)

/-! ### The timeout of one connection -/

omit [Handler H] [Host] in
lemma Complains.timeouts {c c' : Connection (Recorded H)} (h : Complains c c') (event : Token) :
    timeouts event c'.handler.calls = timeouts event c.handler.calls := by
  obtain ⟨new, hcalls, hall⟩ := h
  have hnew : new.count (.on_timeout event) = 0 := List.count_eq_zero.mpr fun hm => by
    rcases hall _ hm with ⟨err, he⟩ | he <;> cases he
  unfold BroadcastTimeout.timeouts
  rw [hcalls, List.count_append, hnew, Nat.add_zero]

/-- A connection whose timeout expires hears of it once. -/
lemma trigger_timeouts {c c' : Connection (Recorded H)} {event : Token}
    (h : Io.Handler.trigger event c = .ok c') :
    timeouts event c'.handler.calls = timeouts event c.handler.calls + 1 := by
  have hn : timeouts event (c.timeout_triggered event).1.handler.calls =
      timeouts event c.handler.calls + 1 := by
    simp [timeouts, timeout_triggered]
  unfold Io.Handler.trigger at h
  split at h <;> rename_i heq <;> rw [heq] at hn
  · cases h
    exact hn
  · rw [Complains.timeouts (error_complains h)]
    exact hn

omit [Factory F H] [Handler H] [Host] in
/-- A connection that is scheduled has its interest registered. -/
lemma schedule_interest {g g' : Watched F H} {c : Connection (Recorded H)}
    (hs : g.schedule c = (g', .ok ())) :
    g'.connections = g.connections ∧ g'.poll.interest c.token = some c.events := by
  unfold Io.Handler.schedule Os.reregister at hs
  rcases hr : g.poll.register c.token c.events with ⟨os, err | u⟩ <;> rw [hr] at hs <;> cases hs
  refine ⟨rfl, ?_⟩
  rw [(register_ok hr).1, Function.update_self]

/-- Whoever is checked is scheduled or removed, and hears at most of an error. -/
lemma check_active_outcome {g g' : Watched F H} {t : Token} {c : Connection (Recorded H)}
    {active : Bool} (hc : g.connections.get t = some c) (ht : c.token = t)
    (hr : g.check_active active t = .ok g') :
    ∃ c', Complains c c' ∧ c'.handler.birth = c.handler.birth ∧
      (g'.connections.get t = some c' ∧ g'.poll.interest t = some c'.events ∨
        g'.connections.get t = none ∧ c'.handler ∈ g'.factory.lost) := by
  obtain ⟨d, hd, hr⟩ := bind_eq_ok.mp hr
  have hd := at_slot_eq hd
  rw [hc] at hd
  cases hd
  split at hr
  · rcases hs : g.schedule c with ⟨e, err | u⟩ <;> rw [hs] at hr
    · obtain ⟨c', he, hr⟩ := bind_eq_ok.mp hr
      obtain ⟨b, hb, hlost, hget, -⟩ := lose_spec hr
      have hslots : e.connections = g.connections := by
        have := schedule_slots g c
        rwa [hs] at this
      rw [get_put (by rw [hslots]; exact hc)] at hb
      cases hb
      exact ⟨c', error_complains he, (error_evolves he).birth,
        Or.inr ⟨by rw [hget, if_pos rfl], by rw [hlost]; simp⟩⟩
    · cases hr
      obtain ⟨hslots, hi⟩ := schedule_interest hs
      exact ⟨c, .of_handler rfl, rfl, Or.inl ⟨by rw [hslots]; exact hc, by rw [← ht]; exact hi⟩⟩
  · obtain ⟨b, hb, hlost, hget, -⟩ := lose_spec hr
    rw [hc] at hb
    cases hb
    exact ⟨c, .of_handler rfl, rfl, Or.inr ⟨by rw [hget, if_pos rfl], by rw [hlost]; simp⟩⟩

/-- **A timeout set for a connection fires.** -/
theorem directed_fires {g g' : Watched F H} (hs : Sound g) {t event : Token}
    {c : Connection (Recorded H)} (hc : g.connections.get t = some c)
    (ht : g.handle_timeout ⟨t, event⟩ = .ok g') : Fires g g' t event := by
  rcases handle_timeout_cases ht with ⟨hn, -⟩ | ⟨b, d, hb, hd, ht⟩
  · rw [hc] at hn
    cases hn
  cases hc.symm.trans hb
  have hev := trigger_evolves hd
  obtain ⟨c', hcomp, hbirth, hend⟩ :=
    check_active_outcome (get_put hc d) (hev.same.token.trans (hs.token t c hc)) ht
  exact ⟨c, c', hc, hbirth.trans hev.birth,
    (Complains.timeouts hcomp event).trans (trigger_timeouts hd), hend⟩

/-! ### The timeout of a broadcast -/

/-- In a run that reaches `g`, a timeout command of a broadcast has just called `on_new_timeout` on
the connection with the id `id` in slot `t`, with the handle of the timeout with the number. -/
def Announced (inner : F) (settings : Settings) (addr : Option SocketAddr) (g : Watched F H)
    (t : Token) (id : UInt32) (event : Token) (number : ℕ) : Prop :=
  ∃ before h cmd rest delay ready a c c' e,
    Io.Handler.execute (Ledger.blank inner) settings addr before = .ok h ∧
      h.queue.commands = cmd :: rest ∧ cmd.token = ALL ∧ cmd.signal = .Timeout delay event ∧
      h.step (.on QUEUE ready a) = .ok g ∧
      h.connections.get t = some c ∧ g.connections.get t = some c' ∧ c'.connection_id = id ∧
      e ∈ g.timer.pending ∧ e.number = number ∧
      c.handler.calls ++ [.on_new_timeout event e.handle] <+: c'.handler.calls

/-- Later, in `d`, it is the turn of the timeout to expire, which is still pending, and the
connection is still there. -/
def Expires (g d : Watched F H) (t : Token) (id : UInt32) (number : ℕ) : Prop :=
  ∃ after g' a front, run Io.Handler.step g after = .ok g' ∧
    run Io.Handler.expire (g'.supply TIMER a) front = .ok d ∧
    (d.timer.find number).isSome = true ∧
    ∃ c, d.connections.get t = some c ∧ c.connection_id = id

/-- Every timeout that was set before the next one has a smaller number. -/
def Ordered (timer : Timer) : Prop := ∀ e ∈ timer.pending, e.number < timer.count

/-- The timeout with the number, if it is pending, was set for `timeout`. -/
structure Records (timer : Timer) (number : ℕ) (timeout : Timeout) : Prop where
  used : number < timer.count
  pending : ∀ e ∈ timer.pending, e.number = number → e.timeout = timeout

omit [Factory F H] [Handler H] [Host] in
lemma Records.drops {timer timer' : Timer} {number : ℕ} {timeout : Timeout}
    (h : Records timer number timeout) (hd : timer.Drops timer') :
    Records timer' number timeout :=
  ⟨hd.count ▸ h.used, fun e he => h.pending e (hd.pending he)⟩

lemma Records.step {h h' : Watched F H} {st : Io.Step} {number : ℕ} {timeout : Timeout}
    (hr : Records h.timer number timeout) (hs : h.step st = .ok h') :
    Records h'.timer number timeout := by
  rcases step_timer hs with hd | ⟨cmd, rest, delay, event, -, -, hset⟩
  · exact hr.drops hd
  · refine ⟨?_, fun e he hn => ?_⟩
    · rw [hset.count]
      exact Nat.lt_succ_of_lt hr.used
    · rw [hset.pending] at he
      rcases List.mem_append.mp he with he | he
      · exact hr.pending e he hn
      · -- the timeout set now has another number
        rw [List.mem_singleton.mp he] at hn
        have hlt := hr.used
        rw [← hn] at hlt
        exact absurd hlt (lt_irrefl _)

lemma Ordered.step {h h' : Watched F H} {st : Io.Step} (ho : Ordered h.timer)
    (hs : h.step st = .ok h') : Ordered h'.timer := by
  rcases step_timer hs with hd | ⟨cmd, rest, delay, event, -, -, hset⟩
  · exact fun e he => hd.count ▸ ho e (hd.pending he)
  · intro e he
    rw [hset.count]
    rw [hset.pending] at he
    rcases List.mem_append.mp he with he | he
    · exact Nat.lt_succ_of_lt (ho e he)
    · rw [List.mem_singleton.mp he]
      exact Nat.lt_succ_self _

/-- The first thing a connection that takes a timeout is told is its handle. -/
lemma take_timeout_calls {c c' : Connection (Recorded H)} {event : Token} {timeout : TimerHandle}
    (h : Io.Handler.take_timeout event timeout c = .ok c') :
    c.handler.calls ++ [.on_new_timeout event timeout] <+: c'.handler.calls := by
  have hn : (c.new_timeout event timeout).1.handler.calls =
      c.handler.calls ++ [.on_new_timeout event timeout] := rfl
  unfold Io.Handler.take_timeout at h
  split at h <;> rename_i heq <;> rw [heq] at hn <;> rw [← hn]
  · cases h
    exact List.prefix_refl _
  · exact (error_evolves h).calls

/-- A timeout command of a broadcast finds the timer full, or records the token of the broadcast and
tells every connection the handle. -/
lemma handle_broadcast_timeout {h d : Watched F H} {delay : ℕ} {event : Token}
    (hd : h.handle_broadcast (.Timeout delay event) = .ok d) :
    d.connections = h.connections ∨ h.timer.Sets d.timer delay ⟨ALL, event⟩ ∧
      ∀ t c', d.connections.get t = some c' → ∃ c, h.connections.get t = some c ∧
        c.handler.calls ++ [.on_new_timeout event (h.timer.entry delay ⟨ALL, event⟩).handle] <+:
          c'.handler.calls := by
  simp only [Io.Handler.handle_broadcast] at hd
  rcases Timer.set_timeout_cases h.timer delay ⟨ALL, event⟩ with hfull | ⟨hset, hmade⟩
  · rw [hfull] at hd
    dsimp only at hd
    split at hd <;> cases hd
    exact Or.inl rfl
  · rcases hpair : h.timer.set_timeout delay ⟨ALL, event⟩ with ⟨timer, answer⟩
    rw [hpair] at hd hset hmade
    simp only at hset hmade
    subst hmade
    obtain ⟨⟨conns, us⟩, hi, hd⟩ := bind_eq_ok.mp hd
    cases hd
    refine Or.inr ⟨hset, fun t c' hc' => ?_⟩
    exact Slab.iter_mut_rel (R := fun x x' : Connection (Recorded H) =>
      x.handler.calls ++ [.on_new_timeout event (h.timer.entry delay ⟨ALL, event⟩).handle] <+:
        x'.handler.calls) (fun x x' us hx => by
        obtain ⟨y, hy, hx⟩ := bind_eq_ok.mp hx
        cases hx
        exact take_timeout_calls hy) hi hc'

/-- A timeout that was announced is recorded under the token of the broadcast. -/
lemma announced_records {inner : F} {settings : Settings} {addr : Option SocketAddr}
    {g : Watched F H} {t event : Token} {id : UInt32} {number : ℕ}
    (ha : Announced inner settings addr g t id event number) :
    Sound g ∧ Records g.timer number ⟨ALL, event⟩ := by
  obtain ⟨before, h, cmd, rest, delay, ready, a, c, c', e, hr, hq, htok, hsig, hstep, hc, hc', -,
    he, rfl, hcalls⟩ := ha
  have hs := execute_sound hr
  have hordered : Ordered h.timer := by
    obtain ⟨h0, h0s, hr⟩ := bind_eq_ok.mp hr
    refine run_inv_true (fun _ _ _ ho hst => Ordered.step ho hst) ?_ hr
    rw [(Io.Handler.started_fresh h0s).timer]
    exact fun e he => by cases he
  refine ⟨step_sound hs hstep, ?_⟩
  obtain ⟨queue, d, hd, hslots⟩ := queue_step hq hstep
  have htimer : g.timer = d.timer := by
    have he : (h.supply QUEUE a).handle_event QUEUE ready = .ok g := hstep
    rw [Io.Handler.handle_event_queue] at he
    have hk := handle_commands_keeps he
    rw [show (h.supply QUEUE a).queue.commands = cmd :: rest from hq] at hk
    exact hk.timer.trans (handle_queue_keeps hd).timer.symm
  obtain ⟨x, hd, hslots', hcount, hpending⟩ : ∃ x : Watched F H,
      x.handle_broadcast (.Timeout delay event) = .ok d ∧ x.connections = h.connections ∧
        x.timer.count = h.timer.count ∧ x.timer.pending = h.timer.pending := by
    unfold Io.Handler.handle_queue at hd
    rw [if_neg (by rw [htok]; decide), if_pos htok, hsig] at hd
    exact ⟨_, hd, hs.supply_slots (t := QUEUE) (by decide) a, rfl, rfl⟩
  have hlen := hcalls.length_le
  rcases handle_broadcast_timeout hd with hsame | ⟨hset, htold⟩
  · -- the timer was full: nobody was told of anything
    rw [hslots, hsame, hslots', hc, Option.some.injEq] at hc'
    rw [hc', List.length_append, List.length_singleton] at hlen
    omega
  · obtain ⟨y, hy, hrel⟩ := htold t c' (by rw [← hslots]; exact hc')
    rw [hslots', hc, Option.some.injEq] at hy
    subst hy
    -- what the connection was told first is the handle of the timeout that is set now
    have hhandle : e.handle = (x.timer.entry delay ⟨ALL, event⟩).handle := by
      have heq := (List.prefix_of_prefix_length_le hcalls hrel (by simp)).eq_of_length (by simp)
      simpa using heq
    rw [htimer, hset.pending] at he
    have hnew : e = x.timer.entry delay ⟨ALL, event⟩ := by
      rcases List.mem_append.mp he with he | he
      · have hmem : e.handle ∈ x.timer.handles := List.mem_map_of_mem he
        rw [hhandle] at hmem
        exact absurd hmem (Timer.entry_fresh x.timer delay ⟨ALL, event⟩)
      · exact List.mem_singleton.mp he
    rw [htimer, hnew]
    refine ⟨by rw [hset.count]; exact Nat.lt_succ_self _, fun p hp hnumber => ?_⟩
    rw [hset.pending, hpending] at hp
    rcases List.mem_append.mp hp with hp | hp
    · have hlt := hordered p hp
      rw [hnumber, ← hcount] at hlt
      exact absurd hlt (lt_irrefl _)
    · rw [List.mem_singleton.mp hp]
      rfl

/-- **A timeout set by a broadcast never fires.** Whatever runs in between, when it expires while
the connection that was told of it is still there, the loop goes on and no connection changes. -/
theorem broadcast_timeout_unheard {inner : F} {settings : Settings} {addr : Option SocketAddr}
    {g d : Watched F H} {t event : Token} {id : UInt32} {number : ℕ}
    (ha : Announced inner settings addr g t id event number) (he : Expires g d t id number) :
    ∃ d', d.expire number = .ok d' ∧ d'.connections = d.connections ∧
      d'.factory = d.factory ∧ ¬ Fires d d' t event := by
  obtain ⟨hs, hrec⟩ := announced_records ha
  obtain ⟨after, g', a, front, hafter, hfront, hpend, c, hc, hid⟩ := he
  have hg' : Sound g' ∧ Records g'.timer number ⟨ALL, event⟩ :=
    run_inv_true (I := fun h => Sound h ∧ Records h.timer number ⟨ALL, event⟩)
      (fun _ _ _ hi hst => ⟨step_sound hi.1 hst, hi.2.step hst⟩) ⟨hs, hrec⟩ hafter
  have hsup := supply_keeps g' TIMER a
  rw [run_eq_foldlM] at hfront
  obtain ⟨timer, hk, hdrops⟩ := expire_all_keeps hfront
  have hd : Sound d := hg'.1.of_keeps (((hsup.retime timer)).trans hk)
  have hdrec : Records d.timer number ⟨ALL, event⟩ := by
    have htimer : d.timer = timer := hk.timer
    have hsuptimer : (g'.supply TIMER a).timer = { g'.timer with due := a.due } := hsup.timer
    have hsuprec : Records { g'.timer with due := a.due } number ⟨ALL, event⟩ :=
      ⟨hg'.2.used, hg'.2.pending⟩
    rw [htimer]
    rw [hsuptimer] at hdrops
    exact hsuprec.drops hdrops
  obtain ⟨timeout, hf⟩ := Option.isSome_iff_exists.mp hpend
  have htimeout : timeout = ⟨ALL, event⟩ := by
    obtain ⟨e, he, rfl⟩ := Option.map_eq_some_iff.mp hf
    have hnumber := List.find?_some he
    exact hdrec.pending e (List.mem_of_find?_eq_some he) (of_decide_eq_true hnumber)
  subst htimeout
  have hnone : d.connections.get ALL = none := by
    rcases hget : d.connections.get ALL with _ | e
    · rfl
    · exact absurd (hd.lt_system (Slab.get_lt_capacity hget)) (by decide)
  refine ⟨{ d with timer := d.timer.expire number }, ?_, rfl, rfl, ?_⟩
  · simp only [Io.Handler.expire, hf, Io.Handler.handle_timeout, hnone]
  · -- the connection has heard no more than before
    rintro ⟨c1, c2, hc1, -, htwice, hend⟩
    rcases hend with ⟨hc2, -⟩ | ⟨hgone, -⟩
    · rw [hc1, Option.some.injEq] at hc2
      rw [hc2] at htwice
      omega
    · rw [hc1] at hgone
      cases hgone

end Timeouts

/-! ### A broadcast to one peer -/

/-- A peer connects, and a broadcast sender asks for a timeout. -/
def asks_for_timeout : List Io.Step := [accepts_peer, .post (Sender.timeout ⟨ALL, 0⟩ 100 7)]

/-- The peer is told that the timeout is set, and then it expires. -/
lemma told_and_expired :
    ∃ g : Watched (Sender → M) M,
      @Announced _ _ _ _ plain (fun _ => {}) {} (some ⟨"127.0.0.1:3012"⟩) g 0 0 7 0 ∧
        @Expires _ _ _ _ plain g (g.supply TIMER {}) 0 0 0 ∧
        Returns (@Io.Handler.expire _ _ _ _ plain (g.supply TIMER {}) 0) fun d =>
          (d.connections.get 0).map (·.handler.calls) =
            ((g.supply TIMER {}).connections.get 0).map (·.handler.calls) := by
  have hrun : Returns (serve {} asks_for_timeout) fun h => Returns (serve_on h takes_command)
      fun g => h.queue.commands = [Sender.timeout ⟨ALL, 0⟩ 100 7] ∧
        (h.connections.get 0).map (·.handler.calls) = some [] ∧
        (g.connections.get 0).map (fun c => (c.connection_id, c.handler.calls)) =
          some (0, [.on_new_timeout 7 ⟨0, 2⟩]) ∧
        g.timer.pending = [⟨0, ⟨0, 2⟩, ⟨ALL, 7⟩⟩] ∧
        ((g.supply TIMER {}).timer.find 0).isSome = true ∧
        ((g.supply TIMER {}).connections.get 0).map (·.connection_id) = some 0 ∧
        Returns (@Io.Handler.expire _ _ _ _ plain (g.supply TIMER {}) 0) fun d =>
          (d.connections.get 0).map (·.handler.calls) =
            ((g.supply TIMER {}).connections.get 0).map (·.handler.calls) := by decide +kernel
  obtain ⟨h, hr, g, hs, hq, hbefore, hafter, hset, hpend, hthere, hexp⟩ := hrun
  obtain ⟨c, hc, hcalls⟩ := Option.map_eq_some_iff.mp hbefore
  obtain ⟨c', hc', hc'eq⟩ := Option.map_eq_some_iff.mp hafter
  obtain ⟨hid, hcalls'⟩ := Prod.mk.inj hc'eq
  obtain ⟨e, he, heid⟩ := Option.map_eq_some_iff.mp hthere
  exact ⟨g, ⟨_, h, _, [], 100, readable, {}, c, c', _, hr, hq, rfl, rfl, hs, hc, hc', hid,
      by rw [hset]; exact List.mem_singleton_self _, rfl,
      by rw [hcalls, hcalls']; exact List.prefix_refl _⟩,
    ⟨[], g, {}, [], rfl, rfl, hpend, e, he, heid⟩, hexp⟩

/-- The peer does not hear of it. -/
theorem expired_unheard :
    ∃ g d d' : Watched (Sender → M) M,
      @Announced _ _ _ _ plain (fun _ => {}) {} (some ⟨"127.0.0.1:3012"⟩) g 0 0 7 0 ∧
        @Expires _ _ _ _ plain g d 0 0 0 ∧
        @Io.Handler.expire _ _ _ _ plain d 0 = .ok d' ∧ ¬ Fires d d' 0 7 := by
  obtain ⟨g, ha, he, d', hd', hsame⟩ := told_and_expired
  refine ⟨g, _, d', ha, he, hd', ?_⟩
  rintro ⟨c, c', hc, -, htwice, hend⟩
  rw [hc] at hsame
  rcases hend with ⟨hc', -⟩ | ⟨hgone, -⟩
  · rw [hc', Option.map_some, Option.map_some, Option.some.injEq] at hsame
    rw [hsame] at htwice
    omega
  · rw [hgone] at hsame
    cases hsame

theorem broadcast_timeout_unheard_once :
    ∃ g d' : Watched (Sender → M) M,
      @Io.Handler.expire _ _ _ _ plain (g.supply TIMER {}) 0 = .ok d' ∧
        ¬ Fires (g.supply TIMER {}) d' 0 7 := by
  obtain ⟨g, ha, he, -⟩ := told_and_expired
  obtain ⟨d', hd', -, -, hno⟩ :=
    @broadcast_timeout_unheard _ _ _ _ plain _ _ _ g _ 0 7 0 0 ha he
  exact ⟨g, d', hd', hno⟩

end XnetSocket.BroadcastTimeout
