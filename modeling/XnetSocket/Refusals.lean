import XnetSocket.Joining
import XnetSocket.Occupancy

/-!
What becomes of a connection that the poll refuses to watch.

An event is handled in pieces of work, each about one connection: a peer that is accepted, a
command, a timeout, or the events of one socket. Attempts to connect, socket events and timeouts
remove a connection that cannot be registered and pass its handler back. The listener and the
other commands report the failure and keep the connection in its slot.
-/

namespace XnetSocket.Refusals

open Buffer Runs Connection Evolution Custody Joining Occupancy

variable {F H : Type}

/-! ### A connection that is dropped -/

/-- The poll refused the connection in slot `t`, which was removed and its handler passed back. -/
structure Dropped (h h' : Watched F H) (t : Token) : Prop where
  refused : h'.poll.refused = h.poll.refused ++ [t]
  gone : h'.connections.get t = none
  returned : ∃ c x, h.connections.get t = some c ∧ h'.factory.lost = h.factory.lost ++ [x] ∧
    x.birth = c.handler.birth
  others : ∀ j c, t ≠ j → h.connections.get j = some c →
    ∃ c', h'.connections.get j = some c' ∧ Evolves c c'

lemma Dropped.after {h d h' : Watched F H} {t : Token} {c c' : Connection (Recorded H)}
    (hd : Handled h d t c c') (hh : Dropped d h' t) : Dropped h h' t := by
  obtain ⟨e, x, he, hl, hb⟩ := hh.returned
  refine ⟨by rw [hh.refused, hd.refused], hh.gone, ⟨c, x, hd.before, by rw [hl, hd.lost], ?_⟩,
    fun j b hj hb => hh.others j b hj ((hd.others j hj).trans hb)⟩
  rw [hd.after, Option.some.injEq] at he
  rw [hb, ← he, hd.evolves.birth]

/-- What a registration leaves. -/
lemma schedule_spec {h h' : Watched F H} {c : Connection (Recorded H)} {res : Result Unit}
    (hs : h.schedule c = (h', res)) :
    h'.connections = h.connections ∧ h'.factory = h.factory ∧
      (res = .ok () ∧ h'.poll.refused = h.poll.refused ∨
        (∃ err, res = .error err) ∧ h'.poll.refused = h.poll.refused ++ [c.token]) := by
  unfold Io.Handler.schedule Os.reregister at hs
  rcases hr : h.poll.register c.token c.events with ⟨os, err | u⟩ <;> rw [hr] at hs <;> cases hs
  · exact ⟨rfl, rfl, Or.inr ⟨⟨_, rfl⟩, (register_error hr).2⟩⟩
  · exact ⟨rfl, rfl, Or.inl ⟨rfl, (register_ok hr).2⟩⟩

section Factories

variable [Factory F H]

/-- A connection leaves its slot after it was refused. -/
lemma lose_dropped {h d h' : Watched F H} {t : Token} {c c' : Connection (Recorded H)}
    (hc : h.connections.get t = some c) (hd : d.connections = h.connections)
    (hlost : d.factory.lost = h.factory.lost) (href : d.poll.refused = h.poll.refused ++ [t])
    (he : Evolves c c') (hl : (d.put t c').lose t = .ok h') : Dropped h h' t := by
  obtain ⟨e, hget, hlose, hslots, hpoll⟩ := lose_spec hl
  have hdc : d.connections.get t = some c := by rw [hd, hc]
  rw [get_put hdc, Option.some.injEq] at hget
  subst hget
  refine ⟨by rw [hpoll]; exact href, by rw [hslots, if_pos rfl],
    ⟨c, c'.handler, hc, by rw [hlose]; exact congrArg (· ++ [c'.handler]) hlost, he.birth⟩,
    fun j b hj hb => ⟨b, ?_, .refl b⟩⟩
  rw [hslots, if_neg hj, Io.Handler.put, Slab.get_set_ne hj, hd, hb]

variable [Handler H] [Host]

/-- An active connection that is refused is dropped. -/
lemma check_active_refused {h h' : Watched F H} {active : Bool} {t : Token}
    (htok : ∀ c, h.connections.get t = some c → c.token = t)
    (hc : h.check_active active t = .ok h') :
    h'.poll.refused = h.poll.refused ∨ Dropped h h' t := by
  obtain ⟨c, hat, hc⟩ := bind_eq_ok.mp hc
  have hget := at_slot_eq hat
  split at hc
  · rcases hs : h.schedule c with ⟨d, err | u⟩
    · rw [hs] at hc
      obtain ⟨c', he, hc⟩ := bind_eq_ok.mp hc
      obtain ⟨hslots, hfac, ⟨hres, -⟩ | ⟨-, href⟩⟩ := schedule_spec hs
      · cases hres
      · rw [htok c hget] at href
        exact Or.inr (lose_dropped hget hslots (by rw [hfac]) href (error_evolves he) hc)
    · rw [hs] at hc
      cases hc
      obtain ⟨-, -, ⟨-, href⟩ | ⟨⟨err, hres⟩, -⟩⟩ := schedule_spec hs
      · exact Or.inl href
      · cases hres
  · obtain ⟨-, -, -, -, hpoll⟩ := lose_spec hc
    rw [hpoll]
    exact Or.inl rfl

omit [Handler H] [Host] in
lemma try_next_idle {c c' : Connection (Recorded H)} {os os' : Os} {err : Error} {next : Bool}
    (h : Io.Handler.try_next c os err = .ok (c', os', next)) : Idle os os' := by
  have hreset : ∀ {d os'' res}, c.reset os = .ok (d, os'', res) → Idle os os'' := by
    intro d os'' res hr
    unfold reset at hr
    split at hr
    · split at hr
      · dsimp only at hr
        split at hr
        · rename_i addr _
          have hidle := connect_idle os addr
          split at hr <;> rename_i hcon <;> rw [hcon] at hidle <;> cases hr <;> exact hidle
        · split at hr <;> cases hr
          exact .refl os
      · cases hr
        exact .refl os
    · cases hr
      exact .refl os
  unfold Io.Handler.try_next at h
  split at h
  · obtain ⟨⟨d, os'', res⟩, hr, h⟩ := bind_eq_ok.mp h
    rcases res with e | u <;> cases h <;> exact hreset hr
  · cases h
    exact .refl os

/-- After a failure the connection is still there, or the event is done and it was dropped. -/
lemma recover_handled {h h' : Watched F H} {t : Token} {c : Connection (Recorded H)} {err : Error}
    {done : Bool} (hc : h.connections.get t = some c) (htok : c.token = t)
    (hr : h.recover t err = .ok (h', done)) :
    (∃ c', Handled h h' t c c') ∨ done = true ∧ Dropped h h' t := by
  obtain ⟨d, hat, hr⟩ := bind_eq_ok.mp hr
  have hd := at_slot_eq hat
  rw [hc, Option.some.injEq] at hd
  subst hd
  obtain ⟨⟨c', os, next⟩, hn, hr⟩ := bind_eq_ok.mp hr
  have hidle := try_next_idle hn
  have hev := try_next_evolves hn
  have hput : Handled h (({ h with poll := os }).put t c') t c c' :=
    ⟨hc, get_put (h := { h with poll := os }) hc c', fun _ hj => Slab.get_set_ne hj, hidle.refused,
      rfl, hev⟩
  dsimp only at hr
  generalize hg : ({ h with poll := os } : Watched F H).put t c' = d at hput hr
  have hos : d.poll = os := by rw [← hg]; rfl
  rw [hos] at hr
  split at hr
  · rcases hreg : os.register c'.token c'.events with ⟨os', e | u⟩ <;> rw [hreg] at hr
    · obtain ⟨e', he, hr⟩ := bind_eq_ok.mp hr
      obtain ⟨g, hl, hr⟩ := bind_eq_ok.mp hr
      cases hr
      have href := (register_error hreg).2
      rw [hev.same.token, htok, ← hos] at href
      have hdrop := lose_dropped (d := { d with poll := os' }) hput.after rfl rfl href
        (error_evolves he) hl
      exact Or.inr ⟨rfl, Dropped.after hput hdrop⟩
    · cases hr
      have href := (register_ok hreg).2
      exact Or.inl ⟨c', hput.before, hput.after, hput.others, href.trans hidle.refused, hput.lost,
        hev⟩
  · obtain ⟨e', he, hr⟩ := bind_eq_ok.mp hr
    cases hr
    exact Or.inl ⟨e', hput.trans (put_handled hput.after (error_evolves he))⟩

lemma attempt_handled {h h' : Watched F H} {t : Token} {ready : Ready → Bool} {events : Ready}
    {act : Connection (Recorded H) → Except Panic (Connection (Recorded H) × Result Unit)}
    {done : Bool} {c : Connection (Recorded H)}
    (hact : ∀ c c' res, act c = .ok (c', res) → Evolves c c') (hc : h.connections.get t = some c)
    (htok : c.token = t) (ha : h.attempt t ready events act = .ok (h', done)) :
    (∃ c', Handled h h' t c c') ∨ done = true ∧ Dropped h h' t := by
  obtain ⟨d, hat, ha⟩ := bind_eq_ok.mp ha
  have hd := at_slot_eq hat
  rw [hc, Option.some.injEq] at hd
  subst hd
  split at ha
  · obtain ⟨⟨c', res⟩, hc', ha⟩ := bind_eq_ok.mp ha
    have hev := hact c c' res hc'
    have hput := put_handled hc hev
    rcases res with err | u
    · rcases recover_handled hput.after (hev.same.token.trans htok) ha with ⟨e, he⟩ | ⟨hdone, hdrop⟩
      · exact Or.inl ⟨e, hput.trans he⟩
      · exact Or.inr ⟨hdone, Dropped.after hput hdrop⟩
    · cases ha
      exact Or.inl ⟨c', hput⟩
  · cases ha
    exact Or.inl ⟨c, handled_refl hc⟩

/-- **An event of a socket** drops the connection when it is refused. -/
theorem handle_socket_refused {h h' : Watched F H} {t : Token} {events : Ready}
    (htok : ∀ c, h.connections.get t = some c → c.token = t)
    (hs : h.handle_socket t events = .ok h') :
    h'.poll.refused = h.poll.refused ∨ Dropped h h' t := by
  obtain ⟨⟨d, done⟩, hd, hs⟩ := bind_eq_ok.mp hs
  obtain ⟨c, hat, -⟩ := bind_eq_ok.mp hd
  have hc := at_slot_eq hat
  dsimp only at hs
  rcases attempt_handled (fun _ _ _ hr => read_evolves hr) hc (htok c hc) hd with
    ⟨c1, h1⟩ | ⟨rfl, hdrop⟩
  · split at hs
    · cases hs
      exact Or.inl h1.refused
    · obtain ⟨⟨e, done⟩, he, hs⟩ := bind_eq_ok.mp hs
      have hwrite : ∀ (c c' : Connection (Recorded H)) res,
          Except.ok c.write = (Except.ok (c', res) : Except Panic _) → Evolves c c' := by
        intro c c' res hw
        have := write_evolves c
        rwa [Except.ok.inj hw] at this
      have htok1 : c1.token = t := h1.evolves.same.token.trans (htok c hc)
      dsimp only at hs
      rcases attempt_handled hwrite h1.after htok1 he with ⟨c2, h2⟩ | ⟨rfl, hdrop⟩
      · have h12 := h1.trans h2
        split at hs
        · cases hs
          exact Or.inl h12.refused
        · obtain ⟨b, -, hs⟩ := bind_eq_ok.mp hs
          have htok2 : ∀ b, e.connections.get t = some b → b.token = t := fun b hb => by
            rw [h2.after, Option.some.injEq] at hb
            rw [← hb, h2.evolves.same.token, htok1]
          rcases check_active_refused htok2 hs with href | hdrop
          · exact Or.inl (href.trans h12.refused)
          · exact Or.inr (Dropped.after h12 hdrop)
      · rw [if_pos rfl] at hs
        cases hs
        exact Or.inr (Dropped.after h1 hdrop)
  · rw [if_pos rfl] at hs
    cases hs
    exact Or.inr hdrop

/-- A timeout drops its connection when it is refused. -/
lemma expire_refused {h h' : Watched F H} {number : ℕ}
    (htok : ∀ t c, h.connections.get t = some c → c.token = t)
    (he : h.expire number = .ok h') :
    h'.poll.refused = h.poll.refused ∨ ∃ t, Dropped h h' t := by
  rcases expire_cases he with ⟨-, rfl⟩ | ⟨timeout, -, ht⟩
  · exact Or.inl rfl
  · rcases handle_timeout_cases ht with ⟨-, rfl⟩ | ⟨c, c', hc, hc', he⟩
    · exact Or.inl rfl
    · have hev := trigger_evolves hc'
      have hput : Handled h (({ h with timer := h.timer.expire number }).put
          timeout.connection c') timeout.connection c c' :=
        ⟨hc, get_put (h := { h with timer := h.timer.expire number }) hc c',
          fun _ hj => Slab.get_set_ne hj, rfl, rfl, hev⟩
      have htok' : ∀ b, (({ h with timer := h.timer.expire number }).put
          timeout.connection c').connections.get timeout.connection = some b →
          b.token = timeout.connection := fun b hb => by
        rw [hput.after, Option.some.injEq] at hb
        rw [← hb, hev.same.token, htok _ c hc]
      rcases check_active_refused htok' he with href | hdrop
      · exact Or.inl (href.trans hput.refused)
      · exact Or.inr ⟨_, Dropped.after hput hdrop⟩

/-! ### What happens to a connection that is refused -/

/-- The number of the handler in slot `t`, or of the next one that is made. -/
def number (h : Watched F H) (t : Token) : ℕ :=
  match h.connections.get t with
  | some c => c.handler.birth
  | none => h.factory.made.length

omit [Factory F H] [Handler H] [Host] in
lemma number_vacant {h : Watched F H} {t : Token} (ht : h.connections.get t = none) :
    number h t = h.factory.made.length := by
  unfold number
  rw [ht]

/-- The poll refused to watch the connection with token `t`. -/
def Refused (h h' : Watched F H) (t : Token) : Prop :=
  t ≠ QUEUE ∧ ∃ new, h'.poll.refused = h.poll.refused ++ new ∧ t ∈ new

/-- The connection with token `t` is gone, its handler was passed back, now and not before, and
every other connection is still there. -/
structure Cleaned (h h' : Watched F H) (t : Token) : Prop where
  gone : h'.connections.get t = none
  returned : ∃ x, h'.factory.lost = h.factory.lost ++ [x] ∧ x.birth = number h t ∧
    ∀ y ∈ h.factory.lost, y.birth ≠ x.birth
  others : ∀ j c, t ≠ j → h.connections.get j = some c →
    ∃ c', h'.connections.get j = some c' ∧ Evolves c c'

omit [Factory F H] [Handler H] [Host] in
lemma Dropped.cleaned {h h' : Watched F H} {t : Token} (hs : Sound h) (hd : Dropped h h' t) :
    Cleaned h h' t := by
  obtain ⟨c, x, hc, hl, hb⟩ := hd.returned
  refine ⟨hd.gone, ⟨x, hl, ?_, fun y hy => ?_⟩, hd.others⟩
  · unfold number
    rw [hc, hb]
  · rw [hb]
    exact hs.numbered.accounted.apart t c hc y hy

omit [Factory F H] [Handler H] [Host] in
/-- No handler was passed back, so nothing was cleaned up. -/
lemma not_cleaned {h h' : Watched F H} {t : Token} (hl : h'.factory.lost = h.factory.lost) :
    ¬ Cleaned h h' t := by
  intro hc
  obtain ⟨x, hx, -⟩ := hc.returned
  rw [hl] at hx
  have := congrArg List.length hx
  simp at this

omit [Factory F H] [Handler H] [Host] in
lemma not_refused {h h' : Watched F H} {t : Token} (hr : h'.poll.refused = h.poll.refused) :
    ¬ Refused h h' t := by
  rintro ⟨-, new, hnew, ht⟩
  rw [hr, List.self_eq_append_right] at hnew
  rw [hnew] at ht
  cases ht

omit [Factory F H] [Handler H] [Host] in
lemma Refused.eq {h h' : Watched F H} {t j : Token} (ht : Refused h h' t)
    (hr : h'.poll.refused = h.poll.refused ++ [j]) : t = j := by
  obtain ⟨-, new, hnew, ht⟩ := ht
  rw [hr, List.append_cancel_left_eq] at hnew
  rw [← hnew] at ht
  exact List.mem_singleton.mp ht

/-! ### Commands -/

omit [Factory F H] in
lemma error_at_poll {h h' : Watched F H} {t : Token} {err : Error}
    (he : h.error_at t err = .ok h') :
    h'.poll = h.poll := by
  unfold Io.Handler.error_at at he
  split at he
  · obtain ⟨d, -, he⟩ := bind_eq_ok.mp he
    cases he
    rfl
  · cases he
    rfl

omit [Factory F H] [Handler H] [Host] in
/-- A request that is refused leaves the others, and its handler is passed back. -/
lemma Returned.cleaned {h d h' : Watched F H} {tok : Token} {handler : Recorded H} (hs : Sound h)
    (hr : Returned h d tok handler) (hu : Unjoined h d) (hsteady : Steady d h') (hk : Keeps d h') :
    Cleaned h h' tok := by
  have hvac := Slab.get_vacant hr.vacant
  refine ⟨(hsteady.vacant tok).mpr (by rw [hu.slots, hvac]),
    ⟨handler, by rw [hsteady.lost, hr.lost], by rw [number_vacant hvac, hr.birth],
      fun y hy => ?_⟩, fun j c _ hc => ?_⟩
  · rw [hr.birth]
    exact Nat.ne_of_lt (hs.numbered.accounted.lost_lt y hy)
  · exact hsteady.evolves hk (by rw [hu.slots, hc])

/-- Nothing was refused, or one connection was and is cleaned up. -/
def Minded (h h' : Watched F H) : Prop :=
  h'.poll.refused = h.poll.refused ∨
    ∃ t, h'.poll.refused = h.poll.refused ++ [t] ∧ Cleaned h h' t

omit [Factory F H] [Handler H] [Host] in
lemma minded_of_dropped {h h' : Watched F H} (hs : Sound h)
    (hd : h'.poll.refused = h.poll.refused ∨ ∃ t, Dropped h h' t) : Minded h h' := by
  rcases hd with hr | ⟨t, hd⟩
  · exact Or.inl hr
  · exact Or.inr ⟨t, hd.refused, Dropped.cleaned hs hd⟩

omit [Factory F H] [Handler H] [Host] in
lemma Minded.cleaned {h h' : Watched F H} (hm : Minded h h') {t : Token} (hr : Refused h h' t) :
    Cleaned h h' t := by
  rcases hm with hsame | ⟨j, hj, hc⟩
  · exact absurd hr (not_refused hsame)
  · rw [hr.eq hj]
    exact hc

omit [Handler H] [Host] in
/-- An attempt to connect minds a refusal. -/
lemma connect_minded {h d h' : Watched F H} {url : String} {res : Result Unit} (hs : Sound h)
    (hc : h.connect url = .ok (d, res)) (hsteady : res ≠ .ok () → Steady d h' ∧ Keeps d h' ∧
      h'.poll = d.poll) (hok : res = .ok () → h' = d) : Minded h h' := by
  rcases connect_cases hc with ⟨err, -, rfl, hu⟩ | ⟨-, rfl, tok, c, hj⟩
  · obtain ⟨hst, hk, hpoll⟩ := hsteady (by simp)
    rcases hu.refused with hr | ⟨tok, handler, hr⟩
    · exact Or.inl (by rw [hpoll, hr])
    · exact Or.inr ⟨tok, by rw [hpoll, hr.refused], Returned.cleaned hs hr hu hst hk⟩
  · rw [hok rfl]
    exact Or.inl hj.refused

/-- **A request** minds a refusal. -/
theorem request_minded {h h' : Watched F H} {cmd : Command} (hs : Sound h)
    (hcon : connects cmd.signal = true) (hq : h.handle_queue cmd = .ok h') : Minded h h' := by
  unfold Io.Handler.handle_queue at hq
  split at hq
  · cases hq
    exact Or.inl rfl
  rcases hsig : cmd.signal with msg | ⟨code, reason⟩ | url | _ | ⟨delay, event⟩ | timeout <;>
    rw [hsig] at hcon hq <;> try cases hcon
  split at hq
  · obtain ⟨⟨d, res⟩, hc, hq⟩ := bind_eq_ok.mp hq
    have hd : h' = d := by
      rcases res with err | u
      · dsimp only at hq
        split at hq <;> cases hq
        rfl
      · cases hq
        rfl
    subst hd
    exact connect_minded hs hc (fun _ => ⟨.refl _, .refl _, rfl⟩) (fun _ => rfl)
  · obtain ⟨⟨d, res⟩, hc, hq⟩ := bind_eq_ok.mp hq
    refine connect_minded hs hc (fun hne => ?_) (fun hok => ?_)
    · rcases res with err | u
      · dsimp only at hq
        split at hq
        · exact ⟨error_at_steady hq, error_at_keeps hq, error_at_poll hq⟩
        · split at hq <;> cases hq
          exact ⟨.refl _, .refl _, rfl⟩
      · exact absurd rfl hne
    · subst hok
      cases hq
      rfl

/-- Another command passes no handler back. -/
lemma command_lost {h h' : Watched F H} {cmd : Command} (hcon : connects cmd.signal = false)
    (hq : h.handle_queue cmd = .ok h') : h'.factory.lost = h.factory.lost := by
  unfold Io.Handler.handle_queue at hq
  split at hq
  · cases hq
    rfl
  split at hq
  · exact (handle_broadcast_steady hcon hq).lost
  · exact (handle_directed_steady hcon hq).lost

/-- The listener passes no handler back. -/
lemma handle_listener_lost {h h' : Watched F H} {events : Ready}
    (hl : h.handle_listener events = .ok h') : h'.factory.lost = h.factory.lost := by
  rcases handle_listener_cases hl with rfl | rfl | ⟨sock, res, ha⟩
  · rfl
  · rfl
  · rcases accept_cases ha with ⟨err, -, -, hlost, -⟩ | ⟨-, tok, c, hj | hstr⟩
    · exact hlost
    · exact hj.lost
    · exact hstr.lost

omit [Factory F H] [Handler H] [Host] in
/-- The queue is armed again, which may be refused too. -/
lemma Minded.requeued {h d : Watched F H} (hm : Minded h d) {t : Token}
    (hr : Refused h { d with poll := (d.poll.reregister QUEUE readable).1 } t) :
    Cleaned h d t := by
  obtain ⟨hne, new, hnew, ht⟩ := hr
  rcases hreg : d.poll.reregister QUEUE readable with ⟨os, err | u⟩ <;> rw [hreg] at hnew
  · have href : os.refused = d.poll.refused ++ [QUEUE] := (register_error hreg).2
    rcases hm with hsame | ⟨j, hj, hc⟩
    · rw [href, hsame, List.append_cancel_left_eq] at hnew
      rw [← hnew] at ht
      exact absurd (List.mem_singleton.mp ht) hne
    · rw [href, hj, List.append_assoc, List.append_cancel_left_eq] at hnew
      rw [← hnew] at ht
      rcases List.mem_append.mp ht with ht | ht
      · rw [List.mem_singleton.mp ht]
        exact hc
      · exact absurd (List.mem_singleton.mp ht) hne
  · have href : os.refused = d.poll.refused := (register_ok hreg).2
    exact hm.cleaned ⟨hne, new, by rw [← href]; exact hnew, ht⟩

/-! ### Pieces of work -/

/-- What an event gives to do. -/
inductive Work
  | listen (events : Ready)
  | command
  | expire (number : ℕ)
  | serve (token : Token) (events : Ready)

def work (h : Watched F H) : Work → Except Panic (Watched F H)
  | .listen events => h.handle_listener events
  | .command => h.handle_commands
  | .expire number => h.expire number
  | .serve token events => h.handle_socket token events

/-- The work of one event: only the timer has several pieces. -/
def works (h : Watched F H) (token : Token) (events : Ready) : List Work :=
  if token = ALL then [.listen events]
  else if token = TIMER then h.timer.due.map .expire
  else if token = QUEUE then [.command]
  else [.serve token events]

/-- **An event is handled by its pieces of work.** -/
theorem handle_event_works {h : Watched F H} {token : Token} (ht : token ≠ SYSTEM)
    (events : Ready) : h.handle_event token events = run work h (works h token events) := by
  have hone : ∀ w, run work h [w] = work h w := by
    intro w
    rcases hw : work h w with e | h' <;> simp [run, hw, bind, Except.bind]
  unfold Io.Handler.handle_event works
  rw [if_neg ht]
  split
  · rw [hone]
    rfl
  split
  · rw [run_eq_foldlM, List.foldlM_map]
    rfl
  split
  · rw [hone]
    rfl
  · rw [hone]
    rfl

/-- Whether the work minds a refusal: a socket event, a timeout and a request do. -/
def minds (h : Watched F H) : Work → Bool
  | .listen _ => false
  | .command => h.queue.commands.head?.all fun cmd => connects cmd.signal
  | .expire _ => true
  | .serve _ _ => true

lemma work_keeps {h h' : Watched F H} {w : Work} (hw : work h w = .ok h') :
    ∃ queue timer, Keeps { h with queue := queue, timer := timer } h' := by
  cases w with
  | listen events => exact ⟨h.queue, h.timer, handle_listener_keeps hw⟩
  | command =>
    have hk := handle_commands_keeps hw
    split at hk
    · exact ⟨h.queue, h.timer, hk⟩
    · exact ⟨_, _, hk⟩
  | expire number => exact ⟨h.queue, _, expire_keeps hw⟩
  | serve token events => exact ⟨h.queue, h.timer, handle_socket_keeps hw⟩

/-- **One piece of work** cleans up after a refusal exactly when it minds. -/
theorem work_refused {h h' : Watched F H} {w : Work} (hs : Sound h) (hw : work h w = .ok h')
    {t : Token} (hr : Refused h h' t) : Cleaned h h' t ↔ minds h w = true := by
  have hminded : ∀ {b : Bool}, Minded h h' → b = true → (Cleaned h h' t ↔ b = true) :=
    fun hm hb => iff_of_true (hm.cleaned hr) hb
  cases w with
  | listen events => exact iff_of_false (not_cleaned (handle_listener_lost hw)) (by simp [minds])
  | command =>
    obtain ⟨d, hd, hw⟩ := bind_eq_ok.mp hw
    cases hw
    rcases hcmds : h.queue.commands with _ | ⟨cmd, rest⟩
    · rw [Io.Handler.take_command_nil hcmds] at hd
      cases hd
      have hm : Minded h h := Or.inl rfl
      have hc := hm.requeued hr
      exact iff_of_true ⟨hc.gone, hc.returned, hc.others⟩ (by simp [minds, hcmds])
    · rw [Io.Handler.take_command_cons hcmds] at hd
      rcases hcon : connects cmd.signal with _ | _
      · have hlost := command_lost (h := { h with queue := ⟨h.queue.bound, rest⟩ }) hcon hd
        exact iff_of_false (not_cleaned hlost) (by simp [minds, hcmds, hcon])
      · have hg : Sound { h with queue := ⟨h.queue.bound, rest⟩ } := hs.of_keeps (.refl _)
        have hc := (request_minded hg hcon hd).requeued hr
        exact iff_of_true ⟨hc.gone, hc.returned, hc.others⟩ (by simp [minds, hcmds, hcon])
  | expire number =>
    exact hminded (minded_of_dropped hs (expire_refused hs.token hw)) rfl
  | serve token events =>
    refine hminded (minded_of_dropped hs ?_) rfl
    exact (handle_socket_refused (hs.token token) hw).imp_right fun hd => ⟨token, hd⟩

/-- **Where refusals are cleaned up.** In every state a run reaches, each piece of work of the
next event cleans up after a connection that the poll refuses exactly when the work is an event of
a socket, a timeout, or a request. -/
theorem refusals_cleaned_iff {inner : F} {settings : Settings} {addr : Option SocketAddr}
    {steps : List Io.Step} {h : Watched F H}
    (hr : Io.Handler.execute (Ledger.blank inner) settings addr steps = .ok h) (evt : Io.Event) :
    Along work (fun d w => Holds (work d w) fun d' =>
        ∀ t, Refused d d' t → (Cleaned d d' t ↔ minds d w = true))
      (h.supply evt.token evt.answers)
      (works (h.supply evt.token evt.answers) evt.token evt.kind) := by
  have hs : Sound (h.supply evt.token evt.answers) :=
    (execute_sound hr).of_keeps (supply_keeps h evt.token evt.answers)
  refine (along_true _ _).mono_inv (I := Sound) (fun d w d' hd _ hw => ?_)
    (fun d w hd _ d' hw t ht => work_refused hd hw ht) hs
  obtain ⟨queue, timer, hk⟩ := work_keeps hw
  exact hd.of_keeps hk

end Factories

/-! ### A peer that cannot be watched -/

/-- The poll has no room for another registration. -/
def no_room : Except IoError Unit := .error ⟨.Other, none, "no room"⟩

/-- A peer connects and cannot be watched. -/
def accepts_unwatched : Io.Answers := { polls := [no_room], accepts := [.ok .fresh] }

/-- The listener leaves the connection in its slot, and keeps its handler. -/
theorem unwatched_kept :
    calm.Quiet ∧ ∃ h h', serve calm [] = .ok h ∧
      @Io.Handler.handle_event _ _ _ _ plain (h.supply ALL accepts_unwatched) ALL readable =
        .ok h' ∧
      Refused (h.supply ALL accepts_unwatched) h' 0 ∧
      ¬ Cleaned (h.supply ALL accepts_unwatched) h' 0 := by
  refine ⟨by simp [Settings.Quiet, calm], ?_⟩
  have hrun : Returns (serve calm []) fun h =>
      (h.supply ALL accepts_unwatched).poll.refused = [] ∧
      Returns (@Io.Handler.handle_event _ _ _ _ plain (h.supply ALL accepts_unwatched) ALL
        readable) fun h' => h'.poll.refused = [0] ∧ (h'.connections.get 0).isSome := by
    decide +kernel
  obtain ⟨h, hh, hnone, h', hst, hone, hsome⟩ := hrun
  refine ⟨h, h', hh, hst, ⟨by decide, [0], by rw [hnone, hone]; rfl, by simp⟩, fun hc => ?_⟩
  rw [hc.gone] at hsome
  cases hsome

/-- A peer is read from, and cannot be watched any longer. -/
def reads_unwatched : Io.Event :=
  ⟨0, readable, { polls := [no_room], reads := [.ok [65]] }⟩

theorem refusals_cleaned_iff_read :
    ∃ h, serve calm [accepts_peer] = .ok h ∧
      Along (@work _ _ _ _ plain) (fun d w => Holds (@work _ _ _ _ plain d w) fun d' =>
          ∀ t, Refused d d' t → (Cleaned d d' t ↔ minds d w = true))
        (h.supply 0 reads_unwatched.answers)
        (works (h.supply 0 reads_unwatched.answers) 0 readable) := by
  have hrun : (serve calm [accepts_peer]).isOk = true := by decide +kernel
  obtain ⟨h, hh⟩ := exists_of_isOk hrun
  exact ⟨h, hh, @refusals_cleaned_iff _ _ _ _ plain _ _ _ _ h hh reads_unwatched⟩

end XnetSocket.Refusals
