import XnetSocket.Occupancy
import XnetSocket.Upkeep

/-!
How the events keep the connections in the slab.

An event of a socket or a timeout looks at its connection when it is done: one that wants nothing
any more is removed, and its handler passed back.
-/

namespace XnetSocket.Tidying

open Buffer Runs Connection Lifecycle Evolution Custody Joining Mildness Occupancy Upkeep

variable {F H : Type} {strict : Prop}

section Steps

/-! ### Events of one connection -/

/-- Only the connection in slot `t` has changed, and the poll was not asked anything. -/
structure Touched (h h' : Watched F H) (t : Token) (c c' : Connection (Recorded H)) : Prop
    extends Handled h h' t c c' where
  poll : h'.poll = h.poll

lemma put_touched {h : Watched F H} {t : Token} {c c' : Connection (Recorded H)}
    (hc : h.connections.get t = some c) (he : Evolves c c') : Touched h (h.put t c') t c c' :=
  ⟨put_handled hc he, rfl⟩

lemma Touched.trans {h d h' : Watched F H} {t : Token} {b c e : Connection (Recorded H)}
    (hd : Touched h d t b c) (hh : Touched d h' t c e) : Touched h h' t b e :=
  ⟨hd.toHandled.trans hh.toHandled, hh.poll.trans hd.poll⟩

variable [Factory F H]

/-- An opened connection is not given another socket. -/
lemma try_next_opened {c c' : Connection (Recorded H)} {os os' : Os} {err : Error} {next : Bool}
    (hc : Opened c) (h : Io.Handler.try_next c os err = .ok (c', os', next)) :
    c' = c ∧ os' = os ∧ next = false := by
  have hreset : ∀ {d os'' res}, c.reset os = .ok (d, os'', res) →
      d = c ∧ os'' = os ∧ ∃ e, res = .error e := by
    intro d os'' res hr
    unfold reset at hr
    split at hr
    · split at hr
      · rename_i req res' hs
        have := hc.not_connecting
        rw [hs] at this
        cases this
      · cases hr
        exact ⟨rfl, rfl, _, rfl⟩
    · cases hr
      exact ⟨rfl, rfl, _, rfl⟩
  unfold Io.Handler.try_next at h
  split at h
  · obtain ⟨⟨d, os'', res⟩, hr, h⟩ := bind_eq_ok.mp h
    obtain ⟨rfl, rfl, e, rfl⟩ := hreset hr
    cases h
    exact ⟨rfl, rfl, rfl⟩
  · cases h
    exact ⟨rfl, rfl, rfl⟩

variable [Handler H] [Host]

/-- A failure of reading or writing is reported. -/
lemma recover_touched {h h' : Watched F H} {t : Token} {c : Connection (Recorded H)} {err : Error}
    {done : Bool} (hc : h.connections.get t = some c) (hf : Faint c)
    (hk : disconnects err.kind = true ∨ Live c) (hr : h.recover t err = .ok (h', done)) :
    done = false ∧ ∃ c', Touched h h' t c c' ∧ (Live c' ∨ Dead c') := by
  obtain ⟨d, hat, hr⟩ := bind_eq_ok.mp hr
  have hd := at_slot_eq hat
  rw [hc, Option.some.injEq] at hd
  subst hd
  obtain ⟨⟨c', os, next⟩, hn, hr⟩ := bind_eq_ok.mp hr
  obtain ⟨rfl, rfl, rfl⟩ := try_next_opened hf.opened hn
  dsimp only at hr
  rw [if_neg (by simp)] at hr
  obtain ⟨e, he, hr⟩ := bind_eq_ok.mp hr
  cases hr
  have hput := put_touched hc (Evolves.refl c')
  refine ⟨rfl, e, hput.trans (put_touched hput.after (error_evolves he)), ?_⟩
  have hfe := error_faint hf he
  split at hfe
  · exact Or.inr hfe
  · rename_i hnot
    rcases hk with hk | hl
    · exact absurd hk hnot
    · exact Or.inl (hfe.2 hl)

/-- What reading and writing leave of a live connection. -/
def Lively (act : Connection (Recorded H) → Except Panic (Connection (Recorded H) × Result Unit)) :
    Prop :=
  ∀ c c' res, Live c → act c = .ok (c', res) → Evolves c c' ∧
    (res = .ok () ∧ (Live c' ∨ Dead c') ∨
      ∃ err, res = .error err ∧ Faint c' ∧ (disconnects err.kind = true ∨ Live c'))

lemma read_lively : Lively (H := H) Connection.read := by
  intro c c' res hc h
  refine ⟨read_evolves h, ?_⟩
  rcases read_live hc h with hl | ⟨hd, hres⟩
  · rcases res with err | u
    · exact Or.inr ⟨err, rfl, hl.faint, Or.inr hl⟩
    · exact Or.inl ⟨rfl, Or.inl hl⟩
  · exact Or.inl ⟨hres, Or.inr hd⟩

omit [Handler H] in
lemma write_lively : Lively (H := H) fun c => .ok c.write := by
  intro c c' res hc h
  have he := write_evolves c
  have hw := write_live hc
  rw [Except.ok.inj h] at he hw
  refine ⟨he, ?_⟩
  rcases hw with ⟨hres, hl⟩ | ⟨err, hres, hf⟩
  · exact Or.inl ⟨hres, Or.inl hl⟩
  · exact Or.inr ⟨_, hres, hf, Or.inl rfl⟩

lemma attempt_touched {h h' : Watched F H} {t : Token} {ready : Ready → Bool} {events : Ready}
    {act : Connection (Recorded H) → Except Panic (Connection (Recorded H) × Result Unit)}
    {done : Bool} {c : Connection (Recorded H)} (hact : Lively act)
    (hready : ∀ r : Ready, ready (r.and .empty) = false) (hc : h.connections.get t = some c)
    (hl : Live c ∨ Dead c) (ha : h.attempt t ready events act = .ok (h', done)) :
    done = false ∧ ∃ c', Touched h h' t c c' ∧ (Live c' ∨ Dead c') := by
  obtain ⟨d, hat, ha⟩ := bind_eq_ok.mp ha
  have hd := at_slot_eq hat
  rw [hc, Option.some.injEq] at hd
  subst hd
  split at ha
  · rename_i hr
    -- only a live connection can be ready
    have hlive : Live c := by
      rcases hl with hl | hd
      · exact hl
      · rw [hd.events, hready] at hr
        cases hr
    obtain ⟨⟨c', res⟩, hc', ha⟩ := bind_eq_ok.mp ha
    obtain ⟨hev, hres⟩ := hact c c' res hlive hc'
    have hput := put_touched hc hev
    rcases hres with ⟨rfl, hl'⟩ | ⟨err, rfl, hf, hk⟩
    · cases ha
      exact ⟨rfl, c', hput, hl'⟩
    · obtain ⟨hdone, e, ht, hle⟩ := recover_touched hput.after hf hk ha
      exact ⟨hdone, e, hput.trans ht, hle⟩
  · cases ha
    exact ⟨rfl, c, ⟨handled_refl hc, rfl⟩, hl⟩

/-- Which handlers an event passes back: every connection is still there or its handler is among
them. -/
structure Parts (h h' : Watched F H) (new : List (Recorded H)) : Prop where
  lost : h'.factory.lost = h.factory.lost ++ new
  stays : ∀ t c, h.connections.get t = some c →
    (∃ c', h'.connections.get t = some c' ∧ Evolves c c') ∨
      h'.connections.get t = none ∧
        ∃ x ∈ new, x.birth = c.handler.birth ∧ c.handler.calls <+: x.calls

/-- The connections are kept, the handlers passed back were closed last, and nothing has joined. -/
structure Tidied (strict : Prop) (h h' : Watched F H) : Prop where
  well : Well strict h'
  parts : ∃ new, Parts h h' new ∧ ∀ x ∈ new, ClosedLast x.calls
  vacant : ∀ t, h.connections.get t = none → h'.connections.get t = none

omit [Factory F H] [Handler H] [Host] in
lemma Tidied.trans {h d h' : Watched F H} (hd : Tidied strict h d) (hh : Tidied strict d h') :
    Tidied strict h h' := by
  obtain ⟨new, hp, hclosed⟩ := hd.parts
  obtain ⟨new', hp', hclosed'⟩ := hh.parts
  refine ⟨hh.well, ⟨new ++ new', ⟨by rw [hp'.lost, hp.lost, List.append_assoc], fun t c hc => ?_⟩,
    fun x hx => ?_⟩, fun t ht => hh.vacant t (hd.vacant t ht)⟩
  · rcases hp.stays t c hc with ⟨c1, hc1, he1⟩ | ⟨hn, x, hx, hb, hcalls⟩
    · rcases hp'.stays t c1 hc1 with ⟨c2, hc2, he2⟩ | ⟨hn, x, hx, hb, hcalls⟩
      · exact Or.inl ⟨c2, hc2, he1.trans he2⟩
      · exact Or.inr ⟨hn, x, List.mem_append_right _ hx, hb.trans he1.birth,
          he1.calls.trans hcalls⟩
    · exact Or.inr ⟨hh.vacant t hn, x, List.mem_append_left _ hx, hb, hcalls⟩
  · rcases List.mem_append.mp hx with hx | hx
    · exact hclosed x hx
    · exact hclosed' x hx

omit [Factory F H] [Handler H] [Host] in
lemma well_tidied {h h' : Watched F H} (hw : Well strict h') (hs : h'.connections = h.connections)
    (hl : h'.factory.lost = h.factory.lost) : Tidied strict h h' :=
  ⟨hw, ⟨[], ⟨by rw [List.append_nil, hl], fun t c hc => Or.inl ⟨c, by rw [hs, hc], .refl c⟩⟩,
    List.forall_mem_nil _⟩, fun t ht => by rw [hs, ht]⟩

omit [Factory F H] [Handler H] [Host] in
/-- A connection that is still live is scheduled again. -/
lemma schedule_tidied {h d : Watched F H} {t : Token} {c c' : Connection (Recorded H)}
    (hw : Well strict h) (ht : Touched h d t c c') (hl : Live c') :
    Tidied strict h (d.schedule c').1 := by
  have hkc := hw.kept t c ht.before
  have htended : Tended strict d t := by
    refine ⟨by rw [ht.poll]; exact hw.agrees, fun j b hj hb => ?_, fun b hb => ?_⟩
    · rw [ht.others j hj] at hb
      rw [ht.poll]
      exact hw.kept j b hb
    · rw [ht.after, Option.some.injEq] at hb
      subst hb
      exact ⟨ht.evolves.same.token.trans hkc.token, hl⟩
  have hsched := htended.scheduled ht.after
  rw [schedule_agrees htended.agrees] at hsched ⊢
  refine ⟨hsched, ⟨[], ⟨by rw [List.append_nil]; exact ht.lost, fun j b hb => Or.inl ?_⟩,
    List.forall_mem_nil _⟩, fun j hj => ?_⟩
  · by_cases hj : t = j
    · subst hj
      rw [ht.before, Option.some.injEq] at hb
      subst hb
      exact ⟨c', ht.after, ht.evolves⟩
    · exact ⟨b, (ht.others j hj).trans hb, .refl b⟩
  · have hne : t ≠ j := fun e => by
      rw [← e, ht.before] at hj
      cases hj
    exact (ht.others j hne).trans hj

omit [Handler H] [Host] in
/-- A dead connection is removed, and its handler passed back. -/
lemma lose_tidied {h d h' : Watched F H} {t : Token} {c c' : Connection (Recorded H)}
    (hw : Well strict h) (ht : Touched h d t c c') (hd : Dead c') (hr : d.lose t = .ok h') :
    Tidied strict h h' := by
  obtain ⟨b, hb, hlost, hget, hpoll⟩ := lose_spec hr
  rw [ht.after, Option.some.injEq] at hb
  subst hb
  refine ⟨⟨by rw [hpoll, ht.poll]; exact hw.agrees, fun j b hb => ?_⟩, ⟨[c'.handler],
    ⟨by rw [hlost, ht.lost], fun j b hb => ?_⟩, fun x hx => ?_⟩, fun j hj => ?_⟩
  · rw [hget] at hb
    split at hb
    · cases hb
    · rename_i hj
      rw [ht.others j hj] at hb
      rw [hpoll, ht.poll]
      exact hw.kept j b hb
  · by_cases hj : t = j
    · subst hj
      rw [ht.before, Option.some.injEq] at hb
      subst hb
      exact Or.inr ⟨by rw [hget, if_pos rfl], c'.handler, by simp, ht.evolves.birth,
        ht.evolves.calls⟩
    · exact Or.inl ⟨b, by rw [hget, if_neg hj, ht.others j hj, hb], .refl b⟩
  · rw [List.mem_singleton.mp hx]
    exact hd.last
  · rw [hget]
    split
    · rfl
    · rename_i hne
      exact (ht.others j hne).trans hj

/-- The connection an event was for is scheduled again, or it is dead and its handler is passed
back. -/
lemma check_active_well {h d h' : Watched F H} {t : Token} {c c' : Connection (Recorded H)}
    (hw : Well strict h) (ht : Touched h d t c c') (hl : Live c' ∨ Dead c')
    (hr : d.check_active (c'.events.is_readable || c'.events.is_writable) t = .ok h') :
    Tidied strict h h' := by
  obtain ⟨e, hat, hr⟩ := bind_eq_ok.mp hr
  have he := at_slot_eq hat
  rw [ht.after, Option.some.injEq] at he
  subst he
  rcases hl with hl | hd
  · rw [if_pos hl.wants] at hr
    have hsched := schedule_tidied hw ht hl
    have hagrees : d.poll.Agrees := by
      rw [ht.poll]
      exact hw.agrees
    rw [schedule_agrees hagrees] at hr hsched
    cases hr
    exact hsched
  · have hdone : (c'.events.is_readable || c'.events.is_writable) = false := by
      rw [hd.events]
      rfl
    rw [hdone] at hr
    exact lose_tidied hw ht hd hr

/-- **An event of a socket keeps the connections.** -/
theorem handle_socket_well {h h' : Watched F H} {t : Token} {events : Ready} (hw : Well strict h)
    (hs : h.handle_socket t events = .ok h') :
    Tidied strict h h' := by
  obtain ⟨⟨d, done⟩, hd, hs⟩ := bind_eq_ok.mp hs
  obtain ⟨c, hat, -⟩ := bind_eq_ok.mp hd
  have hc := at_slot_eq hat
  obtain ⟨rfl, c1, ht1, hl1⟩ := attempt_touched read_lively
    (fun r => by simp [Ready.and, Ready.empty, Ready.is_readable]) hc
    (Or.inl (hw.kept t c hc).live) hd
  dsimp only at hs
  rw [if_neg (by simp)] at hs
  obtain ⟨⟨e, done⟩, he, hs⟩ := bind_eq_ok.mp hs
  obtain ⟨rfl, c2, ht2, hl2⟩ := attempt_touched write_lively
    (fun r => by simp [Ready.and, Ready.empty, Ready.is_writable]) ht1.after hl1 he
  dsimp only at hs
  rw [if_neg (by simp)] at hs
  obtain ⟨b, hat', hs⟩ := bind_eq_ok.mp hs
  have hb := at_slot_eq hat'
  rw [ht2.after, Option.some.injEq] at hb
  subst hb
  exact check_active_well hw (ht1.trans ht2) hl2 hs

/-- A timeout that expires keeps the connections. -/
lemma expire_well {h h' : Watched F H} {number : ℕ} (hw : Well strict h)
    (he : h.expire number = .ok h') :
    Tidied strict h h' := by
  rcases expire_cases he with ⟨-, rfl⟩ | ⟨timeout, -, ht⟩
  · exact well_tidied hw rfl rfl
  · rcases handle_timeout_cases ht with ⟨-, rfl⟩ | ⟨c, c', hc, hc', he⟩
    · exact well_tidied ⟨hw.agrees, hw.kept⟩ rfl rfl
    · have hl : Live c' ∨ Dead c' := by
        have hlive := (hw.kept _ c hc).live
        have hn : Live (c.timeout_triggered timeout.event).1 :=
          ⟨timeout_triggered_faint hlive.faint timeout.event, hlive.wants⟩
        unfold Io.Handler.trigger at hc'
        split at hc' <;> rename_i heq <;> rw [heq] at hn
        · cases hc'
          exact Or.inl hn
        · exact error_live hn hc'
      have ht := put_touched (h := { h with timer := h.timer.expire number }) hc
        (trigger_evolves hc')
      have hdrop : Tidied strict h { h with timer := h.timer.expire number } :=
        well_tidied ⟨hw.agrees, hw.kept⟩ rfl rfl
      exact hdrop.trans (check_active_well hdrop.well ht hl he)

/-- **The timeouts that are due keep the connections.** -/
theorem expire_all_well {h h' : Watched F H} {due : List ℕ} (hw : Well strict h)
    (he : due.foldlM Io.Handler.expire h = .ok h') :
    Tidied strict h h' := by
  induction due generalizing h with
  | nil =>
    cases he
    exact well_tidied hw rfl rfl
  | cons number due ih =>
    rw [List.foldlM_cons] at he
    obtain ⟨d, hd, he⟩ := bind_eq_ok.mp he
    have htidy := expire_well hw hd
    exact htidy.trans (ih htidy.well he)

end Steps

end XnetSocket.Tidying
