import XnetSocket.Joining
import XnetSocket.Mildness

/-!
How the commands keep the connections in the slab.

As long as the poll agrees to everything, a command leaves every connection live, and when we are
`strict` about it, also registered for the interest it has. Only the errors it reports to a
connection it does not look at afterwards must be mild ones.
-/

namespace XnetSocket.Upkeep

open Buffer Runs Connection Lifecycle Evolution Custody Joining Mildness

variable {F H : Type}

/-! ### The connections in their slots -/

/-- The connection in slot `t` is live, and when `strict`, registered for its interest. -/
structure Kept (strict : Prop) (os : Os) (t : Token) (c : Connection (Recorded H)) : Prop where
  token : c.token = t
  live : Live c
  registered : strict → os.interest t = some c.events

/-- Every connection is kept but perhaps the one in slot `t`, which is live at least. -/
structure Tended (strict : Prop) (h : Watched F H) (t : Token) : Prop where
  agrees : h.poll.Agrees
  kept : ∀ j c, t ≠ j → h.connections.get j = some c → Kept strict h.poll j c
  slot : ∀ c, h.connections.get t = some c → c.token = t ∧ Live c

/-- Every connection is kept. -/
structure Well (strict : Prop) (h : Watched F H) : Prop where
  agrees : h.poll.Agrees
  kept : ∀ t c, h.connections.get t = some c → Kept strict h.poll t c

variable {strict : Prop}

lemma Well.tended {h : Watched F H} (hw : Well strict h) (t : Token) : Tended strict h t :=
  ⟨hw.agrees, fun j c _ hc => hw.kept j c hc,
    fun c hc => ⟨(hw.kept t c hc).token, (hw.kept t c hc).live⟩⟩

/-- Nothing is in the slot. -/
lemma Tended.vacant {h : Watched F H} {t : Token} (ht : Tended strict h t)
    (hn : h.connections.get t = none) : Well strict h := by
  refine ⟨ht.agrees, fun j c hc => ht.kept j c (fun e => ?_) hc⟩
  rw [← e, hn] at hc
  cases hc

lemma Tended.put {h : Watched F H} {t : Token} (ht : Tended strict h t)
    {c : Connection (Recorded H)} (htok : c.token = t) (hl : Live c) :
    Tended strict (h.put t c) t := by
  refine ⟨ht.agrees, fun j d hj hd => ?_, fun d hd => ?_⟩
  · rw [Io.Handler.put, Slab.get_set_ne hj] at hd
    exact ht.kept j d hj hd
  · rw [Io.Handler.put, Slab.get_set] at hd
    split at hd
    · cases hd
      exact ⟨htok, hl⟩
    · exact ht.slot d hd

/-- A connection that is put back with the interest it had is still kept. -/
lemma Well.put {h : Watched F H} {t : Token} (hw : Well strict h)
    {c c' : Connection (Recorded H)} (hc : h.connections.get t = some c) (htok : c'.token = c.token)
    (hl : Live c') (he : strict → c'.events = c.events) : Well strict (h.put t c') := by
  refine ⟨hw.agrees, fun j d hd => ?_⟩
  have hk := hw.kept t c hc
  by_cases hj : t = j
  · subst hj
    rw [get_put hc, Option.some.injEq] at hd
    subst hd
    exact ⟨htok.trans hk.token, hl, fun hs => by rw [he hs]; exact hk.registered hs⟩
  · rw [Io.Handler.put, Slab.get_set_ne hj] at hd
    exact hw.kept j d hd

/-- Scheduling when the poll agrees. -/
lemma schedule_agrees {h : Watched F H} (hp : h.poll.Agrees) (c : Connection (Recorded H)) :
    h.schedule c = ({ h with poll := { h.poll with
      polls := h.poll.polls.tail
      interest := Function.update h.poll.interest c.token (some c.events) } }, .ok ()) := by
  unfold Io.Handler.schedule Os.reregister
  rw [hp.register]

/-- Scheduling all connections has no failures either. -/
lemma schedule_all_agrees {h : Watched F H} (hp : h.poll.Agrees) :
    ∃ os, h.schedule_all = ({ h with poll := os }, []) := by
  have hall : ∃ os : Os, os.Agrees ∧ h.schedule_all = ({ h with poll := os }, []) := by
    unfold Io.Handler.schedule_all
    refine List.foldlRecOn (motive := fun acc : Watched F H × List (Token × Error) =>
      ∃ os : Os, os.Agrees ∧ acc = ({ h with poll := os }, [])) _ _ ⟨h.poll, hp, rfl⟩ ?_
    rintro acc ⟨os, hos, rfl⟩ slot -
    unfold Io.Handler.schedule_slot
    split
    · rw [schedule_agrees hos]
      exact ⟨_, hos.tail _, rfl⟩
    · exact ⟨os, hos, rfl⟩
  obtain ⟨os, -, hall⟩ := hall
  exact ⟨os, hall⟩

/-- Scheduling the connection in the slot keeps it. -/
lemma Tended.scheduled {h : Watched F H} {t : Token} (ht : Tended strict h t)
    {c : Connection (Recorded H)} (hc : h.connections.get t = some c) :
    Well strict (h.schedule c).1 := by
  obtain ⟨htok, hl⟩ := ht.slot c hc
  rw [schedule_agrees ht.agrees]
  refine ⟨ht.agrees.tail _, fun j d hd => ?_⟩
  by_cases hj : t = j
  · subst hj
    rw [hc, Option.some.injEq] at hd
    subst hd
    refine ⟨htok, hl, fun _ => ?_⟩
    simp only [htok, Function.update_self]
  · have hk := ht.kept j d hj hd
    refine ⟨hk.token, hk.live, fun hs => ?_⟩
    simp only [htok]
    rw [Function.update_of_ne (Ne.symm hj)]
    exact hk.registered hs

section Steps

variable [Handler H] [Host]

lemma schedule_at_well {h h' : Watched F H} {t : Token} (ht : Tended strict h t)
    (hs : h.schedule_at t = .ok h') : Well strict h' := by
  unfold Io.Handler.schedule_at at hs
  split at hs
  · rename_i c hc
    have hw := ht.scheduled hc
    rw [schedule_agrees ht.agrees] at hs hw
    cases hs
    exact hw
  · rename_i hn
    cases hs
    exact ht.vacant hn

lemma with_id_tended {h h' : Watched F H} {t : Token} {id : UInt32}
    {f : Connection (Recorded H) → Except Panic (Connection (Recorded H) × Result Unit)}
    (hf : Gentle f) (hw : Well strict h) (hr : h.with_id t id f = .ok h') :
    Tended strict h' t := by
  unfold Io.Handler.with_id at hr
  split at hr
  · rename_i c hc
    have hk := hw.kept t c hc
    split at hr
    · obtain ⟨⟨d, res⟩, hd, hr⟩ := bind_eq_ok.mp hr
      obtain ⟨hl, he, hstay⟩ := hf c d res hk.live hd
      rcases res with err | u
      · obtain ⟨e, hee, hr⟩ := bind_eq_ok.mp hr
        cases hr
        exact (hw.tended t).put
          ((error_evolves hee).same.token.trans (he.same.token.trans hk.token))
          (error_stays hl (hstay err rfl) hee)
      · cases hr
        exact (hw.tended t).put (he.same.token.trans hk.token) hl
    · cases hr
      exact hw.tended t
  · cases hr
    exact hw.tended t

lemma error_at_well {h h' : Watched F H} {t : Token} {err : Error} (hw : Well strict h)
    (hm : ∀ c, h.connections.get t = some c → Mild strict c err)
    (he : h.error_at t err = .ok h') : Well strict h' := by
  unfold Io.Handler.error_at at he
  split at he
  · rename_i c hc
    obtain ⟨d, hd, he⟩ := bind_eq_ok.mp he
    cases he
    obtain ⟨hl, hev, -⟩ := error_mild (hw.kept t c hc).live (hm c hc) hd
    exact hw.put hc (error_evolves hd).same.token hl hev
  · cases he
    exact hw

/-! ### Visits of all connections -/

omit [Handler H] [Host] in
/-- Visiting every connection with something that leaves it live and its interest as it was. -/
lemma iter_mut_well {h : Watched F H} {A : Type}
    {f : Connection (Recorded H) → Except Panic (Connection (Recorded H) × List A)}
    {conns : Slab (Connection (Recorded H))} {as : List A} (hw : Well strict h)
    (hf : ∀ t c c' as, h.connections.get t = some c → f c = .ok (c', as) →
      Live c' ∧ c'.token = c.token ∧ (strict → c'.events = c.events))
    (hi : h.connections.iter_mut f = .ok (conns, as)) :
    Well strict { h with connections := conns } := by
  refine ⟨hw.agrees, fun t c' hc' => ?_⟩
  obtain ⟨c, hc, cs, hfc⟩ := Slab.iter_mut_rel (R := fun x x' => ∃ cs, f x = .ok (x', cs))
    (fun x x' cs hx => ⟨cs, hx⟩) hi hc'
  obtain ⟨hl, htok, he⟩ := hf t c c' cs hc hfc
  have hk := hw.kept t c hc
  exact ⟨htok.trans hk.token, hl, fun hs => by rw [he hs]; exact hk.registered hs⟩

omit [Handler H] [Host] in
/-- What a visit of all connections leaves, and whose failures it collects. -/
lemma for_each_well {h h' : Watched F H} {dead : List (Token × Error)}
    {f : Connection (Recorded H) → Except Panic (Connection (Recorded H) × Result Unit)}
    (hf : Gentle f) (hw : Well False h) (he : h.for_each f = .ok (h', dead)) :
    Well False h' ∧ ∀ p ∈ dead, ∃ t c c', h.connections.get t = some c ∧
      f c = .ok (c', .error p.2) ∧ h'.connections.get t = some c' ∧ p.1 = c'.token := by
  obtain ⟨⟨conns, as⟩, hi, he⟩ := bind_eq_ok.mp he
  cases he
  constructor
  · refine iter_mut_well hw (fun t c c' cs hc hfc => ?_) hi
    obtain ⟨⟨d, res⟩, hres, hfc⟩ := bind_eq_ok.mp hfc
    obtain ⟨hl, hev, -⟩ := hf c d res (hw.kept t c hc).live hres
    rcases res with err | u <;> cases hfc <;> exact ⟨hl, hev.same.token, False.elim⟩
  · intro p hp
    obtain ⟨t, c, c', cs, hc, hfc, hc', hpc⟩ := Slab.iter_mut_out hi hp
    obtain ⟨⟨d, res⟩, hres, hfc⟩ := bind_eq_ok.mp hfc
    rcases res with err | u <;> cases hfc
    · rw [List.mem_singleton.mp hpc]
      exact ⟨t, c, c', hc, hres, hc', rfl⟩
    · cases hpc

/-- What scheduling the slots in `l` leaves, when the poll agrees. -/
structure Scheduled (h : Watched F H) (l : List Token)
    (acc : Watched F H × List (Token × Error)) : Prop where
  slots : acc.1.connections = h.connections
  none : acc.2 = []
  agrees : acc.1.poll.Agrees
  registered : ∀ t ∈ l, ∀ c, h.connections.get t = some c → acc.1.poll.interest t = some c.events

omit [Handler H] [Host] in
lemma scheduled_foldl {h : Watched F H} (hw : Well False h) (l : List Token) :
    Scheduled h l (l.foldl (Io.Handler.schedule_slot h.connections) (h, [])) := by
  induction l using List.reverseRecOn with
  | nil => exact ⟨rfl, rfl, hw.agrees, fun t ht => by cases ht⟩
  | append_singleton l t ih =>
    rw [List.foldl_append, List.foldl_cons, List.foldl_nil]
    set acc := l.foldl (Io.Handler.schedule_slot h.connections) (h, []) with hacc
    unfold Io.Handler.schedule_slot
    rcases hc : h.connections.get t with _ | c
    · refine ⟨ih.slots, ih.none, ih.agrees, fun j hj d hd => ?_⟩
      rcases List.mem_append.mp hj with hj | hj
      · exact ih.registered j hj d hd
      · rw [List.mem_singleton.mp hj, hc] at hd
        cases hd
    · dsimp only
      rw [schedule_agrees ih.agrees]
      have htok := (hw.kept t c hc).token
      refine ⟨ih.slots, ih.none, ih.agrees.tail _, fun j hj d hd => ?_⟩
      simp only [htok]
      by_cases hjt : j = t
      · subst hjt
        rw [hc, Option.some.injEq] at hd
        rw [Function.update_self, hd]
      · rw [Function.update_of_ne hjt]
        rcases List.mem_append.mp hj with hj | hj
        · exact ih.registered j hj d hd
        · exact absurd (List.mem_singleton.mp hj) hjt

omit [Handler H] [Host] in
/-- Scheduling all connections registers them all, when the poll agrees. -/
lemma schedule_all_well {h : Watched F H} (hw : Well False h) :
    Well strict h.schedule_all.1 ∧ h.schedule_all.2 = [] ∧
      h.schedule_all.1.connections = h.connections := by
  have hs := scheduled_foldl hw h.connections.keys
  refine ⟨⟨hs.agrees, fun t c hc => ?_⟩, hs.none, hs.slots⟩
  have hc' : h.connections.get t = some c := by
    rw [← hc]
    exact congrArg (fun s => Slab.get s t) hs.slots.symm
  have hk := hw.kept t c hc'
  exact ⟨hk.token, hk.live, fun _ => hs.registered t (Slab.mem_keys.mpr (by simp [hc'])) c hc'⟩

/-- Reporting failures that are mild wherever they are reported. -/
lemma bury_all_well {h h' : Watched F H} {dead : List (Token × Error)} (hw : Well strict h)
    (hd : ∀ p ∈ dead, disconnects p.2.kind = false ∧
      (strict → ∀ c, h.connections.get p.1 = some c → Steadfast c))
    (hf : dead.foldlM Io.Handler.bury h = .ok h') : Well strict h' := by
  induction dead generalizing h with
  | nil => cases hf; exact hw
  | cons p dead ih =>
    rw [List.foldlM_cons] at hf
    obtain ⟨g, hg, hf⟩ := bind_eq_ok.mp hf
    obtain ⟨c, hat, hg⟩ := bind_eq_ok.mp hg
    obtain ⟨c', he, hg⟩ := bind_eq_ok.mp hg
    cases hg
    have hc := at_slot_eq hat
    obtain ⟨hk, hst⟩ := hd p (by simp)
    have hm : Mild strict c p.2 := ⟨hk, fun hs _ => hst hs c hc⟩
    obtain ⟨hl, hev, hstead⟩ := error_mild (hw.kept p.1 c hc).live hm he
    refine ih (hw.put hc (error_evolves he).same.token hl hev) (fun q hq => ?_) hf
    obtain ⟨hkq, hstq⟩ := hd q (List.mem_cons_of_mem _ hq)
    refine ⟨hkq, fun hs e hge => ?_⟩
    by_cases hpq : p.1 = q.1
    · rw [← hpq, get_put hc, Option.some.injEq] at hge
      rw [← hge]
      exact hstead (hst hs c hc)
    · rw [Io.Handler.put, Slab.get_set_ne hpq] at hge
      exact hstq hs e hge

/-- The end of a broadcast whose failures are mild. -/
lemma finish_broadcast_well {h h' : Watched F H} {dead : List (Token × Error)} (hw : Well False h)
    (hd : ∀ p ∈ dead, disconnects p.2.kind = false ∧
      (strict → ∀ c, h.connections.get p.1 = some c → Steadfast c))
    (hf : h.finish_broadcast dead = .ok h') : Well strict h' := by
  obtain ⟨hs, hnone, hslots⟩ : Well strict h.schedule_all.1 ∧ h.schedule_all.2 = [] ∧
      h.schedule_all.1.connections = h.connections := schedule_all_well hw
  unfold Io.Handler.finish_broadcast at hf
  rcases hall : h.schedule_all with ⟨d, more⟩
  rw [hall] at hf hs hnone hslots
  dsimp only at hnone hslots hs hf
  subst hnone
  rw [List.append_nil] at hf
  exact bury_all_well hs (fun p hp => ⟨(hd p hp).1, fun hst c hc =>
    (hd p hp).2 hst c (by rw [← hslots]; exact hc)⟩) hf

variable [Factory F H]

omit [Host] in
/-- A shutdown asks every connection to close. -/
lemma shutdown_slots {h h' : Watched F H} (hs : h.shutdown = .ok h') :
    h'.poll = h.poll ∧ ∀ t c', h'.connections.get t = some c' →
      ∃ c, h.connections.get t = some c ∧ c.shutdown = .ok c' := by
  obtain ⟨⟨conns, us⟩, hi, hs⟩ := bind_eq_ok.mp hs
  dsimp only at hs
  split at hs <;> cases hs
  refine ⟨rfl, fun t c' hc' => ?_⟩
  obtain ⟨c, hc, cs, hfc⟩ := Slab.iter_mut_rel (R := fun x x' => ∃ cs, (do
    let c ← Connection.shutdown x
    .ok (c, ([] : List Unit))) = Except.ok (x', cs)) (fun x x' cs hx => ⟨cs, hx⟩) hi hc'
  obtain ⟨d, hd, hfc⟩ := bind_eq_ok.mp hfc
  cases hfc
  exact ⟨c, hc, hd⟩

omit [Host] in
/-- After a shutdown all connections are live; one whose interest was up to date keeps it. -/
lemma shutdown_tended {h h' : Watched F H} {t : Token} (hw : Well strict h)
    (hst : strict → ∀ j c, t ≠ j → h.connections.get j = some c → Steadfast c)
    (hs : h.shutdown = .ok h') : Tended strict h' t := by
  obtain ⟨hpoll, hslots⟩ := shutdown_slots hs
  refine ⟨by rw [hpoll]; exact hw.agrees, fun j c' hj hc' => ?_, fun c' hc' => ?_⟩
  · obtain ⟨c, hc, hsc⟩ := hslots j c' hc'
    have hk := hw.kept j c hc
    refine ⟨(shutdown_evolves hsc).same.token.trans hk.token, shutdown_live hk.live.faint hsc,
      fun hstrict => ?_⟩
    have hev : c'.events = c.events := by
      rw [shutdown_result hk.live.faint.opened hsc, closing_events hk.live.faint.opened]
      exact hst hstrict j c hj hc
    rw [hpoll, hev]
    exact hk.registered hstrict
  · obtain ⟨c, hc, hsc⟩ := hslots t c' hc'
    have hk := hw.kept t c hc
    exact ⟨(shutdown_evolves hsc).same.token.trans hk.token, shutdown_live hk.live.faint hsc⟩

omit [Factory F H] [Handler H] [Host] in
lemma Well.weaken {h : Watched F H} (hw : Well strict h) : Well False h :=
  ⟨hw.agrees, fun t c hc => ⟨(hw.kept t c hc).token, (hw.kept t c hc).live, False.elim⟩⟩

omit [Factory F H] [Handler H] [Host] in
/-- Every connection is live, whether registered or not. -/
lemma Tended.weaken {h : Watched F H} {t : Token} (ht : Tended strict h t) : Well False h := by
  refine ⟨ht.agrees, fun j c hc => ?_⟩
  by_cases hj : t = j
  · subst hj
    exact ⟨(ht.slot c hc).1, (ht.slot c hc).2, False.elim⟩
  · have hk := ht.kept j c hj hc
    exact ⟨hk.token, hk.live, False.elim⟩

/-! ### Connections that join -/

omit [Host] in
lemma Agrees.subset {os os' : Os} (ha : os.Agrees) (hs : os'.polls ⊆ os.polls) : os'.Agrees :=
  fun p hp => ha p (hs hp)

omit [Factory F H] [Handler H] [Host] in
lemma Joined.well {h h' : Watched F H} {tok : Token} {c : Connection (Recorded H)}
    (hw : Well strict h) (hj : Joined h h' tok c) : Well strict h' := by
  refine ⟨Agrees.subset hw.agrees hj.polls, fun t d hd => ?_⟩
  rw [hj.get] at hd
  split at hd
  · rename_i ht
    subst ht
    cases hd
    refine ⟨hj.token, ⟨⟨Or.inl hj.opened, ?_⟩, ?_⟩, fun _ => ?_⟩
    · rw [hj.calls]
      rfl
    · rw [hj.events]
      rfl
    · rw [hj.interest, hj.events, Function.update_self]
  · rename_i ht
    have hk := hw.kept t d hd
    refine ⟨hk.token, hk.live, fun hs => ?_⟩
    rw [hj.interest, Function.update_of_ne (Ne.symm ht)]
    exact hk.registered hs

omit [Factory F H] [Handler H] [Host] in
lemma Unjoined.well {h h' : Watched F H} (hw : Well strict h) (hu : Unjoined h h') :
    Well strict h' := by
  refine ⟨Agrees.subset hw.agrees hu.polls, fun t c hc => ?_⟩
  rw [hu.slots] at hc
  have hk := hw.kept t c hc
  exact ⟨hk.token, hk.live, fun hs => by rw [hu.interest]; exact hk.registered hs⟩

/-- A request that fails is mild for the connection it is reported to. -/
def MildRequest (strict : Prop) (h : Watched F H) (t : Token) (url : String) : Prop :=
  ∀ c err, h.connections.get t = some c → connect_failure h url = some err → Mild strict c err

lemma accept_well {h h' : Watched F H} {sock : TcpStream} {res : Result Unit}
    (hw : Well strict h) (ha : h.accept sock = .ok (h', res)) : Well strict h' := by
  rcases accept_cases ha with ⟨err, -, hslots, -, hidle⟩ | ⟨-, tok, c, hj | hstr⟩
  · refine ⟨fun p hp => hw.agrees p (by rw [← hidle.polls]; exact hp), fun t c hc => ?_⟩
    rw [hslots] at hc
    have hk := hw.kept t c hc
    exact ⟨hk.token, hk.live, fun hs => by rw [hidle.interest]; exact hk.registered hs⟩
  · exact Joined.well hw hj
  · obtain ⟨err, rest, hp⟩ := hstr.answer
    have := hw.agrees (.error err) (by rw [hp]; simp)
    cases this

/-! ### Commands -/

/-- The command reports only mild errors to a connection it does not look at afterwards. -/
def MildCommand (strict : Prop) (h : Watched F H) (cmd : Command) : Prop :=
  match cmd.signal with
  | .Message _ => strict → cmd.token = ALL → ∀ t c, h.connections.get t = some c → Full c →
      Steadfast c
  | .Shutdown => strict → cmd.token ≠ ALL → ∀ t c, cmd.token ≠ t → h.connections.get t = some c →
      Steadfast c
  | .Connect url => MildRequest strict h cmd.token url
  | .Timeout delay event => ∀ timeout,
      (h.timer.set_timeout delay ⟨cmd.token, event⟩).2 = .ok timeout →
      ∀ t c, cmd.token = ALL ∨ cmd.token = t → h.connections.get t = some c →
        MildTimeout strict event timeout c
  | _ => True

lemma handle_broadcast_well {h h' : Watched F H} {cmd : Command} (hw : Well strict h)
    (hall : cmd.token = ALL) (hm : MildCommand strict h cmd)
    (hb : h.handle_broadcast cmd.signal = .ok h') : Well strict h' := by
  unfold MildCommand at hm
  rcases hsig : cmd.signal with msg | ⟨code, reason⟩ | url | _ | ⟨delay, event⟩ | timeout <;>
    rw [hsig] at hb hm
  · -- a message
    obtain ⟨⟨d, dead⟩, hd, hb⟩ := bind_eq_ok.mp hb
    obtain ⟨hwd, hdead⟩ := for_each_well (send_message_gentle msg) hw.weaken hd
    refine finish_broadcast_well hwd (fun p hp => ?_) hb
    obtain ⟨t, c, c', hc, hfc, hc', htok⟩ := hdead p hp
    obtain ⟨rfl, hkind, hfull⟩ := send_message_refused hfc
    refine ⟨by rw [hkind]; rfl, fun hs e he => ?_⟩
    rw [htok, (hw.kept t c' hc).token, hc', Option.some.injEq] at he
    rw [← he]
    exact hm hs hall t c' hc hfull
  · -- a close request
    obtain ⟨⟨d, dead⟩, hd, hb⟩ := bind_eq_ok.mp hb
    obtain ⟨hwd, hdead⟩ := for_each_well (send_close_gentle code reason) hw.weaken hd
    refine finish_broadcast_well hwd (fun p hp => ?_) hb
    obtain ⟨t, c, c', -, hfc, -⟩ := hdead p hp
    cases send_close_res hfc
  · -- a request
    obtain ⟨⟨d, res⟩, hc, hb⟩ := bind_eq_ok.mp hb
    have hwd : Well strict d := by
      rcases connect_cases hc with ⟨err, -, -, hu⟩ | ⟨-, -, tok, c, hj⟩
      · exact Unjoined.well hw hu
      · exact Joined.well hw hj
    rcases res with err | u
    · dsimp only at hb
      split at hb <;> cases hb
      exact hwd
    · cases hb
      exact hwd
  · -- a shutdown
    obtain ⟨d, hd, hb⟩ := bind_eq_ok.mp hb
    refine finish_broadcast_well ?_ (fun p hp => by cases hp) hb
    exact (shutdown_tended (t := ALL) hw.weaken False.elim hd).weaken
  · -- a timeout
    simp only [Io.Handler.handle_broadcast] at hb
    rcases hset : h.timer.set_timeout delay ⟨ALL, event⟩ with ⟨timer, err | timeout⟩
    · simp only [hset] at hb
      split at hb <;> cases hb
      exact ⟨hw.agrees, hw.kept⟩
    · simp only [hset] at hb
      obtain ⟨⟨conns, us⟩, hi, hb⟩ := bind_eq_ok.mp hb
      cases hb
      have hwc := iter_mut_well hw (fun t c c' cs hc hfc => ?_) hi
      · exact ⟨hwc.agrees, hwc.kept⟩
      · obtain ⟨d, hd, hfc⟩ := bind_eq_ok.mp hfc
        cases hfc
        obtain ⟨hl, hev⟩ := take_timeout_mild (hw.kept t c hc).live
          (hm timeout (by rw [hall, hset]) t c (Or.inl hall) hc) hd
        exact ⟨hl, (take_timeout_evolves hd).same.token, hev⟩
  · cases hb
    exact ⟨hw.agrees, hw.kept⟩

lemma handle_directed_well {h h' : Watched F H} {cmd : Command} (hw : Well strict h)
    (hall : cmd.token ≠ ALL) (hm : MildCommand strict h cmd)
    (hd : h.handle_directed cmd.token cmd.connection_id cmd.signal = .ok h') : Well strict h' := by
  unfold MildCommand at hm
  rcases hsig : cmd.signal with msg | ⟨code, reason⟩ | url | _ | ⟨delay, event⟩ | timeout <;>
    rw [hsig] at hd hm
  · -- a message
    obtain ⟨d, hw', hd⟩ := bind_eq_ok.mp hd
    exact schedule_at_well (with_id_tended (send_message_gentle msg) hw hw') hd
  · -- a close request
    obtain ⟨d, hw', hd⟩ := bind_eq_ok.mp hd
    exact schedule_at_well (with_id_tended (send_close_gentle code reason) hw hw') hd
  · -- a request
    obtain ⟨⟨d, res⟩, hc, hd⟩ := bind_eq_ok.mp hd
    rcases connect_cases hc with ⟨err, hfail, rfl, hu⟩ | ⟨-, rfl, tok, c, hj⟩
    · have hwd := Unjoined.well hw hu
      dsimp only at hd
      split at hd
      · exact error_at_well hwd (fun c hc => hm c err (by rw [← hu.slots]; exact hc) hfail) hd
      · split at hd <;> cases hd
        exact hwd
    · cases hd
      exact Joined.well hw hj
  · -- a shutdown
    obtain ⟨d, hs, hd⟩ := bind_eq_ok.mp hd
    exact schedule_at_well (shutdown_tended hw (fun hst j c hj hc => hm hst hall j c hj hc) hs) hd
  · -- a timeout
    simp only [Io.Handler.handle_directed] at hd
    rcases hset : h.timer.set_timeout delay ⟨cmd.token, event⟩ with ⟨timer, err | timeout⟩
    · simp only [hset] at hd
      refine error_at_well (h := { h with timer := timer }) ⟨hw.agrees, hw.kept⟩
        (fun c _ => ⟨rfl, fun _ hk => by cases hk⟩) hd
    · simp only [hset] at hd
      split at hd
      · rename_i c hc
        obtain ⟨c', hc', hd⟩ := bind_eq_ok.mp hd
        cases hd
        obtain ⟨hl, hev⟩ := take_timeout_mild (hw.kept cmd.token c hc).live
          (hm timeout (by rw [hset]) cmd.token c (Or.inr rfl) hc) hc'
        have hwp := hw.put hc (take_timeout_evolves hc').same.token hl hev
        exact ⟨hwp.agrees, hwp.kept⟩
      · cases hd
        exact ⟨hw.agrees, hw.kept⟩
  · cases hd
    exact ⟨hw.agrees, hw.kept⟩

/-- **A command keeps the connections.** -/
theorem handle_queue_well {h h' : Watched F H} {cmd : Command} (hw : Well strict h)
    (hm : cmd.token ≠ SYSTEM → MildCommand strict h cmd) (hq : h.handle_queue cmd = .ok h') :
    Well strict h' := by
  unfold Io.Handler.handle_queue at hq
  split at hq
  · cases hq
    exact hw
  · rename_i hsys
    split at hq
    · rename_i hall
      exact handle_broadcast_well hw hall (hm hsys) hq
    · rename_i hall
      exact handle_directed_well hw hall (hm hsys) hq

end Steps

end XnetSocket.Upkeep
