import XnetSocket.Indexing
import XnetSocket.Housekeeping
import XnetSocket.Lingering

/-!
One batch of events.

Every event of a socket was reported for the connection that was in its slot when the poll
returned. The events of the batch before it leave that connection where it is, but for one kind: a
timeout that expires can remove any connection, and the event that is still to come finds its slot
empty, or somebody else in it.
-/

namespace XnetSocket.Batches

open Buffer Runs Connection Lifecycle Evolution Custody Joining Mildness Occupancy Housekeeping
  Touches Deeds Indexing Lingering

variable {F H : Type}

/-! ### Whom a timeout removes -/

/-- The connection wants something of its socket. -/
def wants (c : Connection (Recorded H)) : Bool := c.events.is_readable || c.events.is_writable

/-- The next registration asked for will be refused. -/
def Refuses (os : Os) : Prop := ∃ err rest, os.polls = .error err :: rest

lemma register_refuses {os : Os} (token : Token) (interest : Ready) :
    (∃ os' err, os.register token interest = (os', .error err)) ↔ Refuses os := by
  unfold Os.register Refuses
  split
  · rename_i err rest hp
    exact ⟨fun _ => ⟨err, rest, hp⟩, fun _ => ⟨_, err, rfl⟩⟩
  · rename_i hp
    constructor
    · rintro ⟨os', err, h⟩
      cases h
    · rintro ⟨err, rest, h⟩
      exact absurd h (hp err rest)

section Steps

variable [Factory F H] [Handler H] [Host] {g g' h h' : Watched F H}

/-- The timeout leaves the connection with nothing it wants: its handler returns an error that
disconnects, or it wanted nothing before and the closing handshake is not started. -/
def Ends (event : Token) (c : Connection (Recorded H)) : Prop :=
  match (Handler.on_timeout c.handler event).2 with
  | .ok () => wants c = false
  | .error err =>
    disconnects err.kind = true ∨ starts_closing err.kind = false ∧ wants c = false

/-- The timeout, expiring now, removes the connection in slot `t`. -/
def Expels (t : Token) (g : Watched F H) (number : ℕ) : Prop :=
  ∃ event c, g.timer.find number = some ⟨t, event⟩ ∧ g.connections.get t = some c ∧
    (Ends event c ∨ Refuses g.poll)

omit [Factory F H] [Host] in
lemma Expels.there {t : Token} {number : ℕ} (he : Expels t g number) :
    ∃ c, g.connections.get t = some c := by
  obtain ⟨-, c, -, hc, -⟩ := he
  exact ⟨c, hc⟩

omit [Handler H] [Host] in
lemma check_events_wants {c : Connection (Recorded H)} (hc : Opened c) :
    wants c.check_events = true := by
  unfold wants check_events
  rw [if_neg (by simp [hc.not_connecting])]
  split <;> simp [Ready.insert, readable, Ready.is_readable]

/-- When an error leaves an opened connection with nothing it wants. -/
lemma error_wants {c d : Connection (Recorded H)} {err : Error} (hc : Opened c)
    (h : c.error err = .ok d) :
    wants d = false ↔
      disconnects err.kind = true ∨ starts_closing err.kind = false ∧ wants c = false := by
  have hclose : ∀ {panics code}, c.close_on err panics code = .ok d → wants d = true := by
    intro panics code hd
    rw [close_on_result hc hd]
    exact check_events_wants (Or.inr rfl)
  have hreport : ∀ {panics}, c.report err panics = .ok d → wants d = wants c := by
    intro panics hd
    unfold report at hd
    split at hd <;> cases hd
    rfl
  have hends : ∀ {panics}, (c.report err panics >>= fun c => .ok c.disconnect) = .ok d →
      wants d = false := by
    intro panics hd
    obtain ⟨e, -, hd⟩ := bind_eq_ok.mp hd
    cases hd
    unfold disconnect
    split <;> rfl
  unfold Connection.error at h
  split at h
  · rename_i hs
    rcases hc with hs' | hs' <;> rw [hs'] at hs <;> cases hs
  · cases hk : err.kind <;> rw [hk] at h <;> simp only [disconnects, starts_closing]
    · simp [hclose h]
    · simp [hclose h]
    · simp [hclose h]
    · simp [hclose h]
    · simp [hends h]
    · simp [hends h]
    · simp [hreport h]
    · simp [hreport h]
    · simp [hreport h]

lemma trigger_ends {c d : Connection (Recorded H)} {event : Token} (hc : Opened c)
    (h : Io.Handler.trigger event c = .ok d) : Ends event c ↔ wants d = false := by
  have hn : (c.timeout_triggered event) = ({ c with
      handler := (Handler.on_timeout c.handler event).1 },
        (Handler.on_timeout c.handler event).2) := rfl
  unfold Io.Handler.trigger at h
  unfold Ends
  rw [hn] at h
  rcases hcall : Handler.on_timeout c.handler event with ⟨handler, err | u⟩ <;> rw [hcall] at h
  · exact (error_wants (c := { c with handler := handler }) hc h).symm
  · cases h
    exact Iff.rfl

/-- A connection that is checked stays as it is, or is gone. -/
lemma check_active_gone {t : Token} {c : Connection (Recorded H)}
    (hc : g.connections.get t = some c) (hr : g.check_active (wants c) t = .ok g') :
    (¬ (wants c = false ∨ Refuses g.poll) → g'.connections = g.connections) ∧
      (wants c = false ∨ Refuses g.poll → g'.connections.get t = none) := by
  have hgone : ∀ {d : Watched F H}, d.lose t = .ok g' → g'.connections.get t = none := by
    intro d hl
    obtain ⟨_, -, -, hget, -⟩ := lose_spec hl
    rw [hget, if_pos rfl]
  have hpoll := @register_refuses g.poll c.token c.events
  unfold Io.Handler.check_active Io.Handler.schedule Os.reregister at hr
  rw [at_slot_of_get hc, ok_bind] at hr
  rcases hw : wants c with _ | _ <;> rw [hw] at hr
  · exact ⟨fun hn => absurd (Or.inl rfl) hn, fun _ => hgone hr⟩
  · rcases hreg : g.poll.register c.token c.events with ⟨os, err | u⟩ <;> rw [hreg] at hr hpoll
    · have hrefuses := hpoll.mp ⟨os, err, rfl⟩
      obtain ⟨d, -, hr⟩ := bind_eq_ok.mp hr
      exact ⟨fun hn => absurd (Or.inr hrefuses) hn, fun _ => hgone hr⟩
    · cases hr
      refine ⟨fun _ => rfl, fun hor => ?_⟩
      obtain ⟨os', err, h⟩ := hpoll.mpr (hor.resolve_left (by simp))
      cases h

/-- **Whom a timeout removes.** The connection in slot `t` is there after a timeout, unless the
timeout expels it. -/
theorem expire_expels {t : Token} {c : Connection (Recorded H)} {number : ℕ}
    (ho : AllOpened g) (hc : g.connections.get t = some c) (he : g.expire number = .ok g') :
    (¬ Expels t g number → ∃ c', g'.connections.get t = some c' ∧ Evolves c c') ∧
      (Expels t g number → g'.connections.get t = none) := by
  rcases expire_cases he with ⟨hf, rfl⟩ | ⟨⟨u, event⟩, hf, ht⟩
  · refine ⟨fun _ => ⟨c, hc, .refl c⟩, fun ⟨_, _, hn, _⟩ => ?_⟩
    rw [hf] at hn
    cases hn
  rcases handle_timeout_cases ht with ⟨hnone, rfl⟩ | ⟨b, d, hb, hd, hr⟩
  · -- the slot it is for is empty
    refine ⟨fun _ => ⟨c, hc, .refl c⟩, fun ⟨_, _, hn, _⟩ => ?_⟩
    rw [hf] at hn
    cases hn
    exact hnone
  by_cases hu : u = t
  · subst hu
    cases hc.symm.trans hb
    have hends := trigger_ends (ho u c hc) hd
    have hput := get_put (h := { g with timer := g.timer.expire number }) hc d
    obtain ⟨hstays, hgone⟩ := check_active_gone hput hr
    constructor
    · intro hn
      have hkept := hstays fun hor => hn ⟨event, c, hf, hc, hor.imp_left hends.mpr⟩
      exact ⟨d, by rw [hkept]; exact hput, trigger_evolves hd⟩
    · rintro ⟨event', c', hfind, hc', hor⟩
      cases hf.symm.trans hfind
      cases hc.symm.trans hc'
      exact hgone (hor.imp_left hends.mp)
  · -- it is for another slot
    refine ⟨fun _ => ⟨c, ?_, .refl c⟩, fun ⟨_, _, hn, _⟩ => ?_⟩
    · rcases check_active_slots hr with hslots | hslots
      · rw [hslots]
        exact (Slab.get_set_ne hu).trans hc
      · rw [hslots, if_neg hu]
        exact (Slab.get_set_ne hu).trans hc
    · cases hf.symm.trans hn
      exact absurd rfl hu

/-! ### Who stays through an input -/

/-- The token of an event. -/
def token : Io.Input → Option Token
  | .send _ => none
  | .event evt => some evt.token

/-- No timeout that expires in the input expels the connection in slot `t`. -/
def Spares (t : Token) (g : Watched F H) : Io.Input → Prop
  | .send _ => True
  | .event evt => evt.token = TIMER →
    Along Io.Handler.expire (fun d number => ¬ Expels t d number) (g.supply TIMER evt.answers)
      evt.answers.due

lemma expire_opened (ho : AllOpened g) {number : ℕ} (he : g.expire number = .ok g') :
    AllOpened g' :=
  ((expire_deeds ho number).holds g' he).opened ho

/-- Timeouts that spare a connection leave it in its slot. -/
lemma expire_all_spared {t : Token} {c : Connection (Recorded H)} {due : List ℕ}
    (ho : AllOpened g) (hc : g.connections.get t = some c)
    (hs : Along Io.Handler.expire (fun d number => ¬ Expels t d number) g due)
    (he : run Io.Handler.expire g due = .ok g') :
    ∃ c', g'.connections.get t = some c' ∧ Evolves c c' := by
  have hinv := run_inv (I := fun d : Watched F H =>
    AllOpened d ∧ ∃ c', d.connections.get t = some c' ∧ Evolves c c') ?_ ⟨ho, c, hc, .refl c⟩ hs he
  · exact hinv.2
  · rintro d number d' ⟨hod, c', hc', hev⟩ hn hd
    obtain ⟨e, he, hev'⟩ := (expire_expels hod hc' hd).1 hn
    exact ⟨expire_opened hod hd, e, he, hev.trans hev'⟩

/-- An event of a socket is for a connection that is there. -/
lemma handle_socket_slot {t : Token} {events : Ready} (hs : g.handle_socket t events = .ok g') :
    ∃ c, g.connections.get t = some c := by
  obtain ⟨_, hr, -⟩ := bind_eq_ok.mp hs
  obtain ⟨c, hc, -⟩ := bind_eq_ok.mp hr
  exact ⟨c, at_slot_eq hc⟩

/-- **Who stays through an input.** A connection stays in its slot through every input that is no
event of its own and has no timeout that expels it. -/
theorem input_stays {i : Io.Input} {t : Token} {c : Connection (Recorded H)} (ho : AllOpened g)
    (hc : g.connections.get t = some c) (ht : token i ≠ some t) (hsp : Spares t g i)
    (hi : g.input i = .ok g') : ∃ c', g'.connections.get t = some c' ∧ Evolves c c' := by
  cases i with
  | send cmd =>
    cases hi
    refine ⟨c, ?_, .refl c⟩
    unfold Io.Handler.send
    split <;> exact hc
  | event evt =>
    obtain ⟨tok, kind, a⟩ := evt
    have hne : tok ≠ t := fun h => ht (by rw [← h]; rfl)
    obtain ⟨d, hd, hev⟩ := (supply_grows g tok a).stays t c hc
    have hod := (supply_deeds g tok a).opened ho
    have hdone : ∃ c', g'.connections.get t = some c' ∧ Evolves d c' := by
      have he : (g.supply tok a).handle_event tok kind = .ok g' := hi
      unfold Io.Handler.handle_event at he
      split at he
      · cases he
      split at he
      · exact (handle_listener_grows he).stays t d hd
      split at he
      · rename_i htimer
        subst htimer
        have hdue : (g.supply TIMER a).timer.due = a.due := rfl
        rw [hdue, ← run_eq_foldlM] at he
        exact expire_all_spared hod hd (hsp rfl) he
      split at he
      · exact (handle_commands_grows he).stays t d hd
      · obtain ⟨e, he'⟩ := handle_socket_slot he
        exact ⟨d, by rw [handle_socket_others he' (hod tok e he') hne he]; exact hd, .refl d⟩
    obtain ⟨c', hc', hev'⟩ := hdone
    exact ⟨c', hc', hev.trans hev'⟩

/-! ### What comes after a state -/

/-- Whatever waits in the queue and the timer, `g'` keeps what `g` has. -/
def Follows (g g' : Watched F H) : Prop :=
  ∃ queue timer, Keeps { g with queue := queue, timer := timer } g'

omit [Factory F H] [Handler H] [Host] in
lemma Follows.refl (g : Watched F H) : Follows g g := ⟨g.queue, g.timer, .refl g⟩

omit [Factory F H] [Handler H] [Host] in
lemma Follows.trans (hg : Follows g h) (hh : Follows h h') : Follows g h' := by
  obtain ⟨q, t, hk⟩ := hg
  obtain ⟨q', t', hk'⟩ := hh
  exact ⟨q', t', ((hk.requeue q').retime t').trans hk'⟩

omit [Factory F H] [Handler H] [Host] in
lemma supply_follows (g : Watched F H) (t : Token) (a : Io.Answers) : Follows g (g.supply t a) :=
  ⟨g.queue, _, supply_keeps g t a⟩

lemma expire_follows {number : ℕ} (he : g.expire number = .ok g') : Follows g g' :=
  ⟨g.queue, _, expire_keeps he⟩

lemma input_follows {i : Io.Input} (hi : g.input i = .ok g') : Follows g g' :=
  step_keeps (s := .input i) hi

omit [Factory F H] [Handler H] [Host] in
lemma run_follows {ι : Type} {step : Watched F H → ι → Except Panic (Watched F H)}
    (hstep : ∀ d i d', step d i = .ok d' → Follows d d') {ls : List ι}
    (hr : run step g ls = .ok g') : Follows g g' :=
  run_inv_true (I := Follows g) (fun d i d' hd hi => hd.trans (hstep d i d' hi)) (.refl g) hr

omit [Factory F H] [Handler H] [Host] in
lemma Follows.made_le (hf : Follows g g') :
    g.factory.made.length ≤ g'.factory.made.length := by
  obtain ⟨_, _, hk⟩ := hf
  exact hk.made.length_le

omit [Factory F H] [Handler H] [Host] in
/-- A connection that was made before its slot was emptied does not come back to it. -/
lemma Follows.not_back (hf : Follows g g') {t : Token} (hn : g.connections.get t = none)
    {c c' : Connection (Recorded H)} (hb : c.handler.birth < g.factory.made.length)
    (hc' : g'.connections.get t = some c') : ¬ Evolves c c' := by
  obtain ⟨q, tm, hk⟩ := hf
  intro hev
  rcases hk.descends t c' hc' with ⟨d, hd, -⟩ | ⟨hbirth, -⟩
  · have hd : g.connections.get t = some d := hd
    rw [hn] at hd
    cases hd
  · have hbirth : g.factory.made.length ≤ c'.handler.birth := hbirth
    rw [hev.birth] at hbirth
    omega

/-! ### Batches -/

/-- The tokens of the events of a batch. -/
def tokens (batch : List Io.Input) : List Token := batch.filterMap token

/-- A batch the poll can return in state `h`: one event at most for each token, and the token of
an event of a socket has a connection in its slot. -/
structure Polled (h : Watched F H) (batch : List Io.Input) : Prop where
  once : (tokens batch).Nodup
  registered : ∀ t ∈ tokens batch,
    t = ALL ∨ t = TIMER ∨ t = QUEUE ∨ ∃ c, h.connections.get t = some c

/-- The batch indexes no empty slot, and whenever it comes to an event of a socket, the connection
the event was reported for is in the slot. -/
def Safe (h : Watched F H) (batch : List Io.Input) : Prop :=
  run Io.Handler.input h batch ≠ .error .index ∧
    ∀ pre evt post g c, batch = pre ++ .event evt :: post → run Io.Handler.input h pre = .ok g →
      h.connections.get evt.token = some c →
        ∃ c', g.connections.get evt.token = some c' ∧ Evolves c c'

/-- Whenever the batch comes to an event of a socket, no timeout on the way there has expelled its
connection. -/
def Spared (h : Watched F H) (batch : List Io.Input) : Prop :=
  ∀ pre evt post g c, batch = pre ++ .event evt :: post → run Io.Handler.input h pre = .ok g →
    h.connections.get evt.token = some c →
      Along Io.Handler.input (Spares evt.token) h pre

/-- What holds in every state of a batch. -/
lemma input_reached {i : Io.Input} (hg : Sound g ∧ AllOpened g) (hi : g.input i = .ok g') :
    Sound g' ∧ AllOpened g' :=
  ⟨step_sound (s := .input i) hg.1 hi, (step_path (s := .input i) hg.2 hi).opened hg.2⟩

omit [Factory F H] [Handler H] [Host] in
/-- The event of a socket is the only one of its batch with its token. -/
lemma Polled.not_before {batch pre post : List Io.Input} {evt : Io.Event} (hb : Polled h batch)
    (hsplit : batch = pre ++ .event evt :: post) : ∀ i ∈ pre, token i ≠ some evt.token := by
  intro i hi htok
  have hnd := hb.once
  rw [hsplit, tokens, List.filterMap_append, List.nodup_append] at hnd
  exact hnd.2.2 evt.token (List.mem_filterMap.mpr ⟨i, hi, htok⟩) evt.token
    (List.mem_filterMap.mpr ⟨_, List.mem_cons_self, rfl⟩) rfl

/-- A connection that is spared on the way to its event is there when it comes. -/
lemma spared_there {batch pre post : List Io.Input} {evt : Io.Event} {c : Connection (Recorded H)}
    (hh : Sound h ∧ AllOpened h) (hb : Polled h batch)
    (hsplit : batch = pre ++ .event evt :: post) (hr : run Io.Handler.input h pre = .ok g)
    (hc : h.connections.get evt.token = some c)
    (hs : Along Io.Handler.input (Spares evt.token) h pre) :
    ∃ c', g.connections.get evt.token = some c' ∧ Evolves c c' := by
  have hown : Along Io.Handler.input (fun _ i => token i ≠ some evt.token) h pre :=
    along_of_forall fun _ => hb.not_before hsplit
  have hguard := hown.and hs
  have hinv := run_inv (I := fun d : Watched F H => (Sound d ∧ AllOpened d) ∧
    ∃ c', d.connections.get evt.token = some c' ∧ Evolves c c') ?_ ⟨hh, c, hc, .refl c⟩ hguard hr
  · exact hinv.2
  · rintro d i d' ⟨hd, c', hc', hev⟩ ⟨hne, hsp⟩ hi
    obtain ⟨e, he, hev'⟩ := input_stays hd.2 hc' hne hsp hi
    exact ⟨input_reached hd hi, e, he, hev.trans hev'⟩

/-- **A batch is safe** when, and only when, no timeout expels a connection that has an event to
come. -/
theorem event_batch_safe_iff {inner : F} {settings : Settings} {addr : Option SocketAddr}
    {steps : List Io.Step} {batch : List Io.Input}
    (hr : Io.Handler.execute (Ledger.blank inner) settings addr steps = .ok h)
    (hb : Polled h batch) : Safe h batch ↔ Spared h batch := by
  have hh : Sound h ∧ AllOpened h := ⟨execute_sound hr, execute_opened hr⟩
  constructor
  · intro hs pre evt post g c hsplit hg hc
    refine along_of_run hg fun pre₁ i pre₂ d d' _ hd hi hrest => ?_
    cases i with
    | send cmd => trivial
    | event ev =>
      obtain ⟨tok, kind, a⟩ := ev
      rintro rfl
      have hod := (run_inv_true (fun _ _ _ => input_reached) hh hd).2
      have hdue : run Io.Handler.expire (d.supply TIMER a) a.due = .ok d' := by
        rw [run_eq_foldlM]
        exact (Io.Handler.handle_event_timer _ kind).symm.trans hi
      refine along_of_run hdue fun due₁ number due₂ e e' _ he hx hlast hexp => ?_
      -- the slot is empty after the timeout, and whoever is in it later was made later
      have hoe := run_inv_true (fun _ _ _ ho he => expire_opened ho he)
        ((supply_deeds d TIMER a).opened hod) he
      obtain ⟨x, hx'⟩ := hexp.there
      have hgone := (expire_expels hoe hx' hx).2 hexp
      have hbefore : Follows h e' := (run_follows (fun _ _ _ => input_follows) hd).trans
        ((supply_follows d TIMER a).trans
          ((run_follows (fun _ _ _ => expire_follows) he).trans (expire_follows hx)))
      have hafter : Follows e' g := (run_follows (fun _ _ _ => expire_follows) hlast).trans
        (run_follows (fun _ _ _ => input_follows) hrest)
      obtain ⟨c', hc', hev⟩ := hs.2 pre evt post g c hsplit hg hc
      have hlt := hh.1.numbered.accounted.slots_lt _ c hc
      exact hafter.not_back hgone (lt_of_lt_of_le hlt hbefore.made_le) hc' hev
  · intro hs
    refine ⟨fun herr => ?_, fun pre evt post g c hsplit hg hc =>
      spared_there hh hb hsplit hg hc (hs pre evt post g c hsplit hg hc)⟩
    obtain ⟨pre, i, post, g, hsplit, hg, hi⟩ := run_error herr
    cases i with
    | send cmd => cases hi
    | event evt =>
      have hgr := run_inv_true (fun _ _ _ => input_reached) hh hg
      refine (handle_event_found (hgr.1.of_keeps (supply_keeps g evt.token evt.answers))
        ((supply_deeds g evt.token evt.answers).opened hgr.2) fun hall htimer hqueue => ?_).of_error
          hi rfl
      have hmem : evt.token ∈ tokens batch := by
        rw [hsplit]
        exact List.mem_filterMap.mpr ⟨.event evt, by simp, rfl⟩
      rcases hb.registered evt.token hmem with h0 | h0 | h0 | ⟨c, hc⟩
      · exact absurd h0 hall
      · exact absurd h0 htimer
      · exact absurd h0 hqueue
      obtain ⟨c', hc', -⟩ := spared_there hh hb hsplit hg hc (hs pre evt post g c hsplit hg hc)
      obtain ⟨d, hd, -⟩ := (supply_grows g evt.token evt.answers).stays _ c' hc'
      exact ⟨d, hd⟩

end Steps

/-! ### A timeout and a socket in one batch -/

/-- A handler that fails when its timeout expires. -/
structure Rash where
  err : Error

instance : Handler Rash where
  on_message h _ := (h, .ok ())
  on_timeout h _ := (h, .error h.err)

/-- A server whose handlers fail with an input or output error when their timeouts expire. -/
def rash (steps : List Io.Step) : Except Panic (Watched (Sender → Rash) Rash) :=
  @Io.Handler.execute _ _ _ _ plain (Ledger.blank fun _ => ⟨.from_io ⟨.Other, none, "late"⟩⟩)
    calm (some ⟨"127.0.0.1:3012"⟩) steps

/-- The only timeout expires. -/
def expires : Io.Input := .event ⟨TIMER, readable, { due := [0] }⟩

/-- The peer in the first slot has sent a byte. -/
def sends_byte : Io.Input := .event ⟨0, readable, { reads := [.ok [97]] }⟩

/-- Another peer connects. -/
def another_peer : Io.Input := .event ⟨ALL, readable, { accepts := [.ok .fresh] }⟩

/-- A poll that brings the only timeout, a new peer and the first slot, as far as it brings any. -/
lemma polled_first {F H : Type} {h : Watched F H} {batch : List Io.Input}
    {c : Connection (Recorded H)} (hc : h.connections.get 0 = some c)
    (hn : (tokens batch).Nodup) (ht : ∀ t ∈ tokens batch, t = ALL ∨ t = TIMER ∨ t = 0) :
    Polled h batch := by
  refine ⟨hn, fun t hmem => ?_⟩
  rcases ht t hmem with h0 | h0 | h0
  · exact Or.inl h0
  · exact Or.inr (Or.inl h0)
  · exact Or.inr (Or.inr (Or.inr ⟨c, h0 ▸ hc⟩))

/-- A peer connects, and its handler asks for a timeout. The timeout and a byte come together: when
the timeout comes first, the byte finds the slot empty, or another peer in it. -/
theorem expelled_before_event :
    ∃ h : Watched (Sender → Rash) Rash, rash (sets_timeout ++ [takes_command]) = .ok h ∧
      (Polled h [expires, sends_byte] ∧ ¬ @Safe _ _ _ _ plain h [expires, sends_byte]) ∧
      Polled h [expires, another_peer, sends_byte] ∧
        ¬ @Safe _ _ _ _ plain h [expires, another_peer, sends_byte] := by
  have hrun : Returns (rash (sets_timeout ++ [takes_command])) fun h =>
      (h.connections.get 0).map (·.handler.birth) = some 0 ∧
      Meets (run (@Io.Handler.input _ _ _ _ plain) h [expires, sends_byte]) (· = .index)
        (fun _ => False) ∧
      Returns (run (@Io.Handler.input _ _ _ _ plain) h [expires, another_peer]) fun g =>
        (g.connections.get 0).map (·.handler.birth) = some 1 := by decide +kernel
  obtain ⟨h, hr, hbirth, hindex, g, hg, hother⟩ := hrun
  obtain ⟨c, hc, hcb⟩ := Option.map_eq_some_iff.mp hbirth
  obtain ⟨d, hd, hdb⟩ := Option.map_eq_some_iff.mp hother
  refine ⟨h, hr, ⟨polled_first hc (by decide) (by decide), fun hs => hs.1 hindex.error_eq⟩,
    polled_first hc (by decide) (by decide), fun hs => ?_⟩
  obtain ⟨c', hc', hev⟩ := hs.2 [expires, another_peer] _ [] g c rfl hg hc
  rw [show g.connections.get 0 = some d from hd] at hc'
  cases hc'
  have := hev.birth
  rw [hdb, hcb] at this
  cases this

/-- The other way round, the byte is read before the timeout comes. -/
theorem event_batch_safe_byte_first :
    ∃ h : Watched (Sender → Rash) Rash, rash (sets_timeout ++ [takes_command]) = .ok h ∧
      @Safe _ _ _ _ plain h [sends_byte, expires] := by
  have hrun : Returns (rash (sets_timeout ++ [takes_command])) fun h =>
      (h.connections.get 0).map (·.handler.birth) = some 0 ∧
      h.connections.get TIMER = none := by decide +kernel
  obtain ⟨h, hr, hbirth, hnone⟩ := hrun
  obtain ⟨c, hc, -⟩ := Option.map_eq_some_iff.mp hbirth
  refine ⟨h, hr, (@event_batch_safe_iff _ _ _ _ plain _ _ _ _ _ _ hr
    (polled_first hc (by decide) (by decide))).mpr fun pre evt post g d hsplit _ hd => ?_⟩
  rcases pre with _ | ⟨i, _ | ⟨j, pre⟩⟩
  · trivial
  · -- no connection is in the slot of the timer
    cases hsplit
    rw [show h.connections.get TIMER = some d from hd] at hnone
    cases hnone
  · cases pre <;> cases hsplit

end XnetSocket.Batches
