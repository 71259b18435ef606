import XnetSocket.Deeds

/-!
The addresses a client has left.

A client keeps the addresses it has not tried yet, and a refused connection is meant to try the
next. Only a connection that is still being set up can get another socket, though, and `connect`
opens its connection before it makes a client of it; so the addresses are never used.
-/

namespace XnetSocket.Fallback

open Buffer Runs Connection Lifecycle Evolution Custody Joining Touches Deeds

section Runs

variable {F H : Type} [Factory F H] [Handler H] [Host]

/-- The read or the write of an event fails because the connection is refused. -/
def Refused (h : Watched F H) (evt : Io.Event) : Prop :=
  (∃ c d err, (h.supply evt.token evt.answers).connections.get evt.token = some c ∧
    (evt.kind.and c.events).is_readable = true ∧ c.read = .ok (d, .error err) ∧
    Io.Handler.refused err = true) ∨
  ∃ g c d err, (h.supply evt.token evt.answers).attempt evt.token Ready.is_readable evt.kind
      Connection.read = .ok (g, false) ∧ g.connections.get evt.token = some c ∧
    (evt.kind.and c.events).is_writable = true ∧ c.write = (d, .error err) ∧
    Io.Handler.refused err = true

/-- A client that has exchanged no data and has addresses left is refused; the outcomes of trying
these addresses are in store. -/
structure Turned (h : Watched F H) (evt : Io.Event) (c : Connection (Recorded H)) : Prop where
  slot : h.connections.get evt.token = some c
  client : c.is_client = true
  left : c.addresses ≠ []
  sent : c.socket.sent = []
  received : c.socket.received = []
  outcomes : c.addresses.length ≤ evt.answers.connects.length
  refused : Refused h evt

/-- The connection is still in its slot and watched by the poll, with fewer addresses left, or all
of them have been tried. -/
def FallsBack (h : Watched F H) (evt : Io.Event) (c : Connection (Recorded H)) : Prop :=
  Returns (h.step (.input (.event evt))) fun h' =>
    ((h'.connections.get evt.token).any fun d =>
      decide (d.handler.birth = c.handler.birth ∧ d.addresses.length < c.addresses.length ∧
        (h'.poll.interest evt.token).isSome)) = true ∨
      h'.poll.connects.length + c.addresses.length ≤ evt.answers.connects.length

/-- The connection is gone, its handler was told of the end and passed back, and no address was
tried. -/
structure Forsaken (evt : Io.Event) (c : Connection (Recorded H)) (h' : Watched F H) : Prop where
  slot : h'.connections.get evt.token = none
  lost : ∃ x ∈ h'.factory.lost, x.birth = c.handler.birth ∧ .on_close .Abnormal "" ∈ x.calls
  connects : h'.poll.connects = evt.answers.connects

omit [Host] in
lemma refused_disconnects {err : Error} (h : Io.Handler.refused err = true) :
    disconnects err.kind = true := by
  unfold Io.Handler.refused at h
  split at h
  · rename_i hk
    rw [hk]
    rfl
  · cases h

/-- An error that disconnects leaves no interest, and ends with `on_close`. -/
lemma error_forsakes {c d : Connection (Recorded H)} {err : Error} (ho : Opened c)
    (hk : disconnects err.kind = true) (h : c.error err = .ok d) :
    d.events = .empty ∧ .on_close .Abnormal "" ∈ d.handler.calls := by
  have hlost : ∀ {e : Connection (Recorded H)} {panics}, c.report err panics = .ok e →
      e.disconnect.events = .empty ∧ .on_close .Abnormal "" ∈ e.disconnect.handler.calls := by
    intro e panics hr
    have he : Opened e := report_eq hr ▸ ho
    rcases he with hs | hs <;> simp [disconnect, hs]
  unfold Connection.error at h
  split at h
  · rename_i req res hs
    have := ho.not_connecting
    rw [hs] at this
    cases this
  · split at h <;> rename_i hkind <;> rw [hkind] at hk <;> try cases hk
    · obtain ⟨e, he, h⟩ := bind_eq_ok.mp h
      cases h
      exact hlost he
    · obtain ⟨e, he, h⟩ := bind_eq_ok.mp h
      cases h
      exact hlost he

/-- After a refusal the connection wants nothing, and its handler has heard the end. -/
lemma exchange_refused {evt : Io.Event} {c : Connection (Recorded H)} (ho : Opened c)
    (hr : (∃ d err, (evt.kind.and c.events).is_readable = true ∧ c.read = .ok (d, .error err) ∧
        Io.Handler.refused err = true) ∨
      ∃ d e err, reading evt.kind c = .ok d ∧ (evt.kind.and d.events).is_writable = true ∧
        d.write = (e, .error err) ∧ Io.Handler.refused err = true)
    {e : Connection (Recorded H)}
    (he : (reading evt.kind c >>= writing evt.kind) = .ok e) :
    e.events = .empty ∧ .on_close .Abnormal "" ∈ e.handler.calls := by
  obtain ⟨d, hd, he⟩ := bind_eq_ok.mp he
  rcases hr with ⟨d', err, hread, hfail, href⟩ | ⟨d', e', err, hd', hwrite, hfail, href⟩
  · unfold reading at hd
    rw [if_pos hread, hfail, ok_bind] at hd
    have hgone := error_forsakes (ho.of_state (read_inward hfail).state)
      (refused_disconnects href) hd
    unfold writing at he
    rw [if_neg (by simp [hgone.1, Ready.and, Ready.is_writable, Ready.empty])] at he
    cases he
    exact hgone
  · rw [hd] at hd'
    cases hd'
    unfold writing at he
    rw [if_pos hwrite, hfail] at he
    exact error_forsakes (write_opened (reading_opened ho hd) hfail) (refused_disconnects href) he

omit [Factory F H] [Handler H] [Host] in
/-- What the slot of an event holds once its socket has its answers. -/
lemma supply_slot {h : Watched F H} {t : Token} {c : Connection (Recorded H)}
    (hc : h.connections.get t = some c) (a : Io.Answers) :
    (h.supply t a).connections.get t =
      some { c with socket := { c.socket with reads := a.reads, writes := a.writes } } := by
  unfold Io.Handler.supply
  rw [hc]
  exact Slab.get_set_self hc

/-- A client that is turned away ends as a refused connection does. -/
lemma turned_refused {h : Watched F H} {evt : Io.Event} {c e : Connection (Recorded H)}
    (ht : Turned h evt c)
    (hget : (h.supply evt.token evt.answers).connections.get evt.token = some e)
    (he : Opened e) :
    Holds (reading evt.kind e >>= writing evt.kind) fun e' =>
      e'.events = .empty ∧ .on_close .Abnormal "" ∈ e'.handler.calls := by
  refine fun e' he' => exchange_refused he ?_ he'
  rcases ht.refused with ⟨c1, d, err, hc1, hrest⟩ | ⟨g', c1, d, err, hg', hc1, hrest⟩
  · rw [hget, Option.some.injEq] at hc1
    exact Or.inl ⟨d, err, hc1 ▸ hrest⟩
  · rw [attempt_eq hget Ready.is_readable evt.kind
      fun r hr => he.of_state (read_inward hr).state] at hg'
    obtain ⟨d', hd', hg'⟩ := bind_eq_ok.mp hg'
    cases hg'
    rw [get_put hget, Option.some.injEq] at hc1
    exact Or.inr ⟨d', d, err, hd', hc1 ▸ hrest⟩

/-- A client that is turned away is lost. -/
lemma turned_forsaken {h : Watched F H} {evt : Io.Event} {c : Connection (Recorded H)}
    (ho : AllOpened h) (hslot : evt.token < SYSTEM) (ht : Turned h evt c) :
    Holds (h.step (.input (.event evt))) (Forsaken evt c) := by
  have hget := supply_slot ht.slot evt.answers
  set g := h.supply evt.token evt.answers
  set c0 : Connection (Recorded H) := { c with
    socket := { c.socket with reads := evt.answers.reads, writes := evt.answers.writes } }
  have ho0 : Opened c0 := ho _ c ht.slot
  intro h' hh'
  change g.handle_event evt.token evt.kind = .ok h' at hh'
  rw [Io.Handler.handle_event_slot g hslot] at hh'
  obtain ⟨e, he⟩ : ∃ e, (reading evt.kind c0 >>= writing evt.kind) = .ok e := by
    rw [handle_socket_eq hget ho0] at hh'
    obtain ⟨d, hd, hh'⟩ := bind_eq_ok.mp hh'
    obtain ⟨e, he, -⟩ := bind_eq_ok.mp hh'
    exact ⟨e, bind_eq_ok.mpr ⟨d, hd, he⟩⟩
  obtain ⟨hev, hclosed⟩ := turned_refused ht hget ho0 e he
  obtain ⟨hlost, hslots, hpoll⟩ := handle_socket_loses hget ho0 he hev hh'
  have hbirth := (exchange_evolves ho0 he).birth
  exact ⟨by rw [hslots, if_pos rfl], ⟨e.handler, by rw [hlost]; simp, hbirth, hclosed⟩,
    congrArg Os.connects hpoll⟩

/-- **No client ever tries its next address.** In every state a run reaches, a client with
addresses left that is refused is lost with none of them tried, unless the refusal stops the
loop. -/
theorem never_falls_back {inner : F} {settings : Settings} {addr : Option SocketAddr}
    {steps : List Io.Step} {h : Watched F H}
    (hr : Io.Handler.execute (Ledger.blank inner) settings addr steps = .ok h) {evt : Io.Event}
    {c : Connection (Recorded H)} (ht : Turned h evt c) :
    ¬ FallsBack h evt c ∧ Holds (h.step (.input (.event evt))) (Forsaken evt c) := by
  have ho := execute_opened hr
  have hslot := (execute_sound hr).lt_system (Slab.get_lt_capacity ht.slot)
  have hlost := turned_forsaken ho hslot ht
  refine ⟨fun hfalls => ?_, hlost⟩
  obtain ⟨h', hh', hkept | htried⟩ := hfalls
  · rw [(hlost h' hh').slot] at hkept
    cases hkept
  · have hpos := List.length_pos_iff.mpr ht.left
    rw [(hlost h' hh').connects] at htried
    omega

end Runs

/-- A client told to connect to a name with two addresses, of which the first it tries answers. -/
def connecting_client : Except Panic (Watched (Sender → M) M) :=
  @Io.Handler.execute _ _ _ _ plain (Ledger.blank fun _ => {}) {} none
    [.post (Sender.connect ⟨ALL, 0⟩ "ws://localhost:3012"), .on QUEUE readable {
      resolves := [.ok [⟨"127.0.0.1:3012"⟩, ⟨"[::1]:3012"⟩]], connects := [.ok .fresh] }]

def connection_refused : IoError := ⟨.Other, some CONNECTION_REFUSED, "connection refused"⟩

/-- The connection turns out to be refused, while the other address would answer. -/
def turns_out_refused : Io.Event :=
  ⟨0, readable, { reads := [.error connection_refused], connects := [.ok .fresh] }⟩

lemma connecting_client_turned : ∃ h c, connecting_client = .ok h ∧ c.addresses.length = 1 ∧
    @Turned _ _ _ _ plain h turns_out_refused c := by
  let _ : Host := plain
  have hrun : Returns connecting_client fun h =>
      ((h.connections.get 0).map fun c => (c.is_client, c.addresses.length, c.socket.sent,
        c.socket.received)) = some (true, 1, [], []) ∧
      (((h.supply 0 turns_out_refused.answers).connections.get 0).map fun c =>
        (c.events.is_readable, decide (Returns (Connection.read c) fun r =>
          r.2 = .error (.from_io connection_refused)))) = some (true, true) := by decide +kernel
  obtain ⟨h, hh, hc, hread⟩ := hrun
  obtain ⟨c, hc, hfacts⟩ := Option.map_eq_some_iff.mp hc
  simp only [Prod.mk.injEq] at hfacts
  obtain ⟨hclient, hleft, hsent, hreceived⟩ := hfacts
  obtain ⟨c0, hc0, hfacts⟩ := Option.map_eq_some_iff.mp hread
  obtain ⟨hready, hread⟩ := Prod.mk.inj hfacts
  obtain ⟨⟨d, res⟩, hread, hres⟩ := of_decide_eq_true hread
  subst hres
  refine ⟨h, c, hh, hleft, ⟨hc, hclient, ?_, hsent, hreceived, ?_, ?_⟩⟩
  · exact List.ne_nil_of_length_eq_add_one hleft
  · rw [hleft]
    decide
  · exact Or.inl ⟨c0, d, .from_io connection_refused, hc0, hready, hread, by decide⟩

/-- The client is lost with an address left. -/
theorem refused_client_lost : ∃ h c, connecting_client = .ok h ∧
    @Turned _ _ _ _ plain h turns_out_refused c ∧
    ¬ @FallsBack _ _ _ _ plain h turns_out_refused c := by
  obtain ⟨h, c, hh, hleft, ht⟩ := connecting_client_turned
  have hrun : Holds connecting_client fun h =>
      Returns (@Io.Handler.step _ _ _ _ plain h (.input (.event turns_out_refused))) fun h' =>
        (h'.connections.get 0).isNone ∧ h'.poll.connects.length = 1 := by decide +kernel
  obtain ⟨h', hh', hnone, hconnects⟩ := hrun h hh
  refine ⟨h, c, hh, ht, ?_⟩
  rintro ⟨g, hg, hkept | htried⟩
  · cases hg.symm.trans hh'
    rw [show h'.connections.get turns_out_refused.token = none from
      Option.isNone_iff_eq_none.mp hnone] at hkept
    cases hkept
  · cases hg.symm.trans hh'
    rw [hconnects, hleft] at htried
    exact absurd htried (by decide)

theorem never_falls_back_two_addresses : ∃ h c, connecting_client = .ok h ∧
    @Turned _ _ _ _ plain h turns_out_refused c ∧
    Holds (@Io.Handler.step _ _ _ _ plain h (.input (.event turns_out_refused)))
      (Forsaken turns_out_refused c) := by
  obtain ⟨h, c, hh, -, ht⟩ := connecting_client_turned
  exact ⟨h, c, hh, ht, (@never_falls_back _ _ _ _ plain _ _ _ _ _ hh _ _ ht).2⟩

end XnetSocket.Fallback
