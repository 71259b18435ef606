import XnetSocket.Joining
import XnetSocket.Touches
import Mathlib.Logic.Relation

/-!
What the loop does, deed by deed.

Every step is a sequence of deeds: the poll is asked something, a connection in a slot is touched,
a connection joins the slab or leaves it, the factory hears of a shutdown. Which kinds of deed a
step may be made of depends on its event and, for a command, on its signal; what is kept by every
deed of these kinds is kept by the step.
-/

namespace XnetSocket.Deeds

open Buffer Runs Connection Lifecycle Evolution Custody Joining Touches

variable {F H : Type}

/-! ### What is done to the loop -/

/-- What a connection is like when it joins the slot `tok`. -/
structure Born (h : Watched F H) (tok : Token) (handler : Recorded H)
    (c : Connection (Recorded H)) : Prop where
  token : c.token = tok
  connection_id : c.connection_id = h.next_connection_id
  settings : c.settings = h.settings
  birth : c.handler.birth = handler.birth
  state : c.state = .Open
  in_buffer : c.in_buffer = .new (.with_capacity h.settings.in_buffer_capacity)
  out_buffer : c.out_buffer = .new (.with_capacity h.settings.out_buffer_capacity)

section Acts

variable [Factory F H] [Handler H] [Host]

/-- One deed of the loop. -/
inductive Act : Deed → Watched F H → Watched F H → Prop
  | wait (h : Watched F H) (queue : SyncChannel) (timer : Timer) :
    Act .wait h { h with queue := queue, timer := timer }
  | ask (h : Watched F H) {os : Os} (hr : h.poll.refused <+: os.refused) :
    Act .ask h { h with poll := os }
  | touch {d : Deed} {h : Watched F H} {t : Token} {c c' : Connection (Recorded H)}
      (hc : h.connections.get t = some c) (ht : Touch d c c') : Act d h (h.put t c')
  | join {h : Watched F H} {tok : Token} {made : F × H} {factory : Ledger F H}
      {handler : Recorded H} {c : Connection (Recorded H)} {os : Os}
      (hv : h.connections.vacant_entry = some tok)
      (hm : h.factory.enter ⟨tok, h.next_connection_id⟩ made = (factory, handler))
      (hb : Born h tok handler c) (he : c.events = readable)
      (hr : h.poll.refused <+: os.refused) :
    Act .join h { h with
      factory := factory, next_connection_id := h.next_connection_id + 1, poll := os,
      connections := h.connections.insert c }
  | strand {h : Watched F H} {tok : Token} {made : F × H} {factory : Ledger F H}
      {handler : Recorded H} {c : Connection (Recorded H)} {os : Os}
      (hv : h.connections.vacant_entry = some tok)
      (hm : h.factory.enter ⟨tok, h.next_connection_id⟩ made = (factory, handler))
      (hb : Born h tok handler c) (hr : os.refused = h.poll.refused ++ [tok]) :
    Act .strand h { h with
      factory := factory, next_connection_id := h.next_connection_id + 1, poll := os,
      connections := h.connections.insert c }
  | turn_away {h : Watched F H} {tok : Token} {made : F × H} {factory : Ledger F H}
      {handler : Recorded H} {os : Os}
      (hm : h.factory.enter ⟨tok, h.next_connection_id⟩ made = (factory, handler))
      (hr : h.poll.refused <+: os.refused) :
    Act .turn_away h { h with
      factory := Factory.connection_lost factory handler
      next_connection_id := h.next_connection_id + 1, poll := os }
  | drop {h : Watched F H} {tok : Token} {made : F × H} {factory : Ledger F H}
      {handler : Recorded H} {os : Os}
      (hm : h.factory.enter ⟨tok, h.next_connection_id⟩ made = (factory, handler))
      (hn : h.settings.tcp_nodelay = true) (hr : h.poll.refused <+: os.refused) :
    Act .drop h { h with
      factory := factory, next_connection_id := h.next_connection_id + 1, poll := os }
  | lose {h h' : Watched F H} {t : Token} (hl : h.lose t = .ok h') : Act .lose h h'
  | announce (h : Watched F H) :
    Act .announce h { h with factory := Factory.on_shutdown h.factory, state := .Inactive }
  | stop (h : Watched F H) : Act .stop h { h with state := .Inactive }

/-- Some deeds of the kinds `ds`, one after the other. -/
def Path (ds : List Deed) : Watched F H → Watched F H → Prop :=
  Relation.ReflTransGen fun g g' => ∃ d ∈ ds, Act d g g'

variable {ds : List Deed} {h g h' : Watched F H}

lemma Path.refl (h : Watched F H) : Path ds h h := Relation.ReflTransGen.refl

lemma Path.of {d : Deed} (ha : Act d h h') (hd : d ∈ ds) : Path ds h h' := .single ⟨d, hd, ha⟩

lemma Path.trans (hp : Path ds h g) (hp' : Path ds g h') : Path ds h h' :=
  Relation.ReflTransGen.trans hp hp'

lemma Path.mono {l : List Deed} (hp : Path ds h h') (hs : ds ⊆ l) : Path l h h' := by
  refine Relation.ReflTransGen.mono (fun g g' ha => ?_) _ _ hp
  obtain ⟨d, hd, ha⟩ := ha
  exact ⟨d, hs hd, ha⟩

/-- **What every deed keeps, a path of deeds keeps.** -/
theorem Path.inv {I : Watched F H → Prop} (hp : Path ds h h')
    (hstep : ∀ d ∈ ds, ∀ g g', Act d g g' → I g → I g') (hi : I h) : I h' := by
  induction hp with
  | refl => exact hi
  | tail _ ha ih =>
    obtain ⟨d, hd, ha⟩ := ha
    exact hstep d hd _ _ ha ih

/-- Every connection in the slab is opened. -/
def AllOpened (h : Watched F H) : Prop := ∀ t c, h.connections.get t = some c → Opened c

/-- **What holds of every connection in the slab** goes on to hold when no touch ends it and it
holds of a connection that joins. -/
theorem Act.slots {P : Connection (Recorded H) → Prop} {d : Deed} (ha : Act d h g)
    (htouch : ∀ t c c', h.connections.get t = some c → Touch d c c' → P c → P c')
    (hborn : ∀ tok handler c, Born h tok handler c → d = .strand ∨ c.events = readable → P c)
    (hp : ∀ t c, h.connections.get t = some c → P c) :
    ∀ t c, g.connections.get t = some c → P c := by
  have hinsert : ∀ {tok : Token} {c : Connection (Recorded H)},
      h.connections.vacant_entry = some tok → P c →
      ∀ t e, (h.connections.insert c).get t = some e → P e := by
    intro tok c hv hc t e he
    rw [Slab.get_insert hv] at he
    split at he
    · cases he
      exact hc
    · exact hp t e he
  cases ha with
  | touch hc ht =>
    intro t e he
    rw [Io.Handler.put, Slab.get_set] at he
    split at he
    · cases he
      exact htouch _ _ _ hc ht (hp _ _ hc)
    · exact hp t e he
  | join hv hm hb he hr => exact hinsert hv (hborn _ _ _ hb (Or.inr he))
  | strand hv hm hb hr => exact hinsert hv (hborn _ _ _ hb (Or.inl rfl))
  | lose hl =>
    obtain ⟨c, -, -, hget, -⟩ := lose_spec hl
    intro t e he
    rw [hget] at he
    split at he
    · cases he
    · exact hp t e he
  | wait queue timer => exact hp
  | ask hr => exact hp
  | turn_away hm hr => exact hp
  | drop hm hn hr => exact hp
  | announce => exact hp
  | stop => exact hp

/-- Every deed leaves the connections opened. -/
theorem Act.opened {d : Deed} (ha : Act d h h') (ho : AllOpened h) : AllOpened h' :=
  ha.slots (fun _ _ _ _ ht hc => ht.opened hc) (fun _ _ _ hb _ => Or.inl hb.state) ho

lemma Path.opened (hp : Path ds h h') (ho : AllOpened h) : AllOpened h' :=
  hp.inv (fun _ _ _ _ ha => ha.opened) ho

/-! ### What the poll refused -/

/-- What the poll refused to watch stays on record. -/
lemma Act.refused {d : Deed} (ha : Act d h h') : h.poll.refused <+: h'.poll.refused := by
  cases ha with
  | ask _ hr => exact hr
  | join hv hm hb he hr => exact hr
  | strand hv hm hb hr => exact hr ▸ List.prefix_append _ _
  | turn_away hm hr => exact hr
  | drop hm hn hr => exact hr
  | lose hl =>
    obtain ⟨-, -, -, -, hp⟩ := lose_spec hl
    exact hp ▸ List.prefix_refl _
  | wait queue timer => exact List.prefix_refl _
  | touch hc ht => exact List.prefix_refl _
  | announce => exact List.prefix_refl _
  | stop => exact List.prefix_refl _

lemma Path.refused (hp : Path ds h h') : h.poll.refused <+: h'.poll.refused :=
  hp.inv (I := fun g => h.poll.refused <+: g.poll.refused)
    (fun _ _ _ _ ha hg => hg.trans ha.refused) (List.prefix_refl _)

lemma Act.strand_refused (ha : Act .strand h h') :
    h'.poll.refused.length = h.poll.refused.length + 1 := by
  cases ha with
  | strand hv hm hb hr => rw [hr, List.length_append, List.length_singleton]
  | touch hc ht => cases ht

/-- When the poll refuses nothing more, no connection is left stranded. -/
lemma Path.not_stranded (hp : Path ds h h') (hr : h'.poll.refused = h.poll.refused) :
    Path (ds.filter (· ≠ .strand)) h h' := by
  have hlen : h'.poll.refused.length ≤ h.poll.refused.length := by rw [hr]
  clear hr
  induction hp using Relation.ReflTransGen.head_induction_on with
  | refl => exact .refl _
  | head ha hrest ih =>
    obtain ⟨d, hd, ha⟩ := ha
    have hgrow := ha.refused.length_le
    have hleft := (show Path ds _ _ from hrest).refused.length_le
    refine Path.trans (.of ha (List.mem_filter.mpr ⟨hd, ?_⟩)) (ih (hlen.trans hgrow))
    by_cases hs : d = .strand
    · subst hs
      have := ha.strand_refused
      omega
    · simpa using hs

/-! ### What the methods of the loop do -/

omit [Factory F H] [Handler H] [Host] in
lemma at_slot_meets (h : Watched F H) (t : Token) :
    Meets (h.at_slot t) Mishap fun c => h.connections.get t = some c := by
  unfold Io.Handler.at_slot
  split
  · assumption
  · exact Panic.noConfusion

lemma lose_deeds (h : Watched F H) (t : Token) :
    Meets (h.lose t) Setback fun h' => Path [.lose] h h' := by
  rcases hl : h.lose t with p | h'
  · unfold Io.Handler.lose at hl
    split at hl <;> cases hl
    exact .stop ⟨Panic.noConfusion, Panic.noConfusion⟩
  · exact .of (.lose hl) (by simp)

omit [Host] in
lemma register_refused (os : Os) (token : Token) (interest : Ready) :
    os.refused <+: (os.register token interest).1.refused := by
  unfold Os.register
  split
  · exact List.prefix_append _ _
  · exact List.prefix_refl _

lemma schedule_deeds (h : Watched F H) (c : Connection (Recorded H)) :
    Path [.ask] h (h.schedule c).1 := by
  have hr : h.poll.refused <+: (h.poll.reregister c.token c.events).1.refused :=
    register_refused _ _ _
  unfold Io.Handler.schedule
  split <;> rename_i heq <;> rw [heq] at hr <;> exact .of (.ask h hr) (by simp)

/-- An error is told to the connection in a slot. -/
lemma tell_deeds (ho : AllOpened h) {t : Token} {c : Connection (Recorded H)}
    (hc : h.connections.get t = some c) (err : Error) :
    Meets (c.error err) Setback fun d => Path [.tell] h (h.put t d) :=
  (error_meets (ho t c hc) err).mono fun _ ht => .of (.touch hc ht) (by simp)

lemma check_active_deeds (ho : AllOpened h) (active : Bool) (t : Token) :
    Meets (h.check_active active t) Mishap (Path [.ask, .tell, .lose] h) := by
  refine (at_slot_meets h t).bind fun c _ hc => ?_
  have hlose : ∀ {g}, Path [.ask, .tell, .lose] h g →
      Meets (g.lose t) Mishap (Path [.ask, .tell, .lose] h) := fun hp =>
    (mishap (lose_deeds _ t)).mono fun _ hl => hp.trans (hl.mono (by simp))
  split
  · have hask := (schedule_deeds h c).mono (l := [.ask, .tell, .lose]) (by simp)
    have hslots := schedule_slots h c
    split <;> rename_i g _ hs <;> rw [hs] at hask hslots
    · exact hask
    · rw [← show g.connections = h.connections from hslots] at hc
      refine (mishap (tell_deeds (hask.opened ho) hc _)).bind fun d _ hd => ?_
      exact hlose (hask.trans (hd.mono (by simp)))
  · exact hlose (.refl h)

lemma check_count_deeds (h : Watched F H) : Path [.announce] h h.check_count := by
  unfold Io.Handler.check_count
  split
  · split
    · exact .of (.announce h) (by simp)
    · exact .refl h
  · exact .refl h

/-- Something is done to every connection in turn. -/
lemma iter_mut_deeds {A : Type} {d : Deed} {E : Panic → Prop} (ho : AllOpened h)
    {f : Connection (Recorded H) → Except Panic (Connection (Recorded H) × List A)}
    (hf : ∀ c, Opened c → Meets (f c) E fun r => Touch d c r.1) :
    Meets (h.connections.iter_mut f) E fun r => Path [d] h { h with connections := r.1 } := by
  refine Meets.foldlM (I := fun r : Slab (Connection (Recorded H)) × List A =>
    Path [d] h { h with connections := r.1 }) (.refl h) fun t _ r hr => ?_
  unfold Slab.visit
  split
  · exact hr
  · rename_i c hc
    refine (hf c (hr.opened ho t c hc)).bind fun r' _ ht => ?_
    exact hr.trans (.of (.touch (h := { h with connections := r.1 }) hc ht) (by simp))

lemma shutdown_deeds (ho : AllOpened h) :
    Meets h.shutdown Setback (Path [.shut, .announce] h) := by
  have hshut : ∀ c : Connection (Recorded H), Opened c →
      Meets (c.shutdown >>= fun c => .ok (c, ([] : List Unit))) Setback
        fun r => Touch .shut c r.1 :=
    fun c hc => (shutdown_meets hc).bind fun _ _ ht => ht
  refine (iter_mut_deeds ho hshut).bind fun r _ hr => ?_
  dsimp only
  split
  · exact .stop ⟨Panic.noConfusion, Panic.noConfusion⟩
  · exact (hr.mono (by simp)).trans (.of (.announce { h with connections := r.1 }) (by simp))

/-! ### Joining -/

/-- What an attempt to connect is made of. -/
def connecting : List Deed := [.ask, .join, .turn_away, .drop, .lose]

omit [Handler H] [Host] in
/-- A connection is made, or its buffers cannot be allocated. -/
lemma new_meets (tok : Token) (sock : TcpStream) (handler : Recorded H) (settings : Settings)
    (id : UInt32) :
    Meets (Connection.new tok sock handler settings id) Setback fun c =>
      c = blank tok sock handler settings id := by
  unfold Connection.new
  split
  · exact rfl
  · exact .stop ⟨Panic.noConfusion, Panic.noConfusion⟩

omit [Host] in
/-- A socket is found without a word to the poll, and an option of it can only fail to be set when
the settings ask for that. -/
lemma first_socket_error {settings : Settings} {os os' : Os} {addrs : List SocketAddr}
    {err : IoError} (h : Io.first_socket settings os addrs = (os', .error err)) :
    settings.tcp_nodelay = true := by
  induction addrs generalizing os with
  | nil => cases h
  | cons addr rest ih =>
    unfold Io.first_socket at h
    split at h
    · split at h
      · assumption
      · cases h
    · exact ih h

lemma connect_deeds (h : Watched F H) (url : String) :
    Meets (h.connect url) Setback fun r => Path connecting h r.1 := by
  unfold Io.Handler.connect
  split
  · exact .refl h
  rename_i tok hv
  dsimp only
  rcases hm : Factory.client_connected h.factory ⟨tok, h.next_connection_id⟩ with
    ⟨factory, handler⟩
  dsimp only
  unfold Io.url_to_addrs
  have hidle := to_socket_addrs_idle h.poll url
  rcases hres : h.poll.to_socket_addrs url with ⟨os, err | addresses⟩ <;> rw [hres] at hidle
  · exact .stop ⟨Panic.noConfusion, Panic.noConfusion⟩
  have hsock := hidle.trans (first_socket_idle h.settings os addresses.reverse)
  simp only [ok_bind]
  rcases hfs : Io.first_socket h.settings os addresses.reverse with
    ⟨os', err | _ | ⟨sock, rest⟩⟩ <;> rw [hfs] at hsock
  · -- an option of the socket could not be set
    exact .of (.drop hm (first_socket_error hfs) (hsock.refused ▸ List.prefix_refl _))
      (by simp [connecting])
  · -- no address answered
    exact .of (.turn_away hm (hsock.refused ▸ List.prefix_refl _)) (by simp [connecting])
  · refine (new_meets tok sock handler h.settings h.next_connection_id).bind fun made _ hmade => ?_
    subst hmade
    let c : Connection (Recorded H) := { blank tok sock handler h.settings
      h.next_connection_id with
      state := .Open, addresses := rest.reverse, events := readable, endpoint := .Client url }
    have hb : Born h tok handler c := ⟨rfl, rfl, rfl, rfl, rfl, rfl, rfl⟩
    have hr := hsock.refused ▸ register_refused os' tok readable
    have hjoin : ∀ {os : Os}, h.poll.refused <+: os.refused → Path connecting h { h with
        factory := factory, next_connection_id := h.next_connection_id + 1, poll := os,
        connections := h.connections.insert c } := fun hp =>
      .of (.join hv hm hb rfl hp) (by simp [connecting])
    have hclient : (blank tok sock handler h.settings h.next_connection_id).open.1.as_client
        url rest.reverse = (c, .ok ()) := rfl
    have htok : c.token = tok ∧ c.events = readable := ⟨rfl, rfl⟩
    rw [hclient]
    dsimp only
    rw [htok.1, htok.2]
    split <;> rename_i heq <;> rw [heq] at hr
    · exact hjoin hr
    · exact (lose_deeds _ tok).bind fun g _ hl =>
        (hjoin hr).trans (hl.mono (by simp [connecting]))

/-- What accepting a peer is made of. -/
def accepting : List Deed := [.ask, .join, .strand]

/-- An error of a connection that is being set up is reported to its handler. -/
lemma error_connecting {c : Connection (Recorded H)} {req res : Cursor UInt8}
    (hs : c.state = .Connecting req res) (err : Error) :
    ∃ res' events, c.error err = .ok { c with
      state := .Connecting req res', events := events
      handler := Handler.on_error c.handler err } := by
  have hrefuse : ∀ status, ∃ res' events, c.refuse req res status err = { c with
      state := .Connecting req res', events := events
      handler := Handler.on_error c.handler err } := by
    intro status
    unfold refuse
    dsimp only
    split
    · exact ⟨_, _, rfl⟩
    · exact ⟨res, _, by rw [← hs]⟩
  unfold Connection.error
  rw [hs]
  dsimp only
  split
  · obtain ⟨res', events, h⟩ := hrefuse "Bad Request\r\n\r\n"
    exact ⟨res', events, congrArg _ h⟩
  · obtain ⟨res', events, h⟩ := hrefuse "Internal Server Error\r\n\r\n"
    exact ⟨res', events, congrArg _ h⟩

lemma accept_deeds (h : Watched F H) (sock : TcpStream) :
    Meets (h.accept sock) Setback fun r => Path accepting h r.1 := by
  unfold Io.Handler.accept
  have hidle : Idle h.poll (if h.settings.tcp_nodelay then h.poll.set_nodelay
      else (h.poll, .ok ())).1 := by
    split
    · exact set_nodelay_idle h.poll
    · exact .refl h.poll
  have hask : ∀ {os : Os}, Idle h.poll os → Path accepting h { h with poll := os } := fun hi =>
    .of (.ask h (hi.refused ▸ List.prefix_refl _)) (by simp [accepting])
  split <;> rename_i hopt <;> rw [hopt] at hidle
  · exact hask hidle
  rename_i os
  dsimp only at hidle ⊢
  split
  · exact hask hidle
  rename_i tok hv
  rcases hm : Factory.server_connected h.factory ⟨tok, h.next_connection_id⟩ with
    ⟨factory, handler⟩
  refine (new_meets tok sock handler h.settings h.next_connection_id).bind fun made _ hmade => ?_
  subst hmade
  dsimp only [as_server]
  obtain ⟨c, hc⟩ : ∃ c, c = { blank tok sock handler h.settings h.next_connection_id with
    events := Ready.empty.insert readable } := ⟨_, rfl⟩
  have hs : c.state = .Connecting (.new (.with_capacity 2048)) (.new (.with_capacity 2048)) := by
    rw [hc]
    rfl
  show Meets (Io.Handler.register_accepted os { blank tok sock handler h.settings
    h.next_connection_id with events := Ready.empty.insert readable }
    h.settings.panic_on_new_connection >>= _) Setback _
  rw [← hc]
  have hborn : ∀ (x : Recorded H) (events : Ready), x.birth = c.handler.birth →
      Born h tok handler { c with state := .Open, events := events, handler := x } := by
    rw [hc]
    exact fun x events hx => ⟨rfl, rfl, rfl, hx, rfl, rfl, rfl⟩
  have htok : c.token = tok := by rw [hc]; rfl
  unfold Io.Handler.register_accepted
  rcases hreg : os.register c.token c.events with ⟨os', err | u⟩
  · -- the poll refused, and the connection is opened with the interest of one that answers
    obtain ⟨res, events, he⟩ := error_connecting hs (.from_io err)
    simp only [Io.Handler.setup_failed, he, ok_bind]
    split
    · exact .stop ⟨Panic.noConfusion, Panic.noConfusion⟩
    · refine .of (.strand hv hm (hborn _ events rfl) ?_) (by simp [accepting])
      rw [(register_error hreg).2, hidle.refused, htok]
  · simp only [ok_bind, Io.Handler.open_accepted, Connection.open, hs]
    refine .of (.join hv hm (hborn c.handler c.events rfl) ?_ ?_) (by simp [accepting])
    · rw [hc]; rfl
    · exact (((register_ok hreg).2.trans hidle.refused).symm) ▸ List.prefix_refl _

/-! ### Commands -/

/-- Something is done to the connection in a slot. -/
lemma with_id_deeds (ho : AllOpened h) (t : Token) (id : UInt32) {d : Deed} {l : List Deed}
    (hd : d ∈ l)
    {f : Connection (Recorded H) → Except Panic (Connection (Recorded H) × Result Unit)}
    (hf : ∀ c, Opened c → Meets (f c) Setback fun r => Meets (told r) Setback (Touch d c)) :
    Meets (h.with_id t id f) Setback (Path l h) := by
  unfold Io.Handler.with_id
  split
  · rename_i c hc
    split
    · refine (hf c (ho t c hc)).bind fun r _ hr => ?_
      rcases r with ⟨c', err | u⟩
      · exact Meets.bind hr fun d _ ht => .of (.touch hc ht) hd
      · exact .of (.touch hc hr) hd
    · exact .refl h
  · exact .refl h

lemma error_at_deeds (ho : AllOpened h) (t : Token) (err : Error) :
    Meets (h.error_at t err) Setback (Path [.tell] h) := by
  unfold Io.Handler.error_at
  split
  · rename_i c hc
    exact (tell_deeds ho hc err).bind fun _ _ hp => hp
  · exact .refl h

lemma schedule_at_deeds (ho : AllOpened h) (t : Token) :
    Meets (h.schedule_at t) Setback (Path [.ask, .tell] h) := by
  unfold Io.Handler.schedule_at
  split
  · rename_i c hc
    have hask := (schedule_deeds h c).mono (l := [.ask, .tell]) (by simp)
    have hslots := schedule_slots h c
    split <;> rename_i g _ hs <;> rw [hs] at hask hslots
    · exact hask
    · rw [← show g.connections = h.connections from hslots] at hc
      exact (tell_deeds (hask.opened ho) hc _).bind fun d _ hd => hask.trans (hd.mono (by simp))
  · exact .refl h

lemma for_each_deeds (ho : AllOpened h) {d : Deed} {E : Panic → Prop}
    {f : Connection (Recorded H) → Except Panic (Connection (Recorded H) × Result Unit)}
    (hf : ∀ c, Opened c → Meets (f c) E fun r => Touch d c r.1) :
    Meets (h.for_each f) E fun r => Path [d] h r.1 := by
  refine (iter_mut_deeds (d := d) ho fun c hc => ?_).bind fun r _ hr => hr
  refine (hf c hc).bind fun r _ hr => ?_
  rcases r with ⟨c', err | u⟩ <;> exact hr

lemma schedule_all_deeds (h : Watched F H) : Path [.ask] h h.schedule_all.1 := by
  unfold Io.Handler.schedule_all
  refine List.foldlRecOn (motive := fun acc : Watched F H × List (Token × Error) =>
    Path [.ask] h acc.1) _ _ (.refl h) fun acc hacc slot _ => ?_
  unfold Io.Handler.schedule_slot
  split
  · rename_i c _
    have hs := schedule_deeds acc.1 c
    split <;> rename_i heq <;> rw [heq] at hs <;> exact hacc.trans hs
  · exact hacc

lemma finish_broadcast_deeds (ho : AllOpened h) (dead : List (Token × Error)) :
    Meets (h.finish_broadcast dead) Mishap (Path [.ask, .tell] h) := by
  unfold Io.Handler.finish_broadcast
  have hask := (schedule_all_deeds h).mono (l := [.ask, .tell]) (by simp)
  refine Meets.foldlM (I := Path [.ask, .tell] h) hask fun p _ g hg => ?_
  refine (at_slot_meets g p.1).bind fun c _ hc => ?_
  exact (mishap (tell_deeds (hg.opened ho) hc p.2)).bind fun _ _ hp => hg.trans (hp.mono (by simp))

/-- What a command is made of. -/
def commanded : Signal → List Deed
  | .Message _ => [.message, .ask, .tell]
  | .Close _ _ => [.close, .ask, .tell]
  | .Connect _ => .tell :: connecting
  | .Shutdown => [.shut, .announce, .ask, .tell]
  | .Timeout _ _ => [.wait, .timeout, .tell]
  | .Cancel _ => [.wait]

lemma handle_broadcast_deeds (ho : AllOpened h) (signal : Signal) :
    Meets (h.handle_broadcast signal) Mishap (Path (commanded signal) h) := by
  cases signal with
  | Message msg =>
    refine (for_each_deeds ho fun c _ => mishap (send_message_meets c msg)).bind fun r _ hr => ?_
    exact (finish_broadcast_deeds (hr.opened ho) _).mono fun _ hp =>
      (hr.mono (by simp [commanded])).trans (hp.mono (by simp [commanded]))
  | Close code reason =>
    refine (for_each_deeds ho fun c hc =>
      mishap (send_close_meets hc code reason)).bind fun r _ hr => ?_
    exact (finish_broadcast_deeds (hr.opened ho) _).mono fun _ hp =>
      (hr.mono (by simp [commanded])).trans (hp.mono (by simp [commanded]))
  | Connect url =>
    refine (mishap (connect_deeds h url)).bind fun r _ hr => ?_
    have hp := hr.mono (l := commanded (.Connect url)) (by simp [commanded])
    rcases r with ⟨g, err | u⟩
    · dsimp only
      split
      · exact Panic.noConfusion
      · exact hp
    · exact hp
  | Shutdown =>
    refine (mishap (shutdown_deeds ho)).bind fun g _ hg => ?_
    exact (finish_broadcast_deeds (hg.opened ho) _).mono fun _ hp =>
      (hg.mono (by simp [commanded])).trans (hp.mono (by simp [commanded]))
  | Timeout delay event =>
    simp only [Io.Handler.handle_broadcast]
    rcases h.timer.set_timeout delay ⟨ALL, event⟩ with ⟨timer, err | timeout⟩
    · dsimp only
      split
      · exact Panic.noConfusion
      · exact .of (.wait h h.queue timer) (by simp [commanded])
    · have htake : ∀ c : Connection (Recorded H), Opened c →
          Meets (Io.Handler.take_timeout event timeout c >>= fun c => .ok (c, ([] : List Unit)))
            Mishap fun r => Touch .timeout c r.1 :=
        fun c hc => (mishap (take_timeout_meets hc event timeout)).bind fun _ _ ht => ht
      refine (iter_mut_deeds ho htake).bind fun r _ hr => ?_
      exact (hr.mono (by simp [commanded])).trans
        (.of (.wait { h with connections := r.1 } h.queue timer) (by simp [commanded]))
  | Cancel timeout => exact .of (.wait h h.queue _) (by simp [commanded])

lemma handle_directed_deeds (ho : AllOpened h) (t : Token) (id : UInt32) (signal : Signal) :
    Meets (h.handle_directed t id signal) Setback (Path (commanded signal) h) := by
  cases signal with
  | Message msg =>
    refine (with_id_deeds (l := commanded (.Message msg)) ho t id (by simp [commanded])
      fun c hc => send_message_told hc msg).bind fun g _ hg => ?_
    exact (schedule_at_deeds (hg.opened ho) t).mono fun _ hp =>
      hg.trans (hp.mono (by simp [commanded]))
  | Close code reason =>
    refine (with_id_deeds (l := commanded (.Close code reason)) ho t id (by simp [commanded])
      fun c hc => send_close_told hc code reason).bind fun g _ hg => ?_
    exact (schedule_at_deeds (hg.opened ho) t).mono fun _ hp =>
      hg.trans (hp.mono (by simp [commanded]))
  | Connect url =>
    refine (connect_deeds h url).bind fun r _ hr => ?_
    have hp := hr.mono (l := commanded (.Connect url)) (by simp [commanded])
    rcases r with ⟨g, err | u⟩
    · dsimp only
      split
      · exact (error_at_deeds (hr.opened ho) t err).mono fun _ ht =>
          hp.trans (ht.mono (by simp [commanded]))
      · split
        · exact .stop ⟨Panic.noConfusion, Panic.noConfusion⟩
        · exact hp
    · exact hp
  | Shutdown =>
    refine (shutdown_deeds ho).bind fun g _ hg => ?_
    exact (schedule_at_deeds (hg.opened ho) t).mono fun _ hp =>
      (hg.mono (by simp [commanded])).trans (hp.mono (by simp [commanded]))
  | Timeout delay event =>
    simp only [Io.Handler.handle_directed]
    rcases h.timer.set_timeout delay ⟨t, event⟩ with ⟨timer, err | timeout⟩
    all_goals
      have hwait : Path (commanded (.Timeout delay event)) h { h with timer := timer } :=
        .of (.wait h h.queue timer) (by simp [commanded])
    · exact (error_at_deeds (h := { h with timer := timer }) ho t _).mono fun _ hp =>
        hwait.trans (hp.mono (by simp [commanded]))
    · dsimp only
      split
      · rename_i c hc
        refine (take_timeout_meets (ho t c hc) event timeout).bind fun d _ ht => ?_
        exact hwait.trans (.of (.touch (h := { h with timer := timer }) hc ht)
          (by simp [commanded]))
      · exact hwait
  | Cancel timeout => exact .of (.wait h h.queue _) (by simp [commanded])

lemma handle_queue_deeds (ho : AllOpened h) (cmd : Command) :
    Meets (h.handle_queue cmd) Mishap (Path (commanded cmd.signal) h) := by
  unfold Io.Handler.handle_queue
  split
  · exact .refl h
  · split
    · exact handle_broadcast_deeds ho _
    · exact mishap (handle_directed_deeds ho _ _ _)

/-! ### Events -/

lemma handle_timeout_deeds (ho : AllOpened h) (timeout : Timeout) :
    Meets (h.handle_timeout timeout) Mishap (Path [.timeout, .ask, .tell, .lose] h) := by
  unfold Io.Handler.handle_timeout
  split
  · exact .refl h
  · rename_i c hc
    refine (mishap (trigger_meets (ho _ c hc) timeout.event)).bind fun d _ ht => ?_
    have hp : Path [.timeout, .ask, .tell, .lose] h (h.put timeout.connection d) :=
      .of (.touch hc ht) (by simp)
    exact (check_active_deeds (hp.opened ho) _ _).mono fun _ hq => hp.trans (hq.mono (by simp))

/-- What an expiring timeout is made of. -/
def expiring : List Deed := [.wait, .timeout, .ask, .tell, .lose]

lemma expire_deeds (ho : AllOpened h) (number : ℕ) :
    Meets (h.expire number) Mishap (Path expiring h) := by
  unfold Io.Handler.expire
  split
  · exact .refl h
  · have hwait : Path expiring h { h with timer := h.timer.expire number } :=
      .of (.wait h h.queue _) (by simp [expiring])
    exact (handle_timeout_deeds (hwait.opened ho) _).mono fun _ hp =>
      hwait.trans (hp.mono (by simp [expiring]))

omit [Factory F H] [Handler H] [Host] in
lemma put_put (h : Watched F H) (t : Token) (c d : Connection (Recorded H)) :
    (h.put t c).put t d = h.put t d := by
  unfold Io.Handler.put
  rw [Slab.set_set]

omit [Factory F H] [Handler H] [Host] in
lemma put_self {t : Token} {c : Connection (Recorded H)} (hc : h.connections.get t = some c) :
    h.put t c = h := by
  unfold Io.Handler.put
  rw [Slab.set_self hc]

omit [Factory F H] [Handler H] [Host] in
lemma at_slot_of_get {t : Token} {c : Connection (Recorded H)}
    (hc : h.connections.get t = some c) : h.at_slot t = .ok c := by
  unfold Io.Handler.at_slot
  rw [hc]

/-- An opened connection does not recover: the error is reported to it. -/
lemma recover_eq {t : Token} {c : Connection (Recorded H)} (hc : h.connections.get t = some c)
    (ho : Opened c) (err : Error) :
    h.recover t err = c.error err >>= fun d => .ok (h.put t d, false) := by
  have hnext : Io.Handler.try_next c h.poll err = .ok (c, h.poll, false) := by
    unfold Io.Handler.try_next
    split
    · obtain ⟨e, he⟩ := reset_opened ho h.poll
      rw [he]
      rfl
    · rfl
  unfold Io.Handler.recover
  rw [at_slot_of_get hc, ok_bind, hnext, ok_bind]
  simp only [put_self hc, Bool.false_eq_true, if_false]

/-- One direction of a socket event, and the event goes on. -/
lemma attempt_eq {t : Token} {c : Connection (Recorded H)} (hc : h.connections.get t = some c)
    (ready : Ready → Bool) (events : Ready)
    {f : Connection (Recorded H) → Except Panic (Connection (Recorded H) × Result Unit)}
    (hf : ∀ r, f c = .ok r → Opened r.1) :
    h.attempt t ready events f = (if ready (events.and c.events) then f c >>= told else .ok c)
      >>= fun d => .ok (h.put t d, false) := by
  unfold Io.Handler.attempt
  rw [at_slot_of_get hc, ok_bind]
  split
  · rcases hr : f c with p | ⟨c', err | u⟩
    · rfl
    · simp only [ok_bind, told]
      rw [recover_eq (get_put hc c') (hf _ hr)]
      simp only [put_put]
    · rfl
  · rw [ok_bind, put_self hc]

/-- One direction of a socket event is one deed. -/
lemma attempt_deeds (ho : AllOpened h) (t : Token) (ready : Ready → Bool) (events : Ready)
    {d : Deed}
    {act : Connection (Recorded H) → Except Panic (Connection (Recorded H) × Result Unit)}
    (hact : ∀ c, Opened c → Meets (act c) Mishap fun r => Opened r.1 ∧ Told d c r) :
    Meets (h.attempt t ready events act) Mishap fun r => r.2 = false ∧ Path [d] h r.1 := by
  rcases hc : h.connections.get t with _ | c
  · unfold Io.Handler.attempt Io.Handler.at_slot
    rw [hc]
    exact Panic.noConfusion
  · have hc' := hact c (ho t c hc)
    rw [attempt_eq hc ready events fun r hr => (hc'.holds r hr).1]
    split
    · refine (hc'.bind fun r _ hr => hr.2).bind fun e _ ht => ⟨rfl, .of (.touch hc ht) (by simp)⟩
    · refine ⟨rfl, ?_⟩
      dsimp only
      rw [put_self hc]
      exact .refl h

/-- What an event of a socket is made of. -/
def exchanging : List Deed := [.read, .write, .ask, .tell, .lose]

/-- Reading, in an event of a socket. -/
lemma read_deeds (ho : AllOpened h) (t : Token) (events : Ready) :
    Meets (h.attempt t Ready.is_readable events Connection.read) Mishap fun r =>
      r.2 = false ∧ Path [.read] h r.1 := by
  refine attempt_deeds ho t _ _ fun c hc => (read_told hc).of_ok fun r hr => ?_
  have htold := read_told hc
  rw [hr] at htold
  exact ⟨hc.of_state (read_inward hr).state, htold⟩

lemma handle_socket_deeds (ho : AllOpened h) (t : Token) (events : Ready) :
    Meets (h.handle_socket t events) Mishap (Path exchanging h) := by
  have hwrite : ∀ c : Connection (Recorded H), Opened c →
      Meets (.ok c.write : Except Panic _) Mishap fun r => Opened r.1 ∧ Told .write c r :=
    fun c hc => ⟨write_opened hc rfl, write_told hc⟩
  refine (read_deeds ho t events).bind fun r _ hr => ?_
  obtain ⟨g, done⟩ := r
  obtain ⟨rfl, hr⟩ := hr
  have hr' := hr.mono (l := exchanging) (by simp [exchanging])
  simp only [Bool.false_eq_true, if_false]
  refine (attempt_deeds (hr.opened ho) t Ready.is_writable events hwrite).bind fun r _ hw => ?_
  obtain ⟨g', done⟩ := r
  obtain ⟨rfl, hw⟩ := hw
  have hw' := hr'.trans (hw.mono (l := exchanging) (by simp [exchanging]))
  simp only [Bool.false_eq_true, if_false]
  refine (at_slot_meets _ t).bind fun c _ _ => ?_
  exact (check_active_deeds (hw'.opened ho) _ t).mono fun _ hp =>
    hw'.trans (hp.mono (by simp [exchanging]))

/-- **What an event of a socket does**: it reads and writes the connection in the slot, and
schedules it again or loses it. -/
theorem handle_socket_eq {t : Token} {c : Connection (Recorded H)}
    (hc : h.connections.get t = some c) (ho : Opened c) (events : Ready) :
    h.handle_socket t events = reading events c >>= fun d => writing events d >>= fun e =>
      (h.put t e).check_active (e.events.is_readable || e.events.is_writable) t := by
  unfold Io.Handler.handle_socket
  rw [attempt_eq hc Ready.is_readable events fun r hr => ho.of_state (read_inward hr).state]
  show (reading events c >>= _) >>= _ = _
  rcases hd : reading events c with p | d
  · rfl
  have hd' := reading_opened ho hd
  simp only [ok_bind, Bool.false_eq_true, if_false]
  rw [attempt_eq (get_put hc d) Ready.is_writable events (f := fun c => .ok c.write)
    fun r hr => by cases hr; exact write_opened hd' rfl]
  show (writing events d >>= _) >>= _ = _
  rcases writing events d with p | e
  · rfl
  · simp only [ok_bind, put_put, Bool.false_eq_true, if_false, at_slot_of_get (get_put hc e)]

/-- A connection that wants nothing any more after an event is lost, and the others stay. -/
lemma handle_socket_loses {t : Token} {c e : Connection (Recorded H)} {events : Ready}
    (hc : h.connections.get t = some c) (ho : Opened c)
    (he : (reading events c >>= writing events) = .ok e) (hev : e.events = .empty)
    (hs : h.handle_socket t events = .ok h') :
    h'.factory.lost = h.factory.lost ++ [e.handler] ∧
      (∀ j, h'.connections.get j = if t = j then none else h.connections.get j) ∧
      h'.poll = h.poll := by
  obtain ⟨d, hd, he⟩ := bind_eq_ok.mp he
  rw [handle_socket_eq hc ho, hd, ok_bind, he, ok_bind] at hs
  unfold Io.Handler.check_active at hs
  rw [at_slot_of_get (get_put hc e), ok_bind, hev] at hs
  obtain ⟨x, hx, hlost, hslots, hpoll⟩ := lose_spec hs
  rw [get_put hc, Option.some.injEq] at hx
  subst hx
  refine ⟨hlost, fun j => ?_, hpoll⟩
  rw [hslots j]
  by_cases hj : t = j
  · rw [if_pos hj, if_pos hj]
  · rw [if_neg hj, if_neg hj]
    exact Slab.get_set_ne hj

lemma handle_listener_deeds (h : Watched F H) (events : Ready) :
    Meets (h.handle_listener events) Setback (Path accepting h) := by
  unfold Io.Handler.handle_listener
  split
  · split
    · exact .stop ⟨Panic.noConfusion, Panic.noConfusion⟩
    · have hidle := accept_idle h.poll
      split <;> rename_i os _ heq <;> rw [heq] at hidle
      all_goals
        have hask : Path accepting h { h with poll := os } :=
          .of (.ask h (hidle.refused ▸ List.prefix_refl _)) (by simp [accepting])
      · refine (accept_deeds { h with poll := os } _).bind fun r _ hr => ?_
        rcases r with ⟨g, err | u⟩
        · dsimp only
          split
          · exact .stop ⟨Panic.noConfusion, Panic.noConfusion⟩
          · exact hask.trans hr
        · exact hask.trans hr
      · exact hask
  · exact .refl h

/-- What an event of the queue is made of, when `cmds` wait there. -/
def taking (cmds : List Command) : List Deed :=
  .wait :: .ask :: (cmds.head?.elim [] fun cmd => commanded cmd.signal)

lemma handle_commands_deeds (ho : AllOpened h) :
    Meets h.handle_commands Mishap (Path (taking h.queue.commands) h) := by
  have hcmd : Meets h.take_command Mishap (Path (taking h.queue.commands) h) := by
    rcases hcmds : h.queue.commands with _ | ⟨cmd, rest⟩
    · rw [Io.Handler.take_command_nil hcmds]
      exact .refl h
    · rw [Io.Handler.take_command_cons hcmds]
      have hwait : Path (taking (cmd :: rest)) h { h with queue := ⟨h.queue.bound, rest⟩ } :=
        .of (.wait h _ h.timer) (by simp [taking])
      exact (handle_queue_deeds (hwait.opened ho) cmd).mono fun _ hp =>
        hwait.trans (hp.mono (by simp [taking]))
  refine hcmd.bind fun g _ hg => hg.trans (.of (.ask g (register_refused _ _ _)) ?_)
  simp [taking]

/-- What the handling of an event is made of. -/
def happening (cmds : List Command) (token : Token) : List Deed :=
  if token = ALL then accepting
  else if token = TIMER then expiring
  else if token = QUEUE then taking cmds
  else exchanging

lemma handle_event_deeds (ho : AllOpened h) {token : Token} (hsys : token ≠ SYSTEM)
    (events : Ready) :
    Meets (h.handle_event token events) Mishap (Path (happening h.queue.commands token) h) := by
  unfold Io.Handler.handle_event happening
  rw [if_neg hsys]
  split
  · exact mishap (handle_listener_deeds h events)
  split
  · exact Meets.foldlM (I := Path expiring h) (.refl h) fun number _ g hg =>
      (expire_deeds (hg.opened ho) number).mono fun _ hp => hg.trans hp
  split
  · exact handle_commands_deeds ho
  · exact handle_socket_deeds ho token events

/-! ### Steps -/

/-- The deeds a step can be made of. -/
def deeds (h : Watched F H) : Io.Step → List Deed
  | .input (.send _) => [.wait]
  | .input (.event evt) => [.supply, .wait, .ask] ++ happening h.queue.commands evt.token
  | .interrupted => [.stop]
  | .check_count => [.announce]

lemma supply_deeds (h : Watched F H) (t : Token) (a : Io.Answers) :
    Path [.supply, .wait, .ask] h (h.supply t a) := by
  have hwait : Path [.supply, .wait, .ask] h { h with timer := { h.timer with due := a.due } } :=
    .of (.wait h h.queue _) (by simp)
  have hask : ∀ g : Watched F H, Path [.supply, .wait, .ask] g { g with poll := { g.poll with
      polls := a.polls, resolves := a.resolves, connects := a.connects
      nodelays := a.nodelays, accepts := a.accepts } } := fun g =>
    .of (.ask g (List.prefix_refl _)) (by simp)
  unfold Io.Handler.supply
  rcases hget : h.connections.get t with _ | c
  · exact hwait.trans (hask _)
  · exact (hwait.trans (hask _)).trans (.of (.touch hget (.supply c a.reads a.writes)) (by simp))

/-- **A step is made of its deeds.** The only assertion it can meet is that no event is for the
token `SYSTEM`. -/
theorem step_deeds (ho : AllOpened h) (s : Io.Step) :
    Meets (h.step s) (fun p => p = .debug_assert → ∃ kind a, s = .on SYSTEM kind a)
      (Path (deeds h s) h) := by
  cases s with
  | input i =>
    cases i with
    | send cmd =>
      show Path _ h (h.send cmd)
      unfold Io.Handler.send
      split
      · exact .of (.wait h _ h.timer) (by simp [deeds])
      · exact .refl h
    | event evt =>
      obtain ⟨token, kind, a⟩ := evt
      by_cases hsys : token = SYSTEM
      · subst hsys
        exact fun _ => ⟨kind, a, rfl⟩
      · have hsup := supply_deeds h token a
        refine ((handle_event_deeds (hsup.opened ho) hsys kind).mono fun _ hp => ?_).of_stops
          fun p hp he => absurd he hp
        exact (hsup.mono (List.subset_append_left _ _)).trans
          (hp.mono (List.subset_append_right _ _))
  | interrupted =>
    show Path _ h h.interrupted
    unfold Io.Handler.interrupted
    split
    · exact .of (.stop h) (by simp [deeds])
    · exact .refl h
  | check_count => exact check_count_deeds h

lemma step_path {s : Io.Step} (ho : AllOpened h) (hs : h.step s = .ok h') :
    Path (deeds h s) h h' :=
  (step_deeds ho s).holds h' hs

omit [Factory F H] [Handler H] in
/-- A handler starts with no connections. -/
lemma started_opened {inner : F} {settings : Settings} {addr : Option SocketAddr}
    (hh : Io.Handler.started (Ledger.blank inner) settings addr = .ok h) : AllOpened h := by
  intro t c hc
  rw [(Io.Handler.started_fresh hh).connections, Slab.get_with_capacity] at hc
  cases hc

/-- **What every deed keeps holds in every state a run reaches**, when it holds of a handler with
no connections. -/
theorem execute_inv {I : Watched F H → Prop} {inner : F} {settings : Settings}
    {addr : Option SocketAddr} {steps : List Io.Step}
    (hstart : ∀ h : Watched F H, Io.Handler.Fresh (Ledger.blank inner) settings addr h → I h)
    (hstep : ∀ d g g', Act d g g' → AllOpened g → I g → I g')
    (hr : Io.Handler.execute (Ledger.blank inner) settings addr steps = .ok h) :
    AllOpened h ∧ I h := by
  obtain ⟨h0, h0s, hr⟩ := bind_eq_ok.mp hr
  refine run_inv_true (I := fun g => AllOpened g ∧ I g) (fun g s g' hg hs => ?_)
    ⟨started_opened h0s, hstart h0 (Io.Handler.started_fresh h0s)⟩ hr
  exact (step_path hg.1 hs).inv (I := fun g => AllOpened g ∧ I g)
    (fun d _ _ _ ha hi => ⟨ha.opened hi.1, hstep d _ _ ha hi.1 hi.2⟩) hg

lemma execute_opened {inner : F} {settings : Settings} {addr : Option SocketAddr}
    {steps : List Io.Step}
    (hr : Io.Handler.execute (Ledger.blank inner) settings addr steps = .ok h) : AllOpened h :=
  (execute_inv (I := fun _ => True) (fun _ _ => trivial) (fun _ _ _ _ _ _ => trivial) hr).1

/-! ### What becomes of a connection -/

omit [Factory F H] [Handler H] [Host] in
/-- Every connection in the slab was in its slot before, and `P` relates what it was to what it
is, or its handler has been made since. -/
structure Stems (P : Connection (Recorded H) → Connection (Recorded H) → Prop)
    (h h' : Watched F H) : Prop where
  made : h.factory.made.length ≤ h'.factory.made.length
  slots : ∀ t c', h'.connections.get t = some c' →
    (∃ c, h.connections.get t = some c ∧ c'.handler.birth = c.handler.birth ∧ P c c') ∨
      h.factory.made.length ≤ c'.handler.birth

section Stemming

variable {P : Connection (Recorded H) → Connection (Recorded H) → Prop}

omit [Factory F H] [Handler H] [Host] in
lemma Stems.refl (hrefl : ∀ c, P c c) (h : Watched F H) : Stems P h h :=
  ⟨le_refl _, fun _ c' hc' => Or.inl ⟨c', hc', rfl, hrefl c'⟩⟩

omit [Factory F H] [Handler H] [Host] in
lemma Stems.trans (htrans : ∀ c d e, P c d → P d e → P c e) (hs : Stems P h g)
    (hs' : Stems P g h') : Stems P h h' := by
  refine ⟨hs.made.trans hs'.made, fun t e he => ?_⟩
  rcases hs'.slots t e he with ⟨d, hd, hb, hp⟩ | hnew
  · rcases hs.slots t d hd with ⟨c, hc, hb', hp'⟩ | hnew
    · exact Or.inl ⟨c, hc, hb.trans hb', htrans c d e hp' hp⟩
    · exact Or.inr (hb ▸ hnew)
  · exact Or.inr (hs.made.trans hnew)

omit [Factory F H] [Handler H] [Host] in
/-- A handler found again is in the same slot. -/
lemma Stems.of_birth (hs : Stems P h h')
    (ha : Accounted h.connections h.factory.made.length h.factory.lost) {t t' : Token}
    {c c' : Connection (Recorded H)} (hc : h.connections.get t = some c)
    (hc' : h'.connections.get t' = some c') (hb : c'.handler.birth = c.handler.birth) :
    t = t' ∧ P c c' := by
  rcases hs.slots t' c' hc' with ⟨d, hd, hb', hp⟩ | hnew
  · have ht := ha.distinct t t' c d hc hd (hb.symm.trans hb')
    subst ht
    rw [hc, Option.some.injEq] at hd
    exact ⟨rfl, hd ▸ hp⟩
  · exact absurd (ha.slots_lt t c hc) (by rw [← hb]; exact Nat.not_lt.mpr hnew)

/-- One deed, when `P` relates what is done to a connection. -/
lemma Act.stems {d : Deed} (hrefl : ∀ c, P c c) (ho : AllOpened h)
    (htouch : ∀ c c', Opened c → Touch d c c' → P c c') (ha : Act d h h') : Stems P h h' := by
  have hjoin : ∀ {tok : Token} {made : F × H} {factory : Ledger F H} {handler : Recorded H}
      {c : Connection (Recorded H)} (g : Watched F H), h.connections.vacant_entry = some tok →
      h.factory.enter ⟨tok, h.next_connection_id⟩ made = (factory, handler) →
      c.handler.birth = handler.birth → g.connections = h.connections.insert c →
      g.factory = factory → Stems P h g := by
    rintro tok made factory handler c g hv hm hb hg hf
    cases hm
    refine ⟨by rw [hf]; simp, fun t e he => ?_⟩
    rw [hg, Slab.get_insert hv] at he
    split at he
    · cases he
      exact Or.inr (le_of_eq hb.symm)
    · exact Or.inl ⟨e, he, rfl, hrefl e⟩
  cases ha with
  | wait queue timer => exact ⟨le_refl _, (Stems.refl hrefl h).slots⟩
  | ask hr => exact ⟨le_refl _, (Stems.refl hrefl h).slots⟩
  | touch hc ht =>
    refine ⟨le_refl _, fun j e he => ?_⟩
    rw [Io.Handler.put, Slab.get_set] at he
    split at he
    · rename_i hj
      cases he
      exact Or.inl ⟨_, hj.1 ▸ hc, ht.evolves.birth, htouch _ _ (ho _ _ hc) ht⟩
    · exact Or.inl ⟨e, he, rfl, hrefl e⟩
  | join hv hm hb he hr => exact hjoin _ hv hm hb.birth rfl rfl
  | strand hv hm hb hr => exact hjoin _ hv hm hb.birth rfl rfl
  | turn_away hm hr =>
    cases hm
    exact ⟨Nat.le_of_lt (by simp [Factory.connection_lost]), (Stems.refl hrefl h).slots⟩
  | drop hm hn hr =>
    cases hm
    exact ⟨Nat.le_of_lt (by simp), (Stems.refl hrefl h).slots⟩
  | lose hl =>
    obtain ⟨c, -, -, hget, -⟩ := lose_spec hl
    refine ⟨(lose_keeps hl).made.length_le, fun j e he => ?_⟩
    rw [hget] at he
    split at he
    · cases he
    · exact Or.inl ⟨e, he, rfl, hrefl e⟩
  | announce => exact ⟨le_refl _, (Stems.refl hrefl h).slots⟩
  | stop => exact ⟨le_refl _, (Stems.refl hrefl h).slots⟩

lemma Path.stems (hp : Path ds h h') (hrefl : ∀ c, P c c)
    (htrans : ∀ c d e, P c d → P d e → P c e) (ho : AllOpened h)
    (htouch : ∀ d ∈ ds, ∀ c c', Opened c → Touch d c c' → P c c') : Stems P h h' := by
  have hall : AllOpened h' ∧ Stems P h h' := by
    refine hp.inv (I := fun g => AllOpened g ∧ Stems P h g) (fun d hd g g' ha hg => ?_)
      ⟨ho, .refl hrefl h⟩
    exact ⟨ha.opened hg.1, hg.2.trans htrans (ha.stems hrefl hg.1 (htouch d hd))⟩
  exact hall.2

/-- **What everything done to an opened connection keeps, a run keeps.** -/
theorem run_stems {steps : List Io.Step} (hrefl : ∀ c, P c c)
    (htrans : ∀ c d e, P c d → P d e → P c e)
    (htouch : ∀ d c c', Opened c → Touch d c c' → P c c') (ho : AllOpened h)
    (hr : run Io.Handler.step h steps = .ok h') : Stems P h h' := by
  have hall : AllOpened h' ∧ Stems P h h' := by
    refine run_inv_true (I := fun g => AllOpened g ∧ Stems P h g) (fun g s g' hg hs => ?_)
      ⟨ho, .refl hrefl h⟩ hr
    have hp := step_path hg.1 hs
    exact ⟨hp.opened hg.1, hg.2.trans htrans (hp.stems hrefl htrans hg.1 fun d _ => htouch d)⟩
  exact hall.2

end Stemming

end Acts

end XnetSocket.Deeds
