import XnetSocket.Custody

/-!
How connections join the slab: what becomes of an attempt to connect and of an accepted peer.

Why an attempt to connect will fail can be told from the slab and from what the operating
system will answer; when it fails, the slots are as they were.
-/

namespace XnetSocket.Joining

open Buffer Runs Connection Evolution Lifecycle Custody

variable {F H : Type}

/-- Why connecting to `url` will fail, if it will. -/
def connect_failure (h : Watched F H) (url : String) : Option Error :=
  match h.connections.vacant_entry with
  | none => some (.new .Capacity "Unable to add another connection to the event loop.")
  | some tok =>
    match h.poll.to_socket_addrs url with
    | (_, .error _) => none
    | (os, .ok addrs) =>
      match Io.first_socket h.settings os addrs.reverse with
      | (_, .error err) => some (.from_io err)
      | (_, .ok none) =>
        some (.new .Internal ("Unable to obtain any socket address for " ++ url))
      | (os, .ok (some _)) =>
        match (os.register tok readable).2 with
        | .ok () => none
        | .error err => some (.from_io err)

/-- A connection has joined: it is open, wants to read, is registered for that, and neither it
nor its handler has seen anything yet. -/
structure Joined (h h' : Watched F H) (tok : Token) (c : Connection (Recorded H)) : Prop where
  vacant : h.connections.vacant_entry = some tok
  slots : h'.connections = h.connections.insert c
  token : c.token = tok
  opened : c.state = .Open
  events : c.events = readable
  calls : c.handler.calls = []
  data : c.in_buffer.inner.data = []
  lost : h'.factory.lost = h.factory.lost
  interest : h'.poll.interest = Function.update h.poll.interest tok (some readable)
  polls : h'.poll.polls ⊆ h.poll.polls
  refused : h'.poll.refused = h.poll.refused

/-- The poll refused to watch the vacant slot, and the handler made for it was passed back. -/
structure Returned (h h' : Watched F H) (tok : Token) (handler : Recorded H) : Prop where
  vacant : h.connections.vacant_entry = some tok
  refused : h'.poll.refused = h.poll.refused ++ [tok]
  lost : h'.factory.lost = h.factory.lost ++ [handler]
  birth : handler.birth = h.factory.made.length

/-- Nothing has joined: the slots are as they were, and at most a handler that heard nothing
was passed back. -/
structure Unjoined (h h' : Watched F H) : Prop where
  slots : ∀ t, h'.connections.get t = h.connections.get t
  lost : h'.factory.lost = h.factory.lost ∨
    ∃ handler, h'.factory.lost = h.factory.lost ++ [handler] ∧ handler.calls = []
  interest : h'.poll.interest = h.poll.interest
  polls : h'.poll.polls ⊆ h.poll.polls
  refused : h'.poll.refused = h.poll.refused ∨ ∃ tok handler, Returned h h' tok handler

lemma Joined.get {h h' : Watched F H} {tok : Token} {c : Connection (Recorded H)}
    (hj : Joined h h' tok c) (t : Token) :
    h'.connections.get t = if tok = t then some c else h.connections.get t := by
  rw [hj.slots, Slab.get_insert hj.vacant]

/-! ### What asking the operating system changes -/

/-- Nothing is registered, and no answer about registrations is used up. -/
structure Idle (os os' : Os) : Prop where
  polls : os'.polls = os.polls
  interest : os'.interest = os.interest
  refused : os'.refused = os.refused

lemma Idle.refl (os : Os) : Idle os os := ⟨rfl, rfl, rfl⟩

lemma Idle.trans {os os' os'' : Os} (h : Idle os os') (h' : Idle os' os'') : Idle os os'' :=
  ⟨h'.polls.trans h.polls, h'.interest.trans h.interest, h'.refused.trans h.refused⟩

lemma to_socket_addrs_idle (os : Os) (url : String) : Idle os (os.to_socket_addrs url).1 := by
  unfold Os.to_socket_addrs
  split <;> exact ⟨rfl, rfl, rfl⟩

lemma connect_idle (os : Os) (addr : SocketAddr) : Idle os (os.connect addr).1 := by
  unfold Os.connect
  split <;> exact ⟨rfl, rfl, rfl⟩

lemma set_nodelay_idle (os : Os) : Idle os os.set_nodelay.1 := by
  unfold Os.set_nodelay
  split <;> exact ⟨rfl, rfl, rfl⟩

lemma accept_idle (os : Os) : Idle os os.accept.1 := by
  unfold Os.accept
  split <;> exact ⟨rfl, rfl, rfl⟩

lemma first_socket_idle (settings : Settings) (os : Os) (addrs : List SocketAddr) :
    Idle os (Io.first_socket settings os addrs).1 := by
  induction addrs generalizing os with
  | nil => exact .refl os
  | cons addr rest ih =>
    have hc := connect_idle os addr
    rcases hco : os.connect addr with ⟨os', err | sock⟩ <;> rw [hco] at hc <;>
      simp only [Io.first_socket, hco]
    · exact hc.trans (ih os')
    · split
      · have hn := set_nodelay_idle os'
        split <;> rename_i heq <;> rw [heq] at hn <;> exact hc.trans hn
      · exact hc

/-- What a registration leaves of the answers, and of the interest. -/
lemma register_polls (os : Os) (token : Token) (interest : Ready) :
    (os.register token interest).1.polls ⊆ os.polls := by
  unfold Os.register
  split
  · rename_i hp
    rw [hp]
    exact List.subset_cons_self _ _
  · exact fun _ hp => List.mem_of_mem_tail hp

lemma register_error {os os' : Os} {token : Token} {interest : Ready} {err : IoError}
    (h : os.register token interest = (os', .error err)) :
    os'.interest = os.interest ∧ os'.refused = os.refused ++ [token] := by
  unfold Os.register at h
  split at h <;> cases h
  exact ⟨rfl, rfl⟩

lemma register_ok {os os' : Os} {token : Token} {interest : Ready}
    (h : os.register token interest = (os', .ok ())) :
    os'.interest = Function.update os.interest token (some interest) ∧
      os'.refused = os.refused := by
  unfold Os.register at h
  split at h <;> cases h
  exact ⟨rfl, rfl⟩

lemma register_nil {o : Os} (hp : o.polls = []) (token : Token) (interest : Ready) :
    o.register token interest =
      ({ o with interest := Function.update o.interest token (some interest) }, .ok ()) := by
  have ha : o.Agrees := fun p hm => by rw [hp] at hm; cases hm
  rw [ha.register, hp, List.tail_nil, ← hp]

section Factories

variable [Factory F H]

/-! ### Connecting -/

/-- What `lose` does to the slots and to the ledger. -/
lemma lose_spec {h h' : Watched F H} {t : Token} (hl : h.lose t = .ok h') :
    ∃ c, h.connections.get t = some c ∧ h'.factory.lost = h.factory.lost ++ [c.handler] ∧
      (∀ j, h'.connections.get j = if t = j then none else h.connections.get j) ∧
      h'.poll = h.poll := by
  unfold Io.Handler.lose at hl
  split at hl
  · rename_i c conns hr
    cases hl
    exact ⟨c, (Slab.remove_eq hr).1, rfl, Slab.get_remove hr, rfl⟩
  · cases hl

/-- Checking whether a connection is still active leaves the slots alone, or empties its slot. -/
lemma check_active_slots [Handler H] [Host] {h h' : Watched F H} {active : Bool} {t : Token}
    (hr : h.check_active active t = .ok h') :
    h'.connections = h.connections ∨
      ∀ j, h'.connections.get j = if t = j then none else h.connections.get j := by
  obtain ⟨c, -, hr⟩ := bind_eq_ok.mp hr
  split at hr
  · have hslots := schedule_slots h c
    rcases hs : h.schedule c with ⟨g, err | u⟩ <;> rw [hs] at hr hslots
    · obtain ⟨d, -, hr⟩ := bind_eq_ok.mp hr
      obtain ⟨_, -, -, hget, -⟩ := lose_spec hr
      refine Or.inr fun j => ?_
      rw [hget j]
      by_cases hj : t = j
      · rw [if_pos hj, if_pos hj]
      · rw [if_neg hj, if_neg hj, Io.Handler.put, Slab.get_set_ne hj]
        exact congrArg (Slab.get · j) hslots
    · cases hr
      exact Or.inl hslots
  · obtain ⟨_, -, -, hget, -⟩ := lose_spec hr
    exact Or.inr hget

/-- The connection `connect` makes of a socket. -/
lemma client_spec (tok : Token) (sock : TcpStream) (handler : Recorded H) (settings : Settings)
    (id : UInt32) (url : String) (addrs : List SocketAddr) :
    ∃ c, (blank tok sock handler settings id).open.1.as_client url addrs = (c, .ok ()) ∧
      c.token = tok ∧ c.state = .Open ∧ c.events = readable ∧ c.handler = handler ∧
      c.in_buffer.inner.data = [] :=
  ⟨_, rfl, rfl, rfl, rfl, rfl, rfl⟩

/-- A connection that is put in the vacant slot and lost again leaves the slots alone. -/
lemma insert_lose {h g h' : Watched F H} {tok : Token} {c : Connection (Recorded H)}
    (hv : h.connections.vacant_entry = some tok) (hg : g.connections = h.connections.insert c)
    (hl : g.lose tok = .ok h') :
    (∀ t, h'.connections.get t = h.connections.get t) ∧
      h'.factory.lost = g.factory.lost ++ [c.handler] ∧ h'.poll = g.poll := by
  obtain ⟨d, hd, hlost, hget, hpoll⟩ := lose_spec hl
  have hc : d = c := by
    rw [hg, Slab.get_insert hv, if_pos rfl] at hd
    exact (Option.some.inj hd).symm
  refine ⟨fun t => ?_, hc ▸ hlost, hpoll⟩
  rw [hget t, hg, Slab.get_insert hv]
  split
  · rename_i htok
    rw [← htok, Slab.get_vacant hv]
  · rfl

omit [Factory F H] in
/-- What `enter` does to the ledger, and what it makes of the handler. -/
lemma enter_spec {l l' : Ledger F H} {sender : Sender} {made : F × H} {handler : Recorded H}
    (hm : l.enter sender made = (l', handler)) :
    l'.lost = l.lost ∧ handler.calls = [] ∧ handler.birth = l.made.length := by
  cases hm
  exact ⟨rfl, rfl, rfl⟩

section Registering

variable {h g h' : Watched F H} {os os' : Os} {tok : Token} {c : Connection (Recorded H)}

/-- The poll refuses a connection on its way into the vacant slot, and it is lost again. -/
lemma unjoined_of_refused {err : IoError} (hv : h.connections.vacant_entry = some tok)
    (hos : Idle h.poll os) (hreg : os.register tok readable = (os', .error err))
    (hg : g.connections = h.connections.insert c) (hp : g.poll = os')
    (hlost : g.factory.lost = h.factory.lost) (hcalls : c.handler.calls = [])
    (hbirth : c.handler.birth = h.factory.made.length) (hl : g.lose tok = .ok h') :
    Unjoined h h' := by
  obtain ⟨hslots, hlost', hp'⟩ := insert_lose hv hg hl
  obtain ⟨hint, href⟩ := register_error hreg
  have hpolls := register_polls os tok readable
  rw [hreg] at hpolls
  have hpoll : h'.poll = os' := hp'.trans hp
  rw [hlost] at hlost'
  refine ⟨hslots, Or.inr ⟨c.handler, hlost', hcalls⟩, ?_, ?_, Or.inr ⟨tok, c.handler, hv, ?_,
    hlost', hbirth⟩⟩
  · rw [hpoll, hint, hos.interest]
  · rw [hpoll, ← hos.polls]
    exact hpolls
  · rw [hpoll, href, hos.refused]

omit [Factory F H] in
/-- The poll agrees to watch a connection in the vacant slot. -/
lemma joined_of_registered (hv : h.connections.vacant_entry = some tok)
    (hos : Idle h.poll os) (hreg : os.register tok readable = (os', .ok ()))
    (hg : h'.connections = h.connections.insert c) (hp : h'.poll = os')
    (hlost : h'.factory.lost = h.factory.lost) (hcalls : c.handler.calls = [])
    (htok : c.token = tok) (hopen : c.state = .Open) (hev : c.events = readable)
    (hdata : c.in_buffer.inner.data = []) : Joined h h' tok c := by
  obtain ⟨hint, href⟩ := register_ok hreg
  have hpolls := register_polls os tok readable
  rw [hreg] at hpolls
  refine ⟨hv, hg, htok, hopen, hev, hcalls, hdata, hlost, ?_, ?_, ?_⟩
  · rw [hp, hint, hos.interest]
  · rw [hp, ← hos.polls]
    exact hpolls
  · rw [hp, href, hos.refused]

end Registering

/-- **The two outcomes of connecting**, as `connect_failure` foretells them. -/
theorem connect_cases {h h' : Watched F H} {url : String} {res : Result Unit}
    (hc : h.connect url = .ok (h', res)) :
    (∃ err, connect_failure h url = some err ∧ res = .error err ∧ Unjoined h h') ∨
      connect_failure h url = none ∧ res = .ok () ∧ ∃ tok c, Joined h h' tok c := by
  unfold Io.Handler.connect at hc
  unfold connect_failure
  rcases hv : h.connections.vacant_entry with _ | tok
  · simp only [hv] at hc
    cases hc
    exact Or.inl ⟨_, rfl, rfl, fun _ => rfl, Or.inl rfl, rfl, List.Subset.refl _, Or.inl rfl⟩
  simp only [hv] at hc
  rcases hm : Factory.client_connected h.factory ⟨tok, h.next_connection_id⟩ with
    ⟨factory, handler⟩
  obtain ⟨hlost, hcalls, hbirth⟩ := enter_spec hm
  rw [hm] at hc
  obtain ⟨⟨os, addrs⟩, hurl, hc⟩ := bind_eq_ok.mp hc
  have hidle := to_socket_addrs_idle h.poll url
  unfold Io.url_to_addrs at hurl
  rcases hres : h.poll.to_socket_addrs url with ⟨os1, err | addresses⟩
  · simp only [hres] at hurl
    cases hurl
  simp only [hres] at hurl
  cases hurl
  rw [hres] at hidle
  have hsock := hidle.trans (first_socket_idle h.settings os addresses.reverse)
  dsimp only at hc ⊢
  rcases hfs : Io.first_socket h.settings os addresses.reverse with ⟨os2, err | _ | ⟨sock, rest⟩⟩
  · -- an option of the socket could not be set
    simp only [hfs] at hc hsock ⊢
    cases hc
    exact Or.inl ⟨_, rfl, rfl, fun _ => rfl, Or.inl hlost, hsock.interest,
      hsock.polls ▸ List.Subset.refl _, Or.inl hsock.refused⟩
  · -- no address answered
    simp only [hfs] at hc hsock ⊢
    cases hc
    exact Or.inl ⟨_, rfl, rfl, fun _ => rfl,
      Or.inr ⟨handler, congrArg (· ++ [handler]) hlost, hcalls⟩, hsock.interest,
      hsock.polls ▸ List.Subset.refl _, Or.inl hsock.refused⟩
  · simp only [hfs] at hc hsock ⊢
    obtain ⟨made, hmade, hc⟩ := bind_eq_ok.mp hc
    obtain ⟨-, rfl⟩ := new_eq_ok hmade
    obtain ⟨c, hclient, htok, hopen, hev, rfl, hdata⟩ := client_spec tok sock handler h.settings
      h.next_connection_id url rest.reverse
    rw [hclient] at hc
    simp only [htok, hev] at hc
    rcases hreg : os2.register tok readable with ⟨os3, err | u⟩ <;> simp only [hreg] at hc ⊢
    · -- the poll refused
      obtain ⟨g, hg, hc⟩ := bind_eq_ok.mp hc
      cases hc
      exact Or.inl ⟨_, rfl, rfl, unjoined_of_refused hv hsock hreg rfl rfl hlost hcalls hbirth hg⟩
    · cases hc
      exact Or.inr ⟨trivial, rfl, tok, c, joined_of_registered hv hsock hreg rfl rfl hlost hcalls
        htok hopen hev hdata⟩

/-! ### Accepting -/

/-- A connection has been accepted, but the poll refused to watch it. -/
structure Stranded (h h' : Watched F H) (tok : Token) (c : Connection (Recorded H)) : Prop where
  vacant : h.connections.vacant_entry = some tok
  slots : h'.connections = h.connections.insert c
  token : c.token = tok
  lost : h'.factory.lost = h.factory.lost
  answer : ∃ err rest, h.poll.polls = .error err :: rest
  refused : h'.poll.refused = h.poll.refused ++ [tok]

variable [Handler H] [Host]

/-- **The outcomes of accepting.** A peer is turned away, joins, or is left stranded. -/
theorem accept_cases {h h' : Watched F H} {sock : TcpStream} {res : Result Unit}
    (ha : h.accept sock = .ok (h', res)) :
    (∃ err, res = .error err ∧ h'.connections = h.connections ∧
        h'.factory.lost = h.factory.lost ∧ Idle h.poll h'.poll) ∨
      res = .ok () ∧ ∃ tok c, Joined h h' tok c ∨ Stranded h h' tok c := by
  unfold Io.Handler.accept at ha
  have hidle : Idle h.poll (if h.settings.tcp_nodelay then h.poll.set_nodelay
      else (h.poll, .ok ())).1 := by
    split
    · exact set_nodelay_idle h.poll
    · exact .refl h.poll
  split at ha <;> rename_i hopt <;> rw [hopt] at hidle
  · cases ha
    exact Or.inl ⟨_, rfl, rfl, rfl, hidle⟩
  rename_i os
  dsimp only at ha hidle
  split at ha
  · cases ha
    exact Or.inl ⟨_, rfl, rfl, rfl, hidle⟩
  rename_i tok hv
  rcases hm : Factory.server_connected h.factory ⟨tok, h.next_connection_id⟩ with
    ⟨factory, handler⟩
  obtain ⟨hlost, hcalls, -⟩ := enter_spec hm
  rw [hm] at ha
  obtain ⟨made, hmade, ha⟩ := bind_eq_ok.mp ha
  obtain ⟨-, rfl⟩ := new_eq_ok hmade
  dsimp only [as_server] at ha
  obtain ⟨⟨os', d⟩, hd, ha⟩ := bind_eq_ok.mp ha
  obtain ⟨e, he, ha⟩ := bind_eq_ok.mp ha
  cases ha
  refine Or.inr ⟨rfl, tok, e, ?_⟩
  have htok : e.token = tok :=
    ((register_accepted_evolves hd).trans (open_accepted_evolves he)).same.token
  unfold Io.Handler.register_accepted at hd
  rcases hreg : os.register tok readable with ⟨os'', err | u⟩
  all_goals
    have hreg' := hreg
    change os.register (blank tok sock handler h.settings h.next_connection_id).token
      (Ready.empty.insert readable) = _ at hreg'
    simp only [blank] at hd hreg'
    rw [hreg'] at hd
  · -- the poll refused
    obtain ⟨d', -, hd⟩ := bind_eq_ok.mp hd
    cases hd
    refine Or.inr ⟨hv, rfl, htok, hlost, ?_, ?_⟩
    · rw [← hidle.polls]
      unfold Os.register at hreg
      split at hreg
      · rename_i err' rest hp
        exact ⟨err', rest, hp⟩
      · cases hreg
    · rw [← hidle.refused]
      exact (register_error hreg).2
  · cases hd
    cases he
    exact Or.inl (joined_of_registered hv hidle hreg rfl rfl hlost hcalls rfl rfl rfl rfl)

/-! ### When nothing is in the way -/

/-- Nothing keeps a peer from joining when there is a slot, the system has no objection and its
buffers can be allocated. -/
lemma accept_ok {h : Watched F H} {s : TcpStream} {tok : Token}
    (hv : h.connections.vacant_entry = some tok) (hp : h.poll.polls = [])
    (hn : h.poll.nodelays = []) (ha : h.settings.Allocatable) :
    ∃ h', h.accept s = .ok (h', .ok ()) ∧ h'.state = h.state := by
  have hopt : (if h.settings.tcp_nodelay then h.poll.set_nodelay else (h.poll, .ok ())) =
      (h.poll, (.ok () : Except IoError Unit)) := by
    have hset : h.poll.set_nodelay = (h.poll, .ok ()) := by
      unfold Os.set_nodelay
      rw [hn]
    rw [hset, ite_self]
  unfold Io.Handler.accept
  rw [hopt]
  simp only [hv, new_of_allocatable ha, as_server, Io.Handler.register_accepted, register_nil hp,
    ok_bind, Io.Handler.open_accepted, Connection.open, blank]
  exact ⟨_, rfl, rfl⟩

omit [Handler H] [Host] in
/-- Nor from connecting, when the name has an address that answers. -/
lemma connect_ok {h : Watched F H} {u : String} {tok : Token} {addr : SocketAddr}
    {sock : TcpStream} (hv : h.connections.vacant_entry = some tok) (hp : h.poll.polls = [])
    (hn : h.poll.nodelays = []) (hr : h.poll.resolves = [.ok [addr]])
    (hc : h.poll.connects = [.ok sock]) (ha : h.settings.Allocatable) :
    ∃ h', h.connect u = .ok (h', .ok ()) ∧ h'.state = h.state := by
  have hres : h.poll.to_socket_addrs u = ({ h.poll with resolves := [] }, .ok [addr]) := by
    unfold Os.to_socket_addrs
    rw [hr]
  have hcon : ({ h.poll with resolves := [] } : Os).connect addr =
      ({ h.poll with resolves := [], connects := [] }, .ok sock) := by
    unfold Os.connect
    simp only [hc]
  have hset : ({ h.poll with resolves := [], connects := [] } : Os).set_nodelay =
      ({ h.poll with resolves := [], connects := [] }, .ok ()) := by
    unfold Os.set_nodelay
    simp only [hn]
  have hfirst : Io.first_socket h.settings { h.poll with resolves := [] } [addr] =
      ({ h.poll with resolves := [], connects := [] }, .ok (some (sock, []))) := by
    simp only [Io.first_socket, hcon, hset, ite_self]
  obtain ⟨c, hclient, htok, -, hev, -⟩ := client_spec tok sock
    (Factory.client_connected h.factory ⟨tok, h.next_connection_id⟩).2 h.settings
    h.next_connection_id u []
  unfold Io.Handler.connect
  simp only [hv, Io.url_to_addrs, hres, ok_bind, List.reverse_cons, List.reverse_nil,
    List.nil_append, hfirst, new_of_allocatable ha, hclient]
  rw [register_nil (o := { h.poll with resolves := [], connects := [] }) hp]
  exact ⟨_, rfl, rfl⟩

end Factories

end XnetSocket.Joining
