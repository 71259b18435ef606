import XnetSocket.Joining

/-!
Connecting, all or nothing.

An attempt to connect makes a handler before it knows whether there will be a connection for it,
and most ways out of it hand the handler back. Three do not: a name that does not resolve stops the
loop, and so do buffers that cannot be allocated; and when the option cannot be set on a socket that
has connected, the handler is dropped.
-/

namespace XnetSocket.Connecting

open Buffer Runs Connection Custody Joining

variable {F H : Type}

/-- The resolver's answer to the next name; with none in store the name has no address. -/
def answer (os : Os) : Except IoError (List SocketAddr) := os.resolves.head?.getD (.ok [])

/-- One of the addresses will connect. -/
def Reaches (os : Os) (addrs : List SocketAddr) : Prop :=
  ∃ sock, .ok sock ∈ os.connects.take addrs.length

instance (os : Os) (addrs : List SocketAddr) : Decidable (Reaches os addrs) :=
  decidable_of_iff ((os.connects.take addrs.length).any Except.isOk = true) (by
    rw [List.any_eq_true]
    constructor
    · rintro ⟨_, hx, hok⟩
      obtain ⟨sock, rfl⟩ := exists_of_isOk hok
      exact ⟨sock, hx⟩
    · exact fun ⟨_, hx⟩ => ⟨_, hx, rfl⟩)

/-- The option is asked for, and cannot be set on the next socket. -/
def Objects (settings : Settings) (os : Os) : Prop :=
  settings.tcp_nodelay = true ∧ (os.nodelays.head?.all Except.isOk) = false

instance (settings : Settings) (os : Os) : Decidable (Objects settings os) :=
  inferInstanceAs (Decidable (_ ∧ _))

/-- There is no slot to lose a handler over; or the name resolves, and when one of its addresses
will connect, the option can be set on its socket and its buffers can be allocated. -/
def Harmless (h : Watched F H) : Prop :=
  h.connections.vacant_entry = none ∨ ∃ addrs, answer h.poll = .ok addrs ∧
    (Reaches h.poll addrs → ¬ Objects h.settings h.poll ∧ h.settings.Allocatable)

/-- Nothing remains of an attempt to connect: the slots are as they were, and the handler that was
made for it, if one was, is the only one that was passed back. -/
structure Undone (h h' : Watched F H) : Prop where
  slots : ∀ t, h'.connections.get t = h.connections.get t
  handler : h'.factory.made = h.factory.made ∧ h'.factory.lost = h.factory.lost ∨
    ∃ sender handler, h'.factory.made = h.factory.made ++ [sender] ∧
      handler.birth = h.factory.made.length ∧ h'.factory.lost = h.factory.lost ++ [handler]

/-- An attempt to connect returns; it has added a connection, or fails and is undone. -/
def Atomic [Factory F H] (h : Watched F H) (url : String) : Prop :=
  ∃ h' res, h.connect url = .ok (h', res) ∧
    (res = .ok () ∧ (∃ tok c, Joined h h' tok c) ∨ (∃ err, res = .error err) ∧ Undone h h')

/-! ### The addresses -/

/-- An attempt to connect to an address takes one answer. -/
lemma connect_spec {os os' : Os} {addr : SocketAddr} {res : Except IoError TcpStream}
    (h : os.connect addr = (os', res)) :
    os'.nodelays = os.nodelays ∧ os'.connects = os.connects.tail ∧
      ∀ sock, res = .ok sock ↔ os.connects.head? = some (.ok sock) := by
  unfold Os.connect at h
  split at h <;> rename_i hc <;> cases h <;> rw [hc]
  · exact ⟨rfl, rfl, fun sock => by simp⟩
  · exact ⟨rfl, rfl, fun sock => by simp⟩

/-- The addresses that connect are the first, or among the others. -/
lemma reaches_cons {os os' : Os} {addr : SocketAddr} {rest : List SocketAddr}
    {res : Except IoError TcpStream} (h : os.connect addr = (os', res)) :
    Reaches os (addr :: rest) ↔ (∃ sock, res = .ok sock) ∨ Reaches os' rest := by
  obtain ⟨-, hrest, hhead⟩ := connect_spec h
  unfold Reaches
  rw [hrest, List.length_cons]
  simp only [hhead]
  cases os.connects with
  | nil => simp
  | cons res rest =>
    simp only [List.take_succ_cons, List.mem_cons, List.head?_cons, Option.some.injEq,
      List.tail_cons, exists_or, eq_comm]

/-- How the search for a socket ends. -/
def Ends (settings : Settings) (os : Os) (addrs : List SocketAddr) :
    Except IoError (Option (TcpStream × List SocketAddr)) → Prop
  | .error _ => Reaches os addrs ∧ Objects settings os
  | .ok none => ¬ Reaches os addrs
  | .ok (some _) => Reaches os addrs ∧ ¬ Objects settings os

/-- **How the search for a socket ends**: with nothing when no address connects, and else with an
error or a socket, as the option can be set. -/
theorem first_socket_ends (settings : Settings) (os : Os) (addrs : List SocketAddr) :
    Ends settings os addrs (Io.first_socket settings os addrs).2 := by
  induction addrs generalizing os with
  | nil =>
    rintro ⟨sock, hs⟩
    cases hs
  | cons addr rest ih =>
    rcases hc : os.connect addr with ⟨os1, err | sock⟩ <;>
      obtain ⟨hn, -, -⟩ := connect_spec hc <;>
      have hreach : Reaches os (addr :: rest) ↔ _ := reaches_cons hc <;>
      simp only [Io.first_socket, hc]
    · -- this address does not answer: the others decide
      have hsame : Reaches os (addr :: rest) ↔ Reaches os1 rest := by
        rw [hreach]
        refine ⟨fun h => h.resolve_left ?_, Or.inr⟩
        rintro ⟨sock, hs⟩
        cases hs
      have hobj : Objects settings os1 ↔ Objects settings os := by
        unfold Objects
        rw [hn]
      have hend := ih os1
      unfold Ends at hend ⊢
      split at hend <;> simp only [hsame, ← hobj] <;> exact hend
    · have hyes : Reaches os (addr :: rest) := hreach.mpr (Or.inl ⟨sock, rfl⟩)
      have hobj : Objects settings os ↔ settings.tcp_nodelay = true ∧
          (os1.nodelays.head?.all Except.isOk) = false := by
        unfold Objects
        rw [hn]
      cases hset : settings.tcp_nodelay
      · exact ⟨hyes, fun ho => by rw [hobj, hset] at ho; cases ho.1⟩
      · simp only [if_true, Os.set_nodelay]
        rcases hnod : os1.nodelays with _ | ⟨err | u, more⟩ <;> rw [hnod] at hobj
        · exact ⟨hyes, fun ho => by cases (hobj.mp ho).2⟩
        · exact ⟨hyes, hobj.mpr ⟨hset, rfl⟩⟩
        · exact ⟨hyes, fun ho => by cases (hobj.mp ho).2⟩

/-- What the resolver answers. -/
lemma to_socket_addrs_answer (os : Os) (url : String) :
    (os.to_socket_addrs url).2 = answer os ∧
      (os.to_socket_addrs url).1.connects = os.connects ∧
      (os.to_socket_addrs url).1.nodelays = os.nodelays := by
  unfold Os.to_socket_addrs answer
  rcases os.resolves with _ | ⟨res, rest⟩ <;> exact ⟨rfl, rfl, rfl⟩

section Factories

variable [Factory F H]

lemma lose_made {h h' : Watched F H} {t : Token} (hl : h.lose t = .ok h') :
    h'.factory.made = h.factory.made := by
  unfold Io.Handler.lose at hl
  split at hl <;> cases hl
  rfl

/-- A name that does not resolve stops the loop. -/
lemma connect_unresolved {h : Watched F H} {url : String} {tok : Token} {err : IoError}
    (hv : h.connections.vacant_entry = some tok) (ha : answer h.poll = .error err) :
    h.connect url = .error .unwrap := by
  have hres := (to_socket_addrs_answer h.poll url).1
  rw [ha] at hres
  unfold Io.Handler.connect
  simp only [hv, Io.url_to_addrs]
  rcases hr : h.poll.to_socket_addrs url with ⟨os, res⟩
  rw [hr] at hres
  dsimp only at hres
  subst hres
  rfl

/-- A connection that was put in the vacant slot can be lost. -/
lemma lose_inserted {h g : Watched F H} {tok : Token} {c : Connection (Recorded H)}
    (hv : h.connections.vacant_entry = some tok) (hg : g.connections = h.connections.insert c) :
    ∃ h', g.lose tok = .ok h' := by
  have hget : g.connections.get tok = some c := by rw [hg, Slab.get_insert hv, if_pos rfl]
  obtain ⟨slots, hr⟩ := Slab.remove_isSome hget
  unfold Io.Handler.lose
  rw [hr]
  exact ⟨_, rfl⟩

/-- **Connecting to a name that resolves.** When an address connects, the option may be in the way,
and then the handler is neither in a slot nor passed back, or the buffers, and then the loop stops;
else a connection joins, or the attempt is undone. -/
theorem connect_resolved {h : Watched F H} (url : String) {tok : Token} {addrs : List SocketAddr}
    (hv : h.connections.vacant_entry = some tok) (ha : answer h.poll = .ok addrs) :
    (Reaches h.poll addrs ∧ ¬ Objects h.settings h.poll ∧ ¬ h.settings.Allocatable ∧
        h.connect url = .error .capacity) ∨
      ∃ h' res, h.connect url = .ok (h', res) ∧
        (Reaches h.poll addrs ∧ Objects h.settings h.poll ∧ (∃ err, res = .error err) ∧
            (∃ sender, h'.factory.made = h.factory.made ++ [sender]) ∧
              h'.factory.lost = h.factory.lost ∨
          (Reaches h.poll addrs → ¬ Objects h.settings h.poll ∧ h.settings.Allocatable) ∧
            (res = .ok () ∨ (∃ err, res = .error err) ∧ Undone h h')) := by
  rcases hm : Factory.client_connected h.factory ⟨tok, h.next_connection_id⟩ with
    ⟨factory, handler⟩
  obtain ⟨hmade, hlost, hbirth⟩ : factory.made = h.factory.made ++ [⟨tok, h.next_connection_id⟩] ∧
      factory.lost = h.factory.lost ∧ handler.birth = h.factory.made.length := by
    cases hm
    exact ⟨rfl, rfl, rfl⟩
  obtain ⟨hres, hconnects, hnodelays⟩ := to_socket_addrs_answer h.poll url
  rcases hr : h.poll.to_socket_addrs url with ⟨os, res⟩
  rw [hr] at hres hconnects hnodelays
  dsimp only at hres hconnects hnodelays
  rw [ha] at hres
  subst hres
  have hreach : Reaches os addrs.reverse ↔ Reaches h.poll addrs := by
    unfold Reaches
    rw [hconnects, List.length_reverse]
  have hobj : Objects h.settings os ↔ Objects h.settings h.poll := by
    unfold Objects
    rw [hnodelays]
  have hends := first_socket_ends h.settings os addrs.reverse
  unfold Io.Handler.connect
  simp only [hv, hm, Io.url_to_addrs, hr, ok_bind]
  rcases hfs : Io.first_socket h.settings os addrs.reverse with
    ⟨os2, err | _ | ⟨sock, rest⟩⟩ <;> rw [hfs] at hends <;>
    simp only [Ends, hreach, hobj] at hends
  · -- the option could not be set
    exact Or.inr ⟨_, _, rfl, Or.inl ⟨hends.1, hends.2, ⟨_, rfl⟩, ⟨_, hmade⟩, hlost⟩⟩
  · -- no address answered
    refine Or.inr ⟨_, _, rfl, Or.inr ⟨fun hr => absurd hr hends, Or.inr ⟨⟨_, rfl⟩, fun _ => rfl,
      Or.inr ⟨_, handler, hmade, hbirth, ?_⟩⟩⟩⟩
    exact congrArg (· ++ [handler]) hlost
  · by_cases halloc : h.settings.Allocatable
    swap
    · -- the buffers cannot be allocated
      refine Or.inl ⟨hends.1, hends.2, halloc, ?_⟩
      simp only [Connection.new, if_neg halloc]
      rfl
    obtain ⟨c, hclient, htok, -, hev, hhandler, -⟩ := client_spec tok sock handler h.settings
      h.next_connection_id url rest.reverse
    refine Or.inr ?_
    dsimp only
    rw [new_of_allocatable halloc, ok_bind, hclient]
    dsimp only
    rcases hreg : os2.register c.token c.events with ⟨os3, err | u⟩
    · -- the poll refused
      dsimp only
      obtain ⟨h', hl⟩ := lose_inserted (F := F) (g := { h with
        factory := factory, next_connection_id := h.next_connection_id + 1, poll := os3,
        connections := h.connections.insert c }) hv rfl
      obtain ⟨hslots, hlost', -⟩ := insert_lose hv rfl hl
      rw [hl, ok_bind]
      refine ⟨_, _, rfl, Or.inr ⟨fun _ => ⟨hends.2, halloc⟩, Or.inr ⟨⟨_, rfl⟩, hslots,
        Or.inr ⟨_, handler, (lose_made hl).trans hmade, hbirth, ?_⟩⟩⟩⟩
      rw [hlost', hhandler]
      exact congrArg (· ++ [handler]) hlost
    · exact ⟨_, _, rfl, Or.inr ⟨fun _ => ⟨hends.2, halloc⟩, Or.inl rfl⟩⟩

/-- **When connecting is atomic.** An attempt to connect returns with a registered connection, or
with an error and nothing changed but a handler made and passed back, exactly when there is no
vacant slot; or the name resolves, and when one of its addresses connects, the option can be set on
the first socket that does and the buffers of the connection can be allocated. -/
theorem connect_atomic_iff (h : Watched F H) (url : String) : Atomic h url ↔ Harmless h := by
  rcases hv : h.connections.vacant_entry with _ | tok
  · refine iff_of_true ?_ (Or.inl hv)
    unfold Atomic Io.Handler.connect
    simp only [hv]
    exact ⟨h, _, rfl, Or.inr ⟨⟨_, rfl⟩, fun _ => rfl, Or.inl ⟨rfl, rfl⟩⟩⟩
  rcases ha : answer h.poll with err | addrs
  · refine iff_of_false ?_ ?_
    · rintro ⟨h', res, hc, -⟩
      rw [connect_unresolved hv ha] at hc
      cases hc
    · rintro (h0 | ⟨addrs, h0, -⟩)
      · rw [hv] at h0
        cases h0
      · rw [ha] at h0
        cases h0
  have hharmless : Harmless h ↔
      (Reaches h.poll addrs → ¬ Objects h.settings h.poll ∧ h.settings.Allocatable) := by
    unfold Harmless
    rw [hv, ha]
    simp
  rw [hharmless]
  rcases connect_resolved url hv ha with ⟨hreach, -, hno, hc⟩ |
    ⟨h', res, hc, ⟨hreach, hobj, ⟨err, rfl⟩, ⟨sender, hmade⟩, hlost⟩ | ⟨hfine, hend⟩⟩
  · -- the loop stops
    refine iff_of_false ?_ fun hfine => hno (hfine hreach).2
    rintro ⟨h', res, hc', -⟩
    rw [hc] at hc'
    cases hc'
  · -- the handler is dropped
    refine iff_of_false ?_ fun hfine => (hfine hreach).1 hobj
    rintro ⟨h'', res, hc', ⟨rfl, -⟩ | ⟨-, hun⟩⟩
    · rw [hc] at hc'
      cases hc'
    · rw [hc] at hc'
      cases hc'
      rcases hun.handler with ⟨hm, -⟩ | ⟨_, x, -, -, hl⟩
      · rw [hmade] at hm
        simp at hm
      · rw [hlost] at hl
        simp at hl
  · refine iff_of_true ⟨h', res, hc, ?_⟩ hfine
    rcases hend with rfl | hend
    · rcases connect_cases hc with ⟨_, -, he, -⟩ | ⟨-, -, hj⟩
      · cases he
      · exact Or.inl ⟨rfl, hj⟩
    · exact Or.inr hend

end Factories

/-! ### Three ways out -/

/-- A client with one slot, and what it will be answered. -/
def client_with (settings : Settings) (poll : Os) : Watched (Sender → M) M where
  listener := none
  connections := .with_capacity 1
  factory := Ledger.blank fun _ => {}
  settings := settings
  state := .Active
  queue := .new 5
  timer := .new
  next_connection_id := 0
  poll := poll

/-- The name of the peer does not resolve. -/
def unresolved : Watched (Sender → M) M :=
  client_with {} { Os.init with
    resolves := [.error ⟨.Other, none, "failed to lookup address information"⟩] }

/-- The peer answers, but its socket does not take the option. -/
def option_refused : Watched (Sender → M) M :=
  client_with { tcp_nodelay := true } { Os.init with
    resolves := [.ok [⟨"127.0.0.1:3012"⟩]]
    connects := [.ok .fresh]
    nodelays := [.error ⟨.Other, some 22, "Invalid argument"⟩] }

/-- The peer answers, but no buffer can be as large as the settings ask. -/
def too_large : Watched (Sender → M) M :=
  client_with { in_buffer_capacity := 2 ^ 63 } { Os.init with
    resolves := [.ok [⟨"127.0.0.1:3012"⟩]]
    connects := [.ok .fresh] }

/-- The first stops the loop, the second loses a handler, and the third stops the loop. -/
theorem connect_not_atomic :
    ¬ Atomic unresolved "nowhere:3012" ∧ ¬ Atomic option_refused "localhost:3012" ∧
      ¬ Atomic too_large "localhost:3012" := by
  refine ⟨?_, ?_, ?_⟩
  · rintro ⟨h', res, hc, -⟩
    cases hc
  · rintro ⟨h', res, hc, hend⟩
    have hrun : Returns (option_refused.connect "localhost:3012") fun p =>
        p.2.isOk = false ∧ p.1.factory.made = [⟨0, 0⟩] ∧ p.1.factory.lost = [] := by
      decide +kernel
    obtain ⟨⟨g, res'⟩, hc', hres, hmade, hlost⟩ := hrun
    rw [hc] at hc'
    cases hc'
    rcases hend with ⟨rfl, -⟩ | ⟨-, hun⟩
    · cases hres
    · rcases hun.handler with ⟨hm, -⟩ | ⟨_, x, -, -, hl⟩
      · rw [hmade] at hm
        cases hm
      · rw [hlost] at hl
        cases hl
  · rintro ⟨h', res, hc, -⟩
    have hstop : (too_large.connect "localhost:3012").isOk = false := by decide +kernel
    rw [hc] at hstop
    cases hstop

end XnetSocket.Connecting
