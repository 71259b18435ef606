import XnetSocket.Independence
import XnetSocket.Lib.Accounts
import XnetSocket.Occupancy

/-!
How many connections there are.

A client gains a connection when it takes a request that will be served, and loses one when the
event of a socket or a timeout makes that connection end. Whether it does can be told from the
connection, the event and what the poll will answer; so the connections that are left after a batch
of inputs can be counted along the way.
-/

namespace XnetSocket.Census

open Buffer Runs Connection Lifecycle Custody Joining Occupancy Touches Deeds Independence

variable {F H : Type} [Factory F H] [Handler H]

/-! ### What comes and goes -/

/-- The command is a request that will be served. -/
def is_served (h : Watched F H) (cmd : Command) : Bool :=
  match cmd.signal with
  | .Connect url => cmd.token ≠ SYSTEM ∧ connect_failure h url = none
  | _ => false

variable [Host]

/-- The handler of the connection that ends when a timeout expires, if one does. -/
def expired (h : Watched F H) (number : ℕ) : List (Recorded H) :=
  match h.timer.find number with
  | none => []
  | some timeout =>
    match h.connections.get timeout.connection with
    | none => []
    | some c => logged (Io.Handler.trigger timeout.event c >>= settled h.poll.polls)

/-- The handlers of the connections that end with an input. -/
def ended (h : Watched F H) : Io.Input → List (Recorded H)
  | .send _ => []
  | .event evt =>
    if evt.token = ALL ∨ evt.token = QUEUE then []
    else if evt.token = TIMER then
      account Io.Handler.expire expired (h.supply TIMER evt.answers) evt.answers.due
    else passed_back h evt

/-- The request that is served with an input, if one is. -/
def served (h : Watched F H) : Io.Input → List Command
  | .send _ => []
  | .event evt =>
    if evt.token = QUEUE then
      (h.queue.commands.take 1).filter (is_served (h.supply QUEUE evt.answers))
    else []

section Counting

variable {h g : Watched F H}

/-! ### What ends -/

omit [Factory F H] in
/-- A connection that settles stays, or its handler is passed back. -/
lemma settled_cases {polls : List (Except IoError Unit)} {c : Connection (Recorded H)}
    {r : Option (Connection (Recorded H)) × List (Recorded H)} (hs : settled polls c = .ok r) :
    (∃ c', r = (some c', [])) ∨ ∃ handler, r = (none, [handler]) := by
  unfold settled at hs
  split at hs
  · split at hs
    · obtain ⟨d, -, hs⟩ := bind_eq_ok.mp hs
      cases hs
      exact Or.inr ⟨_, rfl⟩
    · cases hs
      exact Or.inl ⟨_, rfl⟩
  · cases hs
    exact Or.inr ⟨_, rfl⟩

omit [Factory F H] [Handler H] [Host] in
/-- When one slot has changed, what is in the slab and what was passed back are as many. -/
lemma leaves_len {t : Token} {c : Connection (Recorded H)}
    {r : Option (Connection (Recorded H)) × List (Recorded H)} (hl : Leaves h t g r)
    (hc : h.connections.get t = some c)
    (hr : (∃ c', r = (some c', [])) ∨ ∃ handler, r = (none, [handler])) :
    g.connections.len + r.2.length = h.connections.len := by
  obtain ⟨hslots, -⟩ := hl
  rcases hr with ⟨c', rfl⟩ | ⟨handler, rfl⟩
  · refine Slab.len_congr fun j => ?_
    rw [hslots j]
    split
    · rename_i hj
      simp [← hj, hc]
    · exact Iff.rfl
  · exact Slab.len_emptied hc hslots

omit [Factory F H] [Handler H] [Host] in
lemma supply_len (h : Watched F H) (t : Token) (a : Io.Answers) :
    (h.supply t a).connections.len = h.connections.len := by
  unfold Io.Handler.supply
  refine Slab.len_congr fun j => ?_
  dsimp only
  split
  · exact Slab.get_set_none
  · exact Iff.rfl

/-- **A timeout that expires.** -/
lemma expire_len {number : ℕ} (he : h.expire number = .ok g) :
    g.connections.len + (expired h number).length = h.connections.len := by
  unfold Io.Handler.expire at he
  unfold expired
  rcases hf : h.timer.find number with _ | timeout <;> rw [hf] at he
  · cases he
    rfl
  dsimp only at he ⊢
  unfold Io.Handler.handle_timeout at he
  rcases hc : h.connections.get timeout.connection with _ | c
  · simp only [hc] at he
    cases he
    rfl
  simp only [hc] at he ⊢
  obtain ⟨d, hd, he⟩ := bind_eq_ok.mp he
  rw [hd, ok_bind]
  have hget := get_put (h := { h with timer := h.timer.expire number }) hc d
  have hsettles := check_active_settles hget
  rw [show Io.Handler.check_active _ (is_active d) timeout.connection = .ok g from he] at hsettles
  obtain ⟨r, hr, hl⟩ := hsettles.of_left rfl
  have hlen := leaves_len hl hget (settled_cases hr)
  rw [(put_steady _ _ d).len] at hlen
  rw [show settled h.poll.polls d = .ok r from hr]
  exact hlen

lemma expire_all_len {due : List ℕ} (he : run Io.Handler.expire h due = .ok g) :
    g.connections.len + (account Io.Handler.expire expired h due).length = h.connections.len := by
  induction due generalizing h with
  | nil => cases he; rfl
  | cons number due ih =>
    obtain ⟨d, hd, he⟩ := run_cons.mp he
    have hfirst := expire_len hd
    have hrest := ih he
    rw [account_cons hd, List.length_append]
    omega

/-- **An event of a socket.** -/
lemma handle_socket_len {evt : Io.Event} (ho : AllOpened h)
    (hs : (h.supply evt.token evt.answers).handle_socket evt.token evt.kind = .ok g) :
    g.connections.len + (passed_back h evt).length = h.connections.len := by
  obtain ⟨r, hr, hl⟩ := (handle_socket_outcome ho).of_left hs
  unfold passed_back logged
  rw [hr]
  rcases hc : h.connections.get evt.token with _ | c <;> rw [hc] at hr
  · cases hr
  · obtain ⟨d, -, hsettled⟩ := bind_eq_ok.mp hr
    exact leaves_len hl hc (settled_cases hsettled)

/-! ### What comes -/

omit [Handler H] [Host] in
/-- What a request does to the number of connections, when what follows a failure leaves it
alone. -/
lemma connect_len {d : Watched F H} {url : String} {res : Result Unit}
    (hc : h.connect url = .ok (d, res)) (hok : res = .ok () → g = d)
    (herr : ∀ err, res = .error err → Steady d g) :
    g.connections.len = h.connections.len + if connect_failure h url = none then 1 else 0 := by
  rcases connect_cases hc with ⟨err, hfail, rfl, hun⟩ | ⟨hnone, rfl, tok, c, hj⟩
  · rw [(herr err rfl).len, if_neg (by rw [hfail]; exact Option.some_ne_none err)]
    exact Slab.len_congr fun t => by rw [hun.slots]
  · rw [hok rfl, if_pos hnone]
    exact Slab.len_filled (Slab.get_vacant hj.vacant) hj.get

omit [Factory F H] [Handler H] [Host] in
/-- Only a request can be served. -/
lemma is_served_of_not {cmd : Command} (hc : connects cmd.signal = false) :
    is_served h cmd = false := by
  unfold is_served
  split
  · rename_i url hurl
    rw [hurl] at hc
    cases hc
  · rfl

omit [Factory F H] [Handler H] [Host] in
/-- A command for the token `SYSTEM` is not. -/
lemma is_served_system {cmd : Command} (hsys : cmd.token = SYSTEM) : is_served h cmd = false := by
  unfold is_served
  split
  · simp [hsys]
  · rfl

omit [Factory F H] [Handler H] [Host] in
lemma is_served_connect {cmd : Command} {url : String} (hurl : cmd.signal = .Connect url)
    (hsys : cmd.token ≠ SYSTEM) : is_served h cmd = true ↔ connect_failure h url = none := by
  simp [is_served, hurl, hsys]

/-- **A command** brings a connection when it is a request that is served. -/
lemma handle_queue_len {cmd : Command} (hq : h.handle_queue cmd = .ok g) :
    g.connections.len = h.connections.len + if is_served h cmd then 1 else 0 := by
  unfold Io.Handler.handle_queue at hq
  split at hq
  · rename_i hsys
    cases hq
    rw [is_served_system hsys]
    rfl
  rename_i hsys
  cases hc : connects cmd.signal
  · -- no request
    rw [is_served_of_not hc]
    split at hq
    · exact (handle_broadcast_steady hc hq).len
    · exact (handle_directed_steady hc hq).len
  · obtain ⟨url, hurl⟩ : ∃ url, cmd.signal = .Connect url := by
      rcases hsig : cmd.signal with msg | ⟨code, reason⟩ | url | _ | ⟨delay, event⟩ | timeout <;>
        rw [hsig] at hc <;> first | exact ⟨_, rfl⟩ | cases hc
    simp only [is_served_connect hurl hsys]
    rw [hurl] at hq
    split at hq
    · -- for all connections
      obtain ⟨⟨d, res⟩, hc, hq⟩ := bind_eq_ok.mp hq
      refine connect_len hc (fun hres => ?_) fun err hres => ?_ <;> subst hres
      · cases hq; rfl
      · dsimp only at hq
        split at hq <;> cases hq
        exact .refl _
    · -- for one
      obtain ⟨⟨d, res⟩, hc, hq⟩ := bind_eq_ok.mp hq
      refine connect_len hc (fun hres => ?_) fun err hres => ?_ <;> subst hres
      · cases hq; rfl
      · dsimp only at hq
        split at hq
        · exact error_at_steady hq
        · split at hq <;> cases hq
          exact .refl _

lemma handle_commands_len (hq : h.handle_commands = .ok g) : g.connections.len =
    h.connections.len + ((h.queue.commands.take 1).filter (is_served h)).length := by
  obtain ⟨d, hd, hq⟩ := bind_eq_ok.mp hq
  cases hq
  rcases hc : h.queue.commands with _ | ⟨cmd, rest⟩
  · rw [Io.Handler.take_command_nil hc] at hd
    cases hd
    rfl
  · rw [Io.Handler.take_command_cons hc] at hd
    have hlen := handle_queue_len hd
    have hserved : is_served { h with queue := ⟨h.queue.bound, rest⟩ } cmd = is_served h cmd := rfl
    rw [hserved] at hlen
    rw [List.take_succ_cons, List.take_zero, List.filter_singleton]
    cases hs : is_served h cmd <;> rw [hs] at hlen <;> exact hlen

/-! ### The count -/

omit [Factory F H] [Handler H] [Host] in
lemma served_of_ne {evt : Io.Event} (ht : evt.token ≠ QUEUE) : served h (.event evt) = [] :=
  if_neg ht

lemma ended_timer {evt : Io.Event} (ht : evt.token = TIMER) : ended h (.event evt) =
    account Io.Handler.expire expired (h.supply TIMER evt.answers) evt.answers.due := by
  simp only [ended, ht]
  rw [if_neg (by decide), if_true]

lemma ended_socket {evt : Io.Event} (hall : evt.token ≠ ALL) (htimer : evt.token ≠ TIMER)
    (hqueue : evt.token ≠ QUEUE) : ended h (.event evt) = passed_back h evt :=
  (if_neg (not_or.mpr ⟨hall, hqueue⟩)).trans (if_neg htimer)

/-- **One input of a client.** The connections that are left and those that have ended are those
there were and those that have come. -/
theorem input_len {i : Io.Input} (hl : h.listener = none) (ho : AllOpened h)
    (hi : h.input i = .ok g) :
    g.connections.len + (ended h i).length = h.connections.len + (served h i).length := by
  cases i with
  | send cmd =>
    cases hi
    have hslots : (h.send cmd).connections = h.connections := by
      unfold Io.Handler.send
      split <;> rfl
    rw [hslots]
    rfl
  | event evt =>
    change (h.supply evt.token evt.answers).handle_event evt.token evt.kind = .ok g at hi
    have hsup := supply_len h evt.token evt.answers
    unfold Io.Handler.handle_event at hi
    split at hi
    · cases hi
    split at hi
    · -- a client has no listener to accept at
      rename_i hall
      have hlist : (h.supply evt.token evt.answers).listener = none := hl
      unfold Io.Handler.handle_listener at hi
      rw [hlist] at hi
      split at hi
      · cases hi
      · cases hi
        have hend : ended h (.event evt) = [] := if_pos (Or.inl hall)
        rw [hend, served_of_ne (by rw [hall]; decide)]
        exact hsup
    rename_i hall
    split at hi
    · rename_i htimer
      rw [htimer, ← run_eq_foldlM] at hi
      have hlen := expire_all_len hi
      rw [supply_len] at hlen
      rw [served_of_ne (by rw [htimer]; decide), ended_timer htimer]
      exact hlen
    rename_i htimer
    split at hi
    · rename_i hqueue
      have hlen := handle_commands_len hi
      rw [hsup, hqueue] at hlen
      have hend : ended h (.event evt) = [] := if_pos (Or.inr hqueue)
      rw [hend, served, if_pos hqueue]
      exact hlen
    · rename_i hqueue
      rw [served_of_ne hqueue, ended_socket hall htimer hqueue]
      exact handle_socket_len ho hi

/-- An input leaves a client a client, with its connections open. -/
lemma input_client {i : Io.Input} (hl : h.listener = none) (ho : AllOpened h)
    (hi : h.input i = .ok g) : g.listener = none ∧ AllOpened g := by
  obtain ⟨queue, timer, hk⟩ := step_keeps (s := .input i) hi
  exact ⟨hk.listener.trans hl, (step_path (s := .input i) ho hi).opened ho⟩

/-- **A batch of inputs of a client.** -/
theorem batch_len {batch : List Io.Input} (hl : h.listener = none) (ho : AllOpened h)
    (hb : run Io.Handler.input h batch = .ok g) :
    g.connections.len + (account Io.Handler.input ended h batch).length =
      h.connections.len + (account Io.Handler.input served h batch).length := by
  induction batch generalizing h with
  | nil => cases hb; rfl
  | cons i batch ih =>
    obtain ⟨d, hd, hb⟩ := run_cons.mp hb
    have hfirst := input_len hl ho hd
    obtain ⟨hl', ho'⟩ := input_client hl ho hd
    have hrest := ih hl' ho' hb
    rw [account_cons hd, account_cons hd, List.length_append, List.length_append]
    omega

end Counting

end XnetSocket.Census
