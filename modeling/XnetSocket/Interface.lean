import XnetSocket.Loop

/-!
The interface of the crate.

A socket is built with its settings, told where to listen and what to connect to, and run; once it
has returned it may run again. Whatever has been done with it before, what it does once it runs is a
run of steps from the start of its loop, with the commands queued first that were queued before.
-/

namespace XnetSocket.Interface

open Buffer Runs

/-- An address to listen on, with what the system answers when a socket is bound to it and when the
poll is to watch that. -/
structure Address where
  addr : SocketAddr
  bound : Except IoError Unit := .ok ()
  registered : Except IoError Unit := .ok ()

structure Builder where
  settings : Settings := {}

/-- What is done with a socket before it runs. Commands are queued with a sender of the loop, or
with the channel itself, and may be any. -/
inductive Setup
  | bind (addr_spec : Except IoError (List Address))
  | connect (url : String)
  | queue (cmd : Command)

/-- All that is done with a socket until it returns, and what the system answers once it runs. -/
structure Life where
  setups : List Setup
  registers : Except IoError Unit × Except IoError Unit := (.ok (), .ok ())
  polls : List Io.Handler.Poll
  deregisters : Except IoError Unit × Except IoError Unit := (.ok (), .ok ())

variable {F H : Type}

def Builder.with_settings (b : Builder) (settings : Settings) : Builder :=
  { b with settings := settings }

/-- `poll` is the answer to a new poll. -/
def Builder.build [Host] (b : Builder) (poll : Except IoError Unit) (factory : F) :
    Except Panic (Result (Io.Handler F H)) :=
  match poll with
  | .error err => .ok (.error (.from_io err))
  | .ok () => do
    let h ← Io.Handler.new factory b.settings
    .ok (.ok h)

/-- Why an address is not listened on. -/
def Address.failure (a : Address) : Option Error :=
  match a.bound, a.registered with
  | .error err, _ => some (.from_io err)
  | .ok (), .error err => some (.from_io err)
  | .ok (), .ok () => none

/-- The poll is going to answer. -/
def answering (h : Io.Handler F H) (polls : List (Except IoError Unit)) : Io.Handler F H :=
  { h with poll := { h.poll with polls := polls } }

def listen_on (h : Io.Handler F H) (a : Address) : Except Panic (Io.Handler F H × Result Unit) :=
  if h.listener.isSome then .error .debug_assert
  else match a.failure with
    | some err => .ok (h, .error err)
    | none => (answering h [.ok ()]).listen a.addr

def bind_loop (h : Io.Handler F H) (last_error : Error) :
    List Address → Except Panic (Io.Handler F H × Result Unit)
  | [] => .ok (h, .error last_error)
  | a :: rest => do
    let (h, res) ← listen_on h a
    match res with
    | .error err => bind_loop h err rest
    | .ok () => .ok (h, .ok ())

def bind (h : Io.Handler F H) (addr_spec : Except IoError (List Address)) :
    Except Panic (Io.Handler F H × Result Unit) :=
  match addr_spec with
  | .error err => .ok (h, .error (.from_io err))
  | .ok addrs => bind_loop h (.new .Internal "No address given") addrs

/-- Without a result it waits for room in the queue. -/
def queue (h : Io.Handler F H) (cmd : Command) : Io.Handler F H × Option (Result Unit) :=
  match h.queue.send cmd with
  | some queue => ({ h with queue := queue }, some (.ok ()))
  | none => (h, none)

def connect (h : Io.Handler F H) (addr_spec : String) : Io.Handler F H × Option (Result Unit) :=
  queue h (h.sender.connect addr_spec)

def set_up (h : Io.Handler F H) : Setup → Except Panic (Io.Handler F H × Option (Result Unit))
  | .bind addr_spec => do
    let (h, res) ← bind h addr_spec
    .ok (h, some res)
  | .connect addr_spec => .ok (connect h addr_spec)
  | .queue cmd => .ok (queue h cmd)

/-- One after the other, until one of them fails or waits. -/
def prepare : Io.Handler F H → List Setup → Except Panic (Io.Handler F H × Option (Result Unit))
  | h, [] => .ok (h, some (.ok ()))
  | h, u :: us => do
    let (h, res) ← set_up h u
    match res with
    | some (.ok ()) => prepare h us
    | res => .ok (h, res)

section Lives

variable [Factory F H] [Handler H] [Host]

/-- Prepare and run. -/
def live (h : Io.Handler F H) (life : Life) :
    Except Panic (Io.Handler F H × Option (Result Unit)) := do
  let (h, res) ← prepare h life.setups
  match res with
  | some (.ok ()) =>
    (answering h [life.registers.1, life.registers.2]).run life.polls life.deregisters
  | res => .ok (h, res)

/-- A socket that has run is given back when it returns, and may live again. -/
def lives : Io.Handler F H → List Life → Except Panic (Io.Handler F H × Option (Result Unit))
  | h, [] => .ok (h, some (.ok ()))
  | h, life :: rest => do
    let (h, res) ← live h life
    match res with
    | some (.ok ()) => lives h rest
    | res => .ok (h, res)

/-- Listen at `addr`, if it is an address, start, and go through the steps. -/
def resume (h : Io.Handler F H) (addr : Option SocketAddr) (steps : List Io.Step) :
    Except Panic (Io.Handler F H) := do
  let (h, _) ← (answering h []).bind addr
  run Io.Handler.step h.start.1 steps

end Lives

/-! ### What is prepared -/

/-- The first address that works. -/
def first_working (addrs : List Address) : Option SocketAddr :=
  (addrs.find? fun a => a.failure.isNone).map Address.addr

/-- Where a socket listens once it is set up. -/
def listening (us : List Setup) : Option SocketAddr :=
  us.findSome? fun
    | .bind (.ok addrs) => first_working addrs
    | _ => none

def Setup.is_bind : Setup → Bool
  | .bind _ => true
  | _ => false

/-- There is an address that works, when one is asked for. -/
def Setup.works : Setup → Bool
  | .bind (.ok addrs) => (first_working addrs).isSome
  | .bind (.error _) => false
  | _ => true

/-- The commands that are queued meanwhile. -/
def requested (us : List Setup) : List Command :=
  us.filterMap fun
    | .bind _ => none
    | .connect url => some (Sender.connect ⟨ALL, 0⟩ url)
    | .queue cmd => some cmd

/-- How often the socket can still be told to listen. -/
def spare (h : Io.Handler F H) : ℕ := if h.listener.isSome then 0 else 1

/-- How many more commands the queue takes. -/
def room (h : Io.Handler F H) : ℕ := h.queue.bound - h.queue.commands.length

/-- A socket can be set up that can still listen so often and has room for so many commands: it is
not told to listen more often, its addresses work, and there is room for what is queued. -/
def Feasible (spare room : ℕ) (us : List Setup) : Prop :=
  us.countP Setup.is_bind ≤ spare ∧ (∀ u ∈ us, u.works) ∧ (requested us).length ≤ room

/-- A socket that has been told to listen at `addr`, if anywhere, with `cmds` in its queue. -/
def ready (h : Io.Handler F H) (addr : Option SocketAddr) (cmds : List Command) :
    Io.Handler F H :=
  { h with
    listener := (addr.map Io.TcpListener.mk).or h.listener
    poll := addr.elim h.poll fun _ => ((answering h []).poll.register ALL readable).1
    queue := ⟨h.queue.bound, cmds⟩ }

variable {h₀ h : Io.Handler F H} {addr : Option SocketAddr} {cmds : List Command}

lemma listen_on_works {a : Address} (hl : h₀.listener = none) (ha : a.failure = none) :
    listen_on (ready h₀ none cmds) a = .ok (ready h₀ (some a.addr) cmds, .ok ()) := by
  simp only [listen_on, ready, Option.map_none, Option.none_or, hl, ha]
  rfl

/-- **The first address that works** is listened on; without one the last failure is returned. -/
lemma bind_loop_spec (hl : h₀.listener = none) (last_error : Error) (addrs : List Address) :
    bind_loop (ready h₀ none cmds) last_error addrs = .ok (
      match first_working addrs with
      | some a => (ready h₀ (some a) cmds, .ok ())
      | none => (ready h₀ none cmds,
          .error ((addrs.filterMap Address.failure).getLastD last_error))) := by
  induction addrs generalizing last_error with
  | nil => rfl
  | cons a rest ih =>
    rcases ha : a.failure with _ | err
    · have hfirst : first_working (a :: rest) = some a.addr := by simp [first_working, ha]
      rw [bind_loop, listen_on_works hl ha, hfirst]
      rfl
    · have hon : listen_on (ready h₀ none cmds) a = .ok (ready h₀ none cmds, .error err) := by
        simp [listen_on, ready, hl, ha]
      have hfirst : first_working (a :: rest) = first_working rest := by
        simp [first_working, ha]
      rw [bind_loop, hon, ok_bind, hfirst, List.filterMap_cons_some ha, List.getLastD_cons]
      exact ih err

/-- Who listens does not listen again. -/
lemma bind_loop_listens {last_error : Error} {addrs : List Address} {res : Result Unit}
    {h' : Io.Handler F H} (hl : h.listener.isSome = true)
    (hs : bind_loop h last_error addrs = .ok (h', res)) : h' = h ∧ res = .error last_error ∧
      addrs = [] := by
  cases addrs with
  | nil => cases hs; exact ⟨rfl, rfl, rfl⟩
  | cons a rest =>
    obtain ⟨_, hon, -⟩ := bind_eq_ok.mp hs
    rw [listen_on, if_pos hl] at hon
    cases hon

/-- A command is queued when there is room for it. -/
lemma queue_spec {cmd : Command} {res : Option (Result Unit)}
    (hs : queue (ready h₀ addr cmds) cmd = (h, res)) :
    (∃ cmds', h = ready h₀ addr cmds' ∧ (res = some (.ok ()) → cmds' = cmds ++ [cmd])) ∧
      (res = some (.ok ()) ↔ 1 ≤ room (ready h₀ addr cmds)) := by
  unfold queue SyncChannel.send at hs
  unfold room
  split at hs
  · rename_i queue hq
    split at hq
    · rename_i hlt
      cases hq
      cases hs
      exact ⟨⟨cmds ++ [cmd], rfl, fun _ => rfl⟩, iff_of_true rfl (by omega)⟩
    · cases hq
  · rename_i hq
    cases hs
    split at hq
    · cases hq
    · exact ⟨⟨cmds, rfl, nofun⟩, iff_of_false nofun (by omega)⟩

/-- One thing done with a socket, and whether it can be. -/
lemma set_up_spec {u : Setup} {res : Option (Result Unit)}
    (hs : set_up (ready h₀ addr cmds) u = .ok (h, res)) :
    (∃ addr' cmds', h = ready h₀ addr' cmds' ∧
      (res = some (.ok ()) → addr' = addr.or (listening [u]) ∧ cmds' = cmds ++ requested [u])) ∧
      (res = some (.ok ()) ↔
        Feasible (spare (ready h₀ addr cmds)) (room (ready h₀ addr cmds)) [u]) := by
  have hqueued : ∀ {cmd : Command}, queue (ready h₀ addr cmds) cmd = (h, res) →
      u.is_bind = false → u.works = true → listening [u] = none → requested [u] = [cmd] →
      (∃ addr' cmds', h = ready h₀ addr' cmds' ∧
        (res = some (.ok ()) → addr' = addr.or (listening [u]) ∧ cmds' = cmds ++ requested [u])) ∧
        (res = some (.ok ()) ↔
          Feasible (spare (ready h₀ addr cmds)) (room (ready h₀ addr cmds)) [u]) := by
    intro cmd hq hbind hworks hnone hone
    obtain ⟨⟨cmds', hh, hok⟩, hiff⟩ := queue_spec hq
    refine ⟨⟨addr, cmds', hh, fun hr => ⟨?_, hone ▸ hok hr⟩⟩, hiff.trans ?_⟩
    · rw [hnone, Option.or_none]
    · simp [Feasible, hbind, hworks, hone]
  cases u with
  | bind addr_spec =>
    obtain ⟨⟨d, r⟩, hd, hs⟩ := bind_eq_ok.mp hs
    cases hs
    rcases addr_spec with err | addrs
    · cases hd
      exact ⟨⟨addr, cmds, rfl, nofun⟩, by simp [Feasible, Setup.works]⟩
    have hloop : bind_loop (ready h₀ addr cmds) (.new .Internal "No address given") addrs =
        .ok (h, r) := hd
    by_cases hl : (ready h₀ addr cmds).listener.isSome = true
    · obtain ⟨rfl, rfl, rfl⟩ := bind_loop_listens hl hloop
      exact ⟨⟨addr, cmds, rfl, nofun⟩, by simp [Feasible, Setup.works, first_working]⟩
    obtain ⟨rfl, hnone⟩ : addr = none ∧ h₀.listener = none := by
      rcases addr with _ | a
      · exact ⟨rfl, by simpa [ready] using hl⟩
      · exact absurd rfl hl
    rw [bind_loop_spec hnone, Except.ok.injEq] at hloop
    rcases hfirst : first_working addrs with _ | a <;> rw [hfirst] at hloop <;> cases hloop
    · exact ⟨⟨none, cmds, rfl, nofun⟩, by simp [Feasible, Setup.works, hfirst]⟩
    · refine ⟨⟨some a, cmds, rfl, fun _ => ⟨?_, (List.append_nil _).symm⟩⟩, ?_⟩
      · simp [listening, hfirst]
      · simp [Feasible, Setup.works, hfirst, Setup.is_bind, requested, spare, if_neg hl]
  | connect url => exact hqueued (Except.ok.inj hs) rfl rfl rfl rfl
  | queue cmd => exact hqueued (Except.ok.inj hs) rfl rfl rfl rfl

lemma listening_cons (u : Setup) (us : List Setup) :
    listening (u :: us) = (listening [u]).or (listening us) := by
  unfold listening
  rw [List.findSome?_cons, List.findSome?_singleton]
  split <;> simp_all

lemma requested_cons (u : Setup) (us : List Setup) :
    requested (u :: us) = requested [u] ++ requested us :=
  List.filterMap_append (l := [u])

lemma feasible_cons {n m : ℕ} {u : Setup} {us : List Setup} :
    Feasible n m (u :: us) ↔ Feasible n m [u] ∧
      Feasible (n - [u].countP Setup.is_bind) (m - (requested [u]).length) us := by
  rw [Feasible, Feasible, Feasible, requested_cons u us, List.length_append,
    ← List.singleton_append, List.countP_append, List.singleton_append, List.forall_mem_cons,
    List.forall_mem_singleton]
  constructor
  · rintro ⟨hbind, ⟨hu, hus⟩, hlen⟩
    exact ⟨⟨by omega, hu, by omega⟩, by omega, hus, by omega⟩
  · rintro ⟨⟨hbind, hu, hlen⟩, hbinds, hus, hlens⟩
    exact ⟨by omega, ⟨hu, hus⟩, by omega⟩

/-- How often the socket can still be told to listen, once it has been. -/
lemma spare_ready {n : ℕ} {u : Setup} {cmds' : List Command}
    (hf : Feasible (spare (ready h₀ addr cmds)) n [u]) :
    spare (ready h₀ (addr.or (listening [u])) cmds') =
      spare (ready h₀ addr cmds) - [u].countP Setup.is_bind := by
  obtain ⟨hbind, hworks, -⟩ := hf
  rcases u with (err | addrs) | url | cmd
  · exact absurd (hworks _ List.mem_cons_self) (by simp [Setup.works])
  · obtain ⟨a, hfirst⟩ := Option.isSome_iff_exists.mp (hworks _ List.mem_cons_self)
    have hlisten : listening [.bind (.ok addrs)] = some a := by simp [listening, hfirst]
    have hone : [Setup.bind (.ok addrs)].countP Setup.is_bind = 1 := rfl
    have hle : spare (ready h₀ addr cmds) ≤ 1 := by
      unfold spare
      split <;> decide
    have hzero : spare (ready h₀ (addr.or (some a)) cmds') = 0 := by
      rcases addr with _ | b <;> rfl
    rw [hlisten, hzero, hone]
    omega
  · rw [show listening [.connect url] = none from rfl, Option.or_none]
    rfl
  · rw [show listening [.queue cmd] = none from rfl, Option.or_none]
    rfl

/-- **A socket that is prepared** listens at the first address that works, and has the commands in
its queue. -/
lemma prepare_spec {us : List Setup} {res : Option (Result Unit)}
    (hs : prepare (ready h₀ addr cmds) us = .ok (h, res)) :
    (∃ addr' cmds', h = ready h₀ addr' cmds' ∧
      (res = some (.ok ()) → addr' = addr.or (listening us) ∧ cmds' = cmds ++ requested us)) ∧
      (res = some (.ok ()) ↔
        Feasible (spare (ready h₀ addr cmds)) (room (ready h₀ addr cmds)) us) := by
  induction us generalizing addr cmds with
  | nil =>
    cases hs
    refine ⟨⟨addr, cmds, rfl, fun _ => ⟨Option.or_none.symm, (List.append_nil _).symm⟩⟩, ?_⟩
    simp [Feasible, requested]
  | cons u us ih =>
    obtain ⟨⟨d, r⟩, hd, hs⟩ := bind_eq_ok.mp hs
    obtain ⟨⟨addr', cmds', rfl, hok⟩, hiff⟩ := set_up_spec hd
    rw [feasible_cons, ← hiff]
    dsimp only at hs
    split at hs
    · obtain ⟨rfl, rfl⟩ := hok rfl
      obtain ⟨⟨addr'', cmds'', rfl, hok'⟩, hiff'⟩ := ih hs
      have hroom : room (ready h₀ (addr.or (listening [u])) (cmds ++ requested [u])) =
          room (ready h₀ addr cmds) - (requested [u]).length := by
        simp only [room, ready, List.length_append, Nat.sub_sub]
      rw [spare_ready (hiff.mp rfl), hroom] at hiff'
      refine ⟨⟨addr'', cmds'', rfl, fun hr => ?_⟩, by rw [hiff']; simp⟩
      obtain ⟨rfl, rfl⟩ := hok' hr
      refine ⟨?_, ?_⟩
      · rw [listening_cons u us, Option.or_assoc]
      · rw [requested_cons u us, List.append_assoc]
    · rename_i hne
      cases hs
      exact ⟨⟨addr', cmds', rfl, fun hr => absurd hr hne⟩, fun hr => absurd hr hne,
        fun hf => absurd hf.1 hne⟩

/-- Only a socket that does not listen is told where to. -/
lemma listening_spare {us : List Setup} {n : ℕ} (hf : Feasible (spare h) n us) :
    listening us = none ∨ h.listener = none := by
  rcases hl : h.listener with _ | l
  · exact Or.inr rfl
  left
  have hnone : us.countP Setup.is_bind = 0 := by
    have hle := hf.1
    unfold spare at hle
    rw [hl] at hle
    exact Nat.le_zero.mp hle
  refine List.findSome?_eq_none_iff.mpr fun u hu => ?_
  have hbind := List.countP_eq_zero.mp hnone u hu
  rcases u with addr_spec | url | cmd
  · exact absurd rfl hbind
  · rfl
  · rfl

section Runs

variable [Factory F H] [Handler H] [Host] {factory : F} {b : Builder} {h' : Io.Handler F H}

/-- **A socket that is ready runs** as one does that resumes, once the commands have been queued
that wait in its queue. -/
lemma ready_run {steps : List Io.Step} (haddr : addr = none ∨ h.listener = none)
    (hroom : cmds.length ≤ room h) :
    ∃ g, (answering (ready h addr (h.queue.commands ++ cmds)) [.ok (), .ok ()]).start =
        (g, .ok ()) ∧
      (run Io.Handler.step g steps = .ok h' →
        resume h addr (cmds.map .post ++ steps) = .ok h') := by
  have hbegin : ∃ res, (answering h []).bind addr =
      .ok (answering (ready h addr h.queue.commands) [], res) := by
    rcases addr with _ | a
    · exact ⟨_, rfl⟩
    · have hl := haddr.resolve_left nofun
      refine ⟨.ok (), ?_⟩
      simp only [Io.Handler.bind, Io.Handler.listen, answering, hl]
      rfl
  obtain ⟨res, hbegin⟩ := hbegin
  have hposts : run Io.Handler.step (answering (ready h addr h.queue.commands) []).start.1
      (cmds.map .post) = .ok (answering (ready h addr (h.queue.commands ++ cmds)) []).start.1 := by
    unfold room at hroom
    rcases cmds with _ | ⟨cmd, rest⟩
    · rw [List.append_nil]
      rfl
    · exact Io.Handler.run_posts (show h.queue.commands.length + _ ≤ h.queue.bound by
        rw [List.length_cons] at hroom ⊢
        omega)
  exact ⟨_, rfl, fun hsteps =>
    bind_eq_ok.mpr ⟨_, hbegin, run_append.mpr ⟨_, hposts, hsteps⟩⟩⟩

omit [Factory F H] [Handler H] [Host] in
/-- A start that fails leaves everything but the poll alone. -/
lemma start_fails {err : Error} (hs : h.start = (h', .error err)) :
    h'.connections = h.connections ∧ h'.factory = h.factory ∧ h'.state = h.state := by
  unfold Io.Handler.start at hs
  split at hs
  · cases hs
    exact ⟨rfl, rfl, rfl⟩
  · split at hs
    · cases hs
      exact ⟨rfl, rfl, rfl⟩
    · cases hs

omit [Factory F H] [Handler H] [Host] in
/-- A start succeeds only when both registrations do. -/
lemma start_answers {r : Except IoError Unit × Except IoError Unit}
    (hs : (answering h [r.1, r.2]).start = (h', .ok ())) : r = (.ok (), .ok ()) := by
  obtain ⟨first | first, second | second⟩ := r
  · cases hs
  · cases hs
  · cases hs
  · rfl

/-- What a run comes to, once it has started. -/
lemma run_steps {polls : List Io.Handler.Poll} {res : Option (Result Unit)}
    {deregisters : Except IoError Unit × Except IoError Unit} (hs : h.start = (h', .ok ()))
    {g : Io.Handler F H} (hr : h.run polls deregisters = .ok (g, res)) :
    ∃ steps d, run Io.Handler.step h' steps = .ok d ∧
      (res = none ∧ g = d ∨ (∃ r, res = some r) ∧ g = { d with state := .Inactive }) := by
  unfold Io.Handler.run at hr
  rw [hs] at hr
  obtain ⟨⟨d, r⟩, hloop, hr⟩ := bind_eq_ok.mp hr
  obtain ⟨steps, hsteps⟩ := Io.Handler.event_loop_run hloop
  refine ⟨steps, d, hsteps, ?_⟩
  rcases r with _ | r
  · cases hr
    exact Or.inl ⟨rfl, rfl⟩
  · right
    dsimp only at hr
    split at hr <;> cases hr <;> exact ⟨⟨_, rfl⟩, rfl⟩

omit [Factory F H] [Handler H] [Host] in
/-- What a socket comes to that is ready. -/
lemma ready_self (h : Io.Handler F H) : ready h none h.queue.commands = h := rfl

/-- **A socket that has been set up** starts when its queue and its timer can be registered, and
goes on by steps from there; else nothing comes of it. -/
lemma ready_steps {registers deregisters : Except IoError Unit × Except IoError Unit}
    {polls : List Io.Handler.Poll} {res : Option (Result Unit)}
    (haddr : addr = none ∨ h.listener = none) (hroom : cmds.length ≤ room h)
    (hi : h.state = .Inactive)
    (hr : (answering (ready h addr (h.queue.commands ++ cmds)) [registers.1, registers.2]).run polls
      deregisters = .ok (h', res)) :
    (registers = (.ok (), .ok ()) →
      ∃ steps g, resume h addr (cmds.map .post ++ steps) = .ok g ∧
        (res = none ∧ h' = g ∨ (∃ r, res = some r) ∧ h' = { g with state := .Inactive })) ∧
    (registers ≠ (.ok (), .ok ()) →
      res ≠ some (.ok ()) ∧ h'.connections = h.connections ∧ h'.factory = h.factory ∧
        h'.state = .Inactive) := by
  rcases hstart : (answering (ready h addr (h.queue.commands ++ cmds))
    [registers.1, registers.2]).start with ⟨d, err | u⟩
  · obtain ⟨hslots, hfactory, hstate⟩ := start_fails hstart
    refine ⟨fun hreg => ?_, fun _ => ?_⟩
    · rw [hreg] at hstart
      cases hstart
    · unfold Io.Handler.run at hr
      rw [hstart] at hr
      cases hr
      exact ⟨nofun, hslots, hfactory, hstate.trans hi⟩
  · obtain ⟨steps, e, hsteps, hend⟩ := run_steps hstart hr
    have hreg := start_answers hstart
    rw [hreg] at hstart
    obtain ⟨g, hg, (hresume : run Io.Handler.step g steps = .ok e → _)⟩ := ready_run haddr hroom
    obtain ⟨rfl, -⟩ : g = d ∧ _ := Prod.mk.inj (hg.symm.trans hstart)
    exact ⟨fun _ => ⟨steps, e, hresume hsteps, hend⟩, fun hno => absurd hreg hno⟩

/-- **One life.** -/
lemma live_steps {life : Life} {res : Option (Result Unit)} (hi : h.state = .Inactive)
    (hl : live h life = .ok (h', res)) :
    (Feasible (spare h) (room h) life.setups ∧ life.registers = (.ok (), .ok ()) →
      ∃ steps g, resume h (listening life.setups)
          ((requested life.setups).map .post ++ steps) = .ok g ∧
        (res = none ∧ h' = g ∨ (∃ r, res = some r) ∧ h' = { g with state := .Inactive })) ∧
    (¬ (Feasible (spare h) (room h) life.setups ∧ life.registers = (.ok (), .ok ())) →
      res ≠ some (.ok ()) ∧ h'.connections = h.connections ∧ h'.factory = h.factory ∧
        h'.state = .Inactive) := by
  obtain ⟨⟨d, r⟩, hd, hl⟩ := bind_eq_ok.mp hl
  have hself : prepare (ready h none h.queue.commands) life.setups = .ok (d, r) := hd
  obtain ⟨⟨addr, cmds, rfl, hok⟩, hiff⟩ := prepare_spec hself
  rw [ready_self] at hiff
  rw [← hiff]
  dsimp only at hl
  split at hl
  · -- it runs
    obtain ⟨haddr, rfl⟩ := hok rfl
    rw [Option.none_or] at haddr
    subst haddr
    have hf := hiff.mp rfl
    obtain ⟨hyes, hno⟩ := ready_steps (listening_spare hf) hf.2.2 hi hl
    exact ⟨fun ⟨_, hreg⟩ => hyes hreg, fun hn => hno fun hreg => hn ⟨rfl, hreg⟩⟩
  · rename_i hne
    cases hl
    exact ⟨fun ⟨hr, _⟩ => absurd hr hne, fun _ => ⟨fun hr => hne hr, rfl, rfl, hi⟩⟩

/-- A socket that has returned is inactive. -/
lemma lives_inactive {ls : List Life} (hi : h.state = .Inactive)
    (hl : lives h ls = .ok (h', some (.ok ()))) : h'.state = .Inactive := by
  induction ls generalizing h with
  | nil => cases hl; exact hi
  | cons life ls ih =>
    obtain ⟨⟨d, r⟩, hd, hl⟩ := bind_eq_ok.mp hl
    dsimp only at hl
    split at hl
    · refine ih ?_ hl
      have hlive := live_steps hi hd
      by_cases hf : Feasible (spare h) (room h) life.setups ∧ life.registers = (.ok (), .ok ())
      · obtain ⟨steps, g, -, ⟨hnone, -⟩ | ⟨-, rfl⟩⟩ := hlive.1 hf
        · cases hnone
        · rfl
      · exact (hlive.2 hf).2.2.2
    · rename_i hne
      cases hl
      exact absurd rfl hne

/-- **Every use of the interface is a run of steps.** Built anew, a socket resumes as the loop
starts. Whether new or given back by the lives it has had, when it lives without a panic its loop
starts just when it has not been told to listen more than once in all, one of the addresses works,
the queue has room for what is queued, and the system watches the queue and the timer. Then it
listens at the first address that works, the commands are queued in order behind those left from
before, and it goes on from there by steps; when it returns it is inactive. Otherwise it does not
succeed, and no connection has been made or lost. -/
theorem interface_runs {past : List Life} {life : Life} {res : Option (Result Unit)}
    (hb : b.build (.ok ()) factory = .ok (.ok h₀)) (hp : lives h₀ past = .ok (h, some (.ok ())))
    (hl : live h life = .ok (h', res)) :
    (∀ addr steps, Io.Handler.execute factory b.settings addr steps = resume h₀ addr steps) ∧
    (Feasible (spare h) (room h) life.setups ∧ life.registers = (.ok (), .ok ()) →
      ∃ steps g, resume h (listening life.setups)
          ((requested life.setups).map .post ++ steps) = .ok g ∧
        (res = none ∧ h' = g ∨ (∃ r, res = some r) ∧ h' = { g with state := .Inactive })) ∧
    (¬ (Feasible (spare h) (room h) life.setups ∧ life.registers = (.ok (), .ok ())) →
      res ≠ some (.ok ()) ∧ h'.connections = h.connections ∧ h'.factory = h.factory ∧
        h'.state = .Inactive) := by
  obtain ⟨h₁, hn, hb⟩ := bind_eq_ok.mp hb
  cases hb
  obtain ⟨-, rfl⟩ := Io.Handler.new_eq_ok hn
  refine ⟨fun addr steps => ?_, live_steps (lives_inactive rfl hp) hl⟩
  rw [Io.Handler.execute, Io.Handler.started, hn, ok_bind]
  cases addr <;> rfl

end Runs

/-- Handlers that are content with every message. -/
def content : Sender → M := fun _ => {}

/-- A client connects, and its peer closes. -/
def short_life : Life where
  setups := [.connect "ws://localhost:3012"]
  polls := [.ok [.event ⟨QUEUE, readable,
      { resolves := [.ok [⟨"127.0.0.1:3012"⟩]], connects := [.ok .fresh] }⟩],
    .ok [.event ⟨0, readable, { reads := [.ok []] }⟩]]

/-- It is told to shut down before it runs again. -/
def last_life : Life where
  setups := [.queue (Sender.shutdown ⟨ALL, 0⟩), .connect "ws://localhost:3013"]
  polls := [.ok [.event ⟨QUEUE, readable, {}⟩]]

/-- The loop has returned. -/
def returned : Io.Handler (Sender → M) M × Option (Result Unit) → Prop
  | (_, some (.ok ())) => True
  | _ => False

instance : DecidablePred returned := fun p =>
  match p with
  | (_, some (.ok ())) => isTrue trivial
  | (_, some (.error _)) => isFalse id
  | (_, none) => isFalse id

lemma eq_of_returned {h : Io.Handler (Sender → M) M} {res : Option (Result Unit)}
    (hr : returned (h, res)) : res = some (.ok ()) := by
  rcases res with _ | (_ | u)
  · exact hr.elim
  · exact hr.elim
  · rfl

theorem interface_runs_short_life :
    ∃ (h₀ h h' g : Io.Handler (Sender → M) M) (steps : List Io.Step),
      @Builder.build _ _ plain {} (.ok ()) content = .ok (.ok h₀) ∧
      @lives _ _ _ _ plain h₀ [short_life] = .ok (h, some (.ok ())) ∧
      @live _ _ _ _ plain h last_life = .ok (h', some (.ok ())) ∧
      @resume _ _ _ _ plain h none (.post (Sender.shutdown ⟨ALL, 0⟩) ::
        .post (Sender.connect ⟨ALL, 0⟩ "ws://localhost:3013") :: steps) = .ok g ∧
      h' = { g with state := .Inactive } := by
  have hrun : Returns (@Builder.build (Sender → M) M plain {} (.ok ()) content) fun r =>
      Returns r fun h₀ => Returns (@lives _ _ _ _ plain h₀ [short_life]) fun p =>
        returned p ∧ (spare p.1 = 1 ∧ room p.1 = 500) ∧
          Returns (@live _ _ _ _ plain p.1 last_life) returned := by
    decide +kernel
  obtain ⟨_, hb, h₀, rfl, ⟨h, res⟩, hp, hres, ⟨hspare, hroom⟩, ⟨h', res'⟩, hl, hres'⟩ := hrun
  obtain rfl := eq_of_returned hres
  obtain rfl := eq_of_returned hres'
  have hf : Feasible (spare h) (room h) last_life.setups := by
    rw [hspare, hroom]
    exact ⟨by decide, by decide, by decide⟩
  obtain ⟨steps, g, hg, ⟨hnone, -⟩ | ⟨-, heq⟩⟩ :=
    (@interface_runs _ _ h₀ h _ _ plain _ _ _ _ _ _ hb hp hl).2.1 ⟨hf, rfl⟩
  · cases hnone
  · exact ⟨h₀, h, h', g, steps, hb, hp, hl, hg, heq⟩

end XnetSocket.Interface
