import XnetSocket.Deeds

/-!
Shutting down.

The loop stops for a shutdown command, for want of connections, or because a poll was interrupted.
The factory hears of a shutdown once for every command that is taken, and once when there are no
connections; it does not hear of an interrupt.
-/

namespace XnetSocket.Shutdown

open Buffer Runs Connection Lifecycle Evolution Custody Joining Touches Deeds

variable {F H : Type}

/-! ### Taking a shutdown command -/

/-- Whether a command asks the loop to shut down; commands of the system are ignored. -/
def asks_shutdown (cmd : Command) : Bool :=
  match cmd.signal with
  | .Shutdown => cmd.token ≠ SYSTEM
  | _ => false

/-- Whether an input hands a shutdown command to the loop. -/
def takes_shutdown (h : Watched F H) : Io.Input → Bool
  | .send _ => false
  | .event evt => evt.token = QUEUE && h.queue.commands.head?.any asks_shutdown

section Counting

variable [Factory F H] [Handler H] [Host] {h g : Watched F H}

/-- How many shutdown commands a batch of inputs hands to the loop. -/
def taken : Watched F H → List Io.Input → ℕ
  | _, [] => 0
  | h, i :: batch =>
    (if takes_shutdown h i then 1 else 0) +
      match h.input i with
      | .ok g => taken g batch
      | .error _ => 0

/-- What a step that announces nothing leaves alone. -/
structure Unannounced (h g : Watched F H) : Prop where
  shutdowns : g.factory.shutdowns = h.factory.shutdowns
  state : g.state = h.state

/-- The shutdown has been announced once, and the loop stops. -/
structure Announces (h g : Watched F H) : Prop where
  shutdowns : g.factory.shutdowns = h.factory.shutdowns + 1
  state : g.state = .Inactive

omit [Factory F H] [Handler H] [Host] in
lemma Announces.of_unannounced {f : Watched F H} (ha : Announces h f) (hu : Unannounced f g) :
    Announces h g :=
  ⟨hu.shutdowns.trans ha.shutdowns, hu.state.trans ha.state⟩

lemma act_unannounced {d : Deed} (ha : Act d h g) (hd : d ≠ .announce) (hd' : d ≠ .stop) :
    Unannounced h g := by
  have henter : ∀ {sender : Sender} {made : F × H} {factory : Ledger F H} {handler : Recorded H},
      h.factory.enter sender made = (factory, handler) →
      factory.shutdowns = h.factory.shutdowns := by
    rintro sender made factory handler hm
    cases hm
    rfl
  cases ha with
  | wait queue timer => exact ⟨rfl, rfl⟩
  | ask hr => exact ⟨rfl, rfl⟩
  | touch hc ht => exact ⟨rfl, rfl⟩
  | join hv hm hb he hr => exact ⟨henter hm, rfl⟩
  | strand hv hm hb hr => exact ⟨henter hm, rfl⟩
  | turn_away hm hr =>
    have hs := henter hm
    exact ⟨hs, rfl⟩
  | drop hm hn hr => exact ⟨henter hm, rfl⟩
  | lose hl =>
    unfold Io.Handler.lose at hl
    split at hl <;> cases hl
    exact ⟨rfl, rfl⟩
  | announce => exact absurd rfl hd
  | stop => exact absurd rfl hd'

lemma path_unannounced {ds : List Deed} (hp : Path ds h g) (hd : .announce ∉ ds)
    (hd' : .stop ∉ ds) : Unannounced h g :=
  hp.inv (I := fun g => Unannounced h g) (fun d hm g g' ha hg => by
    have hu := act_unannounced ha (fun he => hd (he ▸ hm)) (fun he => hd' (he ▸ hm))
    exact ⟨hu.shutdowns.trans hg.shutdowns, hu.state.trans hg.state⟩) ⟨rfl, rfl⟩

omit [Host] in
lemma shutdown_announces (hs : h.shutdown = .ok g) : Announces h g := by
  obtain ⟨⟨conns, us⟩, -, hs⟩ := bind_eq_ok.mp hs
  dsimp only at hs
  split at hs <;> cases hs
  exact ⟨rfl, rfl⟩

/-- A command announces a shutdown when it asks for one. -/
lemma handle_queue_announces {cmd : Command} (ho : AllOpened h)
    (hq : h.handle_queue cmd = .ok g) :
    if asks_shutdown cmd then Announces h g else Unannounced h g := by
  have hp := (handle_queue_deeds ho cmd).holds g hq
  obtain ⟨token, signal, id⟩ := cmd
  cases signal with
  | Shutdown =>
    unfold Io.Handler.handle_queue at hq
    split at hq
    · rename_i hsys
      cases hq
      rw [if_neg (by simpa [asks_shutdown] using hsys)]
      exact ⟨rfl, rfl⟩
    · rename_i hsys
      rw [if_pos (by simpa [asks_shutdown] using hsys)]
      split at hq
      · obtain ⟨f, hf, hq⟩ := bind_eq_ok.mp hq
        have hfp := (shutdown_deeds ho).holds f hf
        exact (shutdown_announces hf).of_unannounced (path_unannounced
          ((finish_broadcast_deeds (hfp.opened ho) []).holds g hq) (by simp) (by simp))
      · obtain ⟨f, hf, hq⟩ := bind_eq_ok.mp hq
        have hfp := (shutdown_deeds ho).holds f hf
        exact (shutdown_announces hf).of_unannounced (path_unannounced
          ((schedule_at_deeds (hfp.opened ho) token).holds g hq) (by simp) (by simp))
  | Message msg => exact path_unannounced hp (by simp [commanded]) (by simp [commanded])
  | Close code reason => exact path_unannounced hp (by simp [commanded]) (by simp [commanded])
  | Connect url =>
    exact path_unannounced hp (by simp [commanded, connecting]) (by simp [commanded, connecting])
  | Timeout delay event => exact path_unannounced hp (by simp [commanded]) (by simp [commanded])
  | Cancel timeout => exact path_unannounced hp (by simp [commanded]) (by simp [commanded])

/-- **One input**: it announces a shutdown when it hands a shutdown command to the loop. -/
theorem input_announces {i : Io.Input} (ho : AllOpened h) (hi : h.input i = .ok g) :
    if takes_shutdown h i then Announces h g else Unannounced h g := by
  cases i with
  | send cmd =>
    cases hi
    show Unannounced h (h.send cmd)
    unfold Io.Handler.send
    split <;> exact ⟨rfl, rfl⟩
  | event evt =>
    obtain ⟨token, kind, a⟩ := evt
    have hsup := supply_deeds h token a
    by_cases htok : token = QUEUE
    · subst htok
      have hqueue : (h.supply QUEUE a).queue = h.queue := rfl
      have hsame : Unannounced h (h.supply QUEUE a) := path_unannounced hsup (by simp) (by simp)
      change (h.supply QUEUE a).handle_event QUEUE kind = .ok g at hi
      rw [Io.Handler.handle_event_queue] at hi
      obtain ⟨f, hf, hi⟩ := bind_eq_ok.mp hi
      cases hi
      rcases hcmds : h.queue.commands with _ | ⟨cmd, rest⟩
      · rw [Io.Handler.take_command_nil (hqueue ▸ hcmds)] at hf
        cases hf
        rw [if_neg (by simp [takes_shutdown, hcmds])]
        exact ⟨hsame.shutdowns, hsame.state⟩
      · rw [Io.Handler.take_command_cons (hqueue ▸ hcmds)] at hf
        have hq := handle_queue_announces (h := { h.supply QUEUE a with
          queue := ⟨h.queue.bound, rest⟩ }) (hsup.opened ho) hf
        have htakes : takes_shutdown h (.event ⟨QUEUE, kind, a⟩) = asks_shutdown cmd := by
          simp [takes_shutdown, hcmds]
        rw [htakes]
        split at hq <;> rename_i hasks
        · rw [if_pos hasks]
          exact ⟨hq.shutdowns.trans (congrArg (· + 1) hsame.shutdowns), hq.state⟩
        · rw [if_neg hasks]
          exact ⟨hq.shutdowns.trans hsame.shutdowns, hq.state.trans hsame.state⟩
    · have hp := step_path (s := .input (.event ⟨token, kind, a⟩)) ho hi
      rw [if_neg (by simp [takes_shutdown, htok])]
      refine path_unannounced hp ?_ ?_ <;>
        · simp only [deeds, happening, if_neg htok]
          split
          · simp [accepting]
          · split <;> simp [expiring, exchanging]

/-- A batch of inputs announces as many shutdowns as it hands over, and stops the loop if any. -/
lemma batch_announces {batch : List Io.Input} (ho : AllOpened h)
    (hb : run Io.Handler.input h batch = .ok g) :
    AllOpened g ∧ g.factory.shutdowns = h.factory.shutdowns + taken h batch ∧
      g.state = if taken h batch = 0 then h.state else .Inactive := by
  induction batch generalizing h with
  | nil =>
    cases hb
    exact ⟨ho, rfl, rfl⟩
  | cons i batch ih =>
    obtain ⟨f, hf, hb⟩ := run_cons.mp hb
    have hi := input_announces ho hf
    obtain ⟨hg, hcount, hstate⟩ := ih ((step_path (s := .input i) ho hf).opened ho) hb
    have htaken : taken h (i :: batch) = (if takes_shutdown h i then 1 else 0) + taken f batch := by
      simp only [taken, hf]
    refine ⟨hg, ?_, ?_⟩ <;> rw [htaken]
    · split at hi <;> rename_i htakes <;> simp only [htakes] <;> rw [hcount, hi.shutdowns]
      · simp [Nat.add_assoc]
      · simp
    · split at hi <;> rename_i htakes <;> simp only [htakes] <;> rw [hstate, hi.state]
      · simp
      · simp

/-! ### The loop -/

/-- No poll is interrupted while the loop is active, if that stops the loop, and no batch of inputs
hands over two shutdown commands. -/
def Announced : Watched F H → List Io.Handler.Poll → Prop
  | _, [] => True
  | h, p :: polls => h.state.is_active = true →
    match p with
    | .ok batch => taken h batch ≤ 1 ∧
        ∀ g, run Io.Handler.input h batch = .ok g → Announced g.check_count polls
    | .error err => err.kind = .Interrupted →
        h.settings.shutdown_on_interrupt = false ∧ Announced h.check_count polls

omit [Handler H] [Host] in
/-- Running out of connections is announced when nothing has stopped the loop yet. -/
lemma check_count_announces (h : Watched F H) :
    Unannounced h h.check_count ∨ h.state = .Active ∧ Announces h h.check_count := by
  unfold Io.Handler.check_count
  split
  · split
    · rename_i hact
      refine Or.inr ⟨?_, rfl, rfl⟩
      cases hs : h.state
      · rfl
      · rw [hs] at hact
        cases hact.1
    · exact Or.inl ⟨rfl, rfl⟩
  · exact Or.inl ⟨rfl, rfl⟩

omit [Handler H] [Host] in
/-- Nothing stops an inactive loop. -/
lemma check_count_inactive (hs : h.state = .Inactive) : h.check_count = h := by
  have hact : ¬ (h.state.is_active = true ∧ h.is_client = true) := by
    rw [hs]
    exact fun hand => Bool.false_ne_true hand.1
  unfold Io.Handler.check_count
  rw [if_neg hact, ite_self]

/-- An inactive loop returns at once. -/
lemma event_loop_inactive {polls : List Io.Handler.Poll} (hs : h.state = .Inactive) :
    h.event_loop polls = .ok (h, some (.ok ())) := by
  cases polls with
  | nil => simp [Io.Handler.event_loop, hs, Io.State.is_active]
  | cons p polls => simp [Io.Handler.event_loop, hs, Io.State.is_active]

lemma announced_inactive {polls : List Io.Handler.Poll} (hs : h.state = .Inactive) :
    Announced h polls := by
  cases polls with
  | nil => trivial
  | cons p polls =>
    intro hact
    rw [hs] at hact
    cases hact

/-- **How often an active loop announces its end** before it returns. -/
lemma event_loop_announces {h' : Watched F H} {polls : List Io.Handler.Poll} (ho : AllOpened h)
    (hs : h.state = .Active) (hl : h.event_loop polls = .ok (h', some (.ok ()))) :
    h'.factory.shutdowns = h.factory.shutdowns + 1 ↔ Announced h polls := by
  induction polls generalizing h with
  | nil =>
    unfold Io.Handler.event_loop at hl
    rw [hs] at hl
    cases hl
  | cons p polls ih =>
    have hact : h.state.is_active = true := by rw [hs]; rfl
    -- at the end of a round the loop goes on, or stops for want of connections
    have hround : ∀ {f : Watched F H}, AllOpened f → f.state = .Active →
        f.check_count.event_loop polls = .ok (h', some (.ok ())) →
        (h'.factory.shutdowns = f.factory.shutdowns + 1 ↔ Announced f.check_count polls) := by
      intro f hof hsf hlf
      rcases check_count_announces f with hu | ⟨-, ha⟩
      · rw [← hu.shutdowns]
        exact ih ((check_count_deeds f).opened hof) (hu.state.trans hsf) hlf
      · rw [event_loop_inactive ha.state] at hlf
        cases hlf
        exact iff_of_true ha.shutdowns (announced_inactive ha.state)
    unfold Io.Handler.event_loop at hl
    rw [if_pos hact] at hl
    unfold Announced
    rcases p with err | batch
    · dsimp only at hl ⊢
      split at hl
      · rename_i hint
        unfold Io.Handler.interrupted at hl
        rcases hset : h.settings.shutdown_on_interrupt <;> rw [hset] at hl
        · refine (hround ho hs hl).trans ⟨fun ha _ _ => ⟨rfl, ha⟩, fun ha => (ha hact hint).2⟩
        · rw [if_pos rfl, check_count_inactive rfl, event_loop_inactive rfl] at hl
          cases hl
          refine iff_of_false (fun hcount => ?_) fun ha => ?_
          · exact absurd hcount (Nat.ne_of_lt (Nat.lt_succ_self _))
          · exact absurd (ha hact hint).1 (by simp)
      · cases hl
    · obtain ⟨g, hg, hl⟩ := bind_eq_ok.mp hl
      obtain ⟨hog, hcount, hstate⟩ := batch_announces ho hg
      have hrest : (∀ f, run Io.Handler.input h batch = .ok f → Announced f.check_count polls) ↔
          Announced g.check_count polls :=
        ⟨fun ha => ha g hg, fun ha f hf => by rw [hg] at hf; cases hf; exact ha⟩
      dsimp only
      rw [hrest]
      by_cases h0 : taken h batch = 0
      · rw [if_pos h0, hs] at hstate
        rw [h0, Nat.add_zero] at hcount
        rw [← hcount, hround hog hstate hl]
        exact ⟨fun ha _ => ⟨by omega, ha⟩, fun ha => (ha hact).2⟩
      · rw [if_neg h0] at hstate
        rw [check_count_inactive hstate] at hl ⊢
        rw [event_loop_inactive hstate] at hl
        cases hl
        rw [hcount]
        exact ⟨fun h1 _ => ⟨by omega, announced_inactive hstate⟩, fun ha => by
          have := (ha hact).1
          omega⟩

/-- **Shutdown is announced once**, when the loop returns, exactly when no interrupt stopped it and
no batch of inputs handed over two shutdown commands. -/
theorem announced_once_iff {inner : F} {settings : Settings} {addr : Option SocketAddr}
    {h' : Watched F H} {polls : List Io.Handler.Poll}
    (hh : Io.Handler.started (Ledger.blank inner) settings addr = .ok h)
    (hl : h.event_loop polls = .ok (h', some (.ok ()))) :
    h'.factory.shutdowns = 1 ↔ Announced h polls := by
  have hf := Io.Handler.started_fresh hh
  have h0 : h.factory.shutdowns = 0 := by
    rw [hf.factory]
    rfl
  have hiff := event_loop_announces (started_opened hh) hf.state hl
  rwa [h0] at hiff

end Counting

/-- A handler when its loop starts, for handlers that are content with every message. -/
def start (settings : Settings) (addr : Option SocketAddr) :
    Except Panic (Watched (Sender → M) M) :=
  @Io.Handler.started _ _ plain (Ledger.blank fun _ => {}) settings addr

/-- The loop over the polls, from there. -/
def loop (h : Watched (Sender → M) M) (polls : List Io.Handler.Poll) :
    Except Panic (Watched (Sender → M) M × Option (Result Unit)) :=
  @Io.Handler.event_loop _ _ _ _ plain h polls

/-- A poll that was interrupted. -/
def interrupted_poll : Io.Handler.Poll := .error ⟨.Interrupted, none, "interrupted"⟩

/-- An interrupt stops a server without a word to the factory. -/
theorem interrupt_unannounced :
    calm.Quiet ∧ ∃ h h', start calm (some ⟨"127.0.0.1:3012"⟩) = .ok h ∧
      loop h [interrupted_poll] = .ok (h', some (.ok ())) ∧ h'.factory.shutdowns ≠ 1 := by
  refine ⟨by simp [Settings.Quiet, calm], ?_⟩
  have hrun : Returns (start calm (some ⟨"127.0.0.1:3012"⟩)) fun h =>
      Returns (loop h [interrupted_poll]) fun r =>
        r.1.factory.shutdowns = 0 ∧ r.2 = some (.ok ()) := by decide +kernel
  obtain ⟨h, hh, ⟨h', res⟩, hl, hcount, rfl⟩ := hrun
  exact ⟨h, h', hh, hl, by rw [hcount]; decide⟩

/-- A client without connections stops and says so. -/
theorem announced_once_iff_no_connections :
    ∃ h h', start {} none = .ok h ∧ loop h [.ok []] = .ok (h', some (.ok ())) ∧
      (h'.factory.shutdowns = 1 ↔ @Announced _ _ _ _ plain h [.ok []]) := by
  have hrun : Returns (start {} none) fun h => Returns (loop h [.ok []]) fun r =>
      r.2 = some (.ok ()) := by decide +kernel
  obtain ⟨h, hh, ⟨h', res⟩, hl, rfl⟩ := hrun
  exact ⟨h, h', hh, hl, @announced_once_iff _ _ _ _ plain h _ _ _ h' _ hh hl⟩

end XnetSocket.Shutdown
