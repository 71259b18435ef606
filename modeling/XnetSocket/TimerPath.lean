import XnetSocket.DataPath
import XnetSocket.Joining

/-!
The timer path: what a timeout or a connection request from a sender can reach.

These commands find a connection by the slot alone, and so does the timeout when it expires:
whoever has the slot by then hears of it. To tell whose timeout it was, a run is traced with
the commands that set the timeouts, in the order of their numbers.
-/

namespace XnetSocket.TimerPath

open Buffer Runs Connection Evolution Custody DataPath Joining

section Reach

variable {F H : Type}

/-- A loop, with the commands that set its timeouts. -/
structure Traced (F H : Type) where
  loop : Watched F H
  setters : List Command

/-- The command is for the connection in one slot. -/
def directed (cmd : Command) : Bool := cmd.token ≠ SYSTEM && cmd.token ≠ ALL

/-- The slot is vacant or has the connection with the id. -/
def Own (h : Watched F H) (t : Token) (id : UInt32) : Prop :=
  ∀ c, h.connections.get t = some c → c.connection_id = id

/-- No connection with another id changes. -/
def Untouched (id : UInt32) (h h' : Watched F H) : Prop :=
  ∀ t c, h.connections.get t = some c → c.connection_id ≠ id → h'.connections.get t = some c

/-- Whoever is in the slot does not stay as it was, and the other slots do. -/
structure Pokes (h h' : Watched F H) (t : Token) : Prop where
  others : ∀ j, t ≠ j → h'.connections.get j = h.connections.get j
  pokes : ∀ c, h.connections.get t = some c → h'.connections.get t ≠ some c

/-- **Poking a slot is safe exactly when it is one's own.** -/
theorem Pokes.untouched_iff {h h' : Watched F H} {t : Token} {id : UInt32}
    (hp : Pokes h h' t) : Untouched id h h' ↔ Own h t id := by
  constructor
  · intro hu c hc
    by_contra hne
    exact hp.pokes c hc (hu t c hc hne)
  · intro ho j c hc hne
    have htj : t ≠ j := fun e => by
      subst e
      exact hne (ho c hc)
    rw [hp.others j htj, hc]

lemma Untouched.of_slots {id : UInt32} {h h' : Watched F H}
    (he : ∀ t, h'.connections.get t = h.connections.get t) : Untouched id h h' :=
  fun t c hc _ => by rw [he t, hc]

lemma put_pokes {h : Watched F H} {t : Token} {c c' : Connection (Recorded H)}
    (hc : h.connections.get t = some c) (hh : Hears c c') : Pokes h (h.put t c') t := by
  refine ⟨fun j hj => Slab.get_set_ne hj, fun d hd he => ?_⟩
  rw [get_put hc, Option.some.injEq] at he
  rw [hc, Option.some.injEq] at hd
  exact hh.ne (he.trans hd.symm)

section Callbacks

variable [Handler H] [Host]

lemma error_at_pokes {h h' : Watched F H} {t : Token} {err : Error}
    (he : h.error_at t err = .ok h') : Pokes h h' t := by
  unfold Io.Handler.error_at at he
  split at he
  · rename_i c hc
    obtain ⟨d, hd, he⟩ := bind_eq_ok.mp he
    cases he
    exact put_pokes hc (error_hears hd)
  · rename_i hc
    cases he
    exact ⟨fun _ _ => rfl, fun c hc' => by rw [hc] at hc'; cases hc'⟩

lemma take_timeout_hears {c c' : Connection (Recorded H)} {event : Token}
    {timeout : TimerHandle} (h : Io.Handler.take_timeout event timeout c = .ok c') :
    Hears c c' := by
  have hn : (c.new_timeout event timeout).1.handler.calls =
      c.handler.calls ++ [.on_new_timeout event timeout] := rfl
  unfold Io.Handler.take_timeout at h
  split at h <;> rename_i heq <;> rw [heq] at hn
  · cases h
    exact .of_heard _ hn (.refl _)
  · exact .of_heard _ hn (error_evolves h)

lemma trigger_hears {c c' : Connection (Recorded H)} {event : Token}
    (h : Io.Handler.trigger event c = .ok c') : Hears c c' := by
  have hn : (c.timeout_triggered event).1.handler.calls =
      c.handler.calls ++ [.on_timeout event] := rfl
  unfold Io.Handler.trigger at h
  split at h <;> rename_i heq <;> rw [heq] at hn
  · cases h
    exact .of_heard _ hn (.refl _)
  · exact .of_heard _ hn (error_evolves h)

/-- A timeout command pokes its slot. -/
lemma directed_timeout_pokes [Factory F H] {h h' : Watched F H} {t : Token} {id : UInt32}
    {delay : ℕ} {event : Token} (hd : h.handle_directed t id (.Timeout delay event) = .ok h') :
    Pokes h h' t := by
  simp only [Io.Handler.handle_directed] at hd
  split at hd
  · split at hd
    · rename_i c hc
      obtain ⟨c', hc', hd⟩ := bind_eq_ok.mp hd
      cases hd
      have hp := put_pokes hc (take_timeout_hears hc')
      exact ⟨hp.others, hp.pokes⟩
    · rename_i hc
      cases hd
      exact ⟨fun _ _ => rfl, fun c hc' => by rw [hc] at hc'; cases hc'⟩
  · have hp := error_at_pokes hd
    exact ⟨hp.others, hp.pokes⟩

/-- A connection request pokes its slot when it fails, and no slot when it does not. -/
lemma directed_connect_untouched [Factory F H] {h h' : Watched F H} {t : Token} {id id' : UInt32}
    {url : String} (hd : h.handle_directed t id (.Connect url) = .ok h') :
    Untouched id' h h' ↔ (connect_failure h url ≠ none → Own h t id') := by
  obtain ⟨⟨d, res⟩, hc, hd⟩ := bind_eq_ok.mp hd
  rcases connect_cases hc with ⟨err, hfail, rfl, hun⟩ | ⟨hnone, rfl, tok, c, hj⟩
  · have hpokes : Pokes h h' t := by
      dsimp only at hd
      split at hd
      · have hp := error_at_pokes hd
        exact ⟨fun j hj => by rw [hp.others j hj, hun.slots],
          fun c hc => hp.pokes c (by rw [hun.slots, hc])⟩
      · rename_i hvac
        split at hd <;> cases hd
        exact ⟨fun j _ => hun.slots j, fun c hc => by rw [hun.slots, hc] at hvac; cases hvac⟩
    rw [hpokes.untouched_iff]
    exact ⟨fun ho _ => ho, fun ho => ho (by rw [hfail]; simp)⟩
  · cases hd
    refine iff_of_true (fun j d hd _ => ?_) fun hne => absurd hnone hne
    rw [hj.get]
    split
    · rename_i htok
      rw [← htok, Slab.get_vacant hj.vacant] at hd
      cases hd
    · exact hd

/-- A timeout that expires pokes the slot it was set for. -/
lemma handle_timeout_pokes [Factory F H] {h h' : Watched F H} {timeout : Timeout}
    (ht : h.handle_timeout timeout = .ok h') : Pokes h h' timeout.connection := by
  rcases handle_timeout_cases ht with ⟨hc, rfl⟩ | ⟨c, c', hc, hc', ht⟩
  · exact ⟨fun _ _ => rfl, fun c hc' => by rw [hc] at hc'; cases hc'⟩
  · have hp := put_pokes hc (trigger_hears hc')
    rcases check_active_slots ht with hslots | hslots
    · exact ⟨fun j hj => by rw [hslots]; exact hp.others j hj,
        fun d hd => by rw [hslots]; exact hp.pokes d hd⟩
    · refine ⟨fun j hj => by rw [hslots, if_neg hj]; exact hp.others j hj, fun d hd => ?_⟩
      rw [hslots, if_pos rfl]
      simp

/-! ### Whose timeout it is -/

/-- What an event does to the timer. -/
lemma handle_event_timer [Factory F H] {h h' : Watched F H} {t : Token} {events : Ready}
    (he : h.handle_event t events = .ok h') :
    h.timer.Drops h'.timer ∨ t = QUEUE ∧ ∃ cmd rest delay event,
      h.queue.commands = cmd :: rest ∧ cmd.signal = .Timeout delay event ∧
        h.timer.Sets h'.timer delay ⟨cmd.token, event⟩ := by
  unfold Io.Handler.handle_event at he
  split at he
  · cases he
  split at he
  · exact Or.inl ((handle_listener_keeps he).timer ▸ .refl _)
  split at he
  · obtain ⟨timer, hk, hd⟩ := expire_all_keeps he
    exact Or.inl (hk.timer ▸ hd)
  split at he
  · rename_i hq
    have hk := handle_commands_keeps he
    rcases hcmds : h.queue.commands with _ | ⟨cmd, rest⟩ <;> rw [hcmds] at hk
    · exact Or.inl (hk.timer ▸ .refl _)
    · have htimer : h'.timer = timer_after h.timer cmd := hk.timer
      unfold timer_after at htimer
      split at htimer
      · exact Or.inl (htimer ▸ .refl _)
      · rcases Timer.after_cases h.timer cmd.token cmd.signal with hd | ⟨delay, event, hs, hset⟩
        · exact Or.inl (htimer ▸ hd)
        · exact Or.inr ⟨hq, cmd, rest, delay, event, rfl, hs, htimer ▸ hset⟩
  · exact Or.inl ((handle_socket_keeps he).timer ▸ .refl _)

/-- What a step does to the timer. -/
lemma step_timer [Factory F H] {h h' : Watched F H} {st : Io.Step} (hs : h.step st = .ok h') :
    h.timer.Drops h'.timer ∨ ∃ cmd rest delay event,
      h.queue.commands = cmd :: rest ∧ cmd.signal = .Timeout delay event ∧
        h.timer.Sets h'.timer delay ⟨cmd.token, event⟩ := by
  cases st with
  | input i =>
    cases i with
    | send cmd =>
      cases hs
      unfold Io.Handler.send
      split <;> exact Or.inl (.refl _)
    | event evt =>
      have hsup := supply_keeps h evt.token evt.answers
      have htimer : (h.supply evt.token evt.answers).timer =
          { h.timer with due := evt.answers.due } := hsup.timer
      have hqueue : (h.supply evt.token evt.answers).queue = h.queue := hsup.queue
      rcases handle_event_timer hs with hd | ⟨-, cmd, rest, delay, event, hq, hsig, hset⟩
      · rw [htimer] at hd
        exact Or.inl ⟨hd.pending, hd.count⟩
      · rw [hqueue] at hq
        rw [htimer] at hset
        exact Or.inr ⟨cmd, rest, delay, event, hq, hsig, ⟨hset.pending, hset.count⟩⟩
  | interrupted =>
    cases hs
    unfold Io.Handler.interrupted
    split <;> exact Or.inl (.refl _)
  | check_count =>
    cases hs
    exact Or.inl ((check_count_keeps h).timer ▸ .refl _)

end Callbacks

/-! ### Traced runs -/

section Runs

variable [Factory F H] [Handler H] [Host]

/-- A step, noting the command when it sets a timeout. -/
def Traced.step (s : Traced F H) (st : Io.Step) : Except Panic (Traced F H) := do
  let h ← s.loop.step st
  .ok ⟨h, if s.loop.timer.count < h.timer.count then
    s.setters ++ s.loop.queue.commands.head?.toList else s.setters⟩

/-- The loop as it starts, with no timeout set. -/
def Traced.started (inner : F) (settings : Settings) (addr : Option SocketAddr) :
    Except Panic (Traced F H) := do
  let h ← Io.Handler.started (Ledger.blank inner) settings addr
  .ok ⟨h, []⟩

/-- The command that set a timeout has its token and its event. -/
def SetBy (setters : List Command) (number : ℕ) (timeout : Timeout) : Prop :=
  ∃ cmd delay, setters[number]? = some cmd ∧ cmd.token = timeout.connection ∧
    cmd.signal = .Timeout delay timeout.event

/-- It is known who set every timeout that is pending. -/
structure Known (s : Traced F H) : Prop where
  sound : Sound s.loop
  count : s.setters.length = s.loop.timer.count
  pending : ∀ e ∈ s.loop.timer.pending, SetBy s.setters e.number e.timeout

omit [Host] in
lemma SetBy.append {setters more : List Command} {number : ℕ} {timeout : Timeout}
    (h : SetBy setters number timeout) : SetBy (setters ++ more) number timeout := by
  obtain ⟨cmd, delay, hget, hrest⟩ := h
  exact ⟨cmd, delay, getElem?_of_prefix (List.prefix_append _ _) hget, hrest⟩

lemma step_known {s s' : Traced F H} {st : Io.Step} (hs : Known s) (h : s.step st = .ok s') :
    Known s' := by
  obtain ⟨h', hst, h⟩ := bind_eq_ok.mp h
  cases h
  have hsound := step_sound hs.sound hst
  rcases step_timer hst with hd | ⟨cmd, rest, delay, event, hq, hsig, hset⟩
  · rw [if_neg (by rw [hd.count]; exact lt_irrefl _)]
    exact ⟨hsound, hs.count.trans hd.count.symm, fun e he => hs.pending e (hd.pending he)⟩
  · rw [if_pos (by rw [hset.count]; exact Nat.lt_succ_self _)]
    refine ⟨hsound, ?_, fun e he => ?_⟩
    · simp [hq, hset.count, hs.count]
    · rw [hset.pending] at he
      rcases List.mem_append.mp he with he | he
      · exact (hs.pending e he).append
      · rw [List.mem_singleton.mp he]
        refine ⟨cmd, delay, ?_, rfl, hsig⟩
        rw [hq, show (s.loop.timer.entry delay ⟨cmd.token, event⟩).number = s.setters.length from
          hs.count.symm]
        exact List.getElem?_concat_length

/-! ### What a step may touch -/

/-- Commands that find their connection by the slot alone. -/
def pokes : Signal → Bool
  | .Timeout _ _ => true
  | .Connect _ => true
  | _ => false

/-- The step changes no connection with another id than the sender's: the sender of the command
it handles, or of the command that set the timeout that expires. -/
def Respectful (s : Traced F H) : Io.Step → Prop
  | .input (.event evt) =>
    (evt.token = QUEUE → ∀ cmd rest h', s.loop.queue.commands = cmd :: rest →
      directed cmd = true → pokes cmd.signal = true →
      s.loop.step (.input (.event evt)) = .ok h' → Untouched cmd.connection_id s.loop h') ∧
    (evt.token = TIMER → Along Io.Handler.expire (fun g number => ∀ g' cmd,
        g.expire number = .ok g' → s.setters[number]? = some cmd → directed cmd = true →
        Untouched cmd.connection_id g g')
      (s.loop.supply TIMER evt.answers) evt.answers.due)
  | _ => True

/-- When the step handles a timeout command or a timeout expires, the slot is vacant or still has
the connection of the sender, and when it handles a connection request that will fail, too. -/
def Careful (s : Traced F H) : Io.Step → Prop
  | .input (.event evt) =>
    (evt.token = QUEUE → ∀ cmd rest, s.loop.queue.commands = cmd :: rest →
      directed cmd = true → match cmd.signal with
        | .Timeout _ _ => Own s.loop cmd.token cmd.connection_id
        | .Connect url => connect_failure (s.loop.supply QUEUE evt.answers) url ≠ none →
          Own s.loop cmd.token cmd.connection_id
        | _ => True) ∧
    (evt.token = TIMER → Along Io.Handler.expire (fun g number => ∀ timeout cmd,
        g.timer.find number = some timeout → s.setters[number]? = some cmd →
        directed cmd = true → Own g timeout.connection cmd.connection_id)
      (s.loop.supply TIMER evt.answers) evt.answers.due)
  | _ => True

/-- A timeout that expires. -/
lemma expire_untouched {g g' : Watched F H} {number : ℕ} {id : UInt32}
    (he : g.expire number = .ok g') :
    Untouched id g g' ↔ ∀ timeout, g.timer.find number = some timeout →
      Own g timeout.connection id := by
  rcases expire_cases he with ⟨hf, rfl⟩ | ⟨timeout, hf, ht⟩
  · exact iff_of_true (.of_slots fun _ => rfl) fun timeout ht => by rw [hf] at ht; cases ht
  · have hp := handle_timeout_pokes ht
    have hp' : Pokes g g' timeout.connection := ⟨hp.others, hp.pokes⟩
    rw [hp'.untouched_iff]
    constructor
    · intro ho timeout' ht
      rw [hf] at ht
      cases ht
      exact ho
    · exact fun ho => ho timeout hf

/-- A command taken from the queue. -/
lemma command_untouched {h h' : Watched F H} (hs : Sound h) {ready : Ready} {a : Io.Answers}
    {cmd : Command} {rest : List Command} (hq : h.queue.commands = cmd :: rest)
    (hd : directed cmd = true) (hp : pokes cmd.signal = true)
    (hst : h.step (.on QUEUE ready a) = .ok h') :
    Untouched cmd.connection_id h h' ↔ match cmd.signal with
      | .Timeout _ _ => Own h cmd.token cmd.connection_id
      | .Connect url => connect_failure (h.supply QUEUE a) url ≠ none →
        Own h cmd.token cmd.connection_id
      | _ => True := by
  obtain ⟨queue, d, hcmd, hslots⟩ := queue_step hq hst
  have hsup : (h.supply QUEUE a).connections = h.connections :=
    hs.supply_slots (t := QUEUE) (by decide) a
  simp only [directed, Bool.and_eq_true, decide_eq_true_eq] at hd
  unfold Io.Handler.handle_queue at hcmd
  rw [if_neg hd.1, if_neg hd.2] at hcmd
  have hsame : ∀ {g : Watched F H}, g.connections = h.connections →
      (Untouched cmd.connection_id h h' ↔ Untouched cmd.connection_id g d) ∧
      (Own h cmd.token cmd.connection_id ↔ Own g cmd.token cmd.connection_id) := by
    intro g hg
    unfold Untouched Own
    rw [hg, hslots]
    exact ⟨Iff.rfl, Iff.rfl⟩
  obtain ⟨h1, h2⟩ := hsame (g := { h.supply QUEUE a with queue := queue }) hsup
  rw [h1]
  rcases hsig : cmd.signal with msg | ⟨code, reason⟩ | url | _ | ⟨delay, event⟩ | timeout <;>
    rw [hsig] at hcmd hp
  · cases hp
  · cases hp
  · rw [h2]
    exact directed_connect_untouched hcmd
  · cases hp
  · rw [h2]
    exact (directed_timeout_pokes hcmd).untouched_iff
  · cases hp

/-- **A step is respectful exactly when it is careful.** -/
theorem careful_iff_respectful {s s' : Traced F H} {st : Io.Step} (hs : Known s)
    (h : s.step st = .ok s') : Careful s st ↔ Respectful s st := by
  obtain ⟨h', hst, -⟩ := bind_eq_ok.mp h
  rcases st with (cmd | evt) | _ | _
  · exact Iff.rfl
  · refine and_congr (imp_congr_right fun hq => ?_) (imp_congr_right fun ht => ?_)
    · obtain ⟨t, ready, a⟩ := evt
      subst hq
      constructor
      · intro hc cmd rest g hcmds hd hp hg
        rw [command_untouched hs.sound hcmds hd hp hg]
        exact hc cmd rest hcmds hd
      · intro hr cmd rest hcmds hd
        by_cases hp : pokes cmd.signal = true
        · exact (command_untouched hs.sound hcmds hd hp hst).mp (hr cmd rest h' hcmds hd hp hst)
        · split <;> first | trivial | (rename_i hsig; rw [hsig] at hp; exact absurd rfl hp)
    · obtain ⟨t, ready, a⟩ := evt
      subst ht
      have hrun : run Io.Handler.expire (s.loop.supply TIMER a) a.due = .ok h' := by
        have he : (s.loop.supply TIMER a).handle_event TIMER ready = .ok h' := hst
        rw [Io.Handler.handle_event_timer] at he
        rw [run_eq_foldlM]
        exact he
      refine along_iff (I := fun _ => True) (fun _ _ _ _ _ => trivial)
        (fun g number g' _ hg => ?_) trivial hrun
      constructor
      · intro hc g'' cmd hg'' hset hd
        rw [hg] at hg''
        cases hg''
        exact (expire_untouched hg).mpr fun timeout ht => hc timeout cmd ht hset hd
      · intro hr timeout cmd ht hset hd
        exact (expire_untouched hg).mp (hr g' cmd hg hset hd) timeout ht
  · exact Iff.rfl
  · exact Iff.rfl

/-- **What the timer path reaches.** In every run, timeout commands, connection requests and
the timeouts set for a sender change no connection with another id, exactly when at each of
these moments the slot of the sender is vacant or still has its connection, or the connection
request succeeds. Every timeout that is pending was set by a command for its slot. -/
theorem timer_path {inner : F} {settings : Settings} {addr : Option SocketAddr}
    {steps : List Io.Step} {s s' : Traced F H}
    (hs : Traced.started inner settings addr = .ok s) (hr : run Traced.step s steps = .ok s') :
    (Along Traced.step Respectful s steps ↔ Along Traced.step Careful s steps) ∧
      ∀ number timeout, s'.loop.timer.find number = some timeout →
        SetBy s'.setters number timeout := by
  obtain ⟨h, hstart, hs⟩ := bind_eq_ok.mp hs
  cases hs
  have htimer : h.timer = .new := (Io.Handler.started_fresh hstart).timer
  have hknown : Known (⟨h, []⟩ : Traced F H) :=
    ⟨started_sound hstart, by rw [htimer]; rfl, by rw [htimer]; exact fun e he => by cases he⟩
  refine ⟨?_, fun number timeout hf => ?_⟩
  · refine along_iff (I := Known) (fun s l s' hk => step_known hk)
      (fun s l s' hk hl => ?_) hknown hr
    exact (careful_iff_respectful hk hl).symm
  · have hk : Known s' := run_inv_true (fun s l s' hk => step_known hk) hknown hr
    unfold Timer.find at hf
    obtain ⟨e, he, rfl⟩ := Option.map_eq_some_iff.mp hf
    have hmem := List.mem_of_find?_eq_some he
    have hnumber := List.find?_some he
    rw [← of_decide_eq_true hnumber]
    exact hk.pending e hmem

end Runs

end Reach

/-! ### A slot that is reused -/

/-- A traced server, as it starts. -/
def traced : Except Panic (Traced (Sender → M) M) :=
  @Traced.started _ _ plain (fun _ => {}) { max_connections := 2 } (some ⟨"127.0.0.1:3012"⟩)

/-- A step of the traced server. -/
def traced_step : Traced (Sender → M) M → Io.Step → Except Panic (Traced (Sender → M) M) :=
  @Traced.step _ _ _ _ plain

/-- A peer sets a timeout and closes, and another takes its slot before the command is handled. -/
def late_timeout : List Io.Step :=
  [accepts_peer, .post (Sender.timeout ⟨0, 0⟩ 100 7), peer_closes 0, accepts_peer]

/-- The other hears of the timeout. -/
theorem late_timeout_heard :
    ∃ s s', traced = .ok s ∧ run traced_step s (late_timeout ++ [takes_command]) = .ok s' ∧
      ¬ Along traced_step (@Respectful _ _ _ _ plain) s (late_timeout ++ [takes_command]) := by
  have hrun : Returns traced fun s => Returns (run traced_step s late_timeout) fun t =>
      Returns (serve_on t.loop takes_command) fun h =>
        t.loop.queue.commands = [Sender.timeout ⟨0, 0⟩ 100 7] ∧
        (t.loop.connections.get 0).map (·.connection_id) = some 1 ∧
        (t.loop.connections.get 0).map (·.handler.calls) ≠
          (h.connections.get 0).map (·.handler.calls) := by decide +kernel
  obtain ⟨s, hs, t, ht, h, hstep, hq, hid, hne⟩ := hrun
  have hlast : traced_step t takes_command = .ok ⟨h, if t.loop.timer.count < h.timer.count then
      t.setters ++ t.loop.queue.commands.head?.toList else t.setters⟩ :=
    bind_eq_ok.mpr ⟨h, hstep, rfl⟩
  refine ⟨s, _, hs, run_snoc.mpr ⟨t, ht, hlast⟩, fun hall => hne ?_⟩
  obtain ⟨c, hc, hcid⟩ := Option.map_eq_some_iff.mp hid
  have hat := (hall.last ht).1 rfl _ [] h hq (by decide) rfl hstep
  rw [hc, hat 0 c hc (by rw [hcid]; decide)]

/-- A peer sets a timeout, and is still there when it expires. -/
def own_timeout : List Io.Step :=
  [accepts_peer, .post (Sender.timeout ⟨0, 0⟩ 100 7), takes_command,
    .on TIMER readable { due := [0] }]

theorem timer_path_own_timeout :
    ∃ s s', traced = .ok s ∧ run traced_step s own_timeout = .ok s' ∧
      (Along traced_step (@Respectful _ _ _ _ plain) s own_timeout ↔
        Along traced_step (@Careful _ _ _ _ plain) s own_timeout) := by
  have hrun : Returns traced fun s => Returns (run traced_step s own_timeout) fun _ => True := by
    decide +kernel
  obtain ⟨s, hs, s', hr, -⟩ := hrun
  exact ⟨s, s', hs, hr, (@timer_path _ _ _ _ plain _ _ _ _ s s' hs hr).1⟩

end XnetSocket.TimerPath
