import XnetSocket.Backlog
import XnetSocket.DataPath
import XnetSocket.Lib.Accounts
import XnetSocket.Lib.Pipe

/-!
The queue of commands is a pipe.

Senders put commands in while there is room, and each event of the queue lets one out, to be
handled. So the commands are handled in the order they were queued in, each of them once, and
those that wait are handled by as many events of the queue as there are of them.
-/

namespace XnetSocket.Queueing

open Buffer Runs Custody DataPath

variable {F H : Type}

/-- The command a step puts into the queue, when there is room for it. -/
def queued (h : Watched F H) : Io.Step → List Command
  | .input (.send cmd) => if h.queue.commands.length < h.queue.bound then [cmd] else []
  | _ => []

/-- The command a step takes out of the queue, when one waits there. -/
def handled (h : Watched F H) : Io.Step → List Command
  | .input (.event evt) => if evt.token = QUEUE then h.queue.commands.take 1 else []
  | _ => []

/-- An event of the queue. -/
def serves_queue : Io.Step → Bool
  | .input (.event evt) => evt.token = QUEUE
  | _ => false

/-- The queue, with what has come out of it. -/
def line (out : List Command) (h : Watched F H) : Pipe Command := ⟨out, h.queue.commands⟩

section Runs

variable [Factory F H] [Handler H] [Host] {h h' : Watched F H}

/-- What one step does to the queue. -/
lemma step_queue {s : Io.Step} (hs : h.step s = .ok h') (out : List Command) :
    (line out h).Moves (queued h s) (line (out ++ handled h s) h') ∧
      h'.queue.bound = h.queue.bound := by
  have hsame : h'.queue = h.queue → queued h s = [] → handled h s = [] →
      (line out h).Moves (queued h s) (line (out ++ handled h s) h') ∧
        h'.queue.bound = h.queue.bound := by
    intro hq hin hout
    refine ⟨⟨0, ?_⟩, congrArg _ hq⟩
    rw [hin, hout, Pipe.push_nil, Pipe.pull_zero, List.append_nil, line, hq]
    rfl
  cases s with
  | input i =>
    cases i with
    | send cmd =>
      cases hs
      unfold Io.Handler.send SyncChannel.send
      by_cases hroom : h.queue.commands.length < h.queue.bound
      · refine ⟨⟨0, ?_⟩, by rw [if_pos hroom]⟩
        simp [line, queued, handled, hroom, Pipe.push, Pipe.pull]
      · refine ⟨⟨0, ?_⟩, by rw [if_neg hroom]⟩
        simp [line, queued, handled, hroom]
    | event evt =>
      have hq := Backlog.input_event_queue hs
      by_cases htok : evt.token = QUEUE
      · rw [if_pos htok] at hq
        refine ⟨⟨1, ?_⟩, by rw [hq]⟩
        simp [line, queued, handled, htok, hq, Pipe.pull]
      · rw [if_neg htok] at hq
        exact hsame hq rfl (if_neg htok)
  | interrupted =>
    cases hs
    refine hsame ?_ rfl rfl
    unfold Io.Handler.interrupted
    split <;> rfl
  | check_count =>
    cases hs
    exact hsame (check_count_keeps h).queue rfl rfl

/-- The queue never holds more than it has room for. -/
lemma step_room {s : Io.Step} (hs : h.step s = .ok h')
    (hroom : h.queue.commands.length ≤ h.queue.bound) :
    h'.queue.commands.length ≤ h'.queue.bound := by
  obtain ⟨⟨n, hn⟩, hbound⟩ := step_queue hs []
  have hheld : h'.queue.commands = (h.queue.commands ++ queued h s).drop n := congrArg Pipe.held hn
  have hqueued : (h.queue.commands ++ queued h s).length ≤ h.queue.bound := by
    rw [List.length_append]
    unfold queued
    split
    · split
      · rw [List.length_singleton]
        omega
      · exact hroom
    · exact hroom
  rw [hbound, hheld, List.length_drop]
  omega

/-- Commands come out in the order they went in. -/
lemma run_line {steps : List Io.Step} (hr : run Io.Handler.step h steps = .ok h') :
    account Io.Handler.step handled h steps ++ h'.queue.commands =
      h.queue.commands ++ account Io.Handler.step queued h steps := by
  induction steps generalizing h with
  | nil => cases hr; simp
  | cons s steps ih =>
    obtain ⟨g, hg, hr⟩ := run_cons.mp hr
    have hall := (step_queue hg []).1.all
    rw [account_cons hg, account_cons hg, List.append_assoc, ih hr, ← List.append_assoc,
      ← List.append_assoc]
    exact congrArg (· ++ _) hall

/-- Every event of the queue takes a command while some are left of those that wait. -/
lemma handled_length {steps : List Io.Step} (hr : run Io.Handler.step h steps = .ok h') :
    min (steps.countP serves_queue) h.queue.commands.length ≤
      (account Io.Handler.step handled h steps).length := by
  induction steps generalizing h with
  | nil => simp
  | cons s steps ih =>
    obtain ⟨g, hg, hr⟩ := run_cons.mp hr
    have hrest := ih hr
    have hall : handled h s ++ g.queue.commands = h.queue.commands ++ queued h s :=
      (step_queue hg []).1.all
    have hlen := congrArg List.length hall
    rw [List.length_append, List.length_append] at hlen
    rw [account_cons hg, List.length_append, List.countP_cons]
    have htakes : serves_queue s = true → (handled h s).length = min 1 h.queue.commands.length := by
      intro hserves
      cases s with
      | input i =>
        cases i with
        | send cmd => cases hserves
        | event evt =>
          have htok : evt.token = QUEUE := of_decide_eq_true hserves
          simp only [handled, if_pos htok, List.length_take]
      | interrupted => cases hserves
      | check_count => cases hserves
    split
    · have := htakes (by assumption)
      omega
    · omega

/-- Those that wait are the next to be handled. -/
lemma waiting_handled {steps : List Io.Step} (hr : run Io.Handler.step h steps = .ok h')
    (hcount : h.queue.commands.length ≤ steps.countP serves_queue) :
    h.queue.commands <+: account Io.Handler.step handled h steps := by
  have hline : account Io.Handler.step handled h steps <+:
      h.queue.commands ++ account Io.Handler.step queued h steps := ⟨_, run_line hr⟩
  refine List.prefix_of_prefix_length_le (List.prefix_append _ _) hline ?_
  have := handled_length hr
  omega

/-- The step takes the command from the head of the queue and hands it over, and then the queue is
armed again. -/
def HandsOver (h : Watched F H) (s : Io.Step) (h' : Watched F H) (cmd : Command) : Prop :=
  ∃ kind a rest d, s = .on QUEUE kind a ∧ h.queue.commands = cmd :: rest ∧
    ({ h.supply QUEUE a with queue := ⟨h.queue.bound, rest⟩ } : Watched F H).handle_queue cmd =
      .ok d ∧
    h' = { d with poll := (d.poll.reregister QUEUE readable).1 }

/-- A step that takes a command out of the queue hands it over. -/
lemma step_hands_over {s : Io.Step} {cmd : Command} (hs : h.step s = .ok h')
    (hcmd : cmd ∈ handled h s) : HandsOver h s h' cmd := by
  unfold handled at hcmd
  split at hcmd
  · rename_i evt
    split at hcmd
    · rename_i htok
      obtain ⟨token, kind, a⟩ := evt
      subst htok
      rcases hq : h.queue.commands with _ | ⟨c, rest⟩ <;> rw [hq] at hcmd
      · cases hcmd
      · obtain rfl := List.mem_singleton.mp hcmd
        have he : (h.supply QUEUE a).handle_event QUEUE kind = .ok h' := hs
        rw [Io.Handler.handle_event_queue] at he
        obtain ⟨d, hd, he⟩ := bind_eq_ok.mp he
        cases he
        rw [Io.Handler.take_command_cons (h := h.supply QUEUE a) hq] at hd
        exact ⟨kind, a, rest, d, rfl, hq, hd, rfl⟩
    · cases hcmd
  · cases hcmd

/-- **Commands are handled in order, each once.** In every run, the commands handled so far
followed by those that wait are the commands that were queued, in the order they were; no more
wait than the settings allow; a step that takes one out handles it; and those that wait are the
next to be handled, by any further steps with as many events of the queue. -/
theorem commands_in_order {inner : F} {settings : Settings} {addr : Option SocketAddr}
    {h₀ : Watched F H} {steps : List Io.Step}
    (hs : Io.Handler.started (Ledger.blank inner) settings addr = .ok h₀)
    (hr : run Io.Handler.step h₀ steps = .ok h) :
    account Io.Handler.step handled h₀ steps ++ h.queue.commands =
        account Io.Handler.step queued h₀ steps ∧
      h.queue.commands.length ≤ settings.max_connections * settings.queue_size ∧
      (∀ s, h.step s = .ok h' → ∀ cmd ∈ handled h s, HandsOver h s h' cmd) ∧
      ∀ more, run Io.Handler.step h more = .ok h' →
        h.queue.commands.length ≤ more.countP serves_queue →
          h.queue.commands <+: account Io.Handler.step handled h more := by
  have hstart := (Io.Handler.started_fresh hs).queue
  refine ⟨?_, ?_, fun s hstep cmd hcmd => step_hands_over hstep hcmd, fun more hmore hcount =>
    waiting_handled hmore hcount⟩
  · rw [run_line hr, hstart]
    rfl
  · have hroom : h.queue.commands.length ≤ h.queue.bound ∧ h.queue.bound = h₀.queue.bound := by
      refine run_inv_true (I := fun g : Watched F H => g.queue.commands.length ≤ g.queue.bound ∧
        g.queue.bound = h₀.queue.bound) (fun g s g' hg hstep => ?_) ⟨?_, rfl⟩ hr
      · exact ⟨step_room hstep hg.1, (step_queue hstep []).2.trans hg.2⟩
      · rw [hstart]
        exact Nat.zero_le _
    exact hroom.1.trans (le_of_eq (hroom.2.trans (congrArg _ hstart)))

end Runs

/-- Two commands are queued, and one is taken. -/
def two_queued : List Io.Step :=
  [.post (Sender.send ⟨0, 0⟩ (.text "a")), .post (Sender.send ⟨0, 0⟩ (.text "b")), takes_command]

/-- A loop with two slots and no listener, as it starts. -/
def small : Except Panic (Watched (Sender → M) M) :=
  @Io.Handler.started _ _ plain (Ledger.blank fun _ => {}) { max_connections := 2 } none

theorem commands_in_order_two :
    ∃ h₀ h : Watched (Sender → M) M, small = .ok h₀ ∧ run serve_on h₀ two_queued = .ok h ∧
      account serve_on handled h₀ two_queued ++ h.queue.commands =
        account serve_on queued h₀ two_queued := by
  have hs : (small >>= fun h₀ => run serve_on h₀ two_queued).isOk = true := by decide
  obtain ⟨h, hrun⟩ := exists_of_isOk hs
  obtain ⟨h₀, h₀s, hr⟩ := bind_eq_ok.mp hrun
  exact ⟨h₀, h, h₀s, hr, (@commands_in_order _ _ _ _ plain _ h _ _ _ _ _ h₀s hr).1⟩

end XnetSocket.Queueing
