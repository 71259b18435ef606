import Mathlib.Algebra.Ring.Nat
import XnetSocket.EndOfStream
import XnetSocket.Joining

/-!
The backlog of commands, when handlers send while the loop runs.

A handler that answers a message queues a command on the thread that empties the queue, so it
must never find the channel full. An event of the queue takes one command out; how many come in
between two polls is up to how many connections have something to say.
-/

namespace XnetSocket.Backlog

open Buffer Runs Connection Lifecycle Evolution Custody Joining

/-- An event, and the commands handlers send while it is handled. -/
structure Turn where
  event : Io.Event
  sends : List Command := []

def Turn.inputs (t : Turn) : List Io.Input := .event t.event :: t.sends.map .send

/-- How many messages are among the callbacks. -/
def messages (calls : List Callback) : ℕ :=
  calls.countP fun call => match call with
    | .on_message _ => true
    | _ => false

section Runs

variable {F H : Type} [Factory F H] [Handler H] [Host]

def turn (h : Watched F H) (t : Turn) : Except Panic (Watched F H) :=
  Runs.run Io.Handler.input h t.inputs

/-- A batch of events, after which the connections are counted. -/
def tick (h : Watched F H) (batch : List Turn) : Except Panic (Watched F H) := do
  let h ← Runs.run turn h batch
  .ok h.check_count

/-- The loop takes its batches as ticks. -/
lemma event_loop_tick (h : Watched F H) (ha : h.state.is_active = true) (batch : List Turn)
    (polls : List Io.Handler.Poll) :
    h.event_loop (.ok (batch.flatMap Turn.inputs) :: polls) =
      tick h batch >>= fun h' => h'.event_loop polls := by
  have hrun : ∀ (l : List Turn) (g : Watched F H),
      Runs.run Io.Handler.input g (l.flatMap Turn.inputs) = Runs.run turn g l := by
    intro l
    induction l with
    | nil => exact fun g => rfl
    | cons t l ih =>
      intro g
      rw [List.flatMap_cons, run_eq_foldlM, List.foldlM_append, ← run_eq_foldlM]
      exact congrArg (turn g t >>= ·) (funext fun g' => by rw [← run_eq_foldlM, ih])
  simp only [Io.Handler.event_loop, ha, if_true, hrun, tick]
  cases Runs.run turn h batch <;> rfl

/-- How often an event calls `on_message`: only the connection it is for may read, and only when
it is ready to. -/
def told (h : Watched F H) (evt : Io.Event) : ℕ :=
  match (h.supply evt.token evt.answers).connections.get evt.token with
  | none => 0
  | some c =>
    if (evt.kind.and c.events).is_readable then
      match c.read with
      | .ok (c', _) => messages c'.handler.calls - messages c.handler.calls
      | .error _ => 0
    else 0

/-- A batch the poll can deliver, to handlers that send at most one command for each message:
at most one event for each connection, and one for the queue when commands are waiting. -/
structure Fair (h : Watched F H) (batch : List Turn) : Prop where
  once : ((batch.map fun t => t.event.token).filter (· < h.connections.capacity)).Nodup
  queue : h.queue.commands ≠ [] → ∃ t ∈ batch, t.event.token = QUEUE
  sends : Along turn (fun g t => t.sends.length ≤ told g t.event) h batch

/-- A fair batch, when the loop still polls. -/
def Allowed (h : Watched F H) (batch : List Turn) : Prop :=
  h.state.is_active = true ∧ Fair h batch

instance (h : Watched F H) (batch : List Turn) : Decidable (Fair h batch) :=
  decidable_of_iff (((batch.map fun t => t.event.token).filter (· < h.connections.capacity)).Nodup ∧
      (h.queue.commands ≠ [] → ∃ t ∈ batch, t.event.token = QUEUE) ∧
      Along turn (fun g t => t.sends.length ≤ told g t.event) h batch)
    ⟨fun hf => ⟨hf.1, hf.2.1, hf.2.2⟩, fun hf => ⟨hf.once, hf.queue, hf.sends⟩⟩

instance (h : Watched F H) (batch : List Turn) : Decidable (Allowed h batch) :=
  inferInstanceAs (Decidable (_ ∧ _))

/-- No command of the turn has to wait for room among `bound`. -/
def Room (bound : ℕ) (h : Watched F H) (t : Turn) : Prop :=
  Holds (h.input (.event t.event)) fun g =>
    Along Io.Handler.input (fun g _ => g.queue.commands.length < bound) g (t.sends.map .send)

instance (bound : ℕ) (h : Watched F H) (t : Turn) : Decidable (Room bound h t) :=
  inferInstanceAs (Decidable (Holds _ _))

/-- No command of the batch has to wait. -/
def Flows (settings : Settings) (h : Watched F H) (batch : List Turn) : Prop :=
  Along turn (Room (settings.max_connections * settings.queue_size)) h batch

instance (settings : Settings) (h : Watched F H) (batch : List Turn) :
    Decidable (Flows settings h batch) :=
  inferInstanceAs (Decidable (Along _ _ _ _))

/-- In every run of every server, no command has to wait. -/
def NeverWaits (settings : Settings) : Prop :=
  ∀ (F H : Type) [Factory F H] [Handler H] (inner : F) (addr : SocketAddr) (h : Watched F H)
    (batches : List (List Turn)),
    Io.Handler.started (Ledger.blank inner) settings (some addr) = .ok h →
      Along tick Allowed h batches → Along tick (Flows settings) h batches

/-! ### How the queue fills and empties -/

/-- An event leaves the queue alone, unless it is the queue's. -/
lemma input_event_queue {h h' : Watched F H} {evt : Io.Event}
    (hi : h.input (.event evt) = .ok h') :
    h'.queue = if evt.token = QUEUE then ⟨h.queue.bound, h.queue.commands.tail⟩ else h.queue := by
  have hsup : (h.supply evt.token evt.answers).queue = h.queue :=
    (supply_keeps h evt.token evt.answers).queue
  have he : (h.supply evt.token evt.answers).handle_event evt.token evt.kind = .ok h' := hi
  unfold Io.Handler.handle_event at he
  split at he
  · cases he
  split at he
  · rename_i hall
    rw [if_neg (by rw [hall]; decide), ← hsup]
    exact (handle_listener_keeps he).queue
  split at he
  · rename_i htimer
    obtain ⟨timer, hk, -⟩ := expire_all_keeps he
    rw [if_neg (by rw [htimer]; decide), ← hsup]
    exact hk.queue
  split at he
  · rename_i hq
    have hk := handle_commands_keeps he
    rw [hsup] at hk
    rw [if_pos hq]
    rcases hcmds : h.queue.commands with _ | ⟨cmd, rest⟩ <;> rw [hcmds] at hk
    · rw [hk.queue, hsup, List.tail_nil, ← hcmds]
    · exact hk.queue
  · rename_i hq
    rw [if_neg hq, ← hsup]
    exact (handle_socket_keeps he).queue

omit [Host] in
lemma messages_append (l m : List Callback) : messages (l ++ m) = messages l + messages m :=
  List.countP_append

omit [Host] in
lemma read_data_messages (c : Connection (Recorded H)) :
    messages c.read_data.1.handler.calls ≤ messages c.handler.calls + 1 := by
  unfold read_data
  dsimp only
  split
  · exact Nat.le_succ _
  · rw [Recorded.calls_on_message, messages_append]
    exact le_refl _

omit [Host] in
lemma disconnect_messages (c : Connection (Recorded H)) :
    messages c.disconnect.handler.calls = messages c.handler.calls := by
  unfold disconnect
  split
  · rfl
  · rfl
  · rfl
  · rw [Recorded.calls_on_close, messages_append]
    rfl

/-- A read calls `on_message` at most once. -/
lemma read_messages {c c' : Connection (Recorded H)} {res : Result Unit}
    (h : c.read = .ok (c', res)) :
    messages c'.handler.calls ≤ messages c.handler.calls + 1 := by
  rcases read_ok h with ⟨rfl, -⟩ | ⟨d, r, hb, hf⟩
  · exact Nat.le_succ _
  obtain ⟨-, -, hh⟩ := buffer_in_loop_inward _ hb
  rw [← hh]
  have hdata : ∀ {e res}, d.read_data = (e, res) →
      messages e.handler.calls ≤ messages d.handler.calls + 1 := fun hx => by
    have := read_data_messages d
    rwa [hx] at this
  cases hf with
  | failed => exact Nat.le_succ _
  | blocked => exact Nat.le_succ _
  | refused hx => exact hdata hx
  | handed hx => exact hdata hx
  | half_closed hx =>
    have := hdata hx
    exact this
  | closed hx =>
    rw [disconnect_messages]
    exact hdata hx

omit [Factory F H] in
/-- An event calls `on_message` at most once, and only when it is for a connection. -/
lemma told_le (h : Watched F H) (evt : Io.Event) : told h evt ≤ 1 := by
  unfold told
  split
  · exact Nat.zero_le _
  · split
    · split
      · rename_i c _ _ _ _ hr
        have := read_messages hr
        omega
      · exact Nat.zero_le _
    · exact Nat.zero_le _

omit [Factory F H] in
lemma told_eq_zero {h : Watched F H} {evt : Io.Event}
    (ht : h.connections.capacity ≤ evt.token) : told h evt = 0 := by
  have hcap : (h.supply evt.token evt.answers).connections.capacity = h.connections.capacity :=
    (supply_keeps h evt.token evt.answers).capacity
  unfold told
  split
  · rfl
  · rename_i hget
    have := Slab.get_lt_capacity hget
    omega

/-- Sending adds to the queue what there is room for. -/
lemma run_sends {bound : ℕ} {h h' : Watched F H} {cmds : List Command} (hb : h.queue.bound = bound)
    (hroom : h.queue.commands.length + cmds.length ≤ bound)
    (hr : Runs.run Io.Handler.input h (cmds.map .send) = .ok h') :
    Along Io.Handler.input (fun g _ => g.queue.commands.length < bound) h (cmds.map .send) ∧
      h' = { h with queue := ⟨bound, h.queue.commands ++ cmds⟩ } := by
  induction cmds generalizing h with
  | nil =>
    cases hr
    refine ⟨trivial, ?_⟩
    subst hb
    rw [List.append_nil]
  | cons cmd cmds ih =>
    obtain ⟨g, hg, hr⟩ := run_cons.mp hr
    rw [List.length_cons] at hroom
    have hlt : h.queue.commands.length < bound := by omega
    have hsend : g = { h with queue := ⟨bound, h.queue.commands ++ [cmd]⟩ } := by
      have hs : h.send cmd = g := Except.ok.inj hg
      rw [← hs, Io.Handler.send, SyncChannel.send, hb, if_pos hlt]
    subst hsend
    obtain ⟨hall, hlast⟩ :=
      ih rfl (by simp only [List.length_append, List.length_singleton]; omega) hr
    refine ⟨(along_cons hg).mpr ⟨hlt, hall⟩, ?_⟩
    rw [hlast, List.append_assoc]
    rfl

/-- Sends that do not stop. -/
lemma run_sends_isOk (h : Watched F H) (cmds : List Command) :
    ∃ h', Runs.run Io.Handler.input h (cmds.map .send) = .ok h' := by
  induction cmds generalizing h with
  | nil => exact ⟨h, rfl⟩
  | cons cmd cmds ih =>
    obtain ⟨h', hr⟩ := ih (h.send cmd)
    exact ⟨h', run_cons.mpr ⟨_, rfl, hr⟩⟩

/-- A turn for which there is room. -/
lemma turn_room {bound : ℕ} {h h' : Watched F H} {t : Turn} (hb : h.queue.bound = bound)
    (hroom : (if t.event.token = QUEUE then h.queue.commands.length - 1
      else h.queue.commands.length) + t.sends.length ≤ bound) (ht : turn h t = .ok h') :
    Room bound h t ∧ h'.queue.bound = bound ∧ h'.queue.commands.length =
      (if t.event.token = QUEUE then h.queue.commands.length - 1 else h.queue.commands.length) +
        t.sends.length := by
  obtain ⟨g, hg, hr⟩ := run_cons.mp ht
  have hq := input_event_queue hg
  have hgb : g.queue.bound = bound := by
    rw [hq, ← hb]
    split <;> rfl
  have hlen : g.queue.commands.length = if t.event.token = QUEUE
      then h.queue.commands.length - 1 else h.queue.commands.length := by
    rw [hq]
    split
    · exact List.length_tail
    · rfl
  rw [← hlen] at hroom ⊢
  obtain ⟨hall, rfl⟩ := run_sends hgb hroom hr
  refine ⟨fun g' hg' => ?_, rfl, List.length_append⟩
  rw [hg] at hg'
  cases hg'
  exact hall

/-- A batch that queues at most one command, and takes one out when there is one, leaves at most
one; `w` bounds what each turn sends. The induction is on the batch: what waits and what is still
to come are at most two, and at most one once the queue has had its event. -/
lemma batch_room {bound : ℕ} (h2 : 2 ≤ bound) (w : Turn → ℕ) {h : Watched F H} {batch : List Turn}
    (hb : h.queue.bound = bound) (hw : Along turn (fun _ t => t.sends.length ≤ w t) h batch)
    (hone : (batch.map w).sum ≤ 1) (htwo : h.queue.commands.length + (batch.map w).sum ≤ 2)
    (hq : (∃ t ∈ batch, t.event.token = QUEUE) ∨
      h.queue.commands.length + (batch.map w).sum ≤ 1) :
    Along turn (Room bound) h batch ∧ ∀ h', Runs.run turn h batch = .ok h' →
      h'.queue.bound = bound ∧ h'.queue.commands.length ≤ 1 := by
  induction batch generalizing h with
  | nil =>
    refine ⟨trivial, fun h' hr => ?_⟩
    cases hr
    rcases hq with ⟨t, ht, -⟩ | hq
    · cases ht
    · exact ⟨hb, hq⟩
  | cons t batch ih =>
    simp only [List.map_cons, List.sum_cons] at hone htwo hq
    have hsends := hw.1
    rcases hturn : turn h t with p | g
    · -- a turn that stops has no command wait
      refine ⟨⟨fun g hg => ?_, fun g hg => ?_⟩, fun h' hr => ?_⟩
      · obtain ⟨g', hg'⟩ := run_sends_isOk g t.sends
        have : turn h t = .ok g' := run_cons.mpr ⟨g, hg, hg'⟩
        rw [this] at hturn
        cases hturn
      · rw [hturn] at hg
        cases hg
      · obtain ⟨g, hg, -⟩ := run_cons.mp hr
        rw [hturn] at hg
        cases hg
    · have hfit : (if t.event.token = QUEUE then h.queue.commands.length - 1
          else h.queue.commands.length) + t.sends.length ≤ bound := by
        split <;> omega
      obtain ⟨hroom, hgb, hglen⟩ := turn_room hb hfit hturn
      obtain ⟨hall, hend⟩ : Along turn (Room bound) g batch ∧ ∀ h', Runs.run turn g batch = .ok h' →
          h'.queue.bound = bound ∧ h'.queue.commands.length ≤ 1 := by
        refine ih hgb ((along_cons hturn).mp hw).2 (by omega) ?_ ?_
        · rw [hglen]
          split <;> omega
        · by_cases hqt : t.event.token = QUEUE
          · rw [hglen, if_pos hqt]
            exact Or.inr (by omega)
          · rw [hglen, if_neg hqt]
            rcases hq with ⟨u, hu, hqu⟩ | hq
            · rcases List.mem_cons.mp hu with rfl | hu
              · exact absurd hqu hqt
              · exact Or.inl ⟨u, hu, hqu⟩
            · exact Or.inr (by omega)
      refine ⟨(along_cons hturn).mpr ⟨hroom, hall⟩, fun h' hr => ?_⟩
      obtain ⟨g', hg', hr⟩ := run_cons.mp hr
      rw [hturn] at hg'
      cases hg'
      exact hend h' hr

/-- When every batch queues at most one command, none ever waits. The induction is on the batches:
at most one command waits between two polls. -/
lemma flows_of_one {settings : Settings} (h2 : 2 ≤ settings.max_connections * settings.queue_size)
    {h : Watched F H} {batches : List (List Turn)}
    (hb : h.queue.bound = settings.max_connections * settings.queue_size)
    (hle : h.queue.commands.length ≤ 1)
    (hall : Along tick (fun g batch => Allowed g batch ∧ ∃ w : Turn → ℕ,
      Along turn (fun _ t => t.sends.length ≤ w t) g batch ∧ (batch.map w).sum ≤ 1) h batches) :
    Along tick (Flows settings) h batches := by
  induction batches generalizing h with
  | nil => trivial
  | cons batch batches ih =>
    obtain ⟨⟨⟨-, hfair⟩, w, hw, hone⟩, hrest⟩ := hall
    obtain ⟨hroom, hend⟩ := batch_room h2 w hb hw hone (by omega) (by
      by_cases hne : h.queue.commands = []
      · exact Or.inr (by rw [hne]; simpa using hone)
      · exact Or.inl (hfair.queue hne))
    refine ⟨hroom, fun h' ht => ?_⟩
    obtain ⟨g, hg, hcount⟩ := bind_eq_ok.mp ht
    cases hcount
    obtain ⟨hgb, hgl⟩ := hend g hg
    have hq : g.check_count.queue = g.queue := (check_count_keeps g).queue
    exact ih (by rw [hq]; exact hgb) (by rw [hq]; exact hgl) (hrest _ ht)

lemma turn_capacity {h h' : Watched F H} {t : Turn} (ht : turn h t = .ok h') :
    h'.connections.capacity = h.connections.capacity := by
  refine run_inv_true (I := fun g : Watched F H =>
    g.connections.capacity = h.connections.capacity) (fun g i g' hg hi => ?_) rfl ht
  obtain ⟨queue, timer, hk⟩ := step_keeps (s := .input i) hi
  exact hk.capacity.trans hg

/-- Whether the event is for the only slot. -/
def first (t : Turn) : ℕ := if t.event.token = 0 then 1 else 0

omit [Host] in
lemma sum_first (batch : List Turn) :
    (batch.map first).sum = ((batch.map fun t => t.event.token).filter (· < 1)).length := by
  induction batch with
  | nil => rfl
  | cons t batch ih =>
    rw [List.map_cons, List.sum_cons, ih, List.map_cons, List.filter_cons, first]
    by_cases h0 : t.event.token = 0
    · rw [if_pos h0, if_pos (by simpa using h0), List.length_cons, Nat.add_comm]
    · rw [if_neg h0, if_neg (by simpa using h0), Nat.zero_add]

/-- With one slot, a batch has something to say to at most one connection. -/
lemma one_slot {h : Watched F H} {batch : List Turn} (hcap : h.connections.capacity = 1)
    (hfair : Fair h batch) :
    Along turn (fun _ t => t.sends.length ≤ first t) h batch ∧ (batch.map first).sum ≤ 1 := by
  constructor
  · refine hfair.sends.mono_inv (I := fun g => g.connections.capacity = 1)
      (fun g t g' hg _ ht => (turn_capacity ht).trans hg) (fun g t hg hle => ?_) hcap
    have hcap : g.connections.capacity = 1 := hg
    unfold first
    split
    · exact le_trans hle (told_le g t.event)
    · rename_i hne
      have hbeyond : g.connections.capacity ≤ t.event.token := by
        rw [hcap]
        exact Nat.one_le_iff_ne_zero.mpr hne
      exact le_trans hle (le_of_eq (told_eq_zero hbeyond))
  · have honce := hfair.once
    rw [hcap] at honce
    rw [sum_first]
    by_contra hlt
    -- two events for the only slot
    have hall : ∀ t ∈ (batch.map fun t => t.event.token).filter (· < 1), t = 0 := by
      intro t ht
      have := (List.mem_filter.mp ht).2
      simpa using this
    have hrep := List.eq_replicate_iff.mpr ⟨rfl, hall⟩
    rw [hrep, List.nodup_replicate] at honce
    omega

/-- A loop whose connections cannot be made has none. -/
def Barren (h : Watched F H) : Prop :=
  ¬ h.settings.Allocatable ∧ ∀ t, h.connections.get t = none

omit [Factory F H] [Handler H] [Host] in
lemma Barren.of_keeps {h h' : Watched F H} {queue : SyncChannel} {timer : Timer} (hb : Barren h)
    (hk : Keeps { h with queue := queue, timer := timer } h') : Barren h' := by
  have hset : h'.settings = h.settings := hk.settings
  refine ⟨by rw [hset]; exact hb.1, fun t => ?_⟩
  rcases hget : h'.connections.get t with _ | c
  · rfl
  · rcases hk.descends t c hget with ⟨d, hd, -⟩ | ⟨-, -, -, -, ha⟩
    · have hnone := hb.2 t
      rw [show h.connections.get t = some d from hd] at hnone
      cases hnone
    · exact absurd ha hb.1

lemma turn_barren {h h' : Watched F H} {t : Turn} (hb : Barren h) (ht : turn h t = .ok h') :
    Barren h' := by
  refine run_inv_true (fun g i g' hg hi => ?_) hb ht
  obtain ⟨queue, timer, hk⟩ := step_keeps (s := .input i) hi
  exact hg.of_keeps hk

lemma tick_barren {h h' : Watched F H} {batch : List Turn} (hb : Barren h)
    (ht : tick h batch = .ok h') : Barren h' := by
  obtain ⟨g, hg, hcount⟩ := bind_eq_ok.mp ht
  cases hcount
  exact (run_inv_true (fun _ _ _ hb ht => turn_barren hb ht) hb hg).of_keeps (check_count_keeps g)

omit [Factory F H] in
lemma Barren.told {h : Watched F H} (hb : Barren h) (evt : Io.Event) : told h evt = 0 := by
  have hsup : (h.supply evt.token evt.answers).connections.get evt.token = none := by
    simp only [Io.Handler.supply, hb.2]
  unfold Backlog.told
  rw [hsup]

/-- Where there are no connections nobody sends anything. -/
lemma Barren.silent {h : Watched F H} {batch : List Turn} (hb : Barren h) (hfair : Fair h batch) :
    Along turn (fun _ t => t.sends.length ≤ 0) h batch :=
  hfair.sends.mono_inv (I := Barren) (fun _ _ _ hg _ ht => turn_barren hg ht)
    (fun _ t hg hle => hg.told t.event ▸ hle) hb

end Runs

/-! ### A server that falls behind -/

section Busy

variable [Host]

/-- A connection nothing has been heard of yet. -/
structure Resting (c : Connection (Recorded M)) : Prop where
  state : c.state = .Open
  events : c.events = readable
  calls : c.handler.calls = []
  data : c.in_buffer.inner.data = []

/-- The read that finds the peer gone hands over the empty text, and wants nothing more. -/
lemma read_eof {c : Connection (Recorded M)} (hc : Resting c) :
    ∃ c', (c.with_reads [.ok []]).read = .ok (c', .ok ()) ∧ c'.events = .empty ∧
      messages c'.handler.calls = 1 := by
  obtain ⟨sock, buf, hb, hdata⟩ := EndOfStream.buffer_in_eof c []
  rw [hc.data] at hdata hb
  set d : Connection (Recorded M) :=
    { c with socket := sock, in_buffer := { c.in_buffer with inner := buf } } with hd
  have hconn : (c.with_reads [.ok []]).state.is_connecting = false := by
    rw [show (c.with_reads [.ok []]).state = .Open from hc.state]
    rfl
  obtain ⟨c', res, hread, hf⟩ := read_finish hconn hb
  have hempty : d.in_buffer.bytes = [] := by simp [hd, Cursor.bytes, hdata]
  obtain ⟨text, ht, -⟩ := from_utf8_valid Utf8.valid_nil
  have hr : d.in_buffer.read_to_end.2 = [] := hempty
  have hrd : d.read_data = ({ d with
      in_buffer := d.in_buffer.read_to_end.1
      handler := d.handler.note d.handler.inner (.on_message (.text text)) }, .ok ()) := by
    simp only [read_data, hr, ht]
    rfl
  have hev : d.events = readable := hc.events
  rw [show ([] : Bytes).length = 0 from rfl] at hf
  cases hf with
  | refused hx => rw [hrd] at hx; cases hx
  | handed hx hne => exact absurd rfl hne
  | half_closed hx hw =>
    rw [hrd] at hx
    cases hx
    rw [show d.events.is_writable = false from by rw [hev]; rfl] at hw
    cases hw
  | closed hx hw =>
    rw [hrd] at hx
    cases hx
    refine ⟨_, hread, ?_, ?_⟩
    · simp [disconnect, show d.state = .Open from hc.state]
    · rw [disconnect_messages]
      simp only [Recorded.note, messages_append, show d.handler.calls = [] from hc.calls]
      rfl

/-- The command every handler sends: another connection. -/
def again : Command := Sender.connect ⟨0, 0⟩ ""

/-- A server in the middle of its work, with `k` commands waiting. -/
structure Serving (settings : Settings) (k : ℕ) (h : Watched (Sender → M) M) : Prop where
  sound : Sound h
  active : h.state = .Active
  listening : h.listener.isSome = true
  bound : h.queue.bound = settings.max_connections * settings.queue_size
  commands : h.queue.commands = List.replicate k again
  allocatable : settings.Allocatable
  settings : h.settings = settings

variable {settings : Settings} {k : ℕ}

omit [Host] in
lemma at_slot_ok {h : Watched (Sender → M) M} {t : Token} {c : Connection (Recorded M)}
    (hc : h.connections.get t = some c) : h.at_slot t = .ok c := by
  simp only [Io.Handler.at_slot, hc]

/-- The peer of a connection closes. -/
def closes_event (t : Token) : Io.Event := ⟨t, readable, { reads := [.ok []] }⟩

/-- The event of a peer that closes calls `on_message`, and the connection is removed. -/
lemma closes_turn {h : Watched (Sender → M) M} (hs : Serving settings k h) {a : Token}
    {c : Connection (Recorded M)} (hc : h.connections.get a = some c) (hr : Resting c) :
    told h (closes_event a) = 1 ∧ ∃ g, h.input (.event (closes_event a)) = .ok g ∧
      Serving settings k g ∧
      ∀ t, g.connections.get t = if a = t then none else h.connections.get t := by
  obtain ⟨c', hread, hev, hmsg⟩ :=
    read_eof (c := { c with socket := { c.socket with writes := [] } })
    ⟨hr.state, hr.events, hr.calls, hr.data⟩
  set c0 : Connection (Recorded M) :=
    { c with socket := { c.socket with reads := [.ok []], writes := [] } } with hc0
  have hread : c0.read = .ok (c', .ok ()) := hread
  have hsup : (h.supply a (closes_event a).answers).connections = h.connections.set a c0 := by
    simp only [Io.Handler.supply, hc, closes_event]
    rfl
  have hget : (h.supply a (closes_event a).answers).connections.get a = some c0 := by
    rw [hsup, Slab.get_set_self hc]
  have hready : (readable.and c0.events).is_readable = true := by
    rw [show c0.events = readable from hr.events]
    rfl
  have hlt := hs.sound.lt_system (Slab.get_lt_capacity hc)
  constructor
  · have hcalls : messages c0.handler.calls = 0 := by
      rw [show c0.handler.calls = [] from hr.calls]
      rfl
    simp only [told, closes_event] at hget ⊢
    rw [hget]
    simp only [hready, if_true, hread, hmsg, hcalls]
  · set s := h.supply a (closes_event a).answers with hsdef
    have hget' : (s.put a c').connections.get a = some c' := get_put hget c'
    obtain ⟨conns, hrem⟩ := Slab.remove_isSome hget'
    have hsock : s.handle_socket a readable = .ok { s.put a c' with
        connections := conns
        factory := Factory.connection_lost s.factory c'.handler } := by
      have hw : (readable.and c'.events).is_writable = false := rfl
      have hwants : (c'.events.is_readable || c'.events.is_writable) = false := by
        rw [hev]
        rfl
      simp only [Io.Handler.handle_socket, Io.Handler.attempt, at_slot_ok hget, ok_bind, hready,
        if_true, hread, at_slot_ok hget', hw, Bool.false_eq_true, if_false, Io.Handler.check_active,
        hwants, Io.Handler.lose, hrem]
      rfl
    have hin : h.input (.event (closes_event a)) = .ok { s.put a c' with
        connections := conns
        factory := Factory.connection_lost s.factory c'.handler } := by
      refine Eq.trans (Io.Handler.handle_event_slot s hlt readable) ?_
      exact hsock
    refine ⟨_, hin, ⟨step_sound hs.sound (s := .input (.event (closes_event a))) hin, hs.active,
      hs.listening, hs.bound, hs.commands, hs.allocatable, hs.settings⟩, fun t => ?_⟩
    have hgr := Slab.get_remove hrem t
    refine hgr.trans ?_
    by_cases hat : a = t
    · rw [if_pos hat, if_pos hat]
    · rw [if_neg hat, if_neg hat, Io.Handler.put, Slab.get_set_ne hat, hsup, Slab.get_set_ne hat]

/-- A slot gets a connection nothing has been heard of yet. -/
def Seated (h h' : Watched (Sender → M) M) : Prop :=
  ∃ tok c, h.connections.get tok = none ∧ Resting c ∧
    ∀ t, h'.connections.get t = if tok = t then some c else h.connections.get t

omit [Host] in
lemma Joined.seated {h h' : Watched (Sender → M) M} {tok : Token} {c : Connection (Recorded M)}
    (hj : Joined h h' tok c) : Seated h h' :=
  ⟨tok, c, Slab.get_vacant hj.vacant, ⟨hj.opened, hj.events, hj.calls, hj.data⟩, hj.get⟩

/-- A peer connects. -/
def accepts_event : Io.Event := ⟨ALL, readable, { accepts := [.ok .fresh] }⟩

/-- A peer that connects gets a slot, when there is one. -/
lemma accepts_turn {h : Watched (Sender → M) M} (hs : Serving settings k h) {i : Token}
    (hi : i < h.connections.capacity) (hfree : h.connections.get i = none) :
    ∃ g, h.input (.event accepts_event) = .ok g ∧ Serving settings k g ∧ Seated h g := by
  obtain ⟨tok, hv⟩ := Slab.exists_vacant hi hfree
  set s := h.supply ALL accepts_event.answers with hsdef
  have hsup : s.connections = h.connections := hs.sound.supply_slots (t := ALL) (by decide) _
  obtain ⟨l, hl⟩ := Option.isSome_iff_exists.mp hs.listening
  obtain ⟨g, hg, hstate⟩ := accept_ok (s := .fresh)
    (h := { s with poll := { s.poll with accepts := [] } }) (by rw [← hv]; exact congrArg _ hsup)
    rfl rfl (by rw [show s.settings = settings from hs.settings]; exact hs.allocatable)
  have hin : h.input (.event accepts_event) = .ok g := by
    refine Eq.trans (Io.Handler.handle_event_all s readable) ?_
    have hacc : s.poll.accept = ({ s.poll with accepts := [] }, .ok .fresh) := rfl
    have hlist : s.listener = some l := hl
    unfold Io.Handler.handle_listener
    rw [if_pos (show readable.is_readable = true from rfl)]
    split
    · rename_i hnone
      rw [hlist] at hnone
      cases hnone
    · rw [hacc]
      dsimp only
      rw [hg, ok_bind]
  have hk := accept_keeps hg
  refine ⟨g, hin, ⟨step_sound hs.sound (s := .input (.event accepts_event)) hin,
    hstate.trans hs.active, by rw [hk.listener]; exact hs.listening,
    by rw [hk.queue]; exact hs.bound,
    by rw [hk.queue]; exact hs.commands, hs.allocatable, hk.settings.trans hs.settings⟩, ?_⟩
  rcases accept_cases hg with ⟨err, herr, -⟩ | ⟨-, tok', c, hj | hj⟩
  · cases herr
  · obtain ⟨t, d, ht, hr, hget⟩ := Joined.seated hj
    have hsup' : ∀ t, s.connections.get t = h.connections.get t := fun t => by rw [hsup]
    exact ⟨t, d, (hsup' t).symm.trans ht, hr, fun t' => by rw [hget, ← hsup']⟩
  · obtain ⟨err, rest, hp⟩ := hj.answer
    cases hp

/-- The queue has a command, and the name it asks to connect to has an address that answers. -/
def takes_event : Io.Event :=
  ⟨QUEUE, readable, { resolves := [.ok [⟨"127.0.0.1:3013"⟩]], connects := [.ok .fresh] }⟩

/-- The event of the queue takes one of the commands, which gets another slot. -/
lemma takes_turn {h : Watched (Sender → M) M} (hs : Serving settings (k + 1) h) {i : Token}
    (hi : i < h.connections.capacity) (hfree : h.connections.get i = none) :
    ∃ g, h.input (.event takes_event) = .ok g ∧ Serving settings k g ∧ Seated h g := by
  obtain ⟨tok, hv⟩ := Slab.exists_vacant hi hfree
  set s := h.supply QUEUE takes_event.answers with hsdef
  have hsup : s.connections = h.connections := hs.sound.supply_slots (t := QUEUE) (by decide) _
  set q : SyncChannel := ⟨h.queue.bound, List.replicate k again⟩ with hq
  obtain ⟨g, hg, hstate⟩ := connect_ok (u := "") (h := { s with queue := q })
    (by rw [← hv]; exact congrArg _ hsup) rfl rfl rfl rfl
    (by rw [show s.settings = settings from hs.settings]; exact hs.allocatable)
  have hcmd : ({ s with queue := q } : Watched (Sender → M) M).handle_queue again = .ok g := by
    have hd : ({ s with queue := q } : Watched (Sender → M) M).handle_directed 0 0 (.Connect "") =
        .ok g := by
      simp only [Io.Handler.handle_directed, hg, ok_bind]
    unfold Io.Handler.handle_queue
    rw [if_neg (by decide), if_neg (by decide)]
    exact hd
  have htake : s.take_command = .ok g := by
    have hcmds : s.queue.commands = again :: List.replicate k again := hs.commands
    exact (Io.Handler.take_command_cons hcmds).trans hcmd
  have hin : h.input (.event takes_event) =
      .ok { g with poll := (g.poll.reregister QUEUE readable).1 } := by
    refine Eq.trans (Io.Handler.handle_event_queue s readable) ?_
    unfold Io.Handler.handle_commands
    rw [htake, ok_bind]
  have hk := connect_keeps hg
  refine ⟨_, hin, ⟨step_sound hs.sound (s := .input (.event takes_event)) hin,
    hstate.trans hs.active, (congrArg Option.isSome hk.listener).trans hs.listening,
    (congrArg SyncChannel.bound hk.queue).trans hs.bound, congrArg SyncChannel.commands hk.queue,
    hs.allocatable, hk.settings.trans hs.settings⟩, ?_⟩
  rcases connect_cases hg with ⟨err, -, herr, -⟩ | ⟨-, -, tok', c, hj⟩
  · cases herr
  · obtain ⟨t, d, ht, hr, hget⟩ := Joined.seated hj
    have hsup' : ∀ t, s.connections.get t = h.connections.get t := fun t => by rw [hsup]
    exact ⟨t, d, (hsup' t).symm.trans ht, hr, fun t' => (hget t').trans (by rw [← hsup'])⟩

omit [Host] in
lemma Serving.capacity {h : Watched (Sender → M) M} (hs : Serving settings k h) :
    h.connections.capacity = settings.max_connections := by
  rw [hs.sound.capacity, hs.settings]

omit [Host] in
/-- A server does not stop for want of connections. -/
lemma Serving.check_count {h : Watched (Sender → M) M} (hs : Serving settings k h) :
    h.check_count = h := by
  have hserver : h.is_client = false := by
    unfold Io.Handler.is_client
    obtain ⟨l, hl⟩ := Option.isSome_iff_exists.mp hs.listening
    rw [hl]
    rfl
  unfold Io.Handler.check_count
  rw [hserver]
  simp

/-- A command for which there is room. -/
lemma Serving.send {h : Watched (Sender → M) M} (hs : Serving settings k h)
    (hk : k < settings.max_connections * settings.queue_size) :
    Serving settings (k + 1) (h.send again) ∧ (h.send again).connections = h.connections := by
  have hsend : h.send again = { h with
      queue := ⟨h.queue.bound, h.queue.commands ++ [again]⟩ } := by
    unfold Io.Handler.send SyncChannel.send
    rw [hs.commands, List.length_replicate, hs.bound, if_pos hk]
  refine ⟨⟨step_sound hs.sound (s := .post again) rfl, ?_, ?_, ?_, ?_, hs.allocatable, ?_⟩, ?_⟩ <;>
    rw [hsend]
  · exact hs.active
  · exact hs.listening
  · exact hs.bound
  · rw [hs.commands, List.replicate_succ']
  · exact hs.settings

/-- What a busy server does between two polls: two peers close, each telling its handler to send
a command, another peer connects, and one command is taken. -/
def busy_batch (a b : Token) : List Turn :=
  [⟨closes_event a, [again]⟩, ⟨closes_event b, [again]⟩, ⟨accepts_event, []⟩, ⟨takes_event, []⟩]

/-- A server with two connections nothing has been heard of yet. -/
structure Busy (settings : Settings) (k : ℕ) (h : Watched (Sender → M) M) (a b : Token) : Prop where
  serving : Serving settings k h
  ne : a ≠ b
  first : ∃ c, h.connections.get a = some c ∧ Resting c
  second : ∃ c, h.connections.get b = some c ∧ Resting c

/-- The two messages of a busy batch. -/
lemma Busy.messages {h : Watched (Sender → M) M} {a b : Token} (hb : Busy settings k h a b)
    (hk : k < settings.max_connections * settings.queue_size) :
    ∃ g g', told h (closes_event a) = 1 ∧ h.input (.event (closes_event a)) = .ok g ∧
      g.queue.commands.length = k ∧ Serving settings (k + 1) (g.send again) ∧
      told (g.send again) (closes_event b) = 1 ∧
      (g.send again).input (.event (closes_event b)) = .ok g' ∧ Serving settings (k + 1) g' ∧
      g'.connections.get a = none ∧ g'.connections.get b = none := by
  obtain ⟨c, hc, hrc⟩ := hb.first
  obtain ⟨d, hd, hrd⟩ := hb.second
  obtain ⟨ht, g, hg, hs, hget⟩ := closes_turn hb.serving hc hrc
  obtain ⟨hs', hslots⟩ := hs.send hk
  have hd' : (g.send again).connections.get b = some d := by
    rw [hslots, hget, if_neg hb.ne, hd]
  obtain ⟨ht', g', hg', hs'', hget'⟩ := closes_turn hs' hd' hrd
  refine ⟨g, g', ht, hg, ?_, hs', ht', hg', hs'', ?_, ?_⟩
  · rw [hs.commands, List.length_replicate]
  · rw [hget', if_neg (Ne.symm hb.ne), hslots, hget, if_pos rfl]
  · rw [hget', if_pos rfl]

/-- A busy batch is one the poll can deliver. -/
lemma Busy.allowed {h : Watched (Sender → M) M} {a b : Token} (hb : Busy settings k h a b)
    (hk : k < settings.max_connections * settings.queue_size) : Allowed h (busy_batch a b) := by
  obtain ⟨g, g', ht, hg, -, -, ht', hg', -⟩ := hb.messages hk
  obtain ⟨c, hc, -⟩ := hb.first
  obtain ⟨d, hd, -⟩ := hb.second
  have hturn : turn h ⟨closes_event a, [again]⟩ = .ok (g.send again) :=
    run_cons.mpr ⟨g, hg, rfl⟩
  refine ⟨by rw [hb.serving.active]; rfl, ?_,
    fun _ => ⟨⟨takes_event, []⟩, by simp [busy_batch], rfl⟩,
    ?_⟩
  · have hall : SYSTEM < ALL := by decide
    have hqueue : SYSTEM < QUEUE := by decide
    have hne : ALL ≠ QUEUE := by decide
    have ha := hb.serving.sound.lt_system (Slab.get_lt_capacity hc)
    have hb' := hb.serving.sound.lt_system (Slab.get_lt_capacity hd)
    refine List.Nodup.filter _ ?_
    show [a, b, ALL, QUEUE].Nodup
    simp [hb.ne, hne, Nat.ne_of_lt (lt_trans ha hall), Nat.ne_of_lt (lt_trans ha hqueue),
      Nat.ne_of_lt (lt_trans hb' hall), Nat.ne_of_lt (lt_trans hb' hqueue)]
  · refine (along_cons hturn).mpr ⟨le_of_eq ht.symm, le_of_eq ht'.symm, fun _ _ => ?_⟩
    exact ⟨Nat.zero_le _, fun _ _ => ⟨Nat.zero_le _, fun _ _ => trivial⟩⟩

/-- While there is room for both commands, a busy batch leaves one more waiting. -/
lemma Busy.tick {h : Watched (Sender → M) M} {a b : Token} (hb : Busy settings k h a b)
    (hk : k + 2 ≤ settings.max_connections * settings.queue_size) :
    ∃ g a' b', tick h (busy_batch a b) = .ok g ∧ Busy settings (k + 1) g a' b' := by
  obtain ⟨g, g', -, hg, -, -, -, hg', hs, hna, hnb⟩ := hb.messages (by omega)
  obtain ⟨hs', hslots⟩ := hs.send (by omega)
  have hlt : a < settings.max_connections ∧ b < settings.max_connections := by
    obtain ⟨c, hc, -⟩ := hb.first
    obtain ⟨d, hd, -⟩ := hb.second
    rw [← hb.serving.capacity]
    exact ⟨Slab.get_lt_capacity hc, Slab.get_lt_capacity hd⟩
  obtain ⟨g3, hg3, hs3, tok, c, hfree, hrc, hget⟩ := accepts_turn hs' (i := a)
    (by rw [hs'.capacity]; exact hlt.1) (by rw [hslots]; exact hna)
  -- one of the two slots is still free
  obtain ⟨i, hi, hifree⟩ : ∃ i, i < settings.max_connections ∧ g3.connections.get i = none := by
    by_cases htok : tok = a
    · refine ⟨b, hlt.2, ?_⟩
      rw [hget, if_neg (by rw [htok]; exact hb.ne), hslots]
      exact hnb
    · refine ⟨a, hlt.1, ?_⟩
      rw [hget, if_neg htok, hslots]
      exact hna
  obtain ⟨g4, hg4, hs4, tok', c', hfree', hrc', hget'⟩ := takes_turn hs3 (i := i)
    (by rw [hs3.capacity]; exact hi) hifree
  have hne : tok ≠ tok' := fun e => by
    rw [← e, hget, if_pos rfl] at hfree'
    cases hfree'
  have hrun : Runs.run turn h (busy_batch a b) = .ok g4 :=
    run_cons.mpr ⟨g.send again, run_cons.mpr ⟨g, hg, rfl⟩, run_cons.mpr ⟨g'.send again,
      run_cons.mpr ⟨g', hg', rfl⟩, run_cons.mpr ⟨g3, run_cons.mpr ⟨g3, hg3, rfl⟩,
        run_cons.mpr ⟨g4, run_cons.mpr ⟨g4, hg4, rfl⟩, rfl⟩⟩⟩⟩
  refine ⟨g4, tok, tok', bind_eq_ok.mpr ⟨g4, hrun, by rw [hs4.check_count]⟩,
    ⟨hs4, hne, ⟨c, ?_, hrc⟩, ⟨c', ?_, hrc'⟩⟩⟩
  · rw [hget', if_neg (Ne.symm hne), hget, if_pos rfl]
  · rw [hget', if_pos rfl]

/-- The second command of a busy batch finds no room when one command was all there was room
for. -/
lemma Busy.waits {h : Watched (Sender → M) M} {a b : Token} (hb : Busy settings k h a b)
    (hk : k + 1 = settings.max_connections * settings.queue_size) :
    ¬ Flows settings h (busy_batch a b) := by
  obtain ⟨g, g', -, hg, -, hs, -, hg', hs', -⟩ := hb.messages (by omega)
  intro hflows
  have hturn : turn h ⟨closes_event a, [again]⟩ = .ok (g.send again) :=
    run_cons.mpr ⟨g, hg, rfl⟩
  have hroom := ((along_cons hturn).mp hflows).2.1 g' hg'
  have hlt : g'.queue.commands.length < settings.max_connections * settings.queue_size := hroom.1
  rw [hs'.commands, List.length_replicate] at hlt
  omega

/-- A peer that connects between two polls, while no command waits. -/
lemma accepts_tick {h : Watched (Sender → M) M} (hs : Serving settings 0 h) {i : Token}
    (hi : i < settings.max_connections) (hfree : h.connections.get i = none) :
    ∃ g, Allowed h [⟨accepts_event, []⟩] ∧ tick h [⟨accepts_event, []⟩] = .ok g ∧
      Serving settings 0 g ∧ Seated h g := by
  obtain ⟨g, hg, hsg, hseat⟩ := accepts_turn hs (by rw [hs.capacity]; exact hi) hfree
  refine ⟨g, ⟨by rw [hs.active]; rfl, ?_, fun hne => absurd hs.commands hne,
    ⟨Nat.zero_le _, fun _ _ => trivial⟩⟩, ?_, hsg, hseat⟩
  · exact List.Nodup.filter _ (List.nodup_singleton _)
  · exact bind_eq_ok.mpr ⟨g, run_cons.mpr ⟨g, run_cons.mpr ⟨g, hg, rfl⟩, rfl⟩,
      by rw [hsg.check_count]⟩

/-- A server starts, when its channel and its slab can be made. -/
lemma started_serving (hm : Io.Handler.Makeable settings) (ha : settings.Allocatable)
    (addr : SocketAddr) :
    ∃ h : Watched (Sender → M) M,
      Io.Handler.started (Ledger.blank fun _ => {}) settings (some addr) = .ok h ∧
        Serving settings 0 h ∧ ∀ t, h.connections.get t = none := by
  have hnew : (Io.Handler.started (Ledger.blank fun _ => {}) settings (some addr) :
      Except Panic (Watched (Sender → M) M)).isOk = true := by
    unfold Io.Handler.started
    rw [Io.Handler.new_of_makeable hm]
    rfl
  obtain ⟨h, hh⟩ := exists_of_isOk hnew
  have hf := Io.Handler.started_fresh hh
  refine ⟨h, hh, ⟨started_sound hh, hf.state, ?_, ?_, ?_, ha, hf.settings⟩, fun t => ?_⟩
  · rw [hf.listener]
    rfl
  · rw [hf.queue]
    rfl
  · rw [hf.queue]
    rfl
  · rw [hf.connections, Slab.get_with_capacity]

/-- A server with room for two connections gets as busy as its queue allows. -/
lemma exists_busy (hn : 2 ≤ settings.max_connections) {h : Watched (Sender → M) M}
    (hs : Serving settings 0 h) (hempty : ∀ t, h.connections.get t = none)
    (hk : k + 1 ≤ settings.max_connections * settings.queue_size) :
    ∃ batches g a b, Along tick Allowed h batches ∧ Runs.run tick h batches = .ok g ∧
      Busy settings k g a b := by
  induction k with
  | zero =>
    have h0 : (0 : ℕ) < settings.max_connections := lt_of_lt_of_le Nat.zero_lt_two hn
    have h1 : (1 : ℕ) < settings.max_connections := lt_of_lt_of_le Nat.one_lt_two hn
    obtain ⟨g, hall, hg, hsg, tok, c, -, hrc, hget⟩ := accepts_tick hs h0 (hempty 0)
    obtain ⟨i, hi, hine⟩ : ∃ i : ℕ, i < settings.max_connections ∧ tok ≠ i := by
      by_cases htok : tok = 0
      · exact ⟨1, h1, by rw [htok]; exact Nat.zero_ne_one⟩
      · exact ⟨0, h0, htok⟩
    have hfree : g.connections.get i = none := by
      rw [hget, if_neg hine]
      exact hempty i
    obtain ⟨g', hall', hg', hsg', tok', c', hfree', hrc', hget'⟩ := accepts_tick hsg hi hfree
    have hne : tok ≠ tok' := fun e => by
      rw [← e, hget, if_pos rfl] at hfree'
      cases hfree'
    refine ⟨[[⟨accepts_event, []⟩], [⟨accepts_event, []⟩]], g', tok, tok',
      (along_cons hg).mpr ⟨hall, hall', fun _ _ => trivial⟩,
      run_cons.mpr ⟨g, hg, run_cons.mpr ⟨g', hg', rfl⟩⟩, hsg', hne, ⟨c, ?_, hrc⟩, ⟨c', ?_, hrc'⟩⟩
    · rw [hget', if_neg (Ne.symm hne), hget, if_pos rfl]
    · rw [hget', if_pos rfl]
  | succ k ih =>
    obtain ⟨batches, g, a, b, hall, hrun, hb⟩ := ih (by omega)
    obtain ⟨g', a', b', hg', hb'⟩ := hb.tick (by omega)
    refine ⟨batches ++ [busy_batch a b], g', a', b', along_append.mpr ⟨hall, fun t ht => ?_⟩,
      run_snoc.mpr ⟨g, hrun, hg'⟩, hb'⟩
    rw [hrun] at ht
    cases ht
    exact ⟨hb.allowed (by omega), fun _ _ => trivial⟩

/-- **When a handler can send from the loop's own thread.** In every run of every server no command
has to wait, exactly when there is one slot only, or the server or the buffers of its connections
cannot be made at all. In any run, none has to wait when every batch queues at most one command. -/
theorem never_waits_iff (settings : Settings) (hq : 2 ≤ settings.queue_size)
    (hm : 1 ≤ settings.max_connections) :
    (NeverWaits settings ↔ settings.max_connections = 1 ∨ ¬ Io.Handler.Makeable settings ∨
        ¬ settings.Allocatable) ∧
      ∀ (F H : Type) [Factory F H] [Handler H] (inner : F) (addr : SocketAddr) (h : Watched F H)
        (batches : List (List Turn)),
        Io.Handler.started (Ledger.blank inner) settings (some addr) = .ok h →
          Along tick (fun g batch => Allowed g batch ∧
            (batch.map fun t => t.sends.length).sum ≤ 1) h batches →
          Along tick (Flows settings) h batches := by
  have h2 : 2 ≤ settings.max_connections * settings.queue_size :=
    le_trans hq (Nat.le_mul_of_pos_left _ hm)
  refine ⟨⟨fun hall => ?_, ?_⟩, ?_⟩
  · by_contra hne
    rw [not_or, not_or, not_not, not_not] at hne
    obtain ⟨hone, hmade, ha⟩ := hne
    obtain ⟨h, hh, hs, hempty⟩ := started_serving hmade ha ⟨""⟩
    obtain ⟨batches, g, a, b, hallowed, hrun, hbusy⟩ := exists_busy (by omega) hs hempty
      (k := settings.max_connections * settings.queue_size - 1) (by omega)
    have hflows := hall _ _ (fun _ => {}) ⟨""⟩ h (batches ++ [busy_batch a b]) hh
      (along_append.mpr ⟨hallowed, fun t ht => by
        rw [hrun] at ht
        cases ht
        exact ⟨hbusy.allowed (by omega), fun _ _ => trivial⟩⟩)
    exact hbusy.waits (by omega) (hflows.at hrun)
  · rintro (hone | hno | hno) F H _ _ inner addr h batches hh hallowed
    · have hf := Io.Handler.started_fresh hh
      refine flows_of_one h2 (by rw [hf.queue]; rfl) (by rw [hf.queue]; exact Nat.zero_le _) ?_
      refine hallowed.mono_inv (I := fun g => g.connections.capacity = 1)
        (fun g batch g' hg _ ht => ?_)
        (fun g batch hg ha => ⟨ha, first, one_slot hg ha.2⟩) ?_
      · obtain ⟨k, hk, hcount⟩ := bind_eq_ok.mp ht
        cases hcount
        rw [(check_count_keeps k).capacity]
        exact run_inv_true (fun _ _ _ hc hs => (turn_capacity hs).trans hc) hg hk
      · rw [hf.connections, Slab.with_capacity_capacity, hone]
    · -- there is no server
      obtain ⟨g, hg, -⟩ := bind_eq_ok.mp hh
      exact absurd (Io.Handler.new_eq_ok hg).1 hno
    · -- there is never a connection
      have hf := Io.Handler.started_fresh hh
      have hbarren : Barren h :=
        ⟨by rw [hf.settings]; exact hno, fun t => by rw [hf.connections, Slab.get_with_capacity]⟩
      refine flows_of_one h2 (by rw [hf.queue]; rfl) (by rw [hf.queue]; exact Nat.zero_le _) ?_
      exact hallowed.mono_inv (I := Barren) (fun _ _ _ hg _ ht => tick_barren hg ht)
        (fun g batch hg ha => ⟨ha, fun _ => 0, hg.silent ha.2, by simp⟩) hbarren
  · intro F H _ _ inner addr h batches hh hall
    have hf := Io.Handler.started_fresh hh
    refine flows_of_one h2 (by rw [hf.queue]; rfl) (by rw [hf.queue]; exact Nat.zero_le _) ?_
    exact hall.mono fun g batch ha => ⟨ha.1, fun t => t.sends.length,
      (along_true g batch).mono fun _ _ _ => le_refl _, ha.2⟩

end Busy

/-- With one slot the smallest queue will do. -/
theorem never_waits_one_slot : @NeverWaits plain { max_connections := 1, queue_size := 2 } :=
  (@never_waits_iff plain { max_connections := 1, queue_size := 2 } (by decide)
    (by decide)).1.mpr (Or.inl rfl)

/-- A peer says something, and the handler sends it back. -/
def echoes (token : Token) (connection_id : UInt32) : Turn :=
  ⟨⟨token, readable, { reads := [.ok [97]] }⟩, [Sender.send ⟨token, connection_id⟩ (.text "a")]⟩

/-- Two peers connect, and go on saying something. -/
def two_echoes : List (List Turn) :=
  [[⟨accepts_event, []⟩], [⟨accepts_event, []⟩], [echoes 0 0, echoes 1 1],
    [echoes 0 0, echoes 1 1, ⟨⟨QUEUE, readable, {}⟩, []⟩],
    [echoes 0 0, echoes 1 1, ⟨⟨QUEUE, readable, {}⟩, []⟩]]

/-- A server with two slots. -/
def two_slots : Settings := { max_connections := 2, queue_size := 2 }

/-- Two peers that go on saying something fill the queue of a server that sends it back. -/
theorem two_echoes_wait :
    ∃ h, serve two_slots [] = .ok h ∧
      Along (@tick _ _ _ _ plain) (@Allowed _ _ _ _ plain) h two_echoes ∧
      ¬ Along (@tick _ _ _ _ plain) (@Flows _ _ _ _ plain two_slots) h two_echoes := by
  have hrun : Returns (serve two_slots []) fun h =>
      @decide (Along (@tick _ _ _ _ plain) (@Allowed _ _ _ _ plain) h two_echoes)
        (@decidableAlong _ _ _ _ _ (@instDecidableAllowed _ _ _ _ plain) _ _) = true ∧
      @decide (Along (@tick _ _ _ _ plain) (@Flows _ _ _ _ plain two_slots) h two_echoes)
        (@decidableAlong _ _ _ _ _ (@instDecidableFlows _ _ _ _ plain two_slots) _ _) =
          false := by
    decide +kernel
  obtain ⟨h, hh, hallowed, hflows⟩ := hrun
  exact ⟨h, hh, of_decide_eq_true hallowed, of_decide_eq_false hflows⟩

end XnetSocket.Backlog
