import XnetSocket.Backlog
import XnetSocket.Independence

/-!
A server that sends back what it is told.

The handler of the example server answers every message with the same message, by the sender its
connection was made with. Then every byte that a connection receives is, in order, yet to be heard,
on its way through the queue, yet to be written, or has been written.
-/

namespace XnetSocket.Echo

open Buffer Runs Connection Lifecycle Evolution Custody Touches Deeds Outbound Chunking Phantom
open Streams Queueing Delivery Network Passage Backlog Independence

variable {F H : Type}

/-- The message of a callback. -/
def message : Callback → Option Message
  | .on_message msg => some msg
  | _ => none

/-- What the handler of `c` has been told by the time it is that of `e`. -/
def told_since (c e : Connection (Recorded H)) : List Message :=
  (e.handler.calls.drop c.handler.calls.length).filterMap message

/-- A command is queued. -/
def is_post : Io.Step → Bool
  | .input (.send _) => true
  | _ => false

section Runs

variable [Factory F H] [Handler H] [Host] {h g h' : Watched F H}

/-- What is sent back in a step. -/
def echoes (h : Watched F H) : Io.Step → List Command
  | .input (.event evt) =>
    match h.connections.get evt.token with
    | none => []
    | some c =>
      match exchange evt.kind (supplied evt c) with
      | .ok e => (told_since c e).map (sender c).send
      | .error _ => []
  | _ => []

/-- A step, and what is sent back meanwhile. -/
def answered (h : Watched F H) (s : Io.Step) : List Io.Step := s :: (echoes h s).map .post

def echo (h : Watched F H) (s : Io.Step) : Except Panic (Watched F H) :=
  run Io.Handler.step h (answered h s)

/-- Nobody else sends anything, and there is room in the queue for what is sent back. -/
def Fits (h : Watched F H) (s : Io.Step) : Prop :=
  is_post s = false ∧ Holds (h.step s) fun g =>
    g.queue.commands.length + (echoes h s).length ≤ g.queue.bound

instance decidableFits (h : Watched F H) (s : Io.Step) : Decidable (Fits h s) :=
  inferInstanceAs (Decidable (_ ∧ Holds _ _))

/-! ### One step -/

omit [Factory F H] [Handler H] [Host] in
lemma filterMap_message (calls : List Callback) :
    (calls.filterMap message).flatMap Message.into_data = delivered calls := by
  induction calls with
  | nil => rfl
  | cons call calls ih =>
    cases call with
    | on_message msg => exact congrArg (msg.into_data ++ ·) ih
    | _ => exact ih

omit [Factory F H] [Handler H] [Host] in
/-- What is sent back to a connection is what its handler was told. -/
lemma letters_own (c e : Connection (Recorded H)) :
    ((told_since c e).map (sender c).send).flatMap (letter (sender c)) =
      delivered (e.handler.calls.drop c.handler.calls.length) := by
  rw [List.flatMap_map, ← filterMap_message]
  refine List.flatMap_congr fun msg _ => ?_
  simp [letter, Sender.send, addressed]

omit [Factory F H] [Handler H] [Host] in
/-- It is for no other connection. -/
lemma letters_other {s : Sender} {c : Connection (Recorded H)} (hne : c.token ≠ s.token)
    (hall : c.token ≠ ALL) (msgs : List Message) :
    (msgs.map (sender c).send).flatMap (letter s) = [] := by
  rw [List.flatMap_map, List.flatMap_eq_nil_iff]
  intro msg _
  simp [letter, Sender.send, addressed, sender, hne, hall]

/-- An event of a connection: what its handler is told is what is sent back to it, and nothing is
sent back to the others. -/
lemma event_echoes {evt : Io.Event} (hs : Sound h) (hb : AllBuffered h)
    (hst : h.input (.event evt) = .ok g) {x : Connection (Recorded H)}
    (hc : h.connections.get evt.token = some x) :
    Stems (fun c c' => delivered c'.handler.calls = delivered c.handler.calls ++
      (echoes h (.input (.event evt))).flatMap (letter (sender c))) h g := by
  have hlt : evt.token < SYSTEM := hs.lt_system (Slab.get_lt_capacity hc)
  obtain ⟨⟨o, lost⟩, hr, hslots, -⟩ := (on_socket_outcome hb.opened hlt).of_left hst
  obtain ⟨queue, timer, hk⟩ := step_keeps (s := .input (.event evt)) hst
  refine ⟨hk.made.length_le, fun t c' hc' => Or.inl ?_⟩
  rw [hslots] at hc'
  split at hc'
  · rename_i htok
    obtain rfl : o = some c' := hc'
    have hex := outcome_stays (hc ▸ hr)
    have hev : Evolves (supplied evt x) c' :=
      exchange_evolves (Or.imp id id (hb _ x hc).opened) hex
    refine ⟨x, htok ▸ hc, hev.birth, ?_⟩
    obtain ⟨more, hmore⟩ := hev.calls
    have hcalls : c'.handler.calls = x.handler.calls ++ more := hmore.symm
    simp only [echoes, hc, hex, letters_own, hcalls, List.drop_left, delivered_append]
  · rename_i htok
    refine ⟨c', hc', rfl, ?_⟩
    have hx : x.token = evt.token := hs.token _ x hc
    have hother : (echoes h (.input (.event evt))).flatMap (letter (sender c')) = [] := by
      simp only [echoes, hc]
      split
      · refine letters_other ?_ ?_ _
        · show x.token ≠ c'.token
          rw [hx, hs.token t c' hc']
          exact htok
        · rw [hx]
          exact Nat.ne_of_lt (hlt.trans (by decide))
      · rfl
    rw [hother, List.append_nil]

/-- **One step**: what each handler is told is what is sent back to it. -/
lemma step_echoes {s : Io.Step} (hs : Sound h) (hb : AllBuffered h) (hst : h.step s = .ok g) :
    Stems (fun c c' => delivered c'.handler.calls =
      delivered c.handler.calls ++ (echoes h s).flatMap (letter (sender c))) h g := by
  by_cases hn : ∀ evt, s = .input (.event evt) → h.connections.get evt.token = none
  · -- nobody is there to hear anything
    have hquiet := quiet_deeds hst hn
    have hmute : Stems Mute h g :=
      Path.stems (step_path hb.opened hst) (fun _ => ⟨rfl, rfl, rfl⟩)
        (fun _ _ _ => Mute.trans) hb.opened
        fun _ hd _ _ _ ht => touch_mute ht fun he => hquiet.1 (he ▸ hd)
    have hnone : echoes h s = [] := by
      unfold echoes
      split
      · rw [hn _ rfl]
      · rfl
    refine Stems.imp hmute fun t c c' _ _ hm => ?_
    rw [hnone, List.flatMap_nil, List.append_nil, ← texts_flatten, hm.texts, texts_flatten]
  · push Not at hn
    obtain ⟨evt, rfl, hslot⟩ := hn
    obtain ⟨x, hc⟩ := Option.ne_none_iff_exists'.mp hslot
    exact event_echoes hs hb hst hc

/-- What the queue gives out, and what is left in it, was there before. -/
lemma letters_waiting {s : Io.Step} (hp : is_post s = false) (hst : h.step s = .ok g)
    (x : Sender) : letters x h s ++ waiting x g = waiting x h := by
  have hqueued : queued h s = [] := by
    rcases s with (cmd | evt) | _ | _
    · cases hp
    all_goals rfl
  have hline := @run_line _ _ _ _ _ _ _ [s] (run_cons.mpr ⟨g, hst, rfl⟩)
  rw [account_cons hst, account_cons hst, account_nil, account_nil, hqueued] at hline
  simp only [List.append_nil] at hline
  unfold letters waiting
  rw [← List.flatMap_append, hline]

/-! ### Many steps -/

/-- What has become of a connection: its handler was told something, and the mail it took, with what
waits for it in the queue, is what waited there and what it was told. -/
structure Echoed (h h' : Watched F H) (c c' : Connection (Recorded H)) : Prop where
  sender : sender c' = sender c
  echoed : ∃ told mail, delivered c'.handler.calls = delivered c.handler.calls ++ told ∧
    mail ++ waiting (Delivery.sender c) h' = waiting (Delivery.sender c) h ++ told ∧ Posts mail c c'
  hears : ∃ received, Hears c c' received

omit [Factory F H] [Handler H] [Host] in
lemma Echoed.trans {c d e : Connection (Recorded H)} (hcd : Echoed h g c d)
    (hde : Echoed g h' d e) : Echoed h h' c e := by
  obtain ⟨told, mail, htold, hmail, hposts⟩ := hcd.echoed
  obtain ⟨told', mail', htold', hmail', hposts'⟩ := hde.echoed
  obtain ⟨r, hr⟩ := hcd.hears
  obtain ⟨r', hr'⟩ := hde.hears
  rw [hcd.sender] at hmail'
  refine ⟨hde.sender.trans hcd.sender, ⟨told ++ told', mail ++ mail', ?_, ?_,
    hposts.trans hposts'⟩, r ++ r', hr.trans hr'⟩
  · rw [htold', htold, List.append_assoc]
  · rw [List.append_assoc, hmail', ← List.append_assoc, hmail, List.append_assoc]

/-- **One step of the server**, with what is sent back. -/
theorem echo_echoed {s : Io.Step} (hs : Sound h) (hb : AllBuffered h) (hfit : Fits h s)
    (he : echo h s = .ok h') :
    (Sound h' ∧ AllBuffered h') ∧ Stems (Echoed h h') h h' := by
  obtain ⟨g, hg, hr⟩ := run_cons.mp he
  rw [Io.Handler.run_posts (hfit.2 g hg)] at hr
  cases hr
  have hall := Stems.and (step_sender hb hg) (Stems.and (step_posts hs hb hg)
    (Stems.and (step_echoes hs hb hg) (step_hears hb hg)))
  have hbg : AllBuffered g := step_buffered hb hg
  refine ⟨⟨(step_sound hs hg).of_keeps (.refl _), hbg⟩, ?_⟩
  have hechoed := Stems.imp (Q := Echoed h { g with
      queue := ⟨g.queue.bound, g.queue.commands ++ echoes h s⟩ }) hall
    fun t c c' _ _ ⟨hsender, hposts, htold, hhears⟩ => ?_
  · exact ⟨hechoed.made, hechoed.slots⟩
  · refine ⟨hsender, ⟨_, _, htold, ?_, hposts⟩, hhears⟩
    rw [← letters_waiting hfit.1 hg (Delivery.sender c), List.append_assoc]
    exact congrArg _ List.flatMap_append

lemma run_echoed {steps : List Io.Step} (hs : Sound h) (hb : AllBuffered h)
    (hfit : Along echo Fits h steps) (hr : run echo h steps = .ok h') :
    Stems (Echoed h h') h h' := by
  have hinv : (Sound h' ∧ AllBuffered h') ∧ Stems (Echoed h h') h h' := by
    refine run_inv (G := Fits)
      (I := fun g => (Sound g ∧ AllBuffered g) ∧ Stems (Echoed h g) h g)
      (fun g s g' hg hf he => ?_) ⟨⟨hs, hb⟩, .refl (fun c => ⟨rfl, ?_, ?_⟩) h⟩ hfit hr
    · obtain ⟨hsound, hstep⟩ := echo_echoed hg.1.1 hg.1.2 hf he
      exact ⟨hsound, Stems.comp hg.2 hstep fun c d e => Echoed.trans⟩
    · exact ⟨[], [], by simp, by simp, Idles.posts (.refl c)⟩
    · exact ⟨[], by simp, by simp, by simp, id⟩
  exact hinv.2

/-- **Everything received comes back, in order, each byte once.** From any reached state on, while a
server sends back what its handlers are told and there is room for that in the queue, what a
connection has written and has yet to write, what waits in the queue for it, and what it has yet to
hear, grow together by exactly what its socket receives, as long as it is open. Once it is closing
it writes nothing but what waited for it or it has been told, in order. -/
theorem echoes_back {inner : F} {settings : Settings} {addr : Option SocketAddr}
    {front back : List Io.Step}
    (hs : Io.Handler.execute (Ledger.blank inner) settings addr front = .ok h)
    (hfit : Along echo Fits h back) (hr : run echo h back = .ok h') {t t' : Token}
    {c c' : Connection (Recorded H)} (hc : h.connections.get t = some c)
    (hc' : h'.connections.get t' = some c') (hb : c'.handler.birth = c.handler.birth) :
    ∃ received, c'.socket.received = c.socket.received ++ received ∧
      (c'.state = .Open →
        c'.socket.sent ++ c'.out_buffer.bytes ++ waiting (sender c) h' ++ c'.in_buffer.bytes =
          c.socket.sent ++ c.out_buffer.bytes ++ waiting (sender c) h ++ c.in_buffer.bytes ++
            received) ∧
      ∃ told, delivered c'.handler.calls = delivered c.handler.calls ++ told ∧
        (told ++ c'.in_buffer.bytes).Sublist (c.in_buffer.bytes ++ received) ∧
        c'.socket.sent ++ c'.out_buffer.bytes <+:
          c.socket.sent ++ c.out_buffer.bytes ++ waiting (sender c) h ++ told := by
  have hsound := execute_sound hs
  have hechoed := (run_echoed hsound (execute_buffered hs) hfit hr).of_birth
    hsound.numbered.accounted hc hc' hb
  obtain ⟨-, -, ⟨told, mail, htold, hmail, hposts⟩, received, hhears⟩ := hechoed
  obtain ⟨took, htook, hpre, hopen, -⟩ := hposts.took
  have htook : c'.socket.sent ++ c'.out_buffer.bytes =
      c.socket.sent ++ c.out_buffer.bytes ++ took := htook
  have hheard : heard c' = delivered c.handler.calls ++ (told ++ c'.in_buffer.bytes) := by
    rw [heard, htold, List.append_assoc]
  refine ⟨received, hhears.received, fun ho => ?_, told, htold, ?_, ?_⟩
  · have hnew : told ++ c'.in_buffer.bytes = c.in_buffer.bytes ++ received := by
      have hex := hhears.exact ho
      rw [hheard, heard, List.append_assoc] at hex
      exact List.append_cancel_left hex
    calc c'.socket.sent ++ c'.out_buffer.bytes ++ waiting (sender c) h' ++ c'.in_buffer.bytes
      _ = c.socket.sent ++ c.out_buffer.bytes ++ (mail ++ waiting (sender c) h') ++
            c'.in_buffer.bytes := by rw [htook, hopen ho, List.append_assoc _ mail]
      _ = c.socket.sent ++ c.out_buffer.bytes ++ waiting (sender c) h ++
            (told ++ c'.in_buffer.bytes) := by rw [hmail]; simp only [List.append_assoc]
      _ = _ := by rw [hnew]; simp only [List.append_assoc]
  · have hsub := hhears.sublist
    rw [hheard, heard, List.append_assoc] at hsub
    exact (List.append_sublist_append_left _).mp hsub
  · rw [htook, List.append_assoc _ (waiting _ _), ← hmail]
    exact (List.prefix_append_right_inj _).mpr (hpre.trans (List.prefix_append _ _))

end Runs

def echo_on (h : Watched (Sender → M) M) (s : Io.Step) : Except Panic (Watched (Sender → M) M) :=
  @echo _ _ _ _ plain h s

def fits_on (h : Watched (Sender → M) M) (s : Io.Step) : Prop := @Fits _ _ _ _ plain h s

instance (h : Watched (Sender → M) M) (s : Io.Step) : Decidable (fits_on h s) :=
  @decidableFits _ _ _ _ plain h s

/-- The peer sends three bytes in two parts; the first two come back, and the socket takes one. -/
def comes_back : List Io.Step :=
  [.on 0 readable { reads := [.ok [104, 105]] }, .check_count, takes_command,
    .on 0 writable { writes := [.ok 1] }, .on 0 readable { reads := [.ok [33]] }]

/-- Of the first connection: its number, whether it is open, what it has written, what it has yet to
write, and what waits for it. -/
def first_output (h : Watched (Sender → M) M) : Option (ℕ × Bool × Bytes × Bytes × Bytes) :=
  (h.connections.get 0).map fun c =>
    (c.handler.birth, c.state.is_open, c.socket.sent, c.out_buffer.bytes, waiting ⟨0, 0⟩ h)

def Outputs (h : Watched (Sender → M) M) (output : ℕ × Bool × Bytes × Bytes × Bytes) : Prop :=
  first_output h = some output

instance (h : Watched (Sender → M) M) (output : ℕ × Bool × Bytes × Bytes × Bytes) :
    Decidable (Outputs h output) :=
  inferInstanceAs (Decidable (_ = _))

theorem echoes_back_hi :
    ∃ (h h' : Watched (Sender → M) M) (c c' : Connection (Recorded M)),
      serve {} one_peer = .ok h ∧ run echo_on h comes_back = .ok h' ∧
      h.connections.get 0 = some c ∧ h'.connections.get 0 = some c' ∧ c'.socket.sent = [104] ∧
      c'.out_buffer.bytes = [105] ∧ waiting ⟨0, 0⟩ h' = [33] ∧
      ∃ received, c'.socket.received = c.socket.received ++ received ∧
        c'.socket.sent ++ c'.out_buffer.bytes ++ waiting (sender c) h' ++ c'.in_buffer.bytes =
          c.socket.sent ++ c.out_buffer.bytes ++ waiting (sender c) h ++ c.in_buffer.bytes ++
            received := by
  have hrun : Returns (serve {} one_peer) fun h =>
      Along echo_on fits_on h comes_back ∧ Outputs h (0, true, [], [], []) ∧
      Returns (run echo_on h comes_back) fun h' => Outputs h' (0, true, [104], [105], [33]) := by
    decide +kernel
  obtain ⟨h, hs, hfit, hc, h', hr, hc'⟩ := hrun
  obtain ⟨c, hc, hb⟩ := Option.map_eq_some_iff.mp hc
  obtain ⟨c', hc', hout⟩ := Option.map_eq_some_iff.mp hc'
  simp only [Prod.mk.injEq] at hb hout
  obtain ⟨hb', hopen, hsent, hwrite, hwait⟩ := hout
  obtain ⟨received, hrec, hback, -⟩ := @echoes_back _ _ _ _ plain h h' _ _ _ _ _ hs hfit hr
    _ _ _ _ hc hc' (hb'.trans hb.1.symm)
  exact ⟨h, h', c, c', hs, hr, hc, hc', hsent, hwrite, hwait, received, hrec,
    hback (is_open_iff.mp hopen)⟩

end XnetSocket.Echo
