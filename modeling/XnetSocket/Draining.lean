import XnetSocket.Interest
import XnetSocket.Lingering
import XnetSocket.Passage
import XnetSocket.Independence

/-!
How output drains.

A connection that has something to be written wants to write, so an event that finds its socket
ready writes some of it. Each time the socket takes something it takes the next of what is to be
written; once it has done so as often as there were bytes, all of these have been written.
-/

namespace XnetSocket.Draining

open Buffer Runs Connection Inbound Outbound Lifecycle Evolution Custody Touches Deeds Interest
open Chunking Lingering Streams Queueing Delivery Network Passage Independence

variable {F H : Type}

/-- A socket will take something. -/
def takes (writes : List (Except IoError ℕ)) : Bool :=
  match writes with
  | .ok (_ + 1) :: _ => true
  | _ => false

/-- An event that finds the socket in a slot ready for some more output. -/
def pushes (t : Token) : Io.Step → Bool
  | .input (.event evt) => evt.token = t && evt.kind.is_writable && takes evt.answers.writes
  | _ => false

/-- Since it was `c` the connection has written a front part of its output and of what was added to
that, and `n` bytes of it at least, if there were as many. -/
def Drained (n : ℕ) (c c' : Connection H) : Prop :=
  ∃ written more, c'.socket.sent = c.socket.sent ++ written ∧
    written ++ c'.out_buffer.bytes = c.out_buffer.bytes ++ more ∧
    min n c.out_buffer.bytes.length ≤ written.length

lemma Drained.refl (c : Connection H) : Drained 0 c c := ⟨[], [], by simp, by simp, by simp⟩

lemma Drained.trans {n m : ℕ} {c d e : Connection H} (hcd : Drained n c d) (hde : Drained m d e) :
    Drained (n + m) c e := by
  obtain ⟨w, more, hsent, hout, hlen⟩ := hcd
  obtain ⟨w', more', hsent', hout', hlen'⟩ := hde
  refine ⟨w ++ w', more ++ more', ?_, ?_, ?_⟩
  · rw [hsent', hsent, List.append_assoc]
  · rw [List.append_assoc, hout', ← List.append_assoc, hout, List.append_assoc]
  · have hsum := congrArg List.length hout
    simp only [List.length_append] at hsum ⊢
    omega

/-- What was to be written has been, as far as it goes. -/
lemma Drained.written {n : ℕ} {c c' : Connection H} (h : Drained n c c') :
    ∃ written, c'.socket.sent = c.socket.sent ++ written ∧
      c.out_buffer.bytes.take n <+: written := by
  obtain ⟨w, more, hsent, hout, hlen⟩ := h
  have htake : c.out_buffer.bytes.take n <+: c.out_buffer.bytes ++ more :=
    (List.take_prefix _ _).trans (List.prefix_append _ _)
  refine ⟨w, hsent, List.prefix_of_prefix_length_le htake (hout ▸ List.prefix_append _ _) ?_⟩
  rw [List.length_take]
  exact hlen

/-! ### One event -/

section Connections

/-- A socket that will take something takes the next of it. -/
lemma try_write_takes {s : TcpStream} (hw : takes s.writes = true) (buf : Cursor UInt8) :
    ∃ n t out, s.try_write_buf buf = (t, out, .ok (some (min (n + 1) buf.bytes.length))) ∧
      t.sent = s.sent ++ buf.bytes.take (n + 1) := by
  unfold takes at hw
  split at hw
  · rename_i n rest hs
    refine ⟨n, ⟨s.reads, rest, s.log, s.sent ++ buf.bytes.take (n + 1)⟩,
      buf.advance (min (n + 1) buf.bytes.length), ?_, rfl⟩
    rw [TcpStream.try_write_buf, TcpStream.write, hs]
    rfl
  · cases hw

variable [Host]

lemma write_takes {c : Connection H} (ho : Opened c) (hw : takes c.socket.writes = true)
    (hp : Pending c) : c.write.2 = .ok () ∧
      c.socket.sent.length < c.write.1.socket.sent.length := by
  obtain ⟨n, t, out, htry, hsent⟩ := try_write_takes hw c.out_buffer
  have hgrown : c.socket.sent.length < t.sent.length := by
    have hpos := List.length_pos_of_ne_nil (pending_iff.mp hp)
    rw [hsent, List.length_append, List.length_take]
    omega
  have hn : c.socket.is_negotiating = false := rfl
  simp only [Connection.write, hn, ho.not_connecting, Bool.false_eq_true, if_false, htry]
  have hchecked : ∀ d : Connection H, d.socket = t →
      c.socket.sent.length < d.check_events.socket.sent.length := fun d hd => by
    rw [(check_events_calm d).socket, hd]
    exact hgrown
  split
  · split
    · exact ⟨rfl, hgrown⟩
    · exact ⟨rfl, hchecked _ rfl⟩
  · exact ⟨rfl, hchecked _ rfl⟩

variable [Handler H]

lemma read_writes {c c' : Connection H} {res : Result Unit} (h : c.read = .ok (c', res)) :
    c'.socket.writes = c.socket.writes := by
  rcases read_ok h with ⟨rfl, -⟩ | ⟨d, r, hb, hf⟩
  · rfl
  have hwrites := (buffer_in_loop_fills _ hb).writes
  have hdata : ∀ {e res}, d.read_data = (e, res) → e.socket.writes = c.socket.writes :=
    fun {e res} hx => by
      have hs := read_data_socket d
      rw [hx] at hs
      exact (congrArg TcpStream.writes hs).trans hwrites
  cases hf with
  | failed err => exact hwrites
  | blocked => exact hwrites
  | refused hx => exact hdata hx
  | handed hx => exact hdata hx
  | half_closed hx => exact (hdata hx :)
  | closed hx =>
    rw [(disconnect_calm _).socket]
    exact hdata hx

lemma reading_writes {events : Ready} {c d : Connection H} (h : reading events c = .ok d) :
    d.socket.writes = c.socket.writes := by
  unfold reading at h
  split at h
  · obtain ⟨⟨e, res⟩, hread, h⟩ := bind_eq_ok.mp h
    rcases res with err | u
    · rw [(error_calm (show e.error err = .ok d from h)).socket]
      exact read_writes hread
    · cases h
      exact read_writes hread
  · cases h
    rfl

/-- **An exchange writes** when there is output and the socket will take some of it, unless the
connection has lost all interest. -/
lemma exchange_writes {events : Ready} {c e : Connection (Recorded H)} (hb : Buffered c)
    (hm : Matched c) (hev : events.is_writable = true) (hw : takes c.socket.writes = true)
    (hp : Pending c) (he : exchange events c = .ok e) (ha : is_active e = true) :
    c.socket.sent.length < e.socket.sent.length := by
  obtain ⟨d, hd, he⟩ := bind_eq_ok.mp he
  obtain ⟨-, hsent, hout⟩ := reading_log hb hd
  have hod : Opened d := reading_opened hb.opened hd
  have hmd : Matched d := by
    rcases (reading_meets hb.opened events).holds d hd with rfl | ht
    · exact hm
    · exact touch_matched hb.opened hm ht
  have hpd : Pending d := by
    unfold Pending
    rw [hout]
    exact hp
  rw [← reading_writes hd] at hw
  unfold writing at he
  rcases hmd.interest with hnone | hiff
  · -- nothing is written, and the connection is not kept
    rw [hnone, if_neg (by simp [Ready.and, Ready.empty, Ready.is_writable])] at he
    cases he
    rw [is_active, hnone] at ha
    cases ha
  · obtain ⟨hok, hlt⟩ := write_takes hod hw hpd
    have hready : (events.and d.events).is_writable = true :=
      Bool.and_eq_true_iff.mpr ⟨hev, hiff.mpr hpd⟩
    rw [if_pos hready, told, hok] at he
    cases he
    rw [← hsent]
    exact hlt

end Connections

/-! ### Many steps -/

section Loops

variable [Factory F H] [Handler H] [Host] {h h' : Watched F H}

/-- An event that finds a socket ready writes some of the output of its connection, if that
stays. -/
lemma pushed_writes {s : Io.Step} (hs : Sound h) (hb : AllBuffered h) (hm : AllMatched h)
    (hst : h.step s = .ok h') {t : Token} {c c' : Connection (Recorded H)}
    (hc : h.connections.get t = some c) (hc' : h'.connections.get t = some c')
    (hpush : pushes t s = true) (hp : Pending c) :
    c.socket.sent.length < c'.socket.sent.length := by
  unfold pushes at hpush
  split at hpush
  · rename_i evt
    simp only [Bool.and_eq_true, decide_eq_true_eq] at hpush
    obtain ⟨⟨rfl, hkind⟩, hw⟩ := hpush
    obtain ⟨⟨o, lost⟩, hr, hslots, -⟩ :=
      (on_socket_outcome hb.opened (hs.lt_system (Slab.get_lt_capacity hc))).of_left hst
    rw [hslots, if_pos rfl] at hc'
    obtain rfl : o = some c' := hc'
    rw [hc] at hr
    have hex := outcome_stays hr
    have hsup := touch_buffered (hb _ c hc) (.supply c evt.answers.reads evt.answers.writes)
    have hmat := touch_matched (hb _ c hc).opened (hm _ c hc)
      (.supply c evt.answers.reads evt.answers.writes)
    exact exchange_writes (c := supplied evt c) hsup.1 hmat hkind hw hp hex (outcome_active hr)
  · cases hpush

/-- **One step.** -/
theorem step_drains {s : Io.Step} (hs : Sound h) (hb : AllBuffered h) (hm : AllMatched h)
    (hst : h.step s = .ok h') :
    Stems (fun c c' => sender c' = sender c ∧
      Drained (if pushes c.token s then 1 else 0) c c') h h' := by
  have hall := Stems.and (step_sender hb hst)
    (Stems.and (step_posts hs hb hst) (step_carries hs hb hst))
  refine Stems.imp hall fun t c c' hc hc' ⟨hsender, hposts, hcarried⟩ => ⟨hsender, ?_⟩
  obtain ⟨took, hout, -⟩ := hposts.took
  refine ⟨wrote (traffic h s) c.handler.birth, took, hcarried.sent, ?_, ?_⟩
  · rw [outbound, outbound, Pipe.all, Pipe.all, hcarried.sent, List.append_assoc,
      List.append_assoc] at hout
    exact List.append_cancel_left hout
  · split
    · rename_i hpush
      rw [hs.token t c hc] at hpush
      by_cases hp : Pending c
      · have hlt := pushed_writes hs hb hm hst hc hc' hpush hp
        rw [hcarried.sent, List.length_append] at hlt
        omega
      · have hnone : c.out_buffer.bytes = [] := not_not.mp (mt pending_iff.mpr hp)
        rw [hnone]
        exact Nat.zero_le _
    · exact Nat.zero_le _

lemma step_matched {s : Io.Step} (ho : AllOpened h) (hm : AllMatched h) (ha : Admits h s)
    (hst : h.step s = .ok h') : AllMatched h' := by
  obtain ⟨ds, hds, hp⟩ := admitted_path ho ha hst
  have hboth := hp.inv (I := fun g => AllOpened g ∧ AllMatched g) (fun d hd g g' hact hg =>
    ⟨hact.opened hg.1, act_matched hact (fun he => hds (he ▸ hd)) hg.1 hg.2⟩) ⟨ho, hm⟩
  exact hboth.2

lemma run_matched {steps : List Io.Step} (ho : AllOpened h) (hm : AllMatched h)
    (ha : Along Io.Handler.step Admits h steps) (hr : run Io.Handler.step h steps = .ok h') :
    AllMatched h' := by
  have hboth := run_inv (I := fun g => AllOpened g ∧ AllMatched g) (fun g s g' hg hadm hs =>
    ⟨(step_path hg.1 hs).opened hg.1, step_matched hg.1 hg.2 hadm hs⟩) ⟨ho, hm⟩ ha hr
  exact hboth.2

omit [Factory F H] [Handler H] in
lemma started_matched {inner : F} {settings : Settings} {addr : Option SocketAddr}
    (hh : Io.Handler.started (Ledger.blank inner) settings addr = .ok h) : AllMatched h := by
  intro t c hc
  rw [(Io.Handler.started_fresh hh).connections, Slab.get_with_capacity] at hc
  cases hc

/-- **A run.** -/
theorem run_drains {steps : List Io.Step} (hs : Sound h) (hb : AllBuffered h) (hm : AllMatched h)
    (ha : Along Io.Handler.step Admits h steps) (hr : run Io.Handler.step h steps = .ok h') :
    Stems (fun c c' => sender c' = sender c ∧ Drained (steps.countP (pushes c.token)) c c')
      h h' := by
  induction steps generalizing h with
  | nil =>
    cases hr
    exact .refl (fun c => ⟨rfl, .refl c⟩) _
  | cons s steps ih =>
    obtain ⟨g, hg, hr⟩ := run_cons.mp hr
    obtain ⟨hadm, ha⟩ := (along_cons hg).mp ha
    refine Stems.comp (step_drains hs hb hm hg)
      (ih (step_sound hs hg) (step_buffered hb hg) (step_matched hb.opened hm hadm hg) ha hr)
      fun c d e hcd hde => ⟨hde.1.trans hcd.1, ?_⟩
    have htok : d.token = c.token := congrArg Sender.token hcd.1
    have hboth := hcd.2.trans hde.2
    rw [htok, Nat.add_comm] at hboth
    rw [List.countP_cons]
    exact hboth

/-- **Output drains.** In every run in which the poll watches every accepted peer, what a connection
has to be written in some state is written in order, and a byte of it at least each time that its
socket is found ready to take some; so all of it has been written once that was as often as it has
bytes, however the peers and the other connections interfere and whatever else is sent meanwhile. -/
theorem output_drains {inner : F} {settings : Settings} {addr : Option SocketAddr}
    {h₀ : Watched F H} {front back : List Io.Step}
    (hh : Io.Handler.started (Ledger.blank inner) settings addr = .ok h₀)
    (ha : Along Io.Handler.step Admits h₀ (front ++ back))
    (hf : run Io.Handler.step h₀ front = .ok h) (hr : run Io.Handler.step h back = .ok h')
    {t t' : Token} {c c' : Connection (Recorded H)} (hc : h.connections.get t = some c)
    (hc' : h'.connections.get t' = some c') (hb : c'.handler.birth = c.handler.birth) :
    ∃ written, c'.socket.sent = c.socket.sent ++ written ∧
      c.out_buffer.bytes.take (back.countP (pushes t)) <+: written := by
  have hexec : Io.Handler.execute (Ledger.blank inner) settings addr front = .ok h :=
    bind_eq_ok.mpr ⟨h₀, hh, hf⟩
  have hs : Sound h := execute_sound hexec
  obtain ⟨ha, hback⟩ := along_append.mp ha
  have hmatched := run_matched (started_opened hh) (started_matched hh) ha hf
  have hstems := run_drains hs (execute_buffered hexec) hmatched (hback h hf) hr
  obtain ⟨-, -, hdrained⟩ := hstems.of_birth hs.numbered.accounted hc hc' hb
  rw [hs.token t c hc] at hdrained
  exact hdrained.written

/-- What is to be written, and what waits in the queue, gets written. -/
lemma run_written {h₁ h₂ : Watched F H} {mid back : List Io.Step} (hs : Sound h)
    (hbuf : AllBuffered h) (hall : AllMatched h)
    (ha : Along Io.Handler.step Admits h (mid ++ back)) (hm : run Io.Handler.step h mid = .ok h₁)
    (hr : run Io.Handler.step h₁ back = .ok h₂) {t t₁ t₂ : Token}
    {c c₁ c₂ : Connection (Recorded H)} (hc : h.connections.get t = some c)
    (hc₁ : h₁.connections.get t₁ = some c₁) (hb₁ : c₁.handler.birth = c.handler.birth)
    (ho : c₁.state = .Open) (hc₂ : h₂.connections.get t₂ = some c₂)
    (hb₂ : c₂.handler.birth = c.handler.birth)
    (hq : h.queue.commands.length ≤ mid.countP serves_queue)
    (hp : c.out_buffer.bytes.length + (waiting (sender c) h).length ≤ back.countP (pushes t)) :
    c.socket.sent ++ c.out_buffer.bytes ++ waiting (sender c) h <+: c₂.socket.sent := by
  obtain ⟨hmid, hback⟩ := along_append.mp ha
  have hs₁ : Sound h₁ := run_inv_true (fun _ _ _ => step_sound) hs hm
  have hbuf₁ : AllBuffered h₁ := run_inv_true (fun _ _ _ => step_buffered) hbuf hm
  have hall₁ : AllMatched h₁ := run_matched hbuf.opened hall hmid hm
  -- it is handed to the connection
  have hstems := Stems.and (run_posts hs hbuf hm) (run_drains hs hbuf hall hmid hm)
  obtain ⟨rfl, ⟨hsender, hposts⟩, -, w₀, -, hsent₀, -⟩ :=
    hstems.of_birth hs.numbered.accounted hc hc₁ hb₁
  obtain ⟨took, hout, -, htook, -⟩ := hposts.took
  have hout : c₁.socket.sent ++ c₁.out_buffer.bytes =
      c.socket.sent ++ c.out_buffer.bytes ++ mail (sender c) h mid := htook ho ▸ hout
  -- and then written
  obtain ⟨-, -, w, more, hsent, hleft, hlen⟩ := (run_drains hs₁ hbuf₁ hall₁ (hback h₁ hm)
    hr).of_birth hs₁.numbered.accounted hc₁ hc₂ (hb₂.trans hb₁.symm)
  rw [hs₁.token _ c₁ hc₁] at hlen
  have hfirst : c.socket.sent ++ c.out_buffer.bytes ++ waiting (sender c) h <+:
      c₁.socket.sent ++ c₁.out_buffer.bytes :=
    hout ▸ (List.prefix_append_right_inj _).mpr (waiting_mail hm hq _)
  have hsecond : c₂.socket.sent <+: c₁.socket.sent ++ c₁.out_buffer.bytes ++ more := by
    rw [hsent, List.append_assoc, ← hleft, ← List.append_assoc]
    exact List.prefix_append _ _
  refine List.prefix_of_prefix_length_le (hfirst.trans (List.prefix_append _ _)) hsecond ?_
  have hbound := hfirst.length_le
  rw [hsent₀] at hbound
  rw [hsent, hsent₀]
  simp only [List.length_append] at hbound ⊢
  omega

/-- **What is queued is written.** In every run in which the poll watches every accepted peer, what
a connection has to be written in some state, and what then waits in the queue for it, has been
written once the queue has had as many events as there were commands in it, with the connection
still open, and then its socket has been found ready as often as these are bytes. -/
theorem queued_is_written {inner : F} {settings : Settings} {addr : Option SocketAddr}
    {h₀ h₁ h₂ : Watched F H} {front mid back : List Io.Step}
    (hh : Io.Handler.started (Ledger.blank inner) settings addr = .ok h₀)
    (ha : Along Io.Handler.step Admits h₀ (front ++ (mid ++ back)))
    (hf : run Io.Handler.step h₀ front = .ok h) (hm : run Io.Handler.step h mid = .ok h₁)
    (hr : run Io.Handler.step h₁ back = .ok h₂) {t t₁ t₂ : Token}
    {c c₁ c₂ : Connection (Recorded H)} (hc : h.connections.get t = some c)
    (hc₁ : h₁.connections.get t₁ = some c₁) (hb₁ : c₁.handler.birth = c.handler.birth)
    (ho : c₁.state = .Open) (hc₂ : h₂.connections.get t₂ = some c₂)
    (hb₂ : c₂.handler.birth = c.handler.birth)
    (hq : h.queue.commands.length ≤ mid.countP serves_queue)
    (hp : c.out_buffer.bytes.length + (waiting (sender c) h).length ≤ back.countP (pushes t)) :
    c.socket.sent ++ c.out_buffer.bytes ++ waiting (sender c) h <+: c₂.socket.sent := by
  have hexec : Io.Handler.execute (Ledger.blank inner) settings addr front = .ok h :=
    bind_eq_ok.mpr ⟨h₀, hh, hf⟩
  obtain ⟨hfront, hrest⟩ := along_append.mp ha
  have hall := run_matched (started_opened hh) (started_matched hh) hfront hf
  exact run_written (execute_sound hexec) (execute_buffered hexec) hall (hrest h hf) hm hr hc hc₁
    hb₁ ho hc₂ hb₂ hq hp

end Loops

/-- A peer connects, and four bytes are to be written to it. -/
def four_bytes : List Io.Step :=
  [accepts_peer, .post (Sender.send ⟨0, 0⟩ (.text "abcd")), takes_command]

/-- Its socket takes two of them, and one more after a message has been added. -/
def two_pushes : List Io.Step :=
  [.on 0 writable { writes := [.ok 2] }, .post (Sender.send ⟨0, 0⟩ (.text "e")), takes_command,
    .on 0 writable { writes := [.ok 1] }]

theorem output_drains_two_pushes :
    ∃ (h h' : Watched (Sender → M) M) (c c' : Connection (Recorded M)),
      serve {} four_bytes = .ok h ∧ run serve_on h two_pushes = .ok h' ∧
      h.connections.get 0 = some c ∧ h'.connections.get 0 = some c' ∧
      c'.out_buffer.bytes = [100, 101] ∧
      ∃ written, c'.socket.sent = c.socket.sent ++ written ∧
        c.out_buffer.bytes.take 2 <+: written := by
  have hrun : Returns (@Io.Handler.started _ (Recorded M) plain (Ledger.blank fun _ : Sender => {})
      {} (some ⟨"127.0.0.1:3012"⟩)) fun h₀ => Returns (run serve_on h₀ four_bytes) fun h =>
      (h.connections.get 0).map (fun c => c.handler.birth) = some 0 ∧
      Returns (run serve_on h two_pushes) fun h' => h'.poll.refused = h₀.poll.refused ∧
        (h'.connections.get 0).map (fun c => (c.handler.birth, c.out_buffer.bytes)) =
          some (0, [100, 101]) := by
    decide +kernel
  obtain ⟨h₀, hh, h, hf, hc, h', hr, hrefused, hc'⟩ := hrun
  obtain ⟨c, hc, hb⟩ := Option.map_eq_some_iff.mp hc
  obtain ⟨c', hc', hout⟩ := Option.map_eq_some_iff.mp hc'
  obtain ⟨hb', hout⟩ := Prod.mk.inj hout
  have ha := @along_admits _ _ _ _ plain h₀ h' (four_bytes ++ two_pushes)
    (@started_opened _ _ plain _ _ _ _ hh) (run_append.mpr ⟨h, hf, hr⟩) hrefused
  exact ⟨h, h', c, c', bind_eq_ok.mpr ⟨h₀, hh, hf⟩, hr, hc, hc', hout,
    @output_drains _ _ _ _ plain h h' _ _ _ h₀ _ _ hh ha hf hr 0 0 c c' hc hc'
      (hb'.trans hb.symm)⟩

/-- A peer connects, and something is sent to it. -/
def sends_hi : List Io.Step := [accepts_peer, .post (Sender.send ⟨0, 0⟩ (.text "hi"))]

/-- Its socket takes one byte at a time. -/
def byte_by_byte : List Io.Step :=
  [.on 0 writable { writes := [.ok 1] }, .on 0 writable { writes := [.ok 1] }]

/-- Of the first connection: its number, whether it is open, and what waits for it. -/
def First (h : Watched (Sender → M) M) (first : ℕ × Bool × ℕ × Bytes) : Prop :=
  (h.connections.get 0).map (fun c =>
    (c.handler.birth, c.state.is_open, c.out_buffer.bytes.length, waiting (sender c) h)) =
      some first

instance (h : Watched (Sender → M) M) (first : ℕ × Bool × ℕ × Bytes) : Decidable (First h first) :=
  inferInstanceAs (Decidable (_ = _))

theorem queued_is_written_byte_by_byte :
    ∃ (h h₂ : Watched (Sender → M) M) (c c₂ : Connection (Recorded M)),
      serve {} sends_hi = .ok h ∧ run serve_on h (takes_command :: byte_by_byte) = .ok h₂ ∧
      h.connections.get 0 = some c ∧ h₂.connections.get 0 = some c₂ ∧
      waiting (sender c) h = [104, 105] ∧
      c.socket.sent ++ c.out_buffer.bytes ++ waiting (sender c) h <+: c₂.socket.sent := by
  have hrun : Returns (@Io.Handler.started _ (Recorded M) plain (Ledger.blank fun _ : Sender => {})
      {} (some ⟨"127.0.0.1:3012"⟩)) fun h₀ => Returns (run serve_on h₀ sends_hi) fun h =>
      (First h (0, true, 0, [104, 105]) ∧ h.queue.commands.length = 1) ∧
      Returns (run serve_on h [takes_command]) fun h₁ => First h₁ (0, true, 2, []) ∧
        Returns (run serve_on h₁ byte_by_byte) fun h₂ => h₂.poll.refused = h₀.poll.refused ∧
          First h₂ (0, true, 0, []) := by
    decide +kernel
  obtain ⟨h₀, hh, h, hf, ⟨hc, hone⟩, h₁, hm, hc₁, h₂, hr, hrefused, hc₂⟩ := hrun
  obtain ⟨c, hc, hfirst⟩ := Option.map_eq_some_iff.mp hc
  obtain ⟨c₁, hc₁, hfirst₁⟩ := Option.map_eq_some_iff.mp hc₁
  obtain ⟨c₂, hc₂, hfirst₂⟩ := Option.map_eq_some_iff.mp hc₂
  simp only [Prod.mk.injEq] at hfirst hfirst₁ hfirst₂
  obtain ⟨hb, -, hlen, hwait⟩ := hfirst
  have ha := @along_admits _ _ _ _ plain h₀ h₂ (sends_hi ++ ([takes_command] ++ byte_by_byte))
    (@started_opened _ _ plain _ _ _ _ hh)
    (run_append.mpr ⟨h, hf, run_append.mpr ⟨h₁, hm, hr⟩⟩) hrefused
  refine ⟨h, h₂, c, c₂, bind_eq_ok.mpr ⟨h₀, hh, hf⟩, run_append.mpr ⟨h₁, hm, hr⟩, hc, hc₂, hwait,
    @queued_is_written _ _ _ _ plain h _ _ _ h₀ h₁ h₂ _ _ _ hh ha hf hm hr 0 0 0 c c₁ c₂ hc hc₁
      (hfirst₁.1.trans hb.symm) (is_open_iff.mp hfirst₁.2.1) hc₂ (hfirst₂.1.trans hb.symm) ?_ ?_⟩
  · rw [hone]
    decide
  · rw [hlen, hwait]
    decide

end XnetSocket.Draining
