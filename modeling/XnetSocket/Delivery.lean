import XnetSocket.Queueing
import XnetSocket.Streams

/-!
From the queue to the sockets.

A message that is taken out of the queue goes into the outputs of the connections it is for: those
in the slots when it is sent to all, and the one its sender was made for otherwise. So what an
open connection has written and has yet to write grows by these messages, in the order they are
handled, and by nothing else. A connection that has no room for a message is closed, and then its
output stays as it is.
-/

namespace XnetSocket.Delivery

open Buffer Runs Connection Lifecycle Evolution Custody Touches Deeds Outbound Handshake Streams
open Mildness Queueing DataPath

variable {F H : Type}

/-- The sender of a connection. -/
def sender (c : Connection H) : Sender := ⟨c.token, c.connection_id⟩

/-- The command is for the connection that was made with the sender `s`. -/
def addressed (s : Sender) (cmd : Command) : Bool :=
  cmd.token = ALL || cmd.token = s.token && cmd.connection_id = s.connection_id

/-- What a command has to say to it. -/
def letter (s : Sender) (cmd : Command) : Bytes :=
  match cmd.signal with
  | .Message msg => if addressed s cmd then msg.into_data else []
  | _ => []

/-- What the command that a step takes out of the queue has to say to it. -/
def letters (s : Sender) (h : Watched F H) (step : Io.Step) : Bytes :=
  (handled h step).flatMap (letter s)

/-- What waits in the queue for whoever has the sender `s`. -/
def waiting (s : Sender) (h : Watched F H) : Bytes := h.queue.commands.flatMap (letter s)

/-! ### One connection -/

/-- While it is open a connection takes all its `mail`; it takes part of it when it closes on the
way, and nothing once it is closing. -/
structure Posts (mail : Bytes) (c c' : Connection H) : Prop where
  took : ∃ took, (outbound c').all = (outbound c).all ++ took ∧ took <+: mail ∧
    (c'.state = .Open → took = mail) ∧ (c.state ≠ .Open → took = [])
  opens : c'.state = .Open → c.state = .Open

lemma Posts.trans {mail mail' : Bytes} {c d e : Connection H} (h : Posts mail c d)
    (h' : Posts mail' d e) : Posts (mail ++ mail') c e := by
  obtain ⟨took, hall, hpre, hopen, hclosed⟩ := h.took
  obtain ⟨took', hall', hpre', hopen', hclosed'⟩ := h'.took
  refine ⟨⟨took ++ took', ?_, ?_, fun he => ?_, fun hc => ?_⟩, h.opens ∘ h'.opens⟩
  · rw [hall', hall, List.append_assoc]
  · by_cases hd : d.state = .Open
    · rw [hopen hd]
      exact (List.prefix_append_right_inj _).mpr hpre'
    · rw [hclosed' hd, List.append_nil]
      exact hpre.trans (List.prefix_append _ _)
  · rw [hopen (h'.opens he), hopen' he]
  · rw [hclosed hc, hclosed' (fun hd => hc (h.opens hd)), List.append_nil]

lemma Idles.posts {c c' : Connection H} (h : Idles c c') : Posts [] c c' :=
  ⟨⟨[], by rw [h.output, List.append_nil], List.prefix_refl _, fun _ => rfl, fun _ => rfl⟩, h.opens⟩

/-- A connection that is closed without taking its mail. -/
lemma Idles.missed {c c' : Connection H} (h : Idles c c') (hn : c'.state ≠ .Open) (mail : Bytes) :
    Posts mail c c' :=
  ⟨⟨[], by rw [h.output, List.append_nil], List.nil_prefix, fun ho => absurd ho hn,
    fun _ => rfl⟩, h.opens⟩

section Sends

variable [Handler H] [Host]

omit [Handler H] in
/-- A message that is not refused is taken. -/
lemma send_message_posts {c c' : Connection H} {msg : Message} (hb : Buffered c)
    (h : c.send_message msg = .ok (c', .ok ())) : Posts msg.into_data c c' := by
  obtain ⟨d, res, hd, -, hsock, hbytes, -⟩ := send_message_spec hb.output msg
  rw [h] at hd
  cases hd
  have hstate : c'.state = c.state := by
    obtain ⟨out, rfl | rfl⟩ := send_message_frame h
    · rfl
    · exact check_events_state _
  refine ⟨⟨_, by rw [outbound, outbound, Pipe.all, Pipe.all, hsock, hbytes, List.append_assoc],
    ?_, fun ho => ?_, fun hn => ?_⟩, fun ho => hstate.symm.trans ho⟩
  · unfold accepts
    dsimp only
    split
    · exact List.nil_prefix
    · exact List.prefix_refl _
  · rw [hstate] at ho
    simp [accepts, ho, State.is_closing]
  · rcases hb.opened with ho | hclosing
    · exact absurd ho hn
    · simp [accepts, hclosing, State.is_closing]

end Sends

/-- One that is refused is missed, when the failure is reported. -/
lemma send_message_told [Handler H] [Host] {c d c' : Connection (Recorded H)} {msg : Message}
    {err : Error} (hb : Buffered c) (h : c.send_message msg = .ok (d, .error err))
    (he : d.error err = .ok c') : Posts msg.into_data c c' := by
  obtain ⟨rfl, hk, -⟩ := send_message_refused h
  refine Idles.missed (error_idles hb.opened he) ?_ _
  rw [error_closes hb.opened (by rw [hk]; rfl) he]
  exact State.noConfusion

/-! ### One command -/

section Commands

variable [Factory F H] [Handler H] [Host] {h g h' : Watched F H}

/-- Each connection in the slab takes what the command has to say to it. -/
def Served (h h' : Watched F H) (cmd : Command) : Prop :=
  Stems (fun c c' => Posts (letter (sender c) cmd) c c') h h'

omit [Host] in
/-- Nobody else is spoken to. -/
lemma letter_other {s : Sender} {cmd : Command} (hall : cmd.token ≠ ALL)
    (hn : cmd.token = s.token → cmd.connection_id ≠ s.connection_id) : letter s cmd = [] := by
  have ha : addressed s cmd = false := by
    unfold addressed
    by_cases ht : cmd.token = s.token
    · simp [hall, hn ht]
    · simp [hall, ht]
  unfold letter
  split
  · rw [ha]
    rfl
  · rfl

omit [Host] in
lemma letter_addressed {s : Sender} {cmd : Command} {msg : Message}
    (hsig : cmd.signal = .Message msg) (ha : addressed s cmd = true) :
    letter s cmd = msg.into_data := by
  simp [letter, hsig, ha]

omit [Factory F H] in
/-- A message for one connection. -/
lemma with_id_served {cmd : Command} {msg : Message} (hb : AllBuffered h)
    (htok : ∀ t c, h.connections.get t = some c → c.token = t) (hsig : cmd.signal = .Message msg)
    (hall : cmd.token ≠ ALL)
    (hw : h.with_id cmd.token cmd.connection_id (fun c => c.send_message msg) = .ok g) :
    Served h g cmd ∧ AllBuffered g := by
  have hput : ∀ {c d}, h.connections.get cmd.token = some c → c.connection_id = cmd.connection_id →
      d.handler.birth = c.handler.birth → Posts msg.into_data c d → Buffered d →
      Served h (h.put cmd.token d) cmd ∧ AllBuffered (h.put cmd.token d) := by
    intro c d hc hid hbirth hp hd
    have ht := htok _ c hc
    refine ⟨⟨le_refl _, fun t e he => Or.inl ?_⟩, fun t e he => ?_⟩ <;>
      rw [Io.Handler.put, Slab.get_set] at he <;> split at he
    · rename_i hj
      cases he
      refine ⟨c, hj.1 ▸ hc, hbirth, ?_⟩
      rwa [letter_addressed hsig (by simp [addressed, sender, ht, hid])]
    · rename_i hj
      refine ⟨e, he, rfl, ?_⟩
      rw [letter_other hall fun heq => ?_]
      · exact Idles.posts (.refl e)
      · rw [hc, sender, htok t e he] at *
        exact absurd ⟨heq, rfl⟩ hj
    · cases he; exact hd
    · exact hb t e he
  have hsame : (∀ c, h.connections.get cmd.token = some c → c.connection_id ≠ cmd.connection_id) →
      Served h h cmd ∧ AllBuffered h := by
    intro hn
    refine ⟨⟨le_refl _, fun t e he => Or.inl ⟨e, he, rfl, ?_⟩⟩, hb⟩
    rw [letter_other hall fun heq => ?_]
    · exact Idles.posts (.refl e)
    · rw [sender, htok t e he] at heq
      exact (hn e (heq ▸ he)).symm
  unfold Io.Handler.with_id at hw
  split at hw
  · rename_i c hc
    split at hw
    · rename_i hid
      obtain ⟨⟨d, res⟩, hs, hw⟩ := bind_eq_ok.mp hw
      dsimp only at hw
      split at hw
      · cases hw
        exact hput hc hid (send_message_evolves hs).birth (send_message_posts (hb _ c hc) hs)
          (touch_buffered (hb _ c hc) (.message hs)).1
      · obtain ⟨e, he, hw⟩ := bind_eq_ok.mp hw
        cases hw
        exact hput hc hid (Touch.message_told hs he).evolves.birth
          (send_message_told (hb _ c hc) hs he)
          (touch_buffered (hb _ c hc) (.message_told hs he)).1
    · rename_i hid
      cases hw
      refine hsame fun e he => ?_
      rw [hc, Option.some.injEq] at he
      exact he ▸ hid
  · rename_i hn
    cases hw
    exact hsame fun e he => by rw [hn] at he; cases he

/-- Reporting failures keeps the connections buffered and opens none; it closes those whose
failure starts the closing handshake. -/
lemma bury_all_closes {dead : List (Token × Error)} (hb : AllBuffered h)
    (hf : dead.foldlM Io.Handler.bury h = .ok h') {t : Token} {err : Error}
    (hmem : (t, err) ∈ dead) (hk : starts_closing err.kind = true) :
    ∀ c', h'.connections.get t = some c' → c'.state ≠ .Open := by
  have hbury : ∀ {p : Token × Error} {g g' : Watched F H}, AllBuffered g → g.bury p = .ok g' →
      AllBuffered g' ∧ ∀ j e', g'.connections.get j = some e' → ∃ e, g.connections.get j = some e ∧
        (e'.state = .Open → e.state = .Open) ∧ (j = p.1 → e.error p.2 = .ok e') := by
    intro p g g' hg hx
    obtain ⟨e, he, hx⟩ := bind_eq_ok.mp hx
    obtain ⟨d, hd, hx⟩ := bind_eq_ok.mp hx
    cases hx
    have hslot := at_slot_eq he
    refine ⟨Act.buffered (.touch hslot (.tell hd)) hg, fun j e' he' => ?_⟩
    rw [Io.Handler.put, Slab.get_set] at he'
    split at he'
    · rename_i hj
      cases he'
      exact ⟨e, hj.1 ▸ hslot, (error_idles (hg _ _ hslot).opened hd).opens, fun _ => hd⟩
    · rename_i hj
      exact ⟨e', he', id, fun heq => absurd ⟨heq.symm, by rw [hslot]; rfl⟩ hj⟩
  have hbefore : ∀ {l : List (Token × Error)} {g g' : Watched F H}, AllBuffered g →
      l.foldlM Io.Handler.bury g = .ok g' → AllBuffered g' := fun hg hx =>
    Holds.foldlM (I := AllBuffered) hg (fun _ _ _ hg _ hx => (hbury hg hx).1) _ hx
  have hafter : ∀ {l : List (Token × Error)} {g g' : Watched F H}, AllBuffered g →
      (∀ e, g.connections.get t = some e → e.state ≠ .Open) → l.foldlM Io.Handler.bury g = .ok g' →
      ∀ e, g'.connections.get t = some e → e.state ≠ .Open := by
    intro l g g' hg hn hx
    have hboth := Holds.foldlM (I := fun g : Watched F H => AllBuffered g ∧
      ∀ e, g.connections.get t = some e → e.state ≠ .Open) ⟨hg, hn⟩ (fun p _ g hg g' hx => ?_) _ hx
    · exact hboth.2
    refine ⟨(hbury hg.1 hx).1, fun e' he' ho => ?_⟩
    obtain ⟨e, he, hopen, -⟩ := (hbury hg.1 hx).2 t e' he'
    exact hg.2 e he (hopen ho)
  obtain ⟨before, after, rfl⟩ := List.append_of_mem hmem
  rw [List.foldlM_append, bind_eq_ok] at hf
  obtain ⟨d, hd, hf⟩ := hf
  rw [List.foldlM_cons, bind_eq_ok] at hf
  obtain ⟨e, he, hf⟩ := hf
  have hdb := hbefore hb hd
  refine hafter (hbury hdb he).1 (fun c' hc' => ?_) hf
  obtain ⟨c, hc, -, herr⟩ := (hbury hdb he).2 t c' hc'
  rw [error_closes (hdb t c hc).opened hk (herr rfl)]
  exact State.noConfusion

omit [Factory F H] [Handler H] in
/-- Sending to every connection: each is sent the message, and what fails is collected. -/
lemma for_each_sends {msg : Message} {dead : List (Token × Error)}
    (hfe : h.for_each (fun c => c.send_message msg) = .ok (g, dead)) :
    g.factory = h.factory ∧ ∀ t d, g.connections.get t = some d →
      ∃ c res, h.connections.get t = some c ∧ c.send_message msg = .ok (d, res) ∧
        ∀ err, res = .error err → (c.token, err) ∈ dead := by
  obtain ⟨⟨conns, as⟩, hi, hfe⟩ := bind_eq_ok.mp hfe
  cases hfe
  have hv := Slab.iter_mut_visited hi
  refine ⟨rfl, fun t d hd => ?_⟩
  rcases hc : h.connections.get t with _ | c
  · rw [(hv.vacant t).mpr hc] at hd
    cases hd
  · obtain ⟨d', cs, hf, hd', hcs⟩ := hv.filled t (Slab.mem_keys.mpr (by rw [hc]; rfl)) c hc
    rw [hd] at hd'
    cases hd'
    obtain ⟨⟨e, res⟩, hs, hf⟩ := bind_eq_ok.mp hf
    have htok := (send_message_evolves hs).same.token
    refine ⟨c, res, rfl, ?_, fun err herr => ?_⟩
    · rcases res with err | u <;> cases hf <;> exact hs
    · subst herr
      cases hf
      rw [← htok]
      exact hcs _ (List.mem_singleton.mpr rfl)

/-- A message for all connections. -/
lemma handle_broadcast_served {cmd : Command} {msg : Message} (hb : AllBuffered h)
    (htok : ∀ t c, h.connections.get t = some c → c.token = t) (hsig : cmd.signal = .Message msg)
    (hall : cmd.token = ALL) (hd : h.handle_broadcast (.Message msg) = .ok h') :
    Served h h' cmd := by
  obtain ⟨⟨g, dead⟩, hfe, hfin⟩ := bind_eq_ok.mp hd
  obtain ⟨hfac, hsent⟩ := for_each_sends hfe
  have hgb : AllBuffered g := fun t d hd => by
    obtain ⟨c, res, hc, hs, -⟩ := hsent t d hd
    exact (touch_buffered (hb t c hc) (.message hs)).1
  have hrest : Stems Idles g h' := Path.idles
    ((finish_broadcast_deeds hgb.opened dead).holds h' hfin) (by simp) hgb
  have hslots := (schedule_all_keeps g).2
  refine ⟨hfac ▸ hrest.made, fun t e he => ?_⟩
  rcases hrest.slots t e he with ⟨d, hd, hbirth, hidle⟩ | hnew
  · obtain ⟨c, res, hc, hs, hdead⟩ := hsent t d hd
    refine Or.inl ⟨c, hc, hbirth.trans (send_message_evolves hs).birth, ?_⟩
    rw [letter_addressed hsig (by simp [addressed, hall])]
    rcases res with err | u
    · -- the failure is among those reported at the end
      obtain ⟨rfl, hk, -⟩ := send_message_refused hs
      refine Idles.missed hidle ?_ _
      refine bury_all_closes (t := t) (h := g.schedule_all.1) ?_ hfin
        (List.mem_append_left _ (htok t d hc ▸ hdead err rfl)) ?_ e he
      · intro j x hx
        rw [hslots] at hx
        exact hgb j x hx
      · rw [hk]
        rfl
    · have hposts := (send_message_posts (hb t c hc) hs).trans (Idles.posts hidle)
      rwa [List.append_nil] at hposts
  · exact Or.inr (hfac ▸ hnew)

/-- **One command.** Each connection takes what it has to say to it, and an open one all of it. -/
lemma handle_queue_served {cmd : Command} {msg : Message} (hb : AllBuffered h)
    (htok : ∀ t c, h.connections.get t = some c → c.token = t)
    (hlt : ∀ t c, h.connections.get t = some c → t < SYSTEM) (hsig : cmd.signal = .Message msg)
    (hq : h.handle_queue cmd = .ok h') : Served h h' cmd := by
  unfold Io.Handler.handle_queue at hq
  split at hq
  · rename_i hsys
    cases hq
    refine ⟨le_refl _, fun t e he => Or.inl ⟨e, he, rfl, ?_⟩⟩
    have hne := hlt t e he
    rw [letter_other (by rw [hsys]; decide) fun heq => ?_]
    · exact Idles.posts (.refl e)
    · rw [hsys, sender, htok t e he] at heq
      exact absurd hne (heq ▸ lt_irrefl _)
  · split at hq
    · rename_i hall
      rw [hsig] at hq
      exact handle_broadcast_served hb htok hsig hall hq
    · rename_i hall
      rw [hsig] at hq
      obtain ⟨g, hw, hs⟩ := bind_eq_ok.mp hq
      obtain ⟨hserved, hgb⟩ := with_id_served hb htok hsig hall hw
      have hrest := Path.idles ((schedule_at_deeds hgb.opened cmd.token).holds h' hs) (by simp) hgb
      refine Stems.comp hserved hrest fun c d e hp hi => ?_
      have hposts := hp.trans (Idles.posts hi)
      rwa [List.append_nil] at hposts

/-! ### Steps and runs -/

omit [Factory F H] [Handler H] [Host] in
/-- A step that handles no message has no message among its deeds. -/
lemma no_message_deeds {s : Io.Step}
    (hn : ∀ cmd ∈ handled h s, ∀ msg, cmd.signal ≠ .Message msg) : .message ∉ deeds h s := by
  cases s with
  | input i =>
    cases i with
    | send cmd => simp [deeds]
    | event evt =>
      have hhap : .message ∉ happening h.queue.commands evt.token := by
        unfold happening
        split
        · simp [accepting]
        split
        · simp [expiring]
        split
        · rename_i htok
          rcases hq : h.queue.commands with _ | ⟨cmd, rest⟩
          · simp [taking]
          · have hcmd := hn cmd (by simp [handled, htok, hq])
            rcases hsig : cmd.signal <;> simp [taking, hsig, commanded, connecting]
            exact absurd hsig (hcmd _)
        · simp [exchanging]
      simp [deeds, hhap]
  | interrupted => simp [deeds]
  | check_count => simp [deeds]

omit [Factory F H] [Handler H] [Host] in
lemma letters_of_handled {s : Sender} {step : Io.Step}
    (hn : ∀ cmd ∈ handled h step, ∀ msg, cmd.signal ≠ .Message msg) : letters s h step = [] := by
  refine List.flatMap_eq_nil_iff.mpr fun cmd hcmd => ?_
  unfold letter
  split
  · rename_i msg hsig
    exact absurd hsig (hn cmd hcmd msg)
  · rfl

/-- Who a connection belongs to never changes. -/
lemma step_sender {s : Io.Step} (hb : AllBuffered h) (hst : h.step s = .ok h') :
    Stems (fun c c' => sender c' = sender c) h h' := by
  refine Path.stems (step_path hb.opened hst) (fun _ => rfl) (fun _ _ _ h h' => h'.trans h)
    hb.opened fun _ _ c c' _ ht => ?_
  have hsame := ht.evolves.same
  rw [sender, sender, hsame.token, hsame.connection_id]

/-- **One step** gives every connection the mail it has for it. -/
theorem step_posts {s : Io.Step} (hs : Sound h) (hb : AllBuffered h) (hst : h.step s = .ok h') :
    Stems (fun c c' => Posts (letters (sender c) h s) c c') h h' := by
  by_cases hmsg : ∃ cmd ∈ handled h s, ∃ msg, cmd.signal = .Message msg
  · obtain ⟨cmd, hcmd, msg, hsig⟩ := hmsg
    obtain ⟨kind, a, rest, d, rfl, -, hq, rfl⟩ := step_hands_over hst hcmd
    have hsupply := hs.supply_slots (t := QUEUE) (by decide) a
    have hone : handled h (.on QUEUE kind a) = [cmd] := by
      have hlen : (handled h (.on QUEUE kind a)).length ≤ 1 := List.length_take_le _ _
      rcases hl : handled h (.on QUEUE kind a) with _ | ⟨x, xs⟩
      · rw [hl] at hcmd
        cases hcmd
      · rw [hl] at hcmd hlen
        obtain rfl := List.eq_nil_of_length_eq_zero (by simpa using hlen)
        rw [List.mem_singleton.mp hcmd]
    have hserved := handle_queue_served
      (h := { h.supply QUEUE a with queue := ⟨h.queue.bound, rest⟩ })
      (fun t c hc => hb t c (hsupply ▸ hc)) (fun t c hc => hs.token t c (hsupply ▸ hc))
      (fun t c hc => hs.lt_system (Slab.get_lt_capacity (hsupply ▸ hc))) hsig hq
    refine ⟨(step_sender hb hst).made, fun t e he => ?_⟩
    rcases hserved.slots t e he with ⟨c, hc, hbirth, hp⟩ | hnew
    · refine Or.inl ⟨c, hsupply ▸ hc, hbirth, ?_⟩
      rwa [letters, hone, List.flatMap_singleton]
    · exact Or.inr hnew
  · have hnone : ∀ cmd ∈ handled h s, ∀ msg, cmd.signal ≠ .Message msg :=
      fun cmd hcmd msg hsig => hmsg ⟨cmd, hcmd, msg, hsig⟩
    refine Stems.imp (Path.idles (step_path hb.opened hst) (no_message_deeds hnone) hb)
      fun t c c' _ _ hi => ?_
    rw [letters_of_handled hnone]
    exact Idles.posts hi

/-- What the commands handled in a run have to say to a connection. -/
def mail (s : Sender) (h : Watched F H) (steps : List Io.Step) : Bytes :=
  account Io.Handler.step (letters s) h steps

/-- What waits for it is the next of its mail. -/
lemma waiting_mail {steps : List Io.Step} (hr : run Io.Handler.step h steps = .ok h')
    (hcount : h.queue.commands.length ≤ steps.countP serves_queue) (s : Sender) :
    waiting s h <+: mail s h steps := by
  have hmail : mail s h steps = (account Io.Handler.step handled h steps).flatMap (letter s) :=
    account_flatMap (letter s) h steps
  obtain ⟨rest, hrest⟩ := waiting_handled hr hcount
  rw [hmail, ← hrest, List.flatMap_append]
  exact List.prefix_append _ _

/-- **A run** gives every connection its mail. -/
theorem run_posts {steps : List Io.Step} (hs : Sound h) (hb : AllBuffered h)
    (hr : run Io.Handler.step h steps = .ok h') :
    Stems (fun c c' => sender c' = sender c ∧ Posts (mail (sender c) h steps) c c') h h' := by
  induction steps generalizing h with
  | nil =>
    cases hr
    exact .refl (fun c => ⟨rfl, Idles.posts (.refl c)⟩) h'
  | cons s steps ih =>
    obtain ⟨g, hg, hr⟩ := run_cons.mp hr
    have hfirst := Stems.and (step_sender hb hg) (step_posts hs hb hg)
    refine Stems.comp hfirst (ih (step_sound hs hg) (step_buffered hb hg) hr)
      fun c d e hcd hde => ⟨hde.1.trans hcd.1, ?_⟩
    rw [mail, account_cons hg]
    have := hcd.2.trans hde.2
    rwa [hcd.1] at this

/-- **Messages reach the outputs in order, each once.** From any reached state on, what a connection
has written and has yet to write grows by the messages that are handled and are for it, sent to all
or by a sender of its own, in the order they are handled: by all of them while it is open, by those
up to some point when it closes on the way, and by none once it is closing. -/
theorem mail_in_order {inner : F} {settings : Settings} {addr : Option SocketAddr}
    {front back : List Io.Step}
    (hf : Io.Handler.execute (Ledger.blank inner) settings addr front = .ok h)
    (hr : run Io.Handler.step h back = .ok h') {t t' : Token} {c c' : Connection (Recorded H)}
    (hc : h.connections.get t = some c) (hc' : h'.connections.get t' = some c')
    (hb : c'.handler.birth = c.handler.birth) :
    ∃ took, c'.socket.sent ++ c'.out_buffer.bytes = c.socket.sent ++ c.out_buffer.bytes ++ took ∧
      took <+: mail (sender c) h back ∧
      (c'.state = .Open → c.state = .Open ∧ took = mail (sender c) h back) ∧
      (c.state ≠ .Open → took = []) := by
  obtain ⟨-, -, hposts⟩ := Stems.of_birth
    (run_posts (execute_sound hf) (execute_buffered hf) hr) (execute_sound hf).numbered.accounted
    hc hc' hb
  obtain ⟨took, hall, hpre, hopen, hclosed⟩ := hposts.took
  exact ⟨took, hall, hpre, fun ho => ⟨hposts.opens ho, hopen ho⟩, hclosed⟩

end Commands

/-- The connection is sent something, and then something is sent to all. -/
def two_letters : List Io.Step :=
  [.post (Sender.send ⟨0, 0⟩ (.Binary [1])), takes_command,
    .post (Sender.broadcast ⟨0, 0⟩ (.Binary [2, 3])), takes_command]

theorem mail_in_order_two_letters :
    ∃ (h h' : Watched (Sender → M) M) (c c' : Connection (Recorded M)),
      serve {} one_peer = .ok h ∧ run serve_on h two_letters = .ok h' ∧
      h.connections.get 0 = some c ∧ h'.connections.get 0 = some c' ∧ c'.state = .Open ∧
      c'.out_buffer.bytes = [1, 2, 3] ∧
      ∃ took, c'.socket.sent ++ c'.out_buffer.bytes =
          c.socket.sent ++ c.out_buffer.bytes ++ took ∧
        took = @mail _ _ _ _ plain (sender c) h two_letters := by
  have hrun : Returns (serve {} one_peer) fun h =>
      Returns (run serve_on h two_letters) fun h' =>
        ((h.connections.get 0).map fun c => c.handler.birth) = some 0 ∧
        ((h'.connections.get 0).map fun c =>
          (c.handler.birth, c.state.is_open, c.out_buffer.bytes)) = some (0, true, [1, 2, 3]) := by
    decide +kernel
  obtain ⟨h, hh, h', hr, hc, hc'⟩ := hrun
  obtain ⟨c, hc, hb⟩ := Option.map_eq_some_iff.mp hc
  obtain ⟨c', hc', hs⟩ := Option.map_eq_some_iff.mp hc'
  simp only [Prod.mk.injEq] at hs
  have hopen : c'.state = .Open := is_open_iff.mp hs.2.1
  obtain ⟨took, hall, -, hmail, -⟩ := @mail_in_order _ _ _ _ plain h h' _ _ _ _ _ hh hr
    0 0 c c' hc hc' (by rw [hs.1, hb])
  exact ⟨h, h', c, c', hh, hr, hc, hc', hopen, hs.2.2, took, hall, (hmail hopen).2⟩

end XnetSocket.Delivery
