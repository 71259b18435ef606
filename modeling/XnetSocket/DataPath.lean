import XnetSocket.Custody

/-!
The data path: what a message or a close request from a sender can reach.

The command waits while slots are freed and reused. It finds its slot by the token, but is only
acted upon when the connection there has the id of the sender, and an id is given out once.
-/

namespace XnetSocket.DataPath

open Buffer Runs Connection Evolution Custody

section Reach

variable {F H : Type} [Factory F H] [Handler H] [Host]

/-- The signals that carry data to a connection. -/
def carries_data : Signal → Bool
  | .Message _ => true
  | .Close _ _ => true
  | _ => false

/-- No connection has the id of the sender. -/
def Gone (h : Watched F H) (s : Sender) : Prop :=
  ∀ t c, h.connections.get t = some c → c.connection_id ≠ s.connection_id

/-- Only a connection with the id may change. -/
def Spares (id : UInt32) (h h' : Watched F H) : Prop :=
  (∀ t c, h.connections.get t = some c → c.connection_id ≠ id → h'.connections.get t = some c) ∧
    ∀ t, h.connections.get t = none → h'.connections.get t = none

omit [Factory F H] [Handler H] [Host] in
lemma Spares.of_slots {id : UInt32} {h h' : Watched F H} (he : h'.connections = h.connections) :
    Spares id h h' :=
  ⟨fun t c hc _ => by rw [he, hc], fun t ht => by rw [he, ht]⟩

omit [Factory F H] [Handler H] [Host] in
lemma put_spares {h : Watched F H} {t : Token} {c : Connection (Recorded H)}
    (hc : h.connections.get t = some c) (c' : Connection (Recorded H)) :
    Spares c.connection_id h (h.put t c') := by
  refine ⟨fun t' d hd hid => ?_, fun t' ht' => ?_⟩
  · have hne : t ≠ t' := fun e => by
      subst e
      rw [hc] at hd
      cases hd
      exact hid rfl
    rw [Io.Handler.put, Slab.get_set_ne hne, hd]
  · rw [Io.Handler.put, Slab.get_set_none]
    exact ht'

omit [Factory F H] in
lemma with_id_spares {h h' : Watched F H} {t : Token} {id : UInt32}
    {f : Connection (Recorded H) → Except Panic (Connection (Recorded H) × Result Unit)}
    (hw : h.with_id t id f = .ok h') : Spares id h h' ∧ h'.poll = h.poll := by
  unfold Io.Handler.with_id at hw
  split at hw
  · rename_i c hget
    split at hw
    · rename_i hid
      obtain ⟨⟨d, res⟩, -, hw⟩ := bind_eq_ok.mp hw
      subst hid
      rcases res with err | u
      · obtain ⟨e, -, hw⟩ := bind_eq_ok.mp hw
        cases hw
        exact ⟨put_spares hget e, rfl⟩
      · cases hw
        exact ⟨put_spares hget d, rfl⟩
    · cases hw; exact ⟨.of_slots rfl, rfl⟩
  · cases hw; exact ⟨.of_slots rfl, rfl⟩

omit [Factory F H] in
/-- Scheduling that succeeds changes no connection. -/
lemma schedule_at_slots {h h' : Watched F H} {t : Token} (hp : h.poll.Agrees)
    (hs : h.schedule_at t = .ok h') : h'.connections = h.connections := by
  unfold Io.Handler.schedule_at Io.Handler.schedule Os.reregister at hs
  split at hs
  · rw [hp.register] at hs
    cases hs
    rfl
  · cases hs; rfl

omit [Factory F H] [Handler H] [Host] in
/-- Nothing that has the id, and so no slot, changes. -/
lemma Spares.same {h h' : Watched F H} {s : Sender} (hsp : Spares s.connection_id h h')
    (hg : Gone h s) (t : Token) : h'.connections.get t = h.connections.get t := by
  rcases hget : h.connections.get t with _ | c
  · exact hsp.2 t hget
  · exact hsp.1 t c hget (hg t c hget)

/-- A directed message or close request changes no connection with another id. -/
lemma handle_directed_spares {h h' : Watched F H} {t : Token} {id : UInt32} {signal : Signal}
    (hsig : carries_data signal = true) (hp : h.poll.Agrees)
    (hd : h.handle_directed t id signal = .ok h') : Spares id h h' := by
  have hfinish : ∀ {f}, (∃ d, h.with_id t id f = .ok d ∧ d.schedule_at t = .ok h') →
      Spares id h h' := by
    rintro f ⟨d, hw, hd⟩
    obtain ⟨hsp, hpoll⟩ := with_id_spares hw
    have hslots := schedule_at_slots (by rw [hpoll]; exact hp) hd
    exact ⟨fun t c hc hid => by rw [hslots]; exact hsp.1 t c hc hid,
      fun t ht => by rw [hslots]; exact hsp.2 t ht⟩
  cases signal with
  | Message msg => exact hfinish (bind_eq_ok.mp hd)
  | Close code reason => exact hfinish (bind_eq_ok.mp hd)
  | Connect url => cases hsig
  | Shutdown => cases hsig
  | Timeout delay event => cases hsig
  | Cancel timeout => cases hsig

/-- The step that takes a command from the queue and handles it. -/
lemma queue_step {h h' : Watched F H} {ready : Ready} {a : Io.Answers} {cmd : Command}
    {rest : List Command} (hq : h.queue.commands = cmd :: rest)
    (hs : h.step (.on QUEUE ready a) = .ok h') :
    ∃ queue d, ({ h.supply QUEUE a with queue := queue } : Watched F H).handle_queue cmd = .ok d ∧
      h'.connections = d.connections := by
  have he : (h.supply QUEUE a).handle_event QUEUE ready = .ok h' := hs
  have hcmds : (h.supply QUEUE a).queue.commands = cmd :: rest := hq
  rw [Io.Handler.handle_event_queue] at he
  obtain ⟨d, hd, he⟩ := bind_eq_ok.mp he
  cases he
  rw [Io.Handler.take_command_cons hcmds] at hd
  exact ⟨_, d, hd, rfl⟩

/-- **The data path reaches only the sender's own connection.** In every run, a message or
close request that was queued with the sender of the `k`-th handler changes no connection with
another id when it is handled, and the connection with its id is the one made for that sender;
once that one is gone, nothing changes whoever has the slot. Every connection is in the slot,
and has the id, that its sender was given. -/
theorem data_path {inner : F} {settings : Settings} {addr : Option SocketAddr}
    {steps : List Io.Step} {h : Watched F H}
    (hr : Io.Handler.execute (Ledger.blank inner) settings addr steps = .ok h)
    (hcount : h.factory.made.length < 2 ^ 32) {k : ℕ} {s : Sender}
    (hk : h.factory.made[k]? = some s) {cmd : Command} (ht : cmd.token = s.token)
    (hid : cmd.connection_id = s.connection_id) (hsig : carries_data cmd.signal = true)
    {rest : List Command} (hq : h.queue.commands = cmd :: rest) {ready : Ready} {a : Io.Answers}
    (hp : ∀ p ∈ a.polls, p = .ok ()) {h' : Watched F H}
    (hs : h.step (.on QUEUE ready a) = .ok h') :
    (∀ t c, h.connections.get t = some c → c.connection_id ≠ s.connection_id →
        h'.connections.get t = some c) ∧
      (∀ t c, h.connections.get t = some c → c.connection_id = s.connection_id →
        c.handler.birth = k ∧ t = s.token) ∧
      (∀ front back (h1 : Watched F H), steps = front ++ back →
        Io.Handler.execute (Ledger.blank inner) settings addr front = .ok h1 →
        k < h1.factory.made.length → Gone h1 s →
        ∀ t, h'.connections.get t = h.connections.get t) ∧
      ∀ t c, h.connections.get t = some c → c.token = t ∧
        h.factory.made[c.handler.birth]? = some ⟨c.token, c.connection_id⟩ := by
  have hsound := execute_sound hr
  have hspares : Spares s.connection_id h h' := by
    obtain ⟨queue, d, hd, hslots⟩ := queue_step hq hs
    have hlt : cmd.token < SYSTEM := ht ▸ hsound.sender_lt hk
    have hne : cmd.token ≠ SYSTEM ∧ cmd.token ≠ ALL := by
      have hall : SYSTEM < ALL := by decide
      exact ⟨Nat.ne_of_lt hlt, Nat.ne_of_lt (lt_trans hlt hall)⟩
    unfold Io.Handler.handle_queue at hd
    rw [if_neg hne.1, if_neg hne.2] at hd
    have hsp := handle_directed_spares hsig (fun p hpm => hp p hpm) hd
    have hsup := hsound.supply_slots (t := QUEUE) (by decide) a
    rw [hid] at hsp
    refine ⟨fun t c hc hne => ?_, fun t hn => ?_⟩
    · rw [hslots]
      exact hsp.1 t c (by rw [← hc]; exact congrArg (fun s => Slab.get s t) hsup) hne
    · rw [hslots]
      exact hsp.2 t (by rw [← hn]; exact congrArg (fun s => Slab.get s t) hsup)
  refine ⟨hspares.1, fun t c hc he => hsound.birth_of_id hcount hk hc he, ?_, fun t c hc => ?_⟩
  · -- what was gone earlier in the run is gone now
    rintro front back h1 rfl h1r hlt hgone t
    refine hspares.same (fun t c hc he => ?_) t
    obtain ⟨h0, h0s, h0r⟩ := bind_eq_ok.mp hr
    obtain ⟨h0', h0s', h1r⟩ := bind_eq_ok.mp h1r
    rw [h0s] at h0s'
    cases h0s'
    obtain ⟨h1', hfront, hback⟩ := run_append.mp h0r
    rw [h1r] at hfront
    cases hfront
    obtain ⟨queue, timer, hkeeps⟩ := run_keeps hback
    have hbirth := (hsound.birth_of_id hcount hk hc he).1
    rcases hkeeps.descends t c hc with ⟨c1, hc1, hev⟩ | ⟨hge, -⟩
    · exact hgone t c1 hc1 (by rw [← hev.same.connection_id, he])
    · have hge' : h1.factory.made.length ≤ c.handler.birth := hge
      omega
  · have htok := hsound.token t c hc
    exact ⟨htok, by rw [htok]; exact hsound.sender t c hc⟩

end Reach

/-- A peer connects and closes, and another takes its slot. -/
def slot_reused : List Io.Step := [accepts_peer, peer_closes 0, accepts_peer]

/-- A message for the first is handled when the second has the slot. -/
theorem data_path_slot_reused :
    ∃ h h', serve {} (slot_reused ++ [.post (Sender.send ⟨0, 0⟩ (.text "late"))]) = .ok h ∧
      serve_on h takes_command = .ok h' ∧
      ∀ t c, h.connections.get t = some c → c.connection_id ≠ 0 →
        h'.connections.get t = some c := by
  have hrun : Returns (serve {}
      (slot_reused ++ [.post (Sender.send ⟨0, 0⟩ (.text "late"))])) fun h =>
      h.queue.commands = [Sender.send ⟨0, 0⟩ (.text "late")] ∧
      h.factory.made = [⟨0, 0⟩, ⟨0, 1⟩] ∧ Returns (serve_on h takes_command) fun _ => True := by
    decide +kernel
  obtain ⟨h, hr, hq, hm, h', hs, -⟩ := hrun
  exact ⟨h, h', hr, hs, (@data_path _ _ _ _ plain _ _ _ _ h hr (by rw [hm]; decide) 0 ⟨0, 0⟩
    (by rw [hm]; rfl) _ rfl rfl rfl _ hq readable {} (by simp) h' hs).1⟩

end XnetSocket.DataPath
