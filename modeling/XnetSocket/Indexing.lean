import XnetSocket.Deeds

/-!
Which slots the loop indexes.

Commands, timeouts and connection requests only ever index a slot they have just found occupied.
An event of a socket indexes the slot of its token without a look, and goes on to find it occupied
to its end.
-/

namespace XnetSocket.Indexing

open Buffer Runs Connection Lifecycle Evolution Custody Joining Touches Deeds

variable {F H : Type}

/-- No empty slot has been indexed. -/
abbrev Found (p : Panic) : Prop := p ≠ .index

lemma found {α : Type} {x : Except Panic α} {Q : α → Prop} (h : Meets x Setback Q) :
    Meets x Found fun _ => True :=
  (h.of_stops fun _ hp => hp.2).mono fun _ _ => trivial

section Steps

variable [Factory F H] [Handler H] [Host] {h h' : Watched F H}

lemma check_active_found (ho : AllOpened h) {t : Token} {c : Connection (Recorded H)}
    (hc : h.connections.get t = some c) (active : Bool) :
    Meets (h.check_active active t) Found fun _ => True := by
  unfold Io.Handler.check_active
  rw [at_slot_of_get hc, ok_bind]
  split
  · split
    · trivial
    · exact (found (error_meets (ho t c hc) _)).bind fun d _ _ => found (lose_deeds _ t)
  · exact found (lose_deeds h t)

/-! ### Commands -/

/-- The slots `dead` is about are occupied. -/
def Occupied (h : Watched F H) (dead : List (Token × Error)) : Prop :=
  ∀ p ∈ dead, ∃ c, h.connections.get p.1 = some c

lemma bury_all_found {dead : List (Token × Error)} (ho : AllOpened h) (hd : Occupied h dead) :
    Meets (dead.foldlM Io.Handler.bury h) Found fun _ => True := by
  refine (Meets.foldlM (I := fun g : Watched F H => AllOpened g ∧ Occupied g dead) ⟨ho, hd⟩
    fun p hp g hg => ?_).mono fun _ _ => trivial
  obtain ⟨c, hc⟩ := hg.2 p hp
  unfold Io.Handler.bury
  rw [at_slot_of_get hc, ok_bind]
  refine ((error_meets (hg.1 _ c hc) p.2).of_stops fun _ hp => hp.2).bind fun d _ ht => ⟨?_, ?_⟩
  · exact (Path.of (.touch hc ht) (List.mem_singleton.mpr rfl)).opened hg.1
  · intro q hq
    obtain ⟨e, he⟩ := hg.2 q hq
    have hne : (g.put p.1 d).connections.get q.1 ≠ none := fun hn => by
      rw [Slab.get_set_none.mp hn] at he
      cases he
    exact Option.ne_none_iff_exists'.mp hne

omit [Factory F H] [Handler H] [Host] in
/-- Whoever could not be scheduled is in a slot. -/
lemma schedule_all_occupied (hs : Sound h) : Occupied h h.schedule_all.2 := by
  unfold Io.Handler.schedule_all
  refine List.foldlRecOn (motive := fun acc : Watched F H × List (Token × Error) =>
    Occupied h acc.2) _ _ (List.forall_mem_nil _) fun acc hacc slot _ => ?_
  unfold Io.Handler.schedule_slot
  split
  · rename_i c hc
    split
    · exact hacc
    · intro p hp
      rcases List.mem_append.mp hp with hp | hp
      · exact hacc p hp
      · rw [List.mem_singleton.mp hp, hs.token slot c hc]
        exact ⟨c, hc⟩
  · exact hacc

lemma finish_broadcast_found {dead : List (Token × Error)} (hs : Sound h) (ho : AllOpened h)
    (hd : Occupied h dead) : Meets (h.finish_broadcast dead) Found fun _ => True := by
  have hmore := schedule_all_occupied hs
  have hslots := (schedule_all_keeps h).2
  unfold Io.Handler.finish_broadcast
  rcases hall : h.schedule_all with ⟨g, more⟩
  rw [hall] at hmore hslots
  have hslots : g.connections = h.connections := hslots
  refine bury_all_found (fun t c hc => ho t c (by rw [← hslots]; exact hc)) fun p hp => ?_
  rw [hslots]
  rcases List.mem_append.mp hp with hp | hp
  · exact hd p hp
  · exact hmore p hp

omit [Factory F H] [Handler H] [Host] in
/-- Whoever failed in a visit of all connections is in a slot. -/
lemma for_each_occupied {dead : List (Token × Error)}
    {f : Connection (Recorded H) → Except Panic (Connection (Recorded H) × Result Unit)}
    (hf : ∀ c c' res, f c = .ok (c', res) → Evolves c c') (hs : Sound h)
    (he : h.for_each f = .ok (h', dead)) : Occupied h' dead := by
  obtain ⟨⟨conns, as⟩, hi, he⟩ := bind_eq_ok.mp he
  cases he
  intro p hp
  obtain ⟨t, c, c', cs, hc, hfc, hc', hpc⟩ := Slab.iter_mut_out hi hp
  obtain ⟨⟨d, res⟩, hres, hfc⟩ := bind_eq_ok.mp hfc
  rcases res with err | u <;> cases hfc
  · rw [List.mem_singleton.mp hpc, (hf c _ _ hres).same.token, hs.token t c hc]
    exact ⟨_, hc'⟩
  · cases hpc

lemma handle_broadcast_found (hs : Sound h) (ho : AllOpened h) (signal : Signal) :
    Meets (h.handle_broadcast signal) Found fun _ => True := by
  cases signal with
  | Message msg =>
    refine ((for_each_deeds ho fun c _ => send_message_meets c msg).of_stops
      fun _ hp => hp.2).bind fun r hr hp => ?_
    have hev : ∀ (c c' : Connection (Recorded H)) res, c.send_message msg = .ok (c', res) →
        Evolves c c' := fun _ _ _ h => send_message_evolves h
    exact finish_broadcast_found (hs.of_keeps (for_each_keeps hev hr)) (hp.opened ho)
      (for_each_occupied hev hs hr)
  | Close code reason =>
    refine ((for_each_deeds ho fun c hc => send_close_meets hc code reason).of_stops
      fun _ hp => hp.2).bind fun r hr hp => ?_
    have hev : ∀ (c c' : Connection (Recorded H)) res, c.send_close code reason = .ok (c', res) →
        Evolves c c' := fun _ _ _ h => send_close_evolves h
    exact finish_broadcast_found (hs.of_keeps (for_each_keeps hev hr)) (hp.opened ho)
      (for_each_occupied hev hs hr)
  | Connect url =>
    refine (found (connect_deeds h url)).bind fun r _ _ => ?_
    rcases r with ⟨g, err | u⟩
    · dsimp only
      split
      · exact .stop Panic.noConfusion
      · trivial
    · trivial
  | Shutdown =>
    refine ((shutdown_deeds ho).of_stops fun _ hp => hp.2).bind fun g hg hp => ?_
    exact finish_broadcast_found (hs.of_keeps (shutdown_keeps hg)) (hp.opened ho)
      (List.forall_mem_nil _)
  | Timeout delay event =>
    simp only [Io.Handler.handle_broadcast]
    rcases h.timer.set_timeout delay ⟨ALL, event⟩ with ⟨timer, err | timeout⟩
    · dsimp only
      split
      · exact .stop Panic.noConfusion
      · trivial
    · have htake : ∀ c : Connection (Recorded H), Opened c →
          Meets (Io.Handler.take_timeout event timeout c >>= fun c => .ok (c, ([] : List Unit)))
            Setback fun r => Touch .timeout c r.1 :=
        fun c hc => (take_timeout_meets hc event timeout).bind fun _ _ ht => ht
      exact (found (iter_mut_deeds ho htake)).bind fun _ _ _ => trivial
  | Cancel timeout => trivial

lemma handle_queue_found (hs : Sound h) (ho : AllOpened h) (cmd : Command) :
    Meets (h.handle_queue cmd) Found fun _ => True := by
  unfold Io.Handler.handle_queue
  split
  · trivial
  · split
    · exact handle_broadcast_found hs ho _
    · exact found (handle_directed_deeds ho _ _ _)

lemma handle_commands_found (hs : Sound h) (ho : AllOpened h) :
    Meets h.handle_commands Found fun _ => True := by
  have hcmd : Meets h.take_command Found fun _ => True := by
    rcases hcmds : h.queue.commands with _ | ⟨cmd, rest⟩
    · rw [Io.Handler.take_command_nil hcmds]
      trivial
    · rw [Io.Handler.take_command_cons hcmds]
      exact handle_queue_found (h := { h with queue := ⟨h.queue.bound, rest⟩ })
        (hs.of_keeps (.refl _)) ho cmd
  exact hcmd.bind fun _ _ _ => trivial

/-! ### Events -/

lemma expire_found (ho : AllOpened h) (number : ℕ) :
    Meets (h.expire number) Found fun _ => True := by
  unfold Io.Handler.expire
  split
  · trivial
  · rename_i timeout _
    unfold Io.Handler.handle_timeout
    split
    · trivial
    · rename_i c hc
      have hcall := (trigger_meets (ho _ c hc) timeout.event).of_stops fun _ hp => hp.2
      refine hcall.bind fun d _ ht => ?_
      have hp := Path.of (.touch hc ht) (List.mem_singleton.mpr rfl)
      exact check_active_found (hp.opened ho) (get_put hc d) _

lemma reading_found {c : Connection (Recorded H)} (ho : Opened c) (events : Ready) :
    Meets (reading events c) Found fun _ => True := by
  unfold reading
  split
  · refine ((read_meets c).of_stops fun _ hp => hp.2).bind fun r hr _ => ?_
    exact found (told_meets (ho.of_state (read_inward hr).state))
  · trivial

lemma writing_found {c : Connection (Recorded H)} (ho : Opened c) (events : Ready) :
    Meets (writing events c) Found fun _ => True := by
  unfold writing
  split
  · exact found (told_meets (write_opened ho rfl))
  · trivial

/-- An event of a socket, when there is a connection in the slot. -/
lemma handle_socket_found (ho : AllOpened h) {t : Token} {c : Connection (Recorded H)}
    (hc : h.connections.get t = some c) (events : Ready) :
    Meets (h.handle_socket t events) Found fun _ => True := by
  rw [handle_socket_eq hc (ho t c hc)]
  refine (reading_found (ho t c hc) events).bind fun d hd _ => ?_
  have hod := reading_opened (ho t c hc) hd
  refine (writing_found hod events).bind fun e he _ => ?_
  have hoe := writing_opened hod he
  refine check_active_found (fun j x hx => ?_) (get_put hc e) _
  rw [Io.Handler.put, Slab.get_set] at hx
  split at hx
  · cases hx
    exact hoe
  · exact ho j x hx

/-- **An event indexes no empty slot** but that of its own socket. -/
theorem handle_event_found (hs : Sound h) (ho : AllOpened h) {token : Token} {events : Ready}
    (ht : token ≠ ALL → token ≠ TIMER → token ≠ QUEUE → ∃ c, h.connections.get token = some c) :
    Meets (h.handle_event token events) Found fun _ => True := by
  unfold Io.Handler.handle_event
  split
  · exact .stop Panic.noConfusion
  split
  · exact found (handle_listener_deeds h events)
  rename_i hall
  split
  · refine (Meets.foldlM (I := AllOpened) ho fun number _ g hg => ?_).mono fun _ _ => trivial
    exact (expire_found hg number).of_ok fun g' hg' =>
      ((expire_deeds hg number).holds g' hg').opened hg
  rename_i htimer
  split
  · exact handle_commands_found hs ho
  rename_i hqueue
  obtain ⟨c, hc⟩ := ht hall htimer hqueue
  exact handle_socket_found ho hc events

end Steps

end XnetSocket.Indexing
