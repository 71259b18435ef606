import XnetSocket.EndOfStream
import XnetSocket.Outbound
import XnetSocket.Deeds

/-!
The interest in writing.

A connection in the slab wants to write when it has output left, unless it wants nothing at all.
Only one accepted in spite of the poll starts otherwise: the report of the failure sets its
interest up for an answer that is never put into its output.
-/

namespace XnetSocket.Interest

open Buffer Runs Connection Lifecycle Evolution Custody Joining Touches Deeds Outbound EndOfStream

variable {F H : Type}

/-- Something is left to be written. -/
def Pending (c : Connection H) : Prop := c.out_buffer.position < c.out_buffer.get_ref.len

/-- The interest in writing is for output that is left. -/
structure Honest (c : Connection H) : Prop where
  bounded : c.out_buffer.InBounds
  pending : c.events.is_writable = true → Pending c

/-- The interest in writing matches the output that is left, unless there is no interest at all. -/
structure Matched (c : Connection H) : Prop where
  bounded : c.out_buffer.InBounds
  interest : c.events = .empty ∨ (c.events.is_writable = true ↔ Pending c)

lemma Matched.honest {c : Connection H} (h : Matched c) : Honest c := by
  refine ⟨h.bounded, fun hw => ?_⟩
  rcases h.interest with he | hi
  · rw [he] at hw
    cases hw
  · exact hi.mp hw

lemma pending_iff {c : Connection H} : Pending c ↔ c.out_buffer.bytes ≠ [] := by
  rw [← List.length_pos_iff, Cursor.bytes_length]
  unfold Pending Cursor.position Cursor.get_ref Vec.len
  omega

/-- Bringing the interest up to date. -/
lemma check_events_matched {c : Connection H} (ho : Opened c) (h : Honest c) :
    Matched c.check_events := by
  have hb : c.check_events.out_buffer = c.out_buffer := (check_events_calm c).out_buffer
  refine ⟨hb ▸ h.bounded, Or.inr ?_⟩
  unfold Pending
  rw [hb]
  unfold check_events
  rw [if_neg (by rw [ho.not_connecting]; simp)]
  split
  · rename_i hp
    simpa [Ready.insert, Ready.is_writable, writable] using hp
  · rename_i hp
    have hw : c.events.is_writable = false := by
      cases hw : c.events.is_writable
      · rfl
      · exact absurd (h.pending hw) hp
    simp only [Ready.is_writable] at hw
    simpa [Ready.insert, Ready.is_writable, readable, hw] using hp

/-! ### The methods -/

lemma send_close_matched {c c' : Connection H} {code : CloseCode} {reason : String}
    {res : Result Unit} (ho : Opened c) (hm : Honest c)
    (h : c.send_close code reason = .ok (c', res)) : Matched c' := by
  rw [send_close_opened ho h]
  exact check_events_matched (Or.inr rfl) ⟨hm.bounded, hm.pending⟩

section Methods

variable [Host]

lemma send_message_matched {c c' : Connection H} {msg : Message} {res : Result Unit}
    (ho : Opened c) (hm : Matched c) (h : c.send_message msg = .ok (c', res)) : Matched c' := by
  unfold send_message at h
  split at h
  · cases h
    exact hm
  obtain ⟨out, r, hb, hin, hbytes, -⟩ := check_buffer_out_spec hm.bounded msg.into_data
  dsimp only at h
  rw [hb, ok_bind] at h
  rcases r with err | u
  · cases h
    refine ⟨hin, hm.interest.imp id fun hi => hi.trans ?_⟩
    rw [pending_iff, pending_iff, hbytes]
  · cases h
    refine check_events_matched ho ⟨Cursor.append_inBounds hin _, fun hw => pending_iff.mpr ?_⟩
    change ((out.seek_end.write msg.into_data).seek_start out.pos).bytes ≠ []
    rw [Cursor.append_bytes hin, hbytes]
    exact List.append_ne_nil_of_left_ne_nil (pending_iff.mp (hm.honest.pending hw)) _

/-- A write that fails has given the interest in writing up. -/
lemma write_matched {c : Connection H} (ho : Opened c) (hm : Matched c) :
    (c.write.2 = .ok () ∧ Matched c.write.1) ∨
      ∃ err, c.write.2 = .error (.from_io err) ∧ Honest c.write.1 := by
  have hin := (write_spec hm.bounded).1
  have hgone : (c.events.remove writable).is_writable = false := by
    simp [Ready.remove, Ready.is_writable, writable]
  have hquiet : ∀ (sock : TcpStream) (out : Cursor UInt8), out.InBounds →
      Honest { c with events := c.events.remove writable, socket := sock, out_buffer := out } :=
    fun sock out hb => ⟨hb, fun hw => by rw [hgone] at hw; cases hw⟩
  obtain ⟨sock, out, ⟨hr, hw⟩ | ⟨err, hr, hw⟩⟩ := write_frame ho <;> rw [hw] at hin ⊢
  · rw [(check_events_calm _).out_buffer] at hin
    exact Or.inl ⟨hr, check_events_matched
      (c := { c with events := _, socket := _, out_buffer := _ }) ho (hquiet sock out hin)⟩
  · exact Or.inr ⟨err, hr, hquiet sock out hin⟩

variable [Handler H]

omit [Host] in
/-- A disconnected connection wants nothing. -/
lemma disconnect_matched {c : Connection H} (hb : c.out_buffer.InBounds) :
    Matched c.disconnect := by
  refine ⟨(disconnect_calm c).out_buffer ▸ hb, Or.inl ?_⟩
  unfold disconnect
  split <;> rfl

omit [Host] in
lemma close_on_matched {c c' : Connection H} {err : Error} {panics : Bool} {code : CloseCode}
    (ho : Opened c) (hm : Honest c) (h : c.close_on err panics code = .ok c') : Matched c' := by
  cases panics
  · rw [close_on_eq, bind_eq_ok] at h
    obtain ⟨⟨d, res⟩, hs, h⟩ := h
    cases h
    exact send_close_matched (c := { c with handler := Handler.on_error c.handler err }) ho
      ⟨hm.bounded, hm.pending⟩ hs
  · cases h

/-- Reporting an error keeps the interest right, and sets it right when the error disconnects. -/
lemma error_matched {c c' : Connection H} {err : Error} (ho : Opened c) (hh : Honest c)
    (hm : disconnects err.kind = true ∨ Matched c) (h : c.error err = .ok c') : Matched c' := by
  have hreport : ∀ {d panics}, disconnects err.kind = false → c.report err panics = .ok d →
      Matched d := fun hk hr => by
    rw [report_eq hr]
    rcases hm with hm | hm
    · rw [hk] at hm
      cases hm
    · exact ⟨hm.bounded, hm.interest⟩
  have hlost : ∀ {d panics}, c.report err panics = .ok d → Matched d.disconnect := fun hr => by
    refine disconnect_matched ?_
    rw [report_eq hr]
    exact hh.bounded
  unfold Connection.error at h
  split at h
  · rename_i req res hs
    have := ho.not_connecting
    rw [hs] at this
    cases this
  · split at h <;> rename_i hk <;> rw [hk] at hreport
    · exact close_on_matched ho hh h
    · exact close_on_matched ho hh h
    · exact close_on_matched ho hh h
    · exact close_on_matched ho hh h
    · obtain ⟨d, hd, h⟩ := bind_eq_ok.mp h
      cases h
      exact hlost hd
    · exact hreport rfl h
    · exact hreport rfl h
    · exact hreport rfl h
    · obtain ⟨d, hd, h⟩ := bind_eq_ok.mp h
      cases h
      exact hlost hd

lemma read_matched {c c' : Connection H} {res : Result Unit} (ho : Opened c) (hm : Matched c)
    (h : c.read = .ok (c', res)) : Matched c' := by
  rcases read_ok h with ⟨rfl, -⟩ | ⟨d, r, hb, hf⟩
  · exact hm
  obtain ⟨hi, he, -⟩ := buffer_in_loop_inward _ hb
  have hd : Matched d := by
    refine ⟨hi.out_buffer ▸ hm.bounded, ?_⟩
    unfold Pending
    rw [he, hi.out_buffer]
    exact hm.interest
  have hdata : ∀ {e r}, d.read_data = (e, r) → Matched e := fun {e r} hx => by
    have hin := read_data_inward d
    have hev : d.read_data.1.events = d.events := by
      unfold read_data
      dsimp only
      split <;> rfl
    rw [hx] at hin hev
    refine ⟨hin.out_buffer ▸ hd.bounded, ?_⟩
    unfold Pending
    rw [show e.events = d.events from hev, hin.out_buffer]
    exact hd.interest
  cases hf with
  | failed => exact hd
  | blocked => exact hd
  | refused hx => exact hdata hx
  | handed hx => exact hdata hx
  | half_closed hx hw =>
    refine ⟨(hdata hx).bounded, Or.inr (iff_of_true ?_ ((hdata hx).honest.pending hw))⟩
    simp only [Ready.is_writable] at hw
    simp [Ready.remove, Ready.is_writable, readable, hw]
  | closed hx => exact disconnect_matched (hdata hx).bounded

/-- **Whatever the loop does to a connection, its interest stays right.** -/
theorem touch_matched {d : Deed} {c c' : Connection H} (ho : Opened c) (hm : Matched c)
    (h : Touch d c c') : Matched c' := by
  have hheard : ∀ handler : H, Matched { c with handler := handler } := fun _ =>
    ⟨hm.bounded, hm.interest⟩
  have htold : ∀ {d e : Connection H} {err : Error}, Opened d → Matched d →
      d.error err = .ok e → Matched e := fun ho hd he => error_matched ho hd.honest (Or.inr hd) he
  cases h with
  | supply reads writes => exact ⟨hm.bounded, hm.interest⟩
  | message h => exact send_message_matched ho hm h
  | message_told h he =>
    exact htold (send_message_opened ho h) (send_message_matched ho hm h) he
  | close h => exact send_close_matched ho hm.honest h
  | tell h => exact htold ho hm h
  | read h => exact read_matched ho hm h
  | read_told h he =>
    exact htold (ho.of_state (read_inward h).state) (read_matched ho hm h) he
  | write h =>
    rcases write_matched ho hm with ⟨-, hw⟩ | ⟨err, hr, -⟩ <;> rw [h] at *
    · exact hw
    · cases hr
  | write_told h he =>
    have ho' := write_opened ho h
    rcases write_matched ho hm with ⟨hr, -⟩ | ⟨err, hr, hw⟩ <;> rw [h] at *
    · cases hr
    · cases hr
      exact error_matched ho' hw (Or.inl rfl) he
  | new_timeout h =>
    obtain ⟨handler, rfl | ⟨err, he⟩⟩ := take_timeout_cases h
    · exact hheard handler
    · exact htold (d := { c with handler := handler }) ho (hheard handler) he
  | timeout h =>
    obtain ⟨handler, rfl | ⟨err, he⟩⟩ := trigger_cases h
    · exact hheard handler
    · exact htold (d := { c with handler := handler }) ho (hheard handler) he
  | shut h =>
    rw [shutdown_eq, bind_eq_ok] at h
    obtain ⟨⟨d, res⟩, hs, h⟩ := h
    cases h
    exact send_close_matched (c := { c with handler := Handler.on_shutdown c.handler }) ho
      ⟨hm.bounded, hm.honest.pending⟩ hs

/-- Reading a connection that has output left never disconnects it. -/
theorem read_spares {c c' : Connection (Recorded H)} {res : Result Unit} (ho : Opened c)
    (hw : c.events.is_writable = true) (h : c.read = .ok (c', res)) :
    c'.events.is_writable = true ∧ closes c'.handler.calls = closes c.handler.calls := by
  rcases read_ok h with ⟨rfl, -⟩ | ⟨d, r, hb, hf⟩
  · exact ⟨hw, rfl⟩
  obtain ⟨-, he, hh⟩ := buffer_in_loop_inward _ hb
  have hdata : ∀ {e r}, d.read_data = (e, r) → e.events = c.events ∧
      closes e.handler.calls = closes c.handler.calls := fun {e r} hx => by
    obtain ⟨hev, hcl⟩ := read_data_quiet d
    rw [hx] at hev hcl
    exact ⟨hev.trans he, by rw [← hh]; exact hcl⟩
  cases hf with
  | failed => exact ⟨he ▸ hw, by rw [hh]⟩
  | blocked => exact ⟨he ▸ hw, by rw [hh]⟩
  | refused hx =>
    obtain ⟨hev, hcl⟩ := hdata hx
    exact ⟨hev ▸ hw, hcl⟩
  | handed hx =>
    obtain ⟨hev, hcl⟩ := hdata hx
    exact ⟨hev ▸ hw, hcl⟩
  | half_closed hx hwe =>
    refine ⟨?_, (hdata hx).2⟩
    simp only [Ready.is_writable] at hwe
    simp [Ready.remove, Ready.is_writable, readable, hwe]
  | closed hx hwe =>
    rw [(hdata hx).1, hw] at hwe
    cases hwe

end Methods

/-! ### Runs -/

section Runs

variable [Factory F H] [Handler H] [Host]

/-- An accepted peer is watched: an event of the listener leaves no token refused. -/
def Admits (h : Watched F H) (s : Io.Step) : Prop :=
  ∀ kind a, s = .on ALL kind a → ∀ h', h.step s = .ok h' → h'.poll.refused = h.poll.refused

/-- The interest of every connection in the slab is right. -/
def AllMatched (h : Watched F H) : Prop := ∀ t c, h.connections.get t = some c → Matched c

lemma act_matched {d : Deed} {h h' : Watched F H} (ha : Act d h h') (hd : d ≠ .strand)
    (ho : AllOpened h) (hm : AllMatched h) : AllMatched h' := by
  refine ha.slots (fun t c c' hc ht hmc => touch_matched (ho t c hc) hmc ht)
    (fun tok handler c hb he => ?_) hm
  have hread := he.resolve_left hd
  refine ⟨hb.out_buffer ▸ Cursor.new_inBounds _, Or.inr (iff_of_false ?_ ?_)⟩
  · rw [hread]
    exact Bool.false_ne_true
  · rw [pending_iff, hb.out_buffer]
    exact fun hne => hne rfl

/-- Only an event of the listener can leave a connection stranded. -/
lemma admitted_path {h h' : Watched F H} {s : Io.Step} (ho : AllOpened h) (ha : Admits h s)
    (hs : h.step s = .ok h') : ∃ ds, .strand ∉ ds ∧ Path ds h h' := by
  have hp := step_path ho hs
  by_cases hall : ∃ kind a, s = .on ALL kind a
  · obtain ⟨kind, a, rfl⟩ := hall
    exact ⟨_, by simp, hp.not_stranded (ha kind a rfl h' hs)⟩
  · refine ⟨_, fun hmem => hall ?_, hp⟩
    cases s with
    | input i =>
      cases i with
      | send cmd => simp [deeds] at hmem
      | event evt =>
        obtain ⟨token, kind, a⟩ := evt
        by_cases htok : token = ALL
        · exact ⟨kind, a, by rw [htok]; rfl⟩
        · have htaking : .strand ∉ taking h.queue.commands := by
            rcases h.queue.commands with _ | ⟨cmd, rest⟩
            · simp [taking]
            · rcases hsig : cmd.signal <;> simp [taking, commanded, connecting, hsig]
          simp only [deeds, happening, if_neg htok] at hmem
          split at hmem
          · simp [expiring] at hmem
          · split at hmem
            · simp [htaking] at hmem
            · simp [exchanging] at hmem
    | interrupted => simp [deeds] at hmem
    | check_count => simp [deeds] at hmem

/-- What a right interest is worth when the peer closes: a read that comes while output is left
disconnects nobody. -/
def Spares (h : Watched F H) : Prop :=
  ∀ (evt : Io.Event) c c' res, (h.supply evt.token evt.answers).connections.get evt.token =
    some c → (evt.kind.and c.events).is_readable = true → Pending c → c.read = .ok (c', res) →
    c'.events.is_writable = true ∧ closes c'.handler.calls = closes c.handler.calls

lemma spares_of_matched {h : Watched F H} (ho : AllOpened h) (hm : AllMatched h) : Spares h := by
  intro evt c c' res hc hr hp hread
  have hsup := supply_deeds h evt.token evt.answers
  have hopened := hsup.opened ho _ c hc
  have hmatched : AllOpened (h.supply evt.token evt.answers) ∧
      AllMatched (h.supply evt.token evt.answers) := by
    refine hsup.inv (I := fun g => AllOpened g ∧ AllMatched g) (fun d hd g g' ha hg => ?_) ⟨ho, hm⟩
    exact ⟨ha.opened hg.1, act_matched ha (by rintro rfl; simp at hd) hg.1 hg.2⟩
  refine read_spares hopened ?_ hread
  rcases (hmatched.2 _ c hc).interest with he | hi
  · rw [he] at hr
    simp [Ready.and, Ready.is_readable, Ready.empty] at hr
  · exact hi.mpr hp

/-- **The interest in writing matches the output that is left**, in every state of a run in which
the poll watches every accepted peer; so the end of a stream disconnects no connection that has
output left. -/
theorem interest_matched {inner : F} {settings : Settings} {addr : Option SocketAddr}
    {steps : List Io.Step} {h h' : Watched F H}
    (hh : Io.Handler.started (Ledger.blank inner) settings addr = .ok h)
    (ha : Along Io.Handler.step Admits h steps) (hr : run Io.Handler.step h steps = .ok h') :
    (∀ t c, h'.connections.get t = some c →
      c.events = .empty ∨ (c.events.is_writable = true ↔ Pending c)) ∧ Spares h' := by
  have hempty : AllMatched h := fun t c hc => by
    rw [(Io.Handler.started_fresh hh).connections, Slab.get_with_capacity] at hc
    cases hc
  have hall : AllOpened h' ∧ AllMatched h' := by
    refine run_inv (I := fun g => AllOpened g ∧ AllMatched g) (fun g s g' hg hadm hs => ?_)
      ⟨started_opened hh, hempty⟩ ha hr
    obtain ⟨ds, hds, hp⟩ := admitted_path hg.1 hadm hs
    refine hp.inv (I := fun g => AllOpened g ∧ AllMatched g) (fun d hd g g' hact hg => ?_) hg
    exact ⟨hact.opened hg.1, act_matched hact (fun he => hds (he ▸ hd)) hg.1 hg.2⟩
  exact ⟨fun t c hc => (hall.2 t c hc).interest, spares_of_matched hall.1 hall.2⟩

/-- A run in which the poll refuses nothing admits every peer. -/
lemma along_admits {h h' : Watched F H} {steps : List Io.Step} (ho : AllOpened h)
    (hr : run Io.Handler.step h steps = .ok h') (hrefused : h'.poll.refused = h.poll.refused) :
    Along Io.Handler.step Admits h steps := by
  have hrest : ∀ {g ls}, AllOpened g → run Io.Handler.step g ls = .ok h' →
      g.poll.refused <+: h'.poll.refused := fun {g ls} hg hrun => by
    induction ls generalizing g with
    | nil => cases hrun; exact List.prefix_refl _
    | cons s ls ih =>
      obtain ⟨t, ht, hrun⟩ := run_cons.mp hrun
      have hp := step_path hg ht
      exact hp.refused.trans (ih (hp.opened hg) hrun)
  induction steps generalizing h with
  | nil => trivial
  | cons s steps ih =>
    obtain ⟨t, ht, hr⟩ := run_cons.mp hr
    have hp := step_path ho ht
    have hsame : t.poll.refused = h.poll.refused :=
      (hp.refused.eq_of_length_le (hrefused ▸ (hrest (hp.opened ho) hr).length_le)).symm
    refine (along_cons ht).mpr ⟨fun kind a _ t' ht' => ?_,
      ih (hp.opened ho) hr (hrefused.trans hsame.symm)⟩
    rw [ht] at ht'
    cases ht'
    exact hsame

end Runs

/-- A peer connects, a message for it is only half taken by its socket, and it closes. -/
def half_sent : List Io.Step :=
  [accepts_peer, .post (Sender.send ⟨0, 0⟩ (.text "abcd")), takes_command,
    .on 0 ⟨true, true⟩ { reads := [.ok []], writes := [.ok 2] }]

theorem interest_matched_half_sent :
    ∃ h' c, serve calm half_sent = .ok h' ∧ h'.connections.get 0 = some c ∧ Pending c ∧
      (c.events = .empty ∨ (c.events.is_writable = true ↔ Pending c)) := by
  have hrun : Returns (@Io.Handler.started _ (Recorded M) plain (Ledger.blank fun _ : Sender => {})
      calm (some ⟨"127.0.0.1:3012"⟩)) fun h => Returns (run serve_on h half_sent) fun h' =>
      h'.poll.refused = h.poll.refused ∧
      (h'.connections.get 0).map (fun c => (c.out_buffer.position, c.out_buffer.get_ref.len)) =
        some (2, 4) := by decide +kernel
  obtain ⟨h, hh, h', hr, hrefused, hc⟩ := hrun
  obtain ⟨c, hc, hpos⟩ := Option.map_eq_some_iff.mp hc
  obtain ⟨hpos, hlen⟩ := Prod.mk.inj hpos
  have ha := @along_admits _ _ _ _ plain h h' half_sent (@started_opened _ _ plain _ _ _ _ hh)
    hr hrefused
  refine ⟨h', c, bind_eq_ok.mpr ⟨h, hh, hr⟩, hc, ?_,
    (@interest_matched _ _ _ _ plain _ _ _ _ h h' hh ha hr).1 0 c hc⟩
  unfold Pending
  omega

end XnetSocket.Interest
