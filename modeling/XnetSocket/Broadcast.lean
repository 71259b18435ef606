import XnetSocket.Upkeep
import XnetSocket.DataPath
import XnetSocket.Outbound
import XnetSocket.Touches

/-!
A broadcast is one command for each connection.

A broadcast sends to all connections first, then schedules them all, and reports the failures
last; a directed command does the three for its own connection at once. What a connection is left
with depends on nothing but itself in either case, so a broadcast of a message or of a close
request leaves all of them as one directed command after another does.
-/

namespace XnetSocket.Broadcast

open Buffer Runs Connection Outbound Lifecycle Evolution Custody DataPath Upkeep
open Touches (told)

variable {F H : Type}

/-- Every connection is in the slot of its token and has the settings of the loop, and the slots
are too few to be mistaken for the tokens of the loop. -/
structure Housed (h : Watched F H) : Prop where
  capacity : h.connections.capacity ≤ isize_MAX
  token : ∀ t c, h.connections.get t = some c → c.token = t
  settings : ∀ t c, h.connections.get t = some c → c.settings = h.settings

lemma Sound.housed {h : Watched F H} (hs : Sound h) : Housed h :=
  ⟨by rw [hs.capacity]; exact hs.bounded, hs.token, hs.settings⟩

section Obeying

variable [Handler H] [Host]

/-- What a command has done to the connection it is for. -/
def asked (signal : Signal) (c : Connection H) : Except Panic (Connection H × Result Unit) :=
  match signal with
  | .Message msg => c.send_message msg
  | .Close code reason => c.send_close code reason
  | _ => .ok (c, .ok ())

/-- The connection afterwards: it hears of its own failure. -/
def obeyed (signal : Signal) (c : Connection H) : Except Panic (Connection H) :=
  asked signal c >>= told

/-- A command for every connection, in the order of the slots. -/
def all_obeyed (signal : Signal) (s : Slab (Connection H)) :
    Except Panic (Slab (Connection H) × List Unit) :=
  s.iter_mut fun c => do
    let c ← obeyed signal c
    .ok (c, [])

omit [Handler H] [Host] in
lemma send_close_quiet (c : Connection H) (hn : c.state.is_connecting = false) (code : CloseCode)
    (reason : String) : ∃ c', c.send_close code reason = .ok (c', .ok ()) := by
  unfold send_close
  cases hs : c.state <;> simp_all [State.is_connecting]

/-- With no setting that asks to panic, an error can always be reported. -/
lemma error_returns {c : Connection H} (hq : c.settings.Quiet) (err : Error) :
    ∃ c', c.error err = .ok c' := by
  obtain ⟨-, -, hinternal, hcapacity, hprotocol, hencoding, hqueue, hio, htimeout⟩ := hq
  have hclose : c.state.is_connecting = false →
      ∀ code, ∃ c', c.close_on err false code = .ok c' := by
    intro hn code
    obtain ⟨c', hc'⟩ := send_close_quiet ({ c with handler := Handler.on_error c.handler err }) hn
      code err.to_string
    exact ⟨c', by simp only [close_on, hc', Bool.false_eq_true, if_false, ok_bind]⟩
  unfold Connection.error
  split
  · split <;> exact ⟨_, rfl⟩
  · rename_i hs
    have hn : c.state.is_connecting = false := by
      cases hst : c.state <;> first | rfl | exact absurd hst (hs _ _)
    split
    · rw [hinternal]; exact hclose hn _
    · rw [hcapacity]; exact hclose hn _
    · rw [hprotocol]; exact hclose hn _
    · rw [hencoding]; exact hclose hn _
    · exact ⟨_, rfl⟩
    · exact ⟨_, rfl⟩
    · rw [htimeout]; exact ⟨_, rfl⟩
    · rw [hqueue]; exact ⟨_, rfl⟩
    · rw [hio]; exact ⟨_, rfl⟩

/-- The message is behind what the output buffer held, or what it had yet to write, once. -/
structure Delivered (msg : Message) (c c' : Connection H) : Prop where
  data : ∃ kept, List.IsSuffix kept c.out_buffer.get_ref.data ∧
    c'.out_buffer.get_ref.data = kept ++ msg.into_data
  bytes : c.out_buffer.InBounds → c'.out_buffer.bytes = c.out_buffer.bytes ++ msg.into_data

omit [Handler H] in
/-- Making room drops at most what has been written. -/
lemma check_buffer_out_kept {c c' : Connection H} {frame : Bytes} {res : Result Unit}
    (h : c.check_buffer_out frame = .ok (c', res)) :
    List.IsSuffix c'.out_buffer.get_ref.data c.out_buffer.get_ref.data := by
  unfold check_buffer_out at h
  split at h
  · obtain ⟨pending, hp, h⟩ := bind_eq_ok.mp h
    have hsuf : List.IsSuffix pending c.out_buffer.get_ref.data := by
      unfold slice_from at hp
      split at hp <;> cases hp
      exact List.drop_suffix _ _
    dsimp only at h
    split at h
    · split at h <;> cases h
      · show List.IsSuffix (Vec.reserve _ _).data _
        rw [Vec.reserve_data]
        exact hsuf
      · exact List.suffix_refl _
    · cases h
      exact hsuf
  · cases h
    exact List.suffix_refl _

omit [Handler H] in
/-- A message that is sent is delivered. -/
lemma send_message_delivers {c c' : Connection H} {msg : Message}
    (hn : c.state.is_closing = false) (h : c.send_message msg = .ok (c', .ok ())) :
    Delivered msg c c' := by
  constructor
  · unfold send_message at h
    rw [if_neg (by simp [hn])] at h
    obtain ⟨⟨d, res⟩, hb, h⟩ := bind_eq_ok.mp h
    have hkept := check_buffer_out_kept hb
    rcases res with err | u
    · cases h
    · cases h
      refine ⟨_, hkept, ?_⟩
      rw [(check_events_calm _).out_buffer]
      exact congrArg Vec.data (Cursor.write_seek_end d.out_buffer msg.into_data)
  · intro hin
    obtain ⟨d, res, hd, -, -, hbytes, -⟩ := send_message_spec hin msg
    rw [h] at hd
    cases hd
    rw [hbytes, accepts, if_neg (by simp [hn])]

lemma obeyed_sent {c c' : Connection H} {msg : Message}
    (h : c.send_message msg = .ok (c', .ok ())) : obeyed (.Message msg) c = .ok c' := by
  show (c.send_message msg >>= _) = _
  rw [h]
  rfl

omit [Handler H] in
lemma asked_same {signal : Signal} {c c' : Connection H} {res : Result Unit}
    (h : asked signal c = .ok (c', res)) : Same c c' := by
  cases signal with
  | Message msg =>
    obtain ⟨out, rfl | rfl⟩ := send_message_frame h
    · exact ⟨rfl, rfl, rfl⟩
    · have hs := (check_events_calm ({ c with out_buffer := out } : Connection H)).same
      exact ⟨hs.token, hs.settings, hs.connection_id⟩
  | Close code reason =>
    have hs : c.send_close code reason = .ok (c', res) := h
    exact (send_close_calm hs).same
  | _ => cases h; exact .refl c

end Obeying

section Steps

variable [Factory F H] [Handler H] [Host]

/-! ### Failures reported late -/

omit [Factory F H] in
lemma bury_put {h h' : Watched F H} {p : Token × Error} {t : Token} (hne : t ≠ p.1)
    (hb : h.bury p = .ok h') (d : Connection (Recorded H)) :
    (h.put t d).bury p = .ok (h'.put t d) := by
  obtain ⟨c, hat, hb⟩ := bind_eq_ok.mp hb
  obtain ⟨c', he, hb⟩ := bind_eq_ok.mp hb
  cases hb
  have hget : (h.put t d).at_slot p.1 = .ok c := by
    unfold Io.Handler.at_slot Io.Handler.put
    rw [Slab.get_set_ne hne, at_slot_eq hat]
  unfold Io.Handler.bury
  rw [hget, ok_bind, he, ok_bind]
  unfold Io.Handler.put
  rw [Slab.set_comm _ hne]

omit [Factory F H] in
/-- Reporting failures leaves room for a change of another connection first. -/
lemma bury_all_put {h h' : Watched F H} {dead : List (Token × Error)} {t : Token}
    (hne : ∀ p ∈ dead, t ≠ p.1) (hb : dead.foldlM Io.Handler.bury h = .ok h')
    (d : Connection (Recorded H)) :
    dead.foldlM Io.Handler.bury (h.put t d) = .ok (h'.put t d) := by
  induction dead generalizing h with
  | nil => cases hb; rfl
  | cons p dead ih =>
    rw [List.foldlM_cons] at hb ⊢
    obtain ⟨g, hg, hb⟩ := bind_eq_ok.mp hb
    rw [bury_put (hne p (by simp)) hg d, ok_bind]
    exact ih (fun q hq => hne q (List.mem_cons_of_mem _ hq)) hb

/-- The visits to the slots in `p` have left `acc`, where their connections obeying one by one would
leave `s`: the failures that are to be reported make the difference. -/
structure Batched (h : Watched F H) (p : List Token)
    (acc : Slab (Connection (Recorded H)) × List (Token × Error))
    (s : Slab (Connection (Recorded H))) : Prop where
  late : ∀ q ∈ acc.2, q.1 ∈ p
  sent : ∀ i ∉ p, acc.1.get i = h.connections.get i
  told : ∀ i ∉ p, s.get i = h.connections.get i
  settled : ∀ os, acc.2.foldlM Io.Handler.bury { h with connections := acc.1, poll := os } =
    .ok { h with connections := s, poll := os }

omit [Factory F H] in
/-- A visit that does not fail. -/
lemma Batched.well {h : Watched F H} {p : List Token} {s s' : Slab (Connection (Recorded H))}
    {dead : List (Token × Error)} (hb : Batched h p (s, dead) s') {k : Token} (hk : k ∉ p)
    (d : Connection (Recorded H)) : Batched h (p ++ [k]) (s.set k d, dead ++ []) (s'.set k d) := by
  rw [List.append_nil]
  refine ⟨fun q hq => by simp [hb.late q hq], fun i hi => ?_, fun i hi => ?_, fun os => ?_⟩
  · simp only [List.mem_append, List.mem_singleton, not_or] at hi
    exact (Slab.get_set_ne (Ne.symm hi.2)).trans (hb.sent i hi.1)
  · simp only [List.mem_append, List.mem_singleton, not_or] at hi
    exact (Slab.get_set_ne (Ne.symm hi.2)).trans (hb.told i hi.1)
  · exact bury_all_put (fun q hq => (ne_of_mem_of_not_mem (hb.late q hq) hk).symm) (hb.settled os) d

omit [Factory F H] in
/-- A visit that fails; the failure is reported to the connection when its turn comes. -/
lemma Batched.failed {h : Watched F H} {p : List Token} {s s' : Slab (Connection (Recorded H))}
    {dead : List (Token × Error)} (hb : Batched h p (s, dead) s') {k : Token} (hk : k ∉ p)
    (hin : s'.get k ≠ none) {d e : Connection (Recorded H)} {err : Error}
    (he : d.error err = .ok e) :
    Batched h (p ++ [k]) (s.set k d, dead ++ [(k, err)]) (s'.set k e) := by
  obtain ⟨c, hc⟩ := Option.ne_none_iff_exists'.mp hin
  have hw := hb.well hk d
  rw [List.append_nil] at hw
  refine ⟨fun q hq => ?_, hw.sent, fun i hi => ?_, fun os => ?_⟩
  · rcases List.mem_append.mp hq with hq | hq
    · exact hw.late q hq
    · rw [List.mem_singleton.mp hq]
      simp
  · simp only [List.mem_append, List.mem_singleton, not_or] at hi
    exact (Slab.get_set_ne (Ne.symm hi.2)).trans (hb.told i hi.1)
  · have hat : ({ h with connections := s'.set k d, poll := os } : Watched F H).at_slot k =
        .ok d := by
      unfold Io.Handler.at_slot
      rw [Slab.get_set_self hc]
    rw [List.foldlM_append, hw.settled os, ok_bind, List.foldlM_cons]
    unfold Io.Handler.bury
    rw [hat, ok_bind, he, ok_bind]
    show Except.ok _ = _
    unfold Io.Handler.put
    rw [Slab.set_set]

/-- Sending to all connections, with the failures kept for later. -/
def all_asked (signal : Signal) (s : Slab (Connection (Recorded H))) :
    Except Panic (Slab (Connection (Recorded H)) × List (Token × Error)) :=
  s.iter_mut fun c => do
    let (c, res) ← asked signal c
    match res with
    | .ok () => .ok (c, [])
    | .error err => .ok (c, [(c.token, err)])

omit [Handler H] [Host] in
/-- When it is the turn of a slot, there is a connection in it, and it has not been its turn. -/
lemma keys_turn {s : Slab (Connection (Recorded H))} {p q : List Token} {k : Token}
    (hkeys : s.keys = p ++ k :: q) : k ∉ p ∧ ∃ c, s.get k = some c := by
  constructor
  · have hnd := s.nodup_keys
    rw [hkeys, List.nodup_append] at hnd
    exact fun hk => hnd.2.2 k hk k (by simp) rfl
  · exact Option.isSome_iff_exists.mp (Slab.mem_keys.mp (by rw [hkeys]; simp))

omit [Factory F H] in
lemma visit_batched {h : Watched F H} {signal : Signal} (hh : Housed h) (hq : h.settings.Quiet) :
    Alike (fun r s => Batched h h.connections.keys r s.1) (all_asked signal h.connections)
      (all_obeyed signal h.connections) := by
  unfold all_asked all_obeyed Slab.iter_mut
  refine Alike.foldlM (R := fun p acc (r : Slab _ × List Unit) => Batched h p acc r.1)
    ⟨by simp, fun _ _ => rfl, fun _ _ => rfl, fun os => rfl⟩ ?_
  rintro p k q hkeys ⟨s, dead⟩ ⟨s', us⟩ hb
  obtain ⟨hk, c, hc⟩ := keys_turn hkeys
  have hs : s.get k = some c := (hb.sent k hk).trans hc
  have hs' : s'.get k = some c := (hb.told k hk).trans hc
  unfold Slab.visit
  simp only [hs, hs', obeyed]
  rcases hask : asked signal c with p | ⟨d, err | u⟩
  · rfl
  · have hsame := asked_same hask
    have hset : d.settings.Quiet := by
      rw [hsame.settings, hh.settings k c hc]
      exact hq
    obtain ⟨e, he⟩ := error_returns hset err
    simp only [ok_bind, told, he]
    rw [hsame.token, hh.token k c hc]
    exact hb.failed hk (by rw [hs']; simp) he
  · exact hb.well hk d

/-! ### The two ways to send -/

/-- One command for each connection, in the order of the slots. -/
def directed (h : Watched F H) (signal : Signal) : List Command :=
  h.connections.keys.filterMap fun t =>
    (h.connections.get t).map fun c => ⟨t, signal, c.connection_id⟩

/-- The connections are those in `s`, and nothing else differs but the poll. -/
def Leaves (h h' : Watched F H) (s : Slab (Connection (Recorded H))) : Prop :=
  ∃ os : Os, h' = { h with connections := s, poll := os }

lemma handle_broadcast_eq {h : Watched F H} {signal : Signal} (hd : carries_data signal = true) :
    h.handle_broadcast signal = (all_asked signal h.connections >>= fun r =>
      ({ h with connections := r.1 } : Watched F H).finish_broadcast r.2) := by
  cases signal with
  | Message msg => exact bind_assoc _ _ _
  | Close code reason => exact bind_assoc _ _ _
  | _ => cases hd

/-- Every connection obeys a broadcast. -/
lemma broadcast_obeyed {h : Watched F H} {signal : Signal} (hd : carries_data signal = true)
    (hh : Housed h) (ha : h.poll.Agrees) (hq : h.settings.Quiet) (id : UInt32) :
    Alike (fun h' r => Leaves h h' r.1) (h.handle_queue ⟨ALL, signal, id⟩)
      (all_obeyed signal h.connections) := by
  have hqueue : h.handle_queue ⟨ALL, signal, id⟩ = h.handle_broadcast signal := by
    unfold Io.Handler.handle_queue
    rw [if_neg (show ALL ≠ SYSTEM by decide), if_pos rfl]
  rw [hqueue, handle_broadcast_eq hd, ← bind_pure (all_obeyed signal h.connections)]
  refine (visit_batched hh hq).bind fun r s hb => ?_
  obtain ⟨os, hall⟩ := schedule_all_agrees (h := { h with connections := r.1 }) ha
  unfold Io.Handler.finish_broadcast
  rw [hall]
  dsimp only
  rw [List.append_nil, hb.settled os]
  exact ⟨os, rfl⟩

lemma handle_directed_eq {h : Watched F H} {signal : Signal} (hd : carries_data signal = true)
    (t : Token) (id : UInt32) :
    h.handle_directed t id signal =
      (h.with_id t id (asked signal) >>= fun h => h.schedule_at t) := by
  cases signal with
  | Message msg => rfl
  | Close code reason => rfl
  | _ => cases hd

/-- The connection in a slot obeys a command for it, and no other changes. -/
lemma handle_directed_obeyed {h : Watched F H} {signal : Signal} {t : Token}
    (hd : carries_data signal = true) (ha : h.poll.Agrees) {c : Connection (Recorded H)}
    (hc : h.connections.get t = some c) :
    Alike (fun h' c' => ∃ os : Os, os.Agrees ∧ h' = { h.put t c' with poll := os })
      (h.handle_directed t c.connection_id signal) (obeyed signal c) := by
  have hsched : ∀ c', ∃ os : Os, os.Agrees ∧
      (h.put t c').schedule_at t = .ok { h.put t c' with poll := os } := by
    intro c'
    unfold Io.Handler.schedule_at
    rw [get_put hc]
    dsimp only
    rw [schedule_agrees (h := h.put t c') ha]
    exact ⟨_, Os.Agrees.tail ha _, rfl⟩
  rw [handle_directed_eq hd]
  unfold Io.Handler.with_id obeyed
  rw [hc]
  dsimp only
  rw [if_pos rfl]
  rcases asked signal c with p | ⟨d, err | u⟩
  · rfl
  · simp only [ok_bind, told]
    rcases d.error err with p | e
    · rfl
    · obtain ⟨os, hos, hs⟩ := hsched e
      rw [ok_bind, ok_bind, hs]
      exact ⟨os, hos, rfl⟩
  · obtain ⟨os, hos, hs⟩ := hsched d
    simp only [ok_bind]
    rw [hs]
    exact ⟨os, hos, rfl⟩

/-- So do the commands one after another. -/
lemma directed_obeyed {h : Watched F H} {signal : Signal} (hd : carries_data signal = true)
    (hh : Housed h) (ha : h.poll.Agrees) :
    Alike (fun h' r => Leaves h h' r.1) (run Io.Handler.handle_queue h (directed h signal))
      (all_obeyed signal h.connections) := by
  unfold all_obeyed Slab.iter_mut directed
  rw [run_eq_foldlM, List.foldlM_filterMap]
  refine (Alike.foldlM (R := fun p h' (r : Slab _ × List Unit) => (∃ os : Os, os.Agrees ∧
    h' = { h with connections := r.1, poll := os }) ∧
      ∀ i ∉ p, r.1.get i = h.connections.get i) ⟨⟨h.poll, ha, rfl⟩, fun _ _ => rfl⟩ ?_).mono
    fun h' r hr => hr.1.imp fun os hos => hos.2
  rintro p k q hkeys h' ⟨s, us⟩ ⟨⟨os, hos, rfl⟩, hs⟩
  obtain ⟨hk, c, hc⟩ := keys_turn hkeys
  have hget : s.get k = some c := (hs k hk).trans hc
  have hlt := hh.capacity.trans_lt' (Slab.get_lt_capacity hc)
  have hne : k ≠ SYSTEM ∧ k ≠ ALL := by
    unfold isize_MAX at hlt
    unfold SYSTEM ALL usize_MAX
    omega
  have hqueue : ∀ g : Watched F H, g.handle_queue ⟨k, signal, c.connection_id⟩ =
      g.handle_directed k c.connection_id signal := by
    intro g
    unfold Io.Handler.handle_queue
    rw [if_neg hne.1, if_neg hne.2]
  unfold Slab.visit
  simp only [hc, hget, Option.map_some, hqueue]
  rw [← bind_pure (Io.Handler.handle_directed _ _ _ _), bind_assoc]
  refine (handle_directed_obeyed (h := { h with connections := s, poll := os }) hd hos hget).bind
    fun h' c' hh' => ?_
  obtain ⟨os', hos', rfl⟩ := hh'
  refine ⟨⟨os', hos', rfl⟩, fun i hi => ?_⟩
  simp only [List.mem_append, List.mem_singleton, not_or] at hi
  exact (Slab.get_set_ne (Ne.symm hi.2)).trans (hs i hi.1)

/-- The two are the same but for the poll. -/
def SameBut (h h' : Watched F H) : Prop := ∃ os : Os, h' = { h with poll := os }

lemma all_obeyed_returns {signal : Signal} {s : Slab (Connection (Recorded H))}
    (ht : ∀ t c, s.get t = some c → ∃ c', obeyed signal c = .ok c') :
    ∃ r, all_obeyed signal s = .ok r := by
  refine Slab.visit_returns s.nodup_keys (fun t _ c hc => ?_) []
  obtain ⟨c', hc'⟩ := ht t c hc
  exact ⟨(c', []), by rw [hc', ok_bind]⟩

lemma all_obeyed_get {signal : Signal} {s s' : Slab (Connection (Recorded H))} {us : List Unit}
    (ha : all_obeyed signal s = .ok (s', us)) {t : Token} {c : Connection (Recorded H)}
    (hc : s.get t = some c) : ∃ c', obeyed signal c = .ok c' ∧ s'.get t = some c' := by
  obtain ⟨c', cs, hf, hc', -⟩ := (Slab.iter_mut_visited ha).filled t
    (Slab.mem_keys.mpr (by simp [hc])) c hc
  obtain ⟨d, hd, hf⟩ := bind_eq_ok.mp hf
  cases hf
  exact ⟨_, hd, hc'⟩

/-- **A broadcast equals directed sends.** A broadcast of a message or of a close request leaves
the same connections, with the same calls of their handlers, as one command for each connection,
in the order of the slots; if one of them panics, both do. It goes through when every connection
can obey, failures to send included. Every connection is left as a command for it alone would leave
it, whatever the others are, and a message that one takes is in its output once. -/
theorem broadcast_equals_directed {h : Watched F H} {signal : Signal}
    (hd : carries_data signal = true) (hh : Housed h) (ha : h.poll.Agrees)
    (hq : h.settings.Quiet) (id : UInt32) :
    Alike SameBut (h.handle_queue ⟨ALL, signal, id⟩)
        (run Io.Handler.handle_queue h (directed h signal)) ∧
      ((∀ t c, h.connections.get t = some c → ∃ c', obeyed signal c = .ok c') →
        ∃ h', h.handle_queue ⟨ALL, signal, id⟩ = .ok h') ∧
      ∀ h', h.handle_queue ⟨ALL, signal, id⟩ = .ok h' → ∀ t c, h.connections.get t = some c →
        ∃ c', obeyed signal c = .ok c' ∧ h'.connections.get t = some c' ∧
          ∀ msg d, signal = .Message msg → c.state.is_closing = false →
            c.send_message msg = .ok (d, .ok ()) → c' = d ∧ Delivered msg c c' := by
  have hb := broadcast_obeyed hd hh ha hq id
  refine ⟨(hb.through (directed_obeyed hd hh ha)).mono ?_, fun ht => ?_, fun h' hh' t c hc => ?_⟩
  · rintro h₁ h₂ ⟨s, ⟨os₁, rfl⟩, os₂, rfl⟩
    exact ⟨os₂, rfl⟩
  · obtain ⟨r, hr⟩ := all_obeyed_returns ht
    obtain ⟨h', hh', -⟩ := hb.of_right hr
    exact ⟨h', hh'⟩
  · obtain ⟨⟨s, us⟩, hs, os, rfl⟩ := hb.of_left hh'
    obtain ⟨c', hobeyed, hc'⟩ := all_obeyed_get hs hc
    refine ⟨c', hobeyed, hc', ?_⟩
    rintro msg d rfl hn hsend
    rw [obeyed_sent hsend] at hobeyed
    cases hobeyed
    exact ⟨rfl, send_message_delivers hn hsend⟩

end Steps

/-! ### A broadcast to two peers, one of which has no room -/

/-- Output buffers that take two bytes and do not grow. -/
def tight : Settings := { calm with out_buffer_capacity := 2, out_buffer_grow := false }

/-- Two peers connect, and the first is sent two bytes. -/
def fills_one : List Io.Step :=
  [accepts_peer, accepts_peer, .post (Sender.send ⟨0, 0⟩ (.Binary [1, 2])), takes_command]

/-- A third byte, for both. -/
def third_byte : Signal := .Message (.Binary [3])

theorem broadcast_equals_directed_one_full :
    ∃ h h₁ h₂ : Watched (Sender → M) M, serve tight fills_one = .ok h ∧
      @Io.Handler.handle_queue _ _ _ _ plain h ⟨ALL, third_byte, 0⟩ = .ok h₁ ∧
      run (@Io.Handler.handle_queue _ _ _ _ plain) h (directed h third_byte) = .ok h₂ ∧
      h₂.connections = h₁.connections ∧
      (h₁.connections.get 0).map (fun c => (c.out_buffer.bytes, c.handler.calls.length)) =
        some ([1, 2], 1) ∧
      (h₁.connections.get 1).map (fun c => (c.out_buffer.bytes, c.handler.calls.length)) =
        some ([3], 0) := by
  have hrun : Returns (serve tight fills_one) fun h => h.poll.polls = [] ∧
      Returns (@Io.Handler.handle_queue _ _ _ _ plain h ⟨ALL, third_byte, 0⟩) fun h₁ =>
        (h₁.connections.get 0).map (fun c => (c.out_buffer.bytes, c.handler.calls.length)) =
          some ([1, 2], 1) ∧
        (h₁.connections.get 1).map (fun c => (c.out_buffer.bytes, c.handler.calls.length)) =
          some ([3], 0) := by
    decide +kernel
  obtain ⟨h, hr, hpolls, h₁, hh₁, h0, h1⟩ := hrun
  have ha : h.poll.Agrees := fun p hp => by rw [hpolls] at hp; cases hp
  have hq : h.settings.Quiet := by
    obtain ⟨g, hg, hsteps⟩ := bind_eq_ok.mp hr
    obtain ⟨queue, timer, hk⟩ := @run_keeps _ _ _ _ plain _ _ _ hsteps
    rw [hk.settings, (@Io.Handler.started_fresh _ _ plain _ _ _ _ hg).settings]
    simp [Settings.Quiet, tight, calm]
  obtain ⟨hboth, -⟩ := @broadcast_equals_directed _ _ _ _ plain h third_byte rfl
    (Sound.housed (@execute_sound _ _ _ _ plain _ _ _ _ _ hr)) ha hq 0
  obtain ⟨h₂, hh₂, os, rfl⟩ := hboth.of_left hh₁
  exact ⟨h, h₁, _, hr, hh₁, hh₂, rfl, h0, h1⟩

end XnetSocket.Broadcast
