import XnetSocket.Handshake
import XnetSocket.Mildness
import XnetSocket.Phantom

/-!
Both sides of a connection, through whatever the loop does to it.

Reading and writing keep the two pipes of a connection intact, a message puts bytes into its
output, and nothing else moves a byte. While the connection is open every byte it receives is
heard by its handler or still unread; one that was to be heard and is no text closes it.
-/

namespace XnetSocket.Streams

open Buffer Runs Connection Inbound Lifecycle Evolution Chunking Intake Phantom Custody Touches
open Deeds Outbound Handshake EndOfStream Mildness

variable {F H : Type}

lemma is_open_iff {state : State} : state.is_open = true ↔ state = .Open := by
  cases state <;> simp [State.is_open]

/-- An opened connection whose cursors lie within their buffers. -/
structure Buffered (c : Connection H) : Prop where
  opened : Opened c
  input : c.in_buffer.InBounds
  output : c.out_buffer.InBounds

section Touches

lemma Buffered.of_calm {c c' : Connection H} (hb : Buffered c) (hc : Calm c c') (ho : Opened c') :
    Buffered c' :=
  ⟨ho, by rw [hc.in_buffer]; exact hb.input, by rw [hc.out_buffer]; exact hb.output⟩

/-! ### The output -/

/-- Nothing is put into the output, and closing is for good. -/
structure Idles (c c' : Connection H) : Prop where
  output : (outbound c').all = (outbound c).all
  opens : c'.state = .Open → c.state = .Open

lemma Idles.refl (c : Connection H) : Idles c c := ⟨rfl, id⟩

lemma Idles.trans {c d e : Connection H} (h : Idles c d) (h' : Idles d e) : Idles c e :=
  ⟨h'.output.trans h.output, h.opens ∘ h'.opens⟩

/-- An opened connection that stays closing does not open. -/
lemma opens_of_awaiting {c c' : Connection H} (ho : Opened c) (ha : Awaiting c c') :
    c'.state = .Open → c.state = .Open := by
  intro hopen
  rcases ho with hc | hc
  · exact hc
  · rw [(ha hc).1] at hopen
    cases hopen

/-- Nothing happens to the buffers. -/
lemma idles_of_calm {c c' : Connection H} (hc : Calm c c')
    (hs : c'.state = .Open → c.state = .Open) : Idles c c' := by
  refine ⟨?_, hs⟩
  unfold outbound
  rw [hc.socket, hc.out_buffer]

variable [Handler H] [Host]

lemma error_idles {c c' : Connection H} {err : Error} (ho : Opened c) (h : c.error err = .ok c') :
    Idles c c' :=
  idles_of_calm (error_calm h) (opens_of_awaiting ho (error_awaiting h))

omit [Handler H] in
lemma write_idles {c : Connection H} (hb : Buffered c) :
    Buffered c.write.1 ∧ Idles c c.write.1 := by
  obtain ⟨hout, n, hn⟩ := write_spec hb.output
  refine ⟨⟨write_opened hb.opened rfl, ?_, hout⟩, ?_, ?_⟩
  · rw [(write_input c).1]
    exact hb.input
  · rw [hn, Pipe.all_pull]
  · exact opens_of_awaiting hb.opened (write_awaiting c)

/-- A read moves the input only. -/
lemma read_idles {c c' : Connection H} {res : Result Unit} (hb : Buffered c)
    (h : c.read = .ok (c', res)) : Buffered c' ∧ Idles c c' := by
  have hin := read_inward h
  obtain ⟨new, d, r, hm⟩ := read_moved hb.opened hb.input c.socket.reads
  have heq : c.read = .ok (d, r) := hm.eq
  rw [h] at heq
  cases heq
  refine ⟨⟨hb.opened.of_state hin.state, hm.inBounds, hin.out_buffer ▸ hb.output⟩, ?_, ?_⟩
  · unfold outbound
    rw [hin.sent, hin.out_buffer]
  · exact fun hs => hin.state.symm.trans hs

/-- **Whatever the loop does** leaves the cursors within their buffers, and when it is no message
it puts nothing into the output. -/
theorem touch_buffered {d : Deed} {c c' : Connection H} (hb : Buffered c) (ht : Touch d c c') :
    Buffered c' ∧ (d ≠ .message → Idles c c') := by
  have hopened := ht.opened hb.opened
  have hopens := opens_of_awaiting hb.opened (touch_awaiting ht)
  have hcalm : Calm c c' → Buffered c' ∧ (d ≠ .message → Idles c c') := fun hc =>
    ⟨hb.of_calm hc hopened, fun _ => idles_of_calm hc hopens⟩
  have herror : ∀ {e err}, Buffered e ∧ Idles c e → e.error err = .ok c' →
      Buffered c' ∧ (d ≠ .message → Idles c c') := fun he h =>
    ⟨he.1.of_calm (error_calm h) hopened, fun _ => he.2.trans (error_idles he.1.opened h)⟩
  have hsent : ∀ {msg e res}, c.send_message msg = .ok (e, res) → Buffered e := by
    intro msg e res h
    obtain ⟨e', r, he, hout, -⟩ := send_message_spec hb.output msg
    rw [h] at he
    cases he
    obtain ⟨out, hframe | hframe⟩ := send_message_frame h
    · exact ⟨send_message_opened hb.opened h, by rw [hframe]; exact hb.input, hout⟩
    · refine ⟨send_message_opened hb.opened h, ?_, hout⟩
      rw [hframe, (check_events_calm _).in_buffer]
      exact hb.input
  have hheard : ∀ {handler : H}, Buffered { c with handler := handler } ∧
      Idles c { c with handler := handler } := ⟨⟨hb.opened, hb.input, hb.output⟩, rfl, id⟩
  cases ht with
  | supply reads writes => exact ⟨⟨hb.opened, hb.input, hb.output⟩, fun _ => ⟨rfl, id⟩⟩
  | message h => exact ⟨hsent h, fun hd => absurd rfl hd⟩
  | message_told h he =>
    exact ⟨(hsent h).of_calm (error_calm he) hopened, fun hd => absurd rfl hd⟩
  | close h => exact hcalm (send_close_calm h)
  | tell h => exact hcalm (error_calm h)
  | read h => exact (read_idles hb h).imp_right fun hi _ => hi
  | read_told h he => exact herror (read_idles hb h) he
  | write h =>
    have hw := write_idles hb
    rw [h] at hw
    exact hw.imp_right fun hi _ => hi
  | write_told h he =>
    have hw := write_idles hb
    rw [h] at hw
    exact herror hw he
  | new_timeout h =>
    obtain ⟨handler, rfl | ⟨err, he⟩⟩ := take_timeout_cases h
    · exact hheard.imp_right fun hi _ => hi
    · exact herror hheard he
  | timeout h =>
    obtain ⟨handler, rfl | ⟨err, he⟩⟩ := trigger_cases h
    · exact hheard.imp_right fun hi _ => hi
    · exact herror hheard he
  | shut h => exact hcalm (shutdown_calm h)

/-! ### The input -/

/-- What the handler has been told, and what it has yet to be told. -/
def heard (c : Connection (Recorded H)) : Bytes := delivered c.handler.calls ++ c.in_buffer.bytes

/-- Nothing is read, and the handler hears of no message. -/
structure Mute (c c' : Connection (Recorded H)) : Prop where
  log : c'.socket.log = c.socket.log
  in_buffer : c'.in_buffer = c.in_buffer
  texts : texts c'.handler.calls = texts c.handler.calls

omit [Handler H] [Host] in
lemma Mute.trans {c d e : Connection (Recorded H)} (h : Mute c d) (h' : Mute d e) : Mute c e :=
  ⟨h'.log.trans h.log, h'.in_buffer.trans h.in_buffer, h'.texts.trans h.texts⟩

omit [Handler H] [Host] in
lemma mute_of_calm {c c' : Connection (Recorded H)} (hc : Calm c c')
    (ht : texts c'.handler.calls = texts c.handler.calls) : Mute c c' :=
  ⟨by rw [hc.socket], hc.in_buffer, ht⟩

lemma error_mute {c c' : Connection (Recorded H)} {err : Error} (h : c.error err = .ok c') :
    Mute c c' :=
  mute_of_calm (error_calm h) (Complains.texts (error_complains h))

omit [Handler H] in
lemma send_message_mute {c c' : Connection (Recorded H)} {msg : Message} {res : Result Unit}
    (h : c.send_message msg = .ok (c', res)) : Mute c c' := by
  obtain ⟨out, rfl | rfl⟩ := send_message_frame h
  · exact ⟨rfl, rfl, rfl⟩
  · have hc := check_events_calm ({ c with out_buffer := out } : Connection (Recorded H))
    exact ⟨by rw [hc.socket], hc.in_buffer, by rw [check_events_handler]⟩

omit [Handler H] in
lemma write_mute {c c' : Connection (Recorded H)} {res : Result Unit} (h : c.write = (c', res)) :
    Mute c c' := by
  obtain ⟨hb, hl⟩ := write_input c
  have hh := write_handler c
  rw [h] at hb hl hh
  exact ⟨hl, hb, by rw [hh]⟩

omit [Handler H] [Host] in
/-- A callback that is no message. -/
lemma note_mute (c : Connection (Recorded H)) {handler : Recorded H} {call : Callback}
    (hh : handler.calls = c.handler.calls ++ [call]) (hn : texts [call] = []) :
    Mute c { c with handler := handler } :=
  ⟨rfl, rfl, by rw [hh, texts_append, hn, List.append_nil]⟩

lemma take_timeout_mute {c c' : Connection (Recorded H)} {event : Token} {timeout : TimerHandle}
    (h : Io.Handler.take_timeout event timeout c = .ok c') : Mute c c' := by
  have hnote : Mute c (c.new_timeout event timeout).1 := note_mute c rfl rfl
  unfold Io.Handler.take_timeout at h
  split at h <;> rename_i heq <;> rw [heq] at hnote
  · cases h; exact hnote
  · exact hnote.trans (error_mute h)

lemma trigger_mute {c c' : Connection (Recorded H)} {event : Token}
    (h : Io.Handler.trigger event c = .ok c') : Mute c c' := by
  have hnote : Mute c (c.timeout_triggered event).1 := note_mute c rfl rfl
  unfold Io.Handler.trigger at h
  split at h <;> rename_i heq <;> rw [heq] at hnote
  · cases h; exact hnote
  · exact hnote.trans (error_mute h)

omit [Host] in
lemma shutdown_mute {c c' : Connection (Recorded H)} (h : c.shutdown = .ok c') : Mute c c' := by
  refine mute_of_calm (shutdown_calm h) ?_
  rw [shutdown_eq, bind_eq_ok] at h
  obtain ⟨⟨d, res⟩, hs, h⟩ := h
  cases h
  rw [send_close_handler hs, Recorded.calls_on_shutdown, texts_append]
  exact List.append_nil _

/-- What is done to the input in between: `r` is received, all of which is heard while the
connection is open, and part of which may be lost when it is not. -/
structure Hears (c c' : Connection (Recorded H)) (r : Bytes) : Prop where
  received : c'.socket.received = c.socket.received ++ r
  sublist : (heard c').Sublist (heard c ++ r)
  exact : c'.state = .Open → heard c' = heard c ++ r
  opens : c'.state = .Open → c.state = .Open

omit [Handler H] [Host] in
lemma Hears.trans {c d e : Connection (Recorded H)} {r r' : Bytes} (h : Hears c d r)
    (h' : Hears d e r') : Hears c e (r ++ r') := by
  refine ⟨?_, ?_, fun ho => ?_, h.opens ∘ h'.opens⟩
  · rw [h'.received, h.received, List.append_assoc]
  · rw [← List.append_assoc]
    exact h'.sublist.trans (h.sublist.append_right r')
  · rw [h'.exact ho, h.exact (h'.opens ho), List.append_assoc]

omit [Handler H] [Host] in
lemma Mute.hears {c c' : Connection (Recorded H)} (hm : Mute c c')
    (hs : c'.state = .Open → c.state = .Open) : Hears c c' [] := by
  have hheard : heard c' = heard c ++ [] := by
    rw [heard, heard, ← texts_flatten, ← texts_flatten, hm.texts, hm.in_buffer, List.append_nil]
  refine ⟨?_, by rw [hheard], fun _ => hheard, hs⟩
  rw [TcpStream.received, TcpStream.received, hm.log, List.append_nil]

/-- The read fails for what was to be heard is no text. -/
def Garbled (res : Result Unit) : Prop := ∃ err e, res = .error err ∧ err.kind = .Encoding e

omit [Host] in
lemma read_data_garbled {d c' : Connection (Recorded H)} {len : ℕ} {res : Result Unit}
    (hv : ¬ Utf8.Valid d.in_buffer.bytes) (hf : Finish d (.ok (some len)) c' res) :
    Garbled res := by
  have hunread : d.in_buffer.read_to_end.2 = d.in_buffer.bytes := rfl
  have hdata : ∃ e, d.read_data.2 = .error (.from_utf8_error e) := by
    obtain ⟨e, he⟩ : ∃ e, from_utf8 d.in_buffer.bytes = .error e := ⟨_, from_utf8_invalid hv⟩
    exact ⟨e, by simp only [read_data, hunread, he]⟩
  obtain ⟨e, hdata⟩ := hdata
  cases hf with
  | refused h =>
    rw [h] at hdata
    cases hdata
    exact ⟨_, e, rfl, rfl⟩
  | handed h _ => rw [h] at hdata; cases hdata
  | half_closed h _ => rw [h] at hdata; cases hdata
  | closed h _ => rw [h] at hdata; cases hdata

/-- An error that starts the closing handshake closes an opened connection. -/
lemma error_closes {c c' : Connection (Recorded H)} {err : Error} (hc : Opened c)
    (hk : starts_closing err.kind = true) (h : c.error err = .ok c') :
    c'.state = .AwaitingClose := by
  have hclose : ∀ {panics code}, c.close_on err panics code = .ok c' →
      c'.state = .AwaitingClose := by
    intro panics code hx
    rw [close_on_result hc hx, check_events_state]
  have hn := hc.not_connecting
  unfold Connection.error at h
  split at h
  · rename_i hs
    rw [hs] at hn
    cases hn
  · split at h <;> rename_i hkind <;> first | exact hclose h | (rw [hkind] at hk; cases hk)

/-- A read hears all it receives, or it is garbled. -/
lemma read_hears {c c' : Connection (Recorded H)} {res : Result Unit} (hb : Buffered c)
    (h : c.read = .ok (c', res)) :
    ∃ r, c'.socket.received = c.socket.received ++ r ∧ (heard c').Sublist (heard c ++ r) ∧
      (heard c' = heard c ++ r ∨ Garbled res) := by
  obtain ⟨d, r, new, hd, hfill⟩ := buffer_in_spec (c := c) hb.input
  obtain ⟨e, res', hread, hf⟩ := read_finish (c := c) hb.opened.not_connecting hd
  rw [h] at hread
  cases hread
  obtain ⟨-, -, hh⟩ := buffer_in_loop_inward _ hd
  have hlog : c'.socket.log = c.socket.log ++ new :=
    (Finish.input hf hfill.inBounds).2.trans hfill.log
  have hbytes : d.in_buffer.bytes = c.in_buffer.bytes ++ bytesOf new := hfill.bytes
  have htexts : delivered c'.handler.calls = delivered c.handler.calls ++ (said d r).flatten := by
    rw [← texts_flatten, Finish.texts hf, hh, List.flatten_append, texts_flatten]
  have hunread := finish_unread hf
  refine ⟨bytesOf new, ?_, ?_, ?_⟩
  · rw [TcpStream.received, hlog, List.flatMap_append]
    rfl
  · unfold heard
    rw [htexts, List.append_assoc, List.append_assoc, ← hbytes]
    refine List.Sublist.append_left ?_ _
    rcases r with err | _ | len
    · rw [hunread]
      exact List.Sublist.refl _
    · rw [hunread]
      exact List.Sublist.refl _
    · rw [hunread, List.append_nil]
      exact (said_unread d (.ok (some len))).2.1
  · unfold heard
    rw [htexts, List.append_assoc, List.append_assoc, ← hbytes]
    rcases r with err | _ | len
    · left
      rw [hunread]
      rfl
    · left
      rw [hunread]
      rfl
    · by_cases hv : Utf8.Valid d.in_buffer.bytes
      · left
        simp [said, hv, hunread]
      · exact Or.inr (read_data_garbled hv hf)

/-- Only reading lets the handler hear anything. -/
lemma touch_mute {d : Deed} {c c' : Connection (Recorded H)} (ht : Touch d c c')
    (hd : d ≠ .read) : Mute c c' := by
  cases ht with
  | supply reads writes => exact ⟨rfl, rfl, rfl⟩
  | message h => exact send_message_mute h
  | message_told h he => exact (send_message_mute h).trans (error_mute he)
  | close h => exact mute_of_calm (send_close_calm h) (by rw [send_close_handler h])
  | tell h => exact error_mute h
  | read h => exact absurd rfl hd
  | read_told h he => exact absurd rfl hd
  | write h => exact write_mute h
  | write_told h he => exact (write_mute h).trans (error_mute he)
  | new_timeout h => exact take_timeout_mute h
  | timeout h => exact trigger_mute h
  | shut h => exact shutdown_mute h

/-- **Whatever the loop does**, what is received is heard while the connection is open. -/
lemma touch_hears {d : Deed} {c c' : Connection (Recorded H)} (hb : Buffered c)
    (ht : Touch d c c') : ∃ r, Hears c c' r := by
  have hopens := opens_of_awaiting hb.opened (touch_awaiting ht)
  by_cases hd : d = .read
  · cases ht with
    | read h =>
      obtain ⟨r, hr, hsub, hex⟩ := read_hears hb h
      refine ⟨r, hr, hsub, fun _ => ?_, hopens⟩
      rcases hex with hex | ⟨err, e, hres, -⟩
      · exact hex
      · cases hres
    | read_told h he =>
      obtain ⟨r, hr, hsub, hex⟩ := read_hears hb h
      have hm : Hears _ c' [] := (error_mute he).hears
        (opens_of_awaiting (read_idles hb h).1.opened (error_awaiting he))
      refine ⟨r, ?_, ?_, fun ho => ?_, hopens⟩
      · rw [hm.received, List.append_nil, hr]
      · exact (by simpa using hm.sublist : (heard c').Sublist (heard _)).trans hsub
      · rcases hex with hex | ⟨err, e, hres, hk⟩
        · rw [hm.exact ho, List.append_nil, hex]
        · cases hres
          have hclosed := error_closes (read_idles hb h).1.opened (by rw [hk]; rfl) he
          rw [ho] at hclosed
          cases hclosed
    | _ => cases hd
  · exact ⟨[], (touch_mute ht hd).hears hopens⟩

end Touches

/-! ### In the loop -/

section Loops

variable [Factory F H] [Handler H] [Host] {h g h' : Watched F H} {ds : List Deed}
variable {P Q R : Connection (Recorded H) → Connection (Recorded H) → Prop}

/-- Every connection in the slab is buffered. -/
def AllBuffered (h : Watched F H) : Prop := ∀ t c, h.connections.get t = some c → Buffered c

omit [Factory F H] [Handler H] [Host] in
lemma AllBuffered.opened (hb : AllBuffered h) : AllOpened h := fun t c hc => (hb t c hc).opened

omit [Host] in
lemma inBounds_new (data : Vec UInt8) : (Cursor.new data).InBounds := Nat.zero_le _

/-- Every deed leaves the connections buffered. -/
lemma Act.buffered {d : Deed} (ha : Act d h h') (hb : AllBuffered h) : AllBuffered h' :=
  ha.slots (fun _ _ _ _ ht hc => (touch_buffered hc ht).1)
    (fun _ _ _ hborn _ => ⟨Or.inl hborn.state, by rw [hborn.in_buffer]; exact inBounds_new _,
      by rw [hborn.out_buffer]; exact inBounds_new _⟩) hb

lemma Path.buffered (hp : Path ds h h') (hb : AllBuffered h) : AllBuffered h' :=
  hp.inv (fun _ _ _ _ ha => Act.buffered ha) hb

lemma step_buffered {s : Io.Step} (hb : AllBuffered h) (hs : h.step s = .ok h') :
    AllBuffered h' :=
  Path.buffered (step_path hb.opened hs) hb

lemma execute_buffered {inner : F} {settings : Settings} {addr : Option SocketAddr}
    {steps : List Io.Step}
    (hr : Io.Handler.execute (Ledger.blank inner) settings addr steps = .ok h) :
    AllBuffered h := by
  refine (execute_inv (I := AllBuffered) (fun h0 hf t c hc => ?_)
    (fun _ _ _ ha _ hb => Act.buffered ha hb) hr).2
  rw [hf.connections, Slab.get_with_capacity] at hc
  cases hc

omit [Factory F H] [Handler H] [Host] in
lemma Stems.imp (hs : Stems P h h')
    (hPQ : ∀ t c c', h.connections.get t = some c → h'.connections.get t = some c' →
      P c c' → Q c c') : Stems Q h h' := by
  refine ⟨hs.made, fun t c' hc' => ?_⟩
  rcases hs.slots t c' hc' with ⟨c, hc, hb, hp⟩ | hnew
  · exact Or.inl ⟨c, hc, hb, hPQ t c c' hc hc' hp⟩
  · exact Or.inr hnew

omit [Factory F H] [Handler H] [Host] in
lemma Stems.and (hs : Stems P h h') (hs' : Stems Q h h') :
    Stems (fun c c' => P c c' ∧ Q c c') h h' := by
  refine ⟨hs.made, fun t c' hc' => ?_⟩
  rcases hs.slots t c' hc' with ⟨c, hc, hb, hp⟩ | hnew
  · rcases hs'.slots t c' hc' with ⟨d, hd, -, hq⟩ | hnew
    · rw [hc, Option.some.injEq] at hd
      exact Or.inl ⟨c, hc, hb, hp, hd ▸ hq⟩
    · exact Or.inr hnew
  · exact Or.inr hnew

omit [Factory F H] [Handler H] [Host] in
/-- One after the other. -/
lemma Stems.comp (hs : Stems P h g) (hs' : Stems Q g h')
    (hPQ : ∀ c d e, P c d → Q d e → R c e) : Stems R h h' := by
  refine ⟨hs.made.trans hs'.made, fun t e he => ?_⟩
  rcases hs'.slots t e he with ⟨d, hd, hb, hq⟩ | hnew
  · rcases hs.slots t d hd with ⟨c, hc, hb', hp⟩ | hnew
    · exact Or.inl ⟨c, hc, hb.trans hb', hPQ c d e hp hq⟩
    · exact Or.inr (hb ▸ hnew)
  · exact Or.inr (hs.made.trans hnew)

/-- Deeds that are no message put nothing into an output. -/
lemma Path.idles (hp : Path ds h h') (hds : .message ∉ ds) (hb : AllBuffered h) :
    Stems Idles h h' := by
  have hstems := Path.stems (P := fun c c' => Buffered c → Buffered c' ∧ Idles c c') hp
    (fun c hc => ⟨hc, .refl c⟩)
    (fun c d e h h' hc => ⟨(h' (h hc).1).1, (h hc).2.trans (h' (h hc).1).2⟩) hb.opened
    (fun d hd c c' _ ht hc => (touch_buffered hc ht).imp_right fun hi =>
      hi fun hmsg => hds (hmsg ▸ hd))
  exact Stems.imp hstems fun t c _ hc _ hi => (hi (hb t c hc)).2

/-- **What a run lets the handlers hear.** -/
theorem run_hears {steps : List Io.Step} (hb : AllBuffered h)
    (hr : run Io.Handler.step h steps = .ok h') : Stems (fun c c' => ∃ r, Hears c c' r) h h' := by
  have hstems := run_stems (P := fun c c' => Buffered c → Buffered c' ∧ ∃ r, Hears c c' r)
    (fun c hc => ⟨hc, [], Mute.hears ⟨rfl, rfl, rfl⟩ id⟩)
    (fun c d e h h' hc => by
      obtain ⟨hd, r, hr⟩ := h hc
      obtain ⟨he, r', hr'⟩ := h' hd
      exact ⟨he, r ++ r', hr.trans hr'⟩)
    (fun d c c' _ ht hc => ⟨(touch_buffered hc ht).1, touch_hears hc ht⟩) hb.opened hr
  exact Stems.imp hstems fun t c _ hc _ hi => (hi (hb t c hc)).2

lemma step_hears {s : Io.Step} (hb : AllBuffered h) (hs : h.step s = .ok h') :
    Stems (fun c c' => ∃ r, Hears c c' r) h h' :=
  @run_hears _ _ _ _ _ _ _ [s] hb (run_cons.mpr ⟨h', hs, rfl⟩)

/-- **Nothing received is lost while a connection is open.** From any reached state on, as long as
a connection is open, its handler is told the bytes that its socket received, each once and in
order, but for those that are still unread; and once it is closing, the handler is told some of
them, in order, and the connection never opens again. -/
theorem nothing_unheard {inner : F} {settings : Settings} {addr : Option SocketAddr}
    {front back : List Io.Step}
    (hf : Io.Handler.execute (Ledger.blank inner) settings addr front = .ok h)
    (hr : run Io.Handler.step h back = .ok h') {t t' : Token} {c c' : Connection (Recorded H)}
    (hc : h.connections.get t = some c) (hc' : h'.connections.get t' = some c')
    (hb : c'.handler.birth = c.handler.birth) :
    ∃ received, c'.socket.received = c.socket.received ++ received ∧
      (c'.state = .Open → c.state = .Open ∧
        delivered c'.handler.calls ++ c'.in_buffer.bytes =
          delivered c.handler.calls ++ c.in_buffer.bytes ++ received) ∧
      (delivered c'.handler.calls ++ c'.in_buffer.bytes).Sublist
        (delivered c.handler.calls ++ c.in_buffer.bytes ++ received) := by
  obtain ⟨-, r, hears⟩ := (run_hears (execute_buffered hf) hr).of_birth
    (execute_sound hf).numbered.accounted hc hc' hb
  exact ⟨r, hears.received, fun ho => ⟨hears.opens ho, hears.exact ho⟩, hears.sublist⟩

end Loops

/-- A peer connects. -/
def one_peer : List Io.Step := [accepts_peer]

/-- It says something, in two parts. -/
def two_parts : List Io.Step :=
  [.on 0 readable { reads := [.ok [104]] }, .on 0 readable { reads := [.ok [105]] }]

theorem nothing_unheard_two_parts :
    ∃ (h h' : Watched (Sender → M) M) (c c' : Connection (Recorded M)),
      serve {} one_peer = .ok h ∧ run serve_on h two_parts = .ok h' ∧
      h.connections.get 0 = some c ∧ h'.connections.get 0 = some c' ∧ c'.state = .Open ∧
      delivered c'.handler.calls = [104, 105] ∧
      ∃ received, c'.socket.received = c.socket.received ++ received ∧
        delivered c'.handler.calls ++ c'.in_buffer.bytes =
          delivered c.handler.calls ++ c.in_buffer.bytes ++ received := by
  have hrun : Returns (serve {} one_peer) fun h =>
      Returns (run serve_on h two_parts) fun h' =>
        ((h.connections.get 0).map fun c => c.handler.birth) = some 0 ∧
        ((h'.connections.get 0).map fun c =>
          (c.handler.birth, c.state.is_open, delivered c.handler.calls)) =
            some (0, true, [104, 105]) := by
    decide +kernel
  obtain ⟨h, hh, h', hr, hc, hc'⟩ := hrun
  obtain ⟨c, hc, hb⟩ := Option.map_eq_some_iff.mp hc
  obtain ⟨c', hc', hs⟩ := Option.map_eq_some_iff.mp hc'
  simp only [Prod.mk.injEq] at hs
  have hopen : c'.state = .Open := is_open_iff.mp hs.2.1
  obtain ⟨received, hrec, hheard, -⟩ := @nothing_unheard _ _ _ _ plain h h' _ _ _ _ _ hh hr
    0 0 c c' hc hc' (by rw [hs.1, hb])
  exact ⟨h, h', c, c', hh, hr, hc, hc', hopen, hs.2.2, received, hrec, (hheard hopen).2⟩

end XnetSocket.Streams
