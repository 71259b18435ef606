import XnetSocket.Inbound
import XnetSocket.Lifecycle

/-!
Where the socket may cut the stream it delivers.

What `read` hands to the handler is everything unread, whether or not it ends with a whole
character; what is left of a character that was cut is not kept for the next read. So the texts
make up the stream only as long as every read that leaves room in the buffer, which is when
`read` hands on, ends between two characters.
-/

namespace XnetSocket.Chunking

open Buffer Runs Connection Inbound Lifecycle

variable {H : Type}

/-- The texts of the messages among the callbacks, one after the other. -/
def delivered (calls : List Callback) : Bytes :=
  calls.flatMap fun call => match call with
    | .on_message msg => msg.into_data
    | _ => []

@[simp] lemma delivered_append (l m : List Callback) :
    delivered (l ++ m) = delivered l ++ delivered m := by
  simp [delivered]

@[simp] lemma delivered_on_message (msg : Message) :
    delivered [.on_message msg] = msg.into_data := by
  simp [delivered]

@[simp] lemma delivered_on_close (code : CloseCode) (reason : String) :
    delivered [.on_close code reason] = [] := rfl

def encoding_failed : Result Unit → Bool
  | .error ⟨.Encoding _, _⟩ => true
  | _ => false

/-- The call does not fail on the encoding, and leaves what was delivered a front part of the
stream. -/
def Intact [Handler H] [Growth] (stream : Bytes) (c : Connection (Recorded H)) (call : Call) :
    Prop :=
  ∀ c' res, c.perform call = .ok (c', res) →
    encoding_failed res = false ∧ delivered c'.handler.calls <+: stream

/-- Behind `before`, every read that leaves room ends where a text may be cut. -/
def CutsBehind (before : Bytes) (log : List (ℕ × Bytes)) : Prop :=
  ∀ front room got back, log = front ++ (room, got) :: back → got.length < room →
    Utf8.Valid (before ++ bytesOf front ++ got)

/-- Every read that leaves room ends where a text may be cut. -/
def CutsBetweenCharacters (log : List (ℕ × Bytes)) : Prop :=
  ∀ front room got back, log = front ++ (room, got) :: back → got.length < room →
    Utf8.Valid (bytesOf front ++ got)

lemma cutsBehind_nil (before : Bytes) : CutsBehind before [] := by
  intro front room got back h
  exact absurd h (by simp)

lemma cutsBehind_append {before : Bytes} {l m : List (ℕ × Bytes)} :
    CutsBehind before (l ++ m) ↔ CutsBehind before l ∧ CutsBehind (before ++ bytesOf l) m := by
  constructor
  · intro h
    refine ⟨fun front room got back he hlt => ?_, fun front room got back he hlt => ?_⟩
    · exact h front room got (back ++ m) (by simp [he]) hlt
    · have := h (l ++ front) room got back (by simp [he]) hlt
      rwa [bytesOf_append, ← List.append_assoc] at this
  · rintro ⟨hl, hm⟩ front room got back he hlt
    rcases List.append_eq_append_iff.mp he with ⟨as, h1, h2⟩ | ⟨bs, h1, h2⟩
    · have := hm as room got back h2 hlt
      rwa [h1, bytesOf_append, ← List.append_assoc]
    · rcases bs with _ | ⟨b, bs⟩
      · have := hm [] room got back (by simpa using h2.symm) hlt
        rw [List.append_nil] at h1
        subst h1
        simpa [bytesOf] using this
      · rw [List.cons_append, List.cons.injEq] at h2
        obtain ⟨rfl, -⟩ := h2
        exact hl front room got bs h1 hlt

lemma AllFull.cutsBehind {before : Bytes} {log : List (ℕ × Bytes)} (h : AllFull log) :
    CutsBehind before log := by
  intro front room got back he hlt
  have := h (room, got) (by simp [he])
  simp only at this
  omega

/-- Full reads and one that leaves room: only the end of the last matters. -/
lemma cutsBehind_last {before : Bytes} {front : List (ℕ × Bytes)} {room : ℕ} {got : Bytes}
    (hf : AllFull front) (hlt : got.length < room) :
    CutsBehind before (front ++ [(room, got)]) ↔ Utf8.Valid (before ++ bytesOf front ++ got) := by
  rw [cutsBehind_append]
  constructor
  · rintro ⟨-, h⟩
    simpa [bytesOf] using h [] room got [] rfl hlt
  · intro h
    refine ⟨AllFull.cutsBehind hf, fun fr r g back he _ => ?_⟩
    rcases fr with _ | ⟨e, fr⟩
    · simp only [List.nil_append, List.cons.injEq, Prod.mk.injEq] at he
      obtain ⟨⟨rfl, rfl⟩, -⟩ := he
      simpa [bytesOf] using h
    · simp at he

/-! ### One read -/

section Reads

/-- Nothing has been lost: what was delivered and what is unread make up what was received. -/
structure Whole (c : Connection (Recorded H)) : Prop where
  opened : Opened c
  inBounds : c.in_buffer.InBounds
  grow : c.settings.in_buffer_grow = true
  all : delivered c.handler.calls ++ c.in_buffer.bytes = c.socket.received
  text : Utf8.Valid (delivered c.handler.calls)

variable [Handler H]

/-- Handing on what is unread keeps everything when it is a text, and fails when it is not. -/
lemma read_data_whole {c : Connection (Recorded H)} (hc : Whole c)
    (hok : ∀ h : H, ∀ msg, (Handler.on_message h msg).2 = .ok ()) :
    if Utf8.Valid c.socket.received then c.read_data.2 = .ok () ∧ Whole c.read_data.1
    else encoding_failed c.read_data.2 = true := by
  have hunread : c.in_buffer.read_to_end.2 = c.in_buffer.bytes := rfl
  have hiff : Utf8.Valid c.socket.received ↔ Utf8.Valid c.in_buffer.bytes := by
    rw [← hc.all, Utf8.valid_append hc.text]
  split
  · rename_i hv
    obtain ⟨text, ht, hb⟩ := from_utf8_valid (hiff.mp hv)
    have hdel : delivered (Handler.on_message c.handler (.text text)).1.calls =
        c.socket.received := by
      rw [Recorded.calls_on_message, delivered_append, delivered_on_message, ← hc.all, ← hb]
      rfl
    simp only [read_data, hunread, ht]
    refine ⟨hok _ _, hc.opened, Cursor.read_to_end_inBounds hc.inBounds, hc.grow, ?_, ?_⟩
    · rw [hdel, Cursor.read_to_end_bytes, List.append_nil]
    · rw [hdel]; exact hv
  · rename_i hv
    simp only [read_data, hunread, from_utf8_invalid (mt hiff.mpr hv)]
    rfl

lemma read_data_socket (c : Connection H) : c.read_data.1.socket = c.socket := by
  unfold read_data
  dsimp only
  split <;> rfl

/-- What ends a read once the unread bytes were handed on loses nothing. -/
lemma Whole.disconnect {c : Connection (Recorded H)} (hc : Whole c) : Whole c.disconnect := by
  have hcalm := disconnect_calm c
  have hdel : delivered c.disconnect.handler.calls = delivered c.handler.calls := by
    unfold Connection.disconnect
    split <;> simp
  refine ⟨hc.opened.of_state (disconnect_state c), ?_, ?_, ?_, ?_⟩
  · rw [hcalm.in_buffer]; exact hc.inBounds
  · rw [hcalm.settings]; exact hc.grow
  · rw [hdel, hcalm.in_buffer, hcalm.socket]; exact hc.all
  · rw [hdel]; exact hc.text

variable [Growth]

/-- **One read.** It keeps everything when it cuts between characters, and fails on the
encoding when it does not. -/
theorem read_whole {c : Connection (Recorded H)} (hc : Whole c)
    (hok : ∀ h : H, ∀ msg, (Handler.on_message h msg).2 = .ok ())
    {reads : List (Except IoError Bytes)}
    (hreads : ∀ err, .error err ∈ reads → err.kind = .WouldBlock) :
    ∃ c' res new, c.perform (.read reads) = .ok (c', res) ∧
      c'.socket.log = c.socket.log ++ new ∧
      (CutsBehind c.socket.received new → encoding_failed res = false ∧ Whole c') ∧
      (¬ CutsBehind c.socket.received new → encoding_failed res = true) := by
  have hin : (c.with_reads reads).in_buffer.InBounds := hc.inBounds
  obtain ⟨d, r, new, hd, hfill⟩ := buffer_in_spec hin
  obtain ⟨hi, -, hh⟩ := buffer_in_loop_inward _ hd
  have hdw : Whole d := by
    refine ⟨hc.opened.of_state hi.state, hfill.inBounds, ?_, ?_, by rw [hh]; exact hc.text⟩
    · rw [hi.settings]; exact hc.grow
    · rw [hh, hfill.bytes, received_eq, hfill.log, bytesOf_append, ← List.append_assoc]
      exact congrArg (· ++ bytesOf new) hc.all
  obtain ⟨c', res, hread, hf⟩ := read_finish (c := c.with_reads reads) hc.opened.not_connecting hd
  have hends := hfill.ends
  have hlog : d.socket.log = c.socket.log ++ new := hfill.log
  have hsock : d.read_data.1.socket = d.socket := read_data_socket d
  refine ⟨c', res, new, hread, ?_⟩
  -- a read that leaves room: whether it fails is whether everything received is a text
  have hlast : ∀ {len}, Ends (c.with_reads reads) new d (.ok (some len)) →
      (CutsBehind c.socket.received new ↔ Utf8.Valid d.socket.received) := by
    rintro len ⟨-, front, room, got, rfl, hfull, hlt⟩
    rw [cutsBehind_last hfull hlt, received_eq d.socket, hlog, bytesOf_append, bytesOf_append]
    simp [bytesOf, received_eq]
  have hdata := read_data_whole hdw hok
  have hhanded : ∀ {len e}, Ends (c.with_reads reads) new d (.ok (some len)) →
      d.read_data = (e, .ok ()) →
      e.socket.log = c.socket.log ++ new ∧ Whole e ∧ CutsBehind c.socket.received new := by
    intro len e he hx
    rw [hx] at hdata hsock
    rw [hlast he]
    split at hdata
    · exact ⟨by rw [← hlog, ← hsock], hdata.2, by assumption⟩
    · cases hdata
  cases hf with
  | failed err =>
    exfalso
    rcases hends.2 with ⟨e, -, hmem, hk⟩ | ⟨-, hg⟩
    · exact hk (hreads e hmem)
    · have := hc.grow
      rw [show c.settings.in_buffer_grow = false from hg] at this
      cases this
  | blocked => exact ⟨hlog, fun _ => ⟨rfl, hdw⟩, fun hn => absurd (AllFull.cutsBehind hends) hn⟩
  | refused hx =>
    rw [hx] at hdata hsock
    refine ⟨by rw [← hlog, ← hsock], fun hcut => ?_, fun hcut => ?_⟩
    · rw [if_pos ((hlast hends).mp hcut)] at hdata
      cases hdata.1
    · rwa [if_neg (mt (hlast hends).mpr hcut)] at hdata
  | handed hx =>
    obtain ⟨hl, hw, hcut⟩ := hhanded hends hx
    exact ⟨hl, fun _ => ⟨rfl, hw⟩, fun hn => absurd hcut hn⟩
  | half_closed hx =>
    obtain ⟨hl, hw, hcut⟩ := hhanded hends hx
    exact ⟨hl, fun _ => ⟨rfl, ⟨hw.opened, hw.inBounds, hw.grow, hw.all, hw.text⟩⟩,
      fun hn => absurd hcut hn⟩
  | closed hx =>
    obtain ⟨hl, hw, hcut⟩ := hhanded hends hx
    exact ⟨by rw [(disconnect_calm _).socket, hl], fun _ => ⟨rfl, hw.disconnect⟩,
      fun hn => absurd hcut hn⟩

/-! ### A whole stream -/

/-- The socket only ever hands over bytes or would block. -/
def Delivers (reads : List (Except IoError Bytes)) : Prop :=
  ∀ err, .error err ∈ reads → err.kind = .WouldBlock

omit [Growth] in
lemma Finish.input {d c' : Connection H} {r : Result (Option ℕ)} {res : Result Unit}
    (h : Finish d r c' res) (hd : d.in_buffer.InBounds) :
    c'.in_buffer.InBounds ∧ c'.socket.log = d.socket.log := by
  have hsock := read_data_socket d
  have hdata : ∀ {e r}, d.read_data = (e, r) →
      e.in_buffer.InBounds ∧ e.socket.log = d.socket.log := by
    intro e r hx
    have hin : d.read_data.1.in_buffer.InBounds := by
      unfold read_data
      dsimp only
      split <;> exact Cursor.read_to_end_inBounds hd
    rw [hx] at hsock hin
    exact ⟨hin, by rw [← hsock]⟩
  cases h with
  | failed => exact ⟨hd, rfl⟩
  | blocked => exact ⟨hd, rfl⟩
  | refused hx => exact hdata hx
  | handed hx => exact hdata hx
  | half_closed hx => exact ⟨(hdata hx).1, (hdata hx).2⟩
  | closed hx =>
    have hcalm := disconnect_calm (H := H)
    rw [(hcalm _).in_buffer, (hcalm _).socket]
    exact hdata hx

/-- Reading only ever adds to what was received. -/
lemma receive_log {c cf : Connection H} {reads : List (List (Except IoError Bytes))}
    (hc : c.in_buffer.InBounds) (h : run call c (reads.map .read) = .ok cf) :
    ∃ new, cf.socket.log = c.socket.log ++ new := by
  have hstep : ∀ (d : Connection H) (r : List (Except IoError Bytes)) (d' : Connection H),
      d.in_buffer.InBounds → d.call (.read r) = .ok d' →
      d'.in_buffer.InBounds ∧ ∃ new, d'.socket.log = d.socket.log ++ new := by
    intro d r d' hd hr
    obtain ⟨⟨d1, res⟩, hp, hr⟩ := bind_eq_ok.mp hr
    cases hr
    rcases read_ok hp with ⟨rfl, -⟩ | ⟨e, r', hb, hf⟩
    · exact ⟨hd, [], by simp [with_reads]⟩
    · obtain ⟨e', r'', new, he, hfill⟩ := buffer_in_spec (c := d.with_reads r) hd
      rw [hb] at he
      cases he
      obtain ⟨hin, hl⟩ := Finish.input hf hfill.inBounds
      exact ⟨hin, new, hl.trans hfill.log⟩
  induction reads generalizing c with
  | nil => cases h; exact ⟨[], by simp⟩
  | cons r reads ih =>
    obtain ⟨d, hd, h⟩ := run_cons.mp h
    obtain ⟨hin, new, hl⟩ := hstep c r d hc hd
    obtain ⟨new', hl'⟩ := ih hin h
    exact ⟨new ++ new', by rw [hl', hl, List.append_assoc]⟩

/-- Reading on from a state in which nothing has been lost. -/
lemma receive_iff {c cf : Connection (Recorded H)} (hc : Whole c)
    (hok : ∀ h : H, ∀ msg, (Handler.on_message h msg).2 = .ok ())
    {reads : List (List (Except IoError Bytes))} (hreads : ∀ r ∈ reads, Delivers r)
    (hrun : run call c (reads.map .read) = .ok cf) {stream : Bytes}
    (hpre : cf.socket.received <+: stream) :
    ∃ new, cf.socket.log = c.socket.log ++ new ∧
      (Along call (Intact stream) c (reads.map .read) ↔ CutsBehind c.socket.received new) := by
  induction reads generalizing c with
  | nil =>
    cases hrun
    exact ⟨[], by simp, iff_of_true trivial (cutsBehind_nil _)⟩
  | cons r reads ih =>
    obtain ⟨d, res, new, hp, hlog, hgood, hbad⟩ := read_whole hc hok (hreads r (by simp))
    have hcall : c.call (.read r) = .ok d := by simp only [call, hp, ok_bind]
    have hrest : run call d (reads.map .read) = .ok cf := by
      obtain ⟨d', hd', hrest⟩ := run_cons.mp hrun
      rw [hcall] at hd'
      cases hd'
      exact hrest
    have hreceived : d.socket.received = c.socket.received ++ bytesOf new := by
      rw [received_eq, hlog, bytesOf_append]; rfl
    by_cases hcut : CutsBehind c.socket.received new
    · -- nothing is lost by this read: whether anything ever is, the others decide
      obtain ⟨hres, hd⟩ := hgood hcut
      obtain ⟨more, hmore, hiff⟩ := ih hd (fun x hx => hreads x (by simp [hx])) hrest
      refine ⟨new ++ more, by rw [hmore, hlog, List.append_assoc], ?_⟩
      rw [cutsBehind_append, ← hreceived, ← hiff]
      have hprefix : delivered d.handler.calls <+: stream := by
        refine List.IsPrefix.trans ⟨d.in_buffer.bytes ++ bytesOf more, ?_⟩ hpre
        rw [← List.append_assoc, hd.all, received_eq cf.socket, hmore, bytesOf_append]
        rfl
      have hintact : Intact stream c (.read r) := by
        intro c' res' h
        rw [hp] at h
        cases h
        exact ⟨hres, hprefix⟩
      constructor
      · rintro ⟨-, h⟩
        exact ⟨hcut, h d hcall⟩
      · rintro ⟨-, h⟩
        refine ⟨hintact, fun d' hd' => ?_⟩
        rw [hcall] at hd'
        cases hd'
        exact h
    · -- this read loses something
      have hin : d.in_buffer.InBounds := by
        rcases read_ok hp with ⟨rfl, -⟩ | ⟨e, r', hb, hf⟩
        · exact hc.inBounds
        · obtain ⟨e', r'', new', he, hfill⟩ := buffer_in_spec (c := c.with_reads r) hc.inBounds
          rw [hb] at he
          cases he
          exact (Finish.input hf hfill.inBounds).1
      obtain ⟨more, hmore⟩ := receive_log hin hrest
      refine ⟨new ++ more, by rw [hmore, hlog, List.append_assoc], iff_of_false ?_ ?_⟩
      · rintro ⟨h, -⟩
        have := (h d res hp).1
        rw [hbad hcut] at this
        cases this
      · rw [cutsBehind_append]
        exact fun h => hcut h.1

/-- **Where the stream may be cut.** However the socket cuts a stream, no read fails on the encoding
and what is delivered is at every moment a front part of the stream, exactly when every read that
left room in the buffer ended between two characters. -/
theorem chunking_iff (tok : Token) (handler : H) (settings : Settings) (id : UInt32)
    (hgrow : settings.in_buffer_grow = true)
    (hok : ∀ h : H, ∀ msg, (Handler.on_message h msg).2 = .ok ())
    (reads : List (List (Except IoError Bytes))) (hreads : ∀ r ∈ reads, Delivers r)
    {c : Connection (Recorded H)}
    (hrun : run call (opened tok ⟨handler, 0, []⟩ settings id) (reads.map .read) = .ok c)
    {stream : Bytes} (hpre : c.socket.received <+: stream) :
    Along call (Intact stream) (opened tok ⟨handler, 0, []⟩ settings id) (reads.map .read) ↔
      CutsBetweenCharacters c.socket.log := by
  have hc : Whole (opened tok (⟨handler, 0, []⟩ : Recorded H) settings id) :=
    ⟨open_opened _, Nat.zero_le _, hgrow, rfl, Utf8.valid_nil⟩
  obtain ⟨new, hlog, hiff⟩ := receive_iff hc hok hreads hrun hpre
  have hnil : (opened tok (⟨handler, 0, []⟩ : Recorded H) settings id).socket.log = [] := rfl
  rw [hnil, List.nil_append] at hlog
  rw [hiff, hlog]
  exact Iff.rfl

end Reads

/-- An opened connection, under the default settings. -/
def reader : Connection (Recorded M) := opened 3 ⟨{}, 0, []⟩ {} 7

/-- A letter of two bytes, read byte by byte. -/
def split_letter : List (List (Except IoError Bytes)) := [[.ok [0xC3]], [.ok [0xA9]]]

/-- The letter is text, but reading its first byte alone fails on the encoding. -/
theorem split_letter_fails :
    Utf8.Valid [0xC3, 0xA9] ∧
      (∃ c, run (@call (Recorded M) _ amortized) reader (split_letter.map .read) = .ok c ∧
        c.socket.received = [0xC3, 0xA9]) ∧
      ¬ @Along _ _ _ (@call _ _ amortized) (@Intact M _ amortized [0xC3, 0xA9]) reader
        (split_letter.map .read) := by
  refine ⟨by decide +kernel, ?_, ?_⟩
  · have hrun : Returns (run (@call (Recorded M) _ amortized) reader
        (split_letter.map .read)) fun c =>
        c.socket.received = [0xC3, 0xA9] := by decide +kernel
    exact hrun
  · rintro ⟨h, -⟩
    have hread : Returns (@perform (Recorded M) _ amortized reader (.read [.ok [0xC3]])) fun p =>
        encoding_failed p.2 = true := by decide +kernel
    obtain ⟨⟨c', res⟩, hr, hfail⟩ := hread
    rw [(h c' res hr).1] at hfail
    cases hfail

/-- A letter of one byte and the letter of two bytes, each read as a whole. -/
def whole_letters : List (List (Except IoError Bytes)) :=
  [[.ok [65], .error would_block], [.ok [0xC3, 0xA9]]]

theorem chunking_iff_whole_letters :
    ∃ c, run (@call (Recorded M) _ amortized) reader (whole_letters.map .read) = .ok c ∧
      (@Along _ _ _ (@call _ _ amortized) (@Intact M _ amortized [65, 0xC3, 0xA9, 66]) reader
        (whole_letters.map .read) ↔ CutsBetweenCharacters c.socket.log) := by
  have hrun : Returns (run (@call (Recorded M) _ amortized) reader
      (whole_letters.map .read)) fun c =>
      c.socket.received <+: [65, 0xC3, 0xA9, 66] := by decide +kernel
  obtain ⟨c, hc, hprefix⟩ := hrun
  refine ⟨c, hc, @chunking_iff M _ amortized 3 {} {} 7 rfl (fun _ _ => rfl) _ ?_ c hc _ hprefix⟩
  intro r hr err herr
  rcases List.mem_pair.mp hr with rfl | rfl
  · have : err = would_block := by simpa using herr
    rw [this]; rfl
  · simp at herr

end XnetSocket.Chunking
