import XnetSocket.Evolution
import XnetSocket.Intake

/-!
Messages nobody sent.

A read hands on whatever is unread when filling the buffer reports a length. That it is the
length of the buffer which is reported, and not how much has come, matters at the end of the
stream: with nothing unread the handler is called all the same, with the empty text. Every other
message is made of bytes that no message before it was made of.
-/

namespace XnetSocket.Phantom

open Buffer Runs Connection Inbound Lifecycle Evolution Chunking EndOfStream Intake

variable {H : Type}

/-- The texts of the messages among the callbacks, one by one. -/
def texts (calls : List Callback) : List Bytes :=
  calls.filterMap fun call => match call with
    | .on_message msg => some msg.into_data
    | _ => none

@[simp] lemma texts_append (l m : List Callback) : texts (l ++ m) = texts l ++ texts m := by
  simp [texts]

@[simp] lemma texts_on_message (msg : Message) : texts [.on_message msg] = [msg.into_data] := rfl

/-- One after the other they are what is delivered. -/
lemma texts_flatten (calls : List Callback) : (texts calls).flatten = delivered calls := by
  induction calls with
  | nil => rfl
  | cons call calls ih =>
    have h : texts (call :: calls) = texts [call] ++ texts calls := texts_append [call] calls
    have h' : delivered (call :: calls) = delivered [call] ++ delivered calls :=
      delivered_append [call] calls
    rw [h, h', List.flatten_append, ih]
    cases call <;> simp [texts, delivered]

/-- How many reads of the socket brought bytes. -/
def fed (log : List (ℕ × Bytes)) : ℕ := log.countP fun e => !e.2.isEmpty

lemma fed_append (l m : List (ℕ × Bytes)) : fed (l ++ m) = fed l + fed m := List.countP_append

lemma fed_pos {new : List (ℕ × Bytes)} (h : bytesOf new ≠ []) : 0 < fed new := by
  refine Nat.pos_of_ne_zero fun h0 => h (List.flatMap_eq_nil_iff.mpr fun e he => ?_)
  simpa using List.countP_eq_zero.mp h0 e he

section Reads

variable [Handler H] [Growth]

/-- Every text a call delivers is not empty and made of the bytes behind all that was taken out
before; the texts so far are made of what was taken out, in order, and there are no more of them
than socket reads that brought bytes. -/
structure Backed (s s' : Drawn (Recorded H)) : Prop where
  fresh : ∃ new, texts s'.conn.handler.calls = texts s.conn.handler.calls ++ new ∧
    ∀ text ∈ new, text ≠ [] ∧ s'.taken = s.taken ++ text
  all : (delivered s'.conn.handler.calls).Sublist s'.taken
  received : s'.taken <+: s'.conn.socket.received
  count : (texts s'.conn.handler.calls).length ≤ fed s'.conn.socket.log

/-- A call makes up no message. -/
def NoPhantom (s : Drawn (Recorded H)) (call : Call) : Prop :=
  ∀ s', draw s call = .ok s' → Backed s s'

omit [Handler H] [Growth] in
/-- The end of the stream is not the first thing a read meets while nothing is unread. -/
def Expectant (s : Drawn (Recorded H)) (call : Call) : Prop :=
  ∀ rest, call = .read (.ok [] :: rest) → s.conn.in_buffer.bytes ≠ []

/-- What a connection says to its handler once filling the buffer ended with `r`. -/
def said (d : Connection (Recorded H)) : Result (Option ℕ) → List Bytes
  | .ok (some _) => if Utf8.Valid d.in_buffer.bytes then [d.in_buffer.bytes] else []
  | _ => []

omit [Handler H] [Growth] in
/-- It says at most one thing, which is everything unread. -/
lemma said_unread (d : Connection (Recorded H)) (r : Result (Option ℕ)) :
    (said d r).length ≤ 1 ∧ (said d r).flatten.Sublist d.in_buffer.bytes ∧
      ∀ text ∈ said d r, text = d.in_buffer.bytes := by
  unfold said
  split
  · split <;> simp
  · simp

omit [Growth] in
lemma read_data_texts (d : Connection (Recorded H)) (len : ℕ) :
    texts d.read_data.1.handler.calls = texts d.handler.calls ++ said d (.ok (some len)) := by
  have hunread : d.in_buffer.read_to_end.2 = d.in_buffer.bytes := rfl
  by_cases hv : Utf8.Valid d.in_buffer.bytes
  · obtain ⟨text, ht, hb⟩ := from_utf8_valid hv
    simp only [read_data, hunread, ht, said, if_pos hv]
    rw [Recorded.calls_on_message, texts_append, texts_on_message, ← hb]
    rfl
  · simp only [read_data, hunread, from_utf8_invalid hv, said, if_neg hv, List.append_nil]

omit [Handler H] [Growth] in
lemma Complains.texts {c c' : Connection (Recorded H)} (h : Complains c c') :
    texts c'.handler.calls = texts c.handler.calls := by
  obtain ⟨new, hcalls, hall⟩ := h
  have hnew : Phantom.texts new = [] := List.filterMap_eq_nil_iff.mpr fun call hc => by
    rcases hall call hc with ⟨err, rfl⟩ | rfl <;> rfl
  rw [hcalls, texts_append, hnew, List.append_nil]

omit [Growth] in
lemma Finish.texts {d c' : Connection (Recorded H)} {r : Result (Option ℕ)} {res : Result Unit}
    (h : Finish d r c' res) :
    texts c'.handler.calls = texts d.handler.calls ++ said d r := by
  have hdata : ∀ {e x} len, d.read_data = (e, x) →
      Phantom.texts e.handler.calls =
        Phantom.texts d.handler.calls ++ said d (.ok (some len)) := by
    intro e x len hx
    have := read_data_texts d len
    rwa [hx] at this
  cases h with
  | failed => exact (List.append_nil _).symm
  | blocked => exact (List.append_nil _).symm
  | refused hx => exact hdata _ hx
  | handed hx => exact hdata _ hx
  | half_closed hx =>
    have := hdata 0 hx
    exact this
  | closed hx =>
    rw [Complains.texts (disconnect_complains _)]
    exact hdata _ hx

omit [Handler H] in
lemma write_handler (c : Connection H) : c.write.1.handler = c.handler := by
  unfold Connection.write
  split
  · rfl
  · split
    · rfl
    · dsimp only
      rcases c.socket.try_write_buf c.out_buffer with ⟨sock, out, err | len⟩
      · rfl
      · dsimp only
        split
        · split
          · rfl
          · exact check_events_handler _
        · exact check_events_handler _

/-- Only a read delivers a message. -/
lemma perform_texts {c c' : Connection (Recorded H)} {call : Call} {res : Result Unit}
    (hread : ∀ reads, call ≠ .read reads) (h : c.perform call = .ok (c', res)) :
    texts c'.handler.calls = texts c.handler.calls := by
  have hheard : ∀ call : Callback, texts [call] = [] →
      texts (c.handler.calls ++ [call]) = texts c.handler.calls := by
    intro call hcall
    rw [texts_append, hcall, List.append_nil]
  cases call with
  | as_server => cases h; rfl
  | as_client url addrs =>
    simp only [perform, as_client] at h
    split at h <;> cases h <;> rfl
  | send_message msg =>
    obtain ⟨out, rfl | rfl⟩ := send_message_frame h
    · rfl
    · rw [check_events_handler]
  | send_close code reason =>
    have hs : c.send_close code reason = .ok (c', res) := h
    rw [send_close_handler hs]
  | error err =>
    obtain ⟨d, hd, h⟩ := bind_eq_ok.mp h
    cases h
    exact Complains.texts (error_complains hd)
  | read reads => exact absurd rfl (hread reads)
  | write answer =>
    simp only [perform, Except.ok.injEq] at h
    have hw := write_handler (c.with_writes [answer])
    rw [h] at hw
    exact congrArg (fun handler => texts handler.calls) hw
  | shutdown =>
    obtain ⟨d, hd, h⟩ := bind_eq_ok.mp h
    cases h
    rw [shutdown_eq, bind_eq_ok] at hd
    obtain ⟨⟨d, res⟩, hs, hd⟩ := hd
    cases hd
    rw [send_close_handler hs]
    exact hheard .on_shutdown rfl
  | disconnect => cases h; exact Complains.texts (disconnect_complains c)
  | new_timeout event timeout => cases h; exact hheard (.on_new_timeout event timeout) rfl
  | timeout_triggered event => cases h; exact hheard (.on_timeout event) rfl

omit [Handler H] in
/-- When bytes come first, the loop has received some. -/
lemma buffer_in_loop_fed (fuel : ℕ) {c d : Connection H} {r : Result (Option ℕ)} {bytes : Bytes}
    {rest : List (Except IoError Bytes)} {new : List (ℕ × Bytes)} (hc : c.in_buffer.InBounds)
    (hreads : c.socket.reads = .ok bytes :: rest) (hne : bytes ≠ [])
    (h : c.buffer_in_loop (fuel + 1) = .ok (d, r)) (hlog : d.socket.log = c.socket.log ++ new) :
    bytesOf new ≠ [] := by
  obtain ⟨s', buf', hg⟩ := got_of_reads hreads c.in_buffer.inner
  have ht := hg.took hc
  set got := bytes.take (room c.in_buffer.inner) with hgot
  have hpos : 0 < got.length := by
    rw [hgot, List.length_take]
    exact lt_min (room_pos _) (List.length_pos_of_ne_nil hne)
  have hgotne : got ≠ [] := List.ne_nil_of_length_pos hpos
  -- what was logged last is in what was logged
  have hmore : ∀ more, d.socket.log = c.socket.log ++ (room c.in_buffer.inner, got) :: more →
      bytesOf new ≠ [] := by
    intro more hm
    rw [hlog] at hm
    rw [List.append_cancel_left hm]
    simp [bytesOf, hgotne]
  have hnext : ∀ buf : Vec UInt8, ({ c with socket := s', in_buffer := .new buf } :
      Connection H).buffer_in_loop fuel = .ok (d, r) → bytesOf new ≠ [] := by
    intro buf hrun
    obtain ⟨e, r', more, he, hfill⟩ := buffer_in_loop_spec fuel
      (c := { c with socket := s', in_buffer := .new buf }) (Cursor.new_inBounds _)
    rw [hrun] at he
    cases he
    refine hmore more ?_
    rw [hfill.log]
    simp [hg.log]
  have hstop : d.socket = s' → bytesOf new ≠ [] := fun hd => hmore [] (by rw [hd]; exact hg.log)
  rw [buffer_in_loop, hg.eq] at h
  dsimp only at h
  rw [if_neg (Nat.ne_of_gt hpos)] at h
  split at h
  · obtain ⟨unread, -, h⟩ := bind_eq_ok.mp h
    split at h
    · split at h
      · exact hnext _ h
      · cases h
        exact hstop rfl
    · exact hnext _ h
  · cases h
    exact hstop rfl

omit [Handler H] in
/-- A length is reported after some bytes came, unless the end of the stream came first. -/
lemma buffer_in_fed {c d : Connection H} {len : ℕ} {new : List (ℕ × Bytes)}
    (hc : c.in_buffer.InBounds) (hend : ∀ rest, c.socket.reads ≠ .ok [] :: rest)
    (h : c.buffer_in = .ok (d, .ok (some len))) (hlog : d.socket.log = c.socket.log ++ new) :
    bytesOf new ≠ [] := by
  rcases hr : c.socket.reads with _ | ⟨err | bytes, rest⟩
  · simp [buffer_in, buffer_in_loop, TcpStream.try_read_buf, TcpStream.read, hr, map_non_block,
      would_block] at h
  · by_cases hk : err.kind = .WouldBlock <;>
      simp [buffer_in, buffer_in_loop, TcpStream.try_read_buf, TcpStream.read, hr, map_non_block,
        hk] at h
  · have hne : bytes ≠ [] := fun h0 => hend rest (by rw [hr, h0])
    exact buffer_in_loop_fed _ hc hr hne h hlog

/-- Nothing has been made up, and every text delivered, with what is unread, had its read. -/
structure Clean (s : Drawn (Recorded H)) : Prop where
  intact : Intact s
  all : (delivered s.conn.handler.calls).Sublist s.taken
  count : (texts s.conn.handler.calls).length + (if s.conn.in_buffer.bytes = [] then 0 else 1) ≤
    fed s.conn.socket.log

omit [Handler H] [Growth] in
lemma Clean.backed {s s' : Drawn (Recorded H)} (hs' : Clean s')
    (hfresh : ∃ new, texts s'.conn.handler.calls = texts s.conn.handler.calls ++ new ∧
      ∀ text ∈ new, text ≠ [] ∧ s'.taken = s.taken ++ text) : Backed s s' :=
  ⟨hfresh, hs'.all, ⟨s'.conn.in_buffer.bytes, hs'.intact.all⟩,
    le_trans (Nat.le_add_right _ _) hs'.count⟩

omit [Handler H] [Growth] in
/-- What a read that is awaited has to hand on, when it hands on anything. -/
lemma unread_ne_nil {d : Connection H} {unread : Bytes} {new : List (ℕ × Bytes)}
    (hb : d.in_buffer.bytes = unread ++ bytesOf new) (hne : unread = [] → bytesOf new ≠ []) :
    d.in_buffer.bytes ≠ [] := by
  intro h0
  rw [hb, List.append_eq_nil_iff] at h0
  exact hne h0.1 h0.2

/-- **One read.** Unless it meets the end of the stream with nothing unread, what it delivers is
not empty and was never delivered before. -/
theorem read_clean {s s' : Drawn (Recorded H)} (hs : Clean s)
    {reads : List (Except IoError Bytes)} (hexp : Expectant s (.read reads))
    (h : draw s (.read reads) = .ok s') : Clean s' ∧ Backed s s' := by
  have hs' : Intake.Intact s' := draw_intact hs.intact h
  obtain ⟨⟨c', res⟩, hp, h⟩ := bind_eq_ok.mp h
  cases h
  have hconn := hs.intact.opened.not_connecting
  obtain ⟨d, r, new, hd, hfill⟩ := buffer_in_spec (c := s.conn.with_reads reads) hs.intact.inBounds
  obtain ⟨c'', res', hread, hf⟩ := read_finish (c := s.conn.with_reads reads) hconn hd
  have hp : (s.conn.with_reads reads).read = .ok (c', res) := hp
  rw [hread] at hp
  cases hp
  obtain ⟨-, -, hh⟩ := buffer_in_loop_inward _ hd
  have htexts : texts c'.handler.calls = texts s.conn.handler.calls ++ said d r := by
    rw [Finish.texts hf, hh]
    rfl
  have hunread := finish_unread hf
  have hbytes : d.in_buffer.bytes = s.conn.in_buffer.bytes ++ bytesOf new := hfill.bytes
  have hlog : c'.socket.log = s.conn.socket.log ++ new :=
    (Finish.input hf hfill.inBounds).2.trans hfill.log
  have hfed : fed c'.socket.log = fed s.conn.socket.log + fed new := by rw [hlog, fed_append]
  have hcount := hs.count
  by_cases hsome : ∃ len, r = .ok (some len)
  · -- everything unread is handed on
    obtain ⟨len, rfl⟩ := hsome
    have htakes : takes s.conn (.read reads) = d.in_buffer.bytes := by
      simp only [takes, hconn, hd]
      rfl
    have hempty : c'.in_buffer.bytes = [] := hunread
    have hcome : s.conn.in_buffer.bytes = [] → bytesOf new ≠ [] := fun h0 =>
      buffer_in_fed (c := s.conn.with_reads reads) hs.intact.inBounds
        (fun rest hr => hexp rest (congrArg Call.read hr) h0) hd hfill.log
    have hne := unread_ne_nil hbytes hcome
    have hmore : 1 ≤ (if s.conn.in_buffer.bytes = [] then 0 else 1) + fed new := by
      split
      · rename_i h0
        have := fed_pos (hcome h0)
        omega
      · omega
    have hsaid := said_unread d (.ok (some len))
    have hclean : Clean ⟨c', s.taken ++ takes s.conn (.read reads)⟩ := by
      refine ⟨hs', ?_, ?_⟩
      · dsimp only
        rw [← texts_flatten, htexts, List.flatten_append, texts_flatten, htakes]
        exact hs.all.append hsaid.2.1
      · dsimp only
        rw [htexts, List.length_append, hfed, if_pos hempty]
        have := hsaid.1
        omega
    refine ⟨hclean, hclean.backed ⟨_, htexts, fun text ht => ?_⟩⟩
    rw [hsaid.2.2 text ht, htakes]
    exact ⟨hne, rfl⟩
  · have hsaid : said d r = [] := by
      rcases r with err | _ | len
      · rfl
      · rfl
      · exact absurd ⟨len, rfl⟩ hsome
    have htakes : takes s.conn (.read reads) = [] := by
      rcases r with err | _ | len
      · simp [takes, hconn, hd]
      · simp [takes, hconn, hd]
      · exact absurd ⟨len, rfl⟩ hsome
    have hsame : c' = d := by
      rcases r with err | _ | len
      · exact hunread
      · exact hunread
      · exact absurd ⟨len, rfl⟩ hsome
    rw [hsaid, List.append_nil] at htexts
    have hclean : Clean ⟨c', s.taken ++ takes s.conn (.read reads)⟩ := by
      refine ⟨hs', ?_, ?_⟩
      · dsimp only
        rw [← texts_flatten, htexts, texts_flatten, htakes, List.append_nil]
        exact hs.all
      · dsimp only
        rw [htexts, hfed, hsame, hbytes]
        by_cases hnew : bytesOf new = []
        · rw [hnew, List.append_nil]
          omega
        · have := fed_pos hnew
          split <;> omega
    exact ⟨hclean, hclean.backed ⟨[], by simpa using htexts, by simp⟩⟩

/-- A call makes up no message exactly when it is awaited. -/
lemma no_phantom_iff {s : Drawn (Recorded H)} (hs : Clean s) (call : Call) :
    (NoPhantom s call ↔ Expectant s call) ∧
      (Expectant s call → ∀ s', draw s call = .ok s' → Clean s') := by
  by_cases hread : ∃ reads, call = .read reads
  · obtain ⟨reads, rfl⟩ := hread
    refine ⟨⟨fun hno rest hr h0 => ?_, fun hexp s' h => (read_clean hs hexp h).2⟩,
      fun hexp s' h => (read_clean hs hexp h).1⟩
    -- at the end of the stream, with nothing unread, the empty text is delivered
    cases hr
    obtain ⟨sock, buf, hb, hdata⟩ := buffer_in_eof s.conn rest
    obtain ⟨c', res, hp, hf⟩ := read_finish (c := s.conn.with_reads (.ok [] :: rest))
      hs.intact.opened.not_connecting hb
    have htexts := Finish.texts hf
    have hbytes : ({ s.conn with socket := sock, in_buffer := { s.conn.in_buffer with
        inner := buf } } : Connection (Recorded H)).in_buffer.bytes = [] := by
      rw [← h0]
      simp only [Cursor.bytes, hdata]
    have hdraw : draw s (.read (.ok [] :: rest)) =
        .ok ⟨c', s.taken ++ takes s.conn (.read (.ok [] :: rest))⟩ := by
      simp only [draw, perform, hp, ok_bind]
    obtain ⟨new, hnew, hall⟩ := (hno _ hdraw).fresh
    have hone : new = [[]] := by
      refine List.append_cancel_left (hnew.symm.trans (htexts.trans ?_))
      simp only [said, hbytes, if_pos Utf8.valid_nil]
    exact (hall [] (by rw [hone]; simp)).1 rfl
  · have hno : ∀ reads, call ≠ .read reads := fun reads hr => hread ⟨reads, hr⟩
    have hkept : ∀ s', draw s call = .ok s' → Clean s' ∧ Backed s s' := by
      intro s' h
      have hs' := draw_intact hs.intact h
      obtain ⟨⟨c', res⟩, hp, h⟩ := bind_eq_ok.mp h
      cases h
      obtain ⟨hb, hl⟩ := perform_input hno hp
      have htexts := perform_texts hno hp
      have htakes : takes s.conn call = [] := by
        cases call with
        | read reads => exact absurd ⟨reads, rfl⟩ hread
        | _ => rfl
      have hclean : Clean ⟨c', s.taken ++ takes s.conn call⟩ := by
        refine ⟨hs', ?_, ?_⟩
        · dsimp only
          rw [← texts_flatten, htexts, texts_flatten, htakes, List.append_nil]
          exact hs.all
        · dsimp only
          rw [htexts, hb, hl]
          exact hs.count
      exact ⟨hclean, hclean.backed ⟨[], by simpa using htexts, by simp⟩⟩
    exact ⟨iff_of_true (fun s' h => (hkept s' h).2) fun rest hr => absurd hr (hno _),
      fun _ s' h => (hkept s' h).1⟩

/-- **No phantom messages.** In a run of calls on an opened connection every message is made of
fresh bytes, at least one, and no more messages are delivered than socket reads brought bytes,
exactly when no read meets the end of the stream first with nothing unread. -/
theorem no_phantoms_iff (tok : Token) (handler : H) (settings : Settings) (id : UInt32)
    (calls : List Call) :
    Along draw NoPhantom ⟨opened tok ⟨handler, 0, []⟩ settings id, []⟩ calls ↔
      Along draw Expectant ⟨opened tok ⟨handler, 0, []⟩ settings id, []⟩ calls := by
  have hopen : Clean ⟨opened tok ⟨handler, 0, []⟩ settings id, []⟩ :=
    ⟨⟨open_opened _, Nat.zero_le _, rfl⟩, List.Sublist.refl _, le_refl _⟩
  exact along_congr (fun s call s' hs hno h => (no_phantom_iff hs call).2
      ((no_phantom_iff hs call).1.mp hno) s' h)
    (fun s call hs => (no_phantom_iff hs call).1) hopen

end Reads

/-- The peer closes without having sent anything. -/
def silent_end : List Call := [.as_server, .read [.ok []]]

/-- The handler gets a message nobody sent. -/
theorem silent_end_phantom :
    ¬ @Along _ _ _ (@draw (Recorded M) _ amortized) (@NoPhantom M _ amortized)
      ⟨opened 3 ⟨{}, 0, []⟩ {} 7, []⟩ silent_end := by
  intro h
  have hrun : Returns (@run _ _ _ (@draw (Recorded M) _ amortized)
      ⟨opened 3 ⟨{}, 0, []⟩ {} 7, []⟩ (silent_end.take 1)) fun s =>
        Returns (@draw (Recorded M) _ amortized s (.read [.ok []])) fun s' =>
          texts s'.conn.handler.calls = [[]] ∧ fed s'.conn.socket.log = 0 := by
    decide +kernel
  obtain ⟨s, hs, s', hread, htexts, hfed⟩ := hrun
  have h' : @Along _ _ _ (@draw (Recorded M) _ amortized) (@NoPhantom M _ amortized)
      ⟨opened 3 ⟨{}, 0, []⟩ {} 7, []⟩ (silent_end.take 1 ++ [.read [.ok []]]) := h
  have hb : @NoPhantom M _ amortized s (.read [.ok []]) := h'.last hs
  have hcount := (hb s' hread).count
  rw [htexts, hfed] at hcount
  exact absurd hcount (by decide)

end XnetSocket.Phantom
