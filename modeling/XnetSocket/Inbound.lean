import XnetSocket.Frames
import XnetSocket.Record

/-!
The input side of a connection: what a round of filling the input buffer does.

Every read the socket answers with bytes is a line of its log, with the room it was offered.
The reads that fill the room keep the loop going; the first that leaves room ends it, and then
everything unread goes to the handler.
-/

namespace XnetSocket.Inbound

open Buffer Runs Connection

variable {H : Type}

section Reads

variable [Growth]

/-- The room `try_read_buf` offers the socket. -/
def room (buf : Vec UInt8) : ℕ := buf.bytes_mut.capacity - buf.data.length

lemma room_pos (buf : Vec UInt8) : 0 < room buf := by
  have h := Vec.bytes_mut_room buf
  rw [Vec.bytes_mut_data] at h
  unfold room
  omega

/-- The socket would block. -/
structure Blocked (s : TcpStream) (buf : Vec UInt8) (s' : TcpStream) : Prop where
  eq : s.try_read_buf buf = (s', buf.bytes_mut, .ok none)
  log : s'.log = s.log
  reads : s'.reads = s.reads.tail

/-- The socket fails with `err`. -/
structure Failed (s : TcpStream) (buf : Vec UInt8) (s' : TcpStream) (err : IoError) : Prop where
  eq : s.try_read_buf buf = (s', buf.bytes_mut, .error err)
  log : s'.log = s.log
  reads : s'.reads = s.reads.tail
  mem : .error err ∈ s.reads
  kind : err.kind ≠ .WouldBlock

/-- The socket hands over `got`. -/
structure Got (s : TcpStream) (buf : Vec UInt8) (s' : TcpStream) (buf' : Vec UInt8)
    (got : Bytes) : Prop where
  eq : s.try_read_buf buf = (s', buf', .ok (some got.length))
  log : s'.log = s.log ++ [(room buf, got)]
  reads : s'.reads = s.reads.tail
  ne : s.reads ≠ []
  data : buf'.data = buf.data ++ got
  capacity : buf'.capacity = buf.bytes_mut.capacity
  le : got.length ≤ room buf
  head : ∃ bytes, s.reads.head? = some (.ok bytes) ∧ got = bytes.take (room buf)

/-- **The three outcomes of a read into a buffer.** -/
theorem try_read_buf_cases (s : TcpStream) (buf : Vec UInt8) :
    (∃ s', Blocked s buf s') ∨ (∃ s' err, Failed s buf s' err) ∨
      ∃ s' buf' got, Got s buf s' buf' got := by
  have hroom : buf.bytes_mut.capacity - buf.bytes_mut.data.length = room buf := by
    rw [Vec.bytes_mut_data]; rfl
  rcases hr : s.reads with _ | ⟨err | bytes, rest⟩
  · refine Or.inl ⟨s, ?_, rfl, by rw [hr]; rfl⟩
    simp [TcpStream.try_read_buf, TcpStream.read, hr, map_non_block, would_block]
  · by_cases hk : err.kind = .WouldBlock
    · refine Or.inl ⟨{ s with reads := rest }, ?_, rfl, by rw [hr]; rfl⟩
      simp [TcpStream.try_read_buf, TcpStream.read, hr, map_non_block, hk]
    · refine Or.inr (Or.inl ⟨{ s with reads := rest }, err, ?_, rfl, by rw [hr]; rfl,
        by simp [hr], hk⟩)
      simp [TcpStream.try_read_buf, TcpStream.read, hr, map_non_block, hk]
  · have hle : (bytes.take (room buf)).length ≤ room buf := by simp
    have hle' : (bytes.take (room buf)).length ≤
        buf.bytes_mut.capacity - buf.bytes_mut.data.length := by rw [hroom]; exact hle
    refine Or.inr (Or.inr ⟨{ s with reads := rest, log := s.log ++ [(room buf,
      bytes.take (room buf))] }, buf.bytes_mut.advance_mut (bytes.take (room buf)),
      bytes.take (room buf), ?_, rfl, by rw [hr]; rfl, by simp [hr], ?_, rfl, hle,
      ⟨bytes, by simp [hr], rfl⟩⟩)
    · simp only [TcpStream.try_read_buf, TcpStream.read, hr, hroom, map_non_block]
    · rw [Vec.advance_mut_data hle', Vec.bytes_mut_data]

/-- When bytes are next, a read takes as many as there is room for. -/
lemma got_of_reads {s : TcpStream} {bytes : Bytes} {rest : List (Except IoError Bytes)}
    (hr : s.reads = .ok bytes :: rest) (buf : Vec UInt8) :
    ∃ s' buf', Got s buf s' buf' (bytes.take (room buf)) := by
  rcases try_read_buf_cases s buf with ⟨s', hb⟩ | ⟨s', err, hf⟩ | ⟨s', buf', got, hg⟩
  · have := hb.eq
    simp [TcpStream.try_read_buf, TcpStream.read, hr, map_non_block] at this
  · have := hf.eq
    simp [TcpStream.try_read_buf, TcpStream.read, hr, map_non_block] at this
  · obtain ⟨bytes', hhead, rfl⟩ := hg.head
    rw [hr, List.head?_cons, Option.some.injEq, Except.ok.injEq] at hhead
    subst hhead
    exact ⟨s', buf', hg⟩

end Reads

/-! ### Filling the buffer -/

/-- The reads of `new` all filled the room they were offered. -/
def AllFull (new : List (ℕ × Bytes)) : Prop := ∀ e ∈ new, e.2.length = e.1

lemma allFull_nil : AllFull [] := fun _ h => by cases h

/-- The bytes of the reads of `new`. -/
def bytesOf (new : List (ℕ × Bytes)) : Bytes := new.flatMap Prod.snd

@[simp] lemma bytesOf_append (l m : List (ℕ × Bytes)) :
    bytesOf (l ++ m) = bytesOf l ++ bytesOf m := by
  simp [bytesOf]

lemma received_eq (s : TcpStream) : s.received = bytesOf s.log := rfl

/-- How filling the buffer ends, after the reads `new`. -/
def Ends (c : Connection H) (new : List (ℕ × Bytes)) (c' : Connection H) :
    Result (Option ℕ) → Prop
  | .ok none => AllFull new
  | .ok (some len) => len = c'.in_buffer.inner.data.length ∧
      ∃ front r got, new = front ++ [(r, got)] ∧ AllFull front ∧ got.length < r
  | .error err => AllFull new ∧
      ((∃ e, err = .from_io e ∧ .error e ∈ c.socket.reads ∧ e.kind ≠ .WouldBlock) ∨
        err.kind = .Capacity ∧ c.settings.in_buffer_grow = false)

/-- What filling the buffer does, with the reads `new`. -/
structure Filled (c : Connection H) (new : List (ℕ × Bytes)) (c' : Connection H)
    (res : Result (Option ℕ)) : Prop where
  log : c'.socket.log = c.socket.log ++ new
  bytes : c'.in_buffer.bytes = c.in_buffer.bytes ++ bytesOf new
  inBounds : c'.in_buffer.InBounds
  keep : bytesOf new = [] → c'.in_buffer.inner.data = c.in_buffer.inner.data
  ends : Ends c new c' res

/-- One more full read in front. -/
lemma Ends.cons {c d c' : Connection H} {new : List (ℕ × Bytes)} {res : Result (Option ℕ)}
    {e : ℕ × Bytes} (he : e.2.length = e.1) (hr : d.socket.reads = c.socket.reads.tail)
    (hs : d.settings = c.settings) (h : Ends d new c' res) : Ends c (e :: new) c' res := by
  have hfull : ∀ {l : List (ℕ × Bytes)}, AllFull l → AllFull (e :: l) := by
    intro l hl x hx
    rcases List.mem_cons.mp hx with rfl | hx
    · exact he
    · exact hl x hx
  rcases res with err | _ | len
  · refine ⟨hfull h.1, h.2.imp ?_ ?_⟩
    · rintro ⟨x, hx, hmem, hk⟩
      exact ⟨x, hx, List.mem_of_mem_tail (hr ▸ hmem), hk⟩
    · rintro ⟨hk, hg⟩
      exact ⟨hk, hs ▸ hg⟩
  · exact hfull h
  · obtain ⟨hlen, front, r, got, rfl, hf, hlt⟩ := h
    exact ⟨hlen, e :: front, r, got, rfl, hfull hf, hlt⟩

section Rounds

/-- A read that brings nothing only makes room. -/
lemma filled_nil [Growth] {c : Connection H} (hc : c.in_buffer.InBounds) {s' : TcpStream}
    (hl : s'.log = c.socket.log) {res : Result (Option ℕ)}
    (he : Ends c [] { c with socket := s', in_buffer := { c.in_buffer with
      inner := c.in_buffer.inner.bytes_mut } } res) :
    Filled c [] { c with socket := s', in_buffer := { c.in_buffer with
      inner := c.in_buffer.inner.bytes_mut } } res := by
  have hdata : c.in_buffer.inner.bytes_mut.data = c.in_buffer.inner.data :=
    Vec.bytes_mut_data _
  refine ⟨by simp [hl], ?_, ?_, fun _ => hdata, he⟩
  · simp [Cursor.bytes, hdata, bytesOf]
  · simpa [Cursor.InBounds, hdata] using hc

/-- One read brought `got` into a room of `r`. -/
structure Took (c : Connection H) (r : ℕ) (got : Bytes) (d : Connection H) : Prop where
  log : d.socket.log = c.socket.log ++ [(r, got)]
  reads : d.socket.reads = c.socket.reads.tail
  settings : d.settings = c.settings
  bytes : d.in_buffer.bytes = c.in_buffer.bytes ++ got
  inBounds : d.in_buffer.InBounds
  data : d.in_buffer.inner.data = c.in_buffer.inner.data ++ got
  capacity : d.in_buffer.inner.capacity = c.in_buffer.inner.data.length + r

lemma Got.took [Growth] {c : Connection H} (hc : c.in_buffer.InBounds) {s' : TcpStream}
    {buf' : Vec UInt8} {got : Bytes} (hg : Got c.socket c.in_buffer.inner s' buf' got) :
    Took c (room c.in_buffer.inner) got
      { c with socket := s', in_buffer := { c.in_buffer with inner := buf' } } where
  log := hg.log
  reads := hg.reads
  settings := rfl
  bytes := by
    simp only [Cursor.bytes, hg.data]
    rw [List.drop_append_of_le_length hc]
  inBounds := by
    unfold Cursor.InBounds at hc ⊢
    simp only [hg.data, List.length_append]
    omega
  data := hg.data
  capacity := by
    have := room_pos c.in_buffer.inner
    simp only [hg.capacity]
    unfold room at this ⊢
    omega

variable {c d c' : Connection H} {r : ℕ} {got : Bytes} {res : Result (Option ℕ)}

/-- The loop ends after this read. -/
lemma Took.last (ht : Took c r got d) (he : Ends c [(r, got)] d res) :
    Filled c [(r, got)] d res := by
  refine ⟨ht.log, by simpa [bytesOf] using ht.bytes, ht.inBounds, fun h0 => ?_, he⟩
  have : got = [] := by simpa [bytesOf] using h0
  rw [ht.data, this, List.append_nil]

/-- The read left room, so the loop ends with it. -/
lemma Took.short (ht : Took c r got d) (hlt : got.length < r) :
    Filled c [(r, got)] d (.ok (some d.in_buffer.inner.data.length)) :=
  ht.last ⟨rfl, [], r, got, rfl, allFull_nil, hlt⟩

/-- The read filled the room, and the loop goes on with what is unread. -/
lemma Took.next (ht : Took c r got d) (he : got.length = r) (hne : got ≠ [])
    {buf : Vec UInt8} (hbuf : buf.data = d.in_buffer.bytes) {new : List (ℕ × Bytes)}
    (hf : Filled { d with in_buffer := .new buf } new c' res) :
    Filled c ((r, got) :: new) c' res where
  log := by rw [hf.log]; simp [ht.log]
  bytes := by
    rw [hf.bytes, Cursor.new_bytes, hbuf, ht.bytes]
    simp [bytesOf]
  inBounds := hf.inBounds
  keep h0 := by
    simp only [bytesOf, List.flatMap_cons, List.append_eq_nil_iff] at h0
    exact absurd h0.1 hne
  ends := hf.ends.cons (d := { d with in_buffer := .new buf }) he ht.reads ht.settings

/-- **What filling the buffer does.** The bytes read go behind the unread ones, whatever is
dropped or grown on the way; it never panics; and it ends at the first read that leaves room,
when the socket has nothing, or when the buffer may not grow. -/
theorem buffer_in_loop_spec [Growth] (fuel : ℕ) {c : Connection H} (hc : c.in_buffer.InBounds) :
    ∃ c' res new, c.buffer_in_loop fuel = .ok (c', res) ∧ Filled c new c' res := by
  induction fuel generalizing c with
  | zero => exact ⟨c, .ok none, [], rfl, by simp, by simp [bytesOf], hc, fun _ => rfl,
      allFull_nil⟩
  | succ fuel ih =>
    rcases try_read_buf_cases c.socket c.in_buffer.inner with ⟨s', hb⟩ | ⟨s', err, hf⟩ |
      ⟨s', buf', got, hg⟩
    · -- nothing to read
      exact ⟨_, .ok none, [], by simp only [buffer_in_loop, hb.eq],
        filled_nil hc hb.log allFull_nil⟩
    · -- the socket fails
      exact ⟨_, .error (.from_io err), [], by simp only [buffer_in_loop, hf.eq],
        filled_nil hc hf.log ⟨allFull_nil, Or.inl ⟨err, rfl, hf.mem, hf.kind⟩⟩⟩
    · -- bytes came
      have ht := hg.took hc
      have hpos := room_pos c.in_buffer.inner
      set d : Connection H :=
        { c with socket := s', in_buffer := { c.in_buffer with inner := buf' } } with hd
      by_cases hlen : got.length = 0
      · refine ⟨d, .ok (some d.in_buffer.inner.data.length), _, ?_, ht.short (by omega)⟩
        simp only [buffer_in_loop, hg.eq, if_pos hlen]
        rfl
      have hsum : d.in_buffer.inner.data.length = c.in_buffer.inner.data.length + got.length := by
        rw [ht.data, List.length_append]
      have hcap := ht.capacity
      by_cases hfull : d.in_buffer.inner.data.length = d.in_buffer.inner.capacity
      · -- the read filled the buffer: make room and go on
        have he : got.length = room c.in_buffer.inner := by omega
        have hslice : slice_from d.in_buffer.get_ref.data d.in_buffer.position =
            .ok d.in_buffer.bytes := if_pos ht.inBounds
        have hnext : ∀ buf : Vec UInt8, buf.data = d.in_buffer.bytes →
            ∃ c' res new, ({ d with in_buffer := .new buf } : Connection H).buffer_in_loop fuel
              = .ok (c', res) ∧ Filled c new c' res := by
          intro buf hbuf
          obtain ⟨c', res, new, hrun, hfill⟩ :=
            ih (c := { d with in_buffer := .new buf }) (Cursor.new_inBounds _)
          have hne : got ≠ [] := fun h0 => hlen (by rw [h0]; rfl)
          exact ⟨c', res, _, hrun, ht.next he hne hbuf hfill⟩
        simp only [buffer_in_loop, hg.eq, if_neg hlen]
        rw [if_pos (show d.in_buffer.get_ref.len = d.in_buffer.get_ref.capacity from hfull),
          hslice, ok_bind]
        split
        · split
          · exact hnext _ (Vec.reserve_data _ _)
          · rename_i hgrow
            refine ⟨d, _, _, rfl, ht.last ⟨fun e he' => ?_, Or.inr ⟨rfl, ?_⟩⟩⟩
            · rcases List.mem_singleton.mp he' with rfl
              exact he
            · simpa using hgrow
        · exact hnext _ rfl
      · -- the read left room
        have hle := hg.le
        refine ⟨d, .ok (some d.in_buffer.inner.data.length), _, ?_, ht.short (by omega)⟩
        simp only [buffer_in_loop, hg.eq, if_neg hlen]
        rw [if_neg (show ¬ d.in_buffer.get_ref.len = d.in_buffer.get_ref.capacity from hfull)]
        rfl

end Rounds

/-- The loop never runs out of fuel: any more than one round for each answer in store gives the
same result. -/
theorem buffer_in_loop_fuel [Growth] (fuel : ℕ) {c : Connection H}
    (h : c.socket.reads.length < fuel) : c.buffer_in_loop (fuel + 1) = c.buffer_in_loop fuel := by
  induction fuel generalizing c with
  | zero => omega
  | succ fuel ih =>
    rw [buffer_in_loop, buffer_in_loop]
    rcases try_read_buf_cases c.socket c.in_buffer.inner with ⟨s', hb⟩ | ⟨s', err, hf⟩ |
      ⟨s', buf', got, hg⟩
    · simp only [hb.eq]
    · simp only [hf.eq]
    · have hlen : s'.reads.length < fuel := by
        rw [hg.reads, List.length_tail]
        have := List.length_pos_of_ne_nil hg.ne
        omega
      have hnext : ∀ buf : Cursor UInt8,
          ({ c with socket := s', in_buffer := buf } : Connection H).buffer_in_loop (fuel + 1) =
            ({ c with socket := s', in_buffer := buf } : Connection H).buffer_in_loop fuel :=
        fun buf => ih hlen
      simp only [hg.eq, hnext]

lemma buffer_in_spec [Growth] {c : Connection H} (hc : c.in_buffer.InBounds) :
    ∃ c' res new, c.buffer_in = .ok (c', res) ∧ Filled c new c' res :=
  buffer_in_loop_spec _ hc

end XnetSocket.Inbound
