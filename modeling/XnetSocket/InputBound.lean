import XnetSocket.Chunking
import XnetSocket.EndOfStream
import XnetSocket.OutputBound

/-!
How much an input buffer that may not grow stores.

The limit is looked at after a read has filled the buffer, not before. A buffer that is full when
filling it begins is offered to the socket all the same, and `bytes_mut` makes room behind the
settings. A buffer is left full by the error that reports it; so the bound holds as long as
nothing more arrives from then on.
-/

namespace XnetSocket.InputBound

open Buffer Runs Connection Inbound Lifecycle Chunking EndOfStream

variable {H : Type}

/-- The number of bytes the input buffer stores, read or not. -/
def stored (c : Connection H) : ℕ := c.in_buffer.get_ref.len

/-- The first read of the socket brings bytes. -/
def Arrives (reads : List (Except IoError Bytes)) : Prop :=
  ∃ bytes, reads.head? = some (.ok bytes) ∧ bytes ≠ []

/-- A full buffer is spared further bytes. -/
def Spared (c : Connection H) (call : Call) : Prop :=
  ∀ reads, call = .read reads → c.settings.in_buffer_capacity ≤ stored c → ¬ Arrives reads

/-- The buffer is reported as full. -/
def refused {α : Type} : Result α → Bool
  | .error err => err.kind = .Capacity
  | .ok _ => false

section Filling

variable [Growth]

/-- The loop of `buffer_in`, which also notes how much the buffer stores after each read of the
socket. -/
def metered_loop : ℕ → Connection H → List ℕ →
    Except Panic ((Connection H × Result (Option ℕ)) × List ℕ)
  | 0, c, levels => .ok ((c, .ok none), levels)
  | fuel + 1, c, levels =>
    match c.socket.try_read_buf c.in_buffer.inner with
    | (sock, buf, .error err) =>
      .ok (({ c with socket := sock, in_buffer := { c.in_buffer with inner := buf } },
        .error (.from_io err)), levels ++ [buf.len])
    | (sock, buf, .ok none) =>
      .ok (({ c with socket := sock, in_buffer := { c.in_buffer with inner := buf } }, .ok none),
        levels ++ [buf.len])
    | (sock, buf, .ok (some len)) =>
      let c := { c with socket := sock, in_buffer := { c.in_buffer with inner := buf } }
      let levels := levels ++ [stored c]
      if len = 0 then .ok ((c, .ok (some c.in_buffer.get_ref.len)), levels)
      else if c.in_buffer.get_ref.len = c.in_buffer.get_ref.capacity then do
        let unread ← slice_from c.in_buffer.get_ref.data c.in_buffer.position
        let new := (Vec.with_capacity c.in_buffer.get_ref.capacity).extend unread
        if new.len = new.capacity then
          if c.settings.in_buffer_grow then
            metered_loop fuel
              { c with in_buffer := .new (new.reserve c.settings.in_buffer_capacity) } levels
          else .ok ((c, .error (.new .Capacity "Maxed out input buffer for connection")), levels)
        else metered_loop fuel { c with in_buffer := .new new } levels
      else .ok ((c, .ok (some c.in_buffer.get_ref.len)), levels)

/-- Forgetting the notes leaves the loop. -/
theorem metered_loop_fst (fuel : ℕ) (c : Connection H) (levels : List ℕ) :
    Prod.fst <$> metered_loop fuel c levels = c.buffer_in_loop fuel := by
  induction fuel generalizing c levels with
  | zero => rfl
  | succ fuel ih =>
    rw [metered_loop, buffer_in_loop]
    rcases c.socket.try_read_buf c.in_buffer.inner with ⟨sock, buf, err | _ | len⟩
    · rfl
    · rfl
    · dsimp only
      split
      · rfl
      · split
        · rw [map_bind]
          refine bind_congr fun unread => ?_
          split
          · split
            · exact ih _ _
            · rfl
          · exact ih _ _
        · rfl

/-- A buffer that may not grow, and has not, unless it is full. -/
structure Sized (c : Connection H) : Prop where
  inBounds : c.in_buffer.InBounds
  grow : c.settings.in_buffer_grow = false
  le : stored c ≤ c.settings.in_buffer_capacity
  capacity : stored c < c.settings.in_buffer_capacity →
    c.in_buffer.inner.capacity = c.settings.in_buffer_capacity

/-- A round adds its note, when the rounds behind it keep theirs. -/
lemma metered_loop_round {fuel : ℕ}
    (hrest : ∀ (d : Connection H) (l : List ℕ), Holds (metered_loop fuel d l) fun p => l <+: p.2)
    (c : Connection H) (levels : List ℕ) :
    Holds (metered_loop (fuel + 1) c levels) fun p =>
      levels ++ [(c.socket.try_read_buf c.in_buffer.inner).2.1.len] <+: p.2 := by
  rw [metered_loop]
  rcases c.socket.try_read_buf c.in_buffer.inner with ⟨sock, buf, err | _ | len⟩
  · exact holds_ok.mpr (List.prefix_refl _)
  · exact holds_ok.mpr (List.prefix_refl _)
  · dsimp only
    split
    · exact holds_ok.mpr (List.prefix_refl _)
    · split
      · refine Holds.bind (Q := fun _ => True) (fun _ _ => trivial) fun unread _ => ?_
        split
        · split
          · exact hrest _ _
          · exact holds_ok.mpr (List.prefix_refl _)
        · exact hrest _ _
      · exact holds_ok.mpr (List.prefix_refl _)

/-- The loop adds its notes to the ones it is given. -/
lemma metered_loop_levels (fuel : ℕ) (c : Connection H) (levels : List ℕ) :
    Holds (metered_loop fuel c levels) fun p => levels <+: p.2 := by
  induction fuel generalizing c levels with
  | zero => exact holds_ok.mpr (List.prefix_refl _)
  | succ fuel ih =>
    exact (metered_loop_round ih c levels).mono fun p hp => (List.prefix_append _ _).trans hp

/-- A buffer that is not full offers what is left of it. -/
lemma room_of_lt {buf : Vec UInt8} (h : buf.data.length < buf.capacity) :
    room buf = buf.capacity - buf.data.length := by
  have : ¬ buf.capacity = buf.len := by unfold Vec.len; omega
  simp [room, Vec.bytes_mut, this]

/-- A read that brings nothing leaves what is stored. -/
lemma stored_unchanged (c : Connection H) (sock : TcpStream) :
    stored { c with socket := sock, in_buffer := { c.in_buffer with
      inner := c.in_buffer.inner.bytes_mut } } = stored c :=
  congrArg List.length (Vec.bytes_mut_data c.in_buffer.inner)

lemma Sized.unchanged {c : Connection H} (hc : Sized c) (sock : TcpStream) :
    Sized { c with socket := sock, in_buffer := { c.in_buffer with
      inner := c.in_buffer.inner.bytes_mut } } := by
  have hlen := stored_unchanged c sock
  refine ⟨?_, hc.grow, le_of_eq_of_le hlen hc.le, fun hlt => ?_⟩
  · unfold Cursor.InBounds
    rw [Vec.bytes_mut_data]
    exact hc.inBounds
  · have hlt : stored c < c.settings.in_buffer_capacity := lt_of_eq_of_lt hlen.symm hlt
    have hcap := hc.capacity hlt
    have hroom : ¬ c.in_buffer.inner.capacity = c.in_buffer.inner.len := by
      rw [hcap]
      exact (Nat.ne_of_lt hlt).symm
    simp only [Vec.bytes_mut, if_neg hroom]
    exact hcap

lemma Sized.quiet {c : Connection H} (hc : Sized c) :
    ∀ n ∈ [c.in_buffer.inner.bytes_mut.len], n ≤ c.settings.in_buffer_capacity := by
  intro n hn
  rw [List.mem_singleton.mp hn]
  exact (hc.unchanged c.socket).le

/-- Dropping what was read frees a buffer, or leaves it full. -/
lemma Sized.dropped {c : Connection H} (hc : Sized c)
    (hcap : c.in_buffer.inner.capacity = c.settings.in_buffer_capacity) {new : Vec UInt8}
    (hnew : new = (Vec.with_capacity c.in_buffer.inner.capacity).extend c.in_buffer.bytes)
    (hfree : new.len ≠ new.capacity) :
    Sized { c with in_buffer := .new new } ∧ new.len < c.settings.in_buffer_capacity := by
  have hfit : c.in_buffer.bytes.length ≤ c.settings.in_buffer_capacity := by
    rw [Cursor.bytes_length]
    exact le_trans (Nat.sub_le _ _) hc.le
  have hnewcap : new.capacity = c.settings.in_buffer_capacity := by
    rw [hnew, Vec.extend_capacity]
    · exact hcap
    · rw [hcap]
      simpa [Vec.with_capacity] using hfit
  have hlt : new.len < c.settings.in_buffer_capacity := by
    have : new.len ≤ new.capacity := new.length_le
    omega
  exact ⟨⟨Cursor.new_inBounds _, hc.grow, le_of_lt hlt, fun _ => hnewcap⟩, hlt⟩

/-- **Filling a buffer that is not full.** It never stores more than the settings allow. -/
lemma metered_loop_sized (fuel : ℕ) {c : Connection H} (hc : Sized c)
    (hlt : stored c < c.settings.in_buffer_capacity) (levels : List ℕ) :
    ∃ d r new, metered_loop fuel c levels = .ok ((d, r), levels ++ new) ∧ Sized d ∧
      (∀ n ∈ new, n ≤ c.settings.in_buffer_capacity) ∧
      (stored d < c.settings.in_buffer_capacity ∨ refused r = true) := by
  induction fuel generalizing c levels with
  | zero => exact ⟨c, .ok none, [], by simp [metered_loop], hc, by simp, Or.inl hlt⟩
  | succ fuel ih =>
    have hquiet := hc.quiet
    rcases try_read_buf_cases c.socket c.in_buffer.inner with ⟨s', hb⟩ | ⟨s', err, hf⟩ |
      ⟨s', buf', got, hg⟩
    · exact ⟨_, .ok none, _, by simp only [metered_loop, hb.eq], hc.unchanged s', hquiet,
        Or.inl (lt_of_eq_of_lt (stored_unchanged c s') hlt)⟩
    · exact ⟨_, .error (.from_io err), _, by simp only [metered_loop, hf.eq], hc.unchanged s',
        hquiet, Or.inl (lt_of_eq_of_lt (stored_unchanged c s') hlt)⟩
    · have ht := hg.took hc.inBounds
      have hroom : room c.in_buffer.inner = c.settings.in_buffer_capacity - stored c := by
        rw [room_of_lt (by rw [hc.capacity hlt]; exact hlt), hc.capacity hlt]
        rfl
      set d : Connection H :=
        { c with socket := s', in_buffer := { c.in_buffer with inner := buf' } } with hd
      have hcap : buf'.capacity = c.settings.in_buffer_capacity := by
        have h1 : buf'.capacity = stored c + room c.in_buffer.inner := ht.capacity
        omega
      have hle : stored d ≤ c.settings.in_buffer_capacity := hcap ▸ buf'.length_le
      have hds : Sized d := ⟨ht.inBounds, hc.grow, hle, fun _ => hcap⟩
      have hone : ∀ n ∈ [stored d], n ≤ c.settings.in_buffer_capacity := by simpa using hle
      by_cases hlen : got.length = 0
      · have hsame : stored d = stored c := by
          have : stored d = stored c + got.length := by
            simp only [stored, Vec.len, Cursor.get_ref, ht.data, List.length_append]
          omega
        exact ⟨d, .ok (some (stored d)), [stored d],
          by simp only [metered_loop, hg.eq, if_pos hlen]; rfl, hds, hone, Or.inl (hsame ▸ hlt)⟩
      by_cases hfull : d.in_buffer.get_ref.len = d.in_buffer.get_ref.capacity
      · -- the read filled the buffer: what was read is dropped, unless that frees nothing
        have hslice : slice_from d.in_buffer.get_ref.data d.in_buffer.position =
            .ok d.in_buffer.bytes := if_pos ht.inBounds
        set new := (Vec.with_capacity d.in_buffer.get_ref.capacity).extend d.in_buffer.bytes
          with hnew
        by_cases hnfull : new.len = new.capacity
        · refine ⟨d, .error (.new .Capacity "Maxed out input buffer for connection"), [stored d],
            ?_, hds, hone, Or.inr rfl⟩
          simp only [metered_loop, hg.eq, if_neg hlen]
          rw [if_pos hfull, hslice, ok_bind, if_pos hnfull, if_neg (by simp [hc.grow])]
        · obtain ⟨hns, hnlt⟩ := hds.dropped hcap hnew hnfull
          obtain ⟨e, r, more, hrun, he, hall, hend⟩ := ih hns hnlt (levels ++ [stored d])
          refine ⟨e, r, stored d :: more, ?_, he, ?_, hend⟩
          · simp only [metered_loop, hg.eq, if_neg hlen]
            rw [if_pos hfull, hslice, ok_bind, if_neg hnfull, hrun]
            simp
          · intro n hn
            rcases List.mem_cons.mp hn with rfl | hn
            · exact hle
            · exact hall n hn
      · refine ⟨d, .ok (some (stored d)), [stored d], ?_, hds, hone,
          Or.inl (lt_of_le_of_ne hle fun he => hfull (he.trans hcap.symm))⟩
        simp only [metered_loop, hg.eq, if_neg hlen]
        rw [if_neg hfull]
        rfl

/-- Filling a full buffer with nothing to arrive: it stays as it is. -/
lemma metered_loop_silent (fuel : ℕ) {c : Connection H} (hc : Sized c)
    (hno : ¬ Arrives c.socket.reads) :
    ∃ d r new, metered_loop fuel c [] = .ok ((d, r), new) ∧ Sized d ∧
      ∀ n ∈ new, n ≤ c.settings.in_buffer_capacity := by
  cases fuel with
  | zero => exact ⟨c, .ok none, [], by simp [metered_loop], hc, by simp⟩
  | succ fuel =>
    have hquiet := hc.quiet
    rcases try_read_buf_cases c.socket c.in_buffer.inner with ⟨s', hb⟩ | ⟨s', err, hf⟩ |
      ⟨s', buf', got, hg⟩
    · exact ⟨_, .ok none, _, by simp only [metered_loop, hb.eq]; rfl, hc.unchanged s', hquiet⟩
    · exact ⟨_, .error (.from_io err), _, by simp only [metered_loop, hf.eq]; rfl, hc.unchanged s',
        hquiet⟩
    · obtain ⟨bytes, hhead, hgot⟩ := hg.head
      have hbytes : bytes = [] := by
        by_contra hne
        exact hno ⟨bytes, hhead, hne⟩
      subst hbytes
      rw [List.take_nil] at hgot
      subst hgot
      have hbuf : buf' = c.in_buffer.inner.bytes_mut := by
        refine Vec.ext' ?_ hg.capacity
        rw [hg.data, List.append_nil, Vec.bytes_mut_data]
      subst hbuf
      exact ⟨_, .ok (some c.in_buffer.inner.bytes_mut.len), _,
        by simp only [metered_loop, hg.eq]; rfl, hc.unchanged s', hquiet⟩

/-- **Filling a full buffer.** What arrives is stored on top. -/
lemma metered_loop_full (fuel : ℕ) {c : Connection H} (hc : Sized c)
    (hfull : c.settings.in_buffer_capacity ≤ stored c) (harr : Arrives c.socket.reads) :
    ∃ out levels, metered_loop (fuel + 1) c [] = .ok (out, levels) ∧
      ∃ n ∈ levels, c.settings.in_buffer_capacity < n := by
  obtain ⟨bytes, hhead, hne⟩ := harr
  obtain ⟨d, r, new, hrun, -⟩ := buffer_in_loop_spec (fuel + 1) hc.inBounds
  have hfst := metered_loop_fst (fuel + 1) c []
  rw [hrun] at hfst
  rcases hm : metered_loop (fuel + 1) c [] with p | ⟨out, levels⟩
  · rw [hm] at hfst
    cases hfst
  have hfirst := metered_loop_round (metered_loop_levels fuel) c [] _ hm
  refine ⟨out, levels, rfl, _, hfirst.mem (List.mem_singleton.mpr rfl), ?_⟩
  obtain ⟨rest, hreads⟩ : ∃ rest, c.socket.reads = .ok bytes :: rest := by
    rcases hr : c.socket.reads with _ | ⟨a, rest⟩
    · rw [hr] at hhead
      cases hhead
    · rw [hr, List.head?_cons, Option.some.injEq] at hhead
      exact ⟨rest, by rw [hhead]⟩
  obtain ⟨s', buf', hg⟩ := got_of_reads hreads c.in_buffer.inner
  have hpos := room_pos c.in_buffer.inner
  have hlen : 0 < (bytes.take (room c.in_buffer.inner)).length := by
    rw [List.length_take]
    exact lt_min hpos (List.length_pos_of_ne_nil hne)
  have hdata : buf'.len = stored c + (bytes.take (room c.in_buffer.inner)).length := by
    simp only [Vec.len, hg.data, List.length_append]
    rfl
  rw [hg.eq]
  dsimp only
  omega

variable [Handler H]

omit [Growth] in
/-- Once the buffer is filled, a read only moves the position. -/
lemma Finish.sized {d c' : Connection H} {r : Result (Option ℕ)} {res : Result Unit}
    (h : Finish d r c' res) (hd : Sized d) : Sized c' ∧ stored c' = stored d := by
  have hinner : c'.in_buffer.inner = d.in_buffer.inner := by
    have hdata : ∀ {e x}, d.read_data = (e, x) → e.in_buffer.inner = d.in_buffer.inner := by
      intro e x hx
      have : d.read_data.1.in_buffer.inner = d.in_buffer.inner := by
        unfold read_data
        dsimp only
        split <;> rfl
      rwa [hx] at this
    cases h with
    | failed => rfl
    | blocked => rfl
    | refused hx => exact hdata hx
    | handed hx => exact hdata hx
    | half_closed hx =>
      have := hdata hx
      exact this
    | closed hx => rw [(disconnect_calm _).in_buffer]; exact hdata hx
  have hset : c'.settings = d.settings := (Connection.Finish.inward h).settings
  have hlen : stored c' = stored d := congrArg Vec.len hinner
  refine ⟨⟨(Chunking.Finish.input h hd.inBounds).1, ?_, ?_, ?_⟩, hlen⟩
  · rw [hset]; exact hd.grow
  · rw [hlen, hset]; exact hd.le
  · rw [hlen, hset, hinner]; exact hd.capacity

/-! ### Runs -/

/-- The input buffer never stores more than the settings allow, neither while it is filled nor
after the call. -/
structure Bounded (c : Connection H) (call : Call) : Prop where
  during : ∀ reads out levels, call = .read reads →
    metered_loop (reads.length + 1) (c.with_reads reads) [] = .ok (out, levels) →
    ∀ n ∈ levels, n ≤ c.settings.in_buffer_capacity
  after : ∀ c' res, c.perform call = .ok (c', res) → stored c' ≤ c.settings.in_buffer_capacity

/-- No call changes the settings. -/
lemma perform_settings {c c' : Connection H} {call : Call} {res : Result Unit}
    (h : c.perform call = .ok (c', res)) : c'.settings = c.settings := by
  by_cases hsend : ∃ msg, call = .send_message msg
  · obtain ⟨msg, rfl⟩ := hsend
    have hs : c.send_message msg = .ok (c', res) := h
    obtain ⟨out, rfl | rfl⟩ := send_message_frame hs
    · rfl
    · exact (check_events_calm ({ c with out_buffer := out } : Connection H)).settings
  · exact (OutputBound.perform_inner (fun msg hm => hsend ⟨msg, hm⟩) h).2

/-- What a read leaves, from what filling the buffer leaves. -/
lemma read_sized {c c' d : Connection H} {reads : List (Except IoError Bytes)}
    {r : Result (Option ℕ)} {levels : List ℕ} {res : Result Unit} (hc : Opened c)
    (hm : metered_loop (reads.length + 1) (c.with_reads reads) [] = .ok ((d, r), levels))
    (hd : Sized d) (h : c.perform (.read reads) = .ok (c', res)) :
    Sized c' ∧ stored c' = stored d ∧ (refused r = true → refused res = true) := by
  have hb : (c.with_reads reads).buffer_in = .ok (d, r) := by
    have := metered_loop_fst (reads.length + 1) (c.with_reads reads) []
    rw [hm] at this
    exact this.symm
  obtain ⟨e, res', hread, hf⟩ :=
    read_finish (c := c.with_reads reads) hc.not_connecting hb
  have h : (c.with_reads reads).read = .ok (c', res) := h
  rw [hread] at h
  cases h
  obtain ⟨hs, hlen⟩ := Finish.sized hf hd
  refine ⟨hs, hlen, fun hr => ?_⟩
  cases hf with
  | failed => exact hr
  | _ => cases hr

/-- **A buffer is left full by the error that reports it.** -/
theorem full_of_refused {c c' : Connection H} (hc : Opened c) (hs : Sized c)
    (hlt : stored c < c.settings.in_buffer_capacity) {reads : List (Except IoError Bytes)}
    {res : Result Unit} (h : c.perform (.read reads) = .ok (c', res)) :
    stored c' < c.settings.in_buffer_capacity ∨ refused res = true := by
  have hw : Sized (c.with_reads reads) := ⟨hs.inBounds, hs.grow, hs.le, hs.capacity⟩
  obtain ⟨d, r, new, hm, hd, -, hend⟩ := metered_loop_sized (reads.length + 1) hw hlt []
  obtain ⟨-, hlen, href⟩ := read_sized hc hm hd h
  exact hend.imp (fun hl => hlen ▸ hl) href

/-- A call keeps to the bound exactly when it spares a full buffer; and then it leaves one that
has not grown. -/
theorem bounded_iff {c : Connection H} (hc : Opened c) (hs : Sized c) (call : Call) :
    (Bounded c call ↔ Spared c call) ∧
      (Spared c call → ∀ c' res, c.perform call = .ok (c', res) → Sized c') := by
  by_cases hread : ∃ reads, call = .read reads
  · obtain ⟨reads, rfl⟩ := hread
    have hw : Sized (c.with_reads reads) := ⟨hs.inBounds, hs.grow, hs.le, hs.capacity⟩
    -- a call that spares the buffer
    have hgood : Spared c (.read reads) → ∃ d r levels,
        metered_loop (reads.length + 1) (c.with_reads reads) [] = .ok ((d, r), levels) ∧ Sized d ∧
          ∀ n ∈ levels, n ≤ c.settings.in_buffer_capacity := by
      intro hsp
      by_cases hlt : stored c < c.settings.in_buffer_capacity
      · obtain ⟨d, r, new, hm, hd, hall, -⟩ := metered_loop_sized (reads.length + 1) hw hlt []
        exact ⟨d, r, new, hm, hd, hall⟩
      · exact metered_loop_silent _ hw (hsp reads rfl (Nat.not_lt.mp hlt))
    refine ⟨⟨fun hb reads' hr hfull harr => ?_, fun hsp => ?_⟩, fun hsp c' res h => ?_⟩
    · cases hr
      obtain ⟨out, levels, hm, n, hn, hlt⟩ := metered_loop_full reads.length hw hfull harr
      exact absurd (hb.during reads out levels rfl hm n hn) (Nat.not_le.mpr hlt)
    · obtain ⟨d, r, levels, hm, hd, hall⟩ := hgood hsp
      refine ⟨fun reads' out levels' hr hm' => ?_, fun c' res h => ?_⟩
      · cases hr
        rw [hm] at hm'
        cases hm'
        exact hall
      · obtain ⟨hs', -, -⟩ := read_sized hc hm hd h
        have hset : c'.settings = c.settings := (read_inward (c := c.with_reads reads) h).settings
        exact hset ▸ hs'.le
    · obtain ⟨d, r, levels, hm, hd, -⟩ := hgood hsp
      exact (read_sized hc hm hd h).1
  · have hno : ∀ reads, call ≠ .read reads := fun reads hr => hread ⟨reads, hr⟩
    have hkept : ∀ c' res, c.perform call = .ok (c', res) →
        c'.in_buffer = c.in_buffer ∧ c'.settings = c.settings :=
      fun c' res h => ⟨(perform_input hno h).1, perform_settings h⟩
    refine ⟨iff_of_true ⟨fun reads _ _ hr => absurd hr (hno reads), fun c' res h => ?_⟩
      fun reads hr => absurd hr (hno reads), fun _ c' res h => ?_⟩
    · unfold stored
      rw [(hkept c' res h).1]
      exact hs.le
    · obtain ⟨hb, hset⟩ := hkept c' res h
      refine ⟨hb ▸ hs.inBounds, ?_, ?_, ?_⟩
      · rw [hset]; exact hs.grow
      · unfold stored; rw [hb, hset]; exact hs.le
      · unfold stored; rw [hb, hset]; exact hs.capacity

/-- **The input bound.** On an opened connection whose input buffer may not grow, every call of a
run keeps to the bound exactly when none of its reads receives bytes into a full buffer. -/
theorem input_bound_iff (tok : Token) (handler : H) (settings : Settings) (id : UInt32)
    (hgrow : settings.in_buffer_grow = false) (calls : List Call) :
    Along Connection.call Bounded (opened tok handler settings id) calls ↔
      Along Connection.call Spared (opened tok handler settings id) calls := by
  have hopen : Opened (opened tok handler settings id) ∧ Sized (opened tok handler settings id) :=
    ⟨open_opened _, Nat.zero_le _, hgrow, Nat.zero_le _, fun _ => rfl⟩
  refine along_congr (I := fun c => Opened c ∧ Sized c) (fun c call c' hc hb hcall => ?_)
    (fun c call hc => (bounded_iff hc.1 hc.2 call).1) hopen
  obtain ⟨⟨d, res⟩, hp, hcall'⟩ := bind_eq_ok.mp hcall
  cases hcall'
  obtain ⟨hiff, hkeep⟩ := bounded_iff hc.1 hc.2 call
  exact ⟨call_opened hc.1 hcall, hkeep (hiff.mp hb) c' res hp⟩

end Filling

/-- Settings with an input buffer of two bytes that may not grow. -/
def two_bytes_in : Settings := { in_buffer_capacity := 2, in_buffer_grow := false }

/-- Two bytes fill the buffer, the error is reported, and a third byte arrives. -/
def third_byte : List Call :=
  [.read [.ok [1, 2]], .error (.new .Capacity "Maxed out input buffer for connection"),
    .read [.ok [3]]]

/-- The third byte is stored in a buffer of two. -/
theorem third_byte_stored :
    two_bytes_in.in_buffer_grow = false ∧ 1 ≤ two_bytes_in.in_buffer_capacity ∧
      ¬ @Along _ _ _ (@call M _ amortized) (@Bounded M amortized _) (opened 3 {} two_bytes_in 7)
        third_byte := by
  refine ⟨rfl, by decide, fun h => ?_⟩
  have hrun : Returns (@run _ _ _ (@call M _ amortized) (opened 3 {} two_bytes_in 7)
      (third_byte.take 2)) fun c => c.settings.in_buffer_capacity = 2 ∧
        Returns (@perform M _ amortized c (.read [.ok [3]])) fun p => stored p.1 = 3 := by
    decide +kernel
  obtain ⟨c, hc, hcap, ⟨c', res⟩, hread, hp⟩ := hrun
  have h' : @Along _ _ _ (@call M _ amortized) (@Bounded M amortized _) (opened 3 {} two_bytes_in 7)
      (third_byte.take 2 ++ [.read [.ok [3]]]) := h
  have hb : @Bounded M amortized _ c (.read [.ok [3]]) := h'.last hc
  have hle := @Bounded.after M amortized _ c _ hb c' res hread
  rw [hcap, hp] at hle
  exact absurd hle (by decide)

theorem input_bound_iff_two_bytes :
    @Along _ _ _ (@call M _ amortized) (@Bounded M amortized _) (opened 3 {} two_bytes_in 7)
        [.read [.ok [1], .ok [2]], .read [.ok []]] ↔
      @Along _ _ _ (@call M _ amortized) Spared (opened 3 {} two_bytes_in 7)
        [.read [.ok [1], .ok [2]], .read [.ok []]] :=
  @input_bound_iff M amortized _ 3 {} two_bytes_in 7 rfl _

end XnetSocket.InputBound
