import XnetSocket.Lib.Pipe
import XnetSocket.Chunking
import XnetSocket.EndOfStream

/-!
The input side of a connection is a pipe as well.

What the socket has handed over goes into the pipe; what `read_data` takes out of the input
buffer has come out of it, whether or not it was a text, and the unread part of the buffer is
still inside. A read lets everything out, unless its socket reads all filled the room they were
offered: then nothing is taken out until more bytes arrive.
-/

namespace XnetSocket.Intake

open Buffer Runs Connection Inbound Lifecycle Chunking EndOfStream

variable {H : Type}

section Reads

variable [Handler H] [Growth]

/-- What `read_data` takes out of the input buffer during a call. -/
def takes (c : Connection H) : Call → Bytes
  | .read reads =>
    if c.state.is_connecting then []
    else
      match (c.with_reads reads).buffer_in with
      | .ok (d, .ok (some _)) => d.in_buffer.read_to_end.2
      | _ => []
  | _ => []

/-- The input side of a connection from which `taken` has been taken out. -/
def inbound (c : Connection H) (taken : Bytes) : Pipe UInt8 := ⟨taken, c.in_buffer.bytes⟩

omit [Growth] in
lemma read_data_unread (c : Connection H) : c.read_data.1.in_buffer.bytes = [] := by
  unfold read_data
  dsimp only
  split <;> exact Cursor.read_to_end_bytes _

/-- One of the reads came short of the room it was offered. -/
def Short (new : List (ℕ × Bytes)) : Prop := ∃ e ∈ new, e.2.length < e.1

omit [Handler H] [Growth] in
lemma AllFull.not_short {new : List (ℕ × Bytes)} (h : AllFull new) : ¬ Short new := by
  rintro ⟨e, he, hlt⟩
  exact absurd (h e he) (Nat.ne_of_lt hlt)

omit [Handler H] [Growth] in
/-- Filling the buffer reports a length after a short read only. -/
lemma short_of_ends {c c' : Connection H} {new : List (ℕ × Bytes)} {len : ℕ}
    (h : Ends c new c' (.ok (some len))) : Short new := by
  obtain ⟨-, front, r, got, rfl, -, hlt⟩ := h
  exact ⟨(r, got), by simp, hlt⟩

omit [Growth] in
/-- When a length is reported everything is taken out, and otherwise nothing happens. -/
lemma finish_unread {d c' : Connection H} {r : Result (Option ℕ)} {res : Result Unit}
    (h : Finish d r c' res) :
    match r with
    | .ok (some _) => c'.in_buffer.bytes = []
    | _ => c' = d := by
  have hdata : ∀ {e x}, d.read_data = (e, x) → e.in_buffer.bytes = [] := fun hx => by
    have h0 := read_data_unread d
    rwa [hx] at h0
  cases h with
  | failed err => rfl
  | blocked => rfl
  | refused hx => exact hdata hx
  | handed hx => exact hdata hx
  | half_closed hx =>
    have := hdata hx
    exact this
  | closed hx =>
    have := hdata hx
    dsimp only
    rwa [(disconnect_calm _).in_buffer]

/-- What a read moves: what the socket hands over, in the reads `new`, goes in, and what
`read_data` takes out comes out. -/
structure Moved (c : Connection H) (reads : List (Except IoError Bytes))
    (new : List (ℕ × Bytes)) (c' : Connection H) (res : Result Unit) : Prop where
  eq : c.perform (.read reads) = .ok (c', res)
  log : c'.socket.log = c.socket.log ++ new
  inBounds : c'.in_buffer.InBounds
  moves : ∀ taken, (inbound c taken).Moves (bytesOf new)
    (inbound c' (taken ++ takes c (.read reads)))
  empty : res = .ok () → Short new → c'.in_buffer.bytes = []
  full : res = .ok () → ¬ Short new → c'.in_buffer.bytes = c.in_buffer.bytes ++ bytesOf new

/-- **What a read moves.** It never panics; nothing is lost or doubled; and everything comes out,
unless all of its socket reads filled the room they were offered. -/
theorem read_moved {c : Connection H} (hc : Opened c) (hin : c.in_buffer.InBounds)
    (reads : List (Except IoError Bytes)) : ∃ new c' res, Moved c reads new c' res := by
  obtain ⟨d, r, new, hd, hfill⟩ := buffer_in_spec (c := c.with_reads reads) hin
  obtain ⟨c', res, hread, hf⟩ :=
    read_finish (c := c.with_reads reads) hc.not_connecting hd
  obtain ⟨hin', hlog⟩ := Finish.input hf hfill.inBounds
  have hbytes : d.in_buffer.bytes = c.in_buffer.bytes ++ bytesOf new := hfill.bytes
  have hconn : c.state.is_connecting = false := hc.not_connecting
  have hunread := finish_unread hf
  refine ⟨new, c', res, hread, hlog.trans hfill.log, hin', fun taken => ?_, ?_, ?_⟩
  · rcases r with err | _ | len
    · obtain rfl : c' = d := hunread
      exact ⟨0, by simp [inbound, Pipe.push, takes, hconn, hd, hbytes]⟩
    · obtain rfl : c' = d := hunread
      exact ⟨0, by simp [inbound, Pipe.push, takes, hconn, hd, hbytes]⟩
    · -- everything is taken out
      have ht : takes c (.read reads) = d.in_buffer.bytes := by
        simp only [takes, hconn, hd]
        rfl
      refine ⟨d.in_buffer.bytes.length, ?_⟩
      simp [inbound, Pipe.push, Pipe.pull, ht, hunread, hbytes]
  · intro hres hshort
    rcases r with err | _ | len
    · subst hres
      cases hf
    · exact absurd hshort (AllFull.not_short hfill.ends)
    · exact hunread
  · intro hres hfull
    rcases r with err | _ | len
    · subst hres
      cases hf
    · obtain rfl : c' = d := hunread
      exact hbytes
    · exact absurd (short_of_ends hfill.ends) hfull

/-! ### Runs -/

/-- A connection, and what has been taken out of its input buffer, in order. -/
structure Drawn (H : Type) where
  conn : Connection H
  taken : Bytes

/-- One call, with the account of what it takes out. -/
def draw (s : Drawn H) (call : Call) : Except Panic (Drawn H) := do
  let (c, _) ← s.conn.perform call
  .ok ⟨c, s.taken ++ takes s.conn call⟩

/-- What was received is what was taken out and what is unread. -/
structure Intact (s : Drawn H) : Prop where
  opened : Opened s.conn
  inBounds : s.conn.in_buffer.InBounds
  all : (inbound s.conn s.taken).all = s.conn.socket.received

lemma draw_intact {s s' : Drawn H} {call : Call} (hs : Intact s) (h : draw s call = .ok s') :
    Intact s' := by
  obtain ⟨⟨c, res⟩, hp, h⟩ := bind_eq_ok.mp h
  cases h
  have hcall : s.conn.call call = .ok c := by simp only [Connection.call, hp, ok_bind]
  have hopened : Opened c := call_opened hs.opened hcall
  by_cases hread : ∃ reads, call = .read reads
  · obtain ⟨reads, rfl⟩ := hread
    obtain ⟨new, c', res', hm⟩ := read_moved hs.opened hs.inBounds reads
    rw [hm.eq] at hp
    cases hp
    refine ⟨hopened, hm.inBounds, ?_⟩
    rw [(hm.moves s.taken).all, hs.all, received_eq, received_eq, hm.log, bytesOf_append]
  · obtain ⟨hb, hl⟩ := perform_input (fun reads hr => hread ⟨reads, hr⟩) hp
    have htakes : takes s.conn call = [] := by
      cases call with
      | read reads => exact absurd ⟨reads, rfl⟩ hread
      | _ => rfl
    refine ⟨hopened, hb ▸ hs.inBounds, ?_⟩
    rw [htakes, List.append_nil, received_eq, hl, ← received_eq, ← hs.all]
    exact congrArg Pipe.all (congrArg (Pipe.mk s.taken) (congrArg Cursor.bytes hb))

/-- **The inbound byte stream.** After any calls on an opened connection, what it has received is
what has been taken out of the input buffer followed by what is unread; the position lies within
the buffer, so that a read never panics; and when the buffer may grow it is filled without
failing, unless the socket fails. -/
theorem inbound_stream (tok : Token) (handler : H) (settings : Settings) (id : UInt32)
    (calls : List Call) {s : Drawn H}
    (h : run draw ⟨opened tok handler settings id, []⟩ calls = .ok s) :
    s.conn.socket.received = s.taken ++ s.conn.in_buffer.bytes ∧
      s.conn.in_buffer.position ≤ s.conn.in_buffer.get_ref.len ∧
      ∀ reads, (∃ c' res, s.conn.perform (.read reads) = .ok (c', res)) ∧
        ∃ c' res, (s.conn.with_reads reads).buffer_in = .ok (c', res) ∧
          (s.conn.settings.in_buffer_grow = true → ∀ err, res = .error err →
            ∃ e, err = .from_io e ∧ .error e ∈ reads ∧ e.kind ≠ .WouldBlock) := by
  have hopen : Intact ⟨opened tok handler settings id, []⟩ :=
    ⟨open_opened _, Nat.zero_le _, rfl⟩
  have hs : Intact s := run_inv_true (fun _ _ _ hs => draw_intact hs) hopen h
  refine ⟨hs.all.symm, hs.inBounds, fun reads => ⟨?_, ?_⟩⟩
  · obtain ⟨new, c', res, hm⟩ := read_moved hs.opened hs.inBounds reads
    exact ⟨c', res, hm.eq⟩
  · obtain ⟨c', res, new, hb, hfill⟩ :=
      buffer_in_spec (c := s.conn.with_reads reads) hs.inBounds
    refine ⟨c', res, hb, fun hgrow err herr => ?_⟩
    subst herr
    rcases hfill.ends.2 with hsock | ⟨-, hg⟩
    · exact hsock
    · rw [show s.conn.settings.in_buffer_grow = false from hg] at hgrow
      cases hgrow

/-- **When a read leaves nothing unread.** After any calls on an opened connection, a read that
returns `Ok` leaves nothing unread exactly when one of its socket reads came short of the room it
was offered, or when it received nothing and nothing was unread before. -/
theorem nothing_withheld_iff (tok : Token) (handler : H) (settings : Settings) (id : UInt32)
    (calls : List Call) {c : Connection H}
    (h : run Connection.call (opened tok handler settings id) calls = .ok c)
    (reads : List (Except IoError Bytes)) {c' : Connection H}
    (hread : c.perform (.read reads) = .ok (c', .ok ())) :
    ∃ new, c'.socket.log = c.socket.log ++ new ∧
      (c'.in_buffer.position = c'.in_buffer.get_ref.len ↔
        Short new ∨ bytesOf new = [] ∧ c.in_buffer.bytes = []) := by
  have hc : Opened c ∧ c.in_buffer.InBounds := by
    refine run_inv_true (I := fun c => Opened c ∧ c.in_buffer.InBounds)
      (fun c call c' hc hcall => ⟨call_opened hc.1 hcall, ?_⟩) ⟨open_opened _, Nat.zero_le _⟩ h
    obtain ⟨⟨d, res⟩, hp, hcall⟩ := bind_eq_ok.mp hcall
    cases hcall
    by_cases hr : ∃ reads, call = .read reads
    · obtain ⟨reads, rfl⟩ := hr
      obtain ⟨new, d, res', hm⟩ := read_moved hc.1 hc.2 reads
      rw [hm.eq] at hp
      cases hp
      exact hm.inBounds
    · rw [(perform_input (fun reads he => hr ⟨reads, he⟩) hp).1]
      exact hc.2
  obtain ⟨new, d, res, hm⟩ := read_moved hc.1 hc.2 reads
  rw [hm.eq] at hread
  cases hread
  refine ⟨new, hm.log, ?_⟩
  rw [← Cursor.bytes_eq_nil_iff hm.inBounds]
  by_cases hshort : Short new
  · exact iff_of_true (hm.empty rfl hshort) (Or.inl hshort)
  · rw [hm.full rfl hshort, List.append_eq_nil_iff]
    constructor
    · exact fun h0 => Or.inr ⟨h0.2, h0.1⟩
    · rintro (h0 | h0)
      · exact absurd h0 hshort
      · exact ⟨h0.2, h0.1⟩

end Reads

/-- A byte and the end of the stream. -/
def byte_and_end : List Call := [.read [.ok [65]], .read [.ok []]]

theorem inbound_stream_byte_and_end :
    ∃ s : Drawn M, @run _ _ _ (@draw M _ amortized) ⟨opened 3 {} {} 7, []⟩ byte_and_end = .ok s ∧
      s.conn.socket.received = s.taken ++ s.conn.in_buffer.bytes := by
  have hok : (@run _ _ _ (@draw M _ amortized) ⟨opened 3 {} {} 7, []⟩ byte_and_end).isOk = true :=
    by decide +kernel
  obtain ⟨s, hs⟩ := exists_of_isOk hok
  exact ⟨s, hs, (@inbound_stream M _ amortized _ _ _ _ _ s hs).1⟩

/-- As many bytes as the input buffer of the default settings has room for. -/
def exact_fill : List (Except IoError Bytes) :=
  [.ok (List.replicate 2048 65), .error would_block]

/-- A read that fills the buffer exactly and finds nothing more returns `Ok` and hands over
nothing. -/
theorem exact_fill_withheld :
    ∃ c' : Connection M, @perform M _ amortized (opened 3 {} {} 7) (.read exact_fill) =
        .ok (c', .ok ()) ∧
      c'.in_buffer.position ≠ c'.in_buffer.get_ref.len := by
  have hrun : Returns (@perform M _ amortized (opened 3 {} {} 7) (.read exact_fill)) fun p =>
      p.2.isOk = true ∧ p.1.in_buffer.position ≠ p.1.in_buffer.get_ref.len := by decide +kernel
  obtain ⟨⟨c', res⟩, hread, hok, hne⟩ := hrun
  obtain ⟨u, hres⟩ := exists_of_isOk hok
  dsimp only at hres
  subst hres
  exact ⟨c', hread, hne⟩

theorem nothing_withheld_iff_byte :
    ∃ c' : Connection M, @perform M _ amortized (opened 3 {} {} 7) (.read [.ok [65]]) =
        .ok (c', .ok ()) ∧
      ∃ new, c'.socket.log = new ∧ (c'.in_buffer.position = c'.in_buffer.get_ref.len ↔
        Short new ∨ bytesOf new = [] ∧ (opened 3 {} {} 7 : Connection M).in_buffer.bytes = []) := by
  have hrun : Returns (@perform M _ amortized (opened 3 {} {} 7) (.read [.ok [65]])) fun p =>
      p.2.isOk = true := by decide +kernel
  obtain ⟨⟨c', res⟩, hread, hok⟩ := hrun
  obtain ⟨u, hres⟩ := exists_of_isOk hok
  dsimp only at hres
  subst hres
  exact ⟨c', hread,
    @nothing_withheld_iff M _ amortized 3 {} {} 7 [] _ rfl [.ok [65]] c' hread⟩

end XnetSocket.Intake
