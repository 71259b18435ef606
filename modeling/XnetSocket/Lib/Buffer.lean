import Mathlib.Data.List.Basic
import Mathlib.Data.List.TakeDrop
import Mathlib.Order.Lattice
import Mathlib.Tactic.Common

/-!
Growable buffers with a capacity, and cursors over them.

A vector never holds more than its capacity, which is a field of the structure. How much an
allocator adds when the capacity runs out is not documented, only that the request then fits,
so it is a parameter. A cursor is a vector with a position; the elements from the position on
are the ones still to be read.
-/

namespace Buffer

/-- The growth policy of an allocator: the new capacity for an old one and a length that must
fit. -/
class Growth where
  grow : ℕ → ℕ → ℕ
  le_grow : ∀ cap need, need ≤ grow cap need

/-- Doubling, or exactly what is needed when that is more. -/
@[reducible] def amortized : Growth where
  grow cap need := max (2 * cap) need
  le_grow _ _ := le_max_right _ _

structure Vec (α : Type) where
  data : List α
  capacity : ℕ
  length_le : data.length ≤ capacity

variable {α : Type}

namespace Vec

@[ext] lemma ext' {v w : Vec α} (hd : v.data = w.data) (hc : v.capacity = w.capacity) : v = w := by
  cases v; cases w; simp_all

def with_capacity (n : ℕ) : Vec α := ⟨[], n, by simp⟩

def len (v : Vec α) : ℕ := v.data.length

/-- Room for `additional` more elements. -/
def reserve [Growth] (v : Vec α) (additional : ℕ) : Vec α :=
  if v.data.length + additional ≤ v.capacity then v
  else ⟨v.data, Growth.grow v.capacity (v.data.length + additional),
    le_trans (Nat.le_add_right _ _) (Growth.le_grow _ _)⟩

lemma reserve_data [Growth] (v : Vec α) (n : ℕ) : (v.reserve n).data = v.data := by
  unfold reserve; split <;> rfl

lemma le_reserve [Growth] (v : Vec α) (n : ℕ) : v.data.length + n ≤ (v.reserve n).capacity := by
  unfold reserve
  split
  · assumption
  · exact Growth.le_grow _ _

/-- Append, making room first. -/
def extend [Growth] (v : Vec α) (xs : List α) : Vec α :=
  ⟨v.data ++ xs, (v.reserve xs.length).capacity, by
    have := le_reserve v xs.length; simpa using this⟩

@[simp] lemma extend_data [Growth] (v : Vec α) (xs : List α) :
    (v.extend xs).data = v.data ++ xs := rfl

/-- Appending what already fits leaves the capacity. -/
lemma extend_capacity [Growth] {v : Vec α} {xs : List α}
    (h : v.data.length + xs.length ≤ v.capacity) : (v.extend xs).capacity = v.capacity := by
  simp [extend, reserve, h]

def clear (v : Vec α) : Vec α := ⟨[], v.capacity, by simp⟩

/-- Pad with the default element up to length `n`. -/
def pad [Growth] [Inhabited α] (v : Vec α) (n : ℕ) : Vec α :=
  v.extend (List.replicate (n - v.data.length) default)

/-- The spare room of the vector, never empty: a full vector first makes room for 64 more. -/
def bytes_mut [Growth] (v : Vec α) : Vec α := if v.capacity = v.len then v.reserve 64 else v

lemma bytes_mut_data [Growth] (v : Vec α) : v.bytes_mut.data = v.data := by
  unfold bytes_mut; split
  · exact reserve_data v 64
  · rfl

lemma bytes_mut_room [Growth] (v : Vec α) : v.bytes_mut.data.length < v.bytes_mut.capacity := by
  rw [bytes_mut_data]
  unfold bytes_mut
  split
  · have := le_reserve v 64; omega
  · rename_i h; have := v.length_le; simp only [len] at h; omega

/-- Take `xs` into the spare room, as far as it goes. -/
def advance_mut (v : Vec α) (xs : List α) : Vec α :=
  ⟨v.data ++ xs.take (v.capacity - v.data.length), v.capacity, by
    have := v.length_le; simp; omega⟩

lemma advance_mut_data {v : Vec α} {xs : List α} (h : xs.length ≤ v.capacity - v.data.length) :
    (v.advance_mut xs).data = v.data ++ xs := by
  simp [advance_mut, List.take_of_length_le h]

end Vec

/-! ### Cursors -/

structure Cursor (α : Type) where
  inner : Vec α
  pos : ℕ

namespace Cursor

def new (v : Vec α) : Cursor α := ⟨v, 0⟩

def position (c : Cursor α) : ℕ := c.pos

def get_ref (c : Cursor α) : Vec α := c.inner

def set_position (c : Cursor α) (pos : ℕ) : Cursor α := { c with pos := pos }

def seek_end (c : Cursor α) : Cursor α := { c with pos := c.inner.data.length }

def seek_start (c : Cursor α) (pos : ℕ) : Cursor α := { c with pos := pos }

/-- The elements from the position on. -/
def bytes (c : Cursor α) : List α := c.inner.data.drop c.pos

def advance (c : Cursor α) (cnt : ℕ) : Cursor α := { c with pos := c.pos + cnt }

/-- Overwrite from the position on, past the end if need be, and move behind what was
written. -/
def write [Growth] [Inhabited α] (c : Cursor α) (xs : List α) : Cursor α :=
  let v := if c.inner.data.length < c.pos then c.inner.pad c.pos else c.inner
  let inside := xs.take (v.data.length - c.pos)
  let v : Vec α := ⟨v.data.take c.pos ++ inside ++ v.data.drop (c.pos + inside.length),
    v.capacity, by
    have := v.length_le
    have : inside.length ≤ v.data.length - c.pos := by
      simp only [inside, List.length_take]; omega
    simp; omega⟩
  ⟨v.extend (xs.drop inside.length), c.pos + xs.length⟩

/-- Everything from the position on; the position moves to the end. -/
def read_to_end (c : Cursor α) : Cursor α × List α :=
  ({ c with pos := max c.pos c.inner.data.length }, c.bytes)

/-- The position lies within the vector. -/
def InBounds (c : Cursor α) : Prop := c.pos ≤ c.inner.data.length

lemma new_inBounds (v : Vec α) : (new v).InBounds := Nat.zero_le _

@[simp] lemma new_bytes (v : Vec α) : (new v).bytes = v.data := rfl

lemma bytes_length (c : Cursor α) : c.bytes.length = c.inner.data.length - c.pos := by
  simp [bytes]

lemma bytes_eq_nil_iff {c : Cursor α} (hc : c.InBounds) :
    c.bytes = [] ↔ c.position = c.get_ref.len := by
  unfold InBounds at hc
  rw [← List.length_eq_zero_iff, bytes_length]
  unfold position get_ref Vec.len
  omega

lemma advance_bytes (c : Cursor α) (n : ℕ) : (c.advance n).bytes = c.bytes.drop n := by
  simp [advance, bytes, List.drop_drop]

lemma advance_inBounds {c : Cursor α} {n : ℕ} (hc : c.InBounds) (h : n ≤ c.bytes.length) :
    (c.advance n).InBounds := by
  rw [bytes_length] at h
  unfold InBounds at hc ⊢
  simp only [advance]
  omega

/-- Writing at the end appends. -/
lemma write_seek_end [Growth] [Inhabited α] (c : Cursor α) (xs : List α) :
    (c.seek_end.write xs).inner = c.inner.extend xs := by
  apply Vec.ext' <;> simp [write, seek_end, Vec.extend]

/-- **Appending behind the reader.** Writing at the end and coming back to the old position
adds the elements to the ones still to be read, and changes nothing else. -/
theorem append_bytes [Growth] [Inhabited α] {c : Cursor α} (hc : c.InBounds) (xs : List α) :
    ((c.seek_end.write xs).seek_start c.pos).bytes = c.bytes ++ xs := by
  have h : ((c.seek_end.write xs).seek_start c.pos).inner = c.inner.extend xs :=
    write_seek_end c xs
  unfold bytes
  rw [h, Vec.extend_data, List.drop_append_of_le_length]
  · rfl
  · exact hc

lemma append_inBounds [Growth] [Inhabited α] {c : Cursor α} (hc : c.InBounds) (xs : List α) :
    ((c.seek_end.write xs).seek_start c.pos).InBounds := by
  have h : ((c.seek_end.write xs).seek_start c.pos).inner = c.inner.extend xs :=
    write_seek_end c xs
  unfold InBounds at hc ⊢
  rw [h, Vec.extend_data, List.length_append]
  exact le_trans hc (Nat.le_add_right _ _)

lemma read_to_end_inBounds {c : Cursor α} (hc : c.InBounds) : c.read_to_end.1.InBounds := by
  unfold InBounds at hc ⊢
  simp only [read_to_end]; omega

lemma read_to_end_bytes (c : Cursor α) : c.read_to_end.1.bytes = [] := by
  simp [read_to_end, bytes]

end Cursor

end Buffer
