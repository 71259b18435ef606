import XnetSocket.Lib.Runs
import Mathlib.Data.List.Nodup
import Mathlib.Data.List.Range

/-!
Slabs: a fixed number of slots, each empty or holding a value, addressed by index.

The empty slots form a list. A new value goes into the slot at its head, and a slot that is
emptied is put back at its head, so slots are reused last-emptied first, and slots that were never
used come in order. This is the free list of the slabs that have a fixed number of entries, chained
through the entries themselves, and their `vacant_entry` gives nothing exactly when all are taken.
-/

open Runs

structure Slab (T : Type) where
  entries : List (Option T)
  free : List ℕ
  nodup : free.Nodup
  mem_free : ∀ i, i ∈ free ↔ entries[i]? = some none

namespace Slab

variable {T : Type}

@[ext] lemma ext' {s t : Slab T} (he : s.entries = t.entries) (hf : s.free = t.free) : s = t := by
  cases s; cases t; simp_all

def with_capacity (n : ℕ) : Slab T where
  entries := List.replicate n none
  free := List.range n
  nodup := List.nodup_range
  mem_free i := by simp [List.getElem?_replicate]

def capacity (s : Slab T) : ℕ := s.entries.length

def get (s : Slab T) (i : ℕ) : Option T := (s.entries[i]?).join

/-- The index the next value will get. -/
def vacant_entry (s : Slab T) : Option ℕ := s.free.head?

/-- Fill the slot `vacant_entry` names. -/
def insert (s : Slab T) (x : T) : Slab T :=
  match h : s.free with
  | [] => s
  | i :: rest =>
    { entries := s.entries.set i (some x)
      free := rest
      nodup := (List.nodup_cons.mp (h ▸ s.nodup)).2
      mem_free := fun j => by
        have hi : i ∉ rest := (List.nodup_cons.mp (h ▸ s.nodup)).1
        have hj := s.mem_free j
        rw [h, List.mem_cons] at hj
        rw [List.getElem?_set]
        by_cases hij : i = j
        · subst hij
          simp only [if_true, hi, false_iff]
          split <;> simp
        · rw [if_neg hij, ← hj]
          simp [Ne.symm hij] }

/-- Overwrite the value in an occupied slot. -/
def set (s : Slab T) (i : ℕ) (x : T) : Slab T :=
  match h : s.get i with
  | none => s
  | some _ =>
    { entries := s.entries.set i (some x)
      free := s.free
      nodup := s.nodup
      mem_free := fun j => by
        rw [s.mem_free j, List.getElem?_set]
        by_cases hij : i = j
        · subst hij
          rw [if_pos rfl]
          constructor
          · intro hn
            rw [get, hn] at h
            cases h
          · split <;> simp
        · rw [if_neg hij] }

/-- Empty a slot and give back its value. -/
def remove (s : Slab T) (i : ℕ) : Option (T × Slab T) :=
  match h : s.get i with
  | none => none
  | some x => some (x,
    { entries := s.entries.set i none
      free := i :: s.free
      nodup := by
        refine List.nodup_cons.mpr ⟨fun hi => ?_, s.nodup⟩
        rw [get, (s.mem_free i).mp hi] at h
        cases h
      mem_free := fun j => by
        have hlt : i < s.entries.length := by
          by_contra hn
          rw [get, List.getElem?_eq_none (by omega)] at h
          cases h
        rw [List.mem_cons, s.mem_free j, List.getElem?_set]
        by_cases hij : i = j
        · subst hij; simp [hlt]
        · simp [hij, Ne.symm hij] })

/-- The indices of the occupied slots, in order. -/
def keys (s : Slab T) : List ℕ := (List.range s.entries.length).filter fun i => (s.get i).isSome

def len (s : Slab T) : ℕ := s.keys.length

/-! ### What the operations do to the slots -/

@[simp] lemma get_with_capacity (n i : ℕ) : (with_capacity n : Slab T).get i = none := by
  simp only [get, with_capacity, List.getElem?_replicate]
  split <;> rfl

lemma lt_of_get {s : Slab T} {i : ℕ} {x : T} (h : s.get i = some x) : i < s.entries.length := by
  by_contra hn
  rw [get, List.getElem?_eq_none (by omega)] at h
  cases h

lemma set_entries {s : Slab T} {i : ℕ} {y : T} (h : s.get i = some y) (x : T) :
    (s.set i x).entries = s.entries.set i (some x) := by
  unfold set
  split
  · rename_i h0; rw [h] at h0; cases h0
  · rfl

lemma set_none {s : Slab T} {i : ℕ} (h : s.get i = none) (x : T) : s.set i x = s := by
  unfold set
  split
  · rfl
  · rename_i h0; rw [h] at h0; cases h0

lemma get_set (s : Slab T) (i j : ℕ) (x : T) :
    (s.set i x).get j = if i = j ∧ (s.get i).isSome then some x else s.get j := by
  rcases h : s.get i with _ | y
  · simp [set_none h]
  · have hlt := lt_of_get h
    by_cases hij : i = j
    · subst hij
      simp [get, set_entries h, hlt]
    · simp [get, set_entries h, hij]

lemma get_set_self {s : Slab T} {i : ℕ} {x y : T} (h : s.get i = some y) :
    (s.set i x).get i = some x := by
  rw [get_set]; simp [h]

lemma get_set_ne {s : Slab T} {i j : ℕ} {x : T} (h : i ≠ j) : (s.set i x).get j = s.get j := by
  rw [get_set]; simp [h]

lemma get_set_none {s : Slab T} {i j : ℕ} {x : T} : (s.set i x).get j = none ↔ s.get j = none := by
  rw [get_set]
  split
  · rename_i h
    obtain ⟨rfl, h⟩ := h
    simp [Option.isSome_iff_ne_none.mp h]
  · rfl

@[simp] lemma set_free (s : Slab T) (i : ℕ) (x : T) : (s.set i x).free = s.free := by
  unfold set; split <;> rfl

lemma set_self {s : Slab T} {i : ℕ} {x : T} (h : s.get i = some x) : s.set i x = s := by
  refine ext' ?_ (set_free s i x)
  rw [set_entries h]
  have hlt := lt_of_get h
  rw [get, List.getElem?_eq_getElem hlt] at h
  exact (congrArg (s.entries.set i ·) h.symm).trans (List.set_getElem_self hlt)

/-- The last value put in a slot is the one that counts. -/
lemma set_set (s : Slab T) (i : ℕ) (x y : T) : (s.set i x).set i y = s.set i y := by
  rcases h : s.get i with _ | z
  · rw [set_none h x]
  · refine ext' ?_ (by simp)
    rw [set_entries (get_set_self h), set_entries h, set_entries h, List.set_set]

lemma set_comm (s : Slab T) {i j : ℕ} (hij : i ≠ j) (x y : T) :
    (s.set i x).set j y = (s.set j y).set i x := by
  rcases hi : s.get i with _ | a
  · rw [set_none hi, set_none (get_set_none.mpr hi)]
  · rcases hj : s.get j with _ | b
    · rw [set_none hj, set_none (get_set_none.mpr hj)]
    · refine ext' ?_ (by simp)
      rw [set_entries (by rw [get_set_ne hij, hj]), set_entries hi,
        set_entries (by rw [get_set_ne hij.symm, hi]), set_entries hj, List.set_comm _ _ hij]

lemma get_vacant {s : Slab T} {i : ℕ} (h : s.vacant_entry = some i) : s.get i = none := by
  have : i ∈ s.free := List.mem_of_mem_head? h
  rw [get, (s.mem_free i).mp this]; rfl

/-- An empty slot means there is a next slot. -/
lemma exists_vacant {s : Slab T} {i : ℕ} (hi : i < s.entries.length) (h : s.get i = none) :
    ∃ j, s.vacant_entry = some j := by
  have hmem : i ∈ s.free := by
    rw [s.mem_free, List.getElem?_eq_getElem hi]
    rw [get, List.getElem?_eq_getElem hi] at h
    rw [show s.entries[i] = none from h]
  rcases hf : s.free with _ | ⟨j, rest⟩
  · rw [hf] at hmem
    cases hmem
  · exact ⟨j, by rw [vacant_entry, hf]; rfl⟩

lemma lt_of_vacant {s : Slab T} {i : ℕ} (h : s.vacant_entry = some i) : i < s.entries.length := by
  have : i ∈ s.free := List.mem_of_mem_head? h
  have hi := (s.mem_free i).mp this
  by_contra hn
  rw [List.getElem?_eq_none (by omega)] at hi
  cases hi

lemma insert_eq {s : Slab T} {i : ℕ} (h : s.vacant_entry = some i) (x : T) :
    (s.insert x).entries = s.entries.set i (some x) ∧ (s.insert x).free = s.free.tail := by
  have hne : s.free ≠ [] := by rintro h0; rw [vacant_entry, h0] at h; cases h
  unfold insert
  split
  · rename_i h0; exact absurd h0 hne
  · rename_i k rest h0
    rw [vacant_entry, h0] at h
    cases h
    exact ⟨rfl, (congrArg List.tail h0).symm⟩

lemma get_insert {s : Slab T} {i : ℕ} (h : s.vacant_entry = some i) (x : T) (j : ℕ) :
    (s.insert x).get j = if i = j then some x else s.get j := by
  have hlt := lt_of_vacant h
  simp only [get, (insert_eq h x).1, List.getElem?_set]
  by_cases hij : i = j
  · subst hij; simp [hlt]
  · simp [hij]

lemma remove_isSome {s : Slab T} {i : ℕ} {x : T} (h : s.get i = some x) :
    ∃ s', s.remove i = some (x, s') := by
  unfold remove
  split
  · rename_i h0; rw [h] at h0; cases h0
  · rename_i y h0; rw [h] at h0; cases h0; exact ⟨_, rfl⟩

lemma remove_eq {s s' : Slab T} {i : ℕ} {x : T} (h : s.remove i = some (x, s')) :
    s.get i = some x ∧ s'.entries = s.entries.set i none ∧ s'.free = i :: s.free := by
  unfold remove at h
  split at h
  · cases h
  · rename_i y h0
    cases h
    exact ⟨h0, rfl, rfl⟩

lemma get_remove {s s' : Slab T} {i : ℕ} {x : T} (h : s.remove i = some (x, s')) (j : ℕ) :
    s'.get j = if i = j then none else s.get j := by
  obtain ⟨hx, he, -⟩ := remove_eq h
  have hlt := lt_of_get hx
  simp only [get, he, List.getElem?_set]
  by_cases hij : i = j
  · subst hij; simp [hlt]
  · simp [hij]

lemma mem_keys {s : Slab T} {i : ℕ} : i ∈ s.keys ↔ (s.get i).isSome := by
  unfold keys
  rw [List.mem_filter, List.mem_range]
  constructor
  · exact fun h => h.2
  · intro h
    obtain ⟨x, hx⟩ := Option.isSome_iff_exists.mp h
    exact ⟨lt_of_get hx, h⟩

lemma nodup_keys (s : Slab T) : s.keys.Nodup := List.nodup_range.filter _

/-- As many values are in two slabs as there are slots that hold one. -/
lemma len_congr {s t : Slab T} (h : ∀ i, t.get i = none ↔ s.get i = none) : t.len = s.len := by
  refine ((List.perm_ext_iff_of_nodup t.nodup_keys s.nodup_keys).mpr fun i => ?_).length_eq
  rw [mem_keys, mem_keys, Option.isSome_iff_ne_none, Option.isSome_iff_ne_none, Ne, h i]

/-- A slab with one more slot filled. -/
lemma len_filled {s t : Slab T} {i : ℕ} {x : T} (hi : s.get i = none)
    (h : ∀ j, t.get j = if i = j then some x else s.get j) : t.len = s.len + 1 := by
  have hmem : i ∉ s.keys := by simp [mem_keys, hi]
  refine ((List.perm_ext_iff_of_nodup t.nodup_keys
    (List.nodup_cons.mpr ⟨hmem, s.nodup_keys⟩)).mpr fun j => ?_).length_eq
  rw [mem_keys, h j, List.mem_cons, mem_keys]
  by_cases hij : i = j
  · simp [hij]
  · simp [hij, Ne.symm hij]

/-- A slab with one more slot emptied. -/
lemma len_emptied {s t : Slab T} {i : ℕ} {x : T} (hi : s.get i = some x)
    (h : ∀ j, t.get j = if i = j then none else s.get j) : t.len + 1 = s.len := by
  refine (len_filled (x := x) (by rw [h i, if_pos rfl]) fun j => ?_).symm
  rw [h j]
  by_cases hij : i = j
  · rw [if_pos hij, ← hij, hi]
  · rw [if_neg hij, if_neg hij]

/-! ### The capacity never changes -/

@[simp] lemma with_capacity_capacity (n : ℕ) : (with_capacity n : Slab T).capacity = n := by
  simp [capacity, with_capacity]

lemma get_lt_capacity {s : Slab T} {i : ℕ} {x : T} (h : s.get i = some x) : i < s.capacity :=
  lt_of_get h

lemma vacant_lt_capacity {s : Slab T} {i : ℕ} (h : s.vacant_entry = some i) : i < s.capacity :=
  lt_of_vacant h

@[simp] lemma set_capacity (s : Slab T) (i : ℕ) (x : T) : (s.set i x).capacity = s.capacity := by
  unfold capacity set
  split
  · rfl
  · exact List.length_set

lemma insert_capacity (s : Slab T) (x : T) : (s.insert x).capacity = s.capacity := by
  unfold capacity insert
  split
  · rfl
  · exact List.length_set

lemma remove_capacity {s s' : Slab T} {i : ℕ} {x : T} (h : s.remove i = some (x, s')) :
    s'.capacity = s.capacity := by
  unfold capacity
  rw [(remove_eq h).2.1, List.length_set]

/-! ### Visiting every value in turn -/

variable {ε A : Type}

def visit (f : T → Except ε (T × List A)) (acc : Slab T × List A) (i : ℕ) :
    Except ε (Slab T × List A) :=
  match acc.1.get i with
  | none => .ok acc
  | some x => f x >>= fun r => .ok (acc.1.set i r.1, acc.2 ++ r.2)

/-- Replace every value by what `f` makes of it, in the order of the slots, and collect what
`f` gives out. -/
def iter_mut (f : T → Except ε (T × List A)) (s : Slab T) : Except ε (Slab T × List A) :=
  s.keys.foldlM (visit f) (s, [])

/-- What a visit of the slots in `l` leaves. -/
structure Visited (f : T → Except ε (T × List A)) (l : List ℕ) (s s' : Slab T)
    (bs as : List A) : Prop where
  filled : ∀ i ∈ l, ∀ x, s.get i = some x →
    ∃ x' cs, f x = .ok (x', cs) ∧ s'.get i = some x' ∧ ∀ c ∈ cs, c ∈ as
  other : ∀ i ∉ l, s'.get i = s.get i
  vacant : ∀ i, s'.get i = none ↔ s.get i = none
  out : ∀ a ∈ as, a ∈ bs ∨ ∃ i ∈ l, ∃ x x' cs, s.get i = some x ∧ f x = .ok (x', cs) ∧
    s'.get i = some x' ∧ a ∈ cs
  old : ∀ b ∈ bs, b ∈ as
  free : s'.free = s.free

lemma visited_foldlM {f : T → Except ε (T × List A)} {l : List ℕ} (hl : l.Nodup) {s s' : Slab T}
    {bs as : List A} (h : l.foldlM (visit f) (s, bs) = .ok (s', as)) :
    Visited f l s s' bs as := by
  induction l generalizing s bs with
  | nil =>
    cases h
    exact ⟨by simp, fun _ _ => rfl, fun _ => Iff.rfl, fun a ha => Or.inl ha, fun b hb => hb, rfl⟩
  | cons k l ih =>
    obtain ⟨hk, hl⟩ := List.nodup_cons.mp hl
    rw [List.foldlM_cons, bind_eq_ok] at h
    obtain ⟨⟨t, cs⟩, hv, h⟩ := h
    have hr := ih hl h
    unfold visit at hv
    rcases hg : s.get k with _ | x
    · -- an empty slot is passed over
      simp only [hg] at hv
      cases hv
      refine ⟨fun i hi x hx => ?_, fun i hi => hr.other i (by simp_all), hr.vacant,
        fun a ha => ?_, hr.old, hr.free⟩
      rcases List.mem_cons.mp hi with rfl | hi
      · rw [hg] at hx; cases hx
      · exact hr.filled i hi x hx
      rcases hr.out a ha with hb | ⟨i, hi, hrest⟩
      · exact Or.inl hb
      · exact Or.inr ⟨i, by simp [hi], hrest⟩
    · simp only [hg, bind_eq_ok] at hv
      obtain ⟨⟨x', ds⟩, hf, hv⟩ := hv
      cases hv
      have hk' : s'.get k = some x' := by rw [hr.other k hk, get_set_self hg]
      refine ⟨fun i hi y hy => ?_, fun i hi => ?_, fun i => ?_, fun a ha => ?_, fun b hb => ?_, ?_⟩
      · rcases List.mem_cons.mp hi with rfl | hi'
        · rw [hg] at hy; cases hy
          exact ⟨x', ds, hf, hk', fun c hc => hr.old c (by simp [hc])⟩
        · have hik : k ≠ i := fun e => hk (e ▸ hi')
          exact hr.filled i hi' y (by rw [get_set_ne hik]; exact hy)
      · simp only [List.mem_cons, not_or] at hi
        rw [hr.other i hi.2, get_set_ne (Ne.symm hi.1)]
      · rw [hr.vacant i, get_set_none]
      · rcases hr.out a ha with hb | ⟨i, hi, y, y', es, hy, hrest⟩
        · rcases List.mem_append.mp hb with hb | hb
          · exact Or.inl hb
          · exact Or.inr ⟨k, by simp, x, x', ds, hg, hf, hk', hb⟩
        · have hik : k ≠ i := fun e => hk (e ▸ hi)
          rw [get_set_ne hik] at hy
          exact Or.inr ⟨i, by simp [hi], y, y', es, hy, hrest⟩
      · exact hr.old b (by simp [hb])
      · rw [hr.free, set_free]

/-- **Visiting all values.** Every value is replaced by what `f` makes of it, the empty slots
stay empty, and what is collected is what the visits gave out. -/
theorem iter_mut_visited {f : T → Except ε (T × List A)} {s s' : Slab T} {as : List A}
    (h : s.iter_mut f = .ok (s', as)) : Visited f s.keys s s' [] as :=
  visited_foldlM s.nodup_keys h

/-- A visit of values `f` is defined on goes through. -/
lemma visit_returns {f : T → Except ε (T × List A)} {l : List ℕ} (hl : l.Nodup) {s : Slab T}
    (hf : ∀ i ∈ l, ∀ x, s.get i = some x → ∃ r, f x = .ok r) (as : List A) :
    ∃ r, l.foldlM (visit f) (s, as) = .ok r := by
  induction l generalizing s as with
  | nil => exact ⟨(s, as), rfl⟩
  | cons k l ih =>
    obtain ⟨hk, hl⟩ := List.nodup_cons.mp hl
    rw [List.foldlM_cons]
    unfold visit
    rcases hg : s.get k with _ | x
    · exact ih hl (fun i hi => hf i (List.mem_cons_of_mem _ hi)) as
    · obtain ⟨⟨x', cs⟩, hx⟩ := hf k (by simp) x hg
      dsimp only
      rw [hx, ok_bind, ok_bind]
      refine ih hl (fun i hi y hy => hf i (List.mem_cons_of_mem _ hi) y ?_) _
      rwa [get_set_ne (Ne.symm (ne_of_mem_of_not_mem hi hk))] at hy

lemma iter_mut_capacity {f : T → Except ε (T × List A)} {s s' : Slab T} {as : List A}
    (h : s.iter_mut f = .ok (s', as)) : s'.capacity = s.capacity := by
  refine Holds.foldlM (I := fun acc : Slab T × List A => acc.1.capacity = s.capacity) rfl ?_ _ h
  intro i _ acc hacc
  unfold visit
  split
  · exact holds_ok.mpr hacc
  · rintro acc' hf
    obtain ⟨r, -, hf⟩ := bind_eq_ok.mp hf
    cases hf
    rw [set_capacity, hacc]

/-- What relates every value to what `f` makes of it relates the slots. -/
lemma iter_mut_rel {R : T → T → Prop} {f : T → Except ε (T × List A)} {s s' : Slab T}
    {as : List A} (hf : ∀ x x' cs, f x = .ok (x', cs) → R x x')
    (h : s.iter_mut f = .ok (s', as)) {i : ℕ} {x' : T} (hx' : s'.get i = some x') :
    ∃ x, s.get i = some x ∧ R x x' := by
  have hv := iter_mut_visited h
  have hne : s.get i ≠ none := fun h0 => by
    rw [(hv.vacant i).mpr h0] at hx'
    cases hx'
  obtain ⟨x, hx⟩ := Option.ne_none_iff_exists'.mp hne
  obtain ⟨y, cs, hy, hget, -⟩ := hv.filled i (mem_keys.mpr (by simp [hx])) x hx
  rw [hx'] at hget
  cases hget
  exact ⟨x, hx, hf x x' cs hy⟩

lemma iter_mut_out {f : T → Except ε (T × List A)} {s s' : Slab T} {as : List A}
    (h : s.iter_mut f = .ok (s', as)) {a : A} (ha : a ∈ as) :
    ∃ i x x' cs, s.get i = some x ∧ f x = .ok (x', cs) ∧ s'.get i = some x' ∧ a ∈ cs := by
  rcases (iter_mut_visited h).out a ha with h0 | ⟨i, -, hrest⟩
  · cases h0
  · exact ⟨i, hrest⟩

end Slab
