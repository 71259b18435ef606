import Mathlib.Logic.Basic
import Mathlib.Data.List.Basic
import Mathlib.Tactic.Common

/-!
Computations that may stop with an error, and runs of a step function made of them.

A computation of type `Except ε α` either stops or returns a value. `Holds x Q` is its
partial-correctness specification: whatever `x` returns satisfies `Q`. The rules below follow
the shape of the computation, and a run of a step function inherits what one step preserves.
-/

namespace Runs

universe u v w

variable {ε : Type u} {α β : Type v} {σ : Type v} {ι : Type w}

@[simp] lemma bind_eq_ok {x : Except ε α} {f : α → Except ε β} {b : β} :
    (x >>= f) = .ok b ↔ ∃ a, x = .ok a ∧ f a = .ok b := by
  cases x <;> simp [bind, Except.bind]

@[simp] lemma pure_eq_ok {a b : α} : (pure a : Except ε α) = .ok b ↔ a = b := by
  simp [pure, Except.pure]

@[simp] lemma ok_bind {a : α} {f : α → Except ε β} : (Except.ok a >>= f) = f a := rfl

lemma exists_of_isOk {x : Except ε α} (h : x.isOk = true) : ∃ a, x = .ok a := by
  cases x with
  | error e => cases h
  | ok a => exact ⟨a, rfl⟩

/-- Whatever the computation returns satisfies `Q`. -/
def Holds (x : Except ε α) (Q : α → Prop) : Prop := ∀ a, x = .ok a → Q a

lemma holds_ok {Q : α → Prop} {a : α} : Holds (.ok a : Except ε α) Q ↔ Q a :=
  ⟨fun h => h a rfl, fun h b hb => by cases hb; exact h⟩

lemma holds_error {Q : α → Prop} (e : ε) : Holds (.error e : Except ε α) Q :=
  fun _ hb => by cases hb

lemma Holds.bind {x : Except ε α} {f : α → Except ε β} {Q : α → Prop} {R : β → Prop}
    (hx : Holds x Q) (hf : ∀ a, Q a → Holds (f a) R) : Holds (x >>= f) R := by
  intro b hb
  obtain ⟨a, ha, hb⟩ := bind_eq_ok.mp hb
  exact hf a (hx a ha) b hb

lemma Holds.mono {x : Except ε α} {Q R : α → Prop} (h : Holds x Q) (hQR : ∀ a, Q a → R a) :
    Holds x R :=
  fun a ha => hQR a (h a ha)

instance {Q : α → Prop} [DecidablePred Q] (x : Except ε α) : Decidable (Holds x Q) :=
  match x with
  | .error e => isTrue (holds_error e)
  | .ok _ => decidable_of_iff _ holds_ok.symm

/-- The computation returns, and what it returns satisfies `Q`. -/
def Returns (x : Except ε α) (Q : α → Prop) : Prop := ∃ a, x = .ok a ∧ Q a

lemma returns_ok {Q : α → Prop} {a : α} : Returns (.ok a : Except ε α) Q ↔ Q a :=
  ⟨fun ⟨b, hb, hq⟩ => by cases hb; exact hq, fun h => ⟨a, rfl, h⟩⟩

lemma not_returns_error {Q : α → Prop} (e : ε) : ¬ Returns (.error e : Except ε α) Q :=
  fun ⟨_, hb, _⟩ => by cases hb

instance {Q : α → Prop} [DecidablePred Q] (x : Except ε α) : Decidable (Returns x Q) :=
  match x with
  | .error e => isFalse (not_returns_error e)
  | .ok _ => decidable_of_iff _ returns_ok.symm

/-- What the computation returns satisfies `Q`, and what stops it satisfies `E`. -/
def Meets (x : Except ε α) (E : ε → Prop) (Q : α → Prop) : Prop :=
  match x with
  | .error e => E e
  | .ok a => Q a

instance {E : ε → Prop} {Q : α → Prop} [DecidablePred E] [DecidablePred Q] (x : Except ε α) :
    Decidable (Meets x E Q) :=
  match x with
  | .error e => inferInstanceAs (Decidable (E e))
  | .ok a => inferInstanceAs (Decidable (Q a))

lemma Meets.stop {E : ε → Prop} {Q : α → Prop} {e : ε} (h : E e) :
    Meets (.error e : Except ε α) E Q := h

lemma Meets.holds {x : Except ε α} {E : ε → Prop} {Q : α → Prop} (h : Meets x E Q) :
    Holds x Q := by
  rintro a rfl
  exact h

lemma Meets.of_error {x : Except ε α} {E : ε → Prop} {Q : α → Prop} (h : Meets x E Q) {e : ε}
    (he : x = .error e) : E e := by
  subst he
  exact h

lemma Meets.error_eq {x : Except ε α} {e : ε} (h : Meets x (· = e) fun _ => False) :
    x = .error e := by
  cases x with
  | error e' => exact congrArg _ h
  | ok a => exact h.elim

lemma Meets.bind {x : Except ε α} {f : α → Except ε β} {E : ε → Prop} {Q : α → Prop}
    {R : β → Prop} (hx : Meets x E Q) (hf : ∀ a, x = .ok a → Q a → Meets (f a) E R) :
    Meets (x >>= f) E R := by
  cases x with
  | error e => exact hx
  | ok a => exact hf a rfl hx

lemma Meets.mono {x : Except ε α} {E : ε → Prop} {Q R : α → Prop} (h : Meets x E Q)
    (hQR : ∀ a, Q a → R a) : Meets x E R := by
  cases x with
  | error e => exact h
  | ok a => exact hQR a h

lemma Meets.of_stops {x : Except ε α} {E E' : ε → Prop} {Q : α → Prop} (h : Meets x E Q)
    (hE : ∀ e, E e → E' e) : Meets x E' Q := by
  cases x with
  | error e => exact hE e h
  | ok a => exact h

/-- The postcondition may speak of what the computation returned. -/
lemma Meets.of_ok {x : Except ε α} {E : ε → Prop} {Q R : α → Prop} (h : Meets x E Q)
    (hR : ∀ a, x = .ok a → R a) : Meets x E R := by
  cases x with
  | error e => exact h
  | ok a => exact hR a rfl

lemma Meets.foldlM {f : β → ι → Except ε β} {E : ε → Prop} {I : β → Prop} {l : List ι} {b : β}
    (hb : I b) (hf : ∀ a ∈ l, ∀ b, I b → Meets (f b a) E I) : Meets (l.foldlM f b) E I := by
  induction l generalizing b with
  | nil => exact hb
  | cons a l ih =>
    rw [List.foldlM_cons]
    exact (hf a (by simp) b hb).bind fun b' _ hb' =>
      ih hb' fun a' ha' => hf a' (List.mem_cons_of_mem _ ha')

/-- A loop over a list keeps what its body keeps. -/
lemma Holds.foldlM {f : β → ι → Except ε β} {I : β → Prop} {l : List ι} {b : β} (hb : I b)
    (hf : ∀ a ∈ l, ∀ b, I b → Holds (f b a) I) : Holds (l.foldlM f b) I := by
  induction l generalizing b with
  | nil => exact holds_ok.mpr hb
  | cons a l ih =>
    rw [List.foldlM_cons]
    exact (hf a (by simp) b hb).bind fun b' hb' =>
      ih hb' fun a' ha' => hf a' (List.mem_cons_of_mem _ ha')

/-! ### Two computations -/

/-- Both computations return, with related values, or the same error stops both. -/
def Alike (R : α → β → Prop) (x : Except ε α) (y : Except ε β) : Prop :=
  match x, y with
  | .ok a, .ok b => R a b
  | .error e, .error e' => e = e'
  | _, _ => False

lemma Alike.of_left {R : α → β → Prop} {x : Except ε α} {y : Except ε β} (h : Alike R x y) {a : α}
    (hx : x = .ok a) : ∃ b, y = .ok b ∧ R a b := by
  subst hx
  cases y with
  | error e => exact h.elim
  | ok b => exact ⟨b, rfl, h⟩

lemma Alike.of_right {R : α → β → Prop} {x : Except ε α} {y : Except ε β} (h : Alike R x y) {b : β}
    (hy : y = .ok b) : ∃ a, x = .ok a ∧ R a b := by
  subst hy
  cases x with
  | error e => exact h.elim
  | ok a => exact ⟨a, rfl, h⟩

lemma Alike.bind {α' β' : Type v} {R : α → β → Prop} {S : α' → β' → Prop} {x : Except ε α}
    {y : Except ε β} {f : α → Except ε α'} {g : β → Except ε β'} (h : Alike R x y)
    (hfg : ∀ a b, R a b → Alike S (f a) (g b)) : Alike S (x >>= f) (y >>= g) := by
  cases x <;> cases y
  · exact h
  · exact h.elim
  · exact h.elim
  · exact hfg _ _ h

/-- Two computations that are like a third. -/
lemma Alike.through {γ : Type v} {R : α → γ → Prop} {S : β → γ → Prop} {x : Except ε α}
    {y : Except ε β} {z : Except ε γ} (h : Alike R x z) (h' : Alike S y z) :
    Alike (fun a b => ∃ c, R a c ∧ S b c) x y := by
  cases z with
  | error e =>
    cases x <;> cases y
    · exact (show _ = e from h).trans (show _ = e from h').symm
    · exact h'.elim
    · exact h.elim
    · exact h.elim
  | ok c =>
    cases x <;> cases y
    · exact h.elim
    · exact h.elim
    · exact h'.elim
    · exact ⟨c, h, h'⟩

lemma Alike.mono {R S : α → β → Prop} {x : Except ε α} {y : Except ε β} (h : Alike R x y)
    (hRS : ∀ a b, R a b → S a b) : Alike S x y := by
  cases x <;> cases y
  · exact h
  · exact h
  · exact h
  · exact hRS _ _ h

/-- Two loops over one list, whose states stay related by what they have been through. -/
lemma Alike.foldlM {R : List ι → α → β → Prop} {f : α → ι → Except ε α} {g : β → ι → Except ε β}
    {l : List ι} {a : α} {b : β} (h : R [] a b)
    (hfg : ∀ p i q, l = p ++ i :: q → ∀ a b, R p a b → Alike (R (p ++ [i])) (f a i) (g b i)) :
    Alike (R l) (l.foldlM f a) (l.foldlM g b) := by
  -- the rest of the list, after any first part of it
  have hrest : ∀ q p a b, l = p ++ q → R p a b → Alike (R l) (q.foldlM f a) (q.foldlM g b) := by
    intro q
    induction q with
    | nil =>
      intro p a b hl hab
      rw [List.append_nil] at hl
      rw [hl]
      exact hab
    | cons i q ih =>
      intro p a b hl hab
      rw [List.foldlM_cons, List.foldlM_cons]
      exact (hfg p i q hl a b hab).bind fun a' b' hab' => ih (p ++ [i]) a' b' (by simp [hl]) hab'
  exact hrest l [] a b rfl h

/-! ### Runs -/

variable (step : σ → ι → Except ε σ)

/-- The state after the steps `ls`, if none of them stops. -/
def run : σ → List ι → Except ε σ
  | s, [] => .ok s
  | s, l :: ls => step s l >>= fun s' => run s' ls

/-- Every step the run takes is taken in a state where `G` allows it. -/
def Along (G : σ → ι → Prop) : σ → List ι → Prop
  | _, [] => True
  | s, l :: ls => G s l ∧ ∀ s', step s l = .ok s' → Along G s' ls

variable {step}

@[simp] lemma run_nil (s : σ) : run step s [] = .ok s := rfl

lemma run_cons {s s' : σ} {l : ι} {ls : List ι} :
    run step s (l :: ls) = .ok s' ↔ ∃ t, step s l = .ok t ∧ run step t ls = .ok s' := by
  simp [run]

/-- The first step of an allowed run, when it does not stop. -/
lemma along_cons {G : σ → ι → Prop} {s t : σ} {l : ι} {ls : List ι} (ht : step s l = .ok t) :
    Along step G s (l :: ls) ↔ G s l ∧ Along step G t ls := by
  refine and_congr_right fun _ => ⟨fun h => h t ht, fun h u hu => ?_⟩
  rw [ht] at hu
  cases hu
  exact h

instance decidableAlong {G : σ → ι → Prop} [∀ s l, Decidable (G s l)] :
    ∀ (s : σ) (ls : List ι), Decidable (Along step G s ls)
  | _, [] => isTrue trivial
  | s, l :: ls =>
    haveI : DecidablePred fun t => Along step G t ls := fun t => decidableAlong t ls
    inferInstanceAs (Decidable (G s l ∧ Holds (step s l) fun t => Along step G t ls))

/-- A run is a loop over its steps. -/
lemma run_eq_foldlM (s : σ) (ls : List ι) : run step s ls = ls.foldlM step s := by
  induction ls generalizing s with
  | nil => rfl
  | cons l ls ih =>
    rw [List.foldlM_cons]
    exact congrArg (step s l >>= ·) (funext ih)

lemma run_append {s s' : σ} {ls ms : List ι} :
    run step s (ls ++ ms) = .ok s' ↔ ∃ t, run step s ls = .ok t ∧ run step t ms = .ok s' := by
  induction ls generalizing s with
  | nil => simp
  | cons l ls ih =>
    simp only [List.cons_append, run_cons, ih]
    constructor
    · rintro ⟨u, hu, t, ht, h⟩; exact ⟨t, ⟨u, hu, ht⟩, h⟩
    · rintro ⟨t, ⟨u, hu, ht⟩, h⟩; exact ⟨u, hu, t, ht, h⟩

lemma run_snoc {s s' : σ} {ls : List ι} {l : ι} :
    run step s (ls ++ [l]) = .ok s' ↔ ∃ t, run step s ls = .ok t ∧ step t l = .ok s' := by
  rw [run_append]
  simp [run]

/-- Steps that stand for others run as these do. -/
lemma run_map {κ : Type*} (f : κ → ι) (s : σ) (ks : List κ) :
    run step s (ks.map f) = run (fun s k => step s (f k)) s ks := by
  induction ks generalizing s with
  | nil => rfl
  | cons k ks ih => exact congrArg (step s (f k) >>= ·) (funext ih)

/-- A guard that allows every step. -/
lemma along_true (s : σ) (ls : List ι) : Along step (fun _ _ => True) s ls := by
  induction ls generalizing s with
  | nil => trivial
  | cons l ls ih => exact ⟨trivial, fun s' _ => ih s'⟩

lemma along_of_forall {G : σ → ι → Prop} {s : σ} {ls : List ι} (h : ∀ s, ∀ l ∈ ls, G s l) :
    Along step G s ls := by
  induction ls generalizing s with
  | nil => trivial
  | cons l ls ih =>
    exact ⟨h s l (by simp), fun s' _ => ih fun t m hm => h t m (List.mem_cons_of_mem _ hm)⟩

/-- A guard that holds of every step a completed run takes. -/
lemma along_of_run {G : σ → ι → Prop} {s s' : σ} {ls : List ι} (h : run step s ls = .ok s')
    (hG : ∀ pre l post t u, ls = pre ++ l :: post → run step s pre = .ok t → step t l = .ok u →
      run step u post = .ok s' → G t l) : Along step G s ls := by
  induction ls generalizing s with
  | nil => trivial
  | cons l ls ih =>
    obtain ⟨t, ht, h⟩ := run_cons.mp h
    refine ⟨hG [] l ls s t rfl rfl ht h, fun u hu => ?_⟩
    rw [ht] at hu
    cases hu
    refine ih h fun pre m post v w hsplit hv hw hpost => ?_
    exact hG (l :: pre) m post v w (by rw [hsplit]; rfl) (run_cons.mpr ⟨t, ht, hv⟩) hw hpost

/-- What stops a run stops one of its steps. -/
lemma run_error {s : σ} {ls : List ι} {e : ε} (h : run step s ls = .error e) :
    ∃ pre l post t, ls = pre ++ l :: post ∧ run step s pre = .ok t ∧ step t l = .error e := by
  induction ls generalizing s with
  | nil => cases h
  | cons l ls ih =>
    rcases hs : step s l with e' | t
    · rw [run, hs] at h
      cases h
      exact ⟨[], l, ls, s, rfl, rfl, hs⟩
    · rw [run, hs, ok_bind] at h
      obtain ⟨pre, m, post, u, hsplit, hu, hm⟩ := ih h
      exact ⟨l :: pre, m, post, u, by rw [hsplit]; rfl, run_cons.mpr ⟨t, hs, hu⟩, hm⟩

/-- A weaker guard, in the states an allowed run goes through. -/
lemma Along.mono_inv {G G' : σ → ι → Prop} {I : σ → Prop}
    (hstep : ∀ s l s', I s → G s l → step s l = .ok s' → I s') (hG : ∀ s l, I s → G s l → G' s l)
    {s : σ} {ls : List ι} (hs : I s) (h : Along step G s ls) : Along step G' s ls := by
  induction ls generalizing s with
  | nil => trivial
  | cons l ls ih =>
    exact ⟨hG s l hs h.1, fun s' hs' => ih (hstep s l s' hs h.1 hs') (h.2 s' hs')⟩

/-- Two guards that agree in the states an allowed run goes through. -/
theorem along_congr {G G' : σ → ι → Prop} {I : σ → Prop}
    (hstep : ∀ s l s', I s → G s l → step s l = .ok s' → I s')
    (hG : ∀ s l, I s → (G s l ↔ G' s l)) {s : σ} {ls : List ι} (hs : I s) :
    Along step G s ls ↔ Along step G' s ls := by
  constructor
  · exact fun h => h.mono_inv hstep (fun s l hi => (hG s l hi).mp) hs
  · exact fun h => h.mono_inv (fun s l s' hi hg => hstep s l s' hi ((hG s l hi).mpr hg))
      (fun s l hi => (hG s l hi).mpr) hs

/-- **A run goes to its end** just when every step on its way returns. -/
theorem run_returns_iff {G : σ → ι → Prop} {I : σ → Prop}
    (hG : ∀ s l, I s → ((∃ s', step s l = .ok s') ↔ G s l))
    (hstep : ∀ s l s', I s → step s l = .ok s' → I s') {s : σ} {ls : List ι} (hs : I s) :
    (∃ s', run step s ls = .ok s') ↔ Along step G s ls := by
  induction ls generalizing s with
  | nil => exact iff_of_true ⟨s, rfl⟩ trivial
  | cons l ls ih =>
    constructor
    · rintro ⟨s', h⟩
      obtain ⟨t, ht, h⟩ := run_cons.mp h
      exact (along_cons ht).mpr ⟨(hG s l hs).mp ⟨t, ht⟩, (ih (hstep s l t hs ht)).mp ⟨s', h⟩⟩
    · rintro ⟨hg, hrest⟩
      obtain ⟨t, ht⟩ := (hG s l hs).mpr hg
      obtain ⟨s', h⟩ := (ih (hstep s l t hs ht)).mpr (hrest t ht)
      exact ⟨s', run_cons.mpr ⟨t, ht, h⟩⟩

lemma Along.mono {G G' : σ → ι → Prop} (hG : ∀ s l, G s l → G' s l) {s : σ} {ls : List ι}
    (h : Along step G s ls) : Along step G' s ls :=
  h.mono_inv (I := fun _ => True) (fun _ _ _ _ _ _ => trivial) (fun s l _ => hG s l) trivial

lemma Along.and {G G' : σ → ι → Prop} {s : σ} {ls : List ι} (h : Along step G s ls)
    (h' : Along step G' s ls) : Along step (fun s l => G s l ∧ G' s l) s ls := by
  induction ls generalizing s with
  | nil => trivial
  | cons l ls ih => exact ⟨⟨h.1, h'.1⟩, fun s' hs' => ih (h.2 s' hs') (h'.2 s' hs')⟩

/-- Two guards that agree on every step taken in the states a run goes through. -/
theorem along_iff {G G' : σ → ι → Prop} {I : σ → Prop}
    (hstep : ∀ s l s', I s → step s l = .ok s' → I s')
    (hG : ∀ s l s', I s → step s l = .ok s' → (G s l ↔ G' s l)) {s s' : σ} {ls : List ι} (hs : I s)
    (h : run step s ls = .ok s') : Along step G s ls ↔ Along step G' s ls := by
  induction ls generalizing s with
  | nil => exact Iff.rfl
  | cons l ls ih =>
    obtain ⟨t, ht, h⟩ := run_cons.mp h
    have hrest : (∀ u, step s l = .ok u → Along step G u ls) ↔
        ∀ u, step s l = .ok u → Along step G' u ls := by
      constructor <;> intro hall u hu <;> rw [ht] at hu <;> cases hu
      · exact (ih (hstep s l t hs ht) h).mp (hall t ht)
      · exact (ih (hstep s l t hs ht) h).mpr (hall t ht)
    exact and_congr (hG s l t hs ht) hrest

lemma along_append {G : σ → ι → Prop} {s : σ} {ls ms : List ι} :
    Along step G s (ls ++ ms) ↔
      Along step G s ls ∧ ∀ t, run step s ls = .ok t → Along step G t ms := by
  induction ls generalizing s with
  | nil => simp [Along]
  | cons l ls ih =>
    simp only [List.cons_append, Along, ih]
    constructor
    · rintro ⟨hl, h⟩
      refine ⟨⟨hl, fun s' hs' => (h s' hs').1⟩, fun t ht => ?_⟩
      obtain ⟨u, hu, ht⟩ := run_cons.mp ht
      exact (h u hu).2 t ht
    · rintro ⟨⟨hl, h⟩, h'⟩
      exact ⟨hl, fun s' hs' => ⟨h s' hs', fun t ht => h' t (run_cons.mpr ⟨s', hs', ht⟩)⟩⟩

/-- **What one allowed step preserves, an allowed run preserves.** -/
theorem run_inv {G : σ → ι → Prop} {I : σ → Prop}
    (hstep : ∀ s l s', I s → G s l → step s l = .ok s' → I s') {s s' : σ} {ls : List ι}
    (hs : I s) (hG : Along step G s ls) (h : run step s ls = .ok s') : I s' := by
  induction ls generalizing s with
  | nil => cases h; exact hs
  | cons l ls ih =>
    obtain ⟨t, ht, h⟩ := run_cons.mp h
    exact ih (hstep s l t hs hG.1 ht) (hG.2 t ht) h

/-- What every step preserves, every run preserves. -/
theorem run_inv_true {I : σ → Prop} (hstep : ∀ s l s', I s → step s l = .ok s' → I s')
    {s s' : σ} {ls : List ι} (hs : I s) (h : run step s ls = .ok s') : I s' :=
  run_inv (fun s l s' hs _ => hstep s l s' hs) hs (along_true s ls) h

/-- The guard holds at a step in the middle of an allowed run. -/
lemma Along.at {G : σ → ι → Prop} {s t : σ} {ls ms : List ι} {l : ι}
    (hG : Along step G s (ls ++ l :: ms)) (h : run step s ls = .ok t) : G t l :=
  ((along_append.mp hG).2 t h).1

/-- The guard holds at the last step of an allowed run. -/
lemma Along.last {G : σ → ι → Prop} {s t : σ} {ls : List ι} {l : ι}
    (hG : Along step G s (ls ++ [l])) (h : run step s ls = .ok t) : G t l :=
  hG.at h

end Runs
