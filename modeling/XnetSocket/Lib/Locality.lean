import Mathlib.Data.List.Perm.Basic
import Mathlib.Data.List.Nodup
import XnetSocket.Lib.Runs

/-!
Steps that act on one slot each.

A state has slots and a log. A step is local when its key names the one slot it may change, and
what it does there and adds to the log depends on that slot alone. Then steps with different keys
may be taken in any order.
-/

namespace Runs

universe u v

variable {ε : Type u} {σ ι κ α β : Type v}

/-- What a step adds to the log, when it can be taken. -/
def logged (r : Except ε (α × List β)) : List β :=
  match r with
  | .ok r => r.2
  | .error _ => []

/-- The steps `G` allows act on the slot of their key as `act` says, and on no other, in the states
where `I` holds. -/
structure Local (step : σ → ι → Except ε σ) (key : ι → κ) (slot : σ → κ → α) (log : σ → List β)
    (act : ι → α → Except ε (α × List β)) (G : ι → Prop) (I : σ → Prop) : Prop where
  stops : ∀ s l e, I s → G l → act l (slot s (key l)) = .error e → step s l = .error e
  goes : ∀ s l r, I s → G l → act l (slot s (key l)) = .ok r → ∃ t, step s l = .ok t ∧ I t ∧
    slot t (key l) = r.1 ∧ (∀ j, j ≠ key l → slot t j = slot s j) ∧ log t = log s ++ r.2

namespace Local

variable {step : σ → ι → Except ε σ} {key : ι → κ} {slot : σ → κ → α} {log : σ → List β}
variable {act : ι → α → Except ε (α × List β)} {G : ι → Prop} {I : σ → Prop}

/-- What a step that is taken has done. -/
lemma taken (hl : Local step key slot log act G I) {s t : σ} {l : ι} (hs : I s) (hG : G l)
    (h : step s l = .ok t) : ∃ bs, act l (slot s (key l)) = .ok (slot t (key l), bs) ∧ I t ∧
      (∀ j, j ≠ key l → slot t j = slot s j) ∧ log t = log s ++ bs := by
  rcases ha : act l (slot s (key l)) with e | ⟨a, bs⟩
  · rw [hl.stops s l e hs hG ha] at h
    cases h
  · obtain ⟨t', ht, hI, hslot, hrest, hlog⟩ := hl.goes s l _ hs hG ha
    rw [h] at ht
    cases ht
    exact ⟨bs, by rw [hslot], hI, hrest, hlog⟩

end Local

end Runs
