import Mathlib.Data.List.Basic
import XnetSocket.Lib.Runs

/-!
What a run is to one who sees part of it.

A view of the state follows some of the steps by a step function of its own, and the others leave
it alone. Then it is the state of a run of the steps it sees, and two runs with the same such steps
look the same to it, whatever else happens in them.
-/

namespace Runs

universe u v w

variable {ε : Type u} {σ τ ι : Type v}

namespace Projects

variable {step : σ → ι → Except ε σ} {view : σ → τ} {own : τ → ι → Except ε τ} {sees : ι → Bool}
variable {G : σ → ι → Prop} {I : σ → Prop} {s t s' t' : σ} {ls ms : List ι}

end Projects

/-- **The image of a run**: when the view follows the images of some steps, and the others leave it
alone, it is the state of a run of the images, which are allowed as the steps are. -/
theorem run_image {κ : Type w} {whole : σ → κ → Except ε σ} {own : τ → ι → Except ε τ}
    (view : σ → τ) {image : κ → Option ι} {G : σ → κ → Prop} {G' : τ → ι → Prop}
    (hseen : ∀ s k l s', image k = some l → G s k → whole s k = .ok s' →
      own (view s) l = .ok (view s') ∧ G' (view s) l)
    (hunseen : ∀ s k s', image k = none → whole s k = .ok s' → view s' = view s)
    {s s' : σ} {ks : List κ} (hG : Along whole G s ks) (h : run whole s ks = .ok s') :
    run own (view s) (ks.filterMap image) = .ok (view s') ∧
      Along own G' (view s) (ks.filterMap image) := by
  induction ks generalizing s with
  | nil =>
    cases h
    exact ⟨rfl, trivial⟩
  | cons k ks ih =>
    obtain ⟨t, ht, h⟩ := run_cons.mp h
    obtain ⟨hrun, hall⟩ := ih (hG.2 t ht) h
    rcases hk : image k with _ | l
    · rw [hunseen s k t hk ht] at hrun hall
      rw [List.filterMap_cons_none hk]
      exact ⟨hrun, hall⟩
    · obtain ⟨hstep, hallowed⟩ := hseen s k l t hk hG.1 ht
      rw [List.filterMap_cons_some hk]
      exact ⟨run_cons.mpr ⟨_, hstep, hrun⟩, (along_cons hstep).mpr ⟨hallowed, hall⟩⟩

end Runs
