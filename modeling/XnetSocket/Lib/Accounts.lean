import XnetSocket.Lib.Runs

/-!
Accounts of a run.

What is noted of a step may depend on the state it is taken in. The notes of a run, put together
in order, are its account; what one step keeps between a state and the account so far, a run keeps
between the state it ends in and its account.
-/

namespace Runs

universe u v w x y

variable {ε : Type u} {σ : Type v} {ι : Type w} {α : Type x}
variable (step : σ → ι → Except ε σ) (note : σ → ι → List α)

/-- What is noted of the steps of a run, in order. -/
def account : σ → List ι → List α
  | _, [] => []
  | s, l :: ls => note s l ++ match step s l with
    | .ok t => account t ls
    | .error _ => []

variable {step note}

@[simp] lemma account_nil (s : σ) : account step note s [] = [] := rfl

lemma account_cons {s t : σ} {l : ι} {ls : List ι} (h : step s l = .ok t) :
    account step note s (l :: ls) = note s l ++ account step note t ls := by
  rw [account, h]

lemma account_singleton (s : σ) (l : ι) : account step note s [l] = note s l := by
  rw [account]
  split <;> exact List.append_nil _

lemma account_eq_nil {s : σ} {ls : List ι} (h : ∀ l ∈ ls, ∀ t, note t l = []) :
    account step note s ls = [] := by
  induction ls generalizing s with
  | nil => rfl
  | cons l ls ih =>
    rw [account, h l List.mem_cons_self, List.nil_append]
    split
    · exact ih fun m hm => h m (List.mem_cons_of_mem _ hm)
    · rfl

lemma account_append {s t : σ} {ls ms : List ι} (h : run step s ls = .ok t) :
    account step note s (ls ++ ms) = account step note s ls ++ account step note t ms := by
  induction ls generalizing s with
  | nil => cases h; rfl
  | cons l ls ih =>
    obtain ⟨u, hu, h⟩ := run_cons.mp h
    rw [List.cons_append, account_cons hu, account_cons hu, ih h, List.append_assoc]

lemma account_flatMap {β : Type y} (f : α → List β) (s : σ) (ls : List ι) :
    account step (fun s l => (note s l).flatMap f) s ls = (account step note s ls).flatMap f := by
  induction ls generalizing s with
  | nil => rfl
  | cons l ls ih =>
    rw [account, account, List.flatMap_append]
    split
    · rw [ih]
    · rfl

/-- **What one allowed step keeps of the account, an allowed run keeps.** -/
theorem account_inv {G : σ → ι → Prop} {I : σ → List α → Prop}
    (hstep : ∀ s l t xs, I s xs → G s l → step s l = .ok t → I t (xs ++ note s l)) {s t : σ}
    {ls : List ι} {xs : List α} (hs : I s xs) (hG : Along step G s ls)
    (h : run step s ls = .ok t) : I t (xs ++ account step note s ls) := by
  induction ls generalizing s xs with
  | nil =>
    cases h
    rwa [account_nil, List.append_nil]
  | cons l ls ih =>
    obtain ⟨u, hu, h⟩ := run_cons.mp h
    rw [account_cons hu, ← List.append_assoc]
    exact ih (hstep s l u xs hs hG.1 hu) (hG.2 u hu) h

/-! ### Steps that are runs -/

section Parts

variable {κ : Type y} {whole : σ → κ → Except ε σ} {parts : σ → κ → List ι}
variable (hparts : ∀ s k, whole s k = run step s (parts s k)) {s t : σ} {ks : List κ}

include hparts

/-- A run whose steps are runs themselves is a run of the steps of these. -/
lemma run_parts (h : run whole s ks = .ok t) : run step s (account whole parts s ks) = .ok t := by
  induction ks generalizing s with
  | nil => exact h
  | cons k ks ih =>
    obtain ⟨u, hu, h⟩ := run_cons.mp h
    rw [account_cons hu]
    exact run_append.mpr ⟨u, hparts s k ▸ hu, ih h⟩

/-- It is allowed when all of these are. -/
lemma along_parts {G : σ → ι → Prop} (hG : Along whole (fun s k => Along step G s (parts s k)) s ks)
    (h : run whole s ks = .ok t) : Along step G s (account whole parts s ks) := by
  induction ks generalizing s with
  | nil => trivial
  | cons k ks ih =>
    obtain ⟨u, hu, h⟩ := run_cons.mp h
    rw [account_cons hu]
    refine along_append.mpr ⟨hG.1, fun v hv => ?_⟩
    rw [← hparts, hu, Except.ok.injEq] at hv
    exact hv ▸ ih (hG.2 u hu) h

/-- Its account is that of all these. -/
lemma account_parts (h : run whole s ks = .ok t) :
    account step note s (account whole parts s ks) =
      account whole (fun s k => account step note s (parts s k)) s ks := by
  induction ks generalizing s with
  | nil => rfl
  | cons k ks ih =>
    obtain ⟨u, hu, h⟩ := run_cons.mp h
    rw [account_cons hu, account_cons hu, account_append (hparts s k ▸ hu), ih h]

end Parts

end Runs
