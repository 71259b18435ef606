import Mathlib.Data.List.Basic
import Mathlib.Data.List.TakeDrop
import Mathlib.Tactic.Common

/-!
First-in first-out pipes, with what has come out of them.

Nothing is lost, doubled or reordered in a pipe: what has come out followed by what is still
inside is what was put in.
-/

structure Pipe (α : Type) where
  /-- What has come out, oldest first. -/
  out : List α
  /-- What is still inside, next to come out first. -/
  held : List α

namespace Pipe

variable {α : Type}

/-- All that was ever put in. -/
def all (p : Pipe α) : List α := p.out ++ p.held

def push (p : Pipe α) (xs : List α) : Pipe α := { p with held := p.held ++ xs }

/-- Let up to `n` elements out. -/
def pull (p : Pipe α) (n : ℕ) : Pipe α := ⟨p.out ++ p.held.take n, p.held.drop n⟩

@[simp] lemma push_nil (p : Pipe α) : p.push [] = p := by simp [push]

@[simp] lemma pull_zero (p : Pipe α) : p.pull 0 = p := by simp [pull]

@[simp] lemma all_push (p : Pipe α) (xs : List α) : (p.push xs).all = p.all ++ xs := by
  simp [all, push]

@[simp] lemma all_pull (p : Pipe α) (n : ℕ) : (p.pull n).all = p.all := by
  simp [all, pull]

/-- One exchange: `xs` is put in, and some of what is inside comes out. -/
def Moves (p : Pipe α) (xs : List α) (q : Pipe α) : Prop := ∃ n, q = (p.push xs).pull n

lemma Moves.none (p : Pipe α) : Moves p [] p := ⟨0, by simp⟩

lemma Moves.push (p : Pipe α) (xs : List α) : Moves p xs (p.push xs) := ⟨0, by simp⟩

lemma Moves.pull (p : Pipe α) (n : ℕ) : Moves p [] (p.pull n) := ⟨n, by simp⟩

/-- **Conservation**: an exchange adds what it puts in, at the end. -/
theorem Moves.all {p q : Pipe α} {xs : List α} (h : Moves p xs q) : q.all = p.all ++ xs := by
  obtain ⟨n, rfl⟩ := h
  simp

end Pipe
