import Mathlib.Order.Basic
import Replicat.Lib.Pool

/-!
# Programs that go forward

A family of assertions, one for each position of a preorder. A program `Advances` if each of its
actions, where the assertion of a position holds, leaves that of the same position or a later one.
Among threads that keep every assertion, whoever looks finds positions that do not go back
(`Pool.turns_advance`).
-/

namespace Atomics

variable {σ α β ω : Type} [Preorder ω] {P : ω → σ → Prop}

namespace Prog

/-- The program goes forward from the position `k`; a result `a` is returned at a position in `Q · a`. -/
inductive Advances (P : ω → σ → Prop) (Q : ω → α → Prop) : ω → Prog σ α → Prop where
  /-- The position may be another one by then, of which the state says no more. -/
  | ret {k k' : ω} {a : α} (hle : k ≤ k') (hP : ∀ s, P k s → P k' s) (hQ : Q k' a) : Advances P Q k (.ret a)
  | act {k : ω} {u : σ → σ} {n : σ → Prog σ α} (next : σ → ω) (hle : ∀ s, P k s → k ≤ next s)
      (hP : ∀ s, P k s → P (next s) (u s)) (hn : ∀ s, P k s → Advances P Q (next s) (n s)) :
      Advances P Q k (.act u n)

namespace Advances

variable {Q Q' : ω → α → Prop} {k k' : ω} {p : Prog σ α}

theorem pure {a : α} (hQ : Q k a) : Advances P Q k (.ret a) := .ret le_rfl (fun _ h => h) hQ

/-- A program that goes forward from a later position. -/
theorem shift (h : Advances P Q k' p) (hle : k ≤ k') (hP : ∀ s, P k s → P k' s) : Advances P Q k p := by
  cases h with
  | ret hle' hP' hQ => exact .ret (hle.trans hle') (fun s hs => hP' s (hP s hs)) hQ
  | act next hle' hP' hn =>
    exact .act next (fun s hs => hle.trans (hle' s (hP s hs))) (fun s hs => hP' s (hP s hs))
      fun s hs => hn s (hP s hs)

theorem bind {f : α → Prog σ β} {R : ω → β → Prop} (h : Advances P Q k p)
    (hf : ∀ k' a, Q k' a → Advances P R k' (f a)) : Advances P R k (p >>= f) := by
  induction h with
  | ret hle hP hQ => exact (hf _ _ hQ).shift hle hP
  | act next hle hP _ ih => exact .act next hle hP ih

/-- Actions that keep the position. -/
theorem of_keeps (h : p.Within (Keeps (P k))) (hQ : ∀ a, Q k a) : Advances P Q k p := by
  induction h with
  | ret a => exact .pure (hQ a)
  | act hu _ ih => exact .act (fun _ => k) (fun _ _ => le_rfl) hu fun s _ => ih s

theorem atomic {f : σ → α × σ} (hf : ∀ s, P k s → ∃ k', k ≤ k' ∧ P k' (f s).2 ∧ Q k' (f s).1) :
    Advances P Q k (.atomic f) := by
  classical
  have hchoice : ∀ s, ∃ k', P k s → k ≤ k' ∧ P k' (f s).2 ∧ Q k' (f s).1 := by
    intro s
    by_cases hs : P k s
    · obtain ⟨k', hk'⟩ := hf s hs
      exact ⟨k', fun _ => hk'⟩
    · exact ⟨k, fun h => absurd h hs⟩
  choose next hnext using hchoice
  exact .act next (fun s hs => (hnext s hs).1) (fun s hs => (hnext s hs).2.1) fun s hs => .pure (hnext s hs).2.2

variable {ε : Type} {x : Fallible σ ε α}

/-- A step that may fail, and the rest after it has not. -/
theorem run_bind {Q : ω → Except ε α → Prop} {f : α → Fallible σ ε β} {R : ω → Except ε β → Prop}
    (h : Advances P Q k x.run) (herror : ∀ k' e, Q k' (.error e) → R k' (.error e))
    (hf : ∀ k' a, Q k' (.ok a) → Advances P R k' (f a).run) : Advances P R k (x >>= f).run := by
  refine h.bind fun k' r hr => ?_
  rcases r with e | a
  · exact .pure (herror k' e hr)
  · exact hf k' a hr

theorem run_mapErr {ε' : Type} {Q : ω → Except ε α → Prop} {R : ω → Except ε' α → Prop} {g : ε → ε'}
    (h : Advances P Q k x.run) (hQ : ∀ k' r, Q k' r → R k' (r.mapError g)) :
    Advances P R k (mapErr g x).run :=
  h.bind fun k' r hr => .pure (hQ k' r hr)

end Advances

end Prog

open Prog

namespace Pool

variable {ι : Type} {α : ι → Type} [DecidableEq ι] {c : Pool ι σ α} {i : ι} {Q : ω → α i → Prop} {k : ω}

/-- One step of a pool in which `i` goes forward and the others keep every position. -/
theorem step_advance (hi : (c.threads i).Advances P Q k)
    (hothers : ∀ j, j ≠ i → ∀ k, (c.threads j).Within (Keeps (P k))) (h : P k c.state) (l : ι) :
    ∃ k', k ≤ k' ∧ P k' (c.step l).state ∧ ((c.step l).threads i).Advances P Q k' ∧
      ∀ j, j ≠ i → ∀ k, ((c.step l).threads j).Within (Keeps (P k)) := by
  have hkeep : ∀ j, j ≠ i → ∀ k, ((c.step l).threads j).Within (Keeps (P k)) := by
    intro j hj k
    by_cases hjl : j = l
    · subst hjl
      rw [step_threads_self]
      exact (hothers j hj k).feed _
    · rw [c.step_threads_other (Ne.symm hjl)]
      exact hothers j hj k
  by_cases hli : l = i
  · subst hli
    rcases c.step_cases l with ⟨a, -, hstep⟩ | ⟨u, n, ht, hstep⟩
    · rw [hstep] at hkeep ⊢
      exact ⟨k, le_rfl, h, hi, hkeep⟩
    · rw [ht] at hi
      cases hi with
      | act next hle hP hn =>
        refine ⟨next c.state, hle _ h, ?_, ?_, hkeep⟩
        · rw [hstep]
          exact hP _ h
        · rw [hstep]
          simpa using hn _ h
  · refine ⟨k, le_rfl, ?_, ?_, hkeep⟩
    · have hl := hothers l hli k
      rcases c.step_cases l with ⟨a, -, hstep⟩ | ⟨u, n, ht, hstep⟩
      · rw [hstep]
        exact h
      · rw [ht] at hl
        cases hl with
        | act hu _ =>
          rw [hstep]
          exact hu _ h
    · rw [c.step_threads_other hli]
      exact hi

/-- **The positions that a thread meets** do not go back. -/
theorem turns_advance (hi : (c.threads i).Advances P Q k)
    (hothers : ∀ j, j ≠ i → ∀ k, (c.threads j).Within (Keeps (P k))) (h : P k c.state) (sched : List ι) (j : ι) :
    ∃ ks : List ω, (k :: ks).Pairwise (· ≤ ·) ∧ List.Forall₂ P ks (c.turns j sched) := by
  induction sched generalizing c k with
  | nil => exact ⟨[], List.pairwise_singleton _ k, .nil⟩
  | cons l sched ih =>
    obtain ⟨k', hle, h', hi', hothers'⟩ := step_advance hi hothers h l
    obtain ⟨ks, hks, hturns⟩ := ih hi' hothers' h'
    have hlater : ∀ m ∈ ks, k ≤ m := fun m hm => hle.trans (List.rel_of_pairwise_cons hks hm)
    have hsorted : (k :: ks).Pairwise (· ≤ ·) := .cons hlater (List.Pairwise.of_cons hks)
    unfold turns
    split
    · refine ⟨k :: ks, .cons (fun m hm => ?_) hsorted, .cons h hturns⟩
      rcases List.mem_cons.1 hm with rfl | hm
      · exact le_rfl
      · exact hlater m hm
    · exact ⟨ks, hsorted, hturns⟩

end Pool

end Atomics
