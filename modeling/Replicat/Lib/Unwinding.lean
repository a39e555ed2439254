import Replicat.Lib.Pool

/-!
# Threads that do not disturb each other

`Respects R p` says that `p` cannot tell apart states that `R` relates. A thread that respects `R`
among others whose actions stay `Unseen` by `R` runs as if it were alone (`run_undisturbed`), and
one of the others that respects `R` as well reads at each of its turns what that thread alone has
left by then (`run_reads`).
-/

namespace Atomics

open Prog

/-! ## Callers -/

/-- A caller: what it calls next may depend on what it has been answered. -/
inductive Caller (C : Type) (A : C → Type) (α : Type) where
  | done (a : α)
  | call (c : C) (next : A c → Caller C A α)

namespace Caller

variable {C α σ : Type} {A : C → Type}

def run (f : (c : C) → Prog σ (A c)) : Caller C A α → Prog σ α
  | done a => .ret a
  | call c next => f c >>= fun a => (next a).run f

/-- Every call that it can come to make. -/
inductive All (P : C → Prop) : Caller C A α → Prop where
  | done (a : α) : All P (done a)
  | call {c : C} {next : A c → Caller C A α} : P c → (∀ a, All P (next a)) → All P (call c next)

variable {P : C → Prop} {f : (c : C) → Prog σ (A c)} {R : σ → σ → Prop} {caller : Caller C A α}

theorem All.respects (h : caller.All P) (hf : ∀ c, P c → (f c).Respects R) : (caller.run f).Respects R := by
  induction h with
  | done a => exact .ret a
  | call hc _ ih => exact (hf _ hc).bind ih

theorem All.within (h : caller.All P) (hf : ∀ c, P c → (f c).Within R) : (caller.run f).Within R := by
  induction h with
  | done a => exact .ret a
  | call hc _ ih => exact (hf _ hc).bind ih

theorem All.mono {Q : C → Prop} (h : caller.All P) (hPQ : ∀ c, P c → Q c) : caller.All Q := by
  induction h with
  | done a => exact .done a
  | call hc _ ih => exact .call (hPQ _ hc) ih

end Caller

/-! ## One thread among others -/

/-- The action keeps the state related to what it was related to. -/
def Unseen {σ : Type} (R : σ → σ → Prop) (s s' : σ) : Prop := ∀ t, R s t → R s' t

theorem Prog.Respects.feed {σ α : Type} {R : σ → σ → Prop} {p : Prog σ α} (hp : p.Respects R)
    {ss ts : List σ} (h : List.Forall₂ R ss ts) : p.feed ss = p.feed ts := by
  induction hp generalizing ss ts with
  | ret a => rw [feed_ret, feed_ret]
  | act hu _ ih =>
    cases h with
    | nil => rfl
    | cons hst hrest =>
      rw [feed_act, feed_act, ← (hu _ _ hst).2]
      exact ih _ hrest

namespace Pool

variable {ι σ : Type} {α : ι → Type} [DecidableEq ι]

/-- How many turns `i` has had, at each turn of `j`. -/
def counts (i j : ι) : List ι → List Nat
  | [] => []
  | k :: sched =>
    if k = i then (counts i j sched).map (· + 1)
    else if k = j then 0 :: counts i j sched
    else counts i j sched

/-- The count does not go back. -/
theorem counts_pairwise (i j : ι) (sched : List ι) : (counts i j sched).Pairwise (· ≤ ·) := by
  induction sched with
  | nil => exact .nil
  | cons k sched ih =>
    unfold counts
    split
    · refine List.pairwise_map.2 (ih.imp ?_)
      intro a b hab
      omega
    · split
      · exact .cons (fun n _ => Nat.zero_le n) ih
      · exact ih

variable {R : σ → σ → Prop} {c c' : Pool ι σ α} {i j : ι}

/-- One step of a pool beside one in which only `i` acts. -/
theorem step_undisturbed (hthread : c'.threads i = c.threads i) (hi : (c.threads i).Respects R)
    (hothers : ∀ j, j ≠ i → (c.threads j).Within (Unseen R)) (hR : R c.state c'.state) (k : ι) :
    (if k = i then c'.step i else c').threads i = (c.step k).threads i ∧ ((c.step k).threads i).Respects R ∧
      (∀ j, j ≠ i → ((c.step k).threads j).Within (Unseen R)) ∧
      R (c.step k).state (if k = i then c'.step i else c').state := by
  have hstay : ∀ j, j ≠ i → j ≠ k → ((c.step k).threads j).Within (Unseen R) := by
    intro j hji hjk
    rw [c.step_threads_other (Ne.symm hjk)]
    exact hothers j hji
  by_cases hki : k = i
  · subst hki
    rw [if_pos rfl]
    rcases c.step_cases k with ⟨a, ht, hstep⟩ | ⟨u, n, ht, hstep⟩
    · rw [step_ret (hthread.trans ht), hstep]
      exact ⟨hthread, hi, hothers, hR⟩
    · rw [ht] at hi
      cases hi with
      | act hu hn =>
        obtain ⟨hstate, hnext⟩ := hu _ _ hR
        have hself : (c.step k).threads k = n c.state := by rw [hstep]; simp
        rw [step_act (hthread.trans ht)]
        refine ⟨?_, hself ▸ hn _, fun j hj => hstay j hj hj, ?_⟩
        · rw [hself, hnext]
          simp
        · rw [hstep]
          exact hstate
  · rw [if_neg hki, c.step_threads_other hki]
    have hk := hothers k hki
    refine ⟨hthread, hi, fun j hj => ?_, ?_⟩
    · by_cases hjk : j = k
      · subst hjk
        rw [step_threads_self]
        exact hk.feed _
      · exact hstay j hj hjk
    · rcases c.step_cases k with ⟨a, -, hstep⟩ | ⟨u, n, ht, hstep⟩
      · rw [hstep]
        exact hR
      · rw [ht] at hk
        cases hk with
        | act hu _ =>
          rw [hstep]
          exact hu _ _ hR

/-- **A thread that respects `R`** among actions that `R` does not see: it is where it would be if
it had run alone, and so is the state, as far as `R` sees it. -/
theorem run_undisturbed (hthread : c'.threads i = c.threads i) (hi : (c.threads i).Respects R)
    (hothers : ∀ j, j ≠ i → (c.threads j).Within (Unseen R)) (hR : R c.state c'.state) (sched : List ι) :
    (c.run sched).threads i = (c'.run (sched.filter (· = i))).threads i ∧
      R (c.run sched).state (c'.run (sched.filter (· = i))).state := by
  induction sched generalizing c c' with
  | nil => exact ⟨hthread.symm, hR⟩
  | cons k sched ih =>
    obtain ⟨hthread', hi', hothers', hR'⟩ := step_undisturbed hthread hi hothers hR k
    have hrest := ih hthread' hi' hothers' hR'
    by_cases hki : k = i
    · rw [if_pos hki] at hrest
      rw [List.filter_cons_of_pos (by simpa using hki), run_cons, run_cons, hki]
      rwa [hki] at hrest
    · rw [if_neg hki] at hrest
      rw [List.filter_cons_of_neg (by simpa using hki), run_cons]
      exact hrest

/-- The state after `n` more actions of the thread. -/
theorem after_step (c : Pool ι σ α) (i : ι) (n : Nat) :
    ((c.step i).threads i).after n (c.step i).state = (c.threads i).after (n + 1) c.state := by
  rcases c.step_cases i with ⟨a, ht, hstep⟩ | ⟨u, next, ht, hstep⟩
  · rw [hstep, ht]
    simp
  · rw [hstep, ht]
    simp

/-- The states that `j` meets, up to `R`. -/
theorem turns_undisturbed (hij : j ≠ i) (hthread : c'.threads i = c.threads i) (hi : (c.threads i).Respects R)
    (hothers : ∀ j, j ≠ i → (c.threads j).Within (Unseen R)) (hR : R c.state c'.state) (sched : List ι) :
    List.Forall₂ R (c.turns j sched) ((counts i j sched).map fun n => (c'.threads i).after n c'.state) := by
  induction sched generalizing c c' with
  | nil => exact .nil
  | cons k sched ih =>
    obtain ⟨hthread', hi', hothers', hR'⟩ := step_undisturbed hthread hi hothers hR k
    have hrest := ih hthread' hi' hothers' hR'
    by_cases hki : k = i
    · rw [if_pos hki] at hrest
      rw [turns, if_neg (hki ▸ hij.symm), counts, if_pos hki, List.map_map]
      simpa only [Function.comp_def, after_step] using hrest
    · rw [if_neg hki] at hrest
      by_cases hkj : k = j
      · rw [turns, if_pos hkj, counts, if_neg hki, if_pos hkj, List.map_cons, after_zero]
        exact .cons hR hrest
      · rw [turns, if_neg hkj, counts, if_neg hki, if_neg hkj]
        exact hrest

/-- **A reader beside a thread**: its `k`-th reading is of the state that the thread alone leaves
after the actions it has had by then. -/
theorem run_reads (hij : j ≠ i) (hi : (c.threads i).Respects R) (hj : (c.threads j).Respects R)
    (hothers : ∀ j, j ≠ i → (c.threads j).Within (Unseen R)) (hR : R c.state c.state) (sched : List ι) :
    (c.run sched).threads j =
      (c.threads j).feed ((counts i j sched).map fun n => (c.threads i).after n c.state) := by
  rw [run_threads]
  exact hj.feed (turns_undisturbed hij rfl hi hothers hR sched)

end Pool

end Atomics
