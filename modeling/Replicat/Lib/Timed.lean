import Replicat.Lib.Pool

/-!
# A program observed against a clock

Two programs run concurrently: the *clock* performs a known list of actions, and the
*observed* program may read what the clock has done so far. `Timed B E p k Q` says what the
observed program returns in terms of the readings of the clock at each of its own actions:
`B n` is what holds after `n` actions of the clock, `E k` what the observed program knows
besides, in its ghost state `k`. `pair_run` turns it into a fact about every schedule.
-/

namespace Atomics

open Prog

/-- The two programs of a pair. -/
inductive Side where
  | observed
  | clock
  deriving DecidableEq, Repr

/-- What a program of the pair returns. -/
abbrev Side.Result (α β : Type) : Side → Type
  | .observed => α
  | .clock => β

variable {σ α β κ : Type}

def Pool.pair (p : Prog σ α) (q : Prog σ β) (s : σ) : Pool Side σ (Side.Result α β) where
  threads
    | .observed => p
    | .clock => q
  state := s

/-- The readings of the clock, starting from `n`, at the actions of the observed program. -/
def clockTimes : Nat → List Side → List Nat
  | _, [] => []
  | n, .clock :: sched => clockTimes (n + 1) sched
  | n, .observed :: sched => n :: clockTimes n sched

theorem le_of_mem_clockTimes {n t : Nat} {sched : List Side} (h : t ∈ clockTimes n sched) : n ≤ t := by
  induction sched generalizing n with
  | nil => cases h
  | cons side sched ih =>
    cases side with
    | clock => have := ih h; omega
    | observed =>
      rcases List.mem_cons.1 h with rfl | h
      · exact Nat.le_refl _
      · exact ih h

/-- The clock does not run backwards. -/
theorem clockTimes_pairwise (n : Nat) (sched : List Side) : (clockTimes n sched).Pairwise (· ≤ ·) := by
  induction sched generalizing n with
  | nil => exact .nil
  | cons side sched ih =>
    cases side with
    | clock => exact ih (n + 1)
    | observed => exact .cons (fun t ht => le_of_mem_clockTimes ht) (ih n)

theorem clockTimes_le {n i j a b : Nat} {sched : List Side} (hij : i < j)
    (ha : (clockTimes n sched)[i]? = some a) (hb : (clockTimes n sched)[j]? = some b) : a ≤ b := by
  obtain ⟨hi, rfl⟩ := List.getElem?_eq_some_iff.1 ha
  obtain ⟨hj, rfl⟩ := List.getElem?_eq_some_iff.1 hb
  exact List.pairwise_iff_getElem.1 (clockTimes_pairwise n sched) i j hi hj hij

/-- Whatever the clock does in between, the program returns a value that stands in `Q` to the
readings of the clock at its actions and to its last ghost state. -/
def Timed (B : Nat → σ → Prop) (E : κ → σ → Prop) :
    Prog σ α → κ → (List Nat → α → κ → Prop) → Prop
  | .ret a, k, Q => Q [] a k
  | .act u next, k, Q => ∀ n s, B n s → E k s → B n (u s) ∧
      ∃ k', E k' (u s) ∧ Timed B E (next s) k' fun ts a => Q (n :: ts) a

namespace Timed

variable {B : Nat → σ → Prop} {E : κ → σ → Prop} {k : κ}

theorem mono {p : Prog σ α} {Q Q' : List Nat → α → κ → Prop} (h : Timed B E p k Q)
    (hQ : ∀ ts a k, Q ts a k → Q' ts a k) : Timed B E p k Q' := by
  induction p generalizing k Q Q' with
  | ret a => exact hQ _ _ _ h
  | act u next ih =>
    intro n s hB hE
    obtain ⟨hB', k', hE', hnext⟩ := h n s hB hE
    exact ⟨hB', k', hE', ih s hnext fun ts a k => hQ (n :: ts) a k⟩

theorem bind {p : Prog σ α} {f : α → Prog σ β} {Q : List Nat → α → κ → Prop}
    {Q' : List Nat → β → κ → Prop} (h : Timed B E p k Q)
    (hf : ∀ ts a k, Q ts a k → Timed B E (f a) k fun ts' => Q' (ts ++ ts')) :
    Timed B E (p >>= f) k Q' := by
  induction p generalizing k Q Q' with
  | ret a => exact hf [] a k h
  | act u next ih =>
    intro n s hB hE
    obtain ⟨hB', k', hE', hnext⟩ := h n s hB hE
    exact ⟨hB', k', hE', ih s hnext fun ts a k hQ => hf (n :: ts) a k hQ⟩

/-- A straight-line program whose actions keep what is known. -/
theorem of_follows {p : Prog σ α} {ms : List (Move σ)} {Q : α → Prop} (h : p.Follows ms Q)
    (hms : ∀ m ∈ ms, ∀ n s, B n s → E k s → m.needs s ∧ B n (m.does s) ∧ E k (m.does s)) :
    Timed B E p k fun _ a k' => Q a ∧ k' = k := by
  induction h with
  | ret ha => exact ⟨ha, rfl⟩
  | @act u _ m _ _ hu _ ih =>
    intro n s hB hE
    obtain ⟨hs, hB', hE'⟩ := hms m List.mem_cons_self n s hB hE
    rw [hu s hs]
    exact ⟨hB', k, hE', ih s hs fun m hm => hms m (List.mem_cons_of_mem _ hm)⟩

theorem run_bind {ε : Type} {x : Fallible σ ε α} {f : α → Fallible σ ε β}
    {Q : List Nat → α → κ → Prop} {Q' : List Nat → Except ε β → κ → Prop}
    (h : Timed B E x.run k fun ts r k => ∃ a, r = .ok a ∧ Q ts a k)
    (hf : ∀ ts a k, Q ts a k → Timed B E (f a).run k fun ts' => Q' (ts ++ ts')) :
    Timed B E (x >>= f).run k Q' := by
  rw [ExceptT.run_bind]
  refine h.bind ?_
  rintro ts _ k ⟨a, rfl, ha⟩
  exact hf ts a k ha

theorem of_atomic {ε : Type} {g : σ → Except ε α × σ} {Q : List Nat → α → κ → Prop}
    (h : ∀ n s, B n s → E k s → ∃ a s' k', g s = (.ok a, s') ∧ B n s' ∧ E k' s' ∧ Q [n] a k') :
    Timed B E (ExceptT.mk (atomic g) : Fallible σ ε α).run k fun ts r k => ∃ a, r = .ok a ∧ Q ts a k := by
  intro n s hB hE
  obtain ⟨a, s', k', hg, hB', hE', hQ⟩ := h n s hB hE
  show B n (g s).2 ∧ ∃ k', E k' (g s).2 ∧ ∃ a, (g s).1 = .ok a ∧ Q [n] a k'
  rw [hg]
  exact ⟨hB', k', hE', a, rfl, hQ⟩

theorem of_liftAct {ε : Type} {g : σ → α × σ} {Q : List Nat → α → κ → Prop}
    (h : ∀ n s, B n s → E k s → ∃ k', B n (g s).2 ∧ E k' (g s).2 ∧ Q [n] (g s).1 k') :
    Timed B E (liftAct g : Fallible σ ε α).run k fun ts r k => ∃ a, r = .ok a ∧ Q ts a k := by
  refine of_atomic fun n s hB hE => ?_
  obtain ⟨k', hB', hE', hQ⟩ := h n s hB hE
  exact ⟨_, _, k', rfl, hB', hE', hQ⟩

theorem run_mapErr {ε ε' : Type} {g : ε → ε'} {x : Fallible σ ε α} {Q : List Nat → α → κ → Prop}
    (h : Timed B E x.run k fun ts r k => ∃ a, r = .ok a ∧ Q ts a k) :
    Timed B E (mapErr g x).run k fun ts r k => ∃ a, r = .ok a ∧ Q ts a k := by
  refine h.bind ?_
  rintro ts _ k ⟨a, rfl, ha⟩
  exact ⟨a, rfl, by rwa [List.append_nil]⟩

/-- Run alone, the observed program finds the clock standing still. -/
theorem exec {p : Prog σ α} {Q : List Nat → α → κ → Prop} (h : Timed B E p k Q) {n : Nat} {s : σ}
    (hB : B n s) (hE : E k s) : ∃ ts k', Q ts (p.exec s).1 k' := by
  induction p generalizing k Q s with
  | ret a => exact ⟨[], k, h⟩
  | act u next ih =>
    obtain ⟨hB', k', hE', hnext⟩ := h n s hB hE
    obtain ⟨ts, k'', hQ⟩ := ih s hnext hB' hE'
    exact ⟨n :: ts, k'', hQ⟩

end Timed

/-! ## Every schedule -/

namespace Pool

theorem run_of_ret {ι : Type} {γ : ι → Type} [DecidableEq ι] {c : Pool ι σ γ} {i : ι} {a : γ i}
    (h : c.threads i = .ret a) (sched : List ι) : (c.run sched).threads i = .ret a := by
  induction sched generalizing c with
  | nil => exact h
  | cons j sched ih =>
    refine ih ?_
    rcases c.step_cases j with ⟨_, -, hstep⟩ | ⟨u, n, hj, hstep⟩
    · rw [hstep]; exact h
    · have hne : i ≠ j := by
        rintro rfl
        rw [h] at hj
        cases hj
      rw [hstep]
      simpa [hne] using h

theorem step_pair_observed {p : Prog σ α} {q : Prog σ β} {s : σ} {u : σ → σ} {next : σ → Prog σ α}
    (hp : p = .act u next) : (pair p q s).step .observed = pair (next s) q (u s) := by
  subst hp
  have hthreads : Function.update (pair (.act u next) q s).threads .observed (next s) =
      (pair (next s) q (u s)).threads := by
    funext side
    cases side <;> rfl
  exact (step_act rfl).trans (congrArg (Pool.mk · (u s)) hthreads)

theorem step_pair_clock {p : Prog σ α} {q : Prog σ β} {s : σ} {u : σ → σ} {next : σ → Prog σ β}
    (hq : q = .act u next) : (pair p q s).step .clock = pair p (next s) (u s) := by
  subst hq
  have hthreads : Function.update (pair p (.act u next) s).threads .clock (next s) =
      (pair p (next s) (u s)).threads := by
    funext side
    cases side <;> rfl
  exact (step_act rfl).trans (congrArg (Pool.mk · (u s)) hthreads)

/-- **Every schedule of the pair**: once the observed program has returned, its value stands
in `Q` to the readings of the clock at its actions. -/
theorem pair_run {B : Nat → σ → Prop} {E : κ → σ → Prop} {ms : List (Move σ)} {Q' : β → Prop}
    (hstep : ∀ n m, ms[n]? = some m → ∀ k s, B n s → E k s →
      m.needs s ∧ B (n + 1) (m.does s) ∧ E k (m.does s))
    (hdone : ∀ n, ms[n]? = none → ∀ s, B n s → B (n + 1) s)
    (sched : List Side) {n : Nat} {k : κ} {p : Prog σ α} {q : Prog σ β} {s : σ}
    {Q : List Nat → α → κ → Prop} (hB : B n s) (hE : E k s) (hp : Timed B E p k Q)
    (hq : q.Follows (ms.drop n) Q') {a : α}
    (hret : ((pair p q s).run sched).threads .observed = .ret a) :
    ∃ ts k', ts <+: clockTimes n sched ∧ Q ts a k' := by
  induction sched generalizing n k p q s Q with
  | nil =>
    have hpa : p = .ret a := hret
    subst hpa
    exact ⟨[], k, List.nil_prefix, hp⟩
  | cons side sched ih =>
    rw [run_cons] at hret
    cases side with
    | clock =>
      generalize hms : ms.drop n = ms' at hq
      cases hq with
      | ret hb =>
        have hB' := hdone n (List.getElem?_eq_none (List.drop_eq_nil_iff.1 hms)) s hB
        rw [step_ret (i := Side.clock) rfl] at hret
        refine ih hB' hE hp ?_ hret
        rw [← List.drop_drop, hms]
        exact .ret hb
      | @act u next m ms' _ hu hnext =>
        have hm : ms[n]? = some m := by
          rw [← List.head?_drop, hms]
          rfl
        obtain ⟨hs, hB', hE'⟩ := hstep n m hm k s hB hE
        rw [step_pair_clock rfl, hu s hs] at hret
        refine ih hB' hE' hp ?_ hret
        rw [← List.drop_drop, hms]
        exact hnext s hs
    | observed =>
      cases p with
      | ret b =>
        have hsame := run_of_ret (c := pair (.ret b) q s) (i := .observed) rfl (.observed :: sched)
        rw [run_cons, hret] at hsame
        cases hsame
        exact ⟨[], k, List.nil_prefix, hp⟩
      | act u next =>
        obtain ⟨hB', k', hE', hnext⟩ := hp n s hB hE
        rw [step_pair_observed rfl] at hret
        obtain ⟨ts, k'', hts, hQ⟩ := ih hB' hE' hnext hq hret
        exact ⟨n :: ts, k'', (List.prefix_cons_inj n).2 hts, hQ⟩

theorem pair_eta (c : Pool Side σ (Side.Result α β)) :
    pair (c.threads .observed) (c.threads .clock) c.state = c := by
  have hthreads : (pair (c.threads .observed) (c.threads .clock) c.state).threads = c.threads := by
    funext side
    cases side <;> rfl
  exact congrArg (Pool.mk · c.state) hthreads

/-- Scheduled alone for long enough, the observed program returns. -/
theorem exists_run_observed (c : Pool Side σ (Side.Result α β)) :
    ∃ m a, (c.run (List.replicate m .observed)).threads .observed = .ret a := by
  rw [← pair_eta c]
  generalize c.threads .observed = p, c.state = s
  induction p generalizing s with
  | ret a => exact ⟨0, a, rfl⟩
  | act u next ih =>
    obtain ⟨m, a, hm⟩ := ih s (u s)
    refine ⟨m + 1, a, ?_⟩
    rw [List.replicate_succ, run_cons, step_pair_observed rfl]
    exact hm

end Pool

/-- The clock runs for a while, then stands still. -/
theorem clockTimes_burst (k n m : Nat) :
    clockTimes k (List.replicate n .clock ++ List.replicate m .observed) =
      List.replicate m (k + n) := by
  induction n generalizing k with
  | zero =>
    induction m with
    | zero => rfl
    | succ m ih => exact congrArg (List.cons k) ih
  | succ n ih => exact (ih (k + 1)).trans (by rw [Nat.add_right_comm, Nat.add_assoc])

end Atomics
