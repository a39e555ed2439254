import Mathlib.Data.List.Induction
import Replicat.Lib.Prog

/-!
# Concurrent programs

A `Pool` is a family of programs over one shared state. A schedule is the list of threads
in the order they act: each entry lets that thread perform its next action. A thread that
has not acted yet stands for a call that has not started, so a pool also covers calls that
start one after the other.
-/

namespace Atomics

structure Pool (ι σ : Type) (α : ι → Type) where
  threads : (i : ι) → Prog σ (α i)
  state : σ

namespace Pool

variable {ι σ : Type} {α : ι → Type} [DecidableEq ι]

/-- Thread `i` performs its next action; a finished thread does nothing. -/
def step (c : Pool ι σ α) (i : ι) : Pool ι σ α :=
  match c.threads i with
  | .ret _ => c
  | .act u n => ⟨Function.update c.threads i (n c.state), u c.state⟩

def run (c : Pool ι σ α) (sched : List ι) : Pool ι σ α := sched.foldl step c

@[simp] theorem run_nil (c : Pool ι σ α) : c.run [] = c := rfl

@[simp] theorem run_cons (c : Pool ι σ α) (i : ι) (sched : List ι) :
    c.run (i :: sched) = (c.step i).run sched := rfl

theorem run_append (c : Pool ι σ α) (s t : List ι) : c.run (s ++ t) = (c.run s).run t :=
  List.foldl_append ..

theorem step_ret {c : Pool ι σ α} {i : ι} {a : α i} (h : c.threads i = .ret a) :
    c.step i = c := by
  simp only [step, h]

theorem step_act {c : Pool ι σ α} {i : ι} {u : σ → σ} {n : σ → Prog σ (α i)}
    (h : c.threads i = .act u n) :
    c.step i = ⟨Function.update c.threads i (n c.state), u c.state⟩ := by
  simp only [step, h]

/-- What a thread does when it is scheduled: nothing once it has returned, else its next
action. -/
theorem step_cases (c : Pool ι σ α) (i : ι) :
    (∃ a, c.threads i = .ret a ∧ c.step i = c) ∨
    (∃ u n, c.threads i = .act u n ∧
      c.step i = ⟨Function.update c.threads i (n c.state), u c.state⟩) := by
  cases h : c.threads i with
  | ret a => exact .inl ⟨a, rfl, step_ret h⟩
  | act u n => exact .inr ⟨u, n, rfl, step_act h⟩

/-! ## What one thread meets -/

/-- The states in which thread `i` acts along the run. A finished thread still takes turns. -/
def turns (i : ι) : Pool ι σ α → List ι → List σ
  | _, [] => []
  | c, j :: sched => if j = i then c.state :: turns i (c.step j) sched else turns i (c.step j) sched

theorem step_threads_self (c : Pool ι σ α) (i : ι) :
    (c.step i).threads i = (c.threads i).feed [c.state] := by
  rcases c.step_cases i with ⟨a, ht, hst⟩ | ⟨u, n, ht, hst⟩
  · rw [hst, ht, Prog.feed_ret]
  · rw [hst, ht]
    simp

theorem step_threads_other (c : Pool ι σ α) {i j : ι} (h : j ≠ i) :
    (c.step j).threads i = c.threads i := by
  rcases c.step_cases j with ⟨a, -, hst⟩ | ⟨u, n, -, hst⟩
  · rw [hst]
  · rw [hst]
    simp [Ne.symm h]

/-- **What a thread has become** depends only on the states it met. -/
theorem run_threads (c : Pool ι σ α) (sched : List ι) (i : ι) :
    (c.run sched).threads i = (c.threads i).feed (c.turns i sched) := by
  induction sched generalizing c with
  | nil => simp [turns]
  | cons j sched ih =>
    rw [run_cons, ih]
    by_cases h : j = i
    · subst h
      rw [step_threads_self, ← Prog.feed_append]
      simp [turns]
    · rw [step_threads_other c h]
      simp [turns, h]

theorem length_turns (c : Pool ι σ α) (i : ι) (sched : List ι) : (c.turns i sched).length = sched.count i := by
  induction sched generalizing c with
  | nil => rfl
  | cons j sched ih =>
    by_cases h : j = i
    · subst h
      simp [turns, ih]
    · simp [turns, h, ih]

/-- The state moves by an action of the scheduled thread, or not at all. -/
theorem step_state {R : σ → σ → Prop} [Std.Refl R] {c : Pool ι σ α}
    (h : ∀ i, (c.threads i).Within R) (i : ι) :
    R c.state (c.step i).state ∧ ∀ j, ((c.step i).threads j).Within R := by
  rcases c.step_cases i with ⟨a, -, hst⟩ | ⟨u, n, ht, hst⟩
  · rw [hst]
    exact ⟨refl_of R _, h⟩
  · have hact : (Prog.act u n).Within R := ht ▸ h i
    cases hact with
    | act hu hn =>
      rw [hst]
      refine ⟨hu _, fun j => ?_⟩
      by_cases hij : j = i
      · subst hij
        simpa using hn c.state
      · simpa [hij] using h j

/-- What every action keeps holds in every state a thread meets. -/
theorem turns_keep {P : σ → Prop} {c : Pool ι σ α}
    (h : ∀ i, (c.threads i).Within (Prog.Keeps P)) (h0 : P c.state) (sched : List ι) (i : ι) :
    ∀ s ∈ c.turns i sched, P s := by
  induction sched generalizing c with
  | nil => simp [turns]
  | cons j sched ih =>
    obtain ⟨hkeep, hnext⟩ := step_state h j
    have hrest := ih hnext (hkeep h0)
    intro s hs
    unfold turns at hs
    split at hs
    · rcases List.mem_cons.mp hs with rfl | hs
      · exact h0
      · exact hrest s hs
    · exact hrest s hs

/-- Where the other threads leave the state, every state a thread meets is one that thread `i`
passes through when it runs alone. -/
theorem turns_along {P : σ → Prop} {c : Pool ι σ α} {i : ι} (h : Prog.Along P (c.threads i) c.state)
    (hothers : ∀ j, j ≠ i → (c.threads j).Within fun s t => P s → t = s) (sched : List ι) (k : ι) :
    ∀ s ∈ c.turns k sched, P s := by
  induction sched generalizing c with
  | nil => simp [turns]
  | cons j sched ih =>
    have hnext : Prog.Along P ((c.step j).threads i) (c.step j).state ∧
        ∀ j', j' ≠ i → ((c.step j).threads j').Within fun s t => P s → t = s := by
      rcases c.step_cases j with ⟨a, -, hst⟩ | ⟨u, n, ht, hst⟩
      · rw [hst]
        exact ⟨h, hothers⟩
      · by_cases hji : j = i
        · subst hji
          rw [ht] at h
          rw [hst]
          exact ⟨by simpa using (Prog.along_act.1 h).2, fun j' hj' => by simpa [hj'] using hothers j' hj'⟩
        · have hact := hothers j hji
          rw [ht] at hact
          cases hact with
          | act hu hn =>
            have hstate : u c.state = c.state := hu _ h.start
            rw [hst]
            refine ⟨by simpa [Ne.symm hji, hstate] using h, fun j' hj' => ?_⟩
            by_cases hjj : j' = j
            · subst hjj
              simpa using hn c.state
            · simpa [hjj] using hothers j' hj'
    have hrest := ih hnext.1 hnext.2
    intro s hs
    unfold turns at hs
    split at hs
    · rcases List.mem_cons.mp hs with rfl | hs
      · exact h.start
      · exact hrest s hs
    · exact hrest s hs

/-! ## Threads that rely on each other -/

/-- A program at a state: as long as the others move it along `R` and keep `I`, every action of
the program does so too, and what it has put out by its end and its result meet `Q`. -/
inductive Guarded {α γ : Type} (R : σ → σ → Prop) (I : σ → Prop) (out : σ → σ → List γ) :
    (List γ → α → Prop) → Prog σ α → σ → Prop where
  | ret {Q : List γ → α → Prop} {a : α} {s : σ} (hend : Q [] a) : Guarded R I out Q (.ret a) s
  | act {Q : List γ → α → Prop} {u : σ → σ} {n : σ → Prog σ α} {s : σ}
      (hact : ∀ t, R s t → I t → I (u t) ∧ R t (u t))
      (hnext : ∀ t, R s t → I t → Guarded R I out (fun sent a => Q (out t (u t) ++ sent) a) (n t) (u t)) :
      Guarded R I out Q (.act u n) s

section Guarded

variable {γ : Type} {R : σ → σ → Prop} {I : σ → Prop} {out : σ → σ → List γ}

/-- What the others do leaves a program guarded. -/
theorem Guarded.mono {α : Type} {Q : List γ → α → Prop} [IsTrans σ R] {p : Prog σ α} {s t : σ}
    (h : Guarded R I out Q p s) (hst : R s t) : Guarded R I out Q p t := by
  cases h with
  | ret hend => exact .ret hend
  | act hact hnext =>
    exact .act (fun t' ht' => hact t' (trans_of R hst ht')) fun t' ht' => hnext t' (trans_of R hst ht')

theorem Guarded.imp {α : Type} {Q Q' : List γ → α → Prop} {p : Prog σ α} {s : σ} (h : Guarded R I out Q p s)
    (hQ : ∀ sent a, Q sent a → Q' sent a) : Guarded R I out Q' p s := by
  induction h generalizing Q' with
  | ret hend => exact .ret (hQ _ _ hend)
  | act hact _ ih => exact .act hact fun t hst ht => ih t hst ht fun _ _ => hQ _ _

/-- An action that puts nothing out. -/
theorem Guarded.silent {α : Type} {Q : List γ → α → Prop} {u : σ → σ} {n : σ → Prog σ α} {s : σ}
    (hout : ∀ t, out t (u t) = []) (hact : ∀ t, R s t → I t → I (u t) ∧ R t (u t))
    (hnext : ∀ t, R s t → I t → Guarded R I out Q (n t) (u t)) : Guarded R I out Q (.act u n) s := by
  refine .act hact fun t hst ht => ?_
  rw [hout]
  exact hnext t hst ht

/-- **Threads that are each guarded** keep the invariant together and move the state along `R`, and
each ends as it is meant to. -/
theorem run_guarded {Q : ∀ i, List γ → α i → Prop} [Std.Refl R] [IsTrans σ R] {c : Pool ι σ α}
    (h : ∀ i, Guarded R I out (Q i) (c.threads i) c.state) (hI : I c.state) (sched : List ι) :
    I (c.run sched).state ∧ R c.state (c.run sched).state ∧
      ∀ i a, (c.run sched).threads i = .ret a → Q i ((c.threads i).emits out (c.turns i sched)) a := by
  induction sched generalizing c Q with
  | nil =>
    refine ⟨hI, refl_of R _, fun i a hret => ?_⟩
    have hi := h i
    rw [run_nil] at hret
    rw [hret] at hi ⊢
    cases hi with
    | ret hend => simpa [turns] using hend
  | cons j sched ih =>
    rw [run_cons]
    rcases c.step_cases j with ⟨a, ht, hstep⟩ | ⟨u, n, ht, hstep⟩
    · obtain ⟨hI', hR, hends⟩ := ih h hI
      rw [hstep]
      refine ⟨hI', hR, fun i b hret => ?_⟩
      by_cases hij : j = i
      · subst hij
        simpa [ht] using hends j b hret
      · simpa [turns, hij, hstep] using hends i b hret
    · have hj := h j
      rw [ht] at hj
      cases hj with
      | act hact hnext =>
        obtain ⟨hI', hR⟩ := hact c.state (refl_of R _) hI
        have hstate : (c.step j).state = u c.state := by rw [hstep]
        -- the thread goes on with what it has put out behind it
        have hthreads : ∀ i, Guarded R I out
            (fun sent a => Q i ((if j = i then out c.state (u c.state) else []) ++ sent) a)
            ((c.step j).threads i) (c.step j).state := by
          intro i
          rw [hstate]
          by_cases hij : j = i
          · subst hij
            rw [hstep]
            simpa using hnext c.state (refl_of R _) hI
          · rw [c.step_threads_other hij]
            simpa [hij] using (h i).mono hR
        obtain ⟨hend, hrun, hends⟩ := ih hthreads (hstate ▸ hI')
        rw [hstate] at hrun
        refine ⟨hend, trans_of R hR hrun, fun i a hret => ?_⟩
        have hi := hends i a hret
        by_cases hij : j = i
        · subst hij
          have hnext : (c.step j).threads j = n c.state := by rw [hstep]; simp
          rw [hnext] at hi
          simpa [turns, ht] using hi
        · rw [c.step_threads_other hij] at hi
          simpa [turns, hij] using hi

end Guarded

/-! ## What the threads put out -/

/-- **The output of a pool is the outputs of its threads**, each in its own order, interleaved. -/
theorem run_emits {γ : Type} {log : σ → List γ} {out : σ → σ → List γ} {c : Pool ι σ α}
    (h : ∀ i, (c.threads i).Within fun s t => log t = log s ++ out s t) (sched : List ι) :
    ∃ tagged : List (ι × γ), log (c.run sched).state = log c.state ++ tagged.map Prod.snd ∧
      ∀ i, (tagged.filter (·.1 = i)).map Prod.snd = (c.threads i).emits out (c.turns i sched) := by
  induction sched generalizing c with
  | nil => exact ⟨[], by simp, fun i => by simp [turns]⟩
  | cons j sched ih =>
    rw [run_cons]
    rcases c.step_cases j with ⟨a, ht, hstep⟩ | ⟨u, n, ht, hstep⟩
    · rw [hstep]
      obtain ⟨tagged, hlog, htagged⟩ := ih h
      refine ⟨tagged, hlog, fun i => (htagged i).trans ?_⟩
      by_cases hij : j = i
      · subst hij
        simp [ht]
      · simp [turns, hij, hstep]
    · have hj := h j
      rw [ht] at hj
      cases hj with
      | act hu hn =>
        have hthreads : ∀ i, ((c.step j).threads i).Within fun s t => log t = log s ++ out s t := by
          intro i
          by_cases hij : i = j
          · subst hij
            rw [hstep]
            simpa using hn c.state
          · rw [c.step_threads_other (Ne.symm hij)]
            exact h i
        obtain ⟨tagged, hlog, htagged⟩ := ih hthreads
        have hstate : (c.step j).state = u c.state := by rw [hstep]
        refine ⟨(out c.state (u c.state)).map (j, ·) ++ tagged, ?_, fun i => ?_⟩
        · rw [hlog, hstate, hu c.state]
          simp [Function.comp_def]
        · by_cases hij : j = i
          · subst hij
            have hnext : (c.step j).threads j = n c.state := by rw [hstep]; simp
            have hrest := htagged j
            rw [hnext] at hrest
            simp [turns, ht, List.filter_map, Function.comp_def, hrest]
          · have hrest := htagged i
            rw [c.step_threads_other hij] at hrest
            simp [turns, hij, List.filter_map, Function.comp_def, hrest]

/-! ## Threads of one action -/

/-- A program that has its result from the start, or acts once for it. -/
def oneShot {α : Type} : Except α (σ → α × σ) → Prog σ α
  | .error a => .ret a
  | .ok f => .atomic f

/-- What such a program does to the state. -/
def shot {α : Type} : Except α (σ → α × σ) → σ → σ
  | .error _, s => s
  | .ok f, s => (f s).2

/-- The state after these threads have acted, one after the other. -/
def settle (x : (i : ι) → Except (α i) (σ → α i × σ)) (order : List ι) (s : σ) : σ :=
  order.foldl (fun s i => shot (x i) s) s

omit [DecidableEq ι] in
theorem settle_concat {x : (i : ι) → Except (α i) (σ → α i × σ)} {order : List ι} {s : σ} {i : ι}
    {f : σ → α i × σ} (h : x i = .ok f) : settle x (order ++ [i]) s = (f (settle x order s)).2 := by
  unfold settle
  rw [List.foldl_append, List.foldl_cons, List.foldl_nil, h]
  rfl

/-- **Threads of one action act in some order**, under any schedule: each of them once or not yet,
in the state that those before it have left. -/
theorem run_oneShot (x : (i : ι) → Except (α i) (σ → α i × σ)) (s₀ : σ) (sched : List ι) :
    ∃ order : List ι, order.Nodup ∧
      ((⟨fun i => oneShot (x i), s₀⟩ : Pool ι σ α).run sched).state = settle x order s₀ ∧
      ∀ i, (i ∉ order ∧ ((⟨fun i => oneShot (x i), s₀⟩ : Pool ι σ α).run sched).threads i = oneShot (x i)) ∨
        ∃ before rest f, order = before ++ i :: rest ∧ x i = .ok f ∧
          ((⟨fun i => oneShot (x i), s₀⟩ : Pool ι σ α).run sched).threads i = .ret (f (settle x before s₀)).1 := by
  induction sched using List.reverseRecOn with
  | nil => exact ⟨[], .nil, rfl, fun i => .inl ⟨List.not_mem_nil, rfl⟩⟩
  | append_singleton sched j ih =>
    obtain ⟨order, hnodup, hstate, hthreads⟩ := ih
    rw [run_append, run_cons, run_nil]
    generalize (⟨fun i => oneShot (x i), s₀⟩ : Pool ι σ α).run sched = c at hstate hthreads
    rcases c.step_cases j with ⟨a, -, hstep⟩ | ⟨u, n, ht, hstep⟩
    · rw [hstep]
      exact ⟨order, hnodup, hstate, hthreads⟩
    · -- only a thread that has not acted can act
      obtain ⟨hnew, hj⟩ | ⟨_, _, _, -, -, hj⟩ := hthreads j
      · rw [ht] at hj
        rcases hx : x j with a | f <;> rw [hx] at hj <;> cases hj
        rw [hstep]
        refine ⟨order ++ [j], ?_, ?_, fun i => ?_⟩
        · refine List.nodup_append.2 ⟨hnodup, List.pairwise_singleton _ j, ?_⟩
          rintro a ha b hb rfl
          exact hnew (List.mem_singleton.1 hb ▸ ha)
        · rw [settle_concat hx, ← hstate]
        · by_cases hij : i = j
          · subst hij
            refine .inr ⟨order, [], f, rfl, hx, ?_⟩
            rw [← hstate]
            simp
          · have hother : (c.step j).threads i = c.threads i := c.step_threads_other (Ne.symm hij)
            rw [hstep] at hother
            rw [hother]
            rcases hthreads i with ⟨hi, hti⟩ | ⟨before, rest, g, rfl, hg, hti⟩
            · exact .inl ⟨by simp [hi, hij], hti⟩
            · exact .inr ⟨before, rest ++ [j], g, by simp, hg, hti⟩
      · rw [ht] at hj
        cases hj

end Pool

end Atomics
