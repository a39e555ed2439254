/-!
# Traces and simulations

A system moves from state to state by events, and a trace is the list of the events of a run.
A simulation between two systems answers each event of the one by the same event of the other,
so that every trace of the first is a trace of the second. What an event needs of the state it
comes in guards the system: `guard` keeps the steps that have it.
-/

namespace Atomics

variable {σ τ ε : Type}

structure Lts (σ ε : Type) where
  start : σ → Prop
  step : σ → ε → σ → Prop

namespace Lts

/-- A run with these events, to this state. -/
inductive Trace (M : Lts σ ε) : List ε → σ → Prop where
  | start {s : σ} : M.start s → Trace M [] s
  | step {es : List ε} {e : ε} {s s' : σ} : Trace M es s → M.step s e s' → Trace M (es ++ [e]) s'

/-- The events that are allowed in the state they come in. -/
def guard (M : Lts σ ε) (ok : σ → ε → Prop) : Lts σ ε := { M with step := fun s e s' => ok s e ∧ M.step s e s' }

/-- `N` does what `M` does, and the states stay related by `R`. -/
structure Simulation (M : Lts σ ε) (N : Lts τ ε) (R : σ → τ → Prop) : Prop where
  start : ∀ s, M.start s → ∃ t, N.start t ∧ R s t
  step : ∀ s e s' t, M.step s e s' → R s t → ∃ t', N.step t e t' ∧ R s' t'

section Runs

variable {M : Lts σ ε} {N : Lts τ ε} {ok : σ → ε → Prop} {R : σ → τ → Prop} {es : List ε} {s : σ}

/-- **Every trace is simulated.** -/
theorem Simulation.trace (h : Simulation M N R) (hrun : M.Trace es s) : ∃ t, N.Trace es t ∧ R s t := by
  induction hrun with
  | start hs =>
    obtain ⟨t, ht, hR⟩ := h.start _ hs
    exact ⟨t, .start ht, hR⟩
  | @step es e s s' _ hstep ih =>
    obtain ⟨t, ht, hR⟩ := ih
    obtain ⟨t', ht', hR'⟩ := h.step s e s' t hstep hR
    exact ⟨t', .step ht ht', hR'⟩

/-- A guard only takes traces away. -/
theorem Trace.of_guard (hrun : (M.guard ok).Trace es s) : M.Trace es s := by
  induction hrun with
  | start hs => exact .start hs
  | step _ hstep ih => exact .step ih hstep.2

/-- The system from this state on. -/
def resume (M : Lts σ ε) (s : σ) : Lts σ ε := { M with start := fun s' => s' = s }

theorem Simulation.resume (h : Simulation M N R) {t : τ} (hR : R s t) :
    Simulation (M.resume s) (N.resume t) R where
  start := by
    rintro s' rfl
    exact ⟨t, rfl, hR⟩
  step := h.step

/-- A narrower guard on the one side holds on the other as well, if it is one on related states. -/
theorem Simulation.guard (h : Simulation (M.guard ok) N R) {ok' : σ → ε → Prop} {okN : τ → ε → Prop}
    (hok : ∀ s e, ok' s e → ok s e) (hN : ∀ s t e, R s t → ok' s e → okN t e) :
    Simulation (M.guard ok') (N.guard okN) R where
  start := h.start
  step := by
    rintro s e s' t ⟨he, hstep⟩ hR
    obtain ⟨t', ht', hR'⟩ := h.step s e s' t ⟨hok s e he, hstep⟩ hR
    exact ⟨t', ⟨hN s t e hR he, ht'⟩, hR'⟩

/-- **Two systems that simulate each other have the same traces**, and end in related states. -/
theorem Simulation.trace_iff (h : Simulation M N R) (hback : Simulation N M fun t s => R s t)
    (hunique : ∀ {s t t'}, R s t → R s t' → t = t') {t : τ} :
    N.Trace es t ↔ ∃ s, M.Trace es s ∧ R s t := by
  constructor
  · exact hback.trace
  · rintro ⟨s, hrun, hR⟩
    obtain ⟨t', htrace, hR'⟩ := h.trace hrun
    obtain rfl := hunique hR hR'
    exact htrace

end Runs

end Lts

end Atomics
