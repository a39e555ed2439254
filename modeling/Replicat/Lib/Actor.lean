import Mathlib.Data.List.Nodup
import Mathlib.Logic.Function.Basic
import Mathlib.Logic.Relation

/-!
# Tasks on a thread of their own

One thread owns a state and runs the tasks it receives over a bounded channel. A call sends its
task through a handle and waits for the reply on a channel of its own; a handle may be cloned,
and dropped once no call borrows it; a call may be abandoned. `Actor.Step` is one step of any of
the parties, so runs cover every interleaving. `Actor.Consistent` holds in every state reached,
and what follows from it says that the actor is linearizable in the order of acceptance.
-/

namespace Atomics

/-- Where a call is. -/
inductive Phase (H α : Type) where
  | unborn
  /-- Waiting for room in the channel. -/
  | sending (handle : H)
  /-- Waiting for the reply. -/
  | waiting (handle : H)
  | returned (a : α)
  | abandoned

/-- The call is under way and borrows this handle. -/
def Phase.Borrows {H α : Type} (p : Phase H α) (h : H) : Prop := p = .sending h ∨ p = .waiting h

/-- What the thread does. -/
inductive Worker (ι : Type) (R : ι → Type) where
  | idle
  | running (k : ι)
  | replying (k : ι) (r : R k)
  | ended

namespace Worker

variable {ι : Type} {R : ι → Type}

/-- The task that was received and has yet to run. -/
def holding : Worker ι R → List ι
  | running k => [k]
  | _ => []

/-- The steps the thread has yet to make before it ends, its channel apart. -/
def toEnd : Worker ι R → Nat
  | running _ => 3
  | replying _ _ => 2
  | idle => 1
  | ended => 0

end Worker

/-- The calls are named by `ι`, and the call `k` is answered with a value of `R k`. -/
structure Actor (ι H σ : Type) (R : ι → Type) where
  state : σ
  worker : Worker ι R
  /-- The channel of the tasks. -/
  queue : List ι
  phase : (k : ι) → Phase H (R k)
  /-- The reply channels. -/
  reply : (k : ι) → Option (R k)
  live : H → Bool
  /-- The calls whose task was put in the channel, in order. -/
  accepted : List ι
  /-- The tasks that have run, in order, and their results. -/
  ran : List (Σ k, R k)

namespace Actor

variable {ι H σ : Type} {R : ι → Type} [DecidableEq ι] [DecidableEq H]

/-- A thread just spawned, with one handle. -/
def spawned (s : σ) (h : H) : Actor ι H σ R where
  state := s
  worker := .idle
  queue := []
  phase _ := .unborn
  reply _ := none
  live := Function.update (fun _ => false) h true
  accepted := []
  ran := []

/-- One step of a caller, of the owner of a handle, or of the thread. -/
inductive Step (task : (k : ι) → σ → σ × R k) (capacity : Nat) : Actor ι H σ R → Actor ι H σ R → Prop where
  | clone {c h h'} : c.live h = true → c.live h' = false →
      Step task capacity c { c with live := Function.update c.live h' true }
  | drop {c h} : c.live h = true → (∀ k, ¬ (c.phase k).Borrows h) →
      Step task capacity c { c with live := Function.update c.live h false }
  | start {c k h} : c.phase k = .unborn → c.live h = true →
      Step task capacity c { c with phase := Function.update c.phase k (.sending h) }
  | send {c k h} : c.phase k = .sending h → c.queue.length < capacity → c.worker ≠ .ended →
      Step task capacity c { c with
        phase := Function.update c.phase k (.waiting h)
        queue := c.queue ++ [k]
        accepted := c.accepted ++ [k] }
  | abandon {c k h} : (c.phase k).Borrows h →
      Step task capacity c { c with phase := Function.update c.phase k .abandoned }
  | recv {c k rest} : c.worker = .idle → c.queue = k :: rest →
      Step task capacity c { c with worker := .running k, queue := rest }
  | run {c k} : c.worker = .running k →
      Step task capacity c { c with
        state := (task k c.state).1
        worker := .replying k (task k c.state).2
        ran := c.ran ++ [⟨k, (task k c.state).2⟩] }
  -- Nobody looks at the reply of an abandoned call.
  | answer {c k r} : c.worker = .replying k r →
      Step task capacity c { c with worker := .idle, reply := Function.update c.reply k (some r) }
  | return {c k h r} : c.phase k = .waiting h → c.reply k = some r →
      Step task capacity c { c with
        phase := Function.update c.phase k (.returned r)
        reply := Function.update c.reply k none }
  | finish {c} : c.worker = .idle → c.queue = [] → (∀ h, c.live h = false) →
      Step task capacity c { c with worker := .ended }

/-- Any number of steps. -/
def Steps (task : (k : ι) → σ → σ × R k) (capacity : Nat) : Actor ι H σ R → Actor ι H σ R → Prop :=
  Relation.ReflTransGen (Step task capacity)

/-! ## The tasks one after the other -/

section Sequential

variable (task : (k : ι) → σ → σ × R k)

/-- The state after these tasks. -/
def stateAfter (s : σ) (ks : List ι) : σ := ks.foldl (fun s k => (task k s).1) s

/-- These tasks with their results, each on the state that the tasks before it left. -/
def outcomes : σ → List ι → List (Σ k, R k)
  | _, [] => []
  | s, k :: ks => ⟨k, (task k s).2⟩ :: outcomes (task k s).1 ks

omit [DecidableEq ι] in
theorem stateAfter_concat (s : σ) (ks : List ι) (k : ι) :
    stateAfter task s (ks ++ [k]) = (task k (stateAfter task s ks)).1 := List.foldl_append ..

omit [DecidableEq ι] in
theorem outcomes_concat (s : σ) (ks : List ι) (k : ι) :
    outcomes task s (ks ++ [k]) = outcomes task s ks ++ [⟨k, (task k (stateAfter task s ks)).2⟩] := by
  induction ks generalizing s with
  | nil => rfl
  | cons j ks ih => exact congrArg (⟨j, (task j s).2⟩ :: ·) (ih _)

variable {task} in
omit [DecidableEq ι] in
theorem mem_outcomes {s : σ} {ks : List ι} {k : ι} {r : R k} (h : ⟨k, r⟩ ∈ outcomes task s ks) :
    ∃ before after, ks = before ++ k :: after ∧ r = (task k (stateAfter task s before)).2 := by
  induction ks generalizing s with
  | nil => cases h
  | cons j ks ih =>
    rcases List.mem_cons.1 h with heq | htail
    · cases heq
      exact ⟨[], ks, rfl, rfl⟩
    · obtain ⟨before, after, rfl, hr⟩ := ih htail
      exact ⟨j :: before, after, rfl, hr⟩

end Sequential

/-! ## The invariant -/

/-- What holds of every state that is reached from `spawned s₀ h`. -/
structure Consistent (task : (k : ι) → σ → σ × R k) (capacity : Nat) (s₀ : σ) (c : Actor ι H σ R) : Prop where
  /-- The accepted tasks have run, or are being run, or are in the channel. -/
  order : c.accepted = c.ran.map Sigma.fst ++ (c.worker.holding ++ c.queue)
  nodup : c.accepted.Nodup
  fresh : ∀ k, (c.phase k = .unborn ∨ ∃ h, c.phase k = .sending h) → k ∉ c.accepted
  results : c.ran = outcomes task s₀ (c.ran.map Sigma.fst)
  state : c.state = stateAfter task s₀ (c.ran.map Sigma.fst)
  replying : ∀ k r, c.worker = .replying k r → ⟨k, r⟩ ∈ c.ran
  replied : ∀ k r, c.reply k = some r → ⟨k, r⟩ ∈ c.ran
  returned : ∀ k r, c.phase k = .returned r → ⟨k, r⟩ ∈ c.ran
  bounded : c.queue.length ≤ capacity
  borrowed : ∀ k h, (c.phase k).Borrows h → c.live h = true
  ended : c.worker = .ended → c.queue = [] ∧ ∀ h, c.live h = false
  /-- The task of a call that waits is on its way. -/
  pending : ∀ k h, c.phase k = .waiting h →
    k ∈ c.worker.holding ++ c.queue ∨ (∃ r, c.worker = .replying k r) ∨ ∃ r, c.reply k = some r

section Invariant

variable {task : (k : ι) → σ → σ × R k} {capacity : Nat} {s₀ : σ} {c c' : Actor ι H σ R}

omit [DecidableEq ι] in
theorem consistent_spawned (h : H) : Consistent task capacity s₀ (spawned s₀ h : Actor ι H σ R) where
  order := rfl
  nodup := List.nodup_nil
  fresh _ _ hmem := nomatch hmem
  results := rfl
  state := rfl
  replying _ _ hw := nomatch hw
  replied _ _ hr := nomatch hr
  returned _ _ hp := nomatch hp
  bounded := Nat.zero_le _
  borrowed _ _ hb := by rcases hb with hb | hb <;> cases hb
  ended hw := nomatch hw
  pending _ _ hp := nomatch hp

omit [DecidableEq ι] [DecidableEq H] in
/-- A change of the handles. -/
theorem Consistent.handles (hc : Consistent task capacity s₀ c) {live : H → Bool}
    (hborrowed : ∀ k h, (c.phase k).Borrows h → live h = true)
    (hended : c.worker = .ended → ∀ h, live h = false) :
    Consistent task capacity s₀ { c with live } :=
  { hc with
    borrowed := hborrowed
    ended := fun hw => ⟨(hc.ended hw).1, hended hw⟩ }

omit [DecidableEq H] in
theorem forall_phase {P : (j : ι) → Phase H (R j) → Prop} {k : ι} {p : Phase H (R k)} (hk : P k p)
    (h : ∀ j, j ≠ k → P j (c.phase j)) : ∀ j, P j (Function.update c.phase k p j) :=
  (Function.forall_update_iff _ P).2 ⟨hk, h⟩

omit [DecidableEq H] in
/-- A call goes on, while the thread and its channel stay. -/
theorem Consistent.call (hc : Consistent task capacity s₀ c) {k : ι} {p : Phase H (R k)}
    (hfresh : (p = .unborn ∨ ∃ h, p = .sending h) → k ∉ c.accepted)
    (hreturned : ∀ r, p = .returned r → ⟨k, r⟩ ∈ c.ran)
    (hborrowed : ∀ h, p.Borrows h → c.live h = true) (hwaiting : ∀ h, p ≠ .waiting h) :
    Consistent task capacity s₀ { c with phase := Function.update c.phase k p } :=
  { hc with
    fresh := forall_phase (P := fun j p => (p = .unborn ∨ ∃ h, p = .sending h) → j ∉ c.accepted)
      hfresh fun j _ => hc.fresh j
    returned := forall_phase (P := fun j p => ∀ r, p = .returned r → ⟨j, r⟩ ∈ c.ran)
      hreturned fun j _ => hc.returned j
    borrowed := forall_phase (P := fun _ p => ∀ h, p.Borrows h → c.live h = true)
      hborrowed fun j _ => hc.borrowed j
    pending := forall_phase (P := fun j p => ∀ h, p = .waiting h → j ∈ c.worker.holding ++ c.queue ∨
        (∃ r, c.worker = .replying j r) ∨ ∃ r, c.reply j = some r)
      (fun h hp => absurd hp (hwaiting h)) fun j _ => hc.pending j }

omit [DecidableEq H] in
/-- A task is put in the channel. -/
theorem Consistent.send (hc : Consistent task capacity s₀ c) {k : ι} {h : H} (hk : c.phase k = .sending h)
    (hroom : c.queue.length < capacity) (hworker : c.worker ≠ .ended) :
    Consistent task capacity s₀ { c with
      phase := Function.update c.phase k (.waiting h)
      queue := c.queue ++ [k]
      accepted := c.accepted ++ [k] } := by
  have hnew : k ∉ c.accepted := hc.fresh k (.inr ⟨h, hk⟩)
  exact { hc with
    order := by
      simp only [hc.order, List.append_assoc]
    nodup := List.nodup_append.2 ⟨hc.nodup, List.nodup_singleton k, fun j hj i hi hij => by
      rw [List.mem_singleton.1 hi] at hij
      exact hnew (hij ▸ hj)⟩
    fresh := forall_phase
      (P := fun j p => (p = .unborn ∨ ∃ h, p = .sending h) → j ∉ c.accepted ++ [k])
      (fun hp => by rcases hp with hp | ⟨h, hp⟩ <;> cases hp) fun j hjk hp hj => by
        rcases List.mem_append.1 hj with hj | hj
        · exact hc.fresh j hp hj
        · exact hjk (List.mem_singleton.1 hj)
    returned := forall_phase (P := fun j p => ∀ r, p = .returned r → ⟨j, r⟩ ∈ c.ran)
      (fun _ hp => by cases hp) fun j _ => hc.returned j
    bounded := by
      show (c.queue ++ [k]).length ≤ capacity
      rw [List.length_append]
      exact hroom
    borrowed := forall_phase (P := fun _ p => ∀ h, p.Borrows h → c.live h = true)
      (fun h' hp => by
        rcases hp with hp | hp <;> cases hp
        exact hc.borrowed k h (.inl hk)) fun j _ => hc.borrowed j
    ended := fun hw => absurd hw hworker
    pending := forall_phase (P := fun j p => ∀ h, p = .waiting h → j ∈ c.worker.holding ++ (c.queue ++ [k]) ∨
        (∃ r, c.worker = .replying j r) ∨ ∃ r, c.reply j = some r)
      (fun _ _ => .inl (by simp)) fun j _ h hp => (hc.pending j h hp).imp_left fun hj => by
        rw [← List.append_assoc]
        exact List.mem_append_left _ hj }

omit [DecidableEq ι] [DecidableEq H] in
/-- The thread takes the next task. -/
theorem Consistent.recv (hc : Consistent task capacity s₀ c) {k : ι} {rest : List ι} (hidle : c.worker = .idle)
    (hqueue : c.queue = k :: rest) :
    Consistent task capacity s₀ { c with worker := .running k, queue := rest } :=
  { hc with
    order := by
      rw [hc.order, hidle, hqueue]
      rfl
    replying := fun _ _ hw => by cases hw
    bounded := by
      have hbounded := hc.bounded
      rw [hqueue] at hbounded
      exact Nat.le_of_succ_le hbounded
    ended := fun hw => by cases hw
    pending := fun j h hj => by
      rcases hc.pending j h hj with hmem | ⟨r, hr⟩ | hr
      · rw [hidle, hqueue] at hmem
        exact .inl hmem
      · rw [hidle] at hr
        cases hr
      · exact .inr (.inr hr) }

omit [DecidableEq ι] [DecidableEq H] in
/-- The thread runs a task. -/
theorem Consistent.run (hc : Consistent task capacity s₀ c) {k : ι} (hk : c.worker = .running k) :
    Consistent task capacity s₀ { c with
      state := (task k c.state).1
      worker := .replying k (task k c.state).2
      ran := c.ran ++ [⟨k, (task k c.state).2⟩] } := by
  have hmap : (c.ran ++ [(⟨k, (task k c.state).2⟩ : Σ k, R k)]).map Sigma.fst = c.ran.map Sigma.fst ++ [k] :=
    List.map_append
  have hold : ∀ {x : Σ k, R k}, x ∈ c.ran → x ∈ c.ran ++ [⟨k, (task k c.state).2⟩] :=
    fun hx => List.mem_append_left _ hx
  exact { hc with
    order := by
      simp only [hmap, hc.order, hk, Worker.holding, List.append_assoc, List.nil_append]
    results := by
      simp only [hmap, outcomes_concat, ← hc.results, ← hc.state]
    state := by
      simp only [hmap, stateAfter_concat, ← hc.state]
    replying := fun j r hw => by
      cases hw
      exact List.mem_append_right _ (List.mem_singleton_self _)
    replied := fun j r hr => hold (hc.replied j r hr)
    returned := fun j r hr => hold (hc.returned j r hr)
    ended := fun hw => by cases hw
    pending := fun j h hj => by
      rcases hc.pending j h hj with hmem | ⟨r, hr⟩ | hr
      · rw [hk] at hmem
        rcases List.mem_cons.1 hmem with rfl | hmem
        · exact .inr (.inl ⟨_, rfl⟩)
        · exact .inl hmem
      · rw [hk] at hr
        cases hr
      · exact .inr (.inr hr) }

omit [DecidableEq H] in
/-- The thread sends a reply. -/
theorem Consistent.answer (hc : Consistent task capacity s₀ c) {k : ι} {r : R k} (hk : c.worker = .replying k r) :
    Consistent task capacity s₀ { c with worker := .idle, reply := Function.update c.reply k (some r) } :=
  { hc with
    order := by
      rw [hc.order, hk]
      rfl
    replying := fun _ _ hw => by cases hw
    replied := (Function.forall_update_iff c.reply fun j o => ∀ r, o = some r → ⟨j, r⟩ ∈ c.ran).2
      ⟨fun _ hr => Option.some.inj hr ▸ hc.replying k r hk, fun j _ => hc.replied j⟩
    ended := fun hw => by cases hw
    pending := fun j h hj => by
      by_cases hjk : j = k
      · subst hjk
        exact .inr (.inr ⟨r, Function.update_self ..⟩)
      · rcases hc.pending j h hj with hmem | ⟨r', hr⟩ | ⟨r', hr⟩
        · rw [hk] at hmem
          exact .inl hmem
        · rw [hk] at hr
          cases hr
          exact absurd rfl hjk
        · exact .inr (.inr ⟨r', (Function.update_of_ne hjk ..).trans hr⟩) }

omit [DecidableEq H] in
/-- A call takes its reply. -/
theorem Consistent.return (hc : Consistent task capacity s₀ c) {k : ι} {r : R k} (hr : c.reply k = some r) :
    Consistent task capacity s₀ { c with
      phase := Function.update c.phase k (.returned r)
      reply := Function.update c.reply k none } := by
  have hran : ⟨k, r⟩ ∈ c.ran := hc.replied k r hr
  have haccepted : k ∈ c.accepted := by
    rw [hc.order]
    exact List.mem_append_left _ (List.mem_map_of_mem hran)
  have hcall : Consistent task capacity s₀ { c with phase := Function.update c.phase k (.returned r) } :=
    hc.call (fun hp => by rcases hp with hp | ⟨h, hp⟩ <;> cases hp) (fun r' hp => by cases hp; exact hran)
      (fun h hp => by rcases hp with hp | hp <;> cases hp) fun h hp => by cases hp
  exact { hcall with
    replied := (Function.forall_update_iff c.reply fun j o => ∀ r, o = some r → ⟨j, r⟩ ∈ c.ran).2
      ⟨fun r' (hr : none = some r') => (nomatch hr), fun j _ => hc.replied j⟩
    pending := forall_phase (P := fun j p => ∀ h, p = .waiting h → j ∈ c.worker.holding ++ c.queue ∨
        (∃ r, c.worker = .replying j r) ∨ ∃ r, Function.update c.reply k none j = some r)
      (fun h hp => by cases hp) fun j hjk h hp => by
        rw [Function.update_of_ne hjk]
        exact hc.pending j h hp }

omit [DecidableEq ι] [DecidableEq H] in
theorem Consistent.finish (hc : Consistent task capacity s₀ c) (hidle : c.worker = .idle) (hqueue : c.queue = [])
    (hlive : ∀ h, c.live h = false) : Consistent task capacity s₀ { c with worker := .ended } :=
  { hc with
    order := by
      rw [hc.order, hidle]
      rfl
    replying := fun _ _ hw => by cases hw
    ended := fun _ => ⟨hqueue, hlive⟩
    pending := fun j h hj => by
      have hborrowed := hc.borrowed j h (.inr hj)
      rw [hlive] at hborrowed
      cases hborrowed }

/-- **One step.** -/
theorem Consistent.step (hc : Consistent task capacity s₀ c) (hstep : Step task capacity c c') :
    Consistent task capacity s₀ c' := by
  cases hstep with
  | @clone h h' hlive hnew =>
    refine hc.handles (fun k i hi => ?_) fun hw => ?_
    · by_cases heq : i = h'
      · rw [heq, Function.update_self]
      · rw [Function.update_of_ne heq]
        exact hc.borrowed k i hi
    · rw [(hc.ended hw).2] at hlive
      cases hlive
  | @drop h _ hfree =>
    refine hc.handles (fun k i hi => ?_) fun hw i => ?_
    · have hne : i ≠ h := fun heq => hfree k (heq ▸ hi)
      rw [Function.update_of_ne hne]
      exact hc.borrowed k i hi
    · by_cases heq : i = h
      · rw [heq, Function.update_self]
      · rw [Function.update_of_ne heq]
        exact (hc.ended hw).2 i
  | @start k h hk hlive =>
    refine hc.call (fun _ => hc.fresh k (.inl hk)) (fun r hp => by cases hp) (fun i hp => ?_) fun i hp => by cases hp
    rcases hp with hp | hp <;> cases hp
    exact hlive
  | send hk hroom hworker => exact hc.send hk hroom hworker
  | abandon =>
    exact hc.call (fun hp => by rcases hp with hp | ⟨h, hp⟩ <;> cases hp) (fun r hp => by cases hp)
      (fun h hp => by rcases hp with hp | hp <;> cases hp) fun h hp => by cases hp
  | recv hidle hqueue => exact hc.recv hidle hqueue
  | run hk => exact hc.run hk
  | answer hk => exact hc.answer hk
  | «return» _ hr => exact hc.return hr
  | finish hidle hqueue hlive => exact hc.finish hidle hqueue hlive

/-- **Every run.** -/
theorem Consistent.steps (hc : Consistent task capacity s₀ c) (hrun : Steps task capacity c c') :
    Consistent task capacity s₀ c' := by
  induction hrun with
  | refl => exact hc
  | tail _ hstep ih => exact ih.step hstep

end Invariant

/-! ## What a caller may rely on -/

section Linearizable

variable {task : (k : ι) → σ → σ × R k} {capacity : Nat} {s₀ : σ} {c c' : Actor ι H σ R}

omit [DecidableEq H] in
/-- **A call that has returned** ran once, and got the result of its task on the state that the
tasks accepted before it left. -/
theorem Consistent.returned_once (hc : Consistent task capacity s₀ c) {k : ι} {r : R k}
    (hk : c.phase k = .returned r) :
    (c.ran.map Sigma.fst).count k = 1 ∧
      ∃ before after, c.accepted = before ++ k :: after ∧ r = (task k (stateAfter task s₀ before)).2 := by
  have hran : ⟨k, r⟩ ∈ c.ran := hc.returned k r hk
  have hnodup : (c.ran.map Sigma.fst).Nodup := by
    have hall := hc.nodup
    rw [hc.order] at hall
    exact (List.nodup_append.1 hall).1
  refine ⟨List.count_eq_one_of_mem hnodup (List.mem_map_of_mem hran), ?_⟩
  rw [hc.results] at hran
  obtain ⟨before, after, hsplit, hr⟩ := mem_outcomes hran
  refine ⟨before, after ++ (c.worker.holding ++ c.queue), ?_, hr⟩
  rw [hc.order, hsplit, List.append_assoc, List.cons_append]

/-- What was accepted stays, in its place. -/
theorem accepted_step (hstep : Step task capacity c c') : ∃ new, c'.accepted = c.accepted ++ new := by
  cases hstep with
  | @send k => exact ⟨[k], rfl⟩
  | _ => exact ⟨[], (List.append_nil _).symm⟩

theorem accepted_steps (hrun : Steps task capacity c c') : ∃ new, c'.accepted = c.accepted ++ new := by
  induction hrun with
  | refl => exact ⟨[], (List.append_nil _).symm⟩
  | tail _ hstep ih =>
    obtain ⟨old, hold⟩ := ih
    obtain ⟨new, hnew⟩ := accepted_step hstep
    exact ⟨old ++ new, by rw [hnew, hold, List.append_assoc]⟩

/-- **Real time**: a call that starts after another has returned is accepted after it. -/
theorem Consistent.in_real_time (hc : Consistent task capacity s₀ c) {k k' : ι} {r : R k}
    (hk : c.phase k = .returned r) (hk' : c.phase k' = .unborn) (hrun : Steps task capacity c c')
    (haccepted : k' ∈ c'.accepted) :
    ∃ before between after, c'.accepted = before ++ k :: (between ++ k' :: after) := by
  obtain ⟨new, hnew⟩ := accepted_steps hrun
  obtain ⟨-, before, between, hsplit, -⟩ := hc.returned_once hk
  have hlater : k' ∈ new := by
    rw [hnew] at haccepted
    exact (List.mem_append.1 haccepted).resolve_left (hc.fresh k' (.inl hk'))
  obtain ⟨s, t, rfl⟩ := List.append_of_mem hlater
  exact ⟨before, between ++ s, t, by rw [hnew, hsplit]; simp⟩

omit [DecidableEq ι] [DecidableEq H] in
/-- A thread that has ended has run every accepted task. -/
theorem Consistent.ended_ran (hc : Consistent task capacity s₀ c) (hw : c.worker = .ended) :
    c.ran.map Sigma.fst = c.accepted := by
  rw [hc.order, hw, (hc.ended hw).1]
  exact (List.append_nil _).symm

/-- The steps that the thread has yet to make. -/
def backlog (c : Actor ι H σ R) : Nat := 3 * c.queue.length + c.worker.toEnd

/-- **Without a handle** only the thread makes steps, and each brings it nearer to its end. -/
theorem Consistent.drains_step (hc : Consistent task capacity s₀ c) (hlive : ∀ h, c.live h = false)
    (hstep : Step task capacity c c') :
    (∀ h, c'.live h = false) ∧ c'.accepted = c.accepted ∧ c'.backlog < c.backlog := by
  have hborrows : ∀ k h, ¬ (c.phase k).Borrows h := by
    intro k h hb
    have hb := hc.borrowed k h hb
    rw [hlive] at hb
    cases hb
  cases hstep with
  | clone h => rw [hlive] at h; cases h
  | drop h => rw [hlive] at h; cases h
  | start _ h => rw [hlive] at h; cases h
  | send h => exact absurd (.inl h) (hborrows _ _)
  | abandon h => exact absurd h (hborrows _ _)
  | recv hidle hqueue =>
    refine ⟨hlive, rfl, ?_⟩
    simp only [backlog, hidle, hqueue, Worker.toEnd, List.length_cons]
    omega
  | run hk =>
    refine ⟨hlive, rfl, ?_⟩
    simp only [backlog, hk, Worker.toEnd]
    omega
  | answer hk =>
    refine ⟨hlive, rfl, ?_⟩
    simp only [backlog, hk, Worker.toEnd]
    omega
  | «return» h => exact absurd (.inr h) (hborrows _ _)
  | finish hidle =>
    refine ⟨hlive, rfl, ?_⟩
    simp only [backlog, hidle, Worker.toEnd]
    omega

/-- The thread is never stuck before its end. -/
theorem exists_step (hlive : ∀ h, c.live h = false) (hw : c.worker ≠ .ended) : ∃ c', Step task capacity c c' := by
  cases hworker : c.worker with
  | idle =>
    cases hqueue : c.queue with
    | nil => exact ⟨_, .finish hworker hqueue hlive⟩
    | cons k rest => exact ⟨_, .recv hworker hqueue⟩
  | running k => exact ⟨_, .run hworker⟩
  | replying k r => exact ⟨_, .answer hworker⟩
  | ended => exact absurd hworker hw

/-- **The drain**: once all handles are dropped the thread runs every accepted task and ends. -/
theorem Consistent.drains (hc : Consistent task capacity s₀ c) (hlive : ∀ h, c.live h = false) :
    ∃ c', Steps task capacity c c' ∧ c'.worker = .ended ∧ c'.ran.map Sigma.fst = c.accepted := by
  induction hn : c.backlog using Nat.strongRecOn generalizing c with
  | ind n ih =>
    by_cases hw : c.worker = .ended
    · exact ⟨c, .refl, hw, hc.ended_ran hw⟩
    · have hnext : ∃ c₁, Step task capacity c c₁ := exists_step hlive hw
      obtain ⟨c₁, hstep⟩ := hnext
      obtain ⟨hlive₁, haccepted, hless⟩ := hc.drains_step hlive hstep
      obtain ⟨c', hrest, hended, hran⟩ := ih _ (hn ▸ hless) (hc.step hstep) hlive₁ rfl
      exact ⟨c', .head hstep hrest, hended, hran.trans haccepted⟩

end Linearizable

end Actor

end Atomics
