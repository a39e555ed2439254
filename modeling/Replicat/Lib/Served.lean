import Mathlib.Data.List.Nodup
import Mathlib.Logic.Relation
import Replicat.Lib.Pool

/-!
# Programs whose actions run on threads of their own

A call goes through the actions of its program. It makes an action where it is, or it hands the
action as a task to one of the threads, over a bounded channel, and waits for the reply; it may be
dropped at any moment, and a task of it that is in a channel runs all the same. `Served.Step` is one
step of a call or of a thread. `Served.Sim` ties such a state to one of the `Pool` whose threads make
each action at once, and every step keeps it up to the next turn of the pool.
-/

namespace Atomics

/-- An action on its way to a thread, and what is left of its call afterwards. -/
structure Task (σ α : Type) where
  update : σ → σ
  next : σ → Prog σ α

/-- What is left of the call before the action. -/
def Task.prog {σ α : Type} (t : Task σ α) : Prog σ α := .act t.update t.next

/-- Where a call is. -/
inductive Stage (H σ α : Type) where
  /-- Between two actions, or returned. -/
  | ready (p : Prog σ α)
  /-- Waiting for room in the channel. -/
  | sending (h : H) (t : Task σ α)
  /-- Waiting for the reply. -/
  | waiting (h : H)
  | dropped

/-- What is left of a call that no thread is at work for. -/
def Stage.left {H σ α : Type} : Stage H σ α → Option (Prog σ α)
  | ready p => some p
  | sending _ t => some t.prog
  | _ => none

/-- What a thread does. -/
inductive Server (ι σ : Type) (α : ι → Type) where
  | idle
  | running (x : Σ i, Task σ (α i))
  | replying (x : Σ i, Prog σ (α i))

/-- The call that it works for, and what is left of it. -/
def Server.jobs {ι σ : Type} {α : ι → Type} : Server ι σ α → List (Σ i, Prog σ (α i))
  | idle => []
  | running x => [⟨x.1, x.2.prog⟩]
  | replying x => [x]

/-- The calls, and the threads `H` with their channels. -/
structure Served (ι H σ : Type) (α : ι → Type) where
  state : σ
  stage : (i : ι) → Stage H σ (α i)
  server : H → Server ι σ α
  queue : H → List (Σ i, Task σ (α i))
  /-- The reply channels: what is left of the call. -/
  reply : (i : ι) → Option (Prog σ (α i))

namespace Served

variable {ι H σ : Type} {α : ι → Type} [DecidableEq ι] [DecidableEq H]

/-- The threads of a pool as calls that have not begun, and idle threads for their tasks. -/
def start (p : Pool ι σ α) : Served ι H σ α where
  state := p.state
  stage i := .ready (p.threads i)
  server _ := .idle
  queue _ := []
  reply _ := none

/-- One step of the thread `h`. -/
inductive ThreadStep (h : H) : Served ι H σ α → Served ι H σ α → Prop where
  | recv {c x rest} : c.server h = .idle → c.queue h = x :: rest →
      ThreadStep h c { c with
        server := Function.update c.server h (.running x)
        queue := Function.update c.queue h rest }
  | run {c i} {t : Task σ (α i)} : c.server h = .running ⟨i, t⟩ →
      ThreadStep h c { c with
        state := t.update c.state
        server := Function.update c.server h (.replying ⟨i, t.next c.state⟩) }
  -- Nobody looks at the reply of a dropped call.
  | answer {c i} {p : Prog σ (α i)} : c.server h = .replying ⟨i, p⟩ →
      ThreadStep h c { c with
        server := Function.update c.server h .idle
        reply := Function.update c.reply i (some p) }

/-- One step of a call or of a thread. Any action may be made in place, or by any of the threads. -/
inductive Step (capacity : Nat) : Served ι H σ α → Served ι H σ α → Prop where
  | here {c i} {t : Task σ (α i)} : c.stage i = .ready t.prog →
      Step capacity c { c with
        state := t.update c.state
        stage := Function.update c.stage i (.ready (t.next c.state)) }
  | submit {c i} {t : Task σ (α i)} (h : H) : c.stage i = .ready t.prog →
      Step capacity c { c with stage := Function.update c.stage i (.sending h t) }
  | send {c i h} {t : Task σ (α i)} : c.stage i = .sending h t → (c.queue h).length < capacity →
      Step capacity c { c with
        stage := Function.update c.stage i (.waiting h)
        queue := Function.update c.queue h (c.queue h ++ [⟨i, t⟩]) }
  | resume {c i h} {p : Prog σ (α i)} : c.stage i = .waiting h → c.reply i = some p →
      Step capacity c { c with
        stage := Function.update c.stage i (.ready p)
        reply := Function.update c.reply i none }
  | drop {c} (i : ι) : Step capacity c { c with stage := Function.update c.stage i .dropped }
  | thread {c c'} (h : H) : ThreadStep h c c' → Step capacity c c'

/-- Any number of steps. -/
def Steps (capacity : Nat) : Served ι H σ α → Served ι H σ α → Prop := Relation.ReflTransGen (Step capacity)

/-- The calls of these tasks, and what is left of them. -/
def progs (q : List (Σ i, Task σ (α i))) : List (Σ i, Prog σ (α i)) := q.map fun x => ⟨x.1, x.2.prog⟩

/-- The calls that the thread has a task or a reply of, and what is left of them. -/
def jobs (c : Served ι H σ α) (h : H) : List (Σ i, Prog σ (α i)) := (c.server h).jobs ++ progs (c.queue h)

omit [DecidableEq ι] in
theorem jobs_update (c : Served ι H σ α) (h : H) (s : Server ι σ α) (q : List (Σ i, Task σ (α i))) :
    jobs { c with server := Function.update c.server h s, queue := Function.update c.queue h q } =
      Function.update c.jobs h (s.jobs ++ progs q) := by
  funext h'
  by_cases hh : h' = h
  · subst hh
    simp [jobs]
  · simp [jobs, hh]

omit [DecidableEq ι] in
theorem jobs_server (c : Served ι H σ α) (h : H) (s : Server ι σ α) :
    jobs { c with server := Function.update c.server h s } =
      Function.update c.jobs h (s.jobs ++ progs (c.queue h)) := by
  rw [← jobs_update, Function.update_eq_self]

omit [DecidableEq ι] in
theorem jobs_queue (c : Served ι H σ α) (h : H) (q : List (Σ i, Task σ (α i))) :
    jobs { c with queue := Function.update c.queue h q } =
      Function.update c.jobs h ((c.server h).jobs ++ progs q) := by
  rw [← jobs_update, Function.update_eq_self]

/-! ## The pool behind it -/

/-- A call is with one thread at most, and once. -/
structure Once (jobs : H → List (Σ i, Prog σ (α i))) : Prop where
  nodup : ∀ h, ((jobs h).map Sigma.fst).Nodup
  apart : ∀ h h' i, i ∈ (jobs h).map Sigma.fst → i ∈ (jobs h').map Sigma.fst → h = h'

section Once

variable {jobs : H → List (Σ i, Prog σ (α i))} {h h' : H} {x : Σ i, Prog σ (α i)} {l rest : List (Σ i, Prog σ (α i))}

omit [DecidableEq ι] in
theorem mem_update : x ∈ Function.update jobs h l h' ↔ h' = h ∧ x ∈ l ∨ h' ≠ h ∧ x ∈ jobs h' := by
  by_cases hh : h' = h
  · subst hh
    simp
  · simp [hh]

omit [DecidableEq ι] in
theorem Once.sub (ho : Once jobs) (hl : (l.map Sigma.fst).Sublist ((jobs h).map Sigma.fst)) :
    Once (Function.update jobs h l) := by
  have hids : ∀ k, ((Function.update jobs h l k).map Sigma.fst).Sublist ((jobs k).map Sigma.fst) := by
    intro k
    by_cases hk : k = h
    · subst hk
      rwa [Function.update_self]
    · rw [Function.update_of_ne hk]
  exact ⟨fun k => (ho.nodup k).sublist (hids k),
    fun k k' i hi hi' => ho.apart k k' i ((hids k).subset hi) ((hids k').subset hi')⟩

omit [DecidableEq ι] in
/-- A call that no thread has is put in a channel. -/
theorem Once.concat (ho : Once jobs) (hx : ∀ k, x.1 ∉ (jobs k).map Sigma.fst) :
    Once (Function.update jobs h (jobs h ++ [x])) := by
  have hids : ∀ {k i}, i ∈ (Function.update jobs h (jobs h ++ [x]) k).map Sigma.fst →
      i ∈ (jobs k).map Sigma.fst ∨ k = h ∧ i = x.1 := by
    intro k i hi
    by_cases hk : k = h
    · subst hk
      rw [Function.update_self, List.map_append, List.mem_append] at hi
      exact hi.imp_right fun hi => ⟨rfl, List.mem_singleton.1 hi⟩
    · rw [Function.update_of_ne hk] at hi
      exact .inl hi
  refine ⟨fun k => ?_, fun k k' i hi hi' => ?_⟩
  · by_cases hk : k = h
    · subst hk
      rw [Function.update_self, List.map_append]
      simpa using (ho.nodup k).concat (hx k)
    · rw [Function.update_of_ne hk]
      exact ho.nodup k
  · rcases hids hi with hk | ⟨rfl, hxi⟩ <;> rcases hids hi' with hk' | ⟨rfl, hxi'⟩
    · exact ho.apart k k' i hk hk'
    · exact absurd (hxi' ▸ hk) (hx k)
    · exact absurd (hxi ▸ hk') (hx k')
    · rfl

omit [DecidableEq ι] in
/-- The call that a thread works for is nowhere else. -/
theorem Once.alone (ho : Once jobs) (hj : jobs h = x :: rest) {y : Σ i, Prog σ (α i)}
    (hy : y ∈ Function.update jobs h rest h') : y.1 ≠ x.1 := by
  rintro heq
  have hx : x.1 ∈ (jobs h).map Sigma.fst := hj ▸ List.mem_cons_self
  rcases mem_update.1 hy with ⟨-, hy⟩ | ⟨hh, hy⟩
  · have hnodup := ho.nodup h
    rw [hj, List.map_cons, List.nodup_cons] at hnodup
    exact hnodup.1 (heq ▸ List.mem_map_of_mem hy)
  · exact hh (ho.apart h' h x.1 (heq ▸ List.mem_map_of_mem hy) hx)

end Once

/-- The threads of the pool are what is left of the calls, wherever these are. -/
structure Matches (stage : (i : ι) → Stage H σ (α i)) (jobs : H → List (Σ i, Prog σ (α i)))
    (reply : (i : ι) → Option (Prog σ (α i))) (threads : (i : ι) → Prog σ (α i)) : Prop where
  left : ∀ i q, (stage i).left = some q → threads i = q
  job : ∀ h i q, ⟨i, q⟩ ∈ jobs h → threads i = q ∧ (stage i).left = none ∧ reply i = none
  replied : ∀ i q, reply i = some q → threads i = q ∧ (stage i).left = none
  once : Once jobs
  /-- A call that waits is with its thread, or has its reply. -/
  waiting : ∀ i h, stage i = .waiting h → (∃ q, ⟨i, q⟩ ∈ jobs h) ∨ ∃ q, reply i = some q

section Matches

variable {stage : (i : ι) → Stage H σ (α i)} {jobs : H → List (Σ i, Prog σ (α i))}
  {reply : (i : ι) → Option (Prog σ (α i))} {threads threads' : (i : ι) → Prog σ (α i)} {i : ι}

omit [DecidableEq H] in
/-- **A call that no thread is at work for** goes on, while the others stay. -/
theorem Matches.restage (hm : Matches stage jobs reply threads) {q q' : Prog σ (α i)} (hi : (stage i).left = some q)
    {s : Stage H σ (α i)} (hs : s.left = some q') :
    Matches (Function.update stage i s) jobs reply (Function.update threads i q') := by
  have hfree : ∀ {j}, (stage j).left = none → j ≠ i := by
    rintro j hj rfl
    rw [hi] at hj
    cases hj
  refine ⟨fun j r hr => ?_, fun h j r hr => ?_, fun j r hr => ?_, hm.once, fun j h hw => ?_⟩
  · by_cases hj : j = i
    · subst hj
      rw [Function.update_self, hs] at hr
      rw [Function.update_self, Option.some.inj hr]
    · rw [Function.update_of_ne hj] at hr ⊢
      exact hm.left j r hr
  · have hj : j ≠ i := hfree (hm.job h j r hr).2.1
    simp only [Function.update_of_ne hj]
    exact hm.job h j r hr
  · have hj : j ≠ i := hfree (hm.replied j r hr).2
    simp only [Function.update_of_ne hj]
    exact hm.replied j r hr
  · by_cases hj : j = i
    · subst hj
      rw [Function.update_self] at hw
      rw [hw] at hs
      cases hs
    · rw [Function.update_of_ne hj] at hw
      exact hm.waiting j h hw

omit [DecidableEq H] in
theorem left_update {s : Stage H σ (α i)} (hs : s.left = none) {j : ι} (hj : (stage j).left = none) :
    (Function.update stage i s j).left = none := by
  by_cases hji : j = i
  · subst hji
    rw [Function.update_self, hs]
  · rw [Function.update_of_ne hji, hj]

omit [DecidableEq H] in
/-- The owner of a call gives it up. -/
theorem Matches.drop (hm : Matches stage jobs reply threads) (i : ι) :
    Matches (Function.update stage i .dropped) jobs reply threads := by
  refine ⟨fun j q hq => ?_, fun h j q hq => ?_, fun j q hq => ?_, hm.once, fun j h hw => ?_⟩
  · by_cases hj : j = i
    · subst hj
      rw [Function.update_self] at hq
      cases hq
    · rw [Function.update_of_ne hj] at hq
      exact hm.left j q hq
  · obtain ⟨hthread, hleft, hreply⟩ := hm.job h j q hq
    exact ⟨hthread, left_update rfl hleft, hreply⟩
  · exact (hm.replied j q hq).imp_right (left_update rfl)
  · by_cases hj : j = i
    · subst hj
      rw [Function.update_self] at hw
      cases hw
    · rw [Function.update_of_ne hj] at hw
      exact hm.waiting j h hw

/-- A task is put in a channel. -/
theorem Matches.send (hm : Matches stage jobs reply threads) {h : H} {t : Task σ (α i)}
    (hi : stage i = .sending h t) :
    Matches (Function.update stage i (.waiting h)) (Function.update jobs h (jobs h ++ [⟨i, t.prog⟩]))
      reply threads := by
  have hleft : (stage i).left = some t.prog := by rw [hi]; rfl
  have hreply : reply i = none := by
    cases hr : reply i with
    | none => rfl
    | some q =>
      rw [(hm.replied i q hr).2] at hleft
      cases hleft
  refine ⟨fun j q hq => ?_, fun k j q hq => ?_, fun j q hq => ?_, hm.once.concat fun k hk => ?_, fun j k hw => ?_⟩
  · by_cases hj : j = i
    · subst hj
      rw [Function.update_self] at hq
      cases hq
    · rw [Function.update_of_ne hj] at hq
      exact hm.left j q hq
  · rcases mem_update.1 hq with ⟨rfl, hq⟩ | ⟨-, hq⟩
    · rcases List.mem_append.1 hq with hq | hq
      · exact (hm.job k j q hq).imp_right (And.imp_left (left_update rfl))
      · cases List.mem_singleton.1 hq
        exact ⟨hm.left i _ hleft, by rw [Function.update_self]; rfl, hreply⟩
    · exact (hm.job k j q hq).imp_right (And.imp_left (left_update rfl))
  · exact (hm.replied j q hq).imp_right (left_update rfl)
  · obtain ⟨⟨_, q⟩, hq, rfl⟩ := List.mem_map.1 hk
    rw [(hm.job k _ q hq).2.1] at hleft
    cases hleft
  · by_cases hj : j = i
    · subst hj
      rw [Function.update_self] at hw
      cases hw
      exact .inl ⟨t.prog, by simp⟩
    · rw [Function.update_of_ne hj] at hw
      refine (hm.waiting j k hw).imp_left fun ⟨q, hq⟩ => ⟨q, mem_update.2 ?_⟩
      by_cases hk : k = h
      · exact .inl ⟨hk, List.mem_append_left _ (hk ▸ hq)⟩
      · exact .inr ⟨hk, hq⟩

/-- **A thread runs the task** that it has received. -/
theorem Matches.run (hm : Matches stage jobs reply threads) {h : H} {q : Prog σ (α i)}
    {rest : List (Σ i, Prog σ (α i))} (hj : jobs h = ⟨i, q⟩ :: rest) (q' : Prog σ (α i)) :
    Matches stage (Function.update jobs h (⟨i, q'⟩ :: rest)) reply (Function.update threads i q') := by
  obtain ⟨-, hleft, hreply⟩ := hm.job h i q (hj ▸ List.mem_cons_self)
  have hfree : ∀ {j}, ((stage j).left ≠ none ∨ reply j ≠ none) → j ≠ i := by
    rintro j hbusy rfl
    exact hbusy.elim (· hleft) (· hreply)
  have hmem : ∀ {k j r}, ⟨j, r⟩ ∈ Function.update jobs h (⟨i, q'⟩ :: rest) k →
      (k = h ∧ (⟨j, r⟩ : Σ i, Prog σ (α i)) = ⟨i, q'⟩) ∨ ⟨j, r⟩ ∈ Function.update jobs h rest k := by
    intro k j r hr
    rcases mem_update.1 hr with ⟨hk, hr⟩ | hr
    · rcases List.mem_cons.1 hr with hr | hr
      · exact .inl ⟨hk, hr⟩
      · exact .inr (mem_update.2 (.inl ⟨hk, hr⟩))
    · exact .inr (mem_update.2 (.inr hr))
  refine ⟨fun j r hr => ?_, fun k j r hr => ?_, fun j r hr => ?_, hm.once.sub ?_, fun j k hw => ?_⟩
  · rw [Function.update_of_ne (hfree (.inl (by rw [hr]; nofun)))]
    exact hm.left j r hr
  · rcases hmem hr with ⟨-, hr⟩ | hr
    · cases hr
      exact ⟨Function.update_self .., hleft, hreply⟩
    · rw [Function.update_of_ne (hm.once.alone hj hr)]
      rcases mem_update.1 hr with ⟨rfl, hrest⟩ | ⟨-, hr⟩
      · exact hm.job k j r (hj ▸ List.mem_cons_of_mem _ hrest)
      · exact hm.job k j r hr
  · rw [Function.update_of_ne (hfree (.inr (by rw [hr]; nofun)))]
    exact hm.replied j r hr
  · rw [hj]
    exact .refl _
  · refine (hm.waiting j k hw).imp_left fun ⟨r, hr⟩ => ?_
    by_cases hk : k = h
    · subst hk
      rw [hj] at hr
      rcases List.mem_cons.1 hr with hr | hr
      · cases hr
        exact ⟨q', mem_update.2 (.inl ⟨rfl, List.mem_cons_self⟩)⟩
      · exact ⟨r, mem_update.2 (.inl ⟨rfl, List.mem_cons_of_mem _ hr⟩)⟩
    · exact ⟨r, mem_update.2 (.inr ⟨hk, hr⟩)⟩

/-- A thread sends its reply. -/
theorem Matches.answer (hm : Matches stage jobs reply threads) {h : H} {q : Prog σ (α i)}
    {rest : List (Σ i, Prog σ (α i))} (hj : jobs h = ⟨i, q⟩ :: rest) :
    Matches stage (Function.update jobs h rest) (Function.update reply i (some q)) threads := by
  obtain ⟨hthread, hleft, -⟩ := hm.job h i q (hj ▸ List.mem_cons_self)
  refine ⟨hm.left, fun k j r hr => ?_, fun j r hr => ?_, hm.once.sub ?_, fun j k hw => ?_⟩
  · rw [Function.update_of_ne (hm.once.alone hj hr)]
    rcases mem_update.1 hr with ⟨rfl, hrest⟩ | ⟨-, hr⟩
    · exact hm.job k j r (hj ▸ List.mem_cons_of_mem _ hrest)
    · exact hm.job k j r hr
  · by_cases hji : j = i
    · subst hji
      rw [Function.update_self] at hr
      cases hr
      exact ⟨hthread, hleft⟩
    · rw [Function.update_of_ne hji] at hr
      exact hm.replied j r hr
  · rw [hj]
    exact List.sublist_cons_self _ _
  · by_cases hji : j = i
    · subst hji
      exact .inr ⟨q, Function.update_self ..⟩
    · rw [Function.update_of_ne hji]
      refine (hm.waiting j k hw).imp_left fun ⟨r, hr⟩ => ⟨r, mem_update.2 ?_⟩
      by_cases hk : k = h
      · subst hk
        rw [hj] at hr
        refine .inl ⟨rfl, (List.mem_cons.1 hr).resolve_left fun heq => hji ?_⟩
        cases heq
        rfl
      · exact .inr ⟨hk, hr⟩

omit [DecidableEq H] in
/-- A call takes its reply. -/
theorem Matches.resume (hm : Matches stage jobs reply threads) {q : Prog σ (α i)} (hr : reply i = some q) :
    Matches (Function.update stage i (.ready q)) jobs (Function.update reply i none) threads := by
  obtain ⟨hthread, -⟩ := hm.replied i q hr
  have hfree : ∀ {h j r}, ⟨j, r⟩ ∈ jobs h → j ≠ i := by
    rintro h j r hj rfl
    rw [(hm.job h j r hj).2.2] at hr
    cases hr
  refine ⟨fun j r hj => ?_, fun h j r hj => ?_, fun j r hj => ?_, hm.once, fun j h hw => ?_⟩
  · by_cases hji : j = i
    · subst hji
      rw [Function.update_self] at hj
      cases hj
      exact hthread
    · rw [Function.update_of_ne hji] at hj
      exact hm.left j r hj
  · simp only [Function.update_of_ne (hfree hj)]
    exact hm.job h j r hj
  · by_cases hji : j = i
    · subst hji
      rw [Function.update_self] at hj
      cases hj
    · rw [Function.update_of_ne hji] at hj ⊢
      exact hm.replied j r hj
  · by_cases hji : j = i
    · subst hji
      rw [Function.update_self] at hw
      cases hw
    · rw [Function.update_of_ne hji] at hw ⊢
      exact hm.waiting j h hw

end Matches

/-- The state of the pool, and its threads. -/
structure Sim (c : Served ι H σ α) (p : Pool ι σ α) : Prop where
  state : c.state = p.state
  calls : Matches c.stage c.jobs c.reply p.threads

section Sim

variable {c c' : Served ι H σ α} {p : Pool ι σ α} {capacity : Nat}

omit [DecidableEq ι] [DecidableEq H] in
theorem sim_start (p : Pool ι σ α) : Sim (start p : Served ι H σ α) p where
  state := rfl
  calls :=
    { left := fun _ _ hq => Option.some.inj hq
      job := fun _ _ _ hq => nomatch hq
      replied := fun _ _ hr => by cases hr
      once := ⟨fun _ => List.nodup_nil, fun _ _ _ hi => nomatch hi⟩
      waiting := fun _ _ hw => by cases hw }

omit [DecidableEq ι] in
/-- What a thread is at work for, when its state changes. -/
theorem jobs_running {h : H} {s : Server ι σ α} (hs : c.server h = s) (s' : Server ι σ α) :
    c.jobs h = s.jobs ++ progs (c.queue h) ∧
      jobs { c with server := Function.update c.server h s' } =
        Function.update c.jobs h (s'.jobs ++ progs (c.queue h)) :=
  ⟨hs ▸ rfl, jobs_server c h s'⟩

/-- **A step of a thread** is a turn of the call that it works for, or none. -/
theorem Sim.thread (hs : Sim c p) {h : H} (hstep : ThreadStep h c c') : ∃ sched, Sim c' (p.run sched) := by
  obtain ⟨hstate, hcalls⟩ := hs
  cases hstep with
  | @recv x rest hidle hqueue =>
    refine ⟨[], hstate, ?_⟩
    have hjobs : Function.update c.jobs h ((Server.running x).jobs ++ progs rest) = c.jobs := by
      refine Function.update_eq_self_iff.2 ?_
      unfold jobs
      rw [hidle, hqueue]
      rfl
    have hnext := jobs_update c h (.running x) rest
    rw [hjobs] at hnext
    exact hnext ▸ hcalls
  | @run i t hrun =>
    have hthread : p.threads i = t.prog := by
      refine (hcalls.job h i t.prog ?_).1
      rw [(jobs_running hrun .idle).1]
      exact List.mem_cons_self
    have hturn : p.step i = ⟨Function.update p.threads i (t.next p.state), t.update p.state⟩ := Pool.step_act hthread
    refine ⟨[i], ?_, ?_⟩
    · rw [Pool.run_cons, Pool.run_nil, hturn, ← hstate]
    · rw [Pool.run_cons, Pool.run_nil, hturn, ← hstate]
      have hjobs := jobs_running hrun (.replying ⟨i, t.next c.state⟩)
      have hnext := hcalls.run hjobs.1 (t.next c.state)
      exact hjobs.2 ▸ hnext
  | @answer i q hreplying =>
    have hjobs := jobs_running hreplying .idle
    refine ⟨[], hstate, ?_⟩
    have hnext := hcalls.answer hjobs.1
    exact hjobs.2 ▸ hnext

/-- **One step** is a turn of the pool, or none. -/
theorem Sim.step (hs : Sim c p) (hstep : Step capacity c c') : ∃ sched, Sim c' (p.run sched) := by
  obtain ⟨hstate, hcalls⟩ := hs
  cases hstep with
  | @here i t hi =>
    have hleft : (c.stage i).left = some t.prog := by rw [hi]; rfl
    have hturn : p.step i = ⟨Function.update p.threads i (t.next p.state), t.update p.state⟩ :=
      Pool.step_act (hcalls.left i _ hleft)
    refine ⟨[i], ?_, ?_⟩
    · rw [Pool.run_cons, Pool.run_nil, hturn, ← hstate]
    · rw [Pool.run_cons, Pool.run_nil, hturn, ← hstate]
      exact hcalls.restage hleft rfl
  | @submit i t h hi =>
    have hleft : (c.stage i).left = some t.prog := by rw [hi]; rfl
    have hnext := hcalls.restage (s := .sending h t) hleft rfl
    rw [← hcalls.left i _ hleft, Function.update_eq_self] at hnext
    exact ⟨[], hstate, hnext⟩
  | @send i h t hi hroom =>
    refine ⟨[], hstate, ?_⟩
    have hjobs := jobs_queue c h (c.queue h ++ [⟨i, t⟩])
    have hsnoc : (c.server h).jobs ++ progs (c.queue h ++ [⟨i, t⟩]) = c.jobs h ++ [⟨i, t.prog⟩] := by
      unfold jobs progs
      rw [List.map_append, ← List.append_assoc]
      rfl
    rw [hsnoc] at hjobs
    exact hjobs ▸ hcalls.send hi
  | @resume i h q _ hr => exact ⟨[], hstate, hcalls.resume hr⟩
  | drop i => exact ⟨[], hstate, hcalls.drop i⟩
  | thread h hthread => exact Sim.thread ⟨hstate, hcalls⟩ hthread

/-- **Every run**: what was there before stays behind. -/
theorem Sim.steps (hs : Sim c p) (hrun : Steps capacity c c') : ∃ sched, Sim c' (p.run sched) := by
  induction hrun with
  | refl => exact ⟨[], hs⟩
  | tail _ hstep ih =>
    obtain ⟨sched, hs⟩ := ih
    obtain ⟨turn, hs⟩ := hs.step hstep
    exact ⟨sched ++ turn, by rw [Pool.run_append]; exact hs⟩

end Sim

/-- A call may be dropped when its task is in the channel: the task runs all the same. -/
theorem dropped_runs (c : Served ι H σ α) {capacity : Nat} {h : H} {i : ι} {t : Task σ (α i)}
    (hi : c.stage i = .ready t.prog) (hidle : c.server h = .idle) (hqueue : c.queue h = []) (hroom : 0 < capacity) :
    ∃ c', Steps capacity c c' ∧ c'.stage i = .dropped ∧ c'.server h = .replying ⟨i, t.next c.state⟩ := by
  have hlength : (c.queue h).length < capacity := by
    rw [hqueue]
    exact hroom
  have hchannel : Function.update c.queue h (c.queue h ++ [⟨i, t⟩]) h = [⟨i, t⟩] := by
    rw [Function.update_self, hqueue]
    rfl
  refine ⟨_, .tail (.tail (.tail (.tail (.single (.submit h hi)) (.send (Function.update_self ..) hlength)) (.drop i))
    (.thread h (.recv hidle hchannel))) (.thread h (.run (Function.update_self ..))), ?_, ?_⟩
  · exact Function.update_self ..
  · exact Function.update_self ..

/-! ## The threads come to an end -/

section Drain

variable {c : Served ι H σ α} {capacity : Nat}

/-- Steps of the thread alone. The calls stay where they are. -/
def ThreadSteps (h : H) : Served ι H σ α → Served ι H σ α → Prop := Relation.ReflTransGen (ThreadStep h)

theorem ThreadSteps.steps {h : H} {c' : Served ι H σ α} (hrun : ThreadSteps h c c') : Steps capacity c c' :=
  Relation.ReflTransGen.mono (fun _ _ => Step.thread h) _ _ hrun

theorem ThreadSteps.stage {h : H} {c' : Served ι H σ α} (hrun : ThreadSteps h c c') : c'.stage = c.stage := by
  induction hrun with
  | refl => rfl
  | tail _ hstep ih => cases hstep <;> exact ih

/-- The thread ends the task it is at. -/
theorem exists_idle (c : Served ι H σ α) (h : H) :
    ∃ c', ThreadSteps h c c' ∧ c'.server h = .idle ∧ c'.queue h = c.queue h := by
  have hanswer : ∀ {c : Served ι H σ α} {x}, c.server h = .replying x →
      ∃ c', ThreadSteps h c c' ∧ c'.server h = .idle ∧ c'.queue h = c.queue h :=
    fun hx => ⟨_, .single (.answer hx), Function.update_self .., rfl⟩
  cases hs : c.server h with
  | idle => exact ⟨c, .refl, hs, rfl⟩
  | replying x => exact hanswer hs
  | running x =>
    obtain ⟨c', hrun, hidle, hqueue⟩ := hanswer
      (c := { c with
        state := x.2.update c.state
        server := Function.update c.server h (.replying ⟨x.1, x.2.next c.state⟩) }) (Function.update_self ..)
    exact ⟨c', .head (.run hs) hrun, hidle, hqueue⟩

/-- The thread runs all that is in its channel. -/
theorem exists_drained (c : Served ι H σ α) (h : H) :
    ∃ c', ThreadSteps h c c' ∧ c'.server h = .idle ∧ c'.queue h = [] := by
  generalize hq : c.queue h = q
  induction q generalizing c with
  | nil =>
    obtain ⟨c', hrun, hidle, hqueue⟩ := exists_idle c h
    exact ⟨c', hrun, hidle, hqueue.trans hq⟩
  | cons x rest ih =>
    obtain ⟨c₁, hrun₁, hidle₁, hqueue₁⟩ := exists_idle c h
    obtain ⟨c', hrun, hend⟩ := ih
      { c₁ with
        server := Function.update c₁.server h (.running x)
        queue := Function.update c₁.queue h rest } (Function.update_self ..)
    exact ⟨c', hrun₁.trans (.head (.recv hidle₁ (hqueue₁.trans hq)) hrun), hend⟩

/-- **A call that waits is answered, and room is made in the channel**, by its thread alone. -/
theorem Sim.answered {p : Pool ι σ α} (hs : Sim c p) (h : H) :
    ∃ c', ThreadSteps h c c' ∧ c'.queue h = [] ∧ ∀ i, c.stage i = .waiting h → ∃ q, c'.reply i = some q := by
  obtain ⟨c', hrun, hidle, hqueue⟩ := exists_drained c h
  obtain ⟨sched, -, hcalls⟩ := hs.steps (hrun.steps : Steps 0 c c')
  have hjobs : c'.jobs h = [] := by
    unfold jobs progs
    rw [hidle, hqueue]
    rfl
  refine ⟨c', hrun, hqueue, fun i hi => (hcalls.waiting i h (by rw [hrun.stage, hi])).resolve_left ?_⟩
  rintro ⟨q, hq⟩
  rw [hjobs] at hq
  cases hq

end Drain

end Served

end Atomics
