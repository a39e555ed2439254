import Mathlib.Logic.Function.Basic
import Mathlib.Order.Defs.Unbundled

/-!
# Programs of atomic actions

`Prog σ α` is a program over a state `σ` that returns an `α`: either the result, or one
atomic action followed by a program that may depend on the state the action saw. Between
two actions another program may act on the same state, or the process may stop.

`exec` runs a program alone; `after n` is the state it leaves when it is stopped after `n`
actions, as by a crash, and `Along P p s` says `P` of all these states. `Within R p` bounds
every action of `p` by a relation whatever the state. `Returns I Q p` says `p` returns a value in `Q`
as long as every state it meets satisfies `I`, and `Follows p moves Q` that it performs exactly the
given moves, as long as each finds a state in which it can be made.
-/

namespace Atomics

/-- A program of atomic actions. -/
inductive Prog (σ α : Type) : Type where
  | ret (a : α)
  | act (upd : σ → σ) (next : σ → Prog σ α)

namespace Prog

variable {σ α β ε : Type}

def bind : Prog σ α → (α → Prog σ β) → Prog σ β
  | ret a, k => k a
  | act u n, k => act u fun s => (n s).bind k

instance : Monad (Prog σ) where
  pure := ret
  bind := bind

@[simp] theorem ret_bind (a : α) (k : α → Prog σ β) : (ret a : Prog σ α) >>= k = k a := rfl

@[simp] theorem pure_eq (a : α) : (pure a : Prog σ α) = ret a := rfl

@[simp] theorem act_bind (u : σ → σ) (n : σ → Prog σ α) (k : α → Prog σ β) :
    act u n >>= k = act u fun s => n s >>= k := rfl

theorem bind_ret (p : Prog σ α) : p >>= ret = p := by
  induction p with
  | ret a => rfl
  | act u n ih => simp only [act_bind, ih]

theorem bind_assoc {γ : Type} (p : Prog σ α) (k : α → Prog σ β) (l : β → Prog σ γ) :
    p >>= k >>= l = p >>= fun a => k a >>= l := by
  induction p with
  | ret a => rfl
  | act u n ih => simp only [act_bind, ih]

instance : LawfulMonad (Prog σ) :=
  LawfulMonad.mk' _ bind_ret (fun _ _ => rfl) bind_assoc

/-- One atomic action that returns a value. -/
def atomic (f : σ → α × σ) : Prog σ α := act (fun s => (f s).2) fun s => ret (f s).1

/-! ## Running alone -/

def exec : Prog σ α → σ → α × σ
  | ret a, s => (a, s)
  | act u n, s => (n s).exec (u s)

@[simp] theorem exec_ret (a : α) (s : σ) : (ret a).exec s = (a, s) := rfl

@[simp] theorem exec_act (u : σ → σ) (n : σ → Prog σ α) (s : σ) :
    (act u n).exec s = (n s).exec (u s) := rfl

@[simp] theorem exec_atomic (f : σ → α × σ) (s : σ) : (atomic f).exec s = f s := rfl

@[simp] theorem exec_bind (p : Prog σ α) (k : α → Prog σ β) (s : σ) :
    (p >>= k).exec s = (k (p.exec s).1).exec (p.exec s).2 := by
  induction p generalizing s with
  | ret a => rfl
  | act u n ih => simp only [act_bind, exec_act, ih]

/-! ## Stopping between two actions -/

/-- The state a run alone leaves when it is stopped after `n` actions. -/
def after : Nat → Prog σ α → σ → σ
  | 0, _, s => s
  | _ + 1, ret _, s => s
  | k + 1, act u n, s => (n s).after k (u s)

@[simp] theorem after_zero (p : Prog σ α) (s : σ) : p.after 0 s = s := rfl

@[simp] theorem after_ret (k : Nat) (a : α) (s : σ) : (ret a : Prog σ α).after k s = s := by
  cases k <;> rfl

@[simp] theorem after_act (k : Nat) (u : σ → σ) (n : σ → Prog σ α) (s : σ) :
    (act u n).after (k + 1) s = (n s).after k (u s) := rfl

/-- Stopped early, a sequence is inside its first part or inside its second. -/
theorem after_bind (p : Prog σ α) (k : α → Prog σ β) (n : Nat) (s : σ) :
    (p >>= k).after n s = p.after n s ∨
      ∃ m, (p >>= k).after n s = (k (p.exec s).1).after m (p.exec s).2 := by
  induction p generalizing s n with
  | ret a => exact .inr ⟨n, rfl⟩
  | act u next ih =>
    cases n with
    | zero => exact .inl rfl
    | succ n => exact ih s n (u s)

/-- The first part of a sequence can be stopped wherever it can alone. -/
theorem exists_after_bind (p : Prog σ α) (k : α → Prog σ β) (n : Nat) (s : σ) :
    ∃ m, (p >>= k).after m s = p.after n s := by
  induction p generalizing s n with
  | ret a => exact ⟨0, by simp⟩
  | act u next ih =>
    cases n with
    | zero => exact ⟨0, rfl⟩
    | succ n =>
      obtain ⟨m, hm⟩ := ih s n (u s)
      exact ⟨m + 1, hm⟩

/-- So can the second part, once the first has ended. -/
theorem exists_after_bind_exec (p : Prog σ α) (k : α → Prog σ β) (n : Nat) (s : σ) :
    ∃ m, (p >>= k).after m s = (k (p.exec s).1).after n (p.exec s).2 := by
  induction p generalizing s with
  | ret a => exact ⟨n, rfl⟩
  | act u next ih =>
    obtain ⟨m, hm⟩ := ih s (u s)
    exact ⟨m + 1, hm⟩

/-- The last state of a run is one it can be stopped in. -/
theorem exists_after_exec (p : Prog σ α) (s : σ) : ∃ m, p.after m s = (p.exec s).2 := by
  induction p generalizing s with
  | ret a => exact ⟨0, rfl⟩
  | act u next ih =>
    obtain ⟨m, hm⟩ := ih s (u s)
    exact ⟨m + 1, hm⟩

/-- Every state a run alone passes through satisfies `P`. -/
def Along (P : σ → Prop) (p : Prog σ α) (s : σ) : Prop := ∀ n, P (p.after n s)

section Along

variable {P : σ → Prop} {p : Prog σ α} {s : σ}

theorem Along.start (h : Along P p s) : P s := h 0

theorem Along.exec (h : Along P p s) : P (p.exec s).2 := by
  obtain ⟨m, hm⟩ := exists_after_exec p s
  exact hm ▸ h m

theorem along_ret {a : α} (h : P s) : Along P (ret a : Prog σ α) s := fun n => by rwa [after_ret]

theorem along_act {u : σ → σ} {next : σ → Prog σ α} :
    Along P (act u next) s ↔ P s ∧ Along P (next s) (u s) := by
  refine ⟨fun h => ⟨h 0, fun n => h (n + 1)⟩, fun h n => ?_⟩
  cases n with
  | zero => exact h.1
  | succ n => exact h.2 n

theorem along_atomic {f : σ → α × σ} (h : P s) (h' : P (f s).2) : Along P (atomic f) s :=
  along_act.2 ⟨h, along_ret h'⟩

theorem Along.bind {k : α → Prog σ β} (hp : Along P p s)
    (hk : Along P (k (p.exec s).1) (p.exec s).2) : Along P (p >>= k) s := by
  intro n
  rcases after_bind p k n s with h | ⟨m, h⟩
  · exact h ▸ hp n
  · exact h ▸ hk m

end Along

/-! ## Bounding every action -/

/-- Every action of the program is related by `R` to the state it starts from. -/
inductive Within (R : σ → σ → Prop) : Prog σ α → Prop where
  | ret (a : α) : Within R (ret a)
  | act {u : σ → σ} {n : σ → Prog σ α} : (∀ s, R s (u s)) → (∀ s, Within R (n s)) →
      Within R (act u n)

theorem Within.bind {R : σ → σ → Prop} {p : Prog σ α} {k : α → Prog σ β} (hp : p.Within R)
    (hk : ∀ a, (k a).Within R) : (p >>= k).Within R := by
  induction hp with
  | ret a => exact hk a
  | act hu _ ih => exact .act hu ih

theorem within_atomic {R : σ → σ → Prop} {f : σ → α × σ} (h : ∀ s, R s (f s).2) :
    (atomic f).Within R := .act h fun _ => .ret _

theorem Within.mono {R R' : σ → σ → Prop} {p : Prog σ α} (hp : p.Within R)
    (h : ∀ s t, R s t → R' s t) : p.Within R' := by
  induction hp with
  | ret a => exact .ret a
  | act hu _ ih => exact .act (fun s => h _ _ (hu s)) ih

/-- What every action preserves holds wherever the run is stopped. -/
theorem Within.after {R : σ → σ → Prop} [Std.Refl R] [IsTrans σ R] {p : Prog σ α}
    (hp : p.Within R) (k : Nat) (s : σ) : R s (p.after k s) := by
  induction hp generalizing k s with
  | ret a => rw [after_ret]; exact refl_of R s
  | act hu _ ih =>
    cases k with
    | zero => exact refl_of R s
    | succ k => exact trans_of R (hu s) (ih s k _)

theorem Within.exec {R : σ → σ → Prop} [Std.Refl R] [IsTrans σ R] {p : Prog σ α}
    (hp : p.Within R) (s : σ) : R s (p.exec s).2 := by
  induction hp generalizing s with
  | ret a => exact refl_of R s
  | act hu _ ih => exact trans_of R (hu s) (ih s _)

/-- Once `P` holds it goes on holding. -/
def Keeps (P : σ → Prop) : σ → σ → Prop := fun s t => P s → P t

instance (P : σ → Prop) : Std.Refl (Keeps P) := ⟨fun _ h => h⟩

instance (P : σ → Prop) : IsTrans σ (Keeps P) := ⟨fun _ _ _ h k p => k (h p)⟩

/-! ## Programs that look at a part of the state -/

/-- The program cannot tell apart states that are related by `R`. -/
inductive Respects (R : σ → σ → Prop) : Prog σ α → Prop where
  | ret (a : α) : Respects R (ret a)
  | act {u : σ → σ} {n : σ → Prog σ α} : (∀ s t, R s t → R (u s) (u t) ∧ n s = n t) →
      (∀ s, Respects R (n s)) → Respects R (act u n)

theorem respects_atomic {R : σ → σ → Prop} {f : σ → α × σ}
    (h : ∀ s t, R s t → (f s).1 = (f t).1 ∧ R (f s).2 (f t).2) : (atomic f).Respects R :=
  .act (fun s t hst => ⟨(h s t hst).2, congrArg ret (h s t hst).1⟩) fun _ => .ret _

theorem Respects.bind {R : σ → σ → Prop} {p : Prog σ α} {k : α → Prog σ β} (hp : p.Respects R)
    (hk : ∀ a, (k a).Respects R) : (p >>= k).Respects R := by
  induction hp with
  | ret a => exact hk a
  | act hu _ ih => exact .act (fun s t hst => ⟨(hu s t hst).1, congrArg (· >>= k) (hu s t hst).2⟩) ih

theorem Respects.exec {R : σ → σ → Prop} {p : Prog σ α} (hp : p.Respects R) {s t : σ} (hst : R s t) :
    (p.exec s).1 = (p.exec t).1 ∧ R (p.exec s).2 (p.exec t).2 := by
  induction hp generalizing s t with
  | ret a => exact ⟨rfl, hst⟩
  | act hu _ ih =>
    obtain ⟨hR, hn⟩ := hu s t hst
    rw [exec_act, exec_act, ← hn]
    exact ih s hR

/-! ## Running among others -/

/-- What is left of the program once it has met the states `ss` at its turns. -/
def feed : Prog σ α → List σ → Prog σ α
  | ret a, _ => ret a
  | act u n, [] => act u n
  | act _ n, s :: ss => (n s).feed ss

@[simp] theorem feed_ret (a : α) (ss : List σ) : (ret a : Prog σ α).feed ss = ret a := by
  cases ss <;> rfl

@[simp] theorem feed_nil (p : Prog σ α) : p.feed [] = p := by
  cases p <;> rfl

@[simp] theorem feed_act (u : σ → σ) (n : σ → Prog σ α) (s : σ) (ss : List σ) :
    (act u n).feed (s :: ss) = (n s).feed ss := rfl

theorem feed_append (p : Prog σ α) (ss ts : List σ) : p.feed (ss ++ ts) = (p.feed ss).feed ts := by
  induction ss generalizing p with
  | nil => simp
  | cons s ss ih =>
    cases p with
    | ret a => simp
    | act u n => exact ih (n s)

theorem Within.feed {R : σ → σ → Prop} {p : Prog σ α} (hp : p.Within R) (ss : List σ) :
    (p.feed ss).Within R := by
  induction hp generalizing ss with
  | ret a =>
    rw [feed_ret]
    exact .ret a
  | act hu hn ih =>
    cases ss with
    | nil => exact .act hu hn
    | cons s ss => exact ih s ss

/-- The next action of a sequence is that of its first part, as long as that has not returned. -/
theorem feed_bind_act {p : Prog σ α} {k : α → Prog σ β} {ss : List σ} {u : σ → σ} {n : σ → Prog σ α}
    (h : p.feed ss = act u n) : (p >>= k).feed ss = act u fun s => n s >>= k := by
  induction ss generalizing p with
  | nil =>
    rw [feed_nil] at h
    rw [feed_nil, h]
    rfl
  | cons s ss ih =>
    cases p with
    | ret a => cases h
    | act u' n' => exact ih h

/-- A sequence that has returned has returned from its first part, and then from its second. -/
theorem feed_bind_ret {p : Prog σ α} {k : α → Prog σ β} {ss : List σ} {b : β}
    (h : (p >>= k).feed ss = ret b) : ∃ a ts, p.feed ss = ret a ∧ (k a).feed ts = ret b := by
  induction ss generalizing p with
  | nil =>
    cases p with
    | ret a => exact ⟨a, [], rfl, h⟩
    | act u n => cases h
  | cons s ss ih =>
    cases p with
    | ret a => exact ⟨a, s :: ss, rfl, h⟩
    | act u n => exact ih h

/-- Whatever states in `I` the program meets, what it returns is in `Q`. -/
inductive Returns (I : σ → Prop) (Q : α → Prop) : Prog σ α → Prop where
  | ret {a : α} : Q a → Returns I Q (ret a)
  | act {u : σ → σ} {n : σ → Prog σ α} : (∀ s, I s → Returns I Q (n s)) → Returns I Q (act u n)

theorem returns_atomic {I : σ → Prop} {Q : α → Prop} {f : σ → α × σ} (h : ∀ s, I s → Q (f s).1) :
    (atomic f).Returns I Q := .act fun s hs => .ret (h s hs)

theorem returns_trivial (I : σ → Prop) (p : Prog σ α) : p.Returns I fun _ => True := by
  induction p with
  | ret a => exact .ret trivial
  | act u n ih => exact .act fun s _ => ih s

theorem Returns.bind {I : σ → Prop} {p : Prog σ α} {k : α → Prog σ β} {Q : α → Prop} {Q' : β → Prop}
    (hp : p.Returns I Q) (hk : ∀ a, Q a → (k a).Returns I Q') : (p >>= k).Returns I Q' := by
  induction hp with
  | ret ha => exact hk _ ha
  | act _ ih => exact .act fun s hs => ih s hs

theorem Returns.feed {I : σ → Prop} {p : Prog σ α} {Q : α → Prop} (hp : p.Returns I Q) {ss : List σ}
    (hss : ∀ s ∈ ss, I s) {a : α} (hret : p.feed ss = .ret a) : Q a := by
  induction hp generalizing ss with
  | ret ha =>
    rw [feed_ret] at hret
    cases hret
    exact ha
  | act _ ih =>
    cases ss with
    | nil => cases hret
    | cons s ss =>
      exact ih s (hss s List.mem_cons_self) (fun t ht => hss t (List.mem_cons_of_mem _ ht)) hret

/-- What the actions put out that the program performs in these states. -/
def emits {β : Type} (out : σ → σ → List β) : Prog σ α → List σ → List β
  | ret _, _ => []
  | act _ _, [] => []
  | act u n, s :: ss => out s (u s) ++ (n s).emits out ss

@[simp] theorem emits_ret {β : Type} (out : σ → σ → List β) (a : α) (ss : List σ) :
    (ret a : Prog σ α).emits out ss = [] := rfl

@[simp] theorem emits_nil {β : Type} (out : σ → σ → List β) (p : Prog σ α) : p.emits out [] = [] := by
  cases p <;> rfl

@[simp] theorem emits_act {β : Type} (out : σ → σ → List β) (u : σ → σ) (n : σ → Prog σ α) (s : σ)
    (ss : List σ) : (act u n).emits out (s :: ss) = out s (u s) ++ (n s).emits out ss := rfl

/-- The program returns within `n` actions, whatever states it meets. -/
def EndsIn (n : Nat) (p : Prog σ α) : Prop := ∀ ss : List σ, n ≤ ss.length → ∃ a, p.feed ss = ret a

theorem endsIn_ret (a : α) (n : Nat) : (ret a : Prog σ α).EndsIn n := fun ss _ => ⟨a, feed_ret a ss⟩

theorem EndsIn.act {u : σ → σ} {n : σ → Prog σ α} {k : Nat} (h : ∀ s, (n s).EndsIn k) :
    (Prog.act u n).EndsIn (k + 1) := by
  intro ss hss
  cases ss with
  | nil => simp at hss
  | cons s ss => exact h s ss (by simpa using hss)

theorem EndsIn.mono {p : Prog σ α} {k m : Nat} (h : p.EndsIn k) (hkm : k ≤ m) : p.EndsIn m :=
  fun ss hss => h ss (Nat.le_trans hkm hss)

/-! ## Straight-line runs -/

/-- The state after the actions `fs`, in order. -/
def replay (fs : List (σ → σ)) (s : σ) : σ := fs.foldl (fun s f => f s) s

@[simp] theorem replay_nil (s : σ) : replay [] s = s := rfl

@[simp] theorem replay_cons (f : σ → σ) (fs : List (σ → σ)) (s : σ) :
    replay (f :: fs) s = replay fs (f s) := rfl

/-- What a program counts on at one of its actions, and what the action then does. -/
structure Move (σ : Type) where
  needs : σ → Prop
  does : σ → σ

/-- Actions that all count on the same. -/
def Move.under (I : σ → Prop) (fs : List (σ → σ)) : List (Move σ) := fs.map (Move.mk I)

@[simp] theorem Move.under_append (I : σ → Prop) (fs gs : List (σ → σ)) :
    Move.under I (fs ++ gs) = Move.under I fs ++ Move.under I gs := List.map_append

/-- The moves made one after the other from `s`, each finds what it needs. -/
def Moves : List (Move σ) → σ → Prop
  | [], _ => True
  | m :: ms, s => m.needs s ∧ Moves ms (m.does s)

/-- As long as each action finds what it needs the program makes these moves and returns a value
that satisfies `Q`, whatever else happens to the state in between. -/
inductive Follows : Prog σ α → List (Move σ) → (α → Prop) → Prop where
  | ret {a : α} {Q : α → Prop} : Q a → Follows (ret a) [] Q
  | act {u : σ → σ} {n : σ → Prog σ α} {m : Move σ} {ms : List (Move σ)} {Q : α → Prop} :
      (∀ s, m.needs s → u s = m.does s) → (∀ s, m.needs s → Follows (n s) ms Q) →
      Follows (act u n) (m :: ms) Q

theorem follows_atomic {I : σ → Prop} {g : σ → α × σ} {f : σ → σ} {Q : α → Prop}
    (h : ∀ s, I s → Q (g s).1 ∧ (g s).2 = f s) : (atomic g).Follows [⟨I, f⟩] Q :=
  .act (fun s hs => (h s hs).2) fun s hs => .ret (h s hs).1

theorem Follows.bind {p : Prog σ α} {k : α → Prog σ β} {ms ms' : List (Move σ)}
    {Q : α → Prop} {Q' : β → Prop} (hp : p.Follows ms Q)
    (hk : ∀ a, Q a → (k a).Follows ms' Q') : (p >>= k).Follows (ms ++ ms') Q' := by
  induction hp with
  | ret ha => exact hk _ ha
  | act hu _ ih => exact .act hu fun s hs => ih s hs hk

theorem Follows.exec {p : Prog σ α} {ms : List (Move σ)} {Q : α → Prop}
    (hp : p.Follows ms Q) {s : σ} (hs : Moves ms s) :
    Q (p.exec s).1 ∧ (p.exec s).2 = replay (ms.map (·.does)) s := by
  induction hp generalizing s with
  | ret ha => exact ⟨ha, rfl⟩
  | act hu _ ih =>
    rw [exec_act, hu s hs.1, List.map_cons, replay_cons]
    exact ih s hs.1 hs.2

theorem Follows.returns {I : σ → Prop} {p : Prog σ α} {ms : List (Move σ)} {Q : α → Prop}
    (hp : p.Follows ms Q) (hI : ∀ m ∈ ms, ∀ s, I s → m.needs s) : p.Returns I Q := by
  induction hp with
  | ret ha => exact .ret ha
  | act _ _ ih =>
    exact .act fun s hs =>
      ih s (hI _ List.mem_cons_self s hs) fun m hm => hI m (List.mem_cons_of_mem _ hm)

/-- Once it has returned, a straight-line program among others has returned a value in `Q`. -/
theorem Follows.feed {I : σ → Prop} {p : Prog σ α} {fs : List (σ → σ)} {Q : α → Prop}
    (hp : p.Follows (Move.under I fs) Q) {ss : List σ} (hss : ∀ s ∈ ss, I s) {a : α}
    (hret : p.feed ss = .ret a) : Q a := by
  refine (hp.returns fun m hm s hs => ?_).feed hss hret
  obtain ⟨f, -, rfl⟩ := List.mem_map.1 hm
  exact hs

/-- Stopped after `n` actions, a straight-line run alone is at the `n`-th state. -/
theorem Follows.after {p : Prog σ α} {ms : List (Move σ)} {Q : α → Prop}
    (hp : p.Follows ms Q) {s : σ} (hs : Moves ms s) (n : Nat) :
    p.after n s = replay ((ms.map (·.does)).take n) s := by
  induction hp generalizing s n with
  | ret ha => cases n <;> rfl
  | act hu _ ih =>
    cases n with
    | zero => rfl
    | succ n =>
      rw [after_act, hu s hs.1, List.map_cons, List.take_succ_cons, replay_cons]
      exact ih s hs.1 hs.2 n

/-! ## Programs that may fail -/

/-- The first failing action ends the program with its error. -/
abbrev Fallible (σ ε α : Type) := ExceptT ε (Prog σ) α

theorem exec_run_bind (x : Fallible σ ε α) (k : α → Fallible σ ε β) (s : σ) :
    (x >>= k).run.exec s =
      match x.run.exec s with
      | (.ok a, t) => (k a).run.exec t
      | (.error e, t) => (.error e, t) := by
  rw [ExceptT.run_bind, exec_bind]
  rcases x.run.exec s with ⟨_ | _, _⟩ <;> rfl

theorem exec_run_bind_ok {x : Fallible σ ε α} {k : α → Fallible σ ε β} {s t : σ} {a : α}
    (h : x.run.exec s = (.ok a, t)) : (x >>= k).run.exec s = (k a).run.exec t := by
  rw [exec_run_bind, h]

theorem exec_run_bind_error {x : Fallible σ ε α} {k : α → Fallible σ ε β} {s t : σ} {e : ε}
    (h : x.run.exec s = (.error e, t)) : (x >>= k).run.exec s = (.error e, t) := by
  rw [exec_run_bind, h]

/-- A sequence that returned a value passed through both of its parts. -/
theorem exec_run_bind_eq_ok {x : Fallible σ ε α} {k : α → Fallible σ ε β} {s t : σ} {b : β}
    (h : (x >>= k).run.exec s = (.ok b, t)) :
    ∃ a u, x.run.exec s = (.ok a, u) ∧ (k a).run.exec u = (.ok b, t) := by
  rw [exec_run_bind] at h
  rcases hx : x.run.exec s with ⟨a | a, u⟩ <;> rw [hx] at h
  · cases h
  · exact ⟨a, u, rfl, h⟩

@[simp] theorem exec_run_pure (a : α) (s : σ) :
    (pure a : Fallible σ ε α).run.exec s = (.ok a, s) := rfl

/-- Among others too. -/
theorem feed_run_bind_eq_ok {x : Fallible σ ε α} {k : α → Fallible σ ε β} {ss : List σ} {b : β}
    (h : (x >>= k).run.feed ss = .ret (.ok b)) :
    ∃ a ts, x.run.feed ss = .ret (.ok a) ∧ (k a).run.feed ts = .ret (.ok b) := by
  rw [ExceptT.run_bind] at h
  obtain ⟨e | a, ts, hx, hk⟩ := feed_bind_ret h
  · cases (feed_ret (Except.error e) ts).symm.trans hk
  · exact ⟨a, ts, hx, hk⟩

theorem Within.run_bind {R : σ → σ → Prop} {x : Fallible σ ε α} {k : α → Fallible σ ε β}
    (hx : x.run.Within R) (hk : ∀ a, (k a).run.Within R) : (x >>= k).run.Within R := by
  rw [ExceptT.run_bind]
  refine hx.bind fun r => ?_
  cases r with
  | ok a => exact hk a
  | error e => exact .ret _

/-- A first part that is known to be within `R` from this state, then one that always is. -/
theorem Within.exec_run_bind {R : σ → σ → Prop} [Std.Refl R] [IsTrans σ R] {x : Fallible σ ε α}
    {k : α → Fallible σ ε β} {s : σ} (hx : R s (x.run.exec s).2) (hk : ∀ a, (k a).run.Within R) :
    R s ((x >>= k).run.exec s).2 := by
  rw [Prog.exec_run_bind]
  rcases h : x.run.exec s with ⟨e | a, t⟩ <;> rw [h] at hx
  · exact hx
  · exact trans_of R hx ((hk a).exec t)

theorem within_run_pure {R : σ → σ → Prop} (a : α) :
    (pure a : Fallible σ ε α).run.Within R := .ret _

/-- Stopped early, a sequence is inside its first part, or the first part returned a value and
it is inside the second. -/
theorem after_run_bind (x : Fallible σ ε α) (k : α → Fallible σ ε β) (n : Nat) (s : σ) :
    (∃ m, (x >>= k).run.after n s = x.run.after m s) ∨
      ∃ a t m, x.run.exec s = (.ok a, t) ∧ (x >>= k).run.after n s = (k a).run.after m t := by
  rw [ExceptT.run_bind]
  rcases after_bind x.run _ n s with h | ⟨m, h⟩
  · exact .inl ⟨n, h⟩
  · rcases hx : x.run.exec s with ⟨e | a, t⟩ <;> rw [hx] at h
    · obtain ⟨m', hm'⟩ := exists_after_exec x.run s
      refine .inl ⟨m', ?_⟩
      rw [hm', hx, h]
      exact after_ret ..
    · exact .inr ⟨a, t, m, rfl, h⟩

theorem exists_after_run_bind (x : Fallible σ ε α) (k : α → Fallible σ ε β) (n : Nat) (s : σ) :
    ∃ m, (x >>= k).run.after m s = x.run.after n s := by
  rw [ExceptT.run_bind]
  exact exists_after_bind ..

theorem exists_after_run_bind_ok {x : Fallible σ ε α} {k : α → Fallible σ ε β} {s t : σ} {a : α}
    (h : x.run.exec s = (.ok a, t)) (n : Nat) :
    ∃ m, (x >>= k).run.after m s = (k a).run.after n t := by
  rw [ExceptT.run_bind]
  refine (exists_after_bind_exec x.run _ n s).imp fun m hm => hm.trans ?_
  rw [h]

theorem Along.run_bind {P : σ → Prop} {x : Fallible σ ε α} {k : α → Fallible σ ε β} {s : σ}
    (hx : Along P x.run s) (hk : ∀ a t, x.run.exec s = (.ok a, t) → P t → Along P (k a).run t) :
    Along P (x >>= k).run s := by
  rw [ExceptT.run_bind]
  refine hx.bind ?_
  have hlast := hx.exec
  rcases h : x.run.exec s with ⟨e | a, t⟩ <;> rw [h] at hlast
  · exact along_ret hlast
  · exact hk a t h hlast

/-- What is within a relation from its start passes through related states only. -/
theorem Within.along {R : σ → σ → Prop} [Std.Refl R] [IsTrans σ R] {p : Prog σ α}
    (hp : p.Within R) (s : σ) : Along (R s) p s := fun n => hp.after n s

theorem along_run_pure {P : σ → Prop} {a : α} {s : σ} (h : P s) :
    Along P (pure a : Fallible σ ε α).run s := along_ret h

theorem Respects.run_bind {R : σ → σ → Prop} {x : Fallible σ ε α} {k : α → Fallible σ ε β}
    (hx : x.run.Respects R) (hk : ∀ a, (k a).run.Respects R) : (x >>= k).run.Respects R := by
  rw [ExceptT.run_bind]
  refine hx.bind fun r => ?_
  cases r with
  | ok a => exact hk a
  | error e => exact .ret _

/-- The result is a value that satisfies `Q`. -/
def OkAnd (Q : α → Prop) : Except ε α → Prop := fun r => ∃ a, r = .ok a ∧ Q a

theorem Follows.run_bind {x : Fallible σ ε α} {k : α → Fallible σ ε β}
    {ms ms' : List (Move σ)} {Q : α → Prop} {Q' : Except ε β → Prop}
    (hx : x.run.Follows ms (OkAnd Q)) (hk : ∀ a, Q a → (k a).run.Follows ms' Q') :
    (x >>= k).run.Follows (ms ++ ms') Q' := by
  rw [ExceptT.run_bind]
  refine hx.bind ?_
  rintro _ ⟨a, rfl, ha⟩
  exact hk a ha

theorem Returns.run_bind {I : σ → Prop} {x : Fallible σ ε α} {k : α → Fallible σ ε β} {Q : α → Prop}
    {Q' : Except ε β → Prop} (hx : x.run.Returns I (OkAnd Q)) (hk : ∀ a, Q a → (k a).run.Returns I Q') :
    (x >>= k).run.Returns I Q' := by
  rw [ExceptT.run_bind]
  refine hx.bind ?_
  rintro _ ⟨a, rfl, ha⟩
  exact hk a ha

theorem returns_run_pure {I : σ → Prop} {a : α} {Q : α → Prop} (ha : Q a) :
    (pure a : Fallible σ ε α).run.Returns I (OkAnd Q) := .ret ⟨a, rfl, ha⟩

theorem follows_run_pure {a : α} {Q : α → Prop} (ha : Q a) :
    (pure a : Fallible σ ε α).run.Follows [] (OkAnd Q) := .ret ⟨a, rfl, ha⟩

/-! ### Lifting actions and errors -/

/-- One atomic action that cannot fail. -/
def liftAct (f : σ → α × σ) : Fallible σ ε α :=
  ExceptT.mk (atomic fun s => (.ok (f s).1, (f s).2))

def liftResult (r : Except ε α) : Fallible σ ε α := ExceptT.mk (ret r)

/-- The result of a program that may fail, error or not, as a value. -/
def attempt {ε' : Type} (x : Fallible σ ε α) : Fallible σ ε' (Except ε α) :=
  ExceptT.mk (x.run >>= fun r => ret (.ok r))

/-- `map_err`. -/
def mapErr {ε' : Type} (f : ε → ε') (x : Fallible σ ε α) : Fallible σ ε' α :=
  ExceptT.mk (x.run >>= fun r => ret (r.mapError f))

@[simp] theorem exec_run_liftAct (f : σ → α × σ) (s : σ) :
    (liftAct f : Fallible σ ε α).run.exec s = (.ok (f s).1, (f s).2) := rfl

@[simp] theorem exec_run_liftResult (r : Except ε α) (s : σ) :
    (liftResult r : Fallible σ ε α).run.exec s = (r, s) := rfl

@[simp] theorem exec_run_attempt {ε' : Type} (x : Fallible σ ε α) (s : σ) :
    (attempt x : Fallible σ ε' _).run.exec s = (.ok (x.run.exec s).1, (x.run.exec s).2) := by
  show (x.run >>= fun r => ret (Except.ok r)).exec s = _
  rw [exec_bind]
  rfl

@[simp] theorem exec_run_mapErr {ε' : Type} (f : ε → ε') (x : Fallible σ ε α) (s : σ) :
    (mapErr f x).run.exec s = ((x.run.exec s).1.mapError f, (x.run.exec s).2) := by
  change (x.run >>= fun r => ret (r.mapError f)).exec s = _
  rw [exec_bind]
  rfl

theorem exec_run_mapErr_eq_ok {ε' : Type} {f : ε → ε'} {x : Fallible σ ε α} {s t : σ} {a : α}
    (h : (mapErr f x).run.exec s = (.ok a, t)) : x.run.exec s = (.ok a, t) := by
  rw [exec_run_mapErr] at h
  rcases hx : x.run.exec s with ⟨e | b, u⟩ <;> rw [hx] at h <;> cases h
  rfl

theorem within_run_liftAct {R : σ → σ → Prop} {f : σ → α × σ} (h : ∀ s, R s (f s).2) :
    (liftAct f : Fallible σ ε α).run.Within R := within_atomic h

theorem within_run_liftResult {R : σ → σ → Prop} (r : Except ε α) :
    (liftResult r : Fallible σ ε α).run.Within R := .ret _

theorem Within.run_mapErr {R : σ → σ → Prop} {ε' : Type} {f : ε → ε'} {x : Fallible σ ε α}
    (hx : x.run.Within R) : (mapErr f x).run.Within R := hx.bind fun _ => .ret _

theorem along_run_liftAct {P : σ → Prop} {f : σ → α × σ} {s : σ} (h : P s) (h' : P (f s).2) :
    Along P (liftAct f : Fallible σ ε α).run s := along_atomic h h'

theorem along_run_liftResult {P : σ → Prop} {r : Except ε α} {s : σ} (h : P s) :
    Along P (liftResult r : Fallible σ ε α).run s := along_ret h

theorem Along.run_mapErr {P : σ → Prop} {ε' : Type} {f : ε → ε'} {x : Fallible σ ε α} {s : σ}
    (hx : Along P x.run s) : Along P (mapErr f x).run s := hx.bind (along_ret hx.exec)

theorem respects_run_liftResult {R : σ → σ → Prop} (r : Except ε α) :
    (liftResult r : Fallible σ ε α).run.Respects R := .ret _

theorem Respects.run_mapErr {R : σ → σ → Prop} {ε' : Type} {f : ε → ε'} {x : Fallible σ ε α}
    (hx : x.run.Respects R) : (mapErr f x).run.Respects R := hx.bind fun _ => .ret _

theorem follows_run_liftAct {I : σ → Prop} {g : σ → α × σ} {f : σ → σ} {Q : α → Prop}
    (h : ∀ s, I s → Q (g s).1 ∧ (g s).2 = f s) :
    (liftAct g : Fallible σ ε α).run.Follows [⟨I, f⟩] (OkAnd Q) :=
  follows_atomic fun s hs => ⟨⟨_, rfl, (h s hs).1⟩, (h s hs).2⟩

theorem follows_run_liftResult {a : α} {Q : α → Prop} (ha : Q a) :
    (liftResult (.ok a) : Fallible σ ε α).run.Follows [] (OkAnd Q) := .ret ⟨a, rfl, ha⟩

theorem Returns.run_mapErr {I : σ → Prop} {ε' : Type} {f : ε → ε'} {x : Fallible σ ε α} {Q : α → Prop}
    (hx : x.run.Returns I (OkAnd Q)) : (mapErr f x).run.Returns I (OkAnd Q) := by
  refine hx.bind ?_
  rintro _ ⟨a, rfl, ha⟩
  exact .ret ⟨a, rfl, ha⟩

theorem Follows.run_mapErr {ε' : Type} {f : ε → ε'} {x : Fallible σ ε α}
    {ms : List (Move σ)} {Q : α → Prop} (hx : x.run.Follows ms (OkAnd Q)) :
    (mapErr f x).run.Follows ms (OkAnd Q) := by
  rw [← List.append_nil ms]
  refine hx.bind ?_
  rintro _ ⟨a, rfl, ha⟩
  exact .ret ⟨a, rfl, ha⟩

/-! ### Triples -/

section Triples

variable {P : σ → Prop} {Q : α → σ → Prop} {E : σ → Prop}

/-- From a state with `P` the program returns a value with `Q`, or an error in a state with
`E`. -/
def Triple (P : σ → Prop) (x : Fallible σ ε α) (Q : α → σ → Prop) (E : σ → Prop) : Prop :=
  ∀ s, P s → (∃ a t, x.run.exec s = (.ok a, t) ∧ Q a t) ∨ ∃ e t, x.run.exec s = (.error e, t) ∧ E t

theorem Triple.run_bind {x : Fallible σ ε α} {k : α → Fallible σ ε β} {R : β → σ → Prop}
    (hx : Triple P x Q E) (hk : ∀ a, Triple (Q a) (k a) R E) : Triple P (x >>= k) R E := by
  intro s hs
  rcases hx s hs with ⟨a, t, hexec, ht⟩ | ⟨e, t, hexec, ht⟩
  · rw [exec_run_bind_ok hexec]
    exact hk a t ht
  · exact .inr ⟨e, t, exec_run_bind_error hexec, ht⟩

theorem Triple.conseq {P' : σ → Prop} {Q' : α → σ → Prop} {E' : σ → Prop} {x : Fallible σ ε α}
    (hx : Triple P x Q E) (hP : ∀ s, P' s → P s) (hQ : ∀ a s, Q a s → Q' a s) (hE : ∀ s, E s → E' s) :
    Triple P' x Q' E' := by
  intro s hs
  rcases hx s (hP s hs) with ⟨a, t, hexec, ht⟩ | ⟨e, t, hexec, ht⟩
  · exact .inl ⟨a, t, hexec, hQ a t ht⟩
  · exact .inr ⟨e, t, hexec, hE t ht⟩

theorem Triple.run_mapErr {ε' : Type} {f : ε → ε'} {x : Fallible σ ε α} (hx : Triple P x Q E) :
    Triple P (mapErr f x) Q E := by
  intro s hs
  rw [exec_run_mapErr]
  rcases hx s hs with ⟨a, t, hexec, ht⟩ | ⟨e, t, hexec, ht⟩ <;> rw [hexec]
  · exact .inl ⟨a, t, rfl, ht⟩
  · exact .inr ⟨f e, t, rfl, ht⟩

theorem triple_run_pure {a : α} (h : ∀ s, P s → Q a s) : Triple P (pure a : Fallible σ ε α) Q E :=
  fun s hs => .inl ⟨a, s, rfl, h s hs⟩

theorem triple_run_liftAct {f : σ → α × σ} (h : ∀ s, P s → Q (f s).1 (f s).2) :
    Triple P (liftAct f : Fallible σ ε α) Q E :=
  fun s hs => .inl ⟨_, _, rfl, h s hs⟩

/-- What every action keeps holds at the end, whatever the end. -/
theorem Within.triple {I : σ → Prop} {x : Fallible σ ε α} (hx : x.run.Within (Keeps I)) :
    Triple I x (fun _ => I) I := by
  intro s hs
  have hlast := hx.exec s hs
  rcases hexec : x.run.exec s with ⟨e | a, t⟩ <;> rw [hexec] at hlast
  · exact .inr ⟨e, t, rfl, hlast⟩
  · exact .inl ⟨a, t, rfl, hlast⟩

end Triples

end Prog

end Atomics
