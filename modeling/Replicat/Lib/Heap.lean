import Mathlib.Logic.Function.Basic

/-!
# Blocks of memory and their owners

A heap of allocated blocks. To free, read or write a block that is not there is undefined (`none`).
`Owns owner m` says that every block of `m` has one owner, which knows its size: what an owner does to
its block is then defined, and leaves the others' contents alone.
-/

namespace Malloc

/-- A pointer that is not null. -/
abbrev Ptr := Nat

/-- A pointer, and how much it points to. -/
structure Region where
  ptr : Ptr
  size : Nat
  deriving DecidableEq, Repr

structure Heap (β : Type) where
  block : Ptr → Option (List β)

/-- What becomes of a request for memory: a new block, with anything in it, or null. -/
structure Allocator (β : Type) where
  malloc : Heap β → Nat → Option (Ptr × List β)
  fresh : ∀ {m n p b}, malloc m n = some (p, b) → m.block p = none
  length : ∀ {m n p b}, malloc m n = some (p, b) → b.length = n

namespace Heap

variable {β : Type}

def empty : Heap β := ⟨fun _ => none⟩

def alloc (a : Allocator β) (m : Heap β) (n : Nat) : Option Ptr × Heap β :=
  match a.malloc m n with
  | none => (none, m)
  | some (p, b) => (some p, ⟨Function.update m.block p (some b)⟩)

def free (m : Heap β) (p : Ptr) : Option (Heap β) :=
  (m.block p).map fun _ => ⟨Function.update m.block p none⟩

def load (m : Heap β) (r : Region) : Option (List β) :=
  (m.block r.ptr).bind fun b => if r.size ≤ b.length then some (b.take r.size) else none

def store (m : Heap β) (p : Ptr) (data : List β) : Option (Heap β) :=
  (m.block p).bind fun b =>
    if data.length ≤ b.length then some ⟨Function.update m.block p (some (data ++ b.drop data.length))⟩ else none

end Heap

variable {β κ : Type}

/-- What each owner has in its block. -/
def contents (owner : κ → Option Region) (m : Heap β) (k : κ) : Option (List β) := (owner k).bind m.load

/-- Every block has one owner, which knows its size. -/
structure Owns (owner : κ → Option Region) (m : Heap β) : Prop where
  block : ∀ k r, owner k = some r → ∃ b, m.block r.ptr = some b ∧ b.length = r.size
  apart : ∀ k k' r r', owner k = some r → owner k' = some r' → r.ptr = r'.ptr → k = k'
  owned : ∀ p b, m.block p = some b → ∃ k r, owner k = some r ∧ r.ptr = p

section Owns

variable {owner : κ → Option Region} {m : Heap β} {k k' : κ} {r : Region}

theorem owns_empty : Owns (fun _ : κ => none) (Heap.empty : Heap β) :=
  ⟨fun _ _ h => (nomatch h), fun _ _ _ _ h => (nomatch h), fun _ _ h => (nomatch h)⟩

theorem contents_none (h : owner k = none) : contents owner m k = none := by
  unfold contents
  rw [h]
  rfl

theorem Owns.load (ho : Owns owner m) (hk : owner k = some r) :
    ∃ b, m.block r.ptr = some b ∧ b.length = r.size ∧ m.load r = some b := by
  obtain ⟨b, hb, hlength⟩ := ho.block k r hk
  refine ⟨b, hb, hlength, ?_⟩
  unfold Heap.load
  rw [hb, Option.bind_some, if_pos (Nat.le_of_eq hlength.symm), ← hlength, List.take_length]

theorem Owns.contents_some (ho : Owns owner m) (hk : owner k = some r) :
    ∃ b, contents owner m k = some b ∧ b.length = r.size ∧ m.load r = some b := by
  obtain ⟨b, -, hlength, hload⟩ := ho.load hk
  refine ⟨b, ?_, hlength, hload⟩
  unfold contents
  rw [hk, Option.bind_some, hload]

variable [DecidableEq κ]

/-- **One owner's block changes**, and the others' stay. -/
theorem Owns.change (ho : Owns owner m) (k : κ) (x : Option Region) (m' : Heap β)
    (hself : ∀ r, x = some r → ∃ b, m'.block r.ptr = some b ∧ b.length = r.size)
    (hothers : ∀ j r, j ≠ k → owner j = some r → m'.block r.ptr = m.block r.ptr ∧ ∀ r', x = some r' → r.ptr ≠ r'.ptr)
    (howned : ∀ p b, m'.block p = some b →
      (∃ r, x = some r ∧ r.ptr = p) ∨ ∃ j r, j ≠ k ∧ owner j = some r ∧ r.ptr = p) :
    Owns (Function.update owner k x) m' ∧
      contents (Function.update owner k x) m' = Function.update (contents owner m) k (x.bind m'.load) := by
  refine ⟨⟨fun j r hj => ?_, fun j j' r r' hj hj' hptr => ?_, fun p b hp => ?_⟩, funext fun j => ?_⟩
  · by_cases hjk : j = k
    · subst hjk
      exact hself r (by rwa [Function.update_self] at hj)
    · rw [Function.update_of_ne hjk] at hj
      rw [(hothers j r hjk hj).1]
      exact ho.block j r hj
  · by_cases hjk : j = k <;> by_cases hjk' : j' = k
    · rw [hjk, hjk']
    · subst hjk
      rw [Function.update_self] at hj
      rw [Function.update_of_ne hjk'] at hj'
      exact absurd hptr.symm ((hothers j' r' hjk' hj').2 r hj)
    · subst hjk'
      rw [Function.update_self] at hj'
      rw [Function.update_of_ne hjk] at hj
      exact absurd hptr ((hothers j r hjk hj).2 r' hj')
    · rw [Function.update_of_ne hjk] at hj
      rw [Function.update_of_ne hjk'] at hj'
      exact ho.apart j j' r r' hj hj' hptr
  · rcases howned p b hp with ⟨r, hr, hptr⟩ | ⟨j, r, hjk, hj, hptr⟩
    · exact ⟨k, r, by rw [Function.update_self, hr], hptr⟩
    · exact ⟨j, r, by rw [Function.update_of_ne hjk, hj], hptr⟩
  · by_cases hjk : j = k
    · subst hjk
      unfold contents
      rw [Function.update_self, Function.update_self]
    · unfold contents
      rw [Function.update_of_ne hjk, Function.update_of_ne hjk]
      cases hj : owner j with
      | none => rfl
      | some r =>
        simp only [Option.bind_some, Heap.load]
        rw [(hothers j r hjk hj).1]

omit [DecidableEq κ] in
/-- The blocks of the others, for one that has a block. -/
theorem Owns.ptr_ne (ho : Owns owner m) (hk : owner k = some r) {j : κ} {r' : Region} (hjk : j ≠ k)
    (hj : owner j = some r') : r'.ptr ≠ r.ptr := fun hptr => hjk (ho.apart j k r' r hj hk hptr)

/-- Whose block it is. -/
theorem Owns.owned_or (ho : Owns owner m) (k : κ) {p : Ptr} {b : List β} (hp : m.block p = some b) :
    (∃ r, owner k = some r ∧ r.ptr = p) ∨ ∃ j r, j ≠ k ∧ owner j = some r ∧ r.ptr = p := by
  obtain ⟨j, r, hj, hptr⟩ := ho.owned p b hp
  by_cases hjk : j = k
  · exact .inl ⟨r, hjk ▸ hj, hptr⟩
  · exact .inr ⟨j, r, hjk, hj, hptr⟩

/-- **An owner frees its block.** -/
theorem Owns.free (ho : Owns owner m) (hk : owner k = some r) :
    ∃ m', m.free r.ptr = some m' ∧ Owns (Function.update owner k none) m' ∧
      contents (Function.update owner k none) m' = Function.update (contents owner m) k none := by
  obtain ⟨b, hb, -⟩ := ho.block k r hk
  refine ⟨⟨Function.update m.block r.ptr none⟩, by rw [Heap.free, hb]; rfl, ho.change k none _ nofun
    (fun j r' hjk hj => ⟨Function.update_of_ne (ho.ptr_ne hk hjk hj) .., nofun⟩) fun p c hp => .inr ?_⟩
  have hpr : p ≠ r.ptr := by
    rintro rfl
    exact nomatch (Function.update_self ..).symm.trans hp
  refine (ho.owned_or k ((Function.update_of_ne hpr ..).symm.trans hp)).resolve_left ?_
  rintro ⟨r', hr', rfl⟩
  rw [hk] at hr'
  cases hr'
  exact hpr rfl

/-- **An owner fills its block.** -/
theorem Owns.store (ho : Owns owner m) (hk : owner k = some r) {data : List β} (hdata : data.length = r.size) :
    ∃ m', m.store r.ptr data = some m' ∧ Owns owner m' ∧
      contents owner m' = Function.update (contents owner m) k (some data) := by
  obtain ⟨b, hb, hlength⟩ := ho.block k r hk
  have hfits : data.length = b.length := hdata.trans hlength.symm
  have howned : ∀ p c, Function.update m.block r.ptr (some data) p = some c →
      (∃ r', some r = some r' ∧ r'.ptr = p) ∨ ∃ j r', j ≠ k ∧ owner j = some r' ∧ r'.ptr = p := by
    intro p c hp
    by_cases hpr : p = r.ptr
    · exact .inl ⟨r, rfl, hpr.symm⟩
    · exact hk ▸ ho.owned_or k ((Function.update_of_ne hpr ..).symm.trans hp)
  obtain ⟨howns, hcontents⟩ := ho.change k (some r) ⟨Function.update m.block r.ptr (some data)⟩
    (fun r' hr' => by cases hr'; exact ⟨data, Function.update_self .., hdata⟩)
    (fun j r' hjk hj => ⟨Function.update_of_ne (ho.ptr_ne hk hjk hj) .., fun r'' hr'' => by
      cases hr''
      exact ho.ptr_ne hk hjk hj⟩) howned
  have hload : (some r).bind (Heap.load ⟨Function.update m.block r.ptr (some data)⟩) = some data := by
    simp [Heap.load, ← hdata]
  rw [← hk, Function.update_eq_self] at howns hcontents
  rw [hk, hload] at hcontents
  refine ⟨_, ?_, howns, hcontents⟩
  rw [Heap.store, hb, Option.bind_some, if_pos (Nat.le_of_eq hfits), hfits, List.drop_length, List.append_nil]

/-- **A request for memory**, of one that has none: a block of its own, or nothing happens. -/
theorem Owns.alloc (ho : Owns owner m) (hk : owner k = none) (a : Allocator β) (n : Nat) :
    (a.malloc m n = none ∧ m.alloc a n = (none, m)) ∨
      ∃ p m', m.alloc a n = (some p, m') ∧ Owns (Function.update owner k (some ⟨p, n⟩)) m' ∧
        ∃ b, contents (Function.update owner k (some ⟨p, n⟩)) m' = Function.update (contents owner m) k (some b) := by
  unfold Heap.alloc
  cases h : a.malloc m n with
  | none => exact .inl ⟨rfl, rfl⟩
  | some x =>
    obtain ⟨p, b⟩ := x
    obtain rfl := a.length h
    have hnew : ∀ {j r}, owner j = some r → r.ptr ≠ p := by
      rintro j r hj rfl
      obtain ⟨c, hc, -⟩ := ho.block j r hj
      rw [a.fresh h] at hc
      cases hc
    have howned : ∀ q c, Function.update m.block p (some b) q = some c →
        (∃ r, some (⟨p, b.length⟩ : Region) = some r ∧ r.ptr = q) ∨ ∃ j r, j ≠ k ∧ owner j = some r ∧ r.ptr = q := by
      intro q c hq
      by_cases hqp : q = p
      · exact .inl ⟨_, rfl, hqp.symm⟩
      · refine .inr ((ho.owned_or k ((Function.update_of_ne hqp ..).symm.trans hq)).resolve_left ?_)
        rintro ⟨r, hr, -⟩
        rw [hk] at hr
        cases hr
    obtain ⟨howns, hcontents⟩ := ho.change k (some ⟨p, b.length⟩) ⟨Function.update m.block p (some b)⟩
      (fun r hr => by cases hr; exact ⟨b, Function.update_self .., rfl⟩)
      (fun j r _ hj => ⟨Function.update_of_ne (hnew hj) .., fun r' hr' => by cases hr'; exact hnew hj⟩) howned
    exact .inr ⟨p, _, rfl, howns, _, by simpa [Heap.load] using hcontents⟩

/-- An owner passes its block on. -/
theorem Owns.move (ho : Owns owner m) (hk : owner k = some r) (hk' : owner k' = none) :
    Owns (Function.update (Function.update owner k none) k' (some r)) m ∧
      contents (Function.update (Function.update owner k none) k' (some r)) m =
        Function.update (Function.update (contents owner m) k none) k' (contents owner m k) := by
  have hne : k ≠ k' := by
    rintro rfl
    rw [hk] at hk'
    cases hk'
  -- where a block is now, and where it was
  have hwas : ∀ {j r'}, Function.update (Function.update owner k none) k' (some r) j = some r' →
      owner (if j = k' then k else j) = some r' ∧ j ≠ k := by
    intro j r' hj
    by_cases hjk' : j = k'
    · subst hjk'
      rw [Function.update_self] at hj
      cases hj
      rw [if_pos rfl]
      exact ⟨hk, hne.symm⟩
    · rw [Function.update_of_ne hjk'] at hj
      rw [if_neg hjk']
      by_cases hjk : j = k
      · subst hjk
        rw [Function.update_self] at hj
        cases hj
      · rw [Function.update_of_ne hjk] at hj
        exact ⟨hj, hjk⟩
  refine ⟨⟨fun j r' hj => ho.block _ r' (hwas hj).1, fun j j' r₁ r₂ hj hj' hptr => ?_, fun q c hq => ?_⟩,
    funext fun j => ?_⟩
  · have hsame := ho.apart _ _ r₁ r₂ (hwas hj).1 (hwas hj').1 hptr
    by_cases hjk : j = k' <;> by_cases hjk' : j' = k'
    · rw [hjk, hjk']
    · rw [if_pos hjk, if_neg hjk'] at hsame
      exact absurd hsame.symm (hwas hj').2
    · rw [if_neg hjk, if_pos hjk'] at hsame
      exact absurd hsame (hwas hj).2
    · rwa [if_neg hjk, if_neg hjk'] at hsame
  · obtain ⟨j, r', hj, hr'⟩ := ho.owned q c hq
    by_cases hjk : j = k
    · subst hjk
      rw [hk] at hj
      cases hj
      exact ⟨k', r, Function.update_self .., hr'⟩
    · have hjk' : j ≠ k' := by
        rintro rfl
        rw [hk'] at hj
        cases hj
      refine ⟨j, r', ?_, hr'⟩
      rw [Function.update_of_ne hjk', Function.update_of_ne hjk, hj]
  · unfold contents
    by_cases hjk' : j = k'
    · subst hjk'
      simp [hk]
    · by_cases hjk : j = k
      · subst hjk
        simp [hjk']
      · simp [hjk, hjk']

end Owns

end Malloc
