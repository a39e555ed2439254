import Mathlib.Data.List.Sort
import Mathlib.Tactic.Common

/-!
# Rowid tables with a unique integer key

A SQLite table whose declared primary key is not the rowid: the rows are stored by rowid and
a second index orders them by the key column. `upsert` keeps the rowid of a row it updates
and gives a new row the largest rowid plus one. A query without `ORDER BY` reads the rows in
rowid order or along the key's index, so the order of what it returns is the order of the
keys in both cases only while `KeyOrdered` holds.
-/

namespace Sqlite

structure TableRow (α : Type) where
  rowid : Nat
  key : Int
  val : α
  deriving DecidableEq, Repr

structure RowidTable (α : Type) where
  rows : List (TableRow α)
  ascending : rows.Pairwise (·.rowid < ·.rowid)
  unique : (rows.map (·.key)).Nodup
  deriving DecidableEq

/-- The order in which a query without `ORDER BY` visits the rows. -/
inductive ScanOrder where
  | rowid
  | key
  deriving DecidableEq, Repr

namespace RowidTable

variable {α : Type}

def empty : RowidTable α := ⟨[], .nil, List.nodup_nil⟩

instance : Inhabited (RowidTable α) := ⟨empty⟩

/-- The row that holds `key`. -/
def row? (t : RowidTable α) (key : Int) : Option (TableRow α) := t.rows.find? (·.key = key)

def lookup (t : RowidTable α) (key : Int) : Option α := (t.row? key).map (·.val)

/-- The largest rowid plus one. -/
def nextRowid (t : RowidTable α) : Nat := t.rows.foldl (fun m r => max m r.rowid) 0 + 1

/-- The rows after `INSERT ... ON CONFLICT(key) DO UPDATE`. -/
def upsertRows (t : RowidTable α) (key : Int) (val : α) : List (TableRow α) :=
  if (t.row? key).isSome then t.rows.map fun r => if r.key = key then { r with val } else r
  else t.rows ++ [⟨t.nextRowid, key, val⟩]

theorem foldl_max_init (l : List (TableRow α)) (m : Nat) :
    m ≤ l.foldl (fun m r => max m r.rowid) m := by
  induction l generalizing m with
  | nil => exact Nat.le_refl _
  | cons r l ih => exact (Nat.le_max_left _ _).trans (ih _)

theorem rowid_le_foldl_max {l : List (TableRow α)} {r : TableRow α} (h : r ∈ l) (m : Nat) :
    r.rowid ≤ l.foldl (fun m r => max m r.rowid) m := by
  induction l generalizing m with
  | nil => cases h
  | cons r' l ih =>
    rcases List.mem_cons.1 h with rfl | h
    · exact (Nat.le_max_right _ _).trans (foldl_max_init l _)
    · exact ih h _

theorem rowid_lt_nextRowid (t : RowidTable α) {r : TableRow α} (h : r ∈ t.rows) :
    r.rowid < t.nextRowid := Nat.lt_succ_of_le (rowid_le_foldl_max h 0)

theorem row?_eq_none {t : RowidTable α} {key : Int} :
    t.row? key = none ↔ ∀ r ∈ t.rows, r.key ≠ key := by
  simp [row?]

theorem row?_eq_some {t : RowidTable α} {key : Int} {r : TableRow α} :
    t.row? key = some r ↔ r ∈ t.rows ∧ r.key = key := by
  constructor
  · intro h
    exact ⟨List.mem_of_find?_eq_some h, by simpa using List.find?_some h⟩
  · rintro ⟨hr, rfl⟩
    cases h : t.row? r.key with
    | none => exact absurd rfl (row?_eq_none.1 h r hr)
    | some r' =>
      have hk : r'.key = r.key := by simpa using List.find?_some h
      exact congrArg some (List.inj_on_of_nodup_map t.unique (List.mem_of_find?_eq_some h) hr hk)

/-- Updating a row's value leaves the keys and rowids of the table alone. -/
theorem map_update {β : Type} (t : RowidTable α) (f : TableRow α → β) (key : Int) (val : α)
    (hf : ∀ r : TableRow α, f { r with val } = f r) :
    (t.rows.map fun r => if r.key = key then { r with val } else r).map f = t.rows.map f := by
  rw [List.map_map]
  refine List.map_congr_left fun r _ => ?_
  by_cases h : r.key = key
  · simpa [h] using hf r
  · simp [h]

theorem pairwise_rowid_iff {l : List (TableRow α)} :
    l.Pairwise (·.rowid < ·.rowid) ↔ (l.map (·.rowid)).Pairwise (· < ·) := List.pairwise_map.symm

def upsert (t : RowidTable α) (key : Int) (val : α) : RowidTable α where
  rows := t.upsertRows key val
  ascending := by
    unfold upsertRows
    split
    · rw [pairwise_rowid_iff, t.map_update _ key val fun _ => rfl, ← pairwise_rowid_iff]
      exact t.ascending
    · refine List.pairwise_append.2 ⟨t.ascending, List.pairwise_singleton _ _, ?_⟩
      intro a ha b hb
      rw [List.mem_singleton.1 hb]
      exact t.rowid_lt_nextRowid ha
  unique := by
    unfold upsertRows
    split
    · rw [t.map_update _ key val fun _ => rfl]
      exact t.unique
    · rename_i hk
      rw [List.map_append, List.map_singleton, List.nodup_append]
      refine ⟨t.unique, List.nodup_singleton _, ?_⟩
      intro a ha b hb
      obtain ⟨r, hr, rfl⟩ := List.mem_map.1 ha
      rw [List.mem_singleton.1 hb]
      exact row?_eq_none.1 (by simpa using hk) r hr

/-- A new key goes last. -/
theorem rows_upsert_new {t : RowidTable α} {key : Int} (h : t.row? key = none) (val : α) :
    (t.upsert key val).rows = t.rows ++ [⟨t.nextRowid, key, val⟩] := by
  change t.upsertRows key val = _
  unfold upsertRows
  rw [h]
  rfl

/-- `DELETE ... WHERE`, on the key column. -/
def deleteWhere (t : RowidTable α) (p : Int → Bool) : RowidTable α where
  rows := t.rows.filter fun r => !p r.key
  ascending := t.ascending.filter _
  unique := t.unique.sublist (List.filter_sublist.map _)

def scan (t : RowidTable α) : ScanOrder → List (TableRow α)
  | .rowid => t.rows
  | .key => t.rows.mergeSort fun a b => a.key ≤ b.key

/-- `ORDER BY key DESC LIMIT 1`. -/
def last? (t : RowidTable α) : Option (TableRow α) := (t.scan .key).getLast?

/-! ## Lookups after an update -/

theorem mem_upsert {t : RowidTable α} {key : Int} {val : α} {r : TableRow α} :
    r ∈ (t.upsert key val).rows ↔
      (r ∈ t.rows ∧ r.key ≠ key) ∨
        (r.key = key ∧ r.val = val ∧ r.rowid = ((t.row? key).map (·.rowid)).getD t.nextRowid) := by
  change r ∈ t.upsertRows key val ↔ _
  unfold upsertRows
  cases hk : t.row? key with
  | none =>
    have hne := row?_eq_none.1 hk
    simp only [Option.isSome_none, Bool.false_eq_true, ↓reduceIte, List.mem_append,
      List.mem_singleton, Option.map_none, Option.getD_none]
    constructor
    · rintro (h | rfl)
      · exact .inl ⟨h, hne r h⟩
      · exact .inr ⟨rfl, rfl, rfl⟩
    · rintro (h | ⟨h1, h2, h3⟩)
      · exact .inl h.1
      · right; cases r; simp_all
  | some r0 =>
    obtain ⟨hr0, rfl⟩ := row?_eq_some.1 hk
    simp only [Option.isSome_some, ↓reduceIte, List.mem_map, Option.map_some, Option.getD_some]
    constructor
    · rintro ⟨a, ha, rfl⟩
      by_cases h : a.key = r0.key
      · have : a = r0 := List.inj_on_of_nodup_map t.unique ha hr0 h
        subst this
        exact .inr (by simp)
      · simp only [h, ↓reduceIte]
        exact .inl ⟨ha, h⟩
    · rintro (⟨h, hne⟩ | ⟨h1, h2, h3⟩)
      · exact ⟨r, h, by simp [hne]⟩
      · exact ⟨r0, hr0, by cases r; simp_all⟩

theorem lookup_eq_some {t : RowidTable α} {key : Int} {val : α} :
    t.lookup key = some val ↔ ∃ r ∈ t.rows, r.key = key ∧ r.val = val := by
  simp only [lookup, Option.map_eq_some_iff, row?_eq_some, and_assoc]

@[simp] theorem lookup_upsert_self (t : RowidTable α) (key : Int) (val : α) :
    (t.upsert key val).lookup key = some val := by
  refine lookup_eq_some.2 ⟨⟨_, key, val⟩, mem_upsert.2 (.inr ⟨rfl, rfl, rfl⟩), rfl, rfl⟩

@[simp] theorem lookup_upsert_ne (t : RowidTable α) {key k : Int} (h : k ≠ key) (val : α) :
    (t.upsert key val).lookup k = t.lookup k := by
  refine Option.ext fun v => ?_
  simp only [lookup_eq_some, mem_upsert]
  constructor
  · rintro ⟨r, ⟨hr, -⟩ | ⟨hr, -⟩, rfl, hv⟩
    · exact ⟨r, hr, rfl, hv⟩
    · exact absurd hr h
  · rintro ⟨r, hr, rfl, hv⟩
    exact ⟨r, .inl ⟨hr, h⟩, rfl, hv⟩

@[simp] theorem mem_deleteWhere {t : RowidTable α} {p : Int → Bool} {r : TableRow α} :
    r ∈ (t.deleteWhere p).rows ↔ r ∈ t.rows ∧ p r.key = false := by
  simp [deleteWhere]

theorem lookup_deleteWhere (t : RowidTable α) (p : Int → Bool) (key : Int) :
    (t.deleteWhere p).lookup key = if p key then none else t.lookup key := by
  refine Option.ext fun v => ?_
  by_cases h : p key
  · simp only [h, ↓reduceIte, lookup_eq_some, mem_deleteWhere]
    constructor
    · rintro ⟨r, ⟨-, hp⟩, rfl, -⟩
      rw [h] at hp
      cases hp
    · intro h
      cases h
  · simp only [h, Bool.false_eq_true, ↓reduceIte, lookup_eq_some, mem_deleteWhere]
    constructor
    · rintro ⟨r, ⟨hr, -⟩, hk, hv⟩
      exact ⟨r, hr, hk, hv⟩
    · rintro ⟨r, hr, rfl, hv⟩
      exact ⟨r, ⟨hr, by simpa using h⟩, rfl, hv⟩

/-! ## The order of a scan -/

/-- The rowid order of the rows is the order of their keys. -/
def KeyOrdered (t : RowidTable α) : Prop := t.rows.Pairwise (·.key < ·.key)

theorem keyOrdered_empty : (empty : RowidTable α).KeyOrdered := .nil

theorem mem_scan {t : RowidTable α} {o : ScanOrder} {r : TableRow α} :
    r ∈ t.scan o ↔ r ∈ t.rows := by
  cases o with
  | rowid => rfl
  | key => exact List.mem_mergeSort

theorem KeyOrdered.scan_eq {t : RowidTable α} (h : t.KeyOrdered) (o : ScanOrder) :
    t.scan o = t.rows := by
  cases o with
  | rowid => rfl
  | key => exact List.mergeSort_of_pairwise (h.imp fun {a b} hab => by simpa using Int.le_of_lt hab)

theorem KeyOrdered.deleteWhere {t : RowidTable α} (h : t.KeyOrdered) (p : Int → Bool) :
    (t.deleteWhere p).KeyOrdered := List.Pairwise.filter _ h

/-- An upsert keeps the order when it updates a row, or adds one above every stored key. -/
theorem KeyOrdered.upsert {t : RowidTable α} (h : t.KeyOrdered) {key : Int}
    (hk : (t.row? key).isSome ∨ ∀ r ∈ t.rows, r.key < key) (val : α) :
    (t.upsert key val).KeyOrdered := by
  change (t.upsertRows key val).Pairwise _
  unfold upsertRows
  split
  · rw [← List.pairwise_map (f := fun r : TableRow α => r.key) (R := (· < ·)),
      t.map_update _ key val fun _ => rfl]
    exact List.pairwise_map.2 h
  · rename_i hnone
    refine List.pairwise_append.2 ⟨h, List.pairwise_singleton _ _, ?_⟩
    intro a ha b hb
    rw [List.mem_singleton.1 hb]
    exact hk.resolve_left hnone a ha

/-- `ORDER BY key DESC LIMIT 1` finds a row with the largest key. -/
theorem last?_eq_some {t : RowidTable α} {r : TableRow α} (h : t.last? = some r) :
    r ∈ t.rows ∧ ∀ a ∈ t.rows, a.key ≤ r.key := by
  have hr : r ∈ t.scan .key := List.mem_of_getLast? h
  have hsorted : (t.scan .key).Pairwise fun a b : TableRow α => decide (a.key ≤ b.key) = true :=
    List.pairwise_mergeSort (fun a b c hab hbc => by simp at *; omega)
      (fun a b => by simp; omega) t.rows
  refine ⟨mem_scan.1 hr, fun a ha => ?_⟩
  obtain ⟨l, hl⟩ := List.getLast?_eq_some_iff.1 h
  have ha' : a ∈ t.scan .key := mem_scan.2 ha
  rw [hl] at ha' hsorted
  rcases List.mem_append.1 ha' with ha' | ha'
  · simpa using (List.pairwise_append.1 hsorted).2.2 a ha' r (List.mem_singleton_self r)
  · rw [List.mem_singleton.1 ha']

theorem last?_eq_none {t : RowidTable α} : t.last? = none ↔ t.rows = [] := by
  unfold last?
  rw [List.getLast?_eq_none_iff]
  constructor
  · intro h
    refine List.eq_nil_iff_forall_not_mem.2 fun r hr => ?_
    have := mem_scan (o := .key).2 hr
    rw [h] at this
    cases this
  · intro h
    simp [scan, h]

end RowidTable

end Sqlite
