import Mathlib.Data.List.Chain
import Replicat.Storage.Catalog

/-!
# The log table

`AbstractLog` is a finite map from indices to entries with the id purged last; the log half of
the store refines it. `try_get_log_entries` selects without `ORDER BY`, so what it returns is in
order only while the rowids are in the order of the indices. `CanTake` is what keeps them so:
an append overwrites an entry, or adds one right after the last, never one below the first.
-/

namespace Replicat

open Sqlite Atomics Atomics.Prog

variable {U : Type}

/-! ## The abstract log -/

def Entry.index (e : Entry) : Nat := e.logId.index.toNat

structure AbstractLog where
  entries : Nat → Option Entry
  purged : Option LogId

namespace AbstractLog

def empty : AbstractLog := ⟨fun _ => none, none⟩

def put (l : AbstractLog) (e : Entry) : AbstractLog :=
  { l with entries := Function.update l.entries e.index (some e) }

/-- Override. -/
def append (l : AbstractLog) (es : List Entry) : AbstractLog := es.foldl put l

/-- Delete from an index on. -/
def deleteFrom (l : AbstractLog) (logId : LogId) : AbstractLog :=
  { l with entries := fun i => if logId.index.toNat ≤ i then none else l.entries i }

/-- Delete up to an index. -/
def purgeUpto (l : AbstractLog) (logId : LogId) : AbstractLog where
  entries i := if i ≤ logId.index.toNat then none else l.entries i
  purged := some logId

@[simp] theorem entries_put_self (l : AbstractLog) (e : Entry) :
    (l.put e).entries e.index = some e := Function.update_self ..

theorem entries_put_ne (l : AbstractLog) {e : Entry} {i : Nat} (h : i ≠ e.index) :
    (l.put e).entries i = l.entries i := Function.update_of_ne h ..

theorem entries_deleteFrom (l : AbstractLog) (logId : LogId) (i : Nat) :
    (l.deleteFrom logId).entries i = if logId.index.toNat ≤ i then none else l.entries i := rfl

theorem entries_purgeUpto (l : AbstractLog) (logId : LogId) (i : Nat) :
    (l.purgeUpto logId).entries i = if i ≤ logId.index.toNat then none else l.entries i := rfl

def Holds (l : AbstractLog) (i : Nat) : Prop := (l.entries i).isSome

def Empty (l : AbstractLog) : Prop := ∀ i, ¬ l.Holds i

/-- An entry at this index overwrites one, or comes right after the last. -/
def CanTake (l : AbstractLog) (index : Nat) : Prop :=
  l.Empty ∨ (∃ i, l.Holds i ∧ index ≤ i + 1) ∧ ∃ i, l.Holds i ∧ i ≤ index

end AbstractLog

/-- The index, the term and the node id are bound as `i64`. -/
def LogId.Fits (id : LogId) : Prop :=
  id.index.toNat < 2 ^ 63 ∧ id.leaderId.term.toNat < 2 ^ 63 ∧ id.leaderId.nodeId.toNat < 2 ^ 63

namespace AbstractLog

/-- Entries are at their own index, and there is no gap. -/
structure WellFormed (l : AbstractLog) : Prop where
  keyed : ∀ {i e}, l.entries i = some e → e.index = i ∧ e.logId.Fits
  contiguous : ∀ {i j k}, l.Holds i → l.Holds k → i ≤ j → j ≤ k → l.Holds j

variable {l : AbstractLog} {e : Entry}

theorem holds_put {i : Nat} : (l.put e).Holds i ↔ i = e.index ∨ l.Holds i := by
  unfold Holds
  by_cases h : i = e.index
  · subst h
    simp
  · rw [entries_put_ne l h]
    simp [h]

/-- Where an index can be taken, it is held already or above every held one. -/
theorem CanTake.cases {index : Nat} (h : l.CanTake index) (hl : l.WellFormed) :
    l.Holds index ∨ ∀ i, l.Holds i → i < index := by
  rcases h with hempty | ⟨⟨a, ha, hlast⟩, b, hb, hfirst⟩
  · exact .inr fun i hi => absurd hi (hempty i)
  by_cases hindex : l.Holds index
  · exact .inl hindex
  refine .inr fun i hi => ?_
  by_contra hle
  -- Between `b` and the larger of `a` and `i` there is no gap.
  rcases Nat.le_total i a with hia | hai
  · exact hindex (hl.contiguous hb ha hfirst (by omega))
  · exact hindex (hl.contiguous hb hi hfirst (by omega))

theorem canTake_next : (l.put e).CanTake (e.index + 1) :=
  .inr ⟨⟨e.index, holds_put.2 (.inl rfl), Nat.le_refl _⟩, e.index, holds_put.2 (.inl rfl), Nat.le_succ _⟩

theorem WellFormed.empty : AbstractLog.empty.WellFormed :=
  ⟨fun h => (nomatch h), fun h => (nomatch h)⟩

theorem WellFormed.put (hl : l.WellFormed) (hfits : e.logId.Fits) (htake : l.CanTake e.index) :
    (l.put e).WellFormed := by
  refine ⟨fun {i e'} h => ?_, fun {i j k} hi hk hij hjk => ?_⟩
  · by_cases hindex : i = e.index
    · subst hindex
      rw [entries_put_self] at h
      cases h
      exact ⟨rfl, hfits⟩
    · rw [entries_put_ne l hindex] at h
      exact hl.keyed h
  · rw [holds_put] at hi hk ⊢
    by_cases hj : j = e.index
    · exact .inl hj
    refine .inr ?_
    rcases htake with hempty | ⟨⟨a, ha, hlast⟩, b, hb, hfirst⟩
    · have := hi.resolve_right (hempty i)
      have := hk.resolve_right (hempty k)
      omega
    -- An end of the window that is the new entry is replaced by an old one beyond it.
    have hlow : ∃ i', l.Holds i' ∧ i' ≤ j := by
      rcases hi with rfl | hi
      · exact ⟨b, hb, by omega⟩
      · exact ⟨i, hi, hij⟩
    have hhigh : ∃ k', l.Holds k' ∧ j ≤ k' := by
      rcases hk with rfl | hk
      · exact ⟨a, ha, by omega⟩
      · exact ⟨k, hk, hjk⟩
    obtain ⟨i', hi', hle⟩ := hlow
    obtain ⟨k', hk', hge⟩ := hhigh
    exact hl.contiguous hi' hk' hle hge

theorem holds_deleteFrom {logId : LogId} {i : Nat} :
    (l.deleteFrom logId).Holds i ↔ i < logId.index.toNat ∧ l.Holds i := by
  unfold Holds
  rw [entries_deleteFrom]
  by_cases h : logId.index.toNat ≤ i
  · simp [h]
  · simp [h, Nat.lt_of_not_le h]

theorem holds_purgeUpto {logId : LogId} {i : Nat} :
    (l.purgeUpto logId).Holds i ↔ logId.index.toNat < i ∧ l.Holds i := by
  unfold Holds
  rw [entries_purgeUpto]
  by_cases h : i ≤ logId.index.toNat
  · simp [h]
  · simp [h, Nat.lt_of_not_le h]

theorem WellFormed.deleteFrom (hl : l.WellFormed) (logId : LogId) : (l.deleteFrom logId).WellFormed := by
  refine ⟨fun {i e'} h => ?_, fun {i j k} hi hk hij hjk => ?_⟩
  · rw [entries_deleteFrom] at h
    split at h
    · cases h
    · exact hl.keyed h
  · rw [holds_deleteFrom] at hi hk ⊢
    exact ⟨by omega, hl.contiguous hi.2 hk.2 hij hjk⟩

theorem WellFormed.purgeUpto (hl : l.WellFormed) (logId : LogId) : (l.purgeUpto logId).WellFormed := by
  refine ⟨fun {i e'} h => ?_, fun {i j k} hi hk hij hjk => ?_⟩
  · rw [entries_purgeUpto] at h
    split at h
    · cases h
    · exact hl.keyed h
  · rw [holds_purgeUpto] at hi hk ⊢
    exact ⟨by omega, hl.contiguous hi.2 hk.2 hij hjk⟩

end AbstractLog

/-! ## The table of an abstract log -/

section Table

variable [Serde Entry]

/-- The columns of an entry. -/
def record (e : Entry) : LogRecord :=
  ⟨e.logId.leaderId.nodeId.toNat, e.logId.leaderId.term.toNat, encoded e⟩

/-- The rows are the entries by index. -/
structure RowsOf (l : AbstractLog) (t : LogTable) : Prop where
  lookup : ∀ i : Nat, t.lookup i = (l.entries i).map record
  nonneg : ∀ r ∈ t.rows, 0 ≤ r.key

namespace RowsOf

variable {l : AbstractLog} {t : LogTable}

theorem empty : RowsOf .empty .empty := ⟨fun _ => rfl, fun _ h => (nomatch h)⟩

/-- Every row is that of an entry. -/
theorem row (h : RowsOf l t) {r : TableRow LogRecord} (hr : r ∈ t.rows) :
    ∃ (i : Nat) (e : Entry), r.key = i ∧ l.entries i = some e ∧ r.val = record e := by
  obtain ⟨i, hi⟩ := Int.eq_ofNat_of_zero_le (h.nonneg r hr)
  have hlookup : t.lookup i = some r.val := RowidTable.lookup_eq_some.2 ⟨r, hr, hi, rfl⟩
  rw [h.lookup i, Option.map_eq_some_iff] at hlookup
  obtain ⟨e, he, hrecord⟩ := hlookup
  exact ⟨i, e, hi, he, hrecord.symm⟩

theorem exists_row (h : RowsOf l t) {i : Nat} {e : Entry} (he : l.entries i = some e) :
    ∃ r ∈ t.rows, r.key = i ∧ r.val = record e := by
  have hlookup := h.lookup i
  rw [he] at hlookup
  exact RowidTable.lookup_eq_some.1 hlookup

theorem put (h : RowsOf l t) (e : Entry) : RowsOf (l.put e) (t.upsert e.index (record e)) where
  lookup i := by
    by_cases hi : i = e.index
    · subst hi
      rw [RowidTable.lookup_upsert_self, AbstractLog.entries_put_self]
      rfl
    · rw [RowidTable.lookup_upsert_ne _ (by omega), AbstractLog.entries_put_ne l hi]
      exact h.lookup i
  nonneg r hr := by
    rcases RowidTable.mem_upsert.1 hr with ⟨hr, -⟩ | ⟨hkey, -⟩
    · exact h.nonneg r hr
    · omega

/-- Deleting rows by index. -/
theorem deleteWhere (h : RowsOf l t) {l' : AbstractLog} {p : Int → Bool}
    (hl' : ∀ i : Nat, l'.entries i = if p i then none else l.entries i) :
    RowsOf l' (t.deleteWhere p) where
  lookup i := by
    rw [RowidTable.lookup_deleteWhere, hl', h.lookup]
    split <;> rfl
  nonneg r hr := h.nonneg r (RowidTable.mem_deleteWhere.1 hr).1

/-- `ORDER BY log_index DESC LIMIT 1` finds the last entry. -/
theorem last (h : RowsOf l t) :
    (t.last? = none ∧ l.Empty) ∨
      ∃ (r : TableRow LogRecord) (i : Nat) (e : Entry), t.last? = some r ∧ r.key = i ∧
        r.val = record e ∧ l.entries i = some e ∧ ∀ j, l.Holds j → j ≤ i := by
  cases hlast : t.last? with
  | none =>
    left
    refine ⟨rfl, fun i hi => ?_⟩
    obtain ⟨e, he⟩ := Option.isSome_iff_exists.1 hi
    obtain ⟨r, hr, -⟩ := h.exists_row he
    rw [RowidTable.last?_eq_none.1 hlast] at hr
    cases hr
  | some r =>
    right
    obtain ⟨hr, hmax⟩ := RowidTable.last?_eq_some hlast
    obtain ⟨i, e, hkey, he, hval⟩ := h.row hr
    refine ⟨r, i, e, rfl, hkey, hval, he, fun j hj => ?_⟩
    obtain ⟨e', he'⟩ := Option.isSome_iff_exists.1 hj
    obtain ⟨r', hr', hkey', -⟩ := h.exists_row he'
    have hle := hmax r' hr'
    omega

end RowsOf

/-- The rows are the entries by index, and the rowids are in the order of the indices. -/
structure TableOf (l : AbstractLog) (t : LogTable) : Prop where
  lookup : ∀ i : Nat, t.lookup i = (l.entries i).map record
  nonneg : ∀ r ∈ t.rows, 0 ≤ r.key
  ordered : t.KeyOrdered

namespace TableOf

variable {l : AbstractLog} {t : LogTable}

theorem rowsOf (h : TableOf l t) : RowsOf l t := ⟨h.lookup, h.nonneg⟩

theorem empty : TableOf .empty .empty :=
  ⟨RowsOf.empty.lookup, RowsOf.empty.nonneg, RowidTable.keyOrdered_empty⟩

/-- **Where the index can be taken, an upsert keeps the table in order.** -/
theorem put (h : TableOf l t) (hl : l.WellFormed) {e : Entry} (htake : l.CanTake e.index) :
    TableOf (l.put e) (t.upsert e.index (record e)) where
  lookup := (h.rowsOf.put e).lookup
  nonneg := (h.rowsOf.put e).nonneg
  ordered := by
    apply h.ordered.upsert
    rcases htake.cases hl with hheld | habove
    · left
      obtain ⟨e', he'⟩ := Option.isSome_iff_exists.1 hheld
      obtain ⟨r, hr, hkey, -⟩ := h.rowsOf.exists_row he'
      rw [RowidTable.row?_eq_some.2 ⟨hr, hkey⟩]
      rfl
    · right
      intro r hr
      obtain ⟨i, e', hkey, he', -⟩ := h.rowsOf.row hr
      have hlt := habove i (Option.isSome_iff_exists.2 ⟨e', he'⟩)
      omega

/-- Deleting rows by index. -/
theorem deleteWhere (h : TableOf l t) {l' : AbstractLog} {p : Int → Bool}
    (hl' : ∀ i : Nat, l'.entries i = if p i then none else l.entries i) :
    TableOf l' (t.deleteWhere p) where
  lookup := (h.rowsOf.deleteWhere hl').lookup
  nonneg := (h.rowsOf.deleteWhere hl').nonneg
  ordered := h.ordered.deleteWhere p

end TableOf

end Table

/-! ## The statements on the table -/

section Statements

variable {d : Database U} {t : LogTable}

theorem bindU64_of_lt {v : UInt64} (h : v.toNat < 2 ^ 63) : bindU64 v = .ok (v.toNat : Int) := if_pos h

theorem insertLog_eq [Serde Entry] (ht : d.raftLogs = some t) {e : Entry} (hfits : e.logId.Fits) :
    insertLog e.logId.leaderId.nodeId e.logId.index e.logId.leaderId.term (encoded e) d =
      .ok (d.withLogRows t (t.upsert e.index (record e)) ⟨[], 1⟩, ⟨[], 1⟩) := by
  obtain ⟨hindex, hterm, hnode⟩ := hfits
  obtain ⟨hclear, ht⟩ := Database.raftLogs_eq_some.1 ht
  unfold insertLog
  rw [onLogs_eq ht (Database.refusal_of_clear hclear _), bindU64_of_lt hindex, bindU64_of_lt hterm,
    bindU64_of_lt hnode]
  rfl

theorem deleteLogs_eq (ht : d.raftLogs = some t) (cmp : Int → Int → Bool) {index : UInt64}
    (hindex : index.toNat < 2 ^ 63) : ∃ out, deleteLogs cmp index d =
      .ok (d.withLogRows t (t.deleteWhere fun key => cmp key index.toNat) out, out) ∧ out.rows = [] := by
  obtain ⟨hclear, ht⟩ := Database.raftLogs_eq_some.1 ht
  unfold deleteLogs
  rw [onLogs_eq ht (Database.refusal_of_clear hclear _), bindU64_of_lt hindex]
  exact ⟨_, rfl, rfl⟩

end Statements

/-! ## The calls -/

/-- The log calls openraft makes. -/
inductive LogCall where
  | appendToLog (entries : List Entry)
  | deleteConflictLogsSince (logId : LogId)
  | purgeLogsUpto (logId : LogId)

def LogCall.onLog : LogCall → AbstractLog → AbstractLog
  | appendToLog entries, l => l.append entries
  | deleteConflictLogsSince logId, l => l.deleteFrom logId
  | purgeLogsUpto logId, l => l.purgeUpto logId

section Calls

variable [Serde LogId] [Serde Entry]

def LogCall.run (store : RaftStore) : LogCall → StorageResult U Unit
  | appendToLog entries => store.appendToLog entries
  | deleteConflictLogsSince logId => store.deleteConflictLogsSince logId
  | purgeLogsUpto logId => store.purgeLogsUpto logId

/-- The log database of a store holds the abstract log. -/
def HoldsLog (store : RaftStore) (l : AbstractLog) (w : World U) : Prop :=
  ∃ d kv t, w.Reads store.log d ∧ d.kvStates = some kv ∧ d.raftLogs = some t ∧ TableOf l t ∧
    l.WellFormed ∧ d.kv lastPurgedIdKey = l.purged.map fun logId => .blob (encoded logId)

variable {store : RaftStore} {l : AbstractLog} {w w' : World U}

omit [Serde LogId] [Serde Entry] in
/-- A write task that returned `Ok` ran its statement. -/
theorem task_execute_ok {ε : Type} {g : AnyError → ε} {h : StorageHandle} {f : Stmt U} {n : Nat}
    {d d' : Database U} {out : Output} (hr : w.Reads h d) (hf : f d = .ok (d', out))
    (hx : (task g (h.execute (.onMain f))).run.exec w = (.ok n, w')) : w'.Reads h d' := by
  obtain ⟨-, rfl⟩ := StorageHandle.exec_submitTask_eq_ok (exec_run_mapErr_eq_ok hx)
  unfold World.Reads
  rw [World.conn_setConn_self]
  simp [Connection.execute, Connection.step_onMain hr hf]

theorem HoldsLog.put {e : Entry} {ε : Type} {g : AnyError → ε} {n : Nat} (h : HoldsLog store l w)
    (hfits : e.logId.Fits) (htake : l.CanTake e.index)
    (hx : (task g (store.log.execute (.onMain (insertLog e.logId.leaderId.nodeId e.logId.index
      e.logId.leaderId.term (encoded e))))).run.exec w = (.ok n, w')) : HoldsLog store (l.put e) w' := by
  obtain ⟨d, kv, t, hr, hkv, ht, htable, hl, hpurged⟩ := h
  exact ⟨_, kv, _, task_execute_ok hr (insertLog_eq ht hfits) hx, hkv,
    Database.raftLogs_withLogRows (Database.kvStates_eq_some.1 hkv).1 .., htable.put hl htake,
    hl.put hfits htake, hpurged⟩

/-- Consecutive entries from an index that can be taken. -/
theorem HoldsLog.append {es : List Entry} (h : HoldsLog store l w)
    (hconsecutive : es.IsChain fun a b => b.index = a.index + 1) (hfits : ∀ e ∈ es, e.logId.Fits)
    (hstart : ∀ e, es.head? = some e → l.CanTake e.index)
    (hx : (store.appendToLog es : StorageResult U Unit).run.exec w = (.ok (), w')) :
    HoldsLog store (l.append es) w' := by
  induction es generalizing l w with
  | nil =>
    obtain rfl : w = w' := congrArg Prod.snd hx
    exact h
  | cons e es ih =>
    unfold RaftStore.appendToLog at hx
    rw [exec_run_bind_ok (exec_encode ..)] at hx
    obtain ⟨n, w₁, hput, hrest⟩ := exec_run_bind_eq_ok hx
    have hheld := h.put (hfits e List.mem_cons_self) (hstart e rfl) hput
    have hnext : ∀ e', es.head? = some e' → (l.put e).CanTake e'.index := by
      intro e' he'
      cases es with
      | nil => cases he'
      | cons e'' es =>
        obtain rfl : e'' = e' := Option.some.inj he'
        rw [(List.isChain_cons_cons.1 hconsecutive).1]
        exact AbstractLog.canTake_next
    exact ih hheld hconsecutive.tail (fun e' he' => hfits e' (List.mem_cons_of_mem _ he')) hnext hrest

theorem HoldsLog.delete {logId : LogId} (h : HoldsLog store l w) (hfits : logId.index.toNat < 2 ^ 63)
    (hx : (store.deleteConflictLogsSince logId : StorageResult U Unit).run.exec w = (.ok (), w')) :
    HoldsLog store (l.deleteFrom logId) w' := by
  obtain ⟨d, kv, t, hr, hkv, ht, htable, hl, hpurged⟩ := h
  unfold RaftStore.deleteConflictLogsSince at hx
  obtain ⟨n, w₁, hdelete, hpure⟩ := exec_run_bind_eq_ok hx
  cases hpure
  obtain ⟨out, hout, -⟩ := deleteLogs_eq ht (fun a b => b ≤ a) hfits
  refine ⟨_, kv, _, task_execute_ok hr hout hdelete, hkv,
    Database.raftLogs_withLogRows (Database.kvStates_eq_some.1 hkv).1 .., htable.deleteWhere fun i => ?_,
    hl.deleteFrom logId, hpurged⟩
  simp [AbstractLog.entries_deleteFrom]

theorem HoldsLog.purge {logId : LogId} (h : HoldsLog store l w) (hfits : logId.index.toNat < 2 ^ 63)
    (hx : (store.purgeLogsUpto logId : StorageResult U Unit).run.exec w = (.ok (), w')) :
    HoldsLog store (l.purgeUpto logId) w' := by
  obtain ⟨d, kv, t, hr, hkv, ht, htable, hl, -⟩ := h
  unfold RaftStore.purgeLogsUpto RaftStore.setLastPurgedLogId at hx
  obtain ⟨_, w₁, hmark, hx⟩ := exec_run_bind_eq_ok hx
  rw [exec_run_bind_ok (exec_encode ..)] at hmark
  obtain ⟨_, w₂, hput, hpure⟩ := exec_run_bind_eq_ok hmark
  cases hpure
  obtain ⟨n, w₃, hdelete, hpure⟩ := exec_run_bind_eq_ok hx
  cases hpure
  have hr₁ := task_execute_ok hr (replicatKvUpsert_eq hkv ..) hput
  have ht₁ : (d.putKv lastPurgedIdKey (.blob (encoded logId))).raftLogs = some t := by
    rw [Database.raftLogs_putKv, ht]
  have hkv₁ := Database.kvStates_putKv hkv lastPurgedIdKey (.blob (encoded logId))
  obtain ⟨out, hout, -⟩ := deleteLogs_eq ht₁ (fun a b => a ≤ b) hfits
  refine ⟨_, _, _, task_execute_ok hr₁ hout hdelete, hkv₁,
    Database.raftLogs_withLogRows (Database.kvStates_eq_some.1 hkv₁).1 .., htable.deleteWhere fun i => ?_,
    hl.purgeUpto logId, ?_⟩
  · simp [AbstractLog.entries_purgeUpto]
  · exact Database.kv_putKv_self hkv ..

end Calls

/-! ## Reading -/

/-- The index is not below the range. -/
def AtLeast : Bound → Nat → Prop
  | .included x, i => x.toNat ≤ i
  | .excluded x, i => x.toNat < i
  | .unbounded, _ => True

/-- The index is not above the range. -/
def AtMost : Bound → Nat → Prop
  | .included x, i => i ≤ x.toNat
  | .excluded x, i => i < x.toNat
  | .unbounded, _ => True

def InRange (startBound endBound : Bound) (i : Nat) : Prop := AtLeast startBound i ∧ AtMost endBound i

theorem queryStart_eq_some {startBound : Bound} (checks : Bool) {j : Nat} (hj : j < 2 ^ 64)
    (hstart : AtLeast startBound j) : ∃ first, queryStart checks startBound = some first ∧
      ∀ i, first.toNat ≤ i ↔ AtLeast startBound i := by
  cases startBound with
  | included x => exact ⟨x, rfl, fun i => Iff.rfl⟩
  | excluded x =>
    have hx : x.toNat < j := hstart
    have hne : ¬ (checks && x == UInt64.ofNat (2 ^ 64 - 1)) = true := by
      rw [Bool.and_eq_true, beq_iff_eq]
      rintro ⟨-, rfl⟩
      simp at hx
      omega
    refine ⟨x + 1, if_neg hne, fun i => ?_⟩
    show (x + 1).toNat ≤ i ↔ x.toNat < i
    rw [UInt64.toNat_add]
    simp
    omega
  | unbounded => exact ⟨0, rfl, fun i => iff_of_true (Nat.zero_le i) trivial⟩

theorem queryEnd_eq_some {endBound : Bound} (checks : Bool) {j : Nat} (hend : AtMost endBound j) :
    ∃ last, queryEnd checks endBound = some last ∧
      ∀ i, i < 2 ^ 63 → (i ≤ last.toNat ↔ AtMost endBound i) := by
  cases endBound with
  | included x => exact ⟨x, rfl, fun i _ => Iff.rfl⟩
  | excluded x =>
    have hx : j < x.toNat := hend
    have hne : ¬ (checks && x == 0) = true := by
      rw [Bool.and_eq_true, beq_iff_eq]
      rintro ⟨-, rfl⟩
      simp at hx
    have hle : (1 : UInt64) ≤ x := by
      rw [UInt64.le_iff_toNat_le]
      simp
      omega
    refine ⟨x - 1, if_neg hne, fun i _ => ?_⟩
    show i ≤ (x - 1).toNat ↔ i < x.toNat
    rw [UInt64.toNat_sub_of_le x 1 hle]
    simp
    omega
  | unbounded =>
    refine ⟨_, rfl, fun i hi => iff_of_true ?_ trivial⟩
    simp
    omega

/-- Bounds that each admit an index do not overflow, and they select the range. -/
theorem logsQuery_of_admits {startBound endBound : Bound} (checks : Bool)
    (hstart : ∃ i, i < 2 ^ 64 ∧ AtLeast startBound i) (hend : ∃ i, AtMost endBound i) :
    ∃ query, logsQuery checks startBound endBound = some query ∧
      ∀ i, i < 2 ^ 63 → ((query.1 ≤ i ∧ i ≤ query.2) ↔ InRange startBound endBound i) := by
  obtain ⟨j, hj, hstart⟩ := hstart
  obtain ⟨k, hend⟩ := hend
  obtain ⟨first, hfirst, hlow⟩ := queryStart_eq_some checks hj hstart
  obtain ⟨last, hlast, hhigh⟩ := queryEnd_eq_some checks hend
  refine ⟨(first.toNat, last.toNat), ?_, fun i hi => and_congr (hlow i) (hhigh i hi)⟩
  unfold logsQuery
  rw [hfirst, hlast]
  rfl

/-- **On a range that is not empty the query's bounds never overflow**, and they select the
range. -/
theorem logsQuery_eq_some {startBound endBound : Bound} (checks : Bool)
    (hrange : ∃ i, i < 2 ^ 64 ∧ InRange startBound endBound i) :
    ∃ query, logsQuery checks startBound endBound = some query ∧
      ∀ i, i < 2 ^ 63 → ((query.1 ≤ i ∧ i ≤ query.2) ↔ InRange startBound endBound i) := by
  obtain ⟨j, hj, hstart, hend⟩ := hrange
  exact logsQuery_of_admits checks ⟨j, hj, hstart⟩ ⟨j, hend⟩

/-- A column that was bound from a `u64` reads back as it. -/
theorem ofInt_toNat (x : UInt64) : UInt64.ofInt (x.toNat : Int) = x := by
  unfold UInt64.ofInt
  rw [Int.emod_eq_of_lt (by omega) (by have := x.toNat_lt; omega), Int.toNat_natCast, UInt64.ofNat_toNat]

section Reads

variable [Serde LogId] [Serde Entry] {env : Env U} {store : RaftStore} {l : AbstractLog} {t : LogTable}
  {w : World U} {d : Database U}

omit [Serde LogId] in
/-- Rows that are those of entries hold the bytes of these entries. -/
theorem map_entry_eq {rows : List (TableRow LogRecord)} {f : TableRow LogRecord → Option Entry}
    (h : ∀ r ∈ rows, ∃ e, f r = some e ∧ r.val = record e) :
    rows.map (·.val.entry) = (rows.filterMap f).map encoded := by
  induction rows with
  | nil => rfl
  | cons r rows ih =>
    obtain ⟨e, he, hval⟩ := h r List.mem_cons_self
    rw [List.map_cons, List.filterMap_cons_some he, List.map_cons,
      ih fun r' hr' => h r' (List.mem_cons_of_mem r hr'), hval]
    rfl

/-- The entries of these rows. -/
def entriesOf (l : AbstractLog) (rows : List (TableRow LogRecord)) : List Entry :=
  rows.filterMap fun r => l.entries r.key.toNat

omit [Serde LogId] in
theorem RowsOf.entry (h : RowsOf l t) (hkeyed : ∀ {i e}, l.entries i = some e → e.index = i)
    {r : TableRow LogRecord} (hr : r ∈ t.rows) :
    ∃ e, l.entries r.key.toNat = some e ∧ r.key = e.index ∧ r.val = record e := by
  obtain ⟨i, e, hkey, he, hval⟩ := h.row hr
  have hindex := hkeyed he
  exact ⟨e, by rw [hkey, Int.toNat_natCast]; exact he, by rw [hkey, hindex], hval⟩

omit [Serde LogId] in
/-- What a selection by index returns, in any order of the scan. -/
theorem RowsOf.select (h : RowsOf l t) (hkeyed : ∀ {i e}, l.entries i = some e → e.index = i)
    (order : ScanOrder) (p : Int → Bool) :
    ((t.scan order).filter fun r => p r.key).map (·.val.entry) =
        (entriesOf l ((t.scan order).filter fun r => p r.key)).map encoded ∧
      ∀ i e, (e ∈ entriesOf l ((t.scan order).filter fun r => p r.key) ∧ e.index = i) ↔
        (l.entries i = some e ∧ p i = true) := by
  constructor
  · refine map_entry_eq fun r hr => ?_
    obtain ⟨e, he, -, hval⟩ := h.entry hkeyed (RowidTable.mem_scan.1 (List.mem_filter.1 hr).1)
    exact ⟨e, he, hval⟩
  · intro i e
    simp only [entriesOf, List.mem_filterMap, List.mem_filter, RowidTable.mem_scan]
    constructor
    · rintro ⟨⟨r, ⟨hr, hp⟩, he⟩, rfl⟩
      obtain ⟨e', he', hkey, -⟩ := h.entry hkeyed hr
      obtain rfl : e' = e := Option.some.inj (he'.symm.trans he)
      rw [hkey] at hp he
      exact ⟨he, hp⟩
    · rintro ⟨he, hp⟩
      obtain ⟨r, hr, hkey, -⟩ := h.exists_row he
      exact ⟨⟨r, ⟨hr, by rw [hkey]; exact hp⟩, by rw [hkey]; exact he⟩, hkeyed he⟩

omit [Serde LogId] in
/-- From a table in order the entries are selected in order. -/
theorem RowsOf.select_pairwise (h : RowsOf l t) (hkeyed : ∀ {i e}, l.entries i = some e → e.index = i)
    (hordered : t.KeyOrdered) (order : ScanOrder) (p : Int → Bool) :
    (entriesOf l ((t.scan order).filter fun r => p r.key)).Pairwise (·.index < ·.index) := by
  rw [hordered.scan_eq order, entriesOf, List.pairwise_filterMap]
  refine (hordered.filter _).imp_of_mem ?_
  intro r r' hr hr' hlt e he e' he'
  obtain ⟨e₁, he₁, hkey, -⟩ := h.entry hkeyed (List.mem_filter.1 hr).1
  obtain ⟨e₂, he₂, hkey', -⟩ := h.entry hkeyed (List.mem_filter.1 hr').1
  obtain rfl : e₁ = e := Option.some.inj (he₁.symm.trans he)
  obtain rfl : e₂ = e' := Option.some.inj (he₂.symm.trans he')
  omega

omit [Serde LogId] in
theorem exec_decodeEntries (es : List Entry) (w : World U) :
    (RaftStore.decodeEntries (es.map encoded) : StorageResult U (List Entry)).run.exec w = (.ok es, w) := by
  induction es with
  | nil => rfl
  | cons e es ih =>
    have hdecode : (decode logReadError (encoded e) : StorageResult U Entry).run.exec w = (.ok e, w) := by
      unfold decode
      rw [fromBytes_encoded]
      rfl
    rw [List.map_cons]
    unfold RaftStore.decodeEntries
    rw [exec_run_bind_ok hdecode, exec_run_bind_ok ih]
    rfl

omit [Serde LogId] in
theorem tryGetLogEntries_exec (hf : w.faults = []) (hr : w.Reads store.log d) (ht : d.raftLogs = some t)
    {checks : Bool} {startBound endBound : Bound} {query : Nat × Nat}
    (hquery : logsQuery checks startBound endBound = some query) {es : List Entry}
    (hes : ((t.scan env.scanOrder).filter fun r =>
      decide ((query.1 : Int) ≤ r.key ∧ r.key ≤ (query.2 : Int))).map (·.val.entry) = es.map encoded) :
    ∃ p, store.tryGetLogEntries env checks startBound endBound = some p ∧ p.run.exec w = (.ok es, w) := by
  have hselect : selectLogs env query d = .ok (d, ⟨(es.map encoded).map fun entry => [.blob entry], 0⟩) := by
    unfold selectLogs fromLogs
    rw [← hes, List.map_map, (Database.raftLogs_eq_some.1 ht).2]
    rfl
  have hrows : ∀ entries : List Bytes,
      (entries.map fun entry => [Value.blob entry]).mapM fromRowBlob = .ok entries := by
    intro entries
    induction entries with
    | nil => rfl
    | cons entry entries ih =>
      rw [List.map_cons, List.mapM_cons, ih]
      rfl
  refine ⟨_, by rw [RaftStore.tryGetLogEntries, hquery]; rfl, ?_⟩
  have hfetch : (store.log.fetchAll (.onMain (selectLogs env query)) fromRowBlob).run.exec w =
      (.ok (es.map encoded), w) := by
    rw [exec_fetchAll hf hr hselect, hrows, hr.setDb_self]
  rw [exec_run_bind_ok (exec_task hfetch)]
  exact exec_decodeEntries es w

omit [Serde LogId] in
/-- What a query returns is what it selects. -/
theorem tryGetLogEntries_query (hf : w.faults = []) (hr : w.Reads store.log d) (ht : d.raftLogs = some t)
    (hrows : RowsOf l t) (hkeyed : ∀ {i e}, l.entries i = some e → e.index = i) {checks : Bool}
    {startBound endBound : Bound} {query : Nat × Nat}
    (hquery : logsQuery checks startBound endBound = some query) :
    ∃ p es, store.tryGetLogEntries env checks startBound endBound = some p ∧ p.run.exec w = (.ok es, w) ∧
      (t.KeyOrdered → es.Pairwise (·.index < ·.index)) ∧
      ∀ i e, (e ∈ es ∧ e.index = i) ↔ (l.entries i = some e ∧ query.1 ≤ i ∧ i ≤ query.2) := by
  obtain ⟨hes, hmem⟩ := hrows.select hkeyed env.scanOrder
    fun key => decide ((query.1 : Int) ≤ key ∧ key ≤ (query.2 : Int))
  have hsorted := fun hordered : t.KeyOrdered => hrows.select_pairwise hkeyed hordered env.scanOrder
    fun key => decide ((query.1 : Int) ≤ key ∧ key ≤ (query.2 : Int))
  obtain ⟨p, hp, hexec⟩ := tryGetLogEntries_exec hf hr ht hquery hes
  refine ⟨p, _, hp, hexec, hsorted, fun i e => ?_⟩
  rw [hmem]
  refine and_congr_right fun _ => ?_
  rw [decide_eq_true_iff]
  omega

omit [Serde LogId] in
/-- A query that selects a range reads the range. -/
theorem tryGetLogEntries_selected (hf : w.faults = []) (hr : w.Reads store.log d) (ht : d.raftLogs = some t)
    (hrows : RowsOf l t) (hkeyed : ∀ {i e}, l.entries i = some e → e.index = i ∧ e.logId.Fits)
    {checks : Bool} {startBound endBound : Bound} (hquery : ∃ query,
      logsQuery checks startBound endBound = some query ∧
        ∀ i, i < 2 ^ 63 → ((query.1 ≤ i ∧ i ≤ query.2) ↔ InRange startBound endBound i)) :
    ∃ p es, store.tryGetLogEntries env checks startBound endBound = some p ∧ p.run.exec w = (.ok es, w) ∧
      (t.KeyOrdered → es.Pairwise (·.index < ·.index)) ∧
      ∀ i e, (e ∈ es ∧ e.index = i) ↔ (l.entries i = some e ∧ InRange startBound endBound i) := by
  obtain ⟨query, hquery, hselected⟩ := hquery
  obtain ⟨p, es, hp, hexec, hsorted, hmem⟩ :=
    tryGetLogEntries_query hf hr ht hrows (fun he => (hkeyed he).1) hquery
  refine ⟨p, es, hp, hexec, hsorted, fun i e => ?_⟩
  rw [hmem]
  refine and_congr_right fun he => ?_
  obtain ⟨hi, hfits, -⟩ := hkeyed he
  have hlt : i < 2 ^ 63 := hi ▸ hfits
  exact hselected i hlt

omit [Serde LogId] in
/-- **A read of a range** returns the entries in it, each once. -/
theorem tryGetLogEntries_rows (hf : w.faults = []) (hr : w.Reads store.log d) (ht : d.raftLogs = some t)
    (hrows : RowsOf l t) (hkeyed : ∀ {i e}, l.entries i = some e → e.index = i ∧ e.logId.Fits)
    (checks : Bool) {startBound endBound : Bound}
    (hrange : ∃ i, i < 2 ^ 64 ∧ InRange startBound endBound i) :
    ∃ p es, store.tryGetLogEntries env checks startBound endBound = some p ∧ p.run.exec w = (.ok es, w) ∧
      (t.KeyOrdered → es.Pairwise (·.index < ·.index)) ∧
      ∀ i e, (e ∈ es ∧ e.index = i) ↔ (l.entries i = some e ∧ InRange startBound endBound i) :=
  tryGetLogEntries_selected hf hr ht hrows hkeyed (logsQuery_eq_some checks hrange)

/-- The log state is the purge marker and the id of the last entry. -/
theorem getLogState_rows {kv : KvTable} (hf : w.faults = []) (hr : w.Reads store.log d)
    (hkv : d.kvStates = some kv) (ht : d.raftLogs = some t) (hrows : RowsOf l t)
    (hkeyed : ∀ {i e}, l.entries i = some e → e.index = i)
    (hpurged : d.kv lastPurgedIdKey = l.purged.map fun logId => .blob (encoded logId)) :
    ∃ last, (store.getLogState : StorageResult U LogState).run.exec w = (.ok ⟨l.purged, last⟩, w) ∧
      ((l.Empty ∧ last = l.purged) ∨
        ∃ i e, l.entries i = some e ∧ (∀ j, l.Holds j → j ≤ i) ∧ last = some e.logId) := by
  have hmarker : (store.getLastPurgedLogId : StorageResult U (Option LogId)).run.exec w =
      (.ok l.purged, w) := by
    unfold RaftStore.getLastPurgedLogId
    rw [exec_run_bind_ok (exec_task (exec_fetchKv hf hr (Database.kvStates_eq_some.1 hkv).2 hpurged))]
    exact exec_decodeOption ..
  have hselect : selectLastLog d = .ok (d, ⟨t.last?.toList.map fun r =>
      [.integer r.val.nodeId, .integer r.key, .integer r.val.term], 0⟩) := by
    unfold selectLastLog fromLogs
    rw [(Database.raftLogs_eq_some.1 ht).2]
  have hfetch : (store.log.fetchOne (.onMain selectLastLog) fromRowInts).run.exec w = _ :=
    exec_fetchOne hf hr hselect
  rw [hr.setDb_self] at hfetch
  rcases hrows.last with ⟨hnone, hempty⟩ | ⟨r, i, e, hsome, hkey, hval, he, hmax⟩
  · refine ⟨l.purged, ?_, .inl ⟨hempty, rfl⟩⟩
    rw [hnone] at hfetch
    unfold RaftStore.getLogState RaftStore.getLastLogEntry
    rw [exec_run_bind_ok (exec_run_bind_ok (exec_task hfetch)), exec_run_bind_ok hmarker]
    rfl
  · refine ⟨some e.logId, ?_, .inr ⟨i, e, he, hmax, rfl⟩⟩
    rw [hsome] at hfetch
    have hentry : (store.getLastLogEntry : StorageResult U (Option LogId)).run.exec w =
        (.ok (some e.logId), w) := by
      unfold RaftStore.getLastLogEntry
      rw [exec_run_bind_ok (exec_task hfetch), hval, hkey, ← hkeyed he]
      simp [record, Entry.index, ofInt_toNat]
    unfold RaftStore.getLogState
    rw [exec_run_bind_ok hentry, exec_run_bind_ok hmarker]
    rfl

theorem getLogState_exec (hf : w.faults = []) (hw : HoldsLog store l w) :
    ∃ last, (store.getLogState : StorageResult U LogState).run.exec w = (.ok ⟨l.purged, last⟩, w) ∧
      ((l.Empty ∧ last = l.purged) ∨
        ∃ i e, l.entries i = some e ∧ (∀ j, l.Holds j → j ≤ i) ∧ last = some e.logId) := by
  obtain ⟨d, kv, t, hr, hkv, ht, htable, hl, hpurged⟩ := hw
  exact getLogState_rows hf hr hkv ht htable.rowsOf (fun he => (hl.keyed he).1) hpurged

end Reads

/-! ## Whole runs -/

/-- Batches are consecutive and start above the purged index and at most one past the last
index, or anywhere when nothing is stored or purged. -/
def LogCall.Allowed (l : AbstractLog) : LogCall → Prop
  | .appendToLog es => es.IsChain (fun a b => b.index = a.index + 1) ∧ (∀ e ∈ es, e.logId.Fits) ∧
      ∀ e, es.head? = some e → (∀ p, l.purged = some p → p.index.toNat < e.index) ∧
        ((∃ i, l.Holds i ∧ e.index ≤ i + 1) ∨
          (l.Empty ∧ ∀ p, l.purged = some p → e.index ≤ p.index.toNat + 1))
  | .deleteConflictLogsSince logId => logId.Fits
  | .purgeLogsUpto logId => logId.Fits

/-- No batch starts below the first stored index. -/
def LogCall.AboveFirst (l : AbstractLog) : LogCall → Prop
  | .appendToLog es => ∀ e, es.head? = some e → l.Empty ∨ ∃ i, l.Holds i ∧ i ≤ e.index
  | _ => True

section Runs

variable [Serde LogId] [Serde Entry] [Serde EffectiveMembership]

/-- What calls that returned `Ok`, each allowed by `ok`, reach from a fresh store. -/
inductive LogReachable (env : Env U) (stateStore : Option StateStore) (ok : AbstractLog → LogCall → Prop) :
    World U → AbstractLog → Prop where
  | fresh {store w} : (RaftStore.openStore env stateStore).run.exec World.fresh = (.ok store, w) →
      LogReachable env stateStore ok w .empty
  | call {w w' l faults} (call : LogCall) : LogReachable env stateStore ok w l → ok l call →
      (call.run (storeOf stateStore)).run.exec { w with faults } = (.ok (), w') →
      LogReachable env stateStore ok w' (call.onLog l)

variable {env : Env U} {stateStore : Option StateStore} {w : World U} {l : AbstractLog}

omit [Serde EffectiveMembership] in
theorem HoldsLog.faults {store : RaftStore} (h : HoldsLog store l w) (faults : List Bool) :
    HoldsLog store l { w with faults } := by
  obtain ⟨d, kv, t, hr, hrest⟩ := h
  exact ⟨d, kv, t, by unfold World.Reads; rw [World.conn_faults]; exact hr, hrest⟩

omit [Serde EffectiveMembership] in
theorem opened_holdsLog (env : Env U) (effect : Request → U → U) (stateStore : Option StateStore) :
    HoldsLog (storeOf stateStore) .empty
      (opened env stateStore (Applied.at effect env.emptyUser []) World.fresh) :=
  ⟨_, _, _, rfl, rfl, rfl, .empty, .empty, rfl⟩

/-- **The table refines the abstract log** along every run of appends that do not start below
the first index. -/
theorem LogReachable.holdsLog
    (h : LogReachable env stateStore (fun l call => call.Allowed l ∧ call.AboveFirst l) w l) :
    HoldsLog (storeOf stateStore) l w := by
  induction h with
  | fresh hopen =>
    have hfinds := finds_fresh env (fun _ tables => tables) stateStore
    rw [openStore_exec hfinds.1 hfinds.2] at hopen
    cases hopen
    exact opened_holdsLog env _ stateStore
  | @call w w' l faults call _ hok hx ih =>
    obtain ⟨hallowed, habove⟩ := hok
    have hheld := ih.faults faults
    cases call with
    | appendToLog es =>
      obtain ⟨hconsecutive, hfits, hstart⟩ := hallowed
      refine hheld.append hconsecutive hfits (fun e he => ?_) hx
      rcases (hstart e he).2 with hlast | ⟨hempty, -⟩
      · exact (habove e he).imp id fun hfirst => ⟨hlast, hfirst⟩
      · exact .inl hempty
    | deleteConflictLogsSince logId => exact hheld.delete hallowed.1 hx
    | purgeLogsUpto logId => exact hheld.purge hallowed.1 hx

/-- **What the log half returns after any run**: the entries of the abstract log in the range,
each once and in ascending order, and the ids of the purge and of the last entry. -/
theorem log_table_refines
    (h : LogReachable env stateStore (fun l call => call.Allowed l ∧ call.AboveFirst l) w l) :
    (∀ checks startBound endBound, (∃ i, i < 2 ^ 64 ∧ InRange startBound endBound i) →
      ∃ p es, (storeOf stateStore).tryGetLogEntries env checks startBound endBound = some p ∧
        (p.run.exec { w with faults := [] }).1 = .ok es ∧ es.Pairwise (·.index < ·.index) ∧
        ∀ i e, (e ∈ es ∧ e.index = i) ↔ (l.entries i = some e ∧ InRange startBound endBound i)) ∧
    ∃ last, ((storeOf stateStore).getLogState.run.exec { w with faults := [] }).1 = .ok ⟨l.purged, last⟩ ∧
      ((l.Empty ∧ last = l.purged) ∨
        ∃ i e, l.entries i = some e ∧ (∀ j, l.Holds j → j ≤ i) ∧ last = some e.logId) := by
  have hheld := h.holdsLog.faults []
  constructor
  · intro checks startBound endBound hrange
    obtain ⟨d, kv, t, hr, -, ht, htable, hl, -⟩ := hheld
    obtain ⟨p, es, hp, hexec, hsorted, hmem⟩ :=
      tryGetLogEntries_rows rfl hr ht htable.rowsOf hl.keyed checks hrange
    exact ⟨p, es, hp, by rw [hexec], hsorted htable.ordered, hmem⟩
  · obtain ⟨last, hexec, hlast⟩ := getLogState_exec rfl hheld
    exact ⟨last, by rw [hexec], hlast⟩

end Runs

/-! ## Two runs of two appends -/

section Appends

variable [Serde LogId] [Serde Entry] [Serde EffectiveMembership] {env : Env U}
  {stateStore : Option StateStore} {ok : AbstractLog → LogCall → Prop} {w : World U} {l : AbstractLog}

omit [Serde LogId] [Serde EffectiveMembership] in
/-- One entry appended on a sound storage. -/
theorem appendToLog_exec (store : RaftStore) {d : Database U} {t : LogTable} {e : Entry} (hf : w.faults = [])
    (hr : w.Reads store.log d) (ht : d.raftLogs = some t) (hfits : e.logId.Fits) :
    (store.appendToLog [e] : StorageResult U Unit).run.exec w =
      (.ok (), w.setDb store.log (d.withLogRows t (t.upsert e.index (record e)) ⟨[], 1⟩)) := by
  have hput : (task logWriteError (store.log.execute (.onMain (insertLog
      e.logId.leaderId.nodeId e.logId.index e.logId.leaderId.term (encoded e))))).run.exec w =
      (.ok 1, w.setDb store.log (d.withLogRows t (t.upsert e.index (record e)) ⟨[], 1⟩)) :=
    exec_task (exec_execute hf hr (insertLog_eq ht hfits) rfl)
  unfold RaftStore.appendToLog
  rw [exec_run_bind_ok (exec_encode ..), exec_run_bind_ok hput]
  rfl

/-- One more entry, in a call of its own. -/
theorem LogReachable.appendOne {d : Database U} {t : LogTable} {e : Entry}
    (h : LogReachable env stateStore ok w l) (hf : w.faults = []) (hr : w.Reads .logDb d)
    (ht : d.raftLogs = some t) (hfits : e.logId.Fits) (hok : ok l (.appendToLog [e])) :
    ∃ w' d', LogReachable env stateStore ok w' (l.append [e]) ∧ w'.faults = [] ∧ w'.Reads .logDb d' ∧
      d'.raftLogs = some (t.upsert e.index (record e)) := by
  have hexec := appendToLog_exec (storeOf stateStore) hf hr ht hfits
  rw [← World.with_faults_nil hf] at hexec
  exact ⟨_, d.withLogRows t (t.upsert e.index (record e)) ⟨[], 1⟩, .call (.appendToLog [e]) h hok hexec,
    by rw [World.faults_setDb], World.reads_setDb _ .logDb _,
    Database.raftLogs_withLogRows (Database.raftLogs_eq_some.1 ht).1 ..⟩

/-- Two entries into a store just opened. -/
theorem exists_appendTwo (env : Env U) (stateStore : Option StateStore)
    (ok : AbstractLog → LogCall → Prop) {e e' : Entry} (hfits : e.logId.Fits)
    (hfits' : e'.logId.Fits) (hok : ok .empty (.appendToLog [e]))
    (hok' : ok (AbstractLog.empty.append [e]) (.appendToLog [e'])) :
    ∃ w d, LogReachable env stateStore ok w ((AbstractLog.empty.append [e]).append [e']) ∧
      w.faults = [] ∧ w.Reads .logDb d ∧
      d.raftLogs = some ((RowidTable.empty.upsert e.index (record e)).upsert e'.index (record e')) := by
  have hfinds := finds_fresh env (fun _ tables => tables) stateStore
  have hfresh : LogReachable env stateStore ok _ .empty := .fresh (openStore_exec hfinds.1 hfinds.2)
  obtain ⟨w₁, d₁, h₁, hf₁, hr₁, ht₁⟩ := hfresh.appendOne rfl rfl rfl hfits hok
  exact h₁.appendOne hf₁ hr₁ ht₁ hfits' hok'

end Appends

theorem fits_notesEntry {index : UInt64} (h : index.toNat < 2 ^ 63) :
    (notesEntry index).logId.Fits := by
  have hone : (1 : UInt64).toNat < 2 ^ 63 := by decide
  exact ⟨h, hone, hone⟩

/-- The first entry may have any index. -/
theorem allowed_first {e : Entry} (hfits : e.logId.Fits) :
    (LogCall.appendToLog [e]).Allowed .empty ∧ (LogCall.appendToLog [e]).AboveFirst .empty := by
  have hempty : AbstractLog.empty.Empty := fun i hi => (nomatch hi)
  refine ⟨⟨List.isChain_singleton e, by simpa using hfits, ?_⟩, ?_⟩
  · intro e' _
    exact ⟨fun p hp => (nomatch hp), .inr ⟨hempty, fun p hp => (nomatch hp)⟩⟩
  · exact fun e' _ => .inl hempty

/-- A second one may have any index up to the next. -/
theorem allowed_second {e e' : Entry} (hfits : e'.logId.Fits) (h : e'.index ≤ e.index + 1) :
    (LogCall.appendToLog [e']).Allowed (AbstractLog.empty.append [e]) := by
  refine ⟨List.isChain_singleton e', by simpa using hfits, ?_⟩
  intro e'' he''
  obtain rfl : e' = e'' := Option.some.inj he''
  exact ⟨fun p hp => (nomatch hp), .inl ⟨e.index, AbstractLog.holds_put.2 (.inl rfl), h⟩⟩

/-- A second entry right after the first. -/
theorem log_table_refines_catalog : ∃ w p es,
    LogReachable catalogEnv none (fun l call => call.Allowed l ∧ call.AboveFirst l) w
      ((AbstractLog.empty.append [notesEntry 5]).append [notesEntry 6]) ∧
    (storeOf none).tryGetLogEntries catalogEnv true .unbounded .unbounded = some p ∧
    (p.run.exec { w with faults := [] }).1 = .ok es ∧ notesEntry 5 ∈ es ∧ notesEntry 6 ∈ es := by
  have hfirst : (notesEntry 5).logId.Fits := fits_notesEntry (by decide)
  have hsecond : (notesEntry 6).logId.Fits := fits_notesEntry (by decide)
  have habove : (LogCall.appendToLog [notesEntry 6]).AboveFirst
      (AbstractLog.empty.append [notesEntry 5]) := by
    intro e he
    obtain rfl : notesEntry 6 = e := Option.some.inj he
    exact .inr ⟨5, rfl, by decide⟩
  obtain ⟨w, d, h, -⟩ := exists_appendTwo catalogEnv none
    (fun l call => call.Allowed l ∧ call.AboveFirst l) hfirst hsecond
    (allowed_first hfirst) ⟨allowed_second hsecond (by decide), habove⟩
  obtain ⟨p, es, hp, hes, -, hmem⟩ :=
    (log_table_refines h).1 true .unbounded .unbounded ⟨0, by decide, trivial, trivial⟩
  exact ⟨w, p, es, h, hp, hes, ((hmem 5 _).2 ⟨rfl, trivial, trivial⟩).1,
    ((hmem 6 _).2 ⟨rfl, trivial, trivial⟩).1⟩

/-- A second entry below the first: both calls return, and a read is out of order. -/
theorem append_below_first_reorders : ∃ w p,
    LogReachable catalogEnv none (fun l call => call.Allowed l) w
      ((AbstractLog.empty.append [notesEntry 5]).append [notesEntry 3]) ∧
    (storeOf none).tryGetLogEntries catalogEnv true .unbounded .unbounded = some p ∧
    (p.run.exec { w with faults := [] }).1 = .ok [notesEntry 5, notesEntry 3] ∧
    ¬ [notesEntry 5, notesEntry 3].Pairwise (·.index < ·.index) := by
  have hfirst : (notesEntry 5).logId.Fits := fits_notesEntry (by decide)
  have hsecond : (notesEntry 3).logId.Fits := fits_notesEntry (by decide)
  obtain ⟨w, d, h, hf, hr, ht⟩ := exists_appendTwo catalogEnv none (fun l call => call.Allowed l)
    hfirst hsecond (allowed_first hfirst).1 (allowed_second hsecond (by decide))
  -- The second row is stored behind the first.
  have hrows : ((RowidTable.empty.upsert 5 (record (notesEntry 5))).upsert 3 (record (notesEntry 3))).rows =
      [⟨1, 5, record (notesEntry 5)⟩, ⟨2, 3, record (notesEntry 3)⟩] := by
    rw [RowidTable.rows_upsert_new rfl, RowidTable.rows_upsert_new rfl]
    rfl
  have hscan : ((((RowidTable.empty.upsert 5 (record (notesEntry 5))).upsert 3
      (record (notesEntry 3))).scan catalogEnv.scanOrder).filter fun r =>
        decide (((0 : Nat) : Int) ≤ r.key ∧ r.key ≤ ((2 ^ 63 - 1 : Nat) : Int))).map (·.val.entry) =
      [notesEntry 5, notesEntry 3].map encoded := by
    show ((RowidTable.rows _).filter _).map _ = _
    rw [hrows]
    simp [record]
  obtain ⟨p, hp, hexec⟩ :
      ∃ p, (storeOf none).tryGetLogEntries catalogEnv true .unbounded .unbounded = some p ∧
        p.run.exec w = _ := tryGetLogEntries_exec hf hr ht rfl hscan
  refine ⟨w, p, h, hp, ?_, by decide⟩
  rw [World.with_faults_nil hf, hexec]

end Replicat
