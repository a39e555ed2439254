import Replicat.Storage.LogTable
import Replicat.Storage.Faults

/-!
# The writes of the log half

A call of the log half is a list of single statements on the log database, each committed by
itself. `HardState` is what they are for; `HoldsHard` is that the log database holds one.
`commitAll_run` says what a call leaves wherever it is stopped and whatever the storage fails:
the hard state after the writes that got through, in order; and it returns `Ok` exactly when
all of them did.
-/

namespace Replicat

open Sqlite Atomics Atomics.Prog

variable {U : Type}

/-! ## The hard state and the writes on it -/

/-- The vote saved last, and the log. -/
structure HardState where
  vote : Option Vote
  log : AbstractLog

def HardState.empty : HardState := ⟨none, .empty⟩

/-- One statement that the log half commits. -/
inductive LogWrite where
  | vote (vote : Vote)
  | entry (entry : Entry)
  | deleteSince (logId : LogId)
  | marker (logId : LogId)
  | deleteUpto (logId : LogId)
  deriving DecidableEq, Repr

namespace AbstractLog

/-- The first half of a purge. -/
def mark (l : AbstractLog) (logId : LogId) : AbstractLog := { l with purged := some logId }

/-- The second half of a purge. -/
def deleteUpto (l : AbstractLog) (logId : LogId) : AbstractLog :=
  { l with entries := fun i => if i ≤ logId.index.toNat then none else l.entries i }

theorem deleteUpto_mark (l : AbstractLog) (logId : LogId) :
    (l.mark logId).deleteUpto logId = l.purgeUpto logId := rfl

end AbstractLog

instance (id : LogId) : Decidable id.Fits := by
  unfold LogId.Fits
  infer_instance

namespace LogWrite

def onHard : LogWrite → HardState → HardState
  | vote v, s => { s with vote := some v }
  | entry e, s => { s with log := s.log.put e }
  | deleteSince logId, s => { s with log := s.log.deleteFrom logId }
  | marker logId, s => { s with log := s.log.mark logId }
  | deleteUpto logId, s => { s with log := s.log.deleteUpto logId }

/-- The numbers that are bound as `i64` fit in one. -/
def Fits : LogWrite → Prop
  | vote _ | marker _ => True
  | entry e => e.logId.Fits
  | deleteSince logId | deleteUpto logId => logId.index.toNat < 2 ^ 63

instance (a : LogWrite) : Decidable a.Fits := by
  cases a <;> unfold Fits <;> infer_instance

/-- The writes that get through on a storage with these coming faults: up to the first that
fails, or cannot be bound. -/
def through : List LogWrite → List Bool → List LogWrite
  | [], _ => []
  | a :: as, faults => if faults.headD false = false ∧ a.Fits then a :: through as faults.tail else []

theorem isPrefix_through (as : List LogWrite) (faults : List Bool) : through as faults <+: as := by
  induction as generalizing faults with
  | nil => exact List.prefix_refl _
  | cons a as ih =>
    unfold through
    split
    · exact List.cons_prefix_cons.2 ⟨rfl, ih _⟩
    · exact List.nil_prefix

end LogWrite

/-- The hard state after these writes. -/
def HardState.after (s : HardState) (as : List LogWrite) : HardState := as.foldl (fun s a => a.onHard s) s

open LogWrite

/-- The writes of a call, in order. The calls of the state machine half have none. -/
def StoreCall.writes : StoreCall → List LogWrite
  | saveVote v => [.vote v]
  | appendToLog entries => entries.map .entry
  | deleteConflictLogsSince logId => [.deleteSince logId]
  | purgeLogsUpto logId => [.marker logId, .deleteUpto logId]
  | applyToStateMachine _ | .buildSnapshot | installSnapshot _ _ => []

/-- A call of the log half. -/
def StoreCall.onLogHalf : StoreCall → Bool
  | saveVote _ => true
  | call => call.isLogCall

variable [Serde LogId] [Serde Vote] [Serde Entry]

namespace LogWrite

def stmt : LogWrite → Stmt U
  | vote v => replicatKvUpsert voteKey (.blob (encoded v))
  | entry e => insertLog e.logId.leaderId.nodeId e.logId.index e.logId.leaderId.term (encoded e)
  | deleteSince logId => deleteLogsSince logId.index
  | marker logId => replicatKvUpsert lastPurgedIdKey (.blob (encoded logId))
  | deleteUpto logId => deleteLogsUpto logId.index

/-- The error a failure is reported as. -/
def failure : LogWrite → AnyError → StorageError
  | vote _ | marker _ => storeWriteError
  | entry _ | deleteSince _ | deleteUpto _ => logWriteError

end LogWrite

/-- One task a write. -/
def commitAll (store : RaftStore) : List LogWrite → StorageResult U Unit
  | [] => pure ()
  | a :: as => do
    let _ ← task a.failure (store.log.execute (.onMain a.stmt))
    commitAll store as

section Calls

variable {env : Env U} {store : RaftStore}

omit [Serde LogId] [Serde Vote] [Serde Entry] in
theorem encode_eq {ε α : Type} [Serde α] (f : AnyError → ε) (v : α) :
    (encode f v : StoreM U ε Bytes) = pure (encoded v) := by
  unfold encode
  rw [toBytes_eq]
  rfl

/-- **A call of the log half commits its writes.** -/
theorem run_eq_commitAll [Serde EffectiveMembership] [Serde SnapshotMeta] {call : StoreCall}
    (hcall : call.onLogHalf) : call.run env store = commitAll store call.writes := by
  cases call with
  | saveVote v =>
    simp only [StoreCall.run, RaftStore.saveVote, RaftStore.setVote, encode_eq, pure_bind]
    rfl
  | appendToLog entries =>
    show store.appendToLog entries = commitAll store (entries.map .entry)
    induction entries with
    | nil => rfl
    | cons e entries ih =>
      unfold RaftStore.appendToLog
      rw [encode_eq, pure_bind, ih rfl]
      rfl
  | deleteConflictLogsSince logId => rfl
  | purgeLogsUpto logId =>
    simp only [StoreCall.run, RaftStore.purgeLogsUpto, RaftStore.setLastPurgedLogId, encode_eq, pure_bind,
      LawfulMonad.bind_assoc]
    rfl
  | applyToStateMachine => cases hcall
  | buildSnapshot => cases hcall
  | installSnapshot => cases hcall

end Calls

/-! ## The rows -/

/-- The rows of the log database are those of the hard state. -/
structure HardOf (s : HardState) (d : Database U) : Prop where
  kv : d.kvStates.isSome
  vote : d.kv voteKey = s.vote.map fun v => .blob (encoded v)
  purged : d.kv lastPurgedIdKey = s.log.purged.map fun logId => .blob (encoded logId)
  rows : ∃ t, d.raftLogs = some t ∧ RowsOf s.log t
  keyed : ∀ {i e}, s.log.entries i = some e → e.index = i ∧ e.logId.Fits

section Rows

variable {s : HardState} {d : Database U}

/-- Rows under other keys, and the client tables, have no part in it. -/
theorem HardOf.congr {d' : Database U} (h : HardOf s d) (hkv : d'.kvStates.isSome)
    (hvote : d'.kv voteKey = d.kv voteKey) (hpurged : d'.kv lastPurgedIdKey = d.kv lastPurgedIdKey)
    (hlogs : d'.raftLogs = d.raftLogs) : HardOf s d' := by
  obtain ⟨t, ht, hrows⟩ := h.rows
  exact ⟨hkv, hvote.trans h.vote, hpurged.trans h.purged, ⟨t, hlogs.trans ht, hrows⟩, h.keyed⟩

/-- Nothing is in the way of its writes. -/
theorem HardOf.clear (h : HardOf s d) : d.hindrances = [] := by
  obtain ⟨t, ht, -⟩ := h.rows
  exact (Database.raftLogs_eq_some.1 ht).1

theorem HardOf.writable (h : HardOf s d) (key : String) : d.Writable key := by
  obtain ⟨t, ht⟩ := Option.isSome_iff_exists.1 h.kv
  exact Database.writable_of_some ht key

/-- In the file it is the same. -/
theorem HardOf.atRest (h : HardOf s d) : HardOf s (atRest d) := by
  obtain ⟨kv, hkv⟩ := Option.isSome_iff_exists.1 h.kv
  obtain ⟨t, ht, -⟩ := h.rows
  refine h.congr ?_ rfl rfl ((Database.raftLogs_atRest ht).trans ht.symm)
  rw [Database.kvStates_atRest hkv]
  rfl

/-- A write of the rows of the log. -/
theorem HardOf.logs (h : HardOf s d) {l : AbstractLog} {t : LogTable} (t₀ : LogTable) (out : Output)
    (hpurged : l.purged = s.log.purged) (hrows : RowsOf l t)
    (hkeyed : ∀ {i e}, l.entries i = some e → e.index = i ∧ e.logId.Fits) :
    HardOf { s with log := l } (d.withLogRows t₀ t out) :=
  ⟨h.kv, h.vote, by rw [hpurged]; exact h.purged,
    ⟨t, Database.raftLogs_withLogRows h.clear .., hrows⟩, hkeyed⟩

omit [Serde LogId] [Serde Vote] [Serde Entry] in
theorem keyed_filter {l : AbstractLog} (h : ∀ {i e}, l.entries i = some e → e.index = i ∧ e.logId.Fits)
    (p : Nat → Prop) [DecidablePred p] {i : Nat} {e : Entry}
    (he : (if p i then none else l.entries i) = some e) : e.index = i ∧ e.logId.Fits := by
  split at he
  · cases he
  · exact h he

/-- **A write that can be bound does to the rows what it is for.** -/
theorem stmt_fits {a : LogWrite} (h : HardOf s d) (hfits : a.Fits) :
    ∃ d' out, a.stmt d = .ok (d', out) ∧ out.rows = [] ∧ HardOf (a.onHard s) d' := by
  obtain ⟨kv, hkv⟩ := Option.isSome_iff_exists.1 h.kv
  obtain ⟨t, ht, hrows⟩ := h.rows
  cases a with
  | vote v =>
    have hne : lastPurgedIdKey ≠ voteKey := by decide
    refine ⟨_, _, replicatKvUpsert_eq hkv .., rfl, Database.isSome_putKv hkv .., ?_, ?_,
      ⟨t, (Database.raftLogs_putKv ..).trans ht, hrows⟩, h.keyed⟩
    · exact Database.kv_putKv_self hkv ..
    · exact (Database.kv_putKv_ne d hne _).trans h.purged
  | marker logId =>
    have hne : voteKey ≠ lastPurgedIdKey := by decide
    refine ⟨_, _, replicatKvUpsert_eq hkv .., rfl, Database.isSome_putKv hkv .., ?_, ?_,
      ⟨t, (Database.raftLogs_putKv ..).trans ht, hrows.lookup, hrows.nonneg⟩, h.keyed⟩
    · exact (Database.kv_putKv_ne d hne _).trans h.vote
    · exact Database.kv_putKv_self hkv ..
  | entry e =>
    refine ⟨_, _, insertLog_eq ht hfits, rfl, h.logs _ _ rfl (hrows.put e) fun {i e'} he' => ?_⟩
    by_cases hi : i = e.index
    · subst hi
      obtain rfl : e = e' := by simpa [AbstractLog.entries_put_self] using he'
      exact ⟨rfl, hfits⟩
    · exact h.keyed ((AbstractLog.entries_put_ne s.log hi).symm.trans he')
  | deleteSince logId =>
    obtain ⟨out, hout, hempty⟩ := deleteLogs_eq ht (fun a b => b ≤ a) hfits
    refine ⟨_, out, hout, hempty, h.logs _ _ rfl (hrows.deleteWhere fun i => ?_)
      fun he => keyed_filter h.keyed (logId.index.toNat ≤ ·) he⟩
    simp [AbstractLog.entries_deleteFrom]
  | deleteUpto logId =>
    obtain ⟨out, hout, hempty⟩ := deleteLogs_eq ht (fun a b => a ≤ b) hfits
    refine ⟨_, out, hout, hempty, h.logs _ _ rfl (hrows.deleteWhere fun i => ?_)
      fun he => keyed_filter h.keyed (· ≤ logId.index.toNat) he⟩
    simp [AbstractLog.deleteUpto]

/-- A write that cannot be bound fails. -/
theorem stmt_unfit {a : LogWrite} (h : HardOf s d) (hfits : ¬ a.Fits) : ∃ e, a.stmt d = .error e := by
  obtain ⟨t, ht, -⟩ := h.rows
  have hrefusal := Database.refusal_of_clear h.clear raftLogsTableName
  replace ht := (Database.raftLogs_eq_some.1 ht).2
  have hbind : ∀ {v : UInt64}, ¬ v.toNat < 2 ^ 63 → bindU64 v = .error .toSqlConversionFailure :=
    fun hv => if_neg hv
  cases a with
  | vote v => exact absurd trivial hfits
  | marker logId => exact absurd trivial hfits
  | entry e =>
    change ∃ e', insertLog _ _ _ _ d = .error e'
    unfold insertLog
    rw [onLogs_eq ht hrefusal]
    by_cases hnode : e.logId.leaderId.nodeId.toNat < 2 ^ 63
    · by_cases hindex : e.logId.index.toNat < 2 ^ 63
      · by_cases hterm : e.logId.leaderId.term.toNat < 2 ^ 63
        · exact absurd ⟨hindex, hterm, hnode⟩ hfits
        · rw [bindU64_of_lt hnode, bindU64_of_lt hindex, hbind hterm]
          exact ⟨_, rfl⟩
      · rw [bindU64_of_lt hnode, hbind hindex]
        exact ⟨_, rfl⟩
    · rw [hbind hnode]
      exact ⟨_, rfl⟩
  | deleteSince logId =>
    change ∃ e, deleteLogs _ _ d = .error e
    unfold deleteLogs
    rw [onLogs_eq ht hrefusal, hbind hfits]
    exact ⟨_, rfl⟩
  | deleteUpto logId =>
    change ∃ e, deleteLogs _ _ d = .error e
    unfold deleteLogs
    rw [onLogs_eq ht hrefusal, hbind hfits]
    exact ⟨_, rfl⟩

end Rows

/-! ## One write and all of them -/

/-- The log database of a store is on its file and holds the hard state. -/
def HoldsHard (store : RaftStore) (s : HardState) (w : World U) : Prop :=
  ∃ d, w.Reads store.log d ∧ HardOf s d ∧ (w.conn store.log).backing = .disk

section Run

variable {store : RaftStore} {s : HardState} {w w' : World U}

theorem HoldsHard.withFaults (faults : List Bool) :
    HoldsHard store s (w.withFaults faults) ↔ HoldsHard store s w := by
  unfold HoldsHard World.Reads
  rw [World.conn_withFaults]

omit [Serde LogId] [Serde Vote] [Serde Entry] in
theorem World.nextFault_eq (w : World U) : w.nextFault = (w.faults.headD false, w.withFaults w.faults.tail) := by
  unfold World.nextFault World.withFaults
  rcases w with ⟨a, b, c, d, e, _ | _⟩ <;> rfl

/-- **One write**: it gets through and does what it is for, or it fails and does nothing. -/
theorem exec_write (h : HoldsHard store s w) (a : LogWrite) :
    (∃ n w', (store.log.execute (.onMain a.stmt)).run.exec w = (.ok n, w') ∧
      (w.faults.headD false = false ∧ a.Fits) ∧ HoldsHard store (a.onHard s) w' ∧
      w'.faults = w.faults.tail) ∨
    ∃ e w', (store.log.execute (.onMain a.stmt)).run.exec w = (.error e, w') ∧
      ¬ (w.faults.headD false = false ∧ a.Fits) ∧ HoldsHard store s w' := by
  rw [StorageHandle.execute, StorageHandle.exec_submitTask_eq, World.nextFault_eq]
  obtain ⟨d, hr, hd, hdisk⟩ := h
  cases hfault : w.faults.headD false with
  | true => exact .inr ⟨_, _, rfl, by simp, (HoldsHard.withFaults _).2 ⟨d, hr, hd, hdisk⟩⟩
  | false =>
    by_cases hfits : a.Fits
    · obtain ⟨d', out, hstmt, hempty, hd'⟩ := stmt_fits hd hfits
      have hstep := Connection.step_onMain hr hstmt
      refine .inl ⟨out.changes, (w.withFaults w.faults.tail).setConn store.log
        ((w.conn store.log).execute (.onMain a.stmt)).1, ?_, ⟨rfl, hfits⟩, ⟨d', ?_, hd', ?_⟩,
        World.faults_setConn ..⟩
      · simp [Connection.execute, hstep, hempty, Connection.executed]
      · simp [World.Reads, Connection.execute, hstep]
      · simp [Connection.execute, hstep, hdisk]
    · obtain ⟨e, hstmt⟩ := stmt_unfit hd hfits
      have hstep : (w.conn store.log).step (.onMain a.stmt) = (w.conn store.log, .error ⟨[], e⟩) := by
        rw [Connection.step_some hr]
        unfold Prepared.onMain
        rw [hstmt]
        exact Prod.ext (by rw [← show (w.conn store.log).session = some ⟨d, none⟩ from hr]) rfl
      refine .inr ⟨e, (w.withFaults w.faults.tail).setConn store.log
        ((w.conn store.log).execute (.onMain a.stmt)).1, ?_, by simp [hfits], ⟨d, ?_, hd, ?_⟩⟩
      · simp [Connection.execute, hstep, Connection.executed]
      · simpa [World.Reads, Connection.execute, hstep] using hr
      · simpa [Connection.execute, hstep] using hdisk

/-- The program of a list of writes, action by action. -/
theorem commitAll_cons (a : LogWrite) (as : List LogWrite) :
    (commitAll store (a :: as) : StorageResult U Unit).run =
      .act (fun w => ((store.log.execute (.onMain a.stmt)).run.exec w).2) fun w =>
        match ((store.log.execute (.onMain a.stmt)).run.exec w).1 with
        | .ok _ => (commitAll store as).run
        | .error e => .ret (.error (a.failure (.sql e))) := by
  refine congrArg (Prog.act _) (funext fun w => ?_)
  show (Prog.ret (((store.log.execute (.onMain a.stmt)).run.exec w).1.mapError _) >>= fun r => _) = _
  cases ((store.log.execute (.onMain a.stmt)).run.exec w).1 <;> rfl

/-- **Stopped after `n` tasks**, a call has done the first `n` of the writes that get through. -/
theorem after_commitAll (as : List LogWrite) (h : HoldsHard store s w) (n : Nat) :
    HoldsHard store (s.after ((through as w.faults).take n))
      ((commitAll store as : StorageResult U Unit).run.after n w) := by
  induction as generalizing s w n with
  | nil =>
    show HoldsHard store (s.after (List.take n [])) ((Prog.ret _).after n w)
    rw [List.take_nil, after_ret]
    exact h
  | cons a as ih =>
    cases n with
    | zero => exact h
    | succ n =>
      rw [commitAll_cons, after_act]
      rcases exec_write h a with ⟨n', w', hexec, hthrough, hw', hfaults⟩ | ⟨e, w', hexec, hstops, hw'⟩
      · rw [hexec, through, if_pos hthrough, ← hfaults]
        exact ih hw' n
      · rw [hexec, through, if_neg hstops]
        show HoldsHard store _ ((Prog.ret _).after n w')
        rw [after_ret]
        exact hw'

/-- **At its end** a call has done the writes that get through, and it returns `Ok` when these
are all. -/
theorem exec_commitAll (as : List LogWrite) (h : HoldsHard store s w) :
    ∃ r w', (commitAll store as : StorageResult U Unit).run.exec w = (r, w') ∧
      HoldsHard store (s.after (through as w.faults)) w' ∧ (r = .ok () ↔ through as w.faults = as) := by
  induction as generalizing s w with
  | nil => exact ⟨.ok (), w, rfl, h, iff_of_true rfl rfl⟩
  | cons a as ih =>
    rw [commitAll_cons, exec_act]
    rcases exec_write h a with ⟨n', w', hexec, hthrough, hw', hfaults⟩ | ⟨e, w', hexec, hstops, hw'⟩
    · rw [hexec, through, if_pos hthrough, ← hfaults]
      obtain ⟨r, w'', hrest, hw'', hok⟩ := ih hw'
      exact ⟨r, w'', hrest, hw'', by simpa using hok⟩
    · rw [hexec, through, if_neg hstops]
      exact ⟨_, w', rfl, hw', iff_of_false (fun h => nomatch h) (fun h => nomatch h)⟩

end Run

/-! ## Stopping and opening again -/

section Reopen

variable [Serde EffectiveMembership] {env : Env U} {stateStore : Option StateStore} {v : Applied U}
  {s : HardState} {w w' : World U}

omit [Serde EffectiveMembership] in
/-- A statement of the log half leaves the client tables, and the rows under other keys than its own two. -/
theorem LogWrite.stmt_keeps {a : LogWrite} {d d' : Database U} {out : Output} (h : a.stmt d = .ok (d', out)) :
    d'.kvStates.isSome = d.kvStates.isSome ∧ d'.user = d.user ∧ d'.hindrances = d.hindrances ∧
      d'.own.objects = d.own.objects ∧ ∀ key, voteKey ≠ key → lastPurgedIdKey ≠ key → d'.kv key = d.kv key := by
  have hlogs : ∀ {f out}, onLogs f d = .ok (d', out) → d'.kvStates.isSome = d.kvStates.isSome ∧
      d'.user = d.user ∧ d'.hindrances = d.hindrances ∧ d'.own.objects = d.own.objects ∧
      ∀ key, voteKey ≠ key → lastPurgedIdKey ≠ key → d'.kv key = d.kv key := by
    intro f out h
    obtain ⟨_, _, -, -, -, rfl⟩ := onLogs_eq_ok h
    exact ⟨rfl, rfl, rfl, rfl, fun _ _ _ => rfl⟩
  cases a with
  | vote vote =>
    rw [(replicatKvUpsert_eq_ok h).1]
    exact ⟨Database.isSome_kvStates_putKv .., Database.user_putKv .., Database.hindrances_putKv ..,
      Database.objects_putKv .., fun key hvote _ => Database.kv_putKv_ne d hvote.symm _⟩
  | marker logId =>
    rw [(replicatKvUpsert_eq_ok h).1]
    exact ⟨Database.isSome_kvStates_putKv .., Database.user_putKv .., Database.hindrances_putKv ..,
      Database.objects_putKv .., fun key _ hpurged => Database.kv_putKv_ne d hpurged.symm _⟩
  | entry e => exact hlogs h
  | deleteSince logId => exact hlogs h
  | deleteUpto logId => exact hlogs h

/-- The state machine beside it stays, -/
theorem Stored.stmt {a : LogWrite} {d d' : Database U} {out : Output} (hs : Stored v d)
    (h : a.stmt d = .ok (d', out)) : Stored v d' := by
  obtain ⟨-, htables, hclear, hobjects, hrows⟩ := LogWrite.stmt_keeps h
  exact hs.congr (hrows _ (by decide) (by decide)) (hrows _ (by decide) (by decide)) htables hclear hobjects

/-- and so does what is in the file. -/
theorem stmt_stored {a : LogWrite} {d d' : Database U} {out : Output} (h : a.stmt d = .ok (d', out))
    (hs : Stored v (atRest d)) : Stored v (atRest d') := by
  obtain ⟨-, htables, hclear, -, hrows⟩ := LogWrite.stmt_keeps h
  refine hs.congr (hrows _ (by decide) (by decide)) (hrows _ (by decide) (by decide)) htables ?_ rfl
  rw [Database.atRest_hindrances, Database.atRest_hindrances, hclear]

omit [Serde LogId] [Serde Vote] [Serde Entry] [Serde EffectiveMembership] in
theorem foundData_setConn {Q : Database U → Prop} (hq : Q (foundData env stateStore w))
    (h : StorageHandle) {c : Connection (Database U)}
    (hc : ∀ path, Q (found env path (w.conn h)) → Q (found env path c)) :
    Q (foundData env stateStore (w.setConn h c)) := by
  rcases stateStore with _ | path <;> cases h
  · exact hc .file hq
  · exact hq
  · exact hq
  · exact hc path hq

omit [Serde LogId] [Serde Vote] [Serde Entry] [Serde EffectiveMembership] in
theorem foundData_nextFault (w : World U) :
    foundData env stateStore w.nextFault.2 = foundData env stateStore w := by
  unfold World.nextFault
  cases w.faults <;> cases stateStore <;> rfl

theorem commitAll_found (store : RaftStore) (as : List LogWrite) :
    (commitAll store as : StorageResult U Unit).run.Within
      (Keeps fun w => Stored v (foundData env stateStore w)) := by
  induction as with
  | nil => exact within_run_pure ()
  | cons a as ih =>
    have hwrite : (store.log.execute (.onMain a.stmt)).run.Within
        (Keeps fun w : World U => Stored v (foundData env stateStore w)) := by
      have hnext : ∀ w : World U, Stored v (foundData env stateStore w) →
          Stored v (foundData env stateStore w.nextFault.2) := fun w hw => by rwa [foundData_nextFault]
      refine StorageHandle.within_submitTask hnext fun w hw => ?_
      refine foundData_setConn (Q := Stored v) (hnext w hw) _ fun path hpath => ?_
      rw [World.conn_nextFault] at hpath
      exact found_step (fun _ _ _ => stmt_stored) path hpath
    exact hwrite.run_mapErr.run_bind fun _ => ih

/-- The node of a store whose log half is at `s` and whose state machine is at `v`. -/
structure LogNode (env : Env U) (stateStore : Option StateStore) (v : Applied U) (s : HardState)
    (w : World U) : Prop where
  hard : HoldsHard (storeOf stateStore) s w
  found : Stored v (foundData env stateStore w)

theorem LogNode.withFaults (faults : List Bool) :
    LogNode env stateStore v s (w.withFaults faults) ↔ LogNode env stateStore v s w := by
  have hfound : foundData env stateStore (w.withFaults faults) = foundData env stateStore w := by
    cases stateStore <;> rfl
  constructor
  · rintro ⟨hhard, hdata⟩
    exact ⟨(HoldsHard.withFaults faults).1 hhard, hfound ▸ hdata⟩
  · rintro ⟨hhard, hdata⟩
    exact ⟨(HoldsHard.withFaults faults).2 hhard, hfound.symm ▸ hdata⟩

theorem LogNode.after (h : LogNode env stateStore v s w) (as : List LogWrite) (n : Nat) :
    LogNode env stateStore v (s.after ((through as w.faults).take n))
      ((commitAll (storeOf stateStore) as : StorageResult U Unit).run.after n w) :=
  ⟨after_commitAll as h.hard n, (commitAll_found _ as).after n w h.found⟩

theorem LogNode.exec (h : LogNode env stateStore v s w) (as : List LogWrite) :
    ∃ r w', (commitAll (storeOf stateStore) as : StorageResult U Unit).run.exec w = (r, w') ∧
      LogNode env stateStore v (s.after (through as w.faults)) w' ∧ (r = .ok () ↔ through as w.faults = as) := by
  obtain ⟨r, w', hexec, hhard, hok⟩ := exec_commitAll as h.hard
  have hkeeps : (commitAll (storeOf stateStore) as : StorageResult U Unit).run.Within
      (Keeps fun w => Stored v (foundData env stateStore w)) := commitAll_found _ as
  have hfound := hkeeps.exec w h.found
  rw [hexec] at hfound
  exact ⟨r, w', hexec, ⟨hhard, hfound⟩, hok⟩

omit [Serde EffectiveMembership] in
theorem HardOf.opened {d : Database U} (h : HardOf s d) : HardOf s d.withLogs.withKv := by
  obtain ⟨t, ht, -⟩ := h.rows
  obtain ⟨hclear, ht⟩ := Database.raftLogs_eq_some.1 ht
  refine h.congr ?_ (Database.kv_withKv ..) (Database.kv_withKv ..) ?_
  · rw [Database.kvStates_withKv (show d.withLogs.hindrances = [] from hclear)]
    rfl
  · simp [Database.raftLogs, Database.withLogs, Database.withKv, ht, hclear]

/-- **An open finds both halves**: the rows of the log database are those of `s` once it has its
tables, and those of the state machine are those of `v`. -/
theorem openStore_node (hf : w.faults = []) (hlog : HardOf s (Replicat.found env .file w.logDb).withLogs.withKv)
    (hdata : Stored v (foundData env stateStore w)) :
    (RaftStore.openStore env stateStore).run.exec w = (.ok (storeOf stateStore), opened env stateStore v w) ∧
      LogNode env stateStore v s (opened env stateStore v w) := by
  refine ⟨openStore_exec hf hdata, ⟨_, rfl, hlog, rfl⟩, ?_⟩
  rcases stateStore with _ | _ | _
  · exact hdata.withLogs.withKv.atRest
  · exact hdata
  · exact hdata.withKv.atRest

/-- An open that returned `Ok`, whatever the storage. -/
theorem openStore_node_ok (hf : w.faults = [])
    (hlog : HardOf s (Replicat.found env .file w.logDb).withLogs.withKv)
    (hdata : Stored v (foundData env stateStore w)) {faults : List Bool} {store : RaftStore}
    (hopen : (RaftStore.openStore env stateStore).run.exec (w.withFaults faults) = (.ok store, w')) :
    ∃ faults', w' = (opened env stateStore v w).withFaults faults' ∧ LogNode env stateStore v s w' := by
  obtain ⟨faults', t, hsound, rfl⟩ := (failStop_openStore env stateStore).exec_ok hf hopen
  obtain ⟨hexec, hnode⟩ := openStore_node hf hlog hdata
  rw [hexec] at hsound
  cases hsound
  exact ⟨faults', rfl, (LogNode.withFaults _).2 hnode⟩

/-- What a node leaves on disk. -/
theorem LogNode.crash (h : LogNode env stateStore v s w) :
    HardOf s (Replicat.found env .file (w.crash.withFaults []).logDb).withLogs.withKv ∧
      Stored v (foundData env stateStore (w.crash.withFaults [])) := by
  constructor
  · obtain ⟨d, hr, hd, hdisk⟩ := h.hard
    have hdurable : w.logDb.durable = some d := Connection.durable_of_disk hdisk hr
    have hfound : Replicat.found env .file (w.crash.withFaults []).logDb = Sqlite.atRest d := by
      simp [Replicat.found, World.crash, World.withFaults, hdurable]
    rw [hfound]
    exact hd.atRest.opened
  · have hcrash : foundData env stateStore (w.crash.withFaults []) = foundData env stateStore w := by
      rcases stateStore with _ | _ | _ <;> simp [foundData, Replicat.found, World.crash, World.withFaults]
    rw [hcrash]
    exact h.found

/-- **The process ends, and the store is opened again**: both halves are as they were. -/
theorem LogNode.reopen (h : LogNode env stateStore v s w) :
    ∃ w', (RaftStore.openStore env stateStore).run.exec (w.crash.withFaults []) =
      (.ok (storeOf stateStore), w') ∧ LogNode env stateStore v s w' ∧ w'.faults = [] := by
  obtain ⟨hexec, hnode⟩ := openStore_node rfl h.crash.1 h.crash.2
  exact ⟨_, hexec, hnode, rfl⟩

/-- An open that returned `Ok`, on whatever storage. -/
theorem LogNode.reopen_ok (h : LogNode env stateStore v s w) {faults : List Bool} {store : RaftStore}
    (hopen : (RaftStore.openStore env stateStore).run.exec (w.crash.withFaults faults) = (.ok store, w')) :
    LogNode env stateStore v s w' := by
  obtain ⟨_, -, hnode⟩ := openStore_node_ok rfl h.crash.1 h.crash.2 hopen
  exact hnode

omit [Serde EffectiveMembership] in
/-- Nothing on disk is the log of no entry. -/
theorem hardOf_absent (env : Env U) : HardOf .empty (Database.empty env).withLogs.withKv :=
  ⟨rfl, rfl, rfl, ⟨_, rfl, .empty⟩, fun h => (nomatch h)⟩

/-- A state machine that no entry was applied to. -/
def unapplied (env : Env U) : Applied U := .at (fun _ t => t) env.emptyUser []

/-- A store just opened on an empty disk. -/
theorem LogNode.fresh (env : Env U) (effect : Request → U → U) (stateStore : Option StateStore)
    {faults : List Bool} {store : RaftStore}
    (hopen : (RaftStore.openStore env stateStore).run.exec (World.fresh.withFaults faults) = (.ok store, w)) :
    LogNode env stateStore (Applied.at effect env.emptyUser []) .empty w := by
  obtain ⟨hf, hstored⟩ := finds_fresh env effect stateStore
  obtain ⟨_, -, hnode⟩ := openStore_node_ok hf (hardOf_absent env) hstored hopen
  exact hnode

/-- On a storage that does not fail. -/
theorem openStore_fresh (env : Env U) (stateStore : Option StateStore) :
    ∃ w, (RaftStore.openStore env stateStore).run.exec World.fresh = (.ok (storeOf stateStore), w) ∧
      LogNode env stateStore (unapplied env) .empty w ∧ w.faults = [] := by
  obtain ⟨hf, hstored⟩ := finds_fresh env (fun _ t => t) stateStore
  obtain ⟨hopen, hnode⟩ := openStore_node hf (hardOf_absent env) hstored
  exact ⟨_, hopen, hnode, rfl⟩

end Reopen

/-! ## What the store answers -/

section Serves

variable {env : Env U} {store : RaftStore} {s : HardState} {w : World U}

/-- What the log half answers on a storage that does not fail is the hard state. -/
structure Serves (env : Env U) (store : RaftStore) (s : HardState) (w : World U) : Prop where
  vote : resultOf store.readVote w = .ok s.vote
  entries : ∀ checks startBound endBound, (∃ i, i < 2 ^ 64 ∧ InRange startBound endBound i) →
    ∃ p es, store.tryGetLogEntries env checks startBound endBound = some p ∧ resultOf p w = .ok es ∧
      ∀ i e, (e ∈ es ∧ e.index = i) ↔ (s.log.entries i = some e ∧ InRange startBound endBound i)
  state : ∃ last, resultOf store.getLogState w = .ok ⟨s.log.purged, last⟩ ∧
    ((s.log.Empty ∧ last = s.log.purged) ∨
      ∃ i e, s.log.entries i = some e ∧ (∀ j, s.log.Holds j → j ≤ i) ∧ last = some e.logId)

theorem HoldsHard.serves (h : HoldsHard store s w) : Serves env store s w := by
  obtain ⟨d, hr, hd, -⟩ := (HoldsHard.withFaults []).2 h
  obtain ⟨kv, hkv⟩ := Option.isSome_iff_exists.1 hd.kv
  obtain ⟨t, ht, hrows⟩ := hd.rows
  refine ⟨?_, fun checks startBound endBound hrange => ?_, ?_⟩
  · refine readVote_of_rows ?_
    have hs : (w.conn store.log).session = some ⟨d, none⟩ := by rwa [← World.conn_withFaults w []]
    unfold World.rows Database.voteRows
    have htable : d.kvTable.isSome := by
      rw [(Database.kvStates_eq_some.1 hkv).2]
      rfl
    rw [hs, Option.map_some, htable, hd.vote]
  · obtain ⟨p, es, hp, hexec, -, hmem⟩ :=
      tryGetLogEntries_rows rfl hr ht hrows hd.keyed checks hrange
    exact ⟨p, es, hp, congrArg Prod.fst hexec, hmem⟩
  · obtain ⟨last, hexec, hlast⟩ :=
      getLogState_rows rfl hr hkv ht hrows (fun he => (hd.keyed he).1) hd.purged
    exact ⟨last, congrArg Prod.fst hexec, hlast⟩

end Serves

end Replicat
