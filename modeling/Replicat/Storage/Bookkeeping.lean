import Replicat.Storage.ClientErrors
import Replicat.Storage.LogWrites
import Replicat.Storage.SnapshotFile

/-!
# The bookkeeping of a store

`Bookkeeping` is what the store's own calls write down: the hard state and the snapshot counter
on the log handle, the applied id, the membership and the snapshot metadata on the data handle.
`OwnWrite` is one write of it. `Rows` says that the connections read one bookkeeping, in
whatever transaction a client has left open, and every call of the store is shown to do its own
writes to it and no other, up to where it fails, as long as the statements it runs for clients
leave the rows alone (`Untouched`).
-/

namespace Replicat

open Sqlite Atomics Atomics.Prog

variable {U : Type}

/-! ## The bookkeeping and the writes on it -/

structure Bookkeeping where
  applied : Option LogId
  membership : Option EffectiveMembership
  snapshotMeta : Option SnapshotMeta
  snapshotIndex : Option Value
  hard : HardState

def Bookkeeping.empty : Bookkeeping := ⟨none, none, none, none, .empty⟩

/-- One write of a call that is not a client's. -/
inductive OwnWrite where
  | log (a : LogWrite)
  | lastApplied (logId : LogId)
  | lastMembership (membership : EffectiveMembership)
  | snapshotIndex
  | snapshotMeta (metadata : SnapshotMeta)

def OwnWrite.onBook : OwnWrite → Bookkeeping → Bookkeeping
  | log a, b => { b with hard := a.onHard b.hard }
  | lastApplied logId, b => { b with applied := some logId }
  | lastMembership membership, b => { b with membership := some membership }
  | snapshotIndex, b => { b with snapshotIndex := some (nextIndexValue b.snapshotIndex) }
  | snapshotMeta metadata, b => { b with snapshotMeta := some metadata }

namespace Bookkeeping

def after (b : Bookkeeping) (as : List OwnWrite) : Bookkeeping := as.foldl (fun b a => a.onBook b) b

theorem after_append (b : Bookkeeping) (as as' : List OwnWrite) :
    b.after (as ++ as') = (b.after as).after as' := List.foldl_append

/-- The metadata of a snapshot built now. -/
def nextMeta (env : Env U) (b : Bookkeeping) : SnapshotMeta :=
  ⟨b.applied, b.membership.getD default,
    RaftStore.snapshotId env b.applied (nextIndex b.snapshotIndex)⟩

end Bookkeeping

def Entry.ownWrites (e : Entry) : List OwnWrite :=
  .lastApplied e.logId :: e.membership?.toList.map .lastMembership

/-- The writes of a call, in order. An install has no single writes. -/
def StoreCall.ownWrites (env : Env U) (b : Bookkeeping) : StoreCall → List OwnWrite
  | applyToStateMachine entries => entries.flatMap Entry.ownWrites
  | buildSnapshot => [.snapshotIndex, .snapshotMeta (b.nextMeta env)]
  | call => call.writes.map .log

/-! ## The rows -/

section Rows

variable [Serde LogId] [Serde Vote] [Serde Entry] [Serde EffectiveMembership] [Serde SnapshotMeta]

/-- The rows of the data handle. -/
structure DataOf (b : Bookkeeping) (d : Database U) : Prop where
  kv : d.kvStates.isSome
  applied : d.kv lastLogKey = b.applied.map fun logId => .blob (encoded logId)
  membership : d.kv lastMembershipKey = b.membership.map fun membership => .blob (encoded membership)
  snapshotMeta : d.kv snapshotMetaKey = b.snapshotMeta.map fun metadata => .blob (encoded metadata)

/-- The rows of the log handle. -/
structure LogOf (b : Bookkeeping) (d : Database U) : Prop where
  hard : HardOf b.hard d
  snapshotIndex : d.kv snapshotIndexKey = b.snapshotIndex

/-- The row of `replicat_kv_states` that a write which is none of the log's sets. -/
def OwnWrite.row (b : Bookkeeping) : OwnWrite → Option (String × Value)
  | log _ => none
  | lastApplied logId => some (lastLogKey, .blob (encoded logId))
  | lastMembership membership => some (lastMembershipKey, .blob (encoded membership))
  | snapshotIndex => some (snapshotIndexKey, nextIndexValue b.snapshotIndex)
  | snapshotMeta metadata => some (snapshotMetaKey, .blob (encoded metadata))

variable {b : Bookkeeping} {d d' : Database U} {key : String} {v : Value}

omit [Serde Vote] [Serde Entry] in
/-- Nothing is in the way of its writes. -/
theorem DataOf.clear (h : DataOf b d) : d.hindrances = [] := by
  obtain ⟨t, ht⟩ := Option.isSome_iff_exists.1 h.kv
  exact (Database.kvStates_eq_some.1 ht).1

omit [Serde Vote] [Serde Entry] in
theorem DataOf.writable (h : DataOf b d) (key : String) : d.Writable key := by
  obtain ⟨t, ht⟩ := Option.isSome_iff_exists.1 h.kv
  exact Database.writable_of_some ht key

omit [Serde Vote] [Serde Entry] in
theorem DataOf.atRest (h : DataOf b d) : DataOf b (atRest d) := by
  obtain ⟨t, ht⟩ := Option.isSome_iff_exists.1 h.kv
  exact ⟨by rw [Database.kvStates_atRest ht]; rfl, h.applied, h.membership, h.snapshotMeta⟩

omit [Serde EffectiveMembership] [Serde SnapshotMeta] in
theorem LogOf.atRest (h : LogOf b d) : LogOf b (atRest d) := ⟨h.hard.atRest, h.snapshotIndex⟩

omit [Serde Vote] [Serde Entry] in
theorem DataOf.put (h : DataOf b d) {a : OwnWrite} (hrow : a.row b = some (key, v)) :
    DataOf (a.onBook b) (d.putKv key v) := by
  obtain ⟨t, ht⟩ := Option.isSome_iff_exists.1 h.kv
  cases a with
  | log a => cases hrow
  | lastApplied logId =>
    cases hrow
    refine ⟨Database.isSome_putKv ht .., Database.kv_putKv_self ht .., ?_, ?_⟩
    · exact (Database.kv_putKv_ne d (by decide) _).trans h.membership
    · exact (Database.kv_putKv_ne d (by decide) _).trans h.snapshotMeta
  | lastMembership membership =>
    cases hrow
    refine ⟨Database.isSome_putKv ht .., ?_, Database.kv_putKv_self ht .., ?_⟩
    · exact (Database.kv_putKv_ne d (by decide) _).trans h.applied
    · exact (Database.kv_putKv_ne d (by decide) _).trans h.snapshotMeta
  | snapshotIndex =>
    cases hrow
    refine ⟨Database.isSome_putKv ht .., ?_, ?_, ?_⟩
    · exact (Database.kv_putKv_ne d (by decide) _).trans h.applied
    · exact (Database.kv_putKv_ne d (by decide) _).trans h.membership
    · exact (Database.kv_putKv_ne d (by decide) _).trans h.snapshotMeta
  | snapshotMeta metadata =>
    cases hrow
    refine ⟨Database.isSome_putKv ht .., ?_, ?_, Database.kv_putKv_self ht ..⟩
    · exact (Database.kv_putKv_ne d (by decide) _).trans h.applied
    · exact (Database.kv_putKv_ne d (by decide) _).trans h.membership

theorem LogOf.put (h : LogOf b d) {a : OwnWrite} (hrow : a.row b = some (key, v)) :
    LogOf (a.onBook b) (d.putKv key v) := by
  obtain ⟨t, ht⟩ := Option.isSome_iff_exists.1 h.hard.kv
  have hhard : voteKey ≠ key → lastPurgedIdKey ≠ key → HardOf b.hard (d.putKv key v) :=
    fun hvote hpurged => h.hard.congr (Database.isSome_putKv ht ..) (Database.kv_putKv_ne d hvote _)
      (Database.kv_putKv_ne d hpurged _) (Database.raftLogs_putKv ..)
  cases a with
  | log a => cases hrow
  | snapshotIndex =>
    cases hrow
    exact ⟨hhard (by decide) (by decide), Database.kv_putKv_self ht ..⟩
  | lastApplied logId =>
    cases hrow
    exact ⟨hhard (by decide) (by decide), (Database.kv_putKv_ne d (by decide) _).trans h.snapshotIndex⟩
  | lastMembership membership =>
    cases hrow
    exact ⟨hhard (by decide) (by decide), (Database.kv_putKv_ne d (by decide) _).trans h.snapshotIndex⟩
  | snapshotMeta metadata =>
    cases hrow
    exact ⟨hhard (by decide) (by decide), (Database.kv_putKv_ne d (by decide) _).trans h.snapshotIndex⟩

theorem DataOf.stmt (h : DataOf b d) {a : LogWrite} {out : Output} (hstmt : a.stmt d = .ok (d', out)) :
    DataOf b d' := by
  obtain ⟨hkv, -, -, -, hrows⟩ := LogWrite.stmt_keeps hstmt
  refine ⟨hkv ▸ h.kv, ?_, ?_, ?_⟩
  · exact (hrows _ (by decide) (by decide)).trans h.applied
  · exact (hrows _ (by decide) (by decide)).trans h.membership
  · exact (hrows _ (by decide) (by decide)).trans h.snapshotMeta

omit [Serde EffectiveMembership] [Serde SnapshotMeta] in
theorem LogOf.stmt (h : LogOf b d) {a : LogWrite} {out : Output} (hstmt : a.stmt d = .ok (d', out)) :
    LogOf ((OwnWrite.log a).onBook b) d' ∧ out.rows = [] := by
  by_cases hfits : a.Fits
  · obtain ⟨d₁, out₁, hstmt₁, hempty, hhard⟩ := stmt_fits h.hard hfits
    rw [hstmt] at hstmt₁
    cases hstmt₁
    obtain ⟨-, -, -, -, hrows⟩ := LogWrite.stmt_keeps hstmt
    exact ⟨⟨hhard, (hrows _ (by decide) (by decide)).trans h.snapshotIndex⟩, hempty⟩
  · obtain ⟨e, herror⟩ := stmt_unfit h.hard hfits
    rw [hstmt] at herror
    cases herror

end Rows

/-! ## One task in any session -/

/-- The world after a task that left the connection in this session. -/
def World.setSession (w : World U) (h : StorageHandle) (s : Session (Database U)) : World U :=
  w.nextFault.2.setConn h { w.conn h with session := some s }

section Tasks

variable {h : StorageHandle} {w : World U} {s s' : Session (Database U)}

namespace World

@[simp] theorem session_setSession_self : ((w.setSession h s).conn h).session = some s := by
  simp [setSession]

theorem conn_setSession_ne {h' : StorageHandle} (hne : h ≠ h') : (w.setSession h s).conn h' = w.conn h' := by
  unfold setSession
  rw [conn_setConn_ne _ hne, conn_nextFault]

@[simp] theorem lastAppliedLog_setSession : (w.setSession h s).lastAppliedLog = w.lastAppliedLog := by
  unfold setSession nextFault
  cases w.faults <;> simp

@[simp] theorem lastMembership_setSession : (w.setSession h s).lastMembership = w.lastMembership := by
  unfold setSession nextFault
  cases w.faults <;> simp

/-- A task that the storage failed left its connection as it was. -/
theorem setSession_self (hs : (w.conn h).session = some s) : w.setSession h s = w.nextFault.2 := by
  have hconn : { w.conn h with session := some s } = w.nextFault.2.conn h := by
    rw [conn_nextFault, ← hs]
  unfold setSession
  rw [hconn, setConn_conn]

end World

/-- A write task: the storage fails it, or its statement runs in the session. -/
theorem exec_execute_session (hs : (w.conn h).session = some s) (stmt : Prepared (Database U)) :
    (w.nextFault.1 = true ∧ ∃ e, (h.execute stmt).run.exec w = (.error e, w.setSession h s)) ∨
    (w.nextFault.1 = false ∧ ∃ r, (h.execute stmt).run.exec w = (r, w.setSession h (stmt s).1) ∧
      ((∃ n, r = .ok n) ↔ Succeeds (stmt s).2)) := by
  rw [StorageHandle.execute, StorageHandle.exec_submitTask_eq]
  cases w.nextFault.1 with
  | true => exact .inl ⟨rfl, ioFailure, by rw [World.setSession_self hs]; rfl⟩
  | false =>
    refine .inr ⟨rfl, _, by simp [Connection.execute, Connection.step_some hs, World.setSession]; rfl, ?_⟩
    rcases (stmt s).2 with e | ⟨_ | ⟨row, rows⟩, n⟩
    · simp [Connection.executed, Succeeds]
    · simp [Connection.executed, Succeeds]
    · simp [Connection.executed, Succeeds]

/-- A write task on the main database that returns no rows. -/
theorem exec_onMain_session (hs : (w.conn h).session = some s) {stmt : Stmt U}
    (hrows : ∀ d out, stmt s.main = .ok (d, out) → out.rows = []) :
    (∃ e, (h.execute (.onMain stmt)).run.exec w = (.error e, w.setSession h s)) ∨
    ∃ n d out, stmt s.main = .ok (d, out) ∧
      (h.execute (.onMain stmt)).run.exec w = (.ok n, w.setSession h { s with main := d }) := by
  rcases exec_execute_session hs (.onMain stmt) with ⟨-, herror⟩ | ⟨-, r, hexec, hok⟩
  · exact .inl herror
  · unfold Prepared.onMain at hexec hok
    cases hstmt : stmt s.main with
    | error e =>
      rw [hstmt] at hexec hok
      rcases r with e' | n
      · exact .inl ⟨e', hexec⟩
      · obtain ⟨m, hm⟩ := hok.1 ⟨n, rfl⟩
        cases hm
    | ok dout =>
      obtain ⟨d, out⟩ := dout
      rw [hstmt] at hexec hok
      obtain ⟨n, rfl⟩ := hok.2 ⟨out.changes, congrArg Except.ok (by rw [← hrows d out hstmt])⟩
      exact .inr ⟨n, d, out, rfl, hexec⟩

theorem exec_upsert_session (hs : (w.conn h).session = some s) (key : String) (v : Value) :
    (∃ e, (h.execute (.onMain (replicatKvUpsert key v))).run.exec w = (.error e, w.setSession h s)) ∨
    ∃ n, (h.execute (.onMain (replicatKvUpsert key v))).run.exec w =
      (.ok n, w.setSession h { s with main := s.main.putKv key v }) := by
  rcases exec_upsert_cases h key v w with ⟨s', -, hs', -, hexec⟩ | ⟨-, e, hexec⟩
  · obtain rfl : s = s' := Option.some.inj (hs.symm.trans hs')
    exact .inr ⟨1, hexec⟩
  · exact .inl ⟨e, by rw [hexec, World.setSession_self hs]⟩

/-- A query of one row that runs on the main database. -/
theorem exec_fetchOne_session {α : Type} (hs : (w.conn h).session = some s) {stmt : Stmt U} {d : Database U}
    {out : Output} (hstmt : stmt s.main = .ok (d, out)) (fromRow : Row → Except SqlError α) :
    (w.nextFault.1 = true ∧
      ∃ e, (h.fetchOne (.onMain stmt) fromRow).run.exec w = (.error e, w.setSession h s)) ∨
    (w.nextFault.1 = false ∧ (h.fetchOne (.onMain stmt) fromRow).run.exec w =
      (Connection.firstRow fromRow out.rows, w.setSession h { s with main := d })) := by
  rw [StorageHandle.fetchOne, StorageHandle.exec_submitTask_eq]
  cases w.nextFault.1 with
  | true => exact .inl ⟨rfl, ioFailure, by rw [World.setSession_self hs]; rfl⟩
  | false =>
    refine .inr ⟨rfl, ?_⟩
    simp [Connection.queryRow, Connection.step_onMain hs hstmt, World.setSession, Connection.firstOf]

end Tasks

/-! ## Where the bookkeeping stands -/

section Stands

variable [Serde LogId] [Serde Vote] [Serde Entry] [Serde EffectiveMembership] [Serde SnapshotMeta]
variable {ε : Type} {store : RaftStore} {b b' : Bookkeeping} {s s' : Session (Database U)} {w : World U}

/-- The connections read the bookkeeping, that of the data handle in the session `s`, and the
cached fields are its. A log handle of its own is outside a transaction. -/
structure Booked (store : RaftStore) (b : Bookkeeping) (s : Session (Database U)) (w : World U) :
    Prop where
  session : (w.conn store.data).session = some s
  data : DataOf b s.main
  log : ∃ s', (w.conn store.log).session = some s' ∧ LogOf b s'.main ∧
    (store.log ≠ store.data → s'.saved = none)
  lastAppliedLog : w.lastAppliedLog = b.applied
  lastMembership : w.lastMembership = b.membership.getD default

def Stands (store : RaftStore) (b : Bookkeeping) (w : World U) : Prop := ∃ s, Booked store b s w

/-- The first few of the writes are done. -/
def StandsWithin (store : RaftStore) (b : Bookkeeping) (as : List OwnWrite) (w : World U) : Prop :=
  ∃ n, Stands store (b.after (as.take n)) w

theorem StandsWithin.start {as : List OwnWrite} (h : Stands store b w) : StandsWithin store b as w :=
  ⟨0, h⟩

theorem StandsWithin.append (as : List OwnWrite) {as' : List OwnWrite}
    (h : StandsWithin store (b.after as) as' w) : StandsWithin store b (as ++ as') w := by
  obtain ⟨n, hn⟩ := h
  refine ⟨as.length + n, ?_⟩
  rwa [List.take_length_add_append, Bookkeeping.after_append]

theorem StandsWithin.more {as : List OwnWrite} (h : StandsWithin store b as w) (as' : List OwnWrite) :
    StandsWithin store b (as ++ as') w := by
  obtain ⟨n, hn⟩ := h
  refine ⟨min n as.length, ?_⟩
  rwa [List.take_append_of_le_length (Nat.min_le_right ..), List.take_eq_take_min.symm]

/-- All of the writes are done. -/
theorem StandsWithin.done {as : List OwnWrite} (h : Stands store (b.after as) w) : StandsWithin store b as w :=
  ⟨as.length, by rwa [List.take_length]⟩

theorem Booked.withFaults (h : Booked store b s w) (faults : List Bool) :
    Booked store b s (w.withFaults faults) := by
  refine ⟨?_, h.data, ?_, h.lastAppliedLog, h.lastMembership⟩
  · rw [World.conn_withFaults]
    exact h.session
  · rw [World.conn_withFaults]
    exact h.log

/-- A task on the data handle that the fields do not show yet. -/
theorem Booked.setData (h : Booked store b s w) (hdata : DataOf b' s'.main)
    (hshared : store.log = store.data → LogOf b s.main → LogOf b' s'.main)
    (hown : ∀ d : Database U, LogOf b d → LogOf b' d) {w' : World U}
    (hconn : ∀ handle, w'.conn handle = (w.setSession store.data s').conn handle)
    (hlast : w'.lastAppliedLog = b'.applied) (hmembership : w'.lastMembership = b'.membership.getD default) :
    Booked store b' s' w' := by
  refine ⟨by rw [hconn, World.session_setSession_self], hdata, ?_, hlast, hmembership⟩
  obtain ⟨sl, hsl, hlog, hsaved⟩ := h.log
  by_cases hsame : store.log = store.data
  · obtain rfl : s = sl := Option.some.inj (h.session.symm.trans (hsame ▸ hsl))
    refine ⟨s', ?_, hshared hsame hlog, fun hne => absurd hsame hne⟩
    rw [hconn, hsame, World.session_setSession_self]
  · refine ⟨sl, ?_, hown _ hlog, hsaved⟩
    rw [hconn, World.conn_setSession_ne (Ne.symm hsame)]
    exact hsl

/-- A statement on the log handle. -/
theorem Booked.setLog (h : Booked store b s w) {sl : Session (Database U)} {d : Database U}
    (hsl : (w.conn store.log).session = some sl) (hlog : LogOf b' d)
    (hshared : store.log = store.data → DataOf b sl.main → DataOf b' d)
    (hown : ∀ d : Database U, DataOf b d → DataOf b' d) (happlied : b'.applied = b.applied)
    (hmembership : b'.membership = b.membership) :
    Stands store b' (w.setSession store.log { sl with main := d }) := by
  obtain ⟨sl', hsl', -, hsaved⟩ := h.log
  obtain rfl : sl = sl' := Option.some.inj (hsl.symm.trans hsl')
  have hlast : (w.setSession store.log { sl with main := d }).lastAppliedLog = b'.applied := by
    rw [World.lastAppliedLog_setSession, h.lastAppliedLog, happlied]
  have hmem : (w.setSession store.log { sl with main := d }).lastMembership = b'.membership.getD default := by
    rw [World.lastMembership_setSession, h.lastMembership, hmembership]
  have hlog' : ∃ s', ((w.setSession store.log { sl with main := d }).conn store.log).session = some s' ∧
      LogOf b' s'.main ∧ (store.log ≠ store.data → s'.saved = none) :=
    ⟨{ sl with main := d }, World.session_setSession_self, hlog, hsaved⟩
  by_cases hsame : store.log = store.data
  · obtain rfl : s = sl := Option.some.inj (h.session.symm.trans (hsame ▸ hsl))
    refine ⟨{ s with main := d }, ?_, hshared hsame h.data, hlog', hlast, hmem⟩
    rw [← hsame, World.session_setSession_self]
  · refine ⟨s, ?_, hown _ h.data, hlog', hlast, hmem⟩
    rw [World.conn_setSession_ne hsame]
    exact h.session

/-- A task that changed nothing. -/
theorem Booked.idle (h : Booked store b s w) : Booked store b s (w.setSession store.data s) :=
  h.setData h.data (fun _ hlog => hlog) (fun _ hlog => hlog) (fun _ => rfl)
    (by rw [World.lastAppliedLog_setSession, h.lastAppliedLog])
    (by rw [World.lastMembership_setSession, h.lastMembership])

/-! ### The data handle -/

/-- A row of the data handle, then the field beside it. -/
theorem triple_setRow {key : String} {v : Bytes} {a : OwnWrite} {f : World U → World U}
    (hrow : a.row b = some (key, .blob v)) (hown : ∀ d : Database U, LogOf b d → LogOf (a.onBook b) d)
    (hconn : ∀ w handle, (f w).conn handle = w.conn handle)
    (hfields : ∀ w, w.lastAppliedLog = b.applied → w.lastMembership = b.membership.getD default →
      (f w).lastAppliedLog = (a.onBook b).applied ∧
        (f w).lastMembership = (a.onBook b).membership.getD default) :
    Triple (Booked store b s) (do
        let _ ← task storeWriteError (store.data.execute (.onMain (replicatKvUpsert key (.blob v))))
        liftAct fun w => ((), f w) : StorageResult U Unit)
      (fun _ => Booked store (a.onBook b) { s with main := s.main.putKv key (.blob v) })
      (Booked store b s) := by
  intro w hw
  rcases exec_upsert_session hw.session key (.blob v) with ⟨e, hexec⟩ | ⟨n, hexec⟩
  · refine .inr ⟨storeWriteError (.sql e), _, exec_run_bind_error ?_, hw.idle⟩
    unfold task
    rw [exec_run_mapErr, hexec]
    rfl
  · refine .inl ⟨(), _, exec_run_bind_ok (exec_task hexec), ?_⟩
    obtain ⟨hlast, hmembership⟩ := hfields (w.setSession store.data { s with main := s.main.putKv key (.blob v) })
      (by rw [World.lastAppliedLog_setSession, hw.lastAppliedLog])
      (by rw [World.lastMembership_setSession, hw.lastMembership])
    exact hw.setData (hw.data.put hrow) (fun _ hlog => hlog.put hrow) hown (hconn _) hlast hmembership

theorem triple_setLastAppliedLog (store : RaftStore) (b : Bookkeeping) (s : Session (Database U))
    (logId : LogId) :
    Triple (Booked store b s) (StateMachine.setLastAppliedLog store.data logId : StorageResult U Unit)
      (fun _ => Booked store ((OwnWrite.lastApplied logId).onBook b)
        { s with main := s.main.putKv lastLogKey (.blob (encoded logId)) })
      (Booked store b s) := by
  unfold StateMachine.setLastAppliedLog
  rw [encode_eq, pure_bind]
  exact triple_setRow rfl (fun _ hlog => ⟨hlog.hard, hlog.snapshotIndex⟩) (fun w handle => by cases handle <;> rfl)
    fun w _ hmembership => ⟨rfl, hmembership⟩

theorem triple_setLastMembership (store : RaftStore) (b : Bookkeeping) (s : Session (Database U))
    (membership : EffectiveMembership) :
    Triple (Booked store b s) (StateMachine.setLastMembership store.data membership : StorageResult U Unit)
      (fun _ => Booked store ((OwnWrite.lastMembership membership).onBook b)
        { s with main := s.main.putKv lastMembershipKey (.blob (encoded membership)) })
      (Booked store b s) := by
  unfold StateMachine.setLastMembership
  rw [encode_eq, pure_bind]
  exact triple_setRow rfl (fun _ hlog => ⟨hlog.hard, hlog.snapshotIndex⟩) (fun w handle => by cases handle <;> rfl)
    fun w hlast _ => ⟨hlast, rfl⟩

/-! ### Clients -/

/-- Nothing of the bookkeeping is touched between two contents of the data handle: its own rows,
and in the shared database the rows of the log handle. -/
structure Untouched (store : RaftStore) (d d' : Database U) : Prop where
  kv : d'.kvStates.isSome = d.kvStates.isSome
  data : ∀ key ∈ [lastLogKey, lastMembershipKey, snapshotMetaKey], d'.kv key = d.kv key
  log : store.log = store.data → d'.raftLogs = d.raftLogs ∧
    ∀ key ∈ [voteKey, lastPurgedIdKey, snapshotIndexKey], d'.kv key = d.kv key

omit [Serde Vote] [Serde Entry] in
theorem Untouched.dataOf {d d' : Database U} (h : Untouched store d d') (hd : DataOf b d) : DataOf b d' :=
  ⟨h.kv ▸ hd.kv, (h.data _ (by simp)).trans hd.applied, (h.data _ (by simp)).trans hd.membership,
    (h.data _ (by simp)).trans hd.snapshotMeta⟩

omit [Serde EffectiveMembership] [Serde SnapshotMeta] in
theorem Untouched.logOf {d d' : Database U} (h : Untouched store d d') (hshared : store.log = store.data)
    (hd : LogOf b d) : LogOf b d' := by
  obtain ⟨hlogs, hrows⟩ := h.log hshared
  refine ⟨hd.hard.congr (h.kv ▸ hd.hard.kv) (hrows _ (by simp)) (hrows _ (by simp)) hlogs, ?_⟩
  exact (hrows _ (by simp)).trans hd.snapshotIndex

/-- A client's statement that leaves the bookkeeping untouched in the session it meets. -/
theorem triple_client {env : Env U} {req : Request}
    (h : Untouched store s.main (RaftStore.clientStatement env req s).1.main) :
    Triple (Booked store b s)
      (task storeWriteError (store.data.execute (RaftStore.clientStatement env req)) : StorageResult U Nat)
      (fun _ w => Booked store b (RaftStore.clientStatement env req s).1 w ∧
        Succeeds (RaftStore.clientStatement env req s).2)
      (Stands store b) := by
  refine Triple.run_mapErr fun w hw => ?_
  have hrun : Booked store b (RaftStore.clientStatement env req s).1
      (w.setSession store.data (RaftStore.clientStatement env req s).1) :=
    hw.setData (h.dataOf hw.data) (fun hshared => h.logOf hshared) (fun _ hlog => hlog) (fun _ => rfl)
      (by rw [World.lastAppliedLog_setSession, hw.lastAppliedLog])
      (by rw [World.lastMembership_setSession, hw.lastMembership])
  rcases exec_execute_session hw.session (RaftStore.clientStatement env req) with
    ⟨-, e, hexec⟩ | ⟨-, e | n, hexec, hok⟩
  · exact .inr ⟨e, _, hexec, s, hw.idle⟩
  · exact .inr ⟨e, _, hexec, _, hrun⟩
  · exact .inl ⟨n, _, hexec, hrun, hok.1 ⟨n, rfl⟩⟩

theorem triple_applyPayload {env : Env U} {e : Entry}
    (h : ∀ req, e.payload = .normal req → Untouched store s.main (paid env s e).main) :
    Triple (Booked store b s) (RaftStore.applyPayload env store e)
      (fun _ w => Booked store (b.after (e.membership?.toList.map .lastMembership)) (paid env s e) w ∧
        ∀ req, e.payload = .normal req → Succeeds (RaftStore.clientStatement env req s).2)
      (Stands store b) := by
  unfold RaftStore.applyPayload Entry.membership? paid at *
  cases hp : e.payload with
  | blank => exact triple_run_pure fun w hw => ⟨hw, nofun⟩
  | normal req =>
    rw [hp] at h
    refine (triple_client (h req rfl)).run_bind fun _ => triple_run_pure ?_
    rintro w ⟨hw, hok⟩
    exact ⟨hw, fun _ h => by cases h; exact hok⟩
  | membership mem =>
    have hset := triple_setLastMembership store b s ⟨some e.logId, mem⟩
    refine (hset.conseq (fun _ hw => hw) (fun _ _ hw => hw) fun w hw => ⟨s, hw⟩).run_bind fun _ => ?_
    exact triple_run_pure fun w hw => ⟨hw, nofun⟩

/-- **An apply does its own writes**, all of them if it returns `Ok`, and else the first few. -/
theorem triple_applyEntries {env : Env U} {es : List Entry} (res : List Response)
    (h : EntriesMet (Untouched store) env s es) :
    Triple (Booked store b s) (store.applyEntries env es res)
      (fun _ => Stands store (b.after (es.flatMap Entry.ownWrites)))
      (StandsWithin store b (es.flatMap Entry.ownWrites)) := by
  induction es generalizing b s res with
  | nil => exact triple_run_pure fun w hw => ⟨s, hw⟩
  | cons e es ih =>
    intro w hw
    have hwritable : s.main.Writable lastLogKey := hw.data.writable _
    obtain ⟨hfirst, hrest⟩ := h hwritable
    have hmarker := triple_setLastAppliedLog store b s e.logId
    have hpayload := triple_applyPayload (b := (OwnWrite.lastApplied e.logId).onBook b) hfirst
    unfold RaftStore.applyEntries
    refine (hmarker.conseq (fun _ hw => hw) (fun _ _ hw => hw) fun w hw => ?_).run_bind (fun _ w hw => ?_) w hw
    · exact .start ⟨s, hw⟩
    have hmarked : (marked s e).main.Writable lastMembershipKey := hw.data.writable _
    refine (hpayload.conseq (fun _ hw => hw) (fun _ _ hw => hw) fun w hw => ?_).run_bind (fun response => ?_) w hw
    · exact .append [_] (.start hw)
    rintro w ⟨hw, hok⟩
    have hturn := ih (b := b.after e.ownWrites) (res ++ [response]) (hrest ⟨hwritable, hok, fun _ _ => hmarked⟩)
    refine hturn.conseq (fun _ hw => hw) (fun _ _ hw => ?_) (fun _ hw => ?_) w hw
    · rw [List.flatMap_cons, Bookkeeping.after_append]
      exact hw
    · rw [List.flatMap_cons]
      exact hw.append _

/-! ### The log handle -/

theorem triple_logWrite (a : LogWrite) :
    Triple (Stands store b) (task a.failure (store.log.execute (.onMain a.stmt)) : StorageResult U Nat)
      (fun _ => Stands store ((OwnWrite.log a).onBook b)) (Stands store b) := by
  refine Triple.run_mapErr ?_
  rintro w ⟨s, hw⟩
  obtain ⟨sl, hsl, hlog, -⟩ := hw.log
  rcases exec_onMain_session hsl fun d out hstmt => (hlog.stmt hstmt).2 with
    ⟨e, hexec⟩ | ⟨n, d, out, hstmt, hexec⟩
  · exact .inr ⟨e, _, hexec, hw.setLog hsl hlog (fun _ h => h) (fun _ h => h) rfl rfl⟩
  · have hown : ∀ d : Database U, DataOf b d → DataOf ((OwnWrite.log a).onBook b) d :=
      fun d h => ⟨h.kv, h.applied, h.membership, h.snapshotMeta⟩
    exact .inl ⟨n, _, hexec, hw.setLog hsl (hlog.stmt hstmt).1 (fun _ h => hown _ (h.stmt hstmt)) hown rfl rfl⟩

theorem triple_commitAll (as : List LogWrite) :
    Triple (Stands store b) (commitAll store as : StorageResult U Unit)
      (fun _ => Stands store (b.after (as.map .log))) (StandsWithin store b (as.map .log)) := by
  induction as generalizing b with
  | nil => exact triple_run_pure fun w hw => hw
  | cons a as ih =>
    refine ((triple_logWrite a).conseq (fun _ hw => hw) (fun _ _ hw => hw) fun w hw => ?_).run_bind fun _ => ?_
    · exact .start hw
    · refine ih.conseq (fun _ hw => hw) (fun _ _ hw => hw) fun w hw => ?_
      exact hw.append [_]

/-! ### Building a snapshot -/

/-- The counter is written in the session of the log handle. -/
theorem Booked.setIndex (h : Booked store b s w) {sl : Session (Database U)}
    (hsl : (w.conn store.log).session = some sl) :
    Stands store (OwnWrite.snapshotIndex.onBook b) (w.setSession store.log
      { sl with main := sl.main.putKv snapshotIndexKey (nextIndexValue b.snapshotIndex) }) := by
  obtain ⟨sl', hsl', hlog, -⟩ := h.log
  obtain rfl : sl = sl' := Option.some.inj (hsl.symm.trans hsl')
  refine h.setLog hsl (hlog.put rfl) (fun _ hdata => hdata.put rfl) (fun d hdata => ?_) rfl rfl
  exact ⟨hdata.kv, hdata.applied, hdata.membership, hdata.snapshotMeta⟩

omit [Serde LogId] [Serde Vote] [Serde Entry] [Serde EffectiveMembership] [Serde SnapshotMeta] in
theorem firstRow_integer {v : Value} {row : Option Int}
    (h : Connection.firstRow fromRowInt [[v]] = .ok row) : ∃ n, row = some n ∧ v = .integer n := by
  cases v with
  | integer n =>
    cases h
    exact ⟨n, rfl, rfl⟩
  | null => cases h
  | real x => cases h
  | text x => cases h
  | blob x => cases h

theorem triple_incSnapshotIndex :
    Triple (Stands store b)
      (task storeReadError (store.log.fetchOne (.onMain incSnapshotIndex) fromRowInt) : StorageResult U (Option Int))
      (fun row w =>
        (row = none ∧ b.snapshotIndex = none ∧ Stands store b w) ∨
        ∃ n, row = some n ∧ nextIndexValue b.snapshotIndex = .integer n ∧
          Stands store (OwnWrite.snapshotIndex.onBook b) w)
      (StandsWithin store b [.snapshotIndex]) := by
  refine Triple.run_mapErr ?_
  rintro w ⟨s, hw⟩
  obtain ⟨sl, hsl, hlog, -⟩ := hw.log
  have hwritable : sl.main.Writable snapshotIndexKey := hlog.hard.writable _
  have hidle : Stands store b (w.setSession store.log sl) :=
    hw.setLog hsl hlog (fun _ h => h) (fun _ h => h) rfl rfl
  cases hindex : b.snapshotIndex with
  | none =>
    have hrow := hlog.snapshotIndex.trans hindex
    -- An update that finds no row leaves the rows.
    have hfound : Stands store b (w.setSession store.log { sl with main := sl.main.untouched }) :=
      hw.setLog hsl ⟨hlog.hard.congr hlog.hard.kv rfl rfl rfl, hlog.snapshotIndex⟩
        (fun _ h => ⟨h.kv, h.applied, h.membership, h.snapshotMeta⟩) (fun _ h => h) rfl rfl
    rcases exec_fetchOne_session hsl (incSnapshotIndex_absent hwritable hrow) fromRowInt with
      ⟨-, e, hexec⟩ | ⟨-, hexec⟩
    · exact .inr ⟨e, _, hexec, .start hidle⟩
    · exact .inl ⟨none, _, hexec, .inl ⟨rfl, rfl, hfound⟩⟩
  | some v =>
    have hrow := hlog.snapshotIndex.trans hindex
    have hwritten := hw.setIndex hsl
    rw [hindex] at hwritten
    rcases exec_fetchOne_session hsl (incSnapshotIndex_present hwritable hrow) fromRowInt with
      ⟨-, e, hexec⟩ | ⟨-, hexec⟩
    · exact .inr ⟨e, _, hexec, .start hidle⟩
    have hnext : nextIndexValue (some v) = v.plusOne := rfl
    rw [hnext] at hwritten
    -- The row is written also where its value cannot be read as an integer.
    cases hread : Connection.firstRow fromRowInt [[v.plusOne]] with
    | error e => exact .inr ⟨e, _, hexec.trans (Prod.ext hread rfl), .done hwritten⟩
    | ok row =>
      obtain ⟨n, hrow, hn⟩ := firstRow_integer hread
      exact .inl ⟨row, _, hexec.trans (Prod.ext hread rfl), .inr ⟨n, hrow, hn, hwritten⟩⟩

theorem triple_insertSnapshotIndex (store : RaftStore) (h : b.snapshotIndex = none) :
    Triple (Stands store b)
      (task storeReadError (store.log.execute (.onMain insertSnapshotIndex)) : StorageResult U Nat)
      (fun _ => Stands store (OwnWrite.snapshotIndex.onBook b)) (Stands store b) := by
  refine Triple.run_mapErr ?_
  rintro w ⟨s, hw⟩
  obtain ⟨sl, hsl, hlog, -⟩ := hw.log
  have hinsert := insertSnapshotIndex_absent (hlog.hard.writable _) (hlog.snapshotIndex.trans h)
  have hwritten := hw.setIndex hsl
  rw [h] at hwritten
  have hempty : ∀ d out, insertSnapshotIndex sl.main = .ok (d, out) → out.rows = [] := by
    intro d out hstmt
    rw [hinsert] at hstmt
    cases hstmt
    rfl
  rcases exec_onMain_session hsl hempty with ⟨e, hexec⟩ | ⟨n, d, out, hstmt, hexec⟩
  · exact .inr ⟨e, _, hexec, hw.setLog hsl hlog (fun _ h => h) (fun _ h => h) rfl rfl⟩
  · rw [hinsert] at hstmt
    cases hstmt
    exact .inl ⟨n, _, hexec, hwritten⟩

theorem triple_getAndIncSnapshotIndex :
    Triple (Stands store b) (store.getAndIncSnapshotIndex : StorageResult U UInt64)
      (fun index w => index = nextIndex b.snapshotIndex ∧
        Stands store (OwnWrite.snapshotIndex.onBook b) w)
      (StandsWithin store b [.snapshotIndex]) := by
  unfold RaftStore.getAndIncSnapshotIndex
  refine triple_incSnapshotIndex.run_bind fun row => ?_
  rintro w (⟨rfl, hnone, hw⟩ | ⟨n, rfl, hn, hw⟩)
  · have hinsert := triple_insertSnapshotIndex (U := U) store hnone
    refine (hinsert.conseq (fun _ hw => hw) (fun _ _ hw => hw) fun _ hw => ?_).run_bind (fun _ => ?_) w hw
    · exact .start hw
    · refine triple_run_pure fun w hw => ⟨?_, hw⟩
      rw [hnone]
      rfl
  · refine .inl ⟨_, w, rfl, ?_, hw⟩
    unfold nextIndex
    rw [hn]

theorem triple_writeSnapshotMeta (metadata : SnapshotMeta) :
    Triple (Stands store b) (writeSnapshotMeta store.data metadata : StoreM U AnyError Unit)
      (fun _ => Stands store ((OwnWrite.snapshotMeta metadata).onBook b)) (Stands store b) := by
  rintro w ⟨s, hw⟩
  unfold writeSnapshotMeta
  rw [encode_eq, pure_bind]
  rcases exec_upsert_session hw.session snapshotMetaKey (.blob (encoded metadata)) with ⟨e, hexec⟩ | ⟨n, hexec⟩
  · refine .inr ⟨.sql e, _, exec_run_bind_error ?_, s, hw.idle⟩
    unfold task
    rw [exec_run_mapErr, hexec]
    rfl
  · refine .inl ⟨(), _, exec_run_bind_ok (exec_task hexec),
      { s with main := s.main.putKv snapshotMetaKey (.blob (encoded metadata)) }, ?_⟩
    refine hw.setData (hw.data.put rfl) (fun _ hlog => hlog.put rfl) (fun d hlog => ?_) (fun _ => rfl) ?_ ?_
    · exact ⟨hlog.hard, hlog.snapshotIndex⟩
    · rw [World.lastAppliedLog_setSession, hw.lastAppliedLog]
      rfl
    · rw [World.lastMembership_setSession, hw.lastMembership]
      rfl

theorem stands_nextFault (w : World U) : Keeps (Stands store b) w w.nextFault.2 := by
  rintro ⟨s, hw⟩
  rw [World.nextFault_eq]
  exact ⟨s, hw.withFaults _⟩

theorem within_fileTask_stands {α : Type} (f : Option Bytes → Except IoError α × Option Bytes) :
    (fileTask f : StoreM U AnyError α).run.Within (Keeps (Stands store b)) := by
  refine within_atomic ?_
  rintro w ⟨s, hw⟩
  rw [World.nextFault_eq]
  split
  · exact ⟨s, hw.withFaults _⟩
  · obtain ⟨hsession, hdata, hlog, hlast, hmembership⟩ := hw.withFaults w.faults.tail
    refine ⟨s, ?_, hdata, ?_, hlast, hmembership⟩
    · cases hd : store.data <;> rw [hd] at hsession <;> exact hsession
    · cases hl : store.log <;> rw [hl] at hlog <;> exact hlog

/-- After its row, a snapshot leaves the bookkeeping where it is. -/
theorem triple_createSnapshot (env : Env U) (store : RaftStore) (b : Bookkeeping) (metadata : SnapshotMeta) :
    Triple (Stands store b) (createSnapshot env store.data metadata)
      (fun _ => Stands store ((OwnWrite.snapshotMeta metadata).onBook b))
      (StandsWithin store b [.snapshotMeta metadata]) := by
  unfold createSnapshot
  refine ((triple_writeSnapshotMeta metadata).conseq (fun _ hw => hw) (fun _ _ hw => hw)
    fun _ hw => .start hw).run_bind fun _ => ?_
  refine Triple.conseq (Within.triple ?_) (fun _ hw => hw) (fun _ _ hw => hw) fun _ hw => .done hw
  refine Within.run_bind (within_serialize_of stands_nextFault env store.data).run_mapErr fun image => ?_
  cases image with
  | none => exact within_run_pure []
  | some data => exact within_writeImage (fun f => within_fileTask_stands f) data

theorem triple_buildSnapshot (env : Env U) :
    Triple (Stands store b) (store.buildSnapshot env)
      (fun _ => Stands store (b.after (StoreCall.buildSnapshot.ownWrites env b)))
      (StandsWithin store b (StoreCall.buildSnapshot.ownWrites env b)) := by
  unfold RaftStore.buildSnapshot StateMachine.lastAppliedLog StateMachine.lastMembership
  -- The cached fields are those of the bookkeeping.
  refine Triple.run_bind (triple_run_liftAct (Q := fun log w => log = b.applied ∧ Stands store b w) ?_) fun log => ?_
  · rintro w ⟨s, hw⟩
    exact ⟨hw.lastAppliedLog, s, hw⟩
  refine Triple.run_bind (triple_run_liftAct (Q := fun membership w => log = b.applied ∧
    membership = b.membership.getD default ∧ Stands store b w) ?_) fun membership => ?_
  · rintro w ⟨hlog, s, hw⟩
    exact ⟨hlog, hw.lastMembership, s, hw⟩
  rintro w ⟨rfl, rfl, hw⟩
  refine (triple_getAndIncSnapshotIndex.conseq (fun _ hw => hw) (fun _ _ hw => hw)
    fun _ hw => ?_).run_bind (fun index => ?_) w hw
  · exact hw.more [_]
  · rintro w ⟨rfl, hw⟩
    have hcreate := triple_createSnapshot env store (OwnWrite.snapshotIndex.onBook b) (b.nextMeta env)
    refine (hcreate.run_mapErr.conseq (fun _ hw => hw) (fun _ _ hw => hw) fun _ hw => ?_).run_bind
      (fun _ => ?_) w hw
    · exact hw.append [_]
    · exact triple_run_pure fun _ hw => hw

/-! ### Whole calls -/

/-- What a call runs for clients leaves the bookkeeping untouched. An install replaces it. -/
def CallUntouched (env : Env U) (store : RaftStore) (w : World U) : StoreCall → Prop
  | .applyToStateMachine entries =>
    ∀ s, (w.conn store.data).session = some s → EntriesMet (Untouched store) env s entries
  | .installSnapshot _ _ => False
  | _ => True

/-- **A call does its own writes to the bookkeeping**, all of them if it returns `Ok`, and else
the first few. -/
theorem run_stands {env : Env U} {call : StoreCall} (hw : Stands store b w)
    (h : CallUntouched env store w call) :
    ∃ n, Stands store (b.after ((call.ownWrites env b).take n)) ((call.run env store).run.exec w).2 ∧
      (((call.run env store).run.exec w).1 = .ok () → n = (call.ownWrites env b).length) := by
  obtain ⟨s, hs⟩ := hw
  have htriple : Triple (Booked store b s) (call.run env store)
      (fun _ => Stands store (b.after (call.ownWrites env b)))
      (StandsWithin store b (call.ownWrites env b)) := by
    have hlog : ∀ {call : StoreCall}, call.onLogHalf → call.ownWrites env b = call.writes.map .log →
        Triple (Booked store b s) (call.run env store)
          (fun _ => Stands store (b.after (call.ownWrites env b)))
          (StandsWithin store b (call.ownWrites env b)) := by
      intro call hcall hown
      rw [run_eq_commitAll hcall, hown]
      exact (triple_commitAll _).conseq (fun _ hw => ⟨s, hw⟩) (fun _ _ hw => hw) fun _ hw => hw
    cases call with
    | saveVote vote => exact hlog rfl rfl
    | appendToLog entries => exact hlog rfl rfl
    | deleteConflictLogsSince logId => exact hlog rfl rfl
    | purgeLogsUpto logId => exact hlog rfl rfl
    | applyToStateMachine entries =>
      exact (triple_applyEntries [] (h s hs.session)).run_bind fun _ => triple_run_pure fun _ hw => hw
    | buildSnapshot =>
      refine ((triple_buildSnapshot env).conseq (fun _ hw => ⟨s, hw⟩) (fun _ _ hw => hw)
        fun _ hw => hw).run_bind fun _ => triple_run_pure fun _ hw => hw
    | installSnapshot metadata snapshot => exact h.elim
  rcases htriple w hs with ⟨⟨⟩, t, hexec, ht⟩ | ⟨e, t, hexec, n, hn⟩
  · rw [hexec]
    refine ⟨(call.ownWrites env b).length, ?_, fun _ => rfl⟩
    rwa [List.take_length]
  · rw [hexec]
    exact ⟨n, hn, fun hok => nomatch hok⟩

end Stands

end Replicat
