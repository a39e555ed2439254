import Replicat.Storage.Handle

/-!
# The Raft store

`storage/raft.rs` function by function: the log half of `RaftStore` (vote, log rows, purge
marker), the state machine half (applying entries, building, installing and reading back
snapshots), and opening a store. Every database task, memory access behind a lock and file
operation is one atomic action.
-/

namespace Replicat

open Sqlite Atomics Atomics.Prog

variable {U : Type}

inductive ErrorSubject where
  | none
  | store
  | logs
  deriving DecidableEq, Repr

inductive ErrorVerb where
  | read
  | write
  deriving DecidableEq, Repr

/-- `StorageError::IO`, the only variant the crate builds. -/
structure StorageError where
  subject : ErrorSubject
  verb : ErrorVerb
  source : AnyError
  deriving DecidableEq, Repr

abbrev StorageResult (U α : Type) := StoreM U StorageError α

def logReadError (e : AnyError) : StorageError := ⟨.logs, .read, e⟩
def logWriteError (e : AnyError) : StorageError := ⟨.logs, .write, e⟩
def storeReadError (e : AnyError) : StorageError := ⟨.store, .read, e⟩
def storeWriteError (e : AnyError) : StorageError := ⟨.store, .write, e⟩
def createSnapshotErr (e : AnyError) : StorageError := ⟨.none, .write, e⟩

/-- A database task whose error is mapped by `f`. -/
def task {ε α : Type} (f : AnyError → ε) (x : StoreM U SqlError α) : StoreM U ε α :=
  mapErr (fun e => f (.sql e)) x

def encode {ε α : Type} [Serde α] (f : AnyError → ε) (v : α) : StoreM U ε Bytes :=
  liftResult ((toBytes v).mapError fun e => f (.encode e))

def decode {ε α : Type} [Serde α] (f : AnyError → ε) (data : Bytes) : StoreM U ε α :=
  liftResult ((fromBytes data).mapError fun e => f (.decode e))

/-- `.map(from_bytes).transpose()`. -/
def decodeOption {ε α : Type} [Serde α] (f : AnyError → ε) : Option Bytes → StoreM U ε (Option α)
  | none => pure none
  | some data => some <$> decode f data

/-- The handle to the log and the one to the data of the state machine. With no state store
both are the same. -/
structure RaftStore where
  log : StorageHandle
  data : StorageHandle
  deriving DecidableEq, Repr

structure Snapshot where
  metadata : SnapshotMeta
  snapshot : Bytes
  deriving DecidableEq, Repr

structure LogState where
  lastPurgedLogId : Option LogId
  lastLogId : Option LogId
  deriving DecidableEq, Repr

/-! ## The snapshot file -/

/-- One operation on the snapshot file. -/
def fileTask {α : Type} (f : Option Bytes → Except IoError α × Option Bytes) : StoreM U AnyError α :=
  ExceptT.mk <| atomic fun w =>
    if w.nextFault.1 then (.error (.io (.other "Input/output error")), w.nextFault.2)
    else ((f w.snapshotFile).1.mapError .io, { w.nextFault.2 with snapshotFile := (f w.snapshotFile).2 })

/-- `OpenOptions::new().write(true).create(true).open(..)`: nothing is truncated. -/
def openFile : StoreM U AnyError Unit := fileTask fun file => (.ok (), some (file.getD []))

/-- The bytes of a file after one byte is written at `pos`. -/
def writeByte (pos : Nat) (byte : UInt8) (file : Bytes) : Bytes :=
  file.take pos ++ byte :: file.drop (pos + 1)

/-- `write_all`, from `pos` on. A write may stop after any byte. -/
def writeAll : Nat → Bytes → StoreM U AnyError Unit
  | _, [] => pure ()
  | pos, byte :: data => do
    fileTask fun file => (.ok (), file.map (writeByte pos byte))
    writeAll (pos + 1) data

def syncData : StoreM U AnyError Unit := fileTask fun file => (.ok (), file)

def flush : StoreM U AnyError Unit := fileTask fun file => (.ok (), file)

/-- `tokio::fs::read`. -/
def readFile : StoreM U AnyError Bytes := fileTask fun file =>
  match file with
  | none => (.error .notFound, none)
  | some data => (.ok data, some data)

/-! ## Snapshot metadata -/

section
variable [Serde SnapshotMeta]

def writeSnapshotMeta (conn : StorageHandle) (metadata : SnapshotMeta) : StoreM U AnyError Unit := do
  let metadata ← encode id metadata
  let _ ← task id (conn.execute (.onMain (replicatKvUpsert snapshotMetaKey (.blob metadata))))
  pure ()

def getSnapshotMeta (conn : StorageHandle) : StoreM U AnyError (Option SnapshotMeta) := do
  let metadata ← task id (conn.fetchOne (.onMain (replicatKvSelectValue snapshotMetaKey)) fromRowBlob)
  decodeOption id metadata

/-- The row is committed first, then the image is taken and written over the file. -/
def createSnapshot (env : Env U) (source : StorageHandle) (metadata : SnapshotMeta) :
    StoreM U AnyError Bytes := do
  writeSnapshotMeta source metadata
  match ← task id (source.serialize env) with
  | some data =>
    openFile
    writeAll 0 data
    syncData
    flush
    pure data
  | none => pure []

end

/-! ## The state machine -/

namespace StateMachine

def lastAppliedLog : StorageResult U (Option LogId) := liftAct fun w => (w.lastAppliedLog, w)

def lastMembership : StorageResult U EffectiveMembership := liftAct fun w => (w.lastMembership, w)

/-- The row is committed, then the field is set. -/
def setLastAppliedLog [Serde LogId] (data : StorageHandle) (log : LogId) : StorageResult U Unit := do
  let raw ← encode storeWriteError log
  let _ ← task storeWriteError (data.execute (.onMain (replicatKvUpsert lastLogKey (.blob raw))))
  liftAct fun w => ((), { w with lastAppliedLog := some log })

def setLastMembership [Serde EffectiveMembership] (data : StorageHandle)
    (membership : EffectiveMembership) : StorageResult U Unit := do
  let raw ← encode storeWriteError membership
  let _ ← task storeWriteError
    (data.execute (.onMain (replicatKvUpsert lastMembershipKey (.blob raw))))
  liftAct fun w => ((), { w with lastMembership := membership })

end StateMachine

open StateMachine

namespace RaftStore

/-! ## The log half -/

section
variable [Serde LogId]

def getLastPurgedLogId (store : RaftStore) : StorageResult U (Option LogId) := do
  let data ← task storeReadError
    (store.log.fetchOne (.onMain (replicatKvSelectValue lastPurgedIdKey)) fromRowBlob)
  decodeOption storeReadError data

def setLastPurgedLogId (store : RaftStore) (logId : LogId) : StorageResult U Unit := do
  let data ← encode storeWriteError logId
  let _ ← task storeWriteError
    (store.log.execute (.onMain (replicatKvUpsert lastPurgedIdKey (.blob data))))
  pure ()

end

/-- The row is created at 0 by a second task when there is none. -/
def getAndIncSnapshotIndex (store : RaftStore) : StorageResult U UInt64 := do
  let snapshotIndex ← task storeReadError (store.log.fetchOne (.onMain incSnapshotIndex) fromRowInt)
  match snapshotIndex with
  | none =>
    let _ ← task storeReadError (store.log.execute (.onMain insertSnapshotIndex))
    pure 0
  | some v => pure (UInt64.ofInt v)

section
variable [Serde Vote]

def setVote (store : RaftStore) (vote : Vote) : StorageResult U Unit := do
  let data ← encode storeWriteError vote
  let _ ← task storeWriteError (store.log.execute (.onMain (replicatKvUpsert voteKey (.blob data))))
  pure ()

def getVote (store : RaftStore) : StorageResult U (Option Vote) := do
  let data ← task storeReadError
    (store.log.fetchOne (.onMain (replicatKvSelectValue voteKey)) fromRowBlob)
  decodeOption storeReadError data

def saveVote (store : RaftStore) (vote : Vote) : StorageResult U Unit := store.setVote vote

def readVote (store : RaftStore) : StorageResult U (Option Vote) := store.getVote

end

def getLastLogEntry (store : RaftStore) : StorageResult U (Option LogId) := do
  let row ← task logReadError (store.log.fetchOne (.onMain selectLastLog) fromRowInts)
  pure (row.map fun (nodeId, index, term) =>
    ⟨⟨UInt64.ofInt term, UInt64.ofInt nodeId⟩, UInt64.ofInt index⟩)

def getLogState [Serde LogId] (store : RaftStore) : StorageResult U LogState := do
  let lastLogId ← store.getLastLogEntry
  let lastPurgedLogId ← store.getLastPurgedLogId
  pure ⟨lastPurgedLogId, lastLogId.or lastPurgedLogId⟩

end RaftStore

/-- `std::ops::Bound<u64>`. -/
inductive Bound where
  | included (x : UInt64)
  | excluded (x : UInt64)
  | unbounded
  deriving DecidableEq, Repr

/-- The first index of the query. `none` is a panic: `checks` says whether the build checks
arithmetic for overflow, without the check it wraps around. -/
def queryStart (checks : Bool) : Bound → Option UInt64
  | .included x => some x
  | .excluded x => if checks && x == UInt64.ofNat (2 ^ 64 - 1) then none else some (x + 1)
  | .unbounded => some 0

/-- The last index of the query. -/
def queryEnd (checks : Bool) : Bound → Option UInt64
  | .included x => some x
  | .excluded x => if checks && x == 0 then none else some (x - 1)
  | .unbounded => some (UInt64.ofNat (2 ^ 63 - 1))

/-- The inclusive bounds of the query. -/
def logsQuery (checks : Bool) (startBound endBound : Bound) : Option (Nat × Nat) := do
  let first ← queryStart checks startBound
  let last ← queryEnd checks endBound
  pure (first.toNat, last.toNat)

namespace RaftStore

/-- Decoding the entries stops at the first that fails. -/
def decodeEntries [Serde Entry] : List Bytes → StorageResult U (List Entry)
  | [] => pure []
  | data :: rest => do
    let entry ← decode logReadError data
    let entries ← decodeEntries rest
    pure (entry :: entries)

/-- `none` when computing the query panics. -/
def tryGetLogEntries [Serde Entry] (env : Env U) (checks : Bool) (store : RaftStore)
    (startBound endBound : Bound) : Option (StorageResult U (List Entry)) :=
  (logsQuery checks startBound endBound).map fun query => do
    let entries ← task logReadError (store.log.fetchAll (.onMain (selectLogs env query)) fromRowBlob)
    decodeEntries entries

/-- One task an entry. -/
def appendToLog [Serde Entry] (store : RaftStore) : List Entry → StorageResult U Unit
  | [] => pure ()
  | entry :: entries => do
    let entryData ← encode logWriteError entry
    let _ ← task logWriteError (store.log.execute (.onMain
      (insertLog entry.logId.leaderId.nodeId entry.logId.index entry.logId.leaderId.term entryData)))
    store.appendToLog entries

def deleteConflictLogsSince (store : RaftStore) (logId : LogId) : StorageResult U Unit := do
  let _ ← task logWriteError (store.log.execute (.onMain (deleteLogsSince logId.index)))
  pure ()

/-- The marker is committed before the rows are deleted. -/
def purgeLogsUpto [Serde LogId] (store : RaftStore) (logId : LogId) : StorageResult U Unit := do
  store.setLastPurgedLogId logId
  let _ ← task logWriteError (store.log.execute (.onMain (deleteLogsUpto logId.index)))
  pure ()

/-! ## The state machine half -/

section
variable [Serde LogId] [Serde EffectiveMembership] [Serde SnapshotMeta]

def lastAppliedState : StorageResult U (Option LogId × EffectiveMembership) := do
  let log ← lastAppliedLog
  let membership ← lastMembership
  pure (log, membership)

/-- The statement of a client request, its parameters bound in order. -/
def clientStatement (env : Env U) : Request → Prepared (Database U)
  | .execute sql params => env.client sql (params.map (·.toSql))

/-- What one turn of the loop does after the marker is written. -/
def applyPayload (env : Env U) (store : RaftStore) (entry : Entry) : StorageResult U Response :=
  match entry.payload with
  | .blank => pure ⟨⟩
  | .normal req => do
    let _ ← task storeWriteError (store.data.execute (clientStatement env req))
    pure ⟨⟩
  | .membership mem => do
    setLastMembership store.data ⟨some entry.logId, mem⟩
    pure ⟨⟩

/-- The loop: the marker of an entry is committed before the entry takes effect. -/
def applyEntries (env : Env U) (store : RaftStore) :
    List Entry → List Response → StorageResult U (List Response)
  | [], res => pure res
  | entry :: entries, res => do
    setLastAppliedLog store.data entry.logId
    let response ← applyPayload env store entry
    store.applyEntries env entries (res ++ [response])

def applyToStateMachine (env : Env U) (store : RaftStore) (entries : List Entry) :
    StorageResult U (List Response) :=
  store.applyEntries env entries []

def snapshotId (env : Env U) (last : Option LogId) (index : UInt64) : String :=
  match last with
  | some last => env.displayLeaderId last.leaderId ++ "-" ++ toString last.index ++ "-" ++ toString index
  | none => "--" ++ toString index

def buildSnapshot (env : Env U) (store : RaftStore) : StorageResult U Snapshot := do
  let lastAppliedLog ← lastAppliedLog
  let lastMembership ← lastMembership
  let snapshotIdx ← store.getAndIncSnapshotIndex
  let metadata : SnapshotMeta := ⟨lastAppliedLog, lastMembership, snapshotId env lastAppliedLog snapshotIdx⟩
  let snapshot ← mapErr createSnapshotErr (createSnapshot env store.data metadata)
  pure ⟨metadata, snapshot⟩

/-- The live database is replaced, then the metadata row is written into the new one. -/
def installSnapshot (env : Env U) (store : RaftStore) (metadata : SnapshotMeta) (snapshot : Bytes) :
    StorageResult U Unit := do
  let mem ← liftResult ((StorageHandle.fromSlice snapshot).mapError fun e => createSnapshotErr (.sql e))
  task createSnapshotErr (store.data.loadFromSerialized env mem)
  mapErr createSnapshotErr (writeSnapshotMeta store.data metadata)

/-- `Err(e) if e.kind() == ErrorKind::NotFound => None`. -/
def snapshotOfRead (metadata : SnapshotMeta) : Except AnyError Bytes →
    Except StorageError (Option Snapshot)
  | .ok data => .ok (some ⟨metadata, data⟩)
  | .error (.io .notFound) => .ok none
  | .error e => .error (createSnapshotErr e)

def getCurrentSnapshot (store : RaftStore) : StorageResult U (Option Snapshot) := do
  let metadata ← mapErr createSnapshotErr (getSnapshotMeta store.data)
  match metadata with
  | none => pure none
  | some metadata => ExceptT.mk (readFile.run >>= fun r => .ret (snapshotOfRead metadata r))

end

end RaftStore

/-! ## Opening -/

/-- The `state_store` argument: `:memory:` or a file. -/
inductive StateStore where
  | memory
  | file
  deriving DecidableEq, Repr

/-- `StorageHandle::open`: the connection finds what is at the path. -/
def openHandle (env : Env U) (h : StorageHandle) (path : StateStore) : StoreM U SqlError StorageHandle :=
  ExceptT.mk <| atomic fun w =>
    if w.nextFault.1 then (.error ioFailure, w.nextFault.2)
    else
      let conn := match path with
        | .file => .openDisk (Database.empty env) (w.conn h).durable
        | .memory => .openMemory (Database.empty env)
      (.ok h, w.nextFault.2.setConn h conn)

def pragmaJournalModeWal (conn : Connection (Database U)) :
    Connection (Database U) × Except SqlError (Option String) :=
  match conn.backing with
  | .disk => ({ conn with journalMode := .wal }, .ok (some "wal"))
  | .memory _ => (conn, .ok (some "memory"))

def pragmaSynchronousNormal (conn : Connection (Database U)) :
    Connection (Database U) × Except SqlError Nat :=
  ({ conn with synchronous := .normal }, .ok 0)

/-- `pragma temp_store = memory`: temporary tables are not part of the main database. -/
def pragmaTempStoreMemory (conn : Connection (Database U)) :
    Connection (Database U) × Except SqlError Nat :=
  (conn, .ok 0)

def setupLogStore (conn : StorageHandle) : StoreM U SqlError Unit := do
  let _ ← conn.submitTask pragmaJournalModeWal
  let _ ← conn.submitTask pragmaSynchronousNormal
  let _ ← conn.submitTask pragmaTempStoreMemory
  let _ ← conn.execute (.onMain replicatRaftLogsTable)
  let _ ← conn.execute (.onMain replicatKvTable)
  pure ()

/-- The rows are read back into the fields. -/
def createStateMachine [Serde LogId] [Serde EffectiveMembership] (data : StorageHandle) :
    StoreM U AnyError Unit := do
  let _ ← task id (data.execute (.onMain replicatKvTable))
  let log ← task id (data.fetchOne (.onMain (replicatKvSelectValue lastLogKey)) fromRowBlob)
  let log ← decodeOption id log
  let membership ← task id (data.fetchOne (.onMain (replicatKvSelectValue lastMembershipKey)) fromRowBlob)
  let membership : Option EffectiveMembership ← decodeOption id membership
  liftAct fun w => ((), { w with lastAppliedLog := log, lastMembership := membership.getD default })

namespace RaftStore

/-- `RaftStore::open`. -/
def openStore [Serde LogId] [Serde EffectiveMembership] (env : Env U) (stateStore : Option StateStore) :
    StoreM U AnyError RaftStore := do
  let log ← task id (openHandle env .logDb .file)
  let data ← match stateStore with
    | some path => task id (openHandle env .stateDb path)
    | none => pure log
  task id (setupLogStore log)
  createStateMachine data
  pure ⟨log, data⟩

def openWithMemState [Serde LogId] [Serde EffectiveMembership] (env : Env U) :
    StoreM U AnyError RaftStore :=
  openStore env (some .memory)

end RaftStore

end Replicat
