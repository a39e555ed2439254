import Replicat.Storage.ClientErrors
import Replicat.Storage.Snapshots

/-!
# The hard state and the state machine

The vote, the log rows and the purge marker of a store are its hard state. `hardRows` is where
they lie; `CallOk` is when a call of the state machine half leaves them alone: always with a
state store of its own, and in the shared database when no statement it meets and no image it loads
changes them. `hard_state_independent` is about every sequence of calls, each with its
own storage faults.
-/

namespace Replicat

open Sqlite Atomics Atomics.Prog

variable {U α β : Type}

/-- The log rows and the purge marker. -/
structure LogRows where
  hasKv : Bool
  lastPurged : Option Value
  logs : Option LogTable
  /-- What is in the way of the writes of the hard state. -/
  hindrances : List Hindrance
  deriving DecidableEq

def hardKeys : List String := [voteKey, lastPurgedIdKey, raftLogsTableName]

def Database.logRows (d : Database U) : LogRows :=
  ⟨d.kvTable.isSome, d.kv lastPurgedIdKey, d.logTable, d.hindrances.filter (·.key ∈ hardKeys)⟩

/-- The vote, and whether there is a table for it. -/
def Database.voteRows (d : Database U) : Bool × Option Value := (d.kvTable.isSome, d.kv voteKey)

def Database.hardRows (d : Database U) : LogRows × (Bool × Option Value) := (d.logRows, d.voteRows)

/-- Some rows of the database behind a handle. -/
def World.rows (w : World U) (h : StorageHandle) (f : Database U → β) : Option β :=
  (w.conn h).session.map fun s => f s.main

/-! ## Actions that keep rows -/

/-- The rows `f` of the database behind `h` stay. -/
def KeepsRows (h : StorageHandle) (f : Database U → β) (w w' : World U) : Prop :=
  w'.rows h f = w.rows h f

instance (h : StorageHandle) (f : Database U → β) : Std.Refl (KeepsRows h f) := ⟨fun _ => rfl⟩

instance (h : StorageHandle) (f : Database U → β) : IsTrans (World U) (KeepsRows h f) :=
  ⟨fun _ _ _ h₁ h₂ => Eq.trans h₂ h₁⟩

section Keeps

variable {log h : StorageHandle} {f : Database U → β}

theorem KeepsRows.comp {γ : Type} (g : β → γ) {w w' : World U} (hw : KeepsRows log f w w') :
    KeepsRows log (fun d => g (f d)) w w' := by
  have hmap := congrArg (Option.map g) hw
  simpa [World.rows, Option.map_map, Function.comp_def, KeepsRows] using hmap

theorem rows_nextFault (w : World U) : w.nextFault.2.rows log f = w.rows log f := by
  unfold World.rows
  rw [World.conn_nextFault]

theorem rows_faults (w : World U) (faults : List Bool) (h : StorageHandle) (f : Database U → β) :
    ({ w with faults } : World U).rows h f = w.rows h f := by
  unfold World.rows
  rw [World.conn_faults]

theorem within_task_keeps {task : Connection (Database U) → Connection (Database U) × Except SqlError α}
    (ht : h = log → ∀ c, (task c).1.session.map (fun s => f s.main) = c.session.map fun s => f s.main) :
    (h.submitTask task).run.Within (KeepsRows log f) := by
  refine StorageHandle.within_submitTask rows_nextFault fun w => ?_
  show World.rows _ log f = World.rows w log f
  by_cases hh : h = log
  · subst hh
    unfold World.rows
    rw [World.conn_setConn_self]
    exact ht rfl _
  · unfold World.rows
    rw [World.conn_setConn_ne _ hh, World.conn_nextFault]

/-- Another handle's tasks keep every row. -/
theorem within_other_keeps (hne : h ≠ log)
    (task : Connection (Database U) → Connection (Database U) × Except SqlError α) :
    (h.submitTask task).run.Within (KeepsRows log f) :=
  within_task_keeps fun hh => absurd hh hne

theorem step_keeps {stmt : Prepared (Database U)} (hs : ∀ s, f (stmt s).1.main = f s.main)
    (c : Connection (Database U)) :
    (c.step stmt).1.session.map (fun s => f s.main) = c.session.map fun s => f s.main := by
  cases hc : c.session with
  | none => simp [Connection.step, hc]
  | some s =>
    rw [Connection.step_some hc]
    exact congrArg some (hs s)

theorem onMain_keeps {stmt : Stmt U} (hs : ∀ d d' out, stmt d = .ok (d', out) → f d' = f d)
    (s : Session (Database U)) : f (Prepared.onMain stmt s).1.main = f s.main := by
  unfold Prepared.onMain
  cases hd : stmt s.main with
  | ok r => exact hs _ _ _ hd
  | error e => rfl

theorem within_execute_keeps {stmt : Stmt U} (hs : ∀ d d' out, stmt d = .ok (d', out) → f d' = f d) :
    (h.execute (.onMain stmt)).run.Within (KeepsRows log f) :=
  within_task_keeps fun _ => step_keeps (onMain_keeps hs)

theorem within_upsert_keeps {key : String} {v : Value} (hf : ∀ d : Database U, f (d.putKv key v) = f d) :
    (h.execute (.onMain (replicatKvUpsert key v))).run.Within (KeepsRows log f) :=
  within_execute_keeps fun d d' out hd => by
    rw [(replicatKvUpsert_eq_ok hd).1]
    exact hf d

end Keeps

theorem logRows_putKv (d : Database U) {key : String} (hkey : lastPurgedIdKey ≠ key) (v : Value) :
    (d.putKv key v).logRows = d.logRows := by
  unfold Database.logRows
  rw [Database.kv_putKv_ne d hkey, Database.logTable_putKv, Database.hindrances_putKv,
    Database.isSome_kvTable_putKv]

theorem voteRows_putKv (d : Database U) {key : String} (hkey : voteKey ≠ key) (v : Value) :
    (d.putKv key v).voteRows = d.voteRows := by
  unfold Database.voteRows
  rw [Database.kv_putKv_ne d hkey, Database.isSome_kvTable_putKv]

theorem hardRows_putKv (d : Database U) {key : String} (hpurged : lastPurgedIdKey ≠ key)
    (hvote : voteKey ≠ key) (v : Value) : (d.putKv key v).hardRows = d.hardRows := by
  unfold Database.hardRows
  rw [logRows_putKv d hpurged, voteRows_putKv d hvote]

theorem SameContents.hardRows {d d' : Database U} (h : SameContents d d') : d'.hardRows = d.hardRows := by
  have hvote := h.kv voteKey (by decide) (by decide)
  have hpurged := h.kv lastPurgedIdKey (by decide) (by decide)
  simp only [Database.hardRows, Database.logRows, Database.voteRows, hvote, hpurged, h.kvTable, h.logTable,
    h.hindrances]

theorem Quiet.keepsHard {w w' : World U} (hw : Quiet w w') (log : StorageHandle) :
    KeepsRows log Database.hardRows w w' := by
  have hconn := hw.conn log
  unfold KeepsRows World.rows
  cases hs : (w.conn log).session with
  | none => rw [hconn.closed hs]
  | some s =>
    obtain ⟨s', hs', hsame, -⟩ := hconn.session s hs
    rw [hs']
    exact congrArg some hsame.hardRows

/-! ## Calls -/

/-- The calls openraft makes on a store. -/
inductive StoreCall where
  | saveVote (vote : Vote)
  | appendToLog (entries : List Entry)
  | deleteConflictLogsSince (logId : LogId)
  | purgeLogsUpto (logId : LogId)
  | applyToStateMachine (entries : List Entry)
  | buildSnapshot
  | installSnapshot (metadata : SnapshotMeta) (snapshot : Bytes)
  deriving DecidableEq, Repr

def StoreCall.isLogCall : StoreCall → Bool
  | appendToLog _ | deleteConflictLogsSince _ | purgeLogsUpto _ => true
  | _ => false

def StoreCall.isInstall : StoreCall → Bool
  | installSnapshot _ _ => true
  | _ => false

section Calls

variable [Serde LogId] [Serde Vote] [Serde Entry] [Serde EffectiveMembership] [Serde SnapshotMeta]

def StoreCall.run (env : Env U) (store : RaftStore) : StoreCall → StorageResult U Unit
  | saveVote vote => store.saveVote vote
  | appendToLog entries => store.appendToLog entries
  | deleteConflictLogsSince logId => store.deleteConflictLogsSince logId
  | purgeLogsUpto logId => store.purgeLogsUpto logId
  | applyToStateMachine entries => do
    let _ ← store.applyToStateMachine env entries
    pure ()
  | .buildSnapshot => do
    let _ ← store.buildSnapshot env
    pure ()
  | installSnapshot metadata snapshot => store.installSnapshot env metadata snapshot

/-- A call, with what the storage underneath does to its tasks. -/
def runCall (env : Env U) (store : RaftStore) (w : World U) (c : StoreCall × List Bool) :
    Except StorageError Unit × World U :=
  (c.1.run env store).run.exec { w with faults := c.2 }

theorem runCall_sound (env : Env U) (store : RaftStore) {w : World U} (hf : w.faults = [])
    (call : StoreCall) : runCall env store w (call, []) = (call.run env store).run.exec w := by
  unfold runCall
  rw [World.with_faults_nil hf]

def runCalls (env : Env U) (store : RaftStore) (w : World U) (cs : List (StoreCall × List Bool)) :
    World U :=
  cs.foldl (fun w c => (runCall env store w c).2) w

/-- The vote saved last, after one more call. -/
def nextVote (v : Option Vote) : StoreCall → Except StorageError Unit → Option Vote
  | .saveVote vote, .ok () => some vote
  | _, _ => v

/-- The argument of the last `save_vote` that returned `Ok`, or else `v`. -/
def savedVote (env : Env U) (store : RaftStore) :
    World U → List (StoreCall × List Bool) → Option Vote → Option Vote
  | _, [], v => v
  | w, c :: cs, v =>
    savedVote env store (runCall env store w c).2 cs (nextVote v c.1 (runCall env store w c).1)

/-- The hard rows are the same. -/
def SameHard (d d' : Database U) : Prop := d'.hardRows = d.hardRows

/-- The call leaves the hard state alone: the state machine has a database of its own, or every
statement keeps the hard rows that it meets in its turn, and the image shows, once loaded, those
that were there. -/
def CallOk (env : Env U) (store : RaftStore) (w : World U) (call : StoreCall) : Prop :=
  store.log ≠ store.data ∨
  match call with
  | .applyToStateMachine entries =>
      ∀ s, (w.conn store.data).session = some s → EntriesMet SameHard env s entries
  | .installSnapshot _ snapshot => snapshot = [] ∨
      ((w.conn store.log).replaced (env.deserialize snapshot)).session.map (·.main.hardRows) =
        w.rows store.log Database.hardRows
  | _ => True

/-- Every call of the run meets `CallOk` in the state it is made in. -/
def CallsOk (env : Env U) (store : RaftStore) : World U → List (StoreCall × List Bool) → Prop
  | _, [] => True
  | w, c :: cs => CallOk env store w c.1 ∧ CallsOk env store (runCall env store w c).2 cs

end Calls

/-! ### The state machine half -/

section StateMachine

variable {env : Env U} {store : RaftStore} [Serde LogId] [Serde EffectiveMembership]

instance : Std.Refl (SameHard (U := U)) := ⟨fun _ => rfl⟩

instance : IsTrans (Database U) SameHard := ⟨fun _ _ _ h₁ h₂ => Eq.trans h₂ h₁⟩

/-- An apply keeps the hard rows when the statements it meets do. -/
theorem applyEntries_keepsHard {w : World U} (entries : List Entry) (res : List Response)
    (h : store.log ≠ store.data ∨
      ∀ s, (w.conn store.data).session = some s → EntriesMet SameHard env s entries) :
    KeepsRows store.log Database.hardRows w ((store.applyEntries env entries res).run.exec w).2 := by
  by_cases hh : store.data = store.log
  · cases hs : (w.conn store.data).session with
    | none =>
      -- Nothing is loaded, and nothing will be.
      have hclosed : ∀ {stmt : Prepared (Database U)},
          (store.data.execute stmt).run.Within (KeepsRows store.log fun _ => ()) := by
        intro stmt
        refine within_task_keeps fun _ c => ?_
        exact step_keeps (f := fun _ : Database U => ()) (fun _ => rfl) c
      have hstays : (store.applyEntries env entries res).run.Within (KeepsRows store.log fun _ => ()) :=
        applyEntries_within entries res (fun _ _ _ => hclosed) (fun log w => by cases hl : store.log <;> rfl)
          (fun mem w => by cases hl : store.log <;> rfl) fun _ _ _ _ => hclosed
      have hkeeps := hstays.exec w
      unfold KeepsRows World.rows at hkeeps ⊢
      rw [← hh, hs] at hkeeps ⊢
      simpa using hkeeps
    | some s =>
      have hmet := (h.resolve_left fun hne => hne hh.symm) s hs
      have hrun : Triple (fun w => (w.conn store.data).session = some s) (store.applyEntries env entries res)
          (fun _ => RelatedSession SameHard store.data s) (RelatedSession SameHard store.data s) :=
        triple_applyEntries_session (fun d v => hardRows_putKv d (by decide) (by decide) v)
          (fun d v => hardRows_putKv d (by decide) (by decide) v) res hmet
      obtain ⟨s', hs', hsame⟩ : RelatedSession SameHard store.data s
          ((store.applyEntries env entries res).run.exec w).2 := by
        rcases hrun w hs with ⟨_, w', hexec, hrel⟩ | ⟨_, w', hexec, hrel⟩ <;> rwa [hexec]
      unfold KeepsRows World.rows
      rw [← hh, hs, hs']
      exact congrArg some hsame
  · have hother : ∀ {stmt : Prepared (Database U)},
        (store.data.execute stmt).run.Within (KeepsRows store.log Database.hardRows) :=
      within_other_keeps hh _
    exact (applyEntries_within entries res (fun _ _ _ => hother) (fun log w => by cases hl : store.log <;> rfl)
      (fun mem w => by cases hl : store.log <;> rfl) fun _ _ _ _ => hother).exec w

omit [Serde LogId] [Serde EffectiveMembership] in
/-- An install keeps the hard rows when its image shows them. -/
theorem installSnapshot_keeps [Serde SnapshotMeta] {w : World U} {metadata : SnapshotMeta}
    {snapshot : Bytes} (h : store.log ≠ store.data ∨ snapshot = [] ∨
      ((w.conn store.log).replaced (env.deserialize snapshot)).session.map (·.main.hardRows) =
        w.rows store.log Database.hardRows) :
    KeepsRows store.log Database.hardRows w
      ((store.installSnapshot env metadata snapshot).run.exec w).2 := by
  have hmeta : (mapErr createSnapshotErr (writeSnapshotMeta store.data metadata) :
      StorageResult U Unit).run.Within (KeepsRows store.log Database.hardRows) :=
    ((within_writeSnapshotMeta store.data metadata).mono fun _ _ hw => hw.keepsHard store.log).run_mapErr
  unfold RaftStore.installSnapshot
  rcases snapshot with _ | ⟨byte, rest⟩
  · rfl
  have hslice : (liftResult ((StorageHandle.fromSlice (byte :: rest)).mapError fun e =>
      createSnapshotErr (.sql e)) : StorageResult U Bytes).run.exec w = (.ok (byte :: rest), w) := rfl
  rw [exec_run_bind_ok hslice]
  refine Within.exec_run_bind ?_ fun _ => hmeta
  unfold task
  rw [exec_run_mapErr, StorageHandle.loadFromSerialized, StorageHandle.exec_submitTask_eq]
  split
  · exact rows_nextFault w
  · show World.rows (World.setConn _ _ _) _ _ = _
    by_cases hh : store.data = store.log
    · have himage := (h.resolve_left fun hne => hne hh.symm).resolve_left (by simp)
      unfold World.rows at himage ⊢
      rw [hh, World.conn_setConn_self]
      exact himage
    · unfold World.rows
      rw [World.conn_setConn_ne _ hh, World.conn_nextFault]

end StateMachine

/-! ### The log half -/

/-- The same coming faults, and the same rows `f` behind `h`. -/
def SameRows (h : StorageHandle) (f : Database U → β) (w w' : World U) : Prop :=
  w.faults = w'.faults ∧ w.rows h f = w'.rows h f

/-- What the statement returns, and what it does to the rows `f`, depends on these rows only. -/
def ReadsOnly (f : Database U → β) (stmt : Stmt U) : Prop :=
  ∀ d d', f d = f d' →
    (stmt d).map (fun r => (f r.1, r.2)) = (stmt d').map fun r => (f r.1, r.2)

section Respects

variable {h : StorageHandle} {f : Database U → β} {stmt : Stmt U}

theorem step_reads (hs : ReadsOnly f stmt) {c c' : Connection (Database U)}
    (hc : (c.session.map fun s => f s.main) = c'.session.map fun s => f s.main) :
    (c.step (.onMain stmt)).2 = (c'.step (.onMain stmt)).2 ∧
      ((c.step (.onMain stmt)).1.session.map fun s => f s.main) =
        (c'.step (.onMain stmt)).1.session.map fun s => f s.main := by
  rcases hcs : c.session with _ | s <;> rcases hcs' : c'.session with _ | s' <;> rw [hcs, hcs'] at hc
  · simp [Connection.step, hcs, hcs']
  · cases hc
  · cases hc
  · have hd := hs s.main s'.main (by simpa using hc)
    rw [Connection.step_some hcs, Connection.step_some hcs']
    unfold Prepared.onMain
    rcases hr : stmt s.main with e | r <;> rcases hr' : stmt s'.main with e' | r' <;> rw [hr, hr'] at hd
    · cases hd
      exact ⟨rfl, hc⟩
    · cases hd
    · cases hd
    · simp only [Except.map, Except.ok.injEq, Prod.mk.injEq] at hd
      exact ⟨congrArg Except.ok hd.2, congrArg some hd.1⟩

theorem respects_submitTask
    {task : Connection (Database U) → Connection (Database U) × Except SqlError α}
    (ht : ∀ c c', ((c.session.map fun s => f s.main) = c'.session.map fun s => f s.main) →
      (task c).2 = (task c').2 ∧ ((task c).1.session.map fun s => f s.main) =
        (task c').1.session.map fun s => f s.main) :
    (h.submitTask task).run.Respects (SameRows h f) := by
  refine respects_atomic fun w w' hw => ?_
  obtain ⟨hfaults, hrows⟩ := hw
  obtain ⟨hresult, hsame⟩ := ht _ _ hrows
  have hnext : w.nextFault.1 = w'.nextFault.1 ∧ w.nextFault.2.faults = w'.nextFault.2.faults := by
    unfold World.nextFault
    rw [hfaults]
    cases hf : w'.faults with
    | nil => exact ⟨rfl, hfaults.trans hf |>.trans hf.symm⟩
    | cons b rest => exact ⟨rfl, rfl⟩
  rw [hnext.1]
  split
  · exact ⟨rfl, hnext.2, by rw [rows_nextFault, rows_nextFault]; exact hrows⟩
  · refine ⟨hresult, ?_, ?_⟩
    · rw [World.faults_setConn, World.faults_setConn]
      exact hnext.2
    · unfold World.rows
      rw [World.conn_setConn_self, World.conn_setConn_self]
      exact hsame

theorem respects_execute (hs : ReadsOnly f stmt) :
    (h.execute (.onMain stmt)).run.Respects (SameRows h f) := by
  refine respects_submitTask fun c c' hc => ?_
  obtain ⟨hr, hrows⟩ := step_reads hs hc
  exact ⟨by simp only [Connection.execute, hr], hrows⟩

theorem respects_fetchOne (hs : ReadsOnly f stmt) (fromRow : Row → Except SqlError α) :
    (h.fetchOne (.onMain stmt) fromRow).run.Respects (SameRows h f) := by
  refine respects_submitTask fun c c' hc => ?_
  obtain ⟨hr, hrows⟩ := step_reads hs hc
  exact ⟨by simp only [Connection.queryRow, hr], hrows⟩

theorem respects_fetchAll (hs : ReadsOnly f stmt) (fromRow : Row → Except SqlError α) :
    (h.fetchAll (.onMain stmt) fromRow).run.Respects (SameRows h f) := by
  refine respects_submitTask fun c c' hc => ?_
  obtain ⟨hr, hrows⟩ := step_reads hs hc
  exact ⟨by simp only [Connection.query, hr], hrows⟩

end Respects

theorem fromLogs_reads (g : LogTable → List Row) : ReadsOnly (Database.logRows (U := U)) (fromLogs g) := by
  intro d d' hd
  have hlogs : d.logTable = d'.logTable := congrArg LogRows.logs hd
  unfold fromLogs
  rw [hlogs]
  cases d'.logTable with
  | none => rfl
  | some t => exact congrArg (fun r => Except.ok (r, _)) hd

/-- The error of a write of the hard state. -/
theorem refusal_of_logRows {d d' : Database U} (h : d.logRows = d'.logRows) {key : String}
    (hkey : key ∈ hardKeys) : d.refusal key = d'.refusal key := by
  have hsame : d.hindrances.filter (·.key ∈ hardKeys) = d'.hindrances.filter (·.key ∈ hardKeys) :=
    congrArg LogRows.hindrances h
  have hfiltered : ∀ hs : List Hindrance, (hs.findSome? fun h => if h.key = key then h.error else none) =
      (hs.filter (·.key ∈ hardKeys)).findSome? fun h => if h.key = key then h.error else none := by
    intro hs
    induction hs with
    | nil => rfl
    | cons h hs ih =>
      by_cases hh : h.key = key
      · have hmem : h.key ∈ hardKeys := hh ▸ hkey
        simp only [List.findSome?_cons, List.filter_cons, hmem, decide_true, if_true, ih]
      · by_cases hmem : h.key ∈ hardKeys <;> simp [hh, hmem, ih]
  unfold Database.refusal
  rw [hfiltered d.hindrances, hfiltered d'.hindrances, hsame]

theorem onLogs_reads (g : LogTable → Except SqlError (LogTable × Output)) :
    ReadsOnly (Database.logRows (U := U)) (onLogs g) := by
  intro d d' hd
  have hrefusal : d.refusal raftLogsTableName = d'.refusal raftLogsTableName :=
    refusal_of_logRows hd (by simp [hardKeys])
  obtain ⟨hkv, hpurged, hlogs, hhindrances⟩ : d.kvTable.isSome = d'.kvTable.isSome ∧
      d.kv lastPurgedIdKey = d'.kv lastPurgedIdKey ∧ d.logTable = d'.logTable ∧ _ := LogRows.mk.injEq .. ▸ hd
  unfold onLogs
  rw [hlogs, hrefusal]
  cases d'.logTable with
  | none => rfl
  | some t =>
    cases hg : g t with
    | error e => simp [hg, Except.map, Except.bind]
    | ok r =>
      have hrows : (d.withLogRows t r.1 r.2).logRows = (d'.withLogRows t r.1 r.2).logRows :=
        LogRows.mk.injEq .. ▸ ⟨hkv, hpurged, rfl, hhindrances⟩
      cases d'.refusal raftLogsTableName <;> simp [hg, Except.map, Except.bind, hrows]

theorem upsert_reads (v : Value) :
    ReadsOnly (Database.logRows (U := U)) (replicatKvUpsert lastPurgedIdKey v) := by
  intro d d' hd
  have hrefusal : d.refusal lastPurgedIdKey = d'.refusal lastPurgedIdKey :=
    refusal_of_logRows hd (by simp [hardKeys])
  obtain ⟨hkv, -, hlogs, hhindrances⟩ : d.kvTable.isSome = d'.kvTable.isSome ∧
      d.kv lastPurgedIdKey = d'.kv lastPurgedIdKey ∧ d.logTable = d'.logTable ∧ _ := LogRows.mk.injEq .. ▸ hd
  rcases replicatKvUpsert_cases hkv hrefusal v with ⟨hw, hw'⟩ | ⟨e, he, he'⟩
  · obtain ⟨t, ht⟩ := Option.isSome_iff_exists.1 hw.1
    obtain ⟨t', ht'⟩ := Option.isSome_iff_exists.1 hw'.1
    have hrows : (d.putKv lastPurgedIdKey v).logRows = (d'.putKv lastPurgedIdKey v).logRows := by
      unfold Database.logRows
      rw [Database.kv_putKv_self_of_table ht, Database.kv_putKv_self_of_table ht',
        Database.logTable_putKv, Database.logTable_putKv, Database.isSome_kvTable_putKv,
        Database.isSome_kvTable_putKv, Database.hindrances_putKv, Database.hindrances_putKv, hkv, hlogs]
      exact congrArg (LogRows.mk _ _ _) hhindrances
    rw [replicatKvUpsert_of_writable hw, replicatKvUpsert_of_writable hw']
    exact congrArg (fun r => Except.ok (r, _)) hrows
  · rw [he, he']

theorem select_reads {f : Database U → β} {key : String} (hf : ∀ d d', f d = f d' →
    d.kvTable.isSome = d'.kvTable.isSome ∧ d.kv key = d'.kv key) :
    ReadsOnly f (replicatKvSelectValue key) := by
  intro d d' hd
  obtain ⟨hkv, hrow⟩ := hf d d' hd
  rcases ht : d.kvTable with _ | t <;> rcases ht' : d'.kvTable with _ | t' <;> rw [ht, ht'] at hkv
  · simp [replicatKvSelectValue, fromKv, ht, ht']
  · cases hkv
  · cases hkv
  · rw [replicatKvSelectValue_of_table ht, replicatKvSelectValue_of_table ht', hrow]
    exact congrArg (fun r => Except.ok (r, _)) hd

/-- A write of log rows that is done changes nothing else. -/
theorem onLogs_eq_ok {f : LogTable → Except SqlError (LogTable × Output)} {d d' : Database U}
    {out : Output} (h : onLogs f d = .ok (d', out)) :
    ∃ t t', d.logTable = some t ∧ d.refusal raftLogsTableName = none ∧ f t = .ok (t', out) ∧
      d' = d.withLogRows t t' out := by
  unfold onLogs at h
  cases ht : d.logTable with
  | none =>
    rw [ht] at h
    cases h
  | some t =>
    rw [ht] at h
    cases hf : f t with
    | error e => simp [hf, Except.bind] at h
    | ok r =>
      cases hr : d.refusal raftLogsTableName with
      | some e => simp [hf, hr, Except.bind] at h
      | none =>
        simp only [hf, hr, Except.bind, Option.elim, Except.ok.injEq, Prod.mk.injEq] at h
        obtain ⟨rfl, rfl⟩ := h
        exact ⟨t, r.1, rfl, rfl, hf, rfl⟩

theorem onLogs_keepsVote {g : LogTable → Except SqlError (LogTable × Output)}
    {d d' : Database U} {out : Output} (h : onLogs g d = .ok (d', out)) : d'.voteRows = d.voteRows := by
  obtain ⟨t, t', -, -, -, rfl⟩ := onLogs_eq_ok h
  rfl

section LogCalls

variable {store : RaftStore}

theorem respects_decode [Serde α] {ε : Type} {R : World U → World U → Prop} (g : AnyError → ε)
    (data : Option Bytes) : (decodeOption g data : StoreM U ε (Option α)).run.Respects R := by
  cases data with
  | none => exact .ret _
  | some data => exact (respects_run_liftResult _).run_bind fun _ => .ret _

theorem appendToLog_respects [Serde Entry] (entries : List Entry) :
    (store.appendToLog entries : StorageResult U Unit).run.Respects
      (SameRows store.log Database.logRows) := by
  induction entries with
  | nil => exact .ret _
  | cons e entries ih =>
    unfold RaftStore.appendToLog
    refine Respects.run_bind (respects_run_liftResult _) fun data => ?_
    exact (respects_execute (onLogs_reads _)).run_mapErr.run_bind fun _ => ih

theorem deleteConflictLogsSince_respects (logId : LogId) :
    (store.deleteConflictLogsSince logId : StorageResult U Unit).run.Respects
      (SameRows store.log Database.logRows) := by
  unfold RaftStore.deleteConflictLogsSince
  exact (respects_execute (onLogs_reads _)).run_mapErr.run_bind fun _ => .ret _

theorem purgeLogsUpto_respects [Serde LogId] (logId : LogId) :
    (store.purgeLogsUpto logId : StorageResult U Unit).run.Respects
      (SameRows store.log Database.logRows) := by
  unfold RaftStore.purgeLogsUpto RaftStore.setLastPurgedLogId
  refine Respects.run_bind (Respects.run_bind (respects_run_liftResult _) fun data => ?_) fun _ => ?_
  · exact (respects_execute (upsert_reads _)).run_mapErr.run_bind fun _ => .ret _
  · exact (respects_execute (onLogs_reads _)).run_mapErr.run_bind fun _ => .ret _

theorem getLogState_respects [Serde LogId] :
    (store.getLogState : StorageResult U LogState).run.Respects
      (SameRows store.log Database.logRows) := by
  unfold RaftStore.getLogState RaftStore.getLastLogEntry RaftStore.getLastPurgedLogId
  refine Respects.run_bind (Respects.run_bind ?_ fun _ => .ret _) fun last => ?_
  · exact (respects_fetchOne (fromLogs_reads _) _).run_mapErr
  refine Respects.run_bind (Respects.run_bind ?_ fun data => respects_decode _ data) fun _ => .ret _
  exact (respects_fetchOne (select_reads fun _ _ hd =>
    ⟨congrArg LogRows.hasKv hd, congrArg LogRows.lastPurged hd⟩) _).run_mapErr

theorem decodeEntries_respects [Serde Entry] {R : World U → World U → Prop} (entries : List Bytes) :
    (RaftStore.decodeEntries entries : StorageResult U (List Entry)).run.Respects R := by
  induction entries with
  | nil => exact .ret _
  | cons data rest ih =>
    unfold RaftStore.decodeEntries
    exact (respects_run_liftResult _).run_bind fun _ => ih.run_bind fun _ => .ret _

theorem tryGetLogEntries_respects [Serde Entry] {env : Env U} {checks : Bool} {lo hi : Bound}
    {p : StorageResult U (List Entry)} (hp : p ∈ store.tryGetLogEntries env checks lo hi) :
    p.run.Respects (SameRows store.log Database.logRows) := by
  obtain ⟨query, -, rfl⟩ := Option.map_eq_some_iff.1 hp
  refine Respects.run_bind ?_ fun entries => decodeEntries_respects entries
  exact (respects_fetchAll (fromLogs_reads _) _).run_mapErr

/-! ### The vote -/

variable [Serde Vote]

theorem saveVote_keeps (store : RaftStore) (vote : Vote) :
    (store.saveVote vote : StorageResult U Unit).run.Within (KeepsRows store.log Database.logRows) := by
  unfold RaftStore.saveVote RaftStore.setVote
  refine Within.run_bind (within_run_liftResult _) fun data => ?_
  refine Within.run_bind (within_upsert_keeps fun d => ?_).run_mapErr fun _ => within_run_pure ()
  exact logRows_putKv d (by decide) _

/-- A `save_vote` that returned `Ok` wrote its argument; one that failed wrote nothing. -/
theorem saveVote_row (store : RaftStore) (vote : Vote) (w : World U) :
    ((store.saveVote vote).run.exec w).1 = .ok () ∧
        ((store.saveVote vote).run.exec w).2.rows store.log Database.voteRows =
          some (true, some (.blob (encoded vote))) ∨
      ((store.saveVote vote).run.exec w).1 ≠ .ok () ∧
        ((store.saveVote vote).run.exec w).2.rows store.log Database.voteRows =
          w.rows store.log Database.voteRows := by
  unfold RaftStore.saveVote RaftStore.setVote task
  rw [exec_run_bind_ok (exec_encode ..), exec_run_bind, exec_run_mapErr]
  rcases exec_upsert_cases store.log voteKey (.blob (encoded vote)) w with ⟨s, -, hs, hw, hexec⟩ | ⟨-, e, hexec⟩
  all_goals rw [hexec]
  · refine .inl ⟨rfl, ?_⟩
    obtain ⟨t, ht⟩ := Option.isSome_iff_exists.1 hw.1
    have hkv : (s.main.putKv voteKey (.blob (encoded vote))).kvTable.isSome := by
      rw [Database.isSome_kvTable_putKv, ht]
      rfl
    simp [World.rows, Except.mapError, Database.voteRows, Database.kv_putKv_self_of_table ht, hkv]
  · exact .inr ⟨by simp [Except.mapError], rows_nextFault w⟩

theorem saveVote_exec {vote : Vote} {w : World U} {d : Database U} {t : KvTable} (hf : w.faults = [])
    (hr : w.Reads store.log d) (ht : d.kvStates = some t) :
    (store.saveVote vote).run.exec w =
      (.ok (), w.setDb store.log (d.putKv voteKey (.blob (encoded vote)))) := by
  unfold RaftStore.saveVote RaftStore.setVote
  rw [exec_run_bind_ok (exec_encode ..),
    exec_run_bind_ok (exec_task (exec_execute hf hr (replicatKvUpsert_eq ht ..) rfl)), exec_run_pure]

theorem readVote_respects :
    (store.readVote : StorageResult U (Option Vote)).run.Respects
      (SameRows store.log Database.voteRows) := by
  unfold RaftStore.readVote RaftStore.getVote
  refine Respects.run_bind ?_ fun data => respects_decode _ data
  exact (respects_fetchOne (select_reads fun _ _ hd => ⟨congrArg Prod.fst hd, congrArg Prod.snd hd⟩)
    _).run_mapErr

/-- What a call returns when the storage does not fail under it. -/
def resultOf (p : StorageResult U α) (w : World U) : Except StorageError α :=
  (p.run.exec { w with faults := [] }).1

omit [Serde Vote] in
theorem resultOf_eq {f : Database U → β} {p : StorageResult U α}
    (hp : p.run.Respects (SameRows store.log f)) {w w' : World U}
    (hw : w.rows store.log f = w'.rows store.log f) : resultOf p w = resultOf p w' := by
  have hstart : SameRows store.log f { w with faults := [] } { w' with faults := [] } :=
    ⟨rfl, (rows_faults w [] _ _).trans (hw.trans (rows_faults w' [] _ _).symm)⟩
  exact (hp.exec hstart).1

/-- Reading the vote back. -/
theorem readVote_of_rows {w : World U} {v : Option Vote}
    (hw : w.rows store.log Database.voteRows = some (true, v.map fun vote => .blob (encoded vote))) :
    resultOf store.readVote w = .ok v := by
  obtain ⟨s, hs, hrows⟩ := Option.map_eq_some_iff.1 hw
  obtain ⟨hsome, hrow⟩ := Prod.mk.injEq .. ▸ hrows
  obtain ⟨t, ht⟩ := Option.isSome_iff_exists.1 hsome
  have hread : ((w.conn store.log).queryRow (.onMain (replicatKvSelectValue voteKey)) fromRowBlob).2 =
      .ok (v.map encoded) := by
    simp only [Connection.queryRow, Connection.step_onMain hs (replicatKvSelectValue_of_table ht voteKey), hrow]
    cases v <;> rfl
  unfold resultOf RaftStore.readVote RaftStore.getVote
  obtain ⟨w', hfetch⟩ : ∃ w', (store.log.fetchOne (.onMain (replicatKvSelectValue voteKey))
      fromRowBlob).run.exec { w with faults := [] } = (.ok (v.map encoded), w') := by
    refine ⟨_, StorageHandle.exec_submitTask_ok rfl (Prod.ext rfl ?_)⟩
    rw [World.conn_faults]
    exact hread
  rw [exec_run_bind_ok (exec_task hfetch)]
  exact congrArg Prod.fst (exec_decodeOption storeReadError v _)

end LogCalls

/-! ## Every run -/

section Runs

variable [Serde LogId] [Serde Vote] [Serde Entry] [Serde EffectiveMembership] [Serde SnapshotMeta]
variable {env : Env U} {store : RaftStore}

/-- Every call of the state machine half leaves the hard rows. -/
theorem runCall_keepsHard {w : World U} {c : StoreCall × List Bool} (h : CallOk env store w c.1)
    (hvote : ∀ vote, c.1 ≠ .saveVote vote) (hlog : c.1.isLogCall = false) :
    KeepsRows store.log Database.hardRows w (runCall env store w c).2 := by
  obtain ⟨call, faults⟩ := c
  have hstart := rows_faults w faults store.log Database.hardRows
  refine Eq.trans ?_ hstart
  cases call with
  | saveVote vote => exact absurd rfl (hvote vote)
  | appendToLog entries => cases hlog
  | deleteConflictLogsSince logId => cases hlog
  | purgeLogsUpto logId => cases hlog
  | applyToStateMachine entries =>
    have hmet : store.log ≠ store.data ∨ ∀ s, (({ w with faults } : World U).conn store.data).session = some s →
        EntriesMet SameHard env s entries := by
      rwa [World.conn_faults]
    exact Within.exec_run_bind (applyEntries_keepsHard entries [] hmet) fun _ => within_run_pure ()
  | buildSnapshot =>
    have hbuild := (within_buildSnapshot env store).mono fun _ _ hw => hw.keepsHard store.log
    exact (hbuild.run_bind fun _ => within_run_pure ()).exec _
  | installSnapshot metadata snapshot => exact installSnapshot_keeps (by rwa [hstart, World.conn_faults])

/-- Every call but those on the log leaves the log rows and the purge marker. -/
theorem runCall_keepsLog {w : World U} {c : StoreCall × List Bool} (h : CallOk env store w c.1)
    (hlog : c.1.isLogCall = false) :
    KeepsRows store.log Database.logRows w (runCall env store w c).2 := by
  by_cases hvote : ∃ vote, c.1 = .saveVote vote
  · obtain ⟨vote, hvote⟩ := hvote
    have hkeeps := (saveVote_keeps store vote).exec { w with faults := c.2 }
    unfold runCall
    rw [hvote]
    exact hkeeps.trans (rows_faults w c.2 store.log _)
  · exact (runCall_keepsHard h (fun vote hv => hvote ⟨vote, hv⟩) hlog).comp Prod.fst

/-- What a call on the log does to the log rows depends on these rows only. -/
theorem runCall_log {w w' : World U} {c : StoreCall × List Bool} (hlog : c.1.isLogCall = true)
    (hw : w.rows store.log Database.logRows = w'.rows store.log Database.logRows) :
    (runCall env store w c).2.rows store.log Database.logRows =
      (runCall env store w' c).2.rows store.log Database.logRows := by
  obtain ⟨call, faults⟩ := c
  have hstart : SameRows store.log Database.logRows { w with faults } { w' with faults } :=
    ⟨rfl, (rows_faults w faults _ _).trans (hw.trans (rows_faults w' faults _ _).symm)⟩
  cases call with
  | appendToLog entries => exact ((appendToLog_respects entries).exec hstart).2.2
  | deleteConflictLogsSince logId => exact ((deleteConflictLogsSince_respects logId).exec hstart).2.2
  | purgeLogsUpto logId => exact ((purgeLogsUpto_respects logId).exec hstart).2.2
  | saveVote vote => cases hlog
  | applyToStateMachine entries => cases hlog
  | buildSnapshot => cases hlog
  | installSnapshot metadata snapshot => cases hlog

/-- What bounds the statements on the log rows, and the marker of a purge, bounds the calls on
the log. -/
theorem logCall_within {R : World U → World U → Prop} {call : StoreCall} (hcall : call.isLogCall = true)
    (hlogs : ∀ f, (store.log.execute (.onMain (onLogs f))).run.Within R)
    (hmarker : ∀ v, (store.log.execute (.onMain (replicatKvUpsert lastPurgedIdKey v))).run.Within R) :
    (call.run env store).run.Within R := by
  cases call with
  | appendToLog entries =>
    unfold StoreCall.run
    induction entries with
    | nil => exact within_run_pure ()
    | cons e entries ih =>
      unfold RaftStore.appendToLog
      refine Within.run_bind (within_run_liftResult _) fun data => ?_
      exact (hlogs _).run_mapErr.run_bind fun _ => ih rfl
  | deleteConflictLogsSince logId =>
    unfold StoreCall.run RaftStore.deleteConflictLogsSince
    exact (hlogs _).run_mapErr.run_bind fun _ => within_run_pure ()
  | purgeLogsUpto logId =>
    unfold StoreCall.run RaftStore.purgeLogsUpto RaftStore.setLastPurgedLogId
    refine Within.run_bind (Within.run_bind (within_run_liftResult _) fun data => ?_) fun _ => ?_
    · exact (hmarker _).run_mapErr.run_bind fun _ => within_run_pure ()
    · exact (hlogs _).run_mapErr.run_bind fun _ => within_run_pure ()
  | saveVote vote => cases hcall
  | applyToStateMachine entries => cases hcall
  | buildSnapshot => cases hcall
  | installSnapshot metadata snapshot => cases hcall

/-- Every call but `save_vote` leaves the vote. -/
theorem runCall_keepsVote {w : World U} {c : StoreCall × List Bool} (h : CallOk env store w c.1)
    (hvote : ∀ vote, c.1 ≠ .saveVote vote) :
    KeepsRows store.log Database.voteRows w (runCall env store w c).2 := by
  by_cases hlog : c.1.isLogCall = true
  · obtain ⟨call, faults⟩ := c
    refine Eq.trans ?_ (rows_faults w faults store.log _)
    have hvotes : (call.run env store).run.Within (KeepsRows store.log Database.voteRows) := by
      refine logCall_within hlog (fun f => within_execute_keeps fun _ _ _ => onLogs_keepsVote) fun v => ?_
      exact within_upsert_keeps fun d => voteRows_putKv d (by decide) v
    exact hvotes.exec _
  · exact (runCall_keepsHard h hvote (by simpa using hlog)).comp Prod.snd

/-- The log rows after a run are those after its calls on the log alone. -/
theorem runCalls_logRows {w w' : World U} {cs : List (StoreCall × List Bool)}
    (h : CallsOk env store w cs)
    (hw : w.rows store.log Database.logRows = w'.rows store.log Database.logRows) :
    (runCalls env store w cs).rows store.log Database.logRows =
      (runCalls env store w' (cs.filter (·.1.isLogCall))).rows store.log Database.logRows := by
  induction cs generalizing w w' with
  | nil => exact hw
  | cons c cs ih =>
    obtain ⟨hc, hcs⟩ := h
    by_cases hlog : c.1.isLogCall = true
    · rw [List.filter_cons, if_pos hlog]
      exact ih hcs (runCall_log hlog hw)
    · rw [List.filter_cons, if_neg hlog]
      exact ih hcs ((runCall_keepsLog hc (by simpa using hlog)).trans hw)

/-- The vote rows after a run are those of the vote saved last, or those it started from. -/
theorem runCalls_voteRows {w : World U} {cs : List (StoreCall × List Bool)}
    (h : CallsOk env store w cs) {v : Option Vote} {rows : Option (Bool × Option Value)}
    (hw : w.rows store.log Database.voteRows =
      v.elim rows fun vote => some (true, some (.blob (encoded vote)))) :
    (runCalls env store w cs).rows store.log Database.voteRows =
      (savedVote env store w cs v).elim rows fun vote => some (true, some (.blob (encoded vote))) := by
  induction cs generalizing w v with
  | nil => exact hw
  | cons c cs ih =>
    obtain ⟨hc, hcs⟩ := h
    refine ih hcs ?_
    obtain ⟨call, faults⟩ := c
    by_cases hvote : ∃ vote, call = .saveVote vote
    · obtain ⟨vote, rfl⟩ := hvote
      have hstart := rows_faults w faults store.log Database.voteRows
      change World.rows ((store.saveVote vote).run.exec { w with faults }).2 _ _ =
        (nextVote v _ ((store.saveVote vote).run.exec { w with faults }).1).elim _ _
      rcases saveVote_row store vote { w with faults } with ⟨hok, hrow⟩ | ⟨herr, hrow⟩
      · rw [hok, hrow]
        rfl
      · rw [hrow, hstart, hw]
        cases hr : ((store.saveVote vote).run.exec { w with faults }).1 with
        | ok u => exact absurd hr herr
        | error e => rfl
    · have hsame : nextVote v call (runCall env store w (call, faults)).1 = v := by
        cases call with
        | saveVote vote => exact absurd ⟨vote, rfl⟩ hvote
        | _ => rfl
      rw [hsame, ← hw]
      exact runCall_keepsVote hc fun vote hv => hvote ⟨vote, hv⟩

theorem runCalls_append (w : World U) (cs cs' : List (StoreCall × List Bool)) :
    runCalls env store w (cs ++ cs') = runCalls env store (runCalls env store w cs) cs' :=
  List.foldl_append ..

theorem CallsOk.append {w : World U} {cs cs' : List (StoreCall × List Bool)}
    (h : CallsOk env store w (cs ++ cs')) : CallsOk env store (runCalls env store w cs) cs' := by
  induction cs generalizing w with
  | nil => exact h
  | cons c cs ih => exact ih h.2

theorem runCall_saveVote {w : World U} {vote : Vote} {d : Database U} {t : KvTable}
    (hr : w.Reads store.log d) (ht : d.kvStates = some t) :
    ∃ w', runCall env store w (.saveVote vote, []) = (.ok (), w') ∧
      w'.Reads store.log (d.putKv voteKey (.blob (encoded vote))) := by
  have hr' : ({ w with faults := [] } : World U).Reads store.log d := by
    unfold World.Reads
    rw [World.conn_faults]
    exact hr
  exact ⟨_, saveVote_exec rfl hr' ht, World.reads_setDb ..⟩

/-- The vote saved first is the vote saved last when no other call saves one. -/
theorem savedVote_of_ok {w : World U} {vote : Vote} {faults : List Bool} {v : Option Vote}
    {cs : List (StoreCall × List Bool)} (hsave : (runCall env store w (.saveVote vote, faults)).1 = .ok ())
    (hcs : ∀ c ∈ cs, ∀ vote, c.1 ≠ .saveVote vote) :
    savedVote env store w ((.saveVote vote, faults) :: cs) v = some vote := by
  have hrest : ∀ (w : World U) (cs : List (StoreCall × List Bool)),
      (∀ c ∈ cs, ∀ vote, c.1 ≠ .saveVote vote) → savedVote env store w cs (some vote) = some vote := by
    intro w cs hcs
    induction cs generalizing w with
    | nil => rfl
    | cons c cs ih =>
      have hsame : nextVote (some vote) c.1 (runCall env store w c).1 = some vote := by
        have hc := hcs c List.mem_cons_self
        obtain ⟨call, faults⟩ := c
        cases call with
        | saveVote vote' => exact absurd rfl (hc vote')
        | _ => rfl
      unfold savedVote
      rw [hsame]
      exact ih _ fun c hc => hcs c (List.mem_cons_of_mem _ hc)
  unfold savedVote
  rw [hsave]
  exact hrest _ cs hcs

/-- In the shared database the vote after an install is the one in the image. -/
theorem readVote_after_install {w : World U} {metadata : SnapshotMeta} {buf : Bytes} {d₀ d : Database U}
    {t : KvTable} {v : Option Vote} (hshared : store.log = store.data) (hr : w.Reads store.data d₀)
    (hne : buf ≠ []) (hload : env.deserialize buf = some d)
    (ht : (Contents.replace d₀ d).kvStates = some t)
    (hv : d.voteRows = (true, v.map fun vote => .blob (encoded vote))) :
    resultOf store.readVote (runCall env store w (.installSnapshot metadata buf, [])).2 = .ok v := by
  have hr' : ({ w with faults := [] } : World U).Reads store.data d₀ := by
    unfold World.Reads
    rw [World.conn_faults]
    exact hr
  have hinstall : runCall env store w (.installSnapshot metadata buf, []) = _ :=
    installSnapshot_exec rfl hr' hne hload ht
  refine readVote_of_rows ?_
  rw [hinstall, hshared]
  unfold World.rows installed
  rw [World.conn_setConn_self, World.conn_faults, Connection.replaced_some hr]
  show some ((Contents.replace d₀ d).putKv _ _).voteRows = _
  rw [voteRows_putKv _ (by decide)]
  exact congrArg some hv

end Runs

/-- A store whose state machine shares the log database. -/
def catalogShared : World Catalog :=
  opened catalogEnv none (Applied.at catalogEffect [] []) World.fresh

end Replicat
