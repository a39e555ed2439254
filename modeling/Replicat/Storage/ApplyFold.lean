import Replicat.Storage.FailedApply
import Replicat.Storage.Installs

/-!
# Apply is a fold over the entries

The loop writes the bookkeeping between the client's statements, into the same database, and
keeps every value of it twice. `RowsAfter` separates the two in the database: the client's tables
are those of running the statements alone, the rows are those of the last entries, nothing else
changes. `apply_folds` is what a call leaves in the database and in memory, and that it leaves
the same for every way of cutting the entries into batches. The statements share one connection
with the bookkeeping: one that reads `last_insert_rowid()` sees its writes
(`apply_shows_own_writes`).
-/

namespace Replicat

open Sqlite Atomics Atomics.Prog

variable {U : Type}

/-! ## Batches -/

section Batches

variable [Serde LogId] [Serde EffectiveMembership] (env : Env U) (store : RaftStore)

/-- Consecutive calls of `apply_to_state_machine`, with all their responses. -/
def applyInBatches : List (List Entry) → StorageResult U (List Response)
  | [] => pure []
  | batch :: batches => do
    let res ← store.applyToStateMachine env batch
    let rest ← applyInBatches batches
    pure (res ++ rest)

variable {env store}

theorem applyEntries_append (es es' : List Entry) (res : List Response) :
    store.applyEntries env (es ++ es') res = store.applyEntries env es res >>= store.applyEntries env es' := by
  induction es generalizing res with
  | nil => exact (pure_bind res _).symm
  | cons e es ih =>
    rw [List.cons_append, applyEntries_cons, applyEntries_cons, LawfulMonad.bind_assoc]
    exact congrArg _ (funext fun response => ih (res ++ [response]))

/-- The responses so far are only carried along. -/
theorem applyEntries_eq_map (es : List Entry) (res : List Response) :
    store.applyEntries env es res = (res ++ ·) <$> store.applyToStateMachine env es := by
  unfold RaftStore.applyToStateMachine
  induction es generalizing res with
  | nil => exact (LawfulApplicative.map_pure ..).trans (congrArg pure (List.append_nil res)) |>.symm
  | cons e es ih =>
    rw [applyEntries_cons, applyEntries_cons, map_bind]
    refine congrArg _ (funext fun response => ?_)
    rw [ih (res ++ [response]), ih ([] ++ [response]), Functor.map_map]
    simp only [List.append_assoc, List.nil_append]

/-- **Batches make no difference**, whatever the entries do, whether or not the storage fails and
whatever runs in between: the calls are one program. -/
theorem applyInBatches_eq (batches : List (List Entry)) :
    applyInBatches env store batches = store.applyToStateMachine env batches.flatten := by
  induction batches with
  | nil => rfl
  | cons batch batches ih =>
    have hrest : ∀ res, store.applyEntries env batches.flatten res =
        applyInBatches env store batches >>= fun rest => pure (res ++ rest) := by
      intro res
      rw [applyEntries_eq_map, ← ih, map_eq_pure_bind]
    rw [List.flatten_cons, RaftStore.applyToStateMachine, applyEntries_append]
    exact congrArg _ (funext fun res => (hrest res).symm)

end Batches

/-! ## The statements alone -/

/-- The statement names no table of the store and leaves the transaction alone: it reads and changes
the client's tables, what the connection keeps for itself, and what is in the way of writes. -/
def NamesNoRows (stmt : Prepared (Database U)) : Prop :=
  ∃ f : U → Own → List Hindrance → U × Own × List Hindrance × Except Failure Output, ∀ s,
    stmt s =
      match f s.main.user s.main.own s.main.hindrances with
      | (user, own, hindrances, result) =>
        ({ s with main := { s.main with user, own, hindrances } }, result)

/-- What clients have left: their tables, TEMP objects and settings, and what is in the way of writes. -/
def Database.clientPart (d : Database U) : U × List (String × Value) × List Hindrance :=
  (d.user, d.own.objects, d.hindrances)

@[simp] theorem Database.clientPart_putKv (d : Database U) (key : String) (v : Value) :
    (d.putKv key v).clientPart = d.clientPart := by
  unfold putKv clientPart
  cases d.kvTable <;> rfl

/-- Run on what clients have left in `d`, the statement leaves the rows of the store and the transaction,
looks neither at them nor at the counters of the connection, and puts nothing in the way. -/
structure KeepsToTables (d : Database U) (stmt : Prepared (Database U)) : Prop where
  leavesRows : ∀ s : Session (Database U), s.main.clientPart = d.clientPart →
    ∃ user own, (stmt s).1 = { s with main := { s.main with user, own } }
  readsTables : ∀ s s' : Session (Database U), s.main.clientPart = d.clientPart →
    s'.main.clientPart = d.clientPart →
    (stmt s').1.main.clientPart = (stmt s).1.main.clientPart ∧ (Succeeds (stmt s').2 ↔ Succeeds (stmt s).2)

section Alone

variable (env : Env U)

/-- The session after the statement of an entry, when it has one, and nothing else. -/
def execNormal (s : Session (Database U)) (e : Entry) : Session (Database U) :=
  match e.payload with
  | .normal req => (RaftStore.clientStatement env req s).1
  | _ => s

/-- The statements of the `Normal` entries, in list order. -/
def execNormals (s : Session (Database U)) (es : List Entry) : Session (Database U) :=
  es.foldl (execNormal env) s

theorem execNormals_append_singleton (s : Session (Database U)) (es : List Entry) (e : Entry) :
    execNormals env s (es ++ [e]) = execNormal env (execNormals env s es) e :=
  List.foldl_append

/-- Each statement succeeds after those before it. -/
def StatementsSucceed (s : Session (Database U)) (es : List Entry) : Prop :=
  ∀ i e req, es[i]? = some e → e.payload = .normal req →
    Succeeds (RaftStore.clientStatement env req (execNormals env s (es.take i))).2

/-- Each statement keeps to the client's tables, on those that the statements before it leave. -/
def EntriesKeepToTables (s : Session (Database U)) (es : List Entry) : Prop :=
  ∀ i e req, es[i]? = some e → e.payload = .normal req →
    KeepsToTables (execNormals env s (es.take i)).main (RaftStore.clientStatement env req)

variable {env}

theorem EntriesKeepToTables.take {s : Session (Database U)} {es : List Entry} (h : EntriesKeepToTables env s es)
    (n : Nat) : EntriesKeepToTables env s (es.take n) := by
  intro i e req he hreq
  rw [List.getElem?_take] at he
  split at he
  · rename_i hi
    rw [List.take_take, Nat.min_eq_left (Nat.le_of_lt hi)]
    exact h i e req he hreq
  · cases he

end Alone

/-! ## The rows and the tables -/

theorem lastLogId?_cons (e : Entry) (es : List Entry) :
    lastLogId? (e :: es) = (lastLogId? es).or (some e.logId) := by
  unfold lastLogId?
  rw [List.getLast?_cons]
  cases es.getLast? <;> rfl

theorem lastMembership?_cons (e : Entry) (es : List Entry) :
    lastMembership? (e :: es) = (lastMembership? es).or e.membership? := by
  have hfold : ∀ m : Option EffectiveMembership, es.foldl (fun m e => e.membership?.or m) m =
      (lastMembership? es).or m := by
    unfold lastMembership?
    induction es with
    | nil => exact fun _ => rfl
    | cons e' es ih =>
      intro m
      rw [List.foldl_cons, List.foldl_cons, ih, ih (e'.membership?.or none), Option.or_none, Option.or_assoc]
  exact (hfold (e.membership?.or none)).trans (by rw [Option.or_none])

section Rows

variable [Serde LogId] [Serde EffectiveMembership] {env : Env U} {store : RaftStore}
  {s p s' : Session (Database U)} {log : Option LogId} {membership : Option EffectiveMembership}

/-- The session `s'` is `s` with these values in the two rows, where there are any, and with the
client's tables of `p`. Nothing else differs but the counters. -/
structure RowsAfter (log : Option LogId) (membership : Option EffectiveMembership)
    (s p s' : Session (Database U)) : Prop where
  tables : s'.main.clientPart = p.main.clientPart
  logRow : s'.main.kv lastLogKey = (log.map fun log => .blob (encoded log)).or (s.main.kv lastLogKey)
  membershipRow : s'.main.kv lastMembershipKey =
    (membership.map fun membership => .blob (encoded membership)).or (s.main.kv lastMembershipKey)
  otherRows : ∀ key, key ≠ lastLogKey → key ≠ lastMembershipKey → s'.main.kv key = s.main.kv key
  kvStates : s'.main.kvStates.isSome
  raftLogs : s'.main.raftLogs = s.main.raftLogs
  saved : s'.saved = s.saved

theorem rowsAfter_start (hkv : s.main.kvStates.isSome) : RowsAfter none none s s s :=
  ⟨rfl, rfl, rfl, fun _ _ _ => rfl, hkv, rfl, rfl⟩

theorem RowsAfter.marked (h : RowsAfter log membership s p s') (e : Entry) :
    RowsAfter (some e.logId) membership s p (marked s' e) := by
  obtain ⟨t, ht⟩ := Option.isSome_iff_exists.1 h.kvStates
  have hself : (Replicat.marked s' e).main.kv lastLogKey = some (.blob (encoded e.logId)) :=
    Database.kv_putKv_self ht ..
  refine ⟨(Database.clientPart_putKv ..).trans h.tables, hself, ?_, fun key hl hm => ?_, Database.isSome_putKv ht ..,
    (Database.raftLogs_putKv ..).trans h.raftLogs, h.saved⟩
  · exact (Database.kv_putKv_ne _ lastLogKey_ne.symm _).trans h.membershipRow
  · exact (Database.kv_putKv_ne _ hl _).trans (h.otherRows key hl hm)

theorem RowsAfter.putMembership (h : RowsAfter log membership s p s') (mem : EffectiveMembership) :
    RowsAfter log (some mem) s p
      { s' with main := s'.main.putKv lastMembershipKey (.blob (encoded mem)) } := by
  obtain ⟨t, ht⟩ := Option.isSome_iff_exists.1 h.kvStates
  have hself : (s'.main.putKv lastMembershipKey (.blob (encoded mem))).kv lastMembershipKey =
      some (.blob (encoded mem)) := Database.kv_putKv_self ht ..
  refine ⟨(Database.clientPart_putKv ..).trans h.tables, ?_, hself, fun key hl hm => ?_, Database.isSome_putKv ht ..,
    (Database.raftLogs_putKv ..).trans h.raftLogs, h.saved⟩
  · exact (Database.kv_putKv_ne _ lastLogKey_ne _).trans h.logRow
  · exact (Database.kv_putKv_ne _ hm _).trans (h.otherRows key hl hm)

/-- A client's statement does to the tables what it does when run alone. -/
theorem RowsAfter.client (h : RowsAfter log membership s p s') {stmt : Prepared (Database U)}
    (hkeeps : KeepsToTables p.main stmt) : RowsAfter log membership s (stmt p).1 (stmt s').1 := by
  have htables := (hkeeps.readsTables p s' rfl h.tables).1
  obtain ⟨user, own, hs'⟩ := hkeeps.leavesRows s' h.tables
  rw [hs'] at htables ⊢
  exact ⟨htables, h.logRow, h.membershipRow, h.otherRows, h.kvStates, h.raftLogs, h.saved⟩

/-- One turn of the loop, beside the statement alone. -/
theorem RowsAfter.turn {e : Entry} (h : RowsAfter log membership s p s')
    (hkeeps : ∀ req, e.payload = .normal req → KeepsToTables p.main (RaftStore.clientStatement env req)) :
    RowsAfter (some e.logId) (e.membership?.or membership) s (execNormal env p e) (turn env s' e) := by
  have hmarked := h.marked e
  unfold Replicat.turn paid execNormal Entry.membership?
  cases hp : e.payload with
  | blank => exact hmarked
  | normal req => exact hmarked.client (hkeeps req hp)
  | membership mem => exact hmarked.putMembership ⟨some e.logId, mem⟩

/-- **The loop and the statements alone agree on the client's tables**, and the rows are those of
the last entries. -/
theorem rowsAfter_turns (hkv : s.main.kvStates.isSome) {es : List Entry}
    (hkeeps : EntriesKeepToTables env s es) :
    RowsAfter (lastLogId? es) (lastMembership? es) s (execNormals env s es)
      (es.foldl (Replicat.turn env) s) := by
  induction es using List.reverseRecOn with
  | nil => exact rowsAfter_start hkv
  | append_singleton es e ih =>
    rw [lastLogId?_append_singleton, lastMembership?_append_singleton, execNormals_append_singleton,
      List.foldl_append]
    have hbefore := hkeeps.take es.length
    rw [List.take_left] at hbefore
    refine (ih hbefore).turn fun req hreq => ?_
    have hlast := hkeeps es.length e req (by simp) hreq
    rwa [List.take_left] at hlast

/-- The turns pass when the statements, run alone, succeed. -/
theorem turnsOk_of_succeed (hkv : s.main.kvStates.isSome) {es : List Entry}
    (hkeeps : EntriesKeepToTables env s es) (hsucceed : StatementsSucceed env s es) : TurnsOk env s es := by
  intro i e he
  have hbefore := rowsAfter_turns hkv (hkeeps.take i)
  obtain ⟨t, ht⟩ := Option.isSome_iff_exists.1 hbefore.kvStates
  refine ⟨Database.writable_of_some ht _, fun req hreq => ?_, fun _ _ => (Database.writable_of_some ht _).putKv ..⟩
  have hstmt := hkeeps i e req he hreq
  exact (hstmt.readsTables _ _ rfl (hbefore.marked e).tables).2.2 (hsucceed i e req he hreq)

end Rows

/-! ## The call -/

/-- The world once the entries are applied, with the data connection in the session `s`. -/
def World.applied (w : World U) (data : StorageHandle) (s : Session (Database U)) (es : List Entry) :
    World U :=
  { w.setSession data s with
    lastAppliedLog := (lastLogId? es).or w.lastAppliedLog
    lastMembership := (lastMembership? es).getD w.lastMembership }

section Worlds

variable {w : World U} {data : StorageHandle} {s s' : Session (Database U)} {e : Entry} {es : List Entry}

namespace World

/-- Where the storage does not fail, a task changes its connection only. -/
theorem setSession_sound (hf : w.faults = []) :
    w.setSession data s = w.setConn data { w.conn data with session := some s } := by
  unfold setSession
  rw [nextFault_nil hf]

theorem faults_setSession (hf : w.faults = []) : (w.setSession data s).faults = [] := by
  rw [setSession_sound hf, faults_setConn, hf]

theorem session_applied : ((w.applied data s es).conn data).session = some s := by
  have hself : ((w.setSession data s).conn data).session = some s := session_setSession_self
  cases data <;> exact hself

theorem faults_applied (hf : w.faults = []) : (w.applied data s es).faults = [] := faults_setSession hf

theorem applied_nil (hf : w.faults = []) (hs : (w.conn data).session = some s) : w.applied data s [] = w := by
  unfold applied
  rw [setSession_self hs, nextFault_nil hf]
  rfl

/-- The entries one by one. -/
theorem applied_cons (hf : w.faults = []) :
    (w.applied data s [e]).applied data s' es = w.applied data s' (e :: es) := by
  have hlog : (lastLogId? (e :: es)).or w.lastAppliedLog =
      (lastLogId? es).or ((lastLogId? [e]).or w.lastAppliedLog) := by
    rw [lastLogId?_cons, Option.or_assoc]
    rfl
  have hmembership : (lastMembership? (e :: es)).getD w.lastMembership =
      (lastMembership? es).getD ((lastMembership? [e]).getD w.lastMembership) := by
    rw [lastMembership?_cons, lastMembership?_cons]
    cases lastMembership? es <;> rfl
  unfold applied
  rw [hlog, hmembership, setSession_sound hf, setSession_sound hf, setSession_sound ?_]
  · cases data <;> rfl
  · exact (faults_setConn ..).trans hf

end World

/-- A row of the state machine and the field beside it are written. -/
theorem exec_setRow (hf : w.faults = []) (hs : (w.conn data).session = some s)
    {key : String} (hw : s.main.Writable key) (v : Bytes) (f : World U → World U) : (do
        let _ ← task storeWriteError (data.execute (.onMain (replicatKvUpsert key (.blob v))))
        liftAct fun w => ((), f w) : StorageResult U Unit).run.exec w =
      (.ok (), f (w.setSession data { s with main := s.main.putKv key (.blob v) })) := by
  rcases setRow_cases data key v f w with ⟨s', -, hs', hexec⟩ | ⟨hfault | hno, -⟩
  · cases hs.symm.trans hs'
    exact hexec
  · rw [World.nextFault_nil hf] at hfault
    cases hfault
  · exact absurd hw (hno s hs)

end Worlds

section Call

variable [Serde LogId] [Serde EffectiveMembership] {env : Env U} {store : RaftStore} {w : World U}
  {s s' : Session (Database U)} {e : Entry} {es : List Entry}

omit [Serde LogId] in
theorem exec_applyPayload (hf : w.faults = []) (hs : (w.conn store.data).session = some s)
    (hsucceed : ∀ req, e.payload = .normal req → Succeeds (RaftStore.clientStatement env req s).2)
    (hw : ∀ mem, e.payload = .membership mem → s.main.Writable lastMembershipKey) :
    (store.applyPayload env e).run.exec w = (.ok ⟨⟩, { w.setSession store.data (paid env s e) with
      lastMembership := e.membership?.getD w.lastMembership }) := by
  unfold RaftStore.applyPayload paid Entry.membership?
  cases hp : e.payload with
  | blank =>
    show (_, w) = _
    rw [World.setSession_self hs, World.nextFault_nil hf]
    rfl
  | normal req =>
    rcases exec_execute_session hs (RaftStore.clientStatement env req) with
      ⟨hfault, -⟩ | ⟨-, r, hexec, hok⟩
    · rw [World.nextFault_nil hf] at hfault
      cases hfault
    · obtain ⟨n, rfl⟩ := hok.2 (hsucceed req hp)
      rw [exec_run_bind_ok (exec_task hexec)]
      show (_, w.setSession ..) = _
      rw [Option.getD_none, ← World.lastMembership_setSession]
  | membership mem =>
    unfold StateMachine.setLastMembership
    rw [exec_run_bind, exec_run_bind_ok (exec_encode ..), exec_setRow hf hs (hw mem hp)]
    rfl

/-- **One turn**, its whole effect. -/
theorem exec_applyTurn (hf : w.faults = []) (hs : (w.conn store.data).session = some s)
    (hok : TurnOk env s e) :
    (applyTurn env store e).run.exec w = (.ok ⟨⟩, w.applied store.data (turn env s e) [e]) := by
  unfold applyTurn StateMachine.setLastAppliedLog
  rw [LawfulMonad.bind_assoc, exec_run_bind_ok (exec_encode ..),
    exec_run_bind_ok (exec_setRow hf hs hok.1 _ _)]
  obtain ⟨hmarked, -⟩ := noted_setSession store.data w (marked s e) e.logId
  have hf' : ({ w.setSession store.data (marked s e) with
      lastAppliedLog := some e.logId } : World U).faults = [] := World.faults_setSession hf
  refine (exec_applyPayload hf' hmarked hok.2.1 hok.2.2).trans ?_
  have hmembership : lastMembership? [e] = e.membership? := Option.or_none
  unfold World.applied
  rw [World.setSession_sound hf', World.setSession_sound hf, World.setSession_sound hf, hmembership]
  cases store.data <;> rfl

/-- **The loop is a fold of the turns.** -/
theorem exec_applyEntries (hf : w.faults = []) (hs : (w.conn store.data).session = some s)
    (hok : TurnsOk env s es) (res : List Response) :
    (store.applyEntries env es res).run.exec w =
      (.ok (res ++ es.map fun _ => ⟨⟩), w.applied store.data (es.foldl (turn env) s) es) := by
  induction es generalizing w s res with
  | nil =>
    rw [List.map_nil, List.append_nil, List.foldl_nil, World.applied_nil hf hs]
    rfl
  | cons e es ih =>
    obtain ⟨hfirst, hrest⟩ := (turnsOk_cons env s e es).1 hok
    rw [applyEntries_cons, exec_run_bind_ok (exec_applyTurn hf hs hfirst),
      ih (World.faults_applied hf) World.session_applied hrest, World.applied_cons hf]
    simp

/-- `create_state_machine` reads this from the row under `key`. -/
def RowReads {α : Type} [Serde α] (key : String) (s : Session (Database U)) (v : Option α) : Prop :=
  decodeRow (readKv key s.main.withKv) = .ok v

omit [Serde LogId] [Serde EffectiveMembership] in
/-- A row that is written reads back so, also over one that does not decode. -/
theorem RowReads.written {α : Type} [Serde α] {key : String} {v x : Option α}
    (hkv : s'.main.kv key = (v.map fun v => .blob (encoded v)).or (s.main.kv key))
    (hread : v = none → RowReads key s x) : RowReads key s' (v.or x) := by
  cases v with
  | none =>
    have hsame : readKv key s'.main.withKv = readKv key s.main.withKv :=
      readKv_congr rfl (by rw [Database.kv_withKv, Database.kv_withKv]; exact hkv)
    show decodeRow (readKv key s'.main.withKv) = .ok x
    rw [hsame]
    exact hread rfl
  | some v => exact decodeRow_readKv (v := some v) hkv

/-- What `create_state_machine` loads: the values written last, else what it finds now. -/
theorem RowsAfter.wouldLoad {p : Session (Database U)} {data : StorageHandle} {log : Option LogId}
    {membership : Option EffectiveMembership} (h : RowsAfter (lastLogId? es) (lastMembership? es) s p s')
    (hlog : lastLogId? es = none → RowReads lastLogKey s log)
    (hmembership : lastMembership? es = none → RowReads lastMembershipKey s membership) :
    WouldLoad data (w.applied data s' es) ((lastLogId? es).or log)
      (((lastMembership? es).or membership).getD default) := by
  have hlog' : decodeRow (readKv lastLogKey s'.main.withKv) = _ := RowReads.written h.logRow hlog
  have hmembership' : decodeRow (readKv lastMembershipKey s'.main.withKv) = _ :=
    RowReads.written h.membershipRow hmembership
  refine wouldLoad_iff.2 ⟨s', World.session_applied, ?_⟩
  unfold fieldsOf
  rw [hlog', hmembership']
  rfl

/-- **Apply is a fold that does not depend on batching.** Each entry gets one response, the
client's tables are those of running the statements in list order, the fields and the rows are the
last log id and the last membership, which is what `create_state_machine` would load, and every way
of cutting the entries into batches gives the same responses and leaves the same world. -/
theorem apply_folds (env : Env U) (store : RaftStore) (hf : w.faults = [])
    (hs : (w.conn store.data).session = some s) (hkv : s.main.kvStates.isSome)
    (hkeeps : EntriesKeepToTables env s es) (hsucceed : StatementsSucceed env s es) :
    ∃ s', RowsAfter (lastLogId? es) (lastMembership? es) s (execNormals env s es) s' ∧
      (store.applyToStateMachine env es).run.exec w =
        (.ok (es.map fun _ => ⟨⟩), w.applied store.data s' es) ∧
      (∀ log membership, (lastLogId? es = none → RowReads lastLogKey s log) →
        (lastMembership? es = none → RowReads lastMembershipKey s membership) →
        WouldLoad store.data (w.applied store.data s' es) ((lastLogId? es).or log)
          (((lastMembership? es).or membership).getD default)) ∧
      ∀ batches : List (List Entry), batches.flatten = es →
        (applyInBatches env store batches).run.exec w =
          (.ok (es.map fun _ => ⟨⟩), w.applied store.data s' es) := by
  have hrows := rowsAfter_turns hkv hkeeps
  have happly : (store.applyToStateMachine env es).run.exec w =
      (.ok (es.map fun _ => ⟨⟩), w.applied store.data (es.foldl (turn env) s) es) :=
    exec_applyEntries hf hs (turnsOk_of_succeed hkv hkeeps hsucceed) []
  refine ⟨_, hrows, happly, fun log membership => hrows.wouldLoad, ?_⟩
  rintro batches rfl
  rw [applyInBatches_eq]
  exact happly

end Call

/-! ## Entries of every kind -/

/-- Two statements, with a membership and a blank entry between and after them. -/
def mixedEntries : List Entry :=
  [notesEntry 1, ⟨logIdAt 2, .membership ⟨[[1]], []⟩⟩, usersEntry 3, ⟨logIdAt 4, .blank⟩]

/-- Its statements create tables. -/
theorem mixedEntries_statement {e : Entry} (he : e ∈ mixedEntries) {req : Request}
    (hreq : e.payload = .normal req) (s : Session (Database Catalog)) :
    RaftStore.clientStatement catalogEnv req s =
      ({ s with main := { s.main with user := catalogEffect req s.main.user } }, .ok ⟨[], 0⟩) := by
  simp only [mixedEntries, List.mem_cons, List.not_mem_nil, or_false] at he
  rcases he with rfl | rfl | rfl | rfl <;> cases hreq
  · simp [RaftStore.clientStatement, catalogEnv, Env.coded, catalogClient, catalogEffect]
  · simp [RaftStore.clientStatement, catalogEnv, Env.coded, catalogClient, catalogEffect]

theorem apply_folds_mixed : ∃ s', s'.main.user = ["users", "notes"] ∧
    (RaftStore.applyToStateMachine catalogEnv ⟨.logDb, .stateDb⟩ mixedEntries).run.exec catalogOpened =
      (.ok [⟨⟩, ⟨⟩, ⟨⟩, ⟨⟩], catalogOpened.applied .stateDb s' mixedEntries) ∧
    (catalogOpened.applied .stateDb s' mixedEntries).lastAppliedLog = some (logIdAt 4) ∧
    (catalogOpened.applied .stateDb s' mixedEntries).lastMembership = ⟨some (logIdAt 2), ⟨[[1]], []⟩⟩ ∧
    WouldLoad .stateDb (catalogOpened.applied .stateDb s' mixedEntries) (some (logIdAt 4))
      ⟨some (logIdAt 2), ⟨[[1]], []⟩⟩ ∧
    (applyInBatches catalogEnv ⟨.logDb, .stateDb⟩ [mixedEntries.take 3, [], mixedEntries.drop 3]).run.exec
      catalogOpened = (.ok [⟨⟩, ⟨⟩, ⟨⟩, ⟨⟩], catalogOpened.applied .stateDb s' mixedEntries) := by
  obtain ⟨d, t, hr, ht, hd⟩ := catalogOpened_shows.1.reads
  have hs : (catalogOpened.conn .stateDb).session = some ⟨d, none⟩ := hr
  have hkv : d.kvStates.isSome := by rw [ht]; rfl
  have hkeeps : EntriesKeepToTables catalogEnv ⟨d, none⟩ mixedEntries := by
    intro i e req he hreq
    have hstatement := mixedEntries_statement (List.mem_of_getElem? he) hreq
    refine ⟨fun s _ => ⟨catalogEffect req s.main.user, s.main.own, by rw [hstatement]⟩, fun s s' hs hs' => ?_⟩
    obtain ⟨huser, hrest⟩ := Prod.ext_iff.1 (hs'.trans hs.symm)
    rw [hstatement, hstatement]
    exact ⟨Prod.ext (congrArg (catalogEffect req) huser) hrest, Iff.rfl⟩
  have hsucceed : StatementsSucceed catalogEnv ⟨d, none⟩ mixedEntries := fun i e req he hreq =>
    ⟨0, by rw [mixedEntries_statement (List.mem_of_getElem? he) hreq]⟩
  obtain ⟨s', hrows, happly, hreload, hbatches⟩ :=
    apply_folds catalogEnv ⟨.logDb, .stateDb⟩ rfl hs hkv hkeeps hsucceed
  have hload := hreload none none (fun hnone => by cases hnone) (fun hnone => by cases hnone)
  refine ⟨s', ?_, happly, rfl, rfl, hload, hbatches _ rfl⟩
  have htables : d.user = [] := hd.tables
  refine (congrArg Prod.fst hrows.tables).trans ?_
  simp [Database.clientPart, execNormals, mixedEntries, execNormal, notesEntry, usersEntry,
    RaftStore.clientStatement, catalogEnv, Env.coded, catalogClient, runCatalog, createNotes, createUsers, htables]

/-! ## A statement that reads a counter, and a setting -/

def createItems : String := "CREATE TABLE items (id)"
def insertItem : String := "INSERT INTO items VALUES (last_insert_rowid())"
def queryOnly : String := "PRAGMA query_only = 1"

def readOnlyDatabase : SqlError := .sqliteFailure .readOnly (some "attempt to write a readonly database")

/-- What `query_only` makes of the writes of the store. -/
def queryOnlyHindrances : List Hindrance :=
  [snapshotMetaKey, lastMembershipKey, lastLogKey, voteKey, snapshotIndexKey, lastPurgedIdKey, raftLogsTableName].map
    fun key => ⟨key, some readOnlyDatabase, false⟩

/-- A client with one table, whose rows say which row was inserted before them. -/
def runItems (sql : String) (items : Option (List Int)) (own : Own) (hindrances : List Hindrance) :
    Option (List Int) × Own × List Hindrance × Except Failure Output :=
  if sql = queryOnly then
    (items, { own with objects := [("query_only", .integer 1)] }, queryOnlyHindrances, .ok ⟨[], 0⟩)
  else if own.objects ≠ [] then (items, own, hindrances, .error ⟨[], readOnlyDatabase⟩)
  else
    match items with
    | none =>
      if sql = createItems then (some [], own, hindrances, .ok ⟨[], 0⟩)
      else (none, own, hindrances, .error ⟨[], noSuchTable "items"⟩)
    | some rows =>
      if sql = insertItem then
        (some (rows ++ [own.lastInsertRowid]), own.wrote 1 (some (rows.length + 1)), hindrances, .ok ⟨[], 1⟩)
      else (some rows, own, hindrances, .error ⟨[], syntaxError⟩)

def itemsClient (sql : String) (_ : List Value) : Prepared (Database (Option (List Int))) := fun s =>
  match runItems sql s.main.user s.main.own s.main.hindrances with
  | (user, own, hindrances, result) => ({ s with main := { s.main with user, own, hindrances } }, result)

def itemsEnv : Env (Option (List Int)) := .coded none (fun items => items.toList.map fun _ => "items") itemsClient

theorem itemsClient_namesNoRows (req : Request) : NamesNoRows (RaftStore.clientStatement itemsEnv req) := by
  obtain ⟨sql, params⟩ := req
  exact ⟨runItems sql, fun _ => rfl⟩

/-- The table is created, a membership takes effect, and a row is inserted. -/
def itemEntries : List Entry :=
  [⟨logIdAt 1, .normal (.execute createItems [])⟩, ⟨logIdAt 2, .membership ⟨[[1]], []⟩⟩,
    ⟨logIdAt 3, .normal (.execute insertItem [])⟩]

def queryOnlyEntries : List Entry := [⟨logIdAt 1, .normal (.execute queryOnly [])⟩, ⟨logIdAt 2, .blank⟩]

/-- The statements name no table of the store and succeed when run alone, but the row that is
inserted by the loop holds the rowid of the membership's; and after the setting the loop does not
get to the second entry. -/
theorem apply_shows_own_writes : ∃ (w : World (Option (List Int))) (s s' : Session (Database (Option (List Int)))),
    (RaftStore.openStore itemsEnv (some .file)).run.exec World.fresh = (.ok ⟨.logDb, .stateDb⟩, w) ∧
    (w.conn .stateDb).session = some s ∧
    (∀ e ∈ itemEntries ++ queryOnlyEntries, ∀ req, e.payload = .normal req →
      NamesNoRows (RaftStore.clientStatement itemsEnv req)) ∧
    (StatementsSucceed itemsEnv s itemEntries ∧
      (RaftStore.applyToStateMachine itemsEnv ⟨.logDb, .stateDb⟩ itemEntries).run.exec w =
        (.ok [⟨⟩, ⟨⟩, ⟨⟩], w.applied .stateDb s' itemEntries) ∧
      s'.main.user = some [2] ∧ (execNormals itemsEnv s itemEntries).main.user = some [0]) ∧
    (StatementsSucceed itemsEnv s queryOnlyEntries ∧
      ∃ e, ((RaftStore.applyToStateMachine itemsEnv ⟨.logDb, .stateDb⟩ queryOnlyEntries).run.exec w).1 = .error e) := by
  let d : Database (Option (List Int)) := (Database.empty itemsEnv).withKv
  have hopen : (RaftStore.openStore itemsEnv (some .file)).run.exec World.fresh = (.ok ⟨.logDb, .stateDb⟩, _) :=
    openStore_exec rfl (finds_fresh itemsEnv (fun _ items => items) (some .file)).2
  have hwritable : ∀ key, d.Writable key := fun key => ⟨rfl, rfl⟩
  have hturns : TurnsOk itemsEnv ⟨d, none⟩ itemEntries := by
    refine (turnsOk_cons ..).2 ⟨⟨hwritable _, ?_, nofun⟩, (turnsOk_cons ..).2 ⟨⟨?_, nofun, ?_⟩,
      turnsOk_singleton.2 ⟨?_, ?_, nofun⟩⟩⟩
    · rintro req ⟨⟩
      exact ⟨0, rfl⟩
    · exact (hwritable _).putKv ..
    · exact fun _ _ => ((hwritable _).putKv ..).putKv ..
    · exact (((hwritable _).putKv ..).putKv ..).putKv ..
    · rintro req ⟨⟩
      exact ⟨1, rfl⟩
  have hitems : StatementsSucceed itemsEnv ⟨d, none⟩ itemEntries := by
    rintro (_ | _ | _ | i) e req ⟨⟩ ⟨⟩
    · exact ⟨0, rfl⟩
    · exact ⟨1, rfl⟩
  have hsetting : StatementsSucceed itemsEnv ⟨d, none⟩ queryOnlyEntries := by
    rintro (_ | _ | i) e req ⟨⟩ ⟨⟩
    exact ⟨0, rfl⟩
  -- Of the second entry the marker meets the setting.
  have hrefused : ¬TurnsOk itemsEnv ⟨d, none⟩ queryOnlyEntries := fun hok =>
    absurd ((turnsOk_cons ..).1 hok).2 fun hblank =>
      nomatch (turnsOk_singleton.1 hblank).1.2.symm.trans (by decide +kernel : _ = some readOnlyDatabase)
  have hfails : ∀ w : World (Option (List Int)), w.faults = [] → (w.conn .stateDb).session = some ⟨d, none⟩ →
      ∃ e, ((RaftStore.applyToStateMachine itemsEnv ⟨.logDb, .stateDb⟩ queryOnlyEntries).run.exec w).1 =
        .error e := by
    intro w hf hs
    rcases passes_applyEntries itemsEnv ⟨.logDb, .stateDb⟩ queryOnlyEntries [] w hf hs with
      ⟨hok, -⟩ | ⟨-, e, w', hexec⟩
    · exact absurd hok hrefused
    · exact ⟨e, congrArg Prod.fst hexec⟩
  exact ⟨_, ⟨d, none⟩, itemEntries.foldl (turn itemsEnv) ⟨d, none⟩, hopen, rfl,
    fun _ _ req _ => itemsClient_namesNoRows req,
    ⟨hitems, exec_applyEntries rfl rfl hturns [], by decide +kernel, rfl⟩, hsetting, hfails _ rfl rfl⟩

end Replicat
