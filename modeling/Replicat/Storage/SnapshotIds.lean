import Replicat.Storage.Bookkeeping
import Replicat.Storage.MemState

/-!
# Snapshot ids

`get_and_inc_snapshot_index` increments the counter with one task, and creates it with a second
one when there is none. Calls of `build_snapshot` and `apply_to_state_machine` interleave task
by task on a store with a separate state store, which is closed and opened again at any time.
`snapshot_ids_unique`: no two builds get the same index or the same id, and which builds fail on
a storage that does not.
-/

namespace Replicat

open Sqlite Atomics Atomics.Prog

variable {U B A : Type}

/-! ## The counter -/

/-- A value the counter can have: once it has left 64 bits it is a float. -/
def CounterValue : Option Value → Prop
  | none => True
  | some (.integer n) => 0 ≤ n ∧ n < 2 ^ 63
  | some (.real _) => True
  | some _ => False

/-- All indices given out are below this. -/
def counted : Option Value → Nat
  | none => 0
  | some (.integer n) => n.toNat + 1
  | some _ => 2 ^ 63

theorem counterValue_plusOne {v : Value} (h : CounterValue (some v)) :
    CounterValue (some v.plusOne) ∧ counted (some v) ≤ counted (some v.plusOne) := by
  cases v with
  | integer n =>
    obtain ⟨h0, hlt⟩ := h
    rw [Value.plusOne_integer]
    split
    · refine ⟨⟨by omega, by assumption⟩, ?_⟩
      simp only [counted]
      omega
    · refine ⟨trivial, ?_⟩
      simp only [counted]
      omega
  | real r => exact ⟨trivial, Nat.le_refl _⟩
  | _ => exact absurd h id

theorem toNat_ofInt {n : Int} (h0 : 0 ≤ n) (hlt : n < 2 ^ 64) : (UInt64.ofInt n).toNat = n.toNat := by
  have hsize : n.toNat < UInt64.size := by
    have : UInt64.size = 2 ^ 64 := rfl
    omega
  unfold UInt64.ofInt
  rw [Int.emod_eq_of_lt h0 hlt, UInt64.toNat_ofNat_of_lt' hsize]

/-- **The index an increment gives out** is the next one. -/
theorem plusOne_counted {v : Value} {n : Int} (h : CounterValue (some v)) (hn : v.plusOne = .integer n) :
    (UInt64.ofInt n).toNat = counted (some v) ∧ counted (some v.plusOne) = counted (some v) + 1 := by
  cases v with
  | integer m =>
    obtain ⟨h0, hlt⟩ := h
    rw [Value.plusOne_integer] at hn ⊢
    split at hn
    · cases hn
      rw [if_pos (by assumption)]
      rw [toNat_ofInt (by omega) (by omega)]
      simp only [counted]
      omega
    · cases hn
  | real r => cases hn
  | _ => exact absurd h id

/-! ## The node -/

/-- A store with a separate state store. -/
abbrev splitStore : RaftStore := ⟨.logDb, .stateDb⟩

/-- The counter on the log database. -/
abbrev counterRow (w : World U) : Option Value := indexRow splitStore w

/-- The log database is on disk and outside a transaction, with nothing in the way of its writes,
and its counter is one. -/
structure CounterSound (w : World U) : Prop where
  disk : w.logDb.backing = .disk
  closed : ∀ s, w.logDb.session = some s → s.saved = none ∧ s.main.hindrances = []
  value : CounterValue (counterRow w)

/-- The store is open. -/
structure Serving (w : World U) : Prop where
  log : ∃ s, w.logDb.session = some s ∧ s.main.kvStates.isSome
  data : w.stateDb.session.isSome

/-- The log database is not touched, and the state database is not lost. -/
structure BesideLog (w w' : World U) : Prop where
  log : w'.logDb = w.logDb
  data : w.stateDb.session.isSome → w'.stateDb.session.isSome

instance : Std.Refl (BesideLog (U := U)) := ⟨fun _ => ⟨rfl, id⟩⟩

instance : IsTrans (World U) BesideLog := ⟨fun _ _ _ h h' => ⟨h'.log.trans h.log, h'.data ∘ h.data⟩⟩

/-- What every action of a call keeps, and the counter does not go back. -/
def Counts (w w' : World U) : Prop :=
  CounterSound w → Serving w → CounterSound w' ∧ Serving w' ∧ counted (counterRow w) ≤ counted (counterRow w')

instance : Std.Refl (Counts (U := U)) := ⟨fun _ h h' => ⟨h, h', Nat.le_refl _⟩⟩

instance : IsTrans (World U) Counts := ⟨fun _ _ _ h h' hs hw => by
  obtain ⟨hs', hw', hle⟩ := h hs hw
  obtain ⟨hs'', hw'', hle'⟩ := h' hs' hw'
  exact ⟨hs'', hw'', Nat.le_trans hle hle'⟩⟩

theorem BesideLog.row {w w' : World U} (h : BesideLog w w') : counterRow w' = counterRow w := by
  show (w'.logDb.session.bind _) = w.logDb.session.bind _
  rw [h.log]

theorem BesideLog.sound {w w' : World U} (h : BesideLog w w') (hw : CounterSound w) : CounterSound w' :=
  ⟨h.log ▸ hw.disk, h.log ▸ hw.closed, h.row ▸ hw.value⟩

theorem BesideLog.counts {w w' : World U} (h : BesideLog w w') : Counts w w' := fun hw hserving =>
  ⟨h.sound hw, ⟨h.log ▸ hserving.log, h.data hserving.data⟩, by rw [h.row]⟩

theorem SameConns.besideLog {w w' : World U} (h : SameConns w w') : BesideLog w w' := by
  refine ⟨h .logDb, fun hdata => ?_⟩
  rw [show w'.stateDb = w.stateDb from h .stateDb]
  exact hdata

theorem sameConns_nextFault (w : World U) : SameConns w w.nextFault.2 := World.conn_nextFault w

/-- A task on the state database that does not lose the connection. -/
theorem besideLog_stateTask {α : Type}
    {task : Connection (Database U) → Connection (Database U) × Except SqlError α}
    (htask : ∀ c s, c.session = some s → (task c).1.session.isSome) :
    (StorageHandle.stateDb.submitTask task).run.Within BesideLog := by
  refine StorageHandle.within_submitTask (fun w => (sameConns_nextFault w).besideLog) fun w =>
    ⟨World.conn_nextFault w .logDb, fun hdata => ?_⟩
  obtain ⟨s, hs⟩ := Option.isSome_iff_exists.1 hdata
  exact htask w.stateDb s hs

theorem besideLog_execute (stmt : Prepared (Database U)) :
    (StorageHandle.stateDb.execute stmt).run.Within BesideLog :=
  besideLog_stateTask fun c s hs => by
    rw [Connection.execute, Connection.step_some hs]
    rfl

theorem besideLog_fetchOne {α : Type} (stmt : Prepared (Database U)) (fromRow : Row → Except SqlError α) :
    (StorageHandle.stateDb.fetchOne stmt fromRow).run.Within BesideLog :=
  besideLog_stateTask fun c s hs => by
    rw [Connection.queryRow, Connection.step_some hs]
    rfl

theorem counts_nextFault (w : World U) : Counts w w.nextFault.2 := (sameConns_nextFault w).besideLog.counts

/-- A statement on the log database that keeps a counter there. -/
theorem counts_logStmt {f : Stmt U} (hf : ∀ d d' out, f d = .ok (d', out) → d.kvStates.isSome →
      CounterValue (d.kv snapshotIndexKey) → d'.kvStates.isSome ∧ CounterValue (d'.kv snapshotIndexKey) ∧
        counted (d.kv snapshotIndexKey) ≤ counted (d'.kv snapshotIndexKey)) (w : World U) :
    Counts w (w.nextFault.2.setConn .logDb (w.logDb.step (.onMain f)).1) := by
  rcases Connection.step_onMain_cases w.logDb f with ⟨s, d, out, hs, hfd, hstep⟩ | ⟨e, hstep⟩
  · intro hsound hserving
    have hrow : counterRow w = s.main.kv snapshotIndexKey := by simp [counterRow, indexRow, World.conn, hs]
    obtain ⟨s', hs', hkv⟩ := hserving.log
    cases hs.symm.trans hs'
    have hvalue := hsound.value
    rw [hrow] at hvalue
    obtain ⟨hkv', hvalue', hle⟩ := hf _ _ _ hfd hkv hvalue
    rw [hstep]
    have hrow' : counterRow (w.nextFault.2.setConn .logDb { w.logDb with session := some { s with main := d } }) =
        d.kv snapshotIndexKey := by simp [counterRow, indexRow, World.conn_setConn_self]
    refine ⟨⟨hsound.disk, ?_, hrow' ▸ hvalue'⟩, ⟨⟨_, rfl, hkv'⟩, ?_⟩, ?_⟩
    · rintro _ ⟨⟩
      obtain ⟨t, ht⟩ := Option.isSome_iff_exists.1 hkv'
      exact ⟨(hsound.closed s hs).1, (Database.kvStates_eq_some.1 ht).1⟩
    · show w.nextFault.2.stateDb.session.isSome
      rw [show w.nextFault.2.stateDb = w.stateDb from World.conn_nextFault w .stateDb]
      exact hserving.data
    · rw [hrow, hrow']
      exact hle
  · rw [hstep]
    have hsame : w.nextFault.2.setConn .logDb w.logDb = w.nextFault.2 := by
      rw [show w.logDb = w.nextFault.2.conn .logDb from (World.conn_nextFault w .logDb).symm, World.setConn_conn]
    rw [hsame]
    exact counts_nextFault w

theorem counts_incSnapshotIndex : (StorageHandle.logDb.fetchOne (.onMain incSnapshotIndex) fromRowInt).run.Within
    (Counts (U := U)) := by
  refine StorageHandle.within_submitTask counts_nextFault (counts_logStmt fun d d' out hinc hkv hvalue => ?_)
  obtain ⟨t, ht⟩ := Option.isSome_iff_exists.1 hkv
  cases hk : d.kv snapshotIndexKey with
  | none =>
    rw [incSnapshotIndex_absent (Database.writable_of_some ht _) hk] at hinc
    cases hinc
    exact ⟨hkv, hvalue, Nat.le_of_eq (congrArg counted hk.symm)⟩
  | some v =>
    rw [incSnapshotIndex_present (Database.writable_of_some ht _) hk] at hinc
    cases hinc
    rw [hk] at hvalue
    rw [Database.kv_putKv_self ht]
    exact ⟨Database.isSome_putKv ht .., counterValue_plusOne hvalue⟩

/-- The row is there already: the key is unique. -/
theorem insertSnapshotIndex_present {d : Database U} {t : KvTable} {v : Value} (ht : d.kvStates = some t)
    (hk : d.kv snapshotIndexKey = some v) : insertSnapshotIndex d =
      .error (.sqliteFailure .constraint (some "UNIQUE constraint failed: replicat_kv_states.key")) := by
  obtain ⟨htable, hfree⟩ := Database.writable_of_some ht snapshotIndexKey
  obtain ⟨-, ht⟩ := Database.kvStates_eq_some.1 ht
  rw [Database.kv, ht] at hk
  rw [insertSnapshotIndex, onKv_eq ht hfree, if_pos (by rw [show t.lookup snapshotIndexKey = some v from hk]; rfl)]
  rfl

theorem counts_insertSnapshotIndex : (StorageHandle.logDb.execute (.onMain insertSnapshotIndex)).run.Within
    (Counts (U := U)) := by
  refine StorageHandle.within_submitTask counts_nextFault (counts_logStmt fun d d' out hins hkv hvalue => ?_)
  obtain ⟨t, ht⟩ := Option.isSome_iff_exists.1 hkv
  cases hk : d.kv snapshotIndexKey with
  | none =>
    rw [insertSnapshotIndex_absent (Database.writable_of_some ht _) hk] at hins
    cases hins
    rw [Database.kv_putKv_self ht]
    exact ⟨Database.isSome_putKv ht .., ⟨Int.le_refl 0, by decide⟩, Nat.zero_le _⟩
  | some v =>
    rw [insertSnapshotIndex_present ht hk] at hins
    cases hins

theorem applyEntries_besideLog [Serde LogId] [Serde EffectiveMembership] {env : Env U} (entries : List Entry)
    (res : List Response) : (splitStore.applyEntries env entries res).run.Within BesideLog :=
  applyEntries_within entries res (fun _ _ _ => besideLog_execute _) (fun _ _ => ⟨rfl, id⟩)
    (fun _ _ => ⟨rfl, id⟩) fun _ _ _ _ => besideLog_execute _

/-! ## A build -/

section Build

variable [Serde SnapshotMeta] {env : Env U}

/-- What a build does once it has its index. -/
def writeOut (env : Env U) (metadata : SnapshotMeta) : StorageResult U Snapshot := do
  let snapshot ← mapErr createSnapshotErr (createSnapshot env .stateDb metadata)
  pure ⟨metadata, snapshot⟩

/-- What it does once it has read the fields. -/
def countAndWrite (env : Env U) (last : Option LogId) (membership : EffectiveMembership) :
    StorageResult U Snapshot := do
  let index ← splitStore.getAndIncSnapshotIndex
  writeOut env ⟨last, membership, RaftStore.snapshotId env last index⟩

theorem buildSnapshot_run_eq (env : Env U) : (splitStore.buildSnapshot env).run =
    .act (fun w => w) fun w => .act (fun w => w) fun w' =>
      (countAndWrite env w.lastAppliedLog w'.lastMembership).run := rfl

theorem writeOut_besideLog (metadata : SnapshotMeta) : (writeOut env metadata).run.Within BesideLog := by
  have hfile : ∀ f, (fileTask f : StoreM U AnyError Unit).run.Within BesideLog := fun f =>
    (fileTask_sameConns f).mono fun _ _ => SameConns.besideLog
  unfold writeOut createSnapshot writeSnapshotMeta
  refine Within.run_bind (Within.run_mapErr ?_) fun _ => within_run_pure _
  refine Within.run_bind ?_ fun _ => (within_serialize_of (fun w => (sameConns_nextFault w).besideLog) env
    .stateDb).run_mapErr.run_bind fun image => ?_
  · exact (within_run_liftResult _).run_bind fun _ => (besideLog_execute _).run_mapErr.run_bind fun _ =>
      within_run_pure _
  · cases image with
    | none => exact within_run_pure _
    | some image => exact within_writeImage hfile image

/-- **No action of a build takes the counter back.** -/
theorem buildSnapshot_counts : (splitStore.buildSnapshot env).run.Within Counts := by
  rw [buildSnapshot_run_eq]
  refine .act (refl_of Counts) fun w => .act (refl_of Counts) fun w' => ?_
  unfold countAndWrite RaftStore.getAndIncSnapshotIndex
  refine Within.run_bind ?_ fun _ => (writeOut_besideLog _).mono fun _ _ => BesideLog.counts
  refine counts_incSnapshotIndex.run_mapErr.run_bind fun found => ?_
  cases found with
  | none => exact counts_insertSnapshotIndex.run_mapErr.run_bind fun _ => within_run_pure _
  | some v => exact within_run_pure _

end Build

/-! ## Its index -/

/-- What follows a task: nothing, when the task failed. -/
def orFail {ε α β : Type} (f : SqlError → ε) (k : α → Prog (World U) (Except ε β)) :
    Except SqlError α → Prog (World U) (Except ε β)
  | .ok a => k a
  | .error e => .ret (.error (f e))

theorem run_task_bind {ε α β : Type} {f : AnyError → ε} {h : StorageHandle}
    {run : Connection (Database U) → Connection (Database U) × Except SqlError α}
    (k : α → StoreM U ε β) : (task f (h.submitTask run) >>= k).run =
      .act (fun w => ((h.submitTask run).run.exec w).2) fun w =>
        orFail (fun e => f (.sql e)) (fun a => (k a).run) ((h.submitTask run).run.exec w).1 := by
  refine congrArg (Prog.act _) (funext fun w => ?_)
  show (Prog.ret (((h.submitTask run).run.exec w).1.mapError _) >>= fun r => _) = _
  cases ((h.submitTask run).run.exec w).1 <;> rfl

/-- Its first task finds the counter, or that there is none. -/
def incTask : StoreM U SqlError (Option Int) := StorageHandle.logDb.fetchOne (.onMain incSnapshotIndex) fromRowInt

/-- Its second task creates the counter. -/
def insertTask : StoreM U SqlError Nat := StorageHandle.logDb.execute (.onMain insertSnapshotIndex)

section Index

variable {α : Type} {w : World U} {ms : List (World U)}

/-- The call with the states it met from its first task on: which index it has. -/
def TakesIndex (ms : List (World U)) (index : UInt64) : Prop :=
  splitStore.getAndIncSnapshotIndex.run.feed ms = .ret (.ok index)

/-- After the first task. -/
theorem feed_count (k : UInt64 → StorageResult U α) (w : World U) (ms : List (World U)) :
    (splitStore.getAndIncSnapshotIndex >>= k).run.feed (w :: ms) =
      (orFail (fun e => storeReadError (.sql e)) (fun found : Option Int => found.elim
        ((task storeReadError insertTask : StorageResult U Nat) >>= fun _ => k 0).run
        fun v => (k (UInt64.ofInt v)).run) (incTask.run.exec w).1).feed ms := by
  unfold RaftStore.getAndIncSnapshotIndex incTask StorageHandle.fetchOne
  rw [LawfulMonad.bind_assoc, run_task_bind, feed_act]
  congr 1
  cases ((StorageHandle.logDb.submitTask _).run.exec w).1 with
  | error e => rfl
  | ok found =>
    cases found with
    | none => exact congrArg ExceptT.run (LawfulMonad.bind_assoc ..)
    | some v => rfl

/-- After the second. -/
theorem feed_insert {k : StorageResult U α} :
    ((task storeReadError insertTask : StorageResult U Nat) >>= fun _ => k).run.feed (w :: ms) =
      (orFail (fun e => storeReadError (.sql e)) (fun _ : Nat => k.run) (insertTask.run.exec w).1).feed ms := by
  unfold insertTask StorageHandle.execute
  rw [run_task_bind, feed_act]

theorem counterRow_session {s : Session (Database U)} (hs : w.logDb.session = some s) :
    counterRow w = s.main.kv snapshotIndexKey := by
  show w.logDb.session.bind _ = _
  rw [hs]
  rfl

theorem counterRow_setSession (s : Session (Database U)) :
    counterRow (w.setSession .logDb s) = s.main.kv snapshotIndexKey :=
  counterRow_session (World.session_setSession_self (h := .logDb))

/-- **What the first task finds** on a store that is open. -/
theorem incTask_spec (hserving : Serving w) :
    (w.nextFault.1 = true ∧ ∃ e, (incTask.run.exec w).1 = .error e) ∨
    (w.nextFault.1 = false ∧ counterRow w = none ∧ (incTask.run.exec w).1 = .ok none) ∨
    ∃ v, w.nextFault.1 = false ∧ counterRow w = some v ∧
      (incTask.run.exec w).1 = Connection.firstRow fromRowInt [[v.plusOne]] ∧
      counterRow (incTask.run.exec w).2 = some v.plusOne := by
  obtain ⟨s, hs, hkv⟩ := hserving.log
  obtain ⟨t, ht⟩ := Option.isSome_iff_exists.1 hkv
  rw [counterRow_session hs]
  unfold incTask
  have hconn : (w.conn .logDb).session = some s := hs
  cases hk : s.main.kv snapshotIndexKey with
  | none =>
    rcases exec_fetchOne_session hconn (incSnapshotIndex_absent (Database.writable_of_some ht _) hk) fromRowInt with
      ⟨hfault, e, hexec⟩ | ⟨hfault, hexec⟩
    · exact .inl ⟨hfault, e, by rw [hexec]⟩
    · exact .inr (.inl ⟨hfault, rfl, by rw [hexec]; rfl⟩)
  | some v =>
    rcases exec_fetchOne_session hconn (incSnapshotIndex_present (Database.writable_of_some ht _) hk) fromRowInt with
      ⟨hfault, e, hexec⟩ | ⟨hfault, hexec⟩
    · exact .inl ⟨hfault, e, by rw [hexec]⟩
    · refine .inr (.inr ⟨v, hfault, rfl, by rw [hexec], ?_⟩)
      rw [hexec, counterRow_setSession, Database.kv_putKv_self ht]

/-- **What the second task finds**. -/
theorem insertTask_spec (hserving : Serving w) :
    (w.nextFault.1 = true ∧ ∃ e, (insertTask.run.exec w).1 = .error e) ∨
    (w.nextFault.1 = false ∧ counterRow w ≠ none ∧ ∃ e, (insertTask.run.exec w).1 = .error e) ∨
    (w.nextFault.1 = false ∧ counterRow w = none ∧ (∃ n, (insertTask.run.exec w).1 = .ok n) ∧
      counterRow (insertTask.run.exec w).2 = some (.integer 0)) := by
  obtain ⟨s, hs, hkv⟩ := hserving.log
  obtain ⟨t, ht⟩ := Option.isSome_iff_exists.1 hkv
  rw [counterRow_session hs]
  unfold insertTask
  have hconn : (w.conn .logDb).session = some s := hs
  rcases exec_execute_session hconn (.onMain insertSnapshotIndex) with ⟨hfault, e, hexec⟩ | ⟨hfault, r, hexec, hok⟩
  · exact .inl ⟨hfault, e, by rw [hexec]⟩
  · cases hk : s.main.kv snapshotIndexKey with
    | none =>
      have hstmt : Prepared.onMain insertSnapshotIndex s =
          ({ s with main := s.main.putKv snapshotIndexKey (.integer 0) }, .ok ⟨[], 1⟩) := by
        simp only [Prepared.onMain, insertSnapshotIndex_absent (Database.writable_of_some ht _) hk]
      rw [hstmt] at hexec hok
      obtain ⟨n, rfl⟩ := hok.2 ⟨1, rfl⟩
      refine .inr (.inr ⟨hfault, rfl, ⟨n, by rw [hexec]⟩, ?_⟩)
      rw [hexec, counterRow_setSession, Database.kv_putKv_self ht]
    | some v =>
      have hstmt : Prepared.onMain insertSnapshotIndex s = (s, .error ⟨[], .sqliteFailure .constraint
          (some "UNIQUE constraint failed: replicat_kv_states.key")⟩) := by
        simp only [Prepared.onMain, insertSnapshotIndex_present ht hk]
      rw [hstmt] at hexec hok
      rcases r with e | n
      · exact .inr (.inl ⟨hfault, Option.some_ne_none v, e, by rw [hexec]⟩)
      · obtain ⟨m, hm⟩ := hok.1 ⟨n, rfl⟩
        cases hm

/-- **An index is taken** by the action that moves the counter over it. -/
theorem takesIndex_last {index : UInt64} (hsound : CounterSound w) (hserving : Serving w)
    (htakes : TakesIndex (ms ++ [w]) index) :
    TakesIndex ms index ∨ ∃ u n, splitStore.getAndIncSnapshotIndex.run.feed ms = .act u n ∧
      counted (counterRow w) ≤ index.toNat ∧ index.toNat < counted (counterRow (u w)) := by
  have hcount := feed_count (U := U) (α := UInt64) pure
  rw [bind_pure] at hcount
  unfold TakesIndex at *
  rcases ms with _ | ⟨w₀, _ | ⟨w₁, ms⟩⟩
  · -- the first task
    rw [List.nil_append, hcount] at htakes
    rcases incTask_spec hserving with ⟨-, e, hinc⟩ | ⟨-, -, hinc⟩ | ⟨v, -, hrow, hinc, hrow'⟩
    all_goals rw [hinc] at htakes
    · cases htakes
    · cases htakes
    · rcases hv : v.plusOne with _ | n | _ | _ | _
      all_goals rw [hv] at htakes; cases htakes
      have hvalue := hsound.value
      rw [hrow] at hvalue
      obtain ⟨hindex, hnext⟩ := plusOne_counted hvalue hv
      refine .inr ⟨_, _, rfl, ?_⟩
      show _ ∧ _ < counted (counterRow (incTask.run.exec w).2)
      rw [hrow, hrow', hindex, hnext]
      exact ⟨Nat.le_refl _, Nat.lt_succ_self _⟩
  · -- the second
    rw [List.singleton_append, hcount] at htakes
    rw [hcount]
    rcases hinc : (incTask.run.exec w₀).1 with e | _ | v
    all_goals rw [hinc] at htakes
    · cases htakes
    · change ((task storeReadError insertTask : StorageResult U Nat) >>= fun _ => pure 0).run.feed [w] = _ at htakes
      rw [feed_insert] at htakes
      rcases insertTask_spec hserving with ⟨-, e, hins⟩ | ⟨-, -, e, hins⟩ | ⟨-, hrow, ⟨n, hins⟩, hrow'⟩
      all_goals rw [hins] at htakes; cases htakes
      refine .inr ⟨_, _, rfl, ?_⟩
      show _ ∧ _ < counted (counterRow (insertTask.run.exec w).2)
      rw [hrow, hrow']
      exact ⟨Nat.le_refl _, Nat.zero_lt_one⟩
    · exact .inl htakes
  · -- the call has returned
    rw [List.cons_append, hcount] at htakes
    rw [hcount]
    refine .inl ?_
    rcases hinc : (incTask.run.exec w₀).1 with e | _ | v
    all_goals rw [hinc] at htakes
    · cases htakes
    · change ((task storeReadError insertTask : StorageResult U Nat) >>= fun _ => pure 0).run.feed _ = _ at htakes ⊢
      rw [List.cons_append, feed_insert] at htakes
      rw [feed_insert]
      cases hins : (insertTask.run.exec w₁).1 <;> rw [hins] at htakes <;> cases htakes
      exact feed_ret ..
    · cases htakes
      rfl

end Index

/-! ## When a build fails -/

/-- The storage does not fail the next task, and the state database is open. -/
def DataServing (w : World U) : Prop := w.nextFault.1 = false ∧ w.stateDb.session.isSome

theorem returns_stateTask {α : Type} {Q : α → Prop}
    {task : Connection (Database U) → Connection (Database U) × Except SqlError α}
    (htask : ∀ c s, c.session = some s → OkAnd Q (task c).2) :
    (StorageHandle.stateDb.submitTask task).run.Returns DataServing (OkAnd Q) := by
  refine returns_atomic fun w hw => ?_
  rw [if_neg (by rw [hw.1]; exact Bool.false_ne_true)]
  obtain ⟨s, hs⟩ := Option.isSome_iff_exists.1 hw.2
  exact htask _ s hs

theorem returns_fileTask {α : Type} {f : Option Bytes → Except IoError α × Option Bytes}
    (hf : ∀ file, ∃ a, (f file).1 = .ok a) :
    (fileTask f : StoreM U AnyError α).run.Returns DataServing (OkAnd fun _ => True) := by
  refine returns_atomic fun w hw => ?_
  rw [if_neg (by rw [hw.1]; exact Bool.false_ne_true)]
  obtain ⟨a, ha⟩ := hf w.snapshotFile
  exact ⟨a, by rw [ha]; rfl, trivial⟩

theorem returns_writeAll (pos : Nat) (data : Bytes) :
    (writeAll pos data : StoreM U AnyError Unit).run.Returns DataServing (OkAnd fun _ => True) := by
  induction data generalizing pos with
  | nil => exact returns_run_pure trivial
  | cons byte data ih => exact (returns_fileTask fun _ => ⟨_, rfl⟩).run_bind fun _ _ => ih (pos + 1)

theorem returns_serialize (env : Env U) :
    (StorageHandle.stateDb.serialize env).run.Returns DataServing (OkAnd fun _ => True) := by
  have hname : (StorageHandle.stateDb.fetchOne (.onMain (selectSqliteMaster env)) fromRowText).run.Returns
      DataServing (OkAnd fun _ => True) := returns_stateTask fun c s hs => by
    have hread : selectSqliteMaster env s.main = .ok (s.main, _) := rfl
    simp only [Connection.queryRow, Connection.step_onMain hs hread, Connection.firstOf]
    cases ((s.main.kvTable.toList.map fun _ => kvTableName) ++
      (s.main.logTable.toList.map fun _ => raftLogsTableName) ++ env.schemaNames s.main.user) with
    | nil => exact ⟨none, rfl, trivial⟩
    | cons name names => exact ⟨some name, rfl, trivial⟩
  have himage : (StorageHandle.stateDb.submitTask (StorageHandle.serializeDb env)).run.Returns DataServing
      (OkAnd fun _ => True) := returns_stateTask fun c s hs => by
    unfold StorageHandle.serializeDb
    rw [hs]
    exact ⟨_, rfl, trivial⟩
  unfold StorageHandle.serialize
  refine hname.run_bind fun name _ => ?_
  cases name with
  | none => exact returns_run_pure trivial
  | some name => exact himage.run_bind fun _ _ => returns_run_pure trivial

section Fails

variable [Serde SnapshotMeta] {env : Env U}

/-- The snapshot of an image, or the error of a build. -/
def snapshotOf (metadata : SnapshotMeta) (r : Except AnyError Bytes) : Except StorageError Snapshot :=
  (r.mapError createSnapshotErr).map (⟨metadata, ·⟩)

theorem writeOut_run (metadata : SnapshotMeta) : (writeOut env metadata).run =
    (createSnapshot env .stateDb metadata).run >>= fun r => .ret (snapshotOf metadata r) := by
  show ((createSnapshot env .stateDb metadata).run >>= fun r => .ret (r.mapError createSnapshotErr)) >>= _ = _
  rw [Prog.bind_assoc]
  congr 1
  funext r
  cases r <;> rfl

/-- The metadata row is the first thing written; what follows does not fail by itself. -/
theorem createSnapshot_run (env : Env U) (metadata : SnapshotMeta) :
    ∃ k : Nat → Prog (World U) (Except AnyError Bytes),
      (∀ n, (k n).Returns DataServing (OkAnd fun _ => True)) ∧
      (createSnapshot env .stateDb metadata).run =
        .act (fun w => ((StorageHandle.stateDb.execute (.onMain (replicatKvUpsert snapshotMetaKey
          (.blob (encoded metadata))))).run.exec w).2) fun w => orFail (fun e => .sql e) k
            ((StorageHandle.stateDb.execute (.onMain (replicatKvUpsert snapshotMetaKey
              (.blob (encoded metadata))))).run.exec w).1 := by
  unfold createSnapshot writeSnapshotMeta
  rw [encode_eq, pure_bind, LawfulMonad.bind_assoc]
  refine ⟨_, fun _ => ?_, run_task_bind _⟩
  refine (returns_run_pure (Q := fun _ => True) trivial).run_bind fun _ _ =>
    (returns_serialize env).run_mapErr.run_bind fun image _ => ?_
  cases image with
  | none => exact returns_run_pure trivial
  | some image =>
    exact (returns_fileTask fun _ => ⟨_, rfl⟩).run_bind fun _ _ => (returns_writeAll 0 image).run_bind fun _ _ =>
      (returns_fileTask fun _ => ⟨_, rfl⟩).run_bind fun _ _ => (returns_fileTask fun _ => ⟨_, rfl⟩).run_bind
        fun _ _ => returns_run_pure trivial

/-- **Writing out the snapshot** fails where the metadata row cannot be written, and only there. -/
theorem writeOut_failed_iff {metadata : SnapshotMeta} {ms : List (World U)} (hms : ∀ w ∈ ms, DataServing w) :
    (∃ e, (writeOut env metadata).run.feed ms = .ret (.error e)) ↔
      ∃ w ms', ms = w :: ms' ∧ PutFails .stateDb snapshotMetaKey w := by
  obtain ⟨k, hk, hrun⟩ := createSnapshot_run env metadata
  rw [writeOut_run, hrun, act_bind]
  rcases ms with _ | ⟨w, ms⟩
  · exact ⟨fun ⟨e, he⟩ => (nomatch he), fun ⟨w, ms', hms', _⟩ => (nomatch hms')⟩
  rw [feed_act]
  rcases exec_upsert_cases .stateDb snapshotMetaKey (.blob (encoded metadata)) w with
    ⟨s, hput, -, -, hexec⟩ | ⟨hput, e, hexec⟩
  · rw [hexec]
    have hreturns : (k 1 >>= fun r => .ret (snapshotOf metadata r)).Returns DataServing
        (OkAnd fun _ => True) := by
      refine (hk 1).bind ?_
      rintro _ ⟨image, rfl, -⟩
      exact .ret ⟨_, rfl, trivial⟩
    constructor
    · rintro ⟨e, he⟩
      obtain ⟨snap, hsnap, -⟩ := hreturns.feed (fun w' hw' => hms w' (List.mem_cons_of_mem _ hw')) he
      cases hsnap
    · rintro ⟨_, _, ⟨⟩, hput'⟩
      exact absurd hput' hput
  · rw [hexec]
    exact ⟨fun _ => ⟨w, ms, rfl, hput⟩, fun _ => ⟨_, feed_ret ..⟩⟩

/-- What the id of a build says of its index. -/
theorem writeOut_metadata {metadata : SnapshotMeta} {ms : List (World U)} {snap : Snapshot}
    (hret : (writeOut env metadata).run.feed ms = .ret (.ok snap)) : snap.metadata = metadata := by
  rw [writeOut_run] at hret
  have hreturns : ((createSnapshot env .stateDb metadata).run >>= fun r =>
      .ret (snapshotOf metadata r)).Returns (fun _ => True)
        fun r => ∀ snap, r = .ok snap → snap.metadata = metadata := by
    refine (returns_trivial _ _).bind fun r _ => .ret ?_
    rcases r with e | image
    · exact nofun
    · rintro _ ⟨⟩
      rfl
  exact hreturns.feed (fun _ _ => trivial) hret snap rfl

/-! ### A whole build -/

/-- The states a build met from its first task on: what made it fail. -/
inductive Disturbed : List (World U) → Prop where
  /-- The counter was not there, and then it was. -/
  | overtaken {w w' ms} : counterRow w = none → counterRow w' ≠ none → Disturbed (w :: w' :: ms)
  /-- The counter leaves 64 bits. -/
  | exhausted {w v ms} : counterRow w = some v → (∀ n, v.plusOne ≠ .integer n) → Disturbed (w :: ms)
  /-- The metadata row cannot be written. -/
  | refused {w w' ms} : counterRow w ≠ none → PutFails .stateDb snapshotMetaKey w' → Disturbed (w :: w' :: ms)
  | refusedFirst {w w₁ w' ms} : counterRow w = none → PutFails .stateDb snapshotMetaKey w' →
    Disturbed (w :: w₁ :: w' :: ms)

/-- Once the counter was not found. -/
theorem insertAndWrite_failed_iff {metadata : SnapshotMeta} {ms : List (World U)}
    (hserving : ∀ w ∈ ms, Serving w) (hfree : ∀ w ∈ ms, w.nextFault.1 = false) :
    (∃ e, ((task storeReadError insertTask : StorageResult U Nat) >>= fun _ => writeOut env metadata).run.feed ms =
      .ret (.error e)) ↔
    ∃ w ms', ms = w :: ms' ∧
      (counterRow w ≠ none ∨ ∃ w' ms'', ms' = w' :: ms'' ∧ PutFails .stateDb snapshotMetaKey w') := by
  rcases ms with _ | ⟨w, ms⟩
  · exact ⟨fun ⟨e, he⟩ => (nomatch he), fun ⟨w, ms', hms', _⟩ => (nomatch hms')⟩
  rw [feed_insert]
  rcases insertTask_spec (hserving w List.mem_cons_self) with
    ⟨hfails, -⟩ | ⟨-, hthere, e, hins⟩ | ⟨-, hrow, ⟨n, hins⟩, -⟩
  · exact absurd ((hfree w List.mem_cons_self).symm.trans hfails) (by decide)
  · rw [hins]
    exact ⟨fun _ => ⟨w, ms, rfl, .inl hthere⟩, fun _ => ⟨_, feed_ret ..⟩⟩
  · rw [hins]
    have hdata : ∀ w' ∈ ms, DataServing w' := fun w' hw' =>
      ⟨hfree w' (List.mem_cons_of_mem _ hw'), (hserving w' (List.mem_cons_of_mem _ hw')).data⟩
    refine (writeOut_failed_iff hdata).trans ⟨fun hput => ⟨w, ms, rfl, .inr hput⟩, ?_⟩
    rintro ⟨_, _, ⟨⟩, hthere | hput⟩
    · exact absurd hrow hthere
    · exact hput

/-- From its first task on. -/
theorem countAndWrite_failed_iff {last : Option LogId} {membership : EffectiveMembership} {ms : List (World U)}
    (hserving : ∀ w ∈ ms, Serving w) (hfree : ∀ w ∈ ms, w.nextFault.1 = false) :
    (∃ e, (countAndWrite env last membership).run.feed ms = .ret (.error e)) ↔ Disturbed ms := by
  rcases ms with _ | ⟨w, ms⟩
  · exact ⟨fun ⟨e, he⟩ => (nomatch he), fun h => (nomatch h)⟩
  unfold countAndWrite
  rw [feed_count]
  have hserving' : ∀ w' ∈ ms, Serving w' := fun w' hw' => hserving w' (List.mem_cons_of_mem _ hw')
  have hfree' : ∀ w' ∈ ms, w'.nextFault.1 = false := fun w' hw' => hfree w' (List.mem_cons_of_mem _ hw')
  rcases incTask_spec (hserving w List.mem_cons_self) with
    ⟨hfails, -⟩ | ⟨-, hrow, hinc⟩ | ⟨v, -, hrow, hinc, -⟩
  · exact absurd ((hfree w List.mem_cons_self).symm.trans hfails) (by decide)
  · -- the counter is created
    rw [hinc]
    refine (insertAndWrite_failed_iff hserving' hfree').trans ⟨?_, fun h => ?_⟩
    · rintro ⟨w₁, _, rfl, hthere | ⟨w', _, rfl, hput⟩⟩
      · exact .overtaken hrow hthere
      · exact .refusedFirst hrow hput
    · cases h with
      | overtaken _ hthere => exact ⟨_, _, rfl, .inl hthere⟩
      | exhausted hsome _ => cases hrow.symm.trans hsome
      | refused hsome _ => exact absurd hrow hsome
      | refusedFirst _ hput => exact ⟨_, _, rfl, .inr ⟨_, _, rfl, hput⟩⟩
  · -- the counter is there
    rw [hinc]
    by_cases hinteger : ∃ n, v.plusOne = .integer n
    · obtain ⟨n, hn⟩ := hinteger
      rw [hn]
      have hdata : ∀ w' ∈ ms, DataServing w' := fun w' hw' => ⟨hfree' w' hw', (hserving' w' hw').data⟩
      refine (writeOut_failed_iff hdata).trans ⟨?_, fun h => ?_⟩
      · rintro ⟨w', ms', rfl, hput⟩
        exact .refused (by rw [hrow]; exact Option.some_ne_none v) hput
      · cases h with
        | overtaken hnone _ => cases hrow.symm.trans hnone
        | exhausted hsome hnot =>
          cases hrow.symm.trans hsome
          exact absurd hn (hnot n)
        | refused _ hput => exact ⟨_, _, rfl, hput⟩
        | refusedFirst hnone _ => cases hrow.symm.trans hnone
    · have hnot : ∀ n, v.plusOne ≠ .integer n := fun n hn => hinteger ⟨n, hn⟩
      refine ⟨fun _ => .exhausted hrow hnot, fun _ => ?_⟩
      rcases hv : v.plusOne with _ | n | _ | _ | _
      · exact ⟨_, feed_ret ..⟩
      · exact absurd hv (hnot n)
      all_goals exact ⟨_, feed_ret ..⟩

end Fails

/-! ## Opening the store again -/

/-- The counter is where it was. -/
def KeepsCounter (w w' : World U) : Prop := CounterSound w → CounterSound w' ∧ counterRow w' = counterRow w

instance : Std.Refl (KeepsCounter (U := U)) := ⟨fun _ h => ⟨h, rfl⟩⟩

instance : IsTrans (World U) KeepsCounter := ⟨fun _ _ _ h h' hw => by
  obtain ⟨hw', hrow⟩ := h hw
  obtain ⟨hw'', hrow'⟩ := h' hw'
  exact ⟨hw'', hrow'.trans hrow⟩⟩

theorem BesideLog.keepsCounter {w w' : World U} (h : BesideLog w w') : KeepsCounter w w' :=
  fun hw => ⟨h.sound hw, h.row⟩

/-- Another connection to a database on disk with the same counter. -/
theorem keepsCounter_setConn {w : World U} {c : Connection (Database U)}
    (hc : CounterSound w → c.backing = .disk ∧
      (∀ s, c.session = some s → s.saved = none ∧ s.main.hindrances = []) ∧
      (c.session.bind fun s => s.main.kv snapshotIndexKey) = counterRow w) :
    KeepsCounter w (w.nextFault.2.setConn .logDb c) := by
  intro hw
  obtain ⟨hdisk, hclosed, hrow⟩ := hc hw
  have hvalue := hw.value
  rw [← hrow] at hvalue
  exact ⟨⟨hdisk, hclosed, hvalue⟩, hrow⟩

theorem CounterSound.durable {w : World U} (hw : CounterSound w) :
    w.logDb.durable = w.logDb.session.map Session.main := by
  unfold Connection.durable
  rw [hw.disk]
  cases hs : w.logDb.session with
  | none => rfl
  | some s => simp [Session.committed, (hw.closed s hs).1]

/-- A process that ends leaves the log database as it is. -/
theorem CounterSound.crash {w : World U} (hw : CounterSound w) (faults : List Bool) :
    CounterSound (w.crash.withFaults faults) ∧ counterRow (w.crash.withFaults faults) = counterRow w := by
  have hlog : (w.crash.withFaults faults).logDb = w.logDb := by
    show w.logDb.close = w.logDb
    unfold Connection.close
    rw [hw.durable, ← hw.disk]
    have hsession : (w.logDb.session.map Session.main).map (fun d => (⟨d, none⟩ : Session (Database U))) =
        w.logDb.session := by
      cases hs : w.logDb.session with
      | none => rfl
      | some s => simp [← (hw.closed s hs).1]
    rw [hsession]
  have hrow : counterRow (w.crash.withFaults faults) = counterRow w := by
    show (w.crash.withFaults faults).logDb.session.bind _ = w.logDb.session.bind _
    rw [hlog]
  exact ⟨⟨hlog ▸ hw.disk, hlog ▸ hw.closed, hrow ▸ hw.value⟩, hrow⟩

theorem openLog_keepsCounter (env : Env U) : (openHandle env .logDb .file).run.Within KeepsCounter := by
  rw [openHandle_eq]
  refine StorageHandle.within_submitTask (fun w => (sameConns_nextFault w).besideLog.keepsCounter) fun w => ?_
  refine keepsCounter_setConn fun hw => ⟨rfl, ?_, ?_⟩
  · rintro _ ⟨⟩
    refine ⟨rfl, ?_⟩
    show (w.logDb.durable.elim (Database.empty env) atRest).hindrances = []
    rw [hw.durable]
    cases hs : w.logDb.session with
    | none => rfl
    | some s => exact Database.clear_atRest (hw.closed s hs).2
  · show (w.logDb.durable.elim (Database.empty env) atRest).kv snapshotIndexKey = w.logDb.session.bind _
    rw [hw.durable]
    cases w.logDb.session <;> rfl

theorem openState_keepsCounter (env : Env U) (path : StateStore) :
    (openHandle env .stateDb path).run.Within KeepsCounter := by
  rw [openHandle_eq]
  refine StorageHandle.within_submitTask (fun w => (sameConns_nextFault w).besideLog.keepsCounter) fun w => ?_
  refine BesideLog.keepsCounter ⟨World.conn_nextFault w .logDb, fun _ => ?_⟩
  cases path <;> rfl

theorem task_keepsCounter {α : Type} (h : StorageHandle)
    {task : Connection (Database U) → Connection (Database U) × Except SqlError α}
    (htask : ∀ c, (task c).1.backing = c.backing ∧
      ((task c).1.session.map fun s => (s.saved, s.main.hindrances)) =
        c.session.map (fun s => (s.saved, s.main.hindrances)) ∧
      ((task c).1.session.bind fun s => s.main.kv snapshotIndexKey) =
        c.session.bind fun s => s.main.kv snapshotIndexKey) :
    (h.submitTask task).run.Within KeepsCounter := by
  refine StorageHandle.within_submitTask (fun w => (sameConns_nextFault w).besideLog.keepsCounter) fun w => ?_
  cases h with
  | logDb =>
    refine keepsCounter_setConn fun hw => ?_
    obtain ⟨hdisk, hsaved, hrow⟩ := htask (w.conn .logDb)
    refine ⟨hdisk.trans hw.disk, fun s hs => ?_, hrow⟩
    rw [hs] at hsaved
    cases hs' : (w.conn .logDb).session with
    | none =>
      rw [hs'] at hsaved
      cases hsaved
    | some s' =>
      rw [hs'] at hsaved
      obtain ⟨hsame, hclear⟩ := Prod.ext_iff.1 (Option.some.inj hsaved)
      exact ⟨hsame.trans (hw.closed s' hs').1, hclear.trans (hw.closed s' hs').2⟩
  | stateDb =>
    refine BesideLog.keepsCounter ⟨World.conn_nextFault w .logDb, fun hdata => ?_⟩
    obtain ⟨-, hsaved, -⟩ := htask w.stateDb
    have hsome := congrArg Option.isSome hsaved
    rw [Option.isSome_map, Option.isSome_map] at hsome
    exact hsome.trans hdata

/-- A statement that leaves the counter, however it is run. -/
theorem step_keepsCounter {f : Stmt U} (hf : ∀ d d' out, f d = .ok (d', out) →
      d'.kv snapshotIndexKey = d.kv snapshotIndexKey ∧ d'.hindrances = d.hindrances)
    (c : Connection (Database U)) :
    (c.step (.onMain f)).1.backing = c.backing ∧
      ((c.step (.onMain f)).1.session.map fun s => (s.saved, s.main.hindrances)) =
        c.session.map (fun s => (s.saved, s.main.hindrances)) ∧
      ((c.step (.onMain f)).1.session.bind fun s => s.main.kv snapshotIndexKey) =
        c.session.bind fun s => s.main.kv snapshotIndexKey := by
  rcases Connection.step_onMain_cases c f with ⟨s, d, out, hs, hfd, hstep⟩ | ⟨e, hstep⟩
  · obtain ⟨hrow, hclear⟩ := hf _ _ _ hfd
    rw [hstep, hs]
    exact ⟨rfl, congrArg (fun l => some (s.saved, l)) hclear, hrow⟩
  · rw [hstep]
    exact ⟨rfl, rfl, rfl⟩

theorem replicatKvTable_keepsCounter (h : StorageHandle) :
    (h.execute (.onMain (replicatKvTable (U := U)))).run.Within KeepsCounter := by
  refine task_keepsCounter h (step_keepsCounter ?_)
  rintro d _ _ ⟨⟩
  exact ⟨Database.kv_withKv d _, rfl⟩

theorem setupLogStore_keepsCounter (h : StorageHandle) :
    (setupLogStore h : StoreM U SqlError Unit).run.Within KeepsCounter := by
  have hpragma : ∀ {α : Type} (task : Connection (Database U) → Connection (Database U) × Except SqlError α),
      (∀ c, (task c).1.backing = c.backing ∧ (task c).1.session = c.session) →
      (h.submitTask task).run.Within KeepsCounter := by
    intro α task htask
    refine task_keepsCounter h fun c => ⟨(htask c).1, ?_, ?_⟩
    · rw [(htask c).2]
    · rw [(htask c).2]
  refine setupLogStore_within (hpragma _ fun c => ?_) (hpragma _ fun _ => ⟨rfl, rfl⟩)
    (hpragma _ fun _ => ⟨rfl, rfl⟩) (task_keepsCounter h (step_keepsCounter ?_)) (replicatKvTable_keepsCounter h)
  · unfold pragmaJournalModeWal
    rcases c with ⟨session, _ | left, journalMode, synchronous⟩ <;> exact ⟨rfl, rfl⟩
  · rintro d _ _ ⟨⟩
    exact ⟨rfl, rfl⟩

theorem createStateMachine_keepsCounter [Serde LogId] [Serde EffectiveMembership] (h : StorageHandle) :
    (createStateMachine h : StoreM U AnyError Unit).run.Within KeepsCounter := by
  refine createStateMachine_within (replicatKvTable_keepsCounter h) (fun key => ?_) fun w _ _ =>
    BesideLog.keepsCounter ⟨rfl, id⟩
  refine task_keepsCounter h (step_keepsCounter fun d d' out hread => ?_)
  rw [replicatKvSelectValue_same hread]
  exact ⟨rfl, rfl⟩

/-- **Opening the store leaves the counter**, whether it succeeds or not. -/
theorem openStore_keepsCounter [Serde LogId] [Serde EffectiveMembership] (env : Env U) (path : StateStore) :
    (RaftStore.openStore env (some path)).run.Within KeepsCounter :=
  openStore_within (openLog_keepsCounter env) (fun path _ => openState_keepsCounter env path)
    setupLogStore_keepsCounter createStateMachine_keepsCounter

/-! ## What an open leaves -/

theorem createStateMachine_besideLog [Serde LogId] [Serde EffectiveMembership] :
    (createStateMachine .stateDb : StoreM U AnyError Unit).run.Within BesideLog :=
  createStateMachine_within (besideLog_execute _) (fun _ => besideLog_fetchOne _ _) fun _ _ _ => ⟨rfl, id⟩

theorem setupLogStore_table {w w' : World U} (hdata : w.stateDb.session.isSome)
    (hsetup : (setupLogStore .logDb : StoreM U SqlError Unit).run.exec w = (.ok (), w')) :
    (∃ s, w'.logDb.session = some s ∧ s.main.kvTable.isSome) ∧ w'.stateDb.session.isSome := by
  have hother := (within_setupLogStore_other (f := fun _ : Database U => ())).exec w
  rw [hsetup] at hother
  refine ⟨?_, ?_⟩
  · -- the last statement creates the table
    unfold setupLogStore at hsetup
    obtain ⟨_, w₁, -, hsetup⟩ := exec_run_bind_eq_ok hsetup
    obtain ⟨_, w₂, -, hsetup⟩ := exec_run_bind_eq_ok hsetup
    obtain ⟨_, w₃, -, hsetup⟩ := exec_run_bind_eq_ok hsetup
    obtain ⟨_, w₄, -, hsetup⟩ := exec_run_bind_eq_ok hsetup
    obtain ⟨_, w₅, htable, hsetup⟩ := exec_run_bind_eq_ok hsetup
    cases hsetup
    obtain ⟨hok, rfl⟩ := StorageHandle.exec_submitTask_eq_ok htable
    obtain ⟨s, d, out, -, hd, hconn⟩ := Connection.execute_onMain_eq_ok hok
    rw [replicatKvTable_eq] at hd
    cases hd
    rw [hconn]
    exact ⟨_, rfl, rfl⟩
  · have hsome := congrArg Option.isSome hother
    have hrows : ∀ v : World U, (v.rows .stateDb fun _ => ()).isSome = v.stateDb.session.isSome := fun v => by
      unfold World.rows
      rw [Option.isSome_map]
      rfl
    rw [hrows, hrows] at hsome
    exact hsome.trans hdata

/-- **An open that succeeds** serves. -/
theorem openStore_serving [Serde LogId] [Serde EffectiveMembership] {env : Env U} {path : StateStore}
    {store : RaftStore} {w w' : World U}
    (hopen : (RaftStore.openStore env (some path)).run.exec w = (.ok store, w')) (hw' : CounterSound w') :
    store = splitStore ∧ Serving w' := by
  unfold RaftStore.openStore at hopen
  obtain ⟨log, w₁, hlog, hopen⟩ := exec_run_bind_eq_ok hopen
  obtain ⟨data, w₂, hdata, hopen⟩ := exec_run_bind_eq_ok hopen
  obtain ⟨_, w₃, hsetup, hopen⟩ := exec_run_bind_eq_ok hopen
  obtain ⟨_, w₄, hfields, hopen⟩ := exec_run_bind_eq_ok hopen
  cases hopen
  obtain ⟨e, _, hfail, -⟩ | ⟨_, hok, -⟩ := task_openHandle_cases env .logDb .file w
  · cases hlog.symm.trans hfail
  cases hlog.symm.trans hok
  obtain ⟨e, _, hfail, -⟩ | ⟨_, hok, -, hconn, -⟩ := task_openHandle_cases env .stateDb path w₁
  · cases hdata.symm.trans hfail
  cases hdata.symm.trans hok
  have hdata₂ : w₂.stateDb.session.isSome := by
    rw [show w₂.stateDb = _ from hconn, session_openConn]
    rfl
  obtain ⟨⟨s, hs, hkv⟩, hdata₃⟩ := setupLogStore_table hdata₂ (exec_run_mapErr_eq_ok hsetup)
  have hbeside := createStateMachine_besideLog.exec w₃
  rw [hfields] at hbeside
  have hs' : w'.logDb.session = some s := hbeside.log ▸ hs
  obtain ⟨t, ht⟩ := Option.isSome_iff_exists.1 hkv
  have ht' : s.main.kvStates = some t := Database.kvStates_eq_some.2 ⟨(hw'.closed s hs').2, ht⟩
  exact ⟨rfl, ⟨s, hs', by rw [ht']; rfl⟩, hbeside.data hdata₃⟩

/-! ## Calls on one node -/

/-- A call of `build_snapshot`, or one of `apply_to_state_machine`. -/
inductive NodeCall (B A : Type) where
  | build (b : B)
  | apply (a : A)
  deriving DecidableEq

/-- The next action of a call, and whether the storage fails it; or the store is closed, and opened
again on a storage with these faults. -/
inductive NodeTurn (B A : Type) where
  | call (c : NodeCall B A) (fails : Bool)
  | restart (faults : List Bool)

namespace NodeCall

/-- What a call returns. -/
def Result : NodeCall B A → Type
  | build _ => Except StorageError Snapshot
  | apply _ => Except StorageError (List Response)

def prog [Serde LogId] [Serde EffectiveMembership] [Serde SnapshotMeta] (env : Env U) (entries : A → List Entry) :
    (c : NodeCall B A) → Prog (World U) c.Result
  | build _ => (splitStore.buildSnapshot env).run
  | apply a => (splitStore.applyToStateMachine env (entries a)).run

end NodeCall

/-- A node, whether its store is open, the states each call has met at its actions, and the calls that a
close has ended. -/
structure NodeRun (U B A : Type) where
  world : World U
  up : Bool
  met : NodeCall B A → List (World U)
  gone : NodeCall B A → Bool

namespace NodeRun

/-- Nothing on disk, and nothing open. -/
def start : NodeRun U B A := ⟨World.fresh, false, fun _ => [], fun _ => false⟩

/-- The states a build met at its tasks: before them it reads two fields. -/
def tasks (n : NodeRun U B A) (b : B) : List (World U) := (n.met (.build b)).drop 2

variable [DecidableEq B] [DecidableEq A]

/-- After an action of a call. -/
def acted (n : NodeRun U B A) (c : NodeCall B A) (fails : Bool) (upd : World U → World U) : NodeRun U B A :=
  { n with
    world := (upd (n.world.withFaults [fails])).withFaults []
    met := Function.update n.met c (n.met c ++ [n.world.withFaults [fails]]) }

variable [Serde LogId] [Serde EffectiveMembership]

/-- After the store has been opened again: a call that had begun is gone. -/
def restarted (env : Env U) (path : StateStore) (n : NodeRun U B A) (faults : List Bool) : NodeRun U B A :=
  let opened := (RaftStore.openStore env (some path)).run.exec (n.world.crash.withFaults faults)
  { n with
    world := opened.2.withFaults []
    up := opened.1.isOk
    gone := fun c => n.gone c || !(n.met c).isEmpty }

variable [Serde SnapshotMeta]

/-- What is left of a call. -/
def left (env : Env U) (entries : A → List Entry) (n : NodeRun U B A) (c : NodeCall B A) :
    Prog (World U) c.Result := (c.prog env entries).feed (n.met c)

def turn (env : Env U) (path : StateStore) (entries : A → List Entry) (n : NodeRun U B A) :
    NodeTurn B A → NodeRun U B A
  | .call c fails =>
    if n.up && !n.gone c then
      match n.left env entries c with
      | .ret _ => n
      | .act upd _ => n.acted c fails upd
    else n
  | .restart faults => n.restarted env path faults

def turns (env : Env U) (path : StateStore) (entries : A → List Entry) (n : NodeRun U B A)
    (ts : List (NodeTurn B A)) : NodeRun U B A :=
  ts.foldl (turn env path entries) n

end NodeRun

/-! ## Every run -/

section Runs

variable {env : Env U} {path : StateStore} {entries : A → List Entry} {n : NodeRun U B A} {w : World U}

/-- Every build with an index has its own, and the counter is past it. -/
structure NodeRun.Sound (n : NodeRun U B A) : Prop where
  counter : CounterSound n.world
  serving : n.up → Serving n.world
  met : ∀ c, ∀ w ∈ n.met c, Serving w
  taken : ∀ b i, TakesIndex (n.tasks b) i → i.toNat < counted (counterRow n.world)
  distinct : ∀ b b' i, TakesIndex (n.tasks b) i → TakesIndex (n.tasks b') i → b = b'

theorem CounterSound.withFaults (hw : CounterSound w) (faults : List Bool) : CounterSound (w.withFaults faults) :=
  ⟨hw.disk, hw.closed, hw.value⟩

theorem Serving.withFaults (hw : Serving w) (faults : List Bool) : Serving (w.withFaults faults) :=
  ⟨hw.log, hw.data⟩

theorem not_takesIndex_nil (i : UInt64) : ¬ TakesIndex ([] : List (World U)) i := fun h => nomatch h

theorem sound_start : (NodeRun.start : NodeRun U B A).Sound where
  counter := ⟨rfl, nofun, trivial⟩
  serving := nofun
  met _ _ hw := nomatch hw
  taken _ i h := absurd h (not_takesIndex_nil i)
  distinct _ _ i h := absurd h (not_takesIndex_nil i)

variable [Serde LogId] [Serde EffectiveMembership]

theorem sound_restarted (hn : n.Sound) (faults : List Bool) : (n.restarted env path faults).Sound := by
  obtain ⟨hcrash, hrowCrash⟩ := hn.counter.crash faults
  obtain ⟨hopened, hrow⟩ := (openStore_keepsCounter env path).exec _ hcrash
  have hcounter : counterRow (n.restarted env path faults).world = counterRow n.world := hrow.trans hrowCrash
  refine ⟨hopened.withFaults [], fun hup => ?_, hn.met, ?_, hn.distinct⟩
  · have hok : ((RaftStore.openStore env (some path)).run.exec
        (n.world.crash.withFaults faults)).1.isOk = true := hup
    rcases hopen : (RaftStore.openStore env (some path)).run.exec (n.world.crash.withFaults faults) with
      ⟨e | store, w'⟩
    · rw [hopen] at hok
      cases hok
    · rw [hopen] at hopened
      have hserving := (openStore_serving hopen hopened).2.withFaults []
      rw [show (n.restarted env path faults).world = w'.withFaults [] by
        unfold NodeRun.restarted
        rw [hopen]]
      exact hserving
  · rw [hcounter]
    exact hn.taken

variable [Serde SnapshotMeta]

theorem prog_counts (env : Env U) (entries : A → List Entry) (c : NodeCall B A) :
    (c.prog env entries).Within Counts := by
  cases c with
  | build b => exact buildSnapshot_counts
  | apply a => exact (applyEntries_besideLog (entries a) []).mono fun _ _ => BesideLog.counts

variable [DecidableEq B] [DecidableEq A]

omit [Serde LogId] [Serde EffectiveMembership] [Serde SnapshotMeta] in
theorem met_acted_self (n : NodeRun U B A) (c : NodeCall B A) (fails : Bool) (upd : World U → World U) :
    (n.acted c fails upd).met c = n.met c ++ [n.world.withFaults [fails]] := Function.update_self ..

omit [Serde LogId] [Serde EffectiveMembership] [Serde SnapshotMeta] in
theorem met_acted_ne {c c' : NodeCall B A} (hne : c' ≠ c) (n : NodeRun U B A) (fails : Bool)
    (upd : World U → World U) : (n.acted c fails upd).met c' = n.met c' := Function.update_of_ne hne ..

/-- An action of a build moves the counter over the index it takes. -/
theorem tasks_acted {c : NodeCall B A} {fails : Bool} {upd : World U → World U}
    {next : World U → Prog (World U) c.Result} (hn : n.Sound) (hup : n.up = true)
    (hleft : n.left env entries c = .act upd next) {b : B} {i : UInt64}
    (htakes : TakesIndex ((n.acted c fails upd).tasks b) i) :
    TakesIndex (n.tasks b) i ∨ (c = .build b ∧ counted (counterRow n.world) ≤ i.toNat ∧
      i.toNat < counted (counterRow (n.acted c fails upd).world)) := by
  by_cases hc : c = .build b
  · subst hc
    unfold NodeRun.left NodeCall.prog at hleft
    unfold NodeRun.tasks at htakes ⊢
    rw [met_acted_self] at htakes
    rcases hms : n.met (.build b) with _ | ⟨w₀, _ | ⟨w₁, ms⟩⟩
    · rw [hms] at htakes
      exact absurd htakes (not_takesIndex_nil i)
    · rw [hms] at htakes
      exact absurd htakes (not_takesIndex_nil i)
    · rw [hms] at htakes hleft
      rcases takesIndex_last (hn.counter.withFaults _) ((hn.serving hup).withFaults _) htakes with
        hbefore | ⟨u, k, hact, hle, hlt⟩
      · exact .inl hbefore
      · have hbuild : (splitStore.buildSnapshot env).run.feed (w₀ :: w₁ :: ms) =
            (countAndWrite env w₀.lastAppliedLog w₁.lastMembership).run.feed ms := by
          rw [buildSnapshot_run_eq]
          rfl
        have hcall := hleft.symm.trans (hbuild.trans (feed_bind_act hact))
        injection hcall with hupd
        refine .inr ⟨rfl, hle, ?_⟩
        rw [← hupd] at hlt
        exact hlt
  · unfold NodeRun.tasks at htakes
    rw [met_acted_ne (Ne.symm hc)] at htakes
    exact .inl htakes

theorem sound_acted {c : NodeCall B A} {fails : Bool} {upd : World U → World U}
    {next : World U → Prog (World U) c.Result} (hn : n.Sound) (hup : n.up = true)
    (hleft : n.left env entries c = .act upd next) : (n.acted c fails upd).Sound := by
  have hserving := (hn.serving hup).withFaults [fails]
  have hwithin := (prog_counts env entries c).feed (n.met c)
  rw [show (c.prog env entries).feed (n.met c) = _ from hleft] at hwithin
  cases hwithin with | act hupd _ =>
  obtain ⟨hcounter', hserving', hle⟩ := hupd _ (hn.counter.withFaults [fails]) hserving
  refine ⟨hcounter'.withFaults [], fun _ => hserving'.withFaults [], fun c' w hw => ?_, fun b i htakes => ?_,
    fun b b' i htakes htakes' => ?_⟩
  · by_cases hc : c' = c
    · subst hc
      rw [met_acted_self] at hw
      rcases List.mem_append.1 hw with hw | hw
      · exact hn.met c' w hw
      · cases List.mem_singleton.1 hw
        exact hserving
    · rw [met_acted_ne hc] at hw
      exact hn.met c' w hw
  · rcases tasks_acted hn hup hleft htakes with hbefore | ⟨-, -, hlt⟩
    · exact Nat.lt_of_lt_of_le (hn.taken b i hbefore) hle
    · exact hlt
  · -- an index taken before is below the counter, and one taken now is not
    rcases tasks_acted hn hup hleft htakes with hbefore | ⟨hb, hfrom, -⟩ <;>
      rcases tasks_acted hn hup hleft htakes' with hbefore' | ⟨hb', hfrom', -⟩
    · exact hn.distinct b b' i hbefore hbefore'
    · exact absurd (hn.taken b i hbefore) (Nat.not_lt.2 hfrom')
    · exact absurd (hn.taken b' i hbefore') (Nat.not_lt.2 hfrom)
    · exact NodeCall.build.inj (hb.symm.trans hb')

/-- A turn of a call performs its next action, when there is one and the store is open. -/
theorem turn_call_cases (env : Env U) (path : StateStore) (entries : A → List Entry) (n : NodeRun U B A)
    (c : NodeCall B A) (fails : Bool) :
    n.turn env path entries (.call c fails) = n ∨
    ∃ upd next, n.up = true ∧ n.left env entries c = .act upd next ∧
      n.turn env path entries (.call c fails) = n.acted c fails upd := by
  simp only [NodeRun.turn]
  by_cases hcall : (n.up && !n.gone c) = true
  · rw [if_pos hcall]
    cases hleft : n.left env entries c with
    | ret r => exact .inl rfl
    | act upd next => exact .inr ⟨upd, next, (Bool.and_eq_true .. ▸ hcall).1, rfl, rfl⟩
  · exact .inl (if_neg hcall)

theorem sound_turn (hn : n.Sound) (t : NodeTurn B A) : (n.turn env path entries t).Sound := by
  cases t with
  | restart faults => exact sound_restarted hn faults
  | call c fails =>
    rcases turn_call_cases env path entries n c fails with hsame | ⟨upd, next, hup, hleft, hacted⟩
    · rw [hsame]
      exact hn
    · rw [hacted]
      exact sound_acted hn hup hleft

/-- **Every run.** -/
theorem sound_turns (hn : n.Sound) (ts : List (NodeTurn B A)) : (n.turns env path entries ts).Sound := by
  induction ts generalizing n with
  | nil => exact hn
  | cons t ts ih => exact ih (sound_turn hn t)

end Runs

/-! ## Ids -/

/-- What follows the last separator. -/
theorem eq_of_append_cons {a : Char} {front front' l l' : List Char} (heq : front ++ a :: l = front' ++ a :: l')
    (hl : a ∉ l) (hl' : a ∉ l') : l = l' := by
  rcases List.append_eq_append_iff.1 heq with ⟨between, -, htail⟩ | ⟨between, -, htail⟩
  · cases between with
    | nil => exact (List.cons.inj htail).2
    | cons b between =>
      refine absurd ?_ hl
      rw [(List.cons.inj htail).2]
      exact List.mem_append_right _ List.mem_cons_self
  · cases between with
    | nil => exact (List.cons.inj htail).2.symm
    | cons b between =>
      refine absurd ?_ hl'
      rw [(List.cons.inj htail).2]
      exact List.mem_append_right _ List.mem_cons_self

theorem separator_notMem (n : Nat) : '-' ∉ Nat.toDigits 10 n := fun h =>
  absurd (Nat.isDigit_of_mem_toDigits (by decide) (by decide) h) (by decide)

theorem toDigits_inj {n m : Nat} (h : Nat.toDigits 10 n = Nat.toDigits 10 m) : n = m := by
  have hvalue := congrArg (fun digits => Nat.ofDigitChars 10 digits 0) h
  simpa using hvalue

/-- Both formats end in the separator and the index. -/
theorem snapshotId_tail (env : Env U) (last : Option LogId) (index : UInt64) :
    ∃ front, (RaftStore.snapshotId env last index).toList = front ++ '-' :: Nat.toDigits 10 index.toNat := by
  have hindex : (toString index).toList = Nat.toDigits 10 index.toNat := Nat.toList_repr
  cases last with
  | none => exact ⟨['-'], by simp [RaftStore.snapshotId, hindex]⟩
  | some last =>
    refine ⟨(env.displayLeaderId last.leaderId ++ "-" ++ toString last.index).toList, ?_⟩
    simp [RaftStore.snapshotId, hindex]

/-- **An id gives its index back.** -/
theorem snapshotId_inj {env : Env U} {last last' : Option LogId} {index index' : UInt64}
    (h : RaftStore.snapshotId env last index = RaftStore.snapshotId env last' index') : index = index' := by
  obtain ⟨front, hid⟩ := snapshotId_tail env last index
  obtain ⟨front', hid'⟩ := snapshotId_tail env last' index'
  rw [h, hid'] at hid
  exact UInt64.toNat_inj.1 (toDigits_inj
    (eq_of_append_cons hid.symm (separator_notMem _) (separator_notMem _)))

section Left

variable {env : Env U} {path : StateStore} {entries : A → List Entry} {n : NodeRun U B A} {b : B}
variable [Serde LogId] [Serde EffectiveMembership] [Serde SnapshotMeta]

/-- What is left of a build past the two fields it reads. -/
theorem left_build {w w' : World U} {ms : List (World U)} (hmet : n.met (.build b) = w :: w' :: ms) :
    n.left env entries (.build b) = (countAndWrite env w.lastAppliedLog w'.lastMembership).run.feed (n.tasks b) := by
  unfold NodeRun.left NodeRun.tasks NodeCall.prog
  rw [hmet]
  exact congrArg (Prog.feed · (w :: w' :: ms)) (buildSnapshot_run_eq env)

/-- Otherwise it has not begun its tasks. -/
theorem met_cases (env : Env U) (entries : A → List Entry) (n : NodeRun U B A) (b : B) :
    (n.tasks b = [] ∧ ∀ r : Except StorageError Snapshot, n.left env entries (.build b) ≠ .ret r) ∨
      ∃ w w' ms, n.met (.build b) = w :: w' :: ms := by
  unfold NodeRun.left NodeRun.tasks NodeCall.prog
  rcases n.met (.build b) with _ | ⟨w, _ | ⟨w', ms⟩⟩
  · exact .inl ⟨rfl, fun r hr => nomatch hr⟩
  · exact .inl ⟨rfl, fun r hr => nomatch hr⟩
  · exact .inr ⟨w, w', ms, rfl⟩

/-- **A build that succeeded** has an index, and its id ends in it. -/
theorem left_build_ok {snap : Snapshot} (hleft : n.left env entries (.build b) = .ret (.ok snap)) :
    ∃ last index, TakesIndex (n.tasks b) index ∧
      snap.metadata.snapshotId = RaftStore.snapshotId env last index := by
  obtain ⟨-, hnot⟩ | ⟨w, w', ms, hmet⟩ := met_cases env entries n b
  · exact absurd hleft (hnot _)
  rw [left_build hmet] at hleft
  obtain ⟨index, ts, htakes, hwrite⟩ := feed_run_bind_eq_ok hleft
  refine ⟨w.lastAppliedLog, index, htakes, ?_⟩
  rw [writeOut_metadata hwrite]

theorem left_build_failed_iff (hn : n.Sound) (hfree : ∀ w ∈ n.tasks b, w.nextFault.1 = false) :
    (∃ e, n.left env entries (.build b) = .ret (.error e)) ↔ Disturbed (n.tasks b) := by
  obtain ⟨hnil, hnot⟩ | ⟨w, w', ms, hmet⟩ := met_cases env entries n b
  · rw [hnil]
    exact ⟨fun ⟨e, he⟩ => absurd he (hnot _), fun h => nomatch h⟩
  · rw [left_build hmet]
    exact countAndWrite_failed_iff (fun v hv => hn.met _ v (List.mem_of_mem_drop hv)) hfree

end Left

/-- A node that has opened its store on an empty disk. -/
def catalogNode : NodeRun Catalog Bool Unit :=
  (NodeRun.start : NodeRun Catalog Bool Unit).turns catalogEnv .file (fun _ => []) [.restart []]

theorem catalogNode_eq : catalogNode = ⟨catalogOpened, true, fun _ => [], fun _ => false⟩ := by
  show NodeRun.restarted catalogEnv .file _ [] = _
  have hopen : (RaftStore.openStore catalogEnv (some .file)).run.exec (World.fresh.crash.withFaults []) = _ :=
    openStore_exec (w := World.fresh) rfl (finds_fresh catalogEnv catalogEffect (some .file)).2
  unfold NodeRun.restarted NodeRun.start
  rw [hopen]
  rfl

end Replicat
