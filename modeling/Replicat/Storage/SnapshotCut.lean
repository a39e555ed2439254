import Replicat.Lib.Timed
import Replicat.Storage.Catalog

/-!
# Building a snapshot while entries are applied

One `build_snapshot` on a clone of the store, in parallel with consecutive calls of
`apply_to_state_machine`. The clock of the pair is the apply side: its `n`-th reading is the
state `cutState n`. The build reads `last_applied_log`, then `last_membership`, and takes the
image in a later task, so the three may be of different entries; `buildSnapshot_cut` is about
the schedules in which they are not.
-/

namespace Replicat

open Sqlite Atomics Atomics.Prog

variable {U : Type}

/-- What is known of the `snapshot_index` row. -/
inductive IndexRow where
  | absent
  | integer
  | any
  deriving DecidableEq, Repr

def IndexRow.Holds : IndexRow → Option Value → Prop
  | absent, v => v = none
  | integer, v => ∃ n, v = some (.integer n) ∧ n + 1 < 2 ^ 63
  | any, _ => True

/-- The log connection is outside a transaction and has its key-value table. -/
def LogReady (log : StorageHandle) (k : IndexRow) (w : World U) : Prop :=
  ∃ d t, w.Reads log d ∧ d.kvStates = some t ∧ k.Holds (d.kv snapshotIndexKey)

/-- The actions of the build before the one that takes the image: there is one more when the
`snapshot_index` row has to be created. -/
def imageAction : IndexRow → Nat
  | .absent => 6
  | _ => 5

/-- A task on a connection that changes nothing the state machine shows. -/
theorem Shows.setDb [Serde LogId] [Serde EffectiveMembership] {data h : StorageHandle} {v : Applied U}
    {w : World U} (hw : Shows data v w) {d d' : Database U} (hr : w.Reads h d)
    (hkv : d'.kvStates.isSome) (hd : Stored v d → Stored v d') : Shows data v (w.setDb h d') := by
  obtain ⟨c, t, hc, ht, hs⟩ := hw.reads
  obtain ⟨t', ht'⟩ := Option.isSome_iff_exists.1 hkv
  refine ⟨by rw [World.faults_setDb]; exact hw.faults, ?_, by rw [World.lastAppliedLog_setDb]; exact hw.log,
    by rw [World.lastMembership_setDb]; exact hw.membership⟩
  by_cases hh : h = data
  · subst hh
    have hdc : d = c := by simpa using (Eq.symm hr).trans hc
    exact ⟨d', t', World.reads_setDb w h d', ht', hd (hdc ▸ hs)⟩
  · exact ⟨c, t, hc.setDb_ne hh d', ht, hs⟩

theorem LogReady.setDb {log h : StorageHandle} {k : IndexRow} {w : World U} (hw : LogReady log k w)
    {d : Database U} (hkv : d.kvStates.isSome) : LogReady log .any (w.setDb h d) := by
  obtain ⟨c, t, hc, ht, -⟩ := hw
  obtain ⟨t', ht'⟩ := Option.isSome_iff_exists.1 hkv
  by_cases hh : h = log
  · subst hh
    exact ⟨d, t', World.reads_setDb w h d, ht', trivial⟩
  · exact ⟨c, t, hc.setDb_ne hh d, ht, trivial⟩

/-- The actions of an entry leave the `snapshot_index` row alone. -/
theorem LogReady.onWorld [Serde LogId] [Serde EffectiveMembership] {env : Env U}
    {effect : Request → U → U} {log data : StorageHandle} {k : IndexRow} {v : Applied U} {w : World U}
    (hw : LogReady log k w) (hshows : Shows data v w) {st : ApplyStep} (hst : st.Runs env effect v) :
    LogReady log k (st.onWorld env data w) := by
  obtain ⟨d, t, hr, ht, hk⟩ := hw
  -- What a task on `data` does to its own contents.
  have hset : ∀ d' : Database U, (data = log → d'.kvStates.isSome) →
      (data = log → d'.kv snapshotIndexKey = d.kv snapshotIndexKey) → LogReady log k (w.setDb data d') := by
    intro d' hsome hkv
    by_cases hdata : data = log
    · obtain ⟨t', ht'⟩ := Option.isSome_iff_exists.1 (hsome hdata)
      subst hdata
      exact ⟨d', t', World.reads_setDb w data d', ht', by rwa [hkv rfl]⟩
    · exact ⟨d, t, hr.setDb_ne hdata d', ht, hk⟩
  have hput : ∀ key v, snapshotIndexKey ≠ key →
      LogReady log k (World.mapDb data (Database.putKv key v) w) := by
    intro key v hne
    obtain ⟨c, tc, hc, htc, -⟩ := hshows.reads
    rw [hc.mapDb_eq]
    refine hset _ (fun _ => Database.isSome_putKv htc key v) fun hdata => ?_
    subst hdata
    obtain rfl : d = c := by simpa using (Eq.symm hr).trans hc
    exact Database.kv_putKv_ne d hne v
  cases st with
  | logRow logId => exact hput _ _ (by decide)
  | log logId => exact ⟨d, t, hr, ht, hk⟩
  | exec req =>
    obtain ⟨c, tc, own, n, hc, htc, -, -, hstep⟩ := hshows.step_client hst
    show LogReady log k (World.runOn data (RaftStore.clientStatement env req) w)
    unfold World.runOn
    rw [hstep]
    refine hset { c with user := effect req v.tables, own } (fun _ => ?_) fun hdata => ?_
    · exact Option.isSome_iff_exists.2 ⟨tc, htc⟩
    · subst hdata
      obtain rfl : d = c := by simpa using (Eq.symm hr).trans hc
      rfl
  | membershipRow mem => exact hput _ _ (by decide)
  | membership mem => exact ⟨d, t, hr, ht, hk⟩

theorem LogReady.replay [Serde LogId] [Serde EffectiveMembership] {env : Env U}
    {effect : Request → U → U} {log data : StorageHandle} {k : IndexRow} {v : Applied U}
    {steps : List ApplyStep} {w : World U} (hw : LogReady log k w) (hshows : Shows data v w)
    (hsteps : StepsRun env effect v steps) :
    LogReady log k (Prog.replay (steps.map (ApplyStep.onWorld env data)) w) := by
  induction steps generalizing v w with
  | nil => exact hw
  | cons st steps ih =>
    exact ih (hw.onWorld hshows hsteps.1) (hshows.onWorld hsteps.1) hsteps.2

/-- Applying leads from one entry boundary to the next, and leaves the `snapshot_index` row. -/
theorem applyToStateMachine_ready [Serde LogId] [Serde EffectiveMembership] {env : Env U}
    {effect : Request → U → U} (store : RaftStore) {log : StorageHandle} {k : IndexRow}
    {es done : List Entry} {tables : U} {w : World U}
    (h : Confined env effect (execEntries effect tables done) es)
    (hw : Shows store.data (Applied.at effect tables done) w) (hready : LogReady log k w) :
    ∃ w', (store.applyToStateMachine env es).run.exec w = (.ok (es.map fun _ => ⟨⟩), w') ∧
      Shows store.data (Applied.at effect tables (done ++ es)) w' ∧ LogReady log k w' := by
  have hsteps := Confined.stepsRun (v := Applied.at effect tables done) h
  refine ⟨_, applyToStateMachine_replay store h hw, ?_, hready.replay hw hsteps⟩
  rw [← Applied.at_after]
  exact hw.replay hsteps

/-! ## The statements on the `snapshot_index` row -/

theorem incSnapshotIndex_absent {d : Database U} (hw : d.Writable snapshotIndexKey)
    (hk : d.kv snapshotIndexKey = none) : incSnapshotIndex d = .ok (d.untouched, ⟨[], 0⟩) := by
  obtain ⟨t, ht⟩ := Option.isSome_iff_exists.1 hw.1
  rw [incSnapshotIndex, onKv_eq ht hw.2]
  rw [Database.kv, ht] at hk
  simp only [Option.bind_some] at hk
  rw [hk]
  show Except.ok (d.withKvRows t t ⟨[], 0⟩, _) = _
  simp only [Database.withKvRows, Database.untouched, Nat.lt_irrefl, if_false, ht]

theorem incSnapshotIndex_present {d : Database U} {v : Value} (hw : d.Writable snapshotIndexKey)
    (hk : d.kv snapshotIndexKey = some v) :
    incSnapshotIndex d = .ok (d.putKv snapshotIndexKey v.plusOne, ⟨[[v.plusOne]], 1⟩) := by
  obtain ⟨t, ht⟩ := Option.isSome_iff_exists.1 hw.1
  rw [incSnapshotIndex, onKv_eq ht hw.2, Database.putKv, ht]
  rw [Database.kv, ht] at hk
  simp only [Option.bind_some] at hk
  rw [hk]
  rfl

theorem incSnapshotIndex_integer {d : Database U} {n : Int} (hw : d.Writable snapshotIndexKey)
    (hk : d.kv snapshotIndexKey = some (.integer n)) (hn : n + 1 < 2 ^ 63) :
    incSnapshotIndex d =
      .ok (d.putKv snapshotIndexKey (.integer (n + 1)), ⟨[[.integer (n + 1)]], 1⟩) := by
  rw [incSnapshotIndex_present hw hk, Value.plusOne_integer, if_pos hn]

theorem insertSnapshotIndex_absent {d : Database U} (hw : d.Writable snapshotIndexKey)
    (hk : d.kv snapshotIndexKey = none) :
    insertSnapshotIndex d = .ok (d.putKv snapshotIndexKey (.integer 0), ⟨[], 1⟩) := by
  obtain ⟨t, ht⟩ := Option.isSome_iff_exists.1 hw.1
  rw [insertSnapshotIndex, onKv_eq ht hw.2, Database.putKv, ht]
  rw [Database.kv, ht] at hk
  simp only [Option.bind_some] at hk
  rw [hk]
  rfl

theorem snapshotIndexKey_other :
    lastLogKey ≠ snapshotIndexKey ∧ lastMembershipKey ≠ snapshotIndexKey := by
  decide

section Build

variable [Serde LogId] [Serde EffectiveMembership]
variable {env : Env U} {store : RaftStore} (effect : Request → U → U) (v₀ : Applied U) (es : List Entry)

/-- The state machine after `n` actions of the apply side, from `v₀` on. -/
def cutState (n : Nat) : Applied U := v₀.after effect ((es.flatMap stepsOf).take n)

/-- The apply side moves from one state to the next. -/
theorem cutState_move (hsteps : StepsRun env effect v₀ (es.flatMap stepsOf)) {n : Nat} {m : Move (World U)}
    (hm : (applyMoves env effect store.data v₀ (es.flatMap stepsOf))[n]? = some m) {k : IndexRow}
    {w : World U} (hw : Shows store.data (cutState effect v₀ es n) w) (hk : LogReady store.log k w) :
    m.needs w ∧ Shows store.data (cutState effect v₀ es (n + 1)) (m.does w) ∧
      LogReady store.log k (m.does w) := by
  obtain ⟨st, rfl, hst, hnext⟩ := applyMoves_getElem? hsteps hm
  refine ⟨hw, ?_, hk.onWorld hw hst⟩
  unfold cutState
  rw [hnext]
  exact hw.onWorld hst

/-- Behind the last action it stands still. -/
theorem cutState_done {n : Nat}
    (hn : (applyMoves env effect store.data v₀ (es.flatMap stepsOf))[n]? = none) :
    cutState effect v₀ es (n + 1) = cutState effect v₀ es n := by
  have hlen : (applyMoves env effect store.data v₀ (es.flatMap stepsOf)).length = (es.flatMap stepsOf).length := by
    have hdoes := congrArg List.length
      (@map_does_applyMoves _ _ _ env effect store.data v₀ (es.flatMap stepsOf))
    simpa using hdoes
  have hle : (es.flatMap stepsOf).length ≤ n := hlen ▸ List.getElem?_eq_none_iff.1 hn
  unfold cutState
  rw [List.take_of_length_le hle, List.take_of_length_le (Nat.le_succ_of_le hle)]

/-- `build_snapshot` against the apply side. -/
abbrev BuildTimed {ε α : Type} (store : RaftStore) (p : StoreM U ε α) (k : IndexRow)
    (Q : List Nat → α → IndexRow → Prop) : Prop :=
  Timed (fun n => Shows store.data (cutState effect v₀ es n)) (LogReady store.log) p.run k
    fun ts r k' => ∃ a, r = .ok a ∧ Q ts a k'

variable {effect v₀ es}

theorem submit_timed {α : Type} {h : StorageHandle} {k : IndexRow}
    {run : Connection (Database U) → Connection (Database U) × Except SqlError α}
    {Q : List Nat → α → IndexRow → Prop}
    (hx : ∀ n w, Shows store.data (cutState effect v₀ es n) w → LogReady store.log k w →
      ∃ a w' k', (h.submitTask run).run.exec w = (.ok a, w') ∧
        Shows store.data (cutState effect v₀ es n) w' ∧ LogReady store.log k' w' ∧ Q [n] a k') :
    BuildTimed effect v₀ es store (h.submitTask run) k Q :=
  Timed.of_atomic hx

/-- The index is read and written by one task, or by two when there is no row. -/
theorem getAndIncSnapshotIndex_timed {k : IndexRow} (hk : k ≠ .any) :
    BuildTimed effect v₀ es store store.getAndIncSnapshotIndex k
      fun ts _ k' => k' = .any ∧ ts.length + 4 = imageAction k := by
  -- Writing the row, in either task.
  have hput : ∀ {n w d t} (v : Value), Shows store.data (cutState effect v₀ es n) w →
      w.Reads store.log d → d.kvStates = some t →
      Shows store.data (cutState effect v₀ es n) (w.setDb store.log (d.putKv snapshotIndexKey v)) ∧
        LogReady store.log .any (w.setDb store.log (d.putKv snapshotIndexKey v)) := by
    intro n w d t v hw hr ht
    have hsome := Database.isSome_putKv ht snapshotIndexKey v
    exact ⟨hw.setDb hr hsome fun hs => hs.putKv_other snapshotIndexKey_other.1 snapshotIndexKey_other.2 v,
      LogReady.setDb (k := .any) ⟨d, t, hr, ht, trivial⟩ hsome⟩
  have hinc : BuildTimed effect v₀ es store (task storeReadError
      (store.log.fetchOne (.onMain incSnapshotIndex) fromRowInt)) k fun ts r k' => ts.length = 1 ∧
        ((k = .absent ∧ r = none ∧ k' = .absent) ∨ (k = .integer ∧ r.isSome ∧ k' = .any)) := by
    refine (submit_timed fun n w hw hready => ?_).run_mapErr
    obtain ⟨d, t, hr, ht, hrow⟩ := hready
    have hwritable := Database.writable_of_some ht snapshotIndexKey
    cases k with
    | any => exact absurd rfl hk
    | absent =>
      have hsome : d.untouched.kvStates.isSome := Option.isSome_iff_exists.2 ⟨t, ht⟩
      have hstored : ∀ v, Stored v d → Stored v d.untouched := fun _ h =>
        ⟨h.logRow, h.membershipRow, h.tables, h.clear, h.objects⟩
      exact ⟨none, _, .absent, exec_fetchOne hw.faults hr (incSnapshotIndex_absent hwritable hrow),
        hw.setDb hr hsome (hstored _), ⟨_, t, World.reads_setDb .., ht, hrow⟩, rfl, .inl ⟨rfl, rfl, rfl⟩⟩
    | integer =>
      obtain ⟨i, hi, hlt⟩ := hrow
      obtain ⟨hw', hready'⟩ := hput (.integer (i + 1)) hw hr ht
      exact ⟨some (i + 1), _, .any, exec_fetchOne hw.faults hr (incSnapshotIndex_integer hwritable hi hlt),
        hw', hready', rfl, .inr ⟨rfl, rfl, rfl⟩⟩
  have hinsert : BuildTimed effect v₀ es store (task storeReadError
      (store.log.execute (.onMain insertSnapshotIndex))) .absent
      fun ts _ k' => ts.length = 1 ∧ k' = .any := by
    refine (submit_timed fun n w hw hready => ?_).run_mapErr
    obtain ⟨d, t, hr, ht, hrow⟩ := hready
    obtain ⟨hw', hready'⟩ := hput (.integer 0) hw hr ht
    have hwritable := Database.writable_of_some ht snapshotIndexKey
    exact ⟨_, _, .any, exec_execute hw.faults hr (insertSnapshotIndex_absent hwritable hrow) rfl, hw', hready',
      rfl, rfl⟩
  unfold RaftStore.getAndIncSnapshotIndex
  refine Timed.run_bind hinc ?_
  rintro ts r k' ⟨hlen, ⟨rfl, rfl, rfl⟩ | ⟨rfl, hsome, rfl⟩⟩
  · refine Timed.run_bind hinsert ?_
    rintro ts' _ _ ⟨hlen', rfl⟩
    exact ⟨0, rfl, rfl, by simp [imageAction, hlen, hlen']⟩
  · obtain ⟨v, rfl⟩ := Option.isSome_iff_exists.1 hsome
    exact ⟨_, rfl, rfl, by simp [imageAction, hlen]⟩

variable [Serde SnapshotMeta]

theorem writeSnapshotMeta_timed (metadata : SnapshotMeta) :
    BuildTimed effect v₀ es store (writeSnapshotMeta store.data metadata) .any
      fun ts _ k' => ts.length = 1 ∧ k' = .any := by
  have hput : BuildTimed effect v₀ es store (task id (store.data.execute
      (.onMain (replicatKvUpsert snapshotMetaKey (.blob (encoded metadata)))))) .any
        fun ts _ k' => ts.length = 1 ∧ k' = .any := by
    refine (submit_timed fun n w hw hready => ?_).run_mapErr
    obtain ⟨d, t, hr, ht, -⟩ := hw.reads
    have hsome := Database.isSome_putKv ht snapshotMetaKey (.blob (encoded metadata))
    exact ⟨_, _, .any, exec_execute hw.faults hr (replicatKvUpsert_eq ht ..) rfl,
      hw.setDb hr hsome fun hs => hs.putKv_other (by decide) (by decide) _, hready.setDb hsome, rfl, rfl⟩
  have hencode : BuildTimed effect v₀ es store (encode id metadata) .any
      fun ts data k' => ts = [] ∧ data = encoded metadata ∧ k' = .any := by
    unfold encode
    rw [toBytes_eq]
    exact ⟨_, rfl, rfl, rfl, rfl⟩
  unfold writeSnapshotMeta
  refine Timed.run_bind hencode ?_
  rintro ts _ _ ⟨rfl, rfl, rfl⟩
  refine Timed.run_bind hput ?_
  rintro ts _ _ ⟨hlen, rfl⟩
  exact ⟨(), rfl, by simpa using hlen, rfl⟩

omit [Serde SnapshotMeta] in
/-- The image is taken by the second task, and is of the state machine at that moment. -/
theorem serialize_timed :
    BuildTimed effect v₀ es store (store.data.serialize env) .any
      fun ts image k' => k' = .any ∧ ∃ n₁ n mode d, ts = [n₁, n] ∧ image = some (env.serialize mode d) ∧
        Stored (cutState effect v₀ es n) d := by
  have hname : BuildTimed effect v₀ es store
      (store.data.fetchOne (.onMain (selectSqliteMaster env)) fromRowText) .any
        fun ts name k' => ts.length = 1 ∧ name.isSome ∧ k' = .any := by
    refine submit_timed fun n w hw hready => ?_
    obtain ⟨d, t, hr, ht, -⟩ := hw.reads
    refine ⟨some kvTableName, w, .any, ?_, hw, hready, rfl, rfl, rfl⟩
    refine (exec_fetchOne hw.faults hr rfl).trans ?_
    rw [hr.setDb_self, (Database.kvStates_eq_some.1 ht).2]
    rfl
  have himage : BuildTimed effect v₀ es store
      (store.data.submitTask (StorageHandle.serializeDb env)) .any fun ts image k' => k' = .any ∧
        ∃ n mode d, ts = [n] ∧ image = env.serialize mode d ∧ Stored (cutState effect v₀ es n) d := by
    refine submit_timed fun n w hw hready => ?_
    obtain ⟨d, t, hr, -, hs⟩ := hw.reads
    have hser : StorageHandle.serializeDb env (w.conn store.data) =
        (w.conn store.data, .ok (env.serialize (w.conn store.data).journalMode d)) := by
      unfold StorageHandle.serializeDb
      rw [show (w.conn store.data).session = some ⟨d, none⟩ from hr]
    refine ⟨_, w, .any, ?_, hw, hready, rfl, n, (w.conn store.data).journalMode, d, rfl, rfl, hs⟩
    rw [StorageHandle.exec_submitTask_ok hw.faults hser, World.setConn_conn]
  unfold StorageHandle.serialize
  refine Timed.run_bind hname ?_
  rintro ts name _ ⟨hlen, hsome, rfl⟩
  obtain ⟨name, rfl⟩ := Option.isSome_iff_exists.1 hsome
  obtain ⟨n₁, rfl⟩ := List.length_eq_one_iff.1 hlen
  refine Timed.run_bind himage ?_
  rintro ts _ _ ⟨rfl, n, mode, d, rfl, rfl, hs⟩
  exact ⟨_, rfl, rfl, n₁, n, mode, d, rfl, rfl, hs⟩

theorem createSnapshot_timed (metadata : SnapshotMeta) :
    BuildTimed effect v₀ es store (createSnapshot env store.data metadata) .any
      fun ts image _ => ∃ n₀ n₁ n ts' mode d, ts = n₀ :: n₁ :: n :: ts' ∧ image = env.serialize mode d ∧
        Stored (cutState effect v₀ es n) d := by
  unfold createSnapshot
  refine Timed.run_bind (writeSnapshotMeta_timed metadata) ?_
  rintro ts _ _ ⟨hlen, rfl⟩
  obtain ⟨n₀, rfl⟩ := List.length_eq_one_iff.1 hlen
  refine Timed.run_bind (Timed.run_mapErr serialize_timed) ?_
  rintro ts _ _ ⟨rfl, n₁, n, mode, d, rfl, rfl, hs⟩
  obtain ⟨gs, hgs⟩ := writeImage_follows (U := U) (env.serialize mode d)
  refine (Timed.of_follows hgs ?_).mono ?_
  · intro m hm n w hw hready
    obtain ⟨f, hf, rfl⟩ := List.mem_map.1 hm
    obtain ⟨g, -, rfl⟩ := List.mem_map.1 hf
    exact ⟨hw.faults, ⟨hw.faults, hw.reads, hw.log, hw.membership⟩, hready⟩
  · rintro ts' _ _ ⟨⟨_, rfl, rfl⟩, -⟩
    exact ⟨_, rfl, n₀, n₁, n, ts', mode, d, rfl, rfl, hs⟩

/-- **What a build returns**, whatever the apply side does in between: the last log id, the
membership and the image are of the moments at which each of them was read. -/
theorem buildSnapshot_timed {k : IndexRow} (hk : k ≠ .any) :
    BuildTimed effect v₀ es store (store.buildSnapshot env) k
      fun ts snap _ => ∃ a b c mode d,
        ts[0]? = some a ∧ ts[1]? = some b ∧ ts[imageAction k]? = some c ∧
        snap.metadata.lastLogId = (cutState effect v₀ es a).log ∧
        snap.metadata.lastMembership = (cutState effect v₀ es b).membership ∧
        snap.snapshot = env.serialize mode d ∧ Stored (cutState effect v₀ es c) d := by
  have hlog : BuildTimed effect v₀ es store StateMachine.lastAppliedLog k
      fun ts log k' => k = k' ∧ ∃ a, ts = [a] ∧ log = (cutState effect v₀ es a).log :=
    Timed.of_liftAct fun n w hw hready => ⟨k, hw, hready, rfl, n, rfl, hw.log⟩
  have hmem : BuildTimed effect v₀ es store StateMachine.lastMembership k
      fun ts mem k' => k = k' ∧ ∃ b, ts = [b] ∧ mem = (cutState effect v₀ es b).membership :=
    Timed.of_liftAct fun n w hw hready => ⟨k, hw, hready, rfl, n, rfl, hw.membership⟩
  unfold RaftStore.buildSnapshot
  refine Timed.run_bind hlog ?_
  rintro ts log _ ⟨rfl, a, rfl, rfl⟩
  refine Timed.run_bind hmem ?_
  rintro ts mem _ ⟨rfl, b, rfl, rfl⟩
  refine Timed.run_bind (getAndIncSnapshotIndex_timed hk) ?_
  rintro ts index _ ⟨rfl, hlen⟩
  refine Timed.run_bind (Timed.run_mapErr (createSnapshot_timed _)) ?_
  rintro ts' _ _ ⟨n₀, n₁, c, ts'', mode, d, rfl, rfl, hs⟩
  refine ⟨_, rfl, a, b, c, mode, d, rfl, rfl, ?_, rfl, rfl, rfl, hs⟩
  have hindex : imageAction k = ts.length + 2 + 1 + 1 := by omega
  rw [hindex]
  simp only [List.cons_append, List.nil_append, List.getElem?_cons_succ]
  rw [List.getElem?_append_right (by omega), Nat.add_sub_cancel_left]
  rfl

end Build

/-! ## Consistent cuts -/

/-- The image holds the effects of a prefix of the entries, and the metadata is that of the
same prefix. -/
def ConsistentCut [Serde LogId] [Serde EffectiveMembership] (env : Env U) (effect : Request → U → U)
    (tables : U) (es : List Entry) (snap : Snapshot) : Prop :=
  ∃ m d, env.contents snap.snapshot = some d ∧ Stored (Applied.at effect tables (es.take m)) d ∧
    snap.metadata.lastLogId = lastLogId? (es.take m) ∧
    snap.metadata.lastMembership = (lastMembership? (es.take m)).getD default

/-- The image is taken between two entries, and the entry before it had set
`last_applied_log` when the build read it and, if it is a `Membership` entry,
`last_membership` when the build read that. -/
def AlignedCut (es : List Entry) (logTime membershipTime imageTime : Nat) : Prop :=
  ∃ m, (es.flatMap stepsOf).take imageTime = (es.take m).flatMap stepsOf ∧
    ∀ before e, es.take m = before ++ [e] → (before.flatMap stepsOf).length + 2 ≤ logTime ∧
      (e.membership?.isSome → (before.flatMap stepsOf).length + (stepsOf e).length ≤ membershipTime)

section Aligned

variable (effect : Request → U → U) (tables : U) (done : List Entry) {es : List Entry} {e : Entry}

/-- What the fields hold once an entry has set `last_applied_log`. -/
theorem fields_within_entry {n : Nat} (hn : 2 ≤ n) :
    ((Applied.at effect tables done).after effect ((stepsOf e).take n)).log = some e.logId ∧
    (e.membership? = none →
      ((Applied.at effect tables done).after effect ((stepsOf e).take n)).membership =
        (lastMembership? done).getD default) := by
  obtain ⟨n, rfl⟩ := Nat.exists_eq_add_of_le' hn
  unfold stepsOf payloadSteps Entry.membership?
  cases e.payload with
  | blank => simp [Applied.after, Applied.at, ApplyStep.onApplied]
  | normal req => cases n <;> simp [Applied.after, Applied.at, ApplyStep.onApplied]
  | membership mem =>
    rcases n with _ | _ | n <;> simp [Applied.after, Applied.at, ApplyStep.onApplied]

/-- At an aligned cut all three readings are of one entry boundary. -/
theorem AlignedCut.cutState {a b c : Nat} (h : AlignedCut es a b c) (hab : a ≤ b) (hbc : b ≤ c) :
    ∃ m, Replicat.cutState effect (Applied.at effect tables done) es c =
        Applied.at effect tables (done ++ es.take m) ∧
      (Replicat.cutState effect (Applied.at effect tables done) es a).log =
        lastLogId? (done ++ es.take m) ∧
      (Replicat.cutState effect (Applied.at effect tables done) es b).membership =
        (lastMembership? (done ++ es.take m)).getD default := by
  obtain ⟨m, himage, hlast⟩ := h
  have htake : ∀ n ≤ c, (es.flatMap stepsOf).take n = ((es.take m).flatMap stepsOf).take n := by
    intro n hn
    rw [← himage, List.take_take, Nat.min_eq_left hn]
  have hc : Replicat.cutState effect (Applied.at effect tables done) es c =
      Applied.at effect tables (done ++ es.take m) := by
    unfold Replicat.cutState
    rw [himage, Applied.at_after]
  refine ⟨m, hc, ?_⟩
  rcases List.eq_nil_or_concat (es.take m) with hnil | ⟨before, e, hconcat⟩
  · unfold Replicat.cutState
    rw [htake a (by omega), htake b hbc, hnil]
    simp [Applied.after, Applied.at]
  · rw [List.concat_eq_append] at hconcat
    obtain ⟨ha, hb⟩ := hlast before e hconcat
    have hcut : ∀ n, (before.flatMap stepsOf).length ≤ n → n ≤ c →
        Replicat.cutState effect (Applied.at effect tables done) es n =
          (Applied.at effect tables (done ++ before)).after effect
            ((stepsOf e).take (n - (before.flatMap stepsOf).length)) := by
      intro n hle hn
      unfold Replicat.cutState
      rw [htake n hn, hconcat, List.flatMap_append, List.take_append, List.take_of_length_le hle,
        Applied.after_append, Applied.at_after]
      simp
    rw [hcut a (by omega) (by omega), hcut b (by omega) hbc, hconcat, ← List.append_assoc,
      lastLogId?_append_singleton, lastMembership?_append_singleton]
    refine ⟨(fields_within_entry effect tables _ (by omega)).1, ?_⟩
    cases hmem : e.membership? with
    | none => exact (fields_within_entry effect tables _ (by omega)).2 hmem
    | some mem =>
      have hfull := hb (by rw [hmem]; rfl)
      rw [List.take_of_length_le (by omega), Applied.at_after_stepsOf]
      show (lastMembership? (done ++ before ++ [e])).getD default = _
      rw [lastMembership?_append_singleton, hmem, Option.some_or]

end Aligned

section Cut

variable [Serde LogId] [Serde EffectiveMembership] [Serde SnapshotMeta] {env : Env U}
  {effect : Request → U → U}

/-- A build alone returns a snapshot. -/
theorem buildSnapshot_exec (env : Env U) (store : RaftStore) {v : Applied U} {k : IndexRow} {w : World U}
    (hk : k ≠ .any) (hw : Shows store.data v w) (hlog : LogReady store.log k w) :
    ∃ snap w', (store.buildSnapshot env).run.exec w = (.ok snap, w') := by
  -- No entry is applied, so the effect of a request does not matter.
  have htimed : BuildTimed (fun _ tables => tables) v [] store (store.buildSnapshot env) k _ :=
    buildSnapshot_timed hk
  obtain ⟨ts, k', snap, hsnap, -⟩ := htimed.exec (n := 0) hw hlog
  rcases hexec : (store.buildSnapshot env).run.exec w with ⟨r, w'⟩
  rw [hexec] at hsnap
  cases hsnap
  exact ⟨snap, w', rfl⟩

/-- What a build returns under a schedule, in terms of the times of its actions. -/
theorem buildSnapshot_run {store : RaftStore} {v₀ : Applied U}
    {batches : List (List Entry)} {k : IndexRow} {w : World U} (hk : k ≠ .any)
    (hc : Confined env effect v₀.tables batches.flatten)
    (hw : Shows store.data v₀ w) (hlog : LogReady store.log k w)
    (sched : List Side) {r : Except StorageError Snapshot}
    (hret : ((Pool.pair (store.buildSnapshot env).run (applyBatches env store batches).run w).run
      sched).threads .observed = .ret r) :
    ∃ snap a b c mode d, r = .ok snap ∧ (clockTimes 0 sched)[0]? = some a ∧
      (clockTimes 0 sched)[1]? = some b ∧ (clockTimes 0 sched)[imageAction k]? = some c ∧
      snap.metadata.lastLogId = (cutState effect v₀ batches.flatten a).log ∧
      snap.metadata.lastMembership = (cutState effect v₀ batches.flatten b).membership ∧
      snap.snapshot = env.serialize mode d ∧ Stored (cutState effect v₀ batches.flatten c) d := by
  have hw₀ : Shows store.data (cutState effect v₀ batches.flatten 0) w := hw
  obtain ⟨ts, k', hts, snap, rfl, a, b, c, mode, d, ha, hb, hc', hsnap⟩ :=
    Pool.pair_run (B := fun n => Shows store.data (cutState effect v₀ batches.flatten n))
      (E := LogReady store.log)
      (fun _ _ hm _ _ hw hk => cutState_move effect v₀ batches.flatten hc.stepsRun hm hw hk)
      (fun _ hn _ hw => by rwa [cutState_done effect v₀ batches.flatten hn]) sched hw₀ hlog
      (buildSnapshot_timed hk) (applyBatches_follows store hc) hret
  have htime : ∀ {i n : Nat}, ts[i]? = some n → (clockTimes 0 sched)[i]? = some n := by
    intro i n hi
    obtain ⟨rest, hrest⟩ := hts
    rw [← hrest, List.getElem?_append_left (List.getElem?_eq_some_iff.1 hi).1]
    exact hi
  exact ⟨snap, a, b, c, mode, d, rfl, htime ha, htime hb, htime hc', hsnap⟩

/-- **Under every schedule whose cut is aligned the snapshot is a consistent cut.** -/
theorem buildSnapshot_cut {store : RaftStore} {tables : U} {done : List Entry}
    {batches : List (List Entry)} {k : IndexRow} {w : World U} (hk : k ≠ .any)
    (hc : Confined env effect (execEntries effect tables done) batches.flatten)
    (hw : Shows store.data (Applied.at effect tables done) w) (hlog : LogReady store.log k w)
    (sched : List Side) {r : Except StorageError Snapshot}
    (hret : ((Pool.pair (store.buildSnapshot env).run (applyBatches env store batches).run w).run
      sched).threads .observed = .ret r)
    (haligned : ∀ a b c, (clockTimes 0 sched)[0]? = some a → (clockTimes 0 sched)[1]? = some b →
      (clockTimes 0 sched)[imageAction k]? = some c → AlignedCut batches.flatten a b c) :
    ∃ snap, r = .ok snap ∧ ConsistentCut env effect tables (done ++ batches.flatten) snap := by
  obtain ⟨snap, a, b, c, mode, d, rfl, ha, hb, hc', hlast, hmem, himage, hs⟩ :=
    buildSnapshot_run hk hc hw hlog sched hret
  have hab := clockTimes_le (by omega) ha hb
  have himageIndex : 1 < imageAction k := by cases k <;> decide
  have hbc := clockTimes_le himageIndex hb hc'
  obtain ⟨m, himageAt, hlogAt, hmemAt⟩ :=
    (haligned a b c ha hb hc').cutState effect tables done hab hbc
  have htake : (done ++ batches.flatten).take (done.length + m) = done ++ batches.flatten.take m :=
    List.take_length_add_append m
  refine ⟨snap, rfl, done.length + m, atRest d, ?_, ?_, ?_, ?_⟩
  · rw [himage]
    exact env.contents_serialize mode d
  · rw [htake, ← himageAt]
    exact hs.atRest
  · rw [htake, hlast, hlogAt]
  · rw [htake, hmem, hmemAt]

end Cut

/-! ## Two schedules -/

/-- A store just opened on an empty disk. -/
def catalogOpened : World Catalog :=
  opened catalogEnv (some .file) (Applied.at catalogEffect [] []) World.fresh

theorem catalogOpened_shows :
    Shows .stateDb (Applied.at catalogEffect [] []) catalogOpened ∧ LogReady .logDb .absent catalogOpened :=
  ⟨opened_shows (finds_fresh catalogEnv catalogEffect (some .file)) rfl rfl, _, _, rfl,
    Database.kvStates_withKv rfl, rfl⟩

theorem catalogOpened_snapshot : ∃ snap w,
    (RaftStore.buildSnapshot catalogEnv ⟨.logDb, .stateDb⟩).run.exec catalogOpened = (.ok snap, w) :=
  buildSnapshot_exec _ _ (by decide) catalogOpened_shows.1 catalogOpened_shows.2

/-- One entry to apply, and a build that runs after the first `n` actions of it. -/
theorem catalogOpened_build (n : Nat) :
    ∃ m r, ((Pool.pair (RaftStore.buildSnapshot catalogEnv ⟨.logDb, .stateDb⟩).run
      (applyBatches catalogEnv ⟨.logDb, .stateDb⟩ [[notesEntry 1]]).run catalogOpened).run
        (List.replicate n .clock ++ List.replicate m .observed)).threads .observed = .ret r := by
  obtain ⟨m, r, h⟩ := Pool.exists_run_observed ((Pool.pair
    (RaftStore.buildSnapshot catalogEnv ⟨.logDb, .stateDb⟩).run
    (applyBatches catalogEnv ⟨.logDb, .stateDb⟩ [[notesEntry 1]]).run catalogOpened).run
      (List.replicate n .clock))
  exact ⟨m, r, by rw [Pool.run_append]; exact h⟩

theorem confined_notes (tables : Catalog) :
    Confined catalogEnv catalogEffect tables [[notesEntry 1]].flatten :=
  confined_catalog (by simp [notesEntry]) tables

/-- A build after the whole entry. -/
theorem buildSnapshot_cut_catalog :
    ∃ sched snap, ((Pool.pair (RaftStore.buildSnapshot catalogEnv ⟨.logDb, .stateDb⟩).run
      (applyBatches catalogEnv ⟨.logDb, .stateDb⟩ [[notesEntry 1]]).run catalogOpened).run
        sched).threads .observed = .ret (.ok snap) ∧
      ConsistentCut catalogEnv catalogEffect [] [notesEntry 1] snap := by
  obtain ⟨m, r, hret⟩ := catalogOpened_build 3
  obtain ⟨hshows, hready⟩ := catalogOpened_shows
  have haligned : ∀ a b c,
      (clockTimes 0 (List.replicate 3 .clock ++ List.replicate m .observed))[0]? = some a →
      (clockTimes 0 (List.replicate 3 .clock ++ List.replicate m .observed))[1]? = some b →
      (clockTimes 0 (List.replicate 3 .clock ++ List.replicate m .observed))[imageAction .absent]? = some c →
      AlignedCut [[notesEntry 1]].flatten a b c := by
    intro a b c ha hb hc
    rw [clockTimes_burst] at ha hb hc
    obtain rfl := List.eq_of_mem_replicate (List.mem_of_getElem? ha)
    obtain rfl := List.eq_of_mem_replicate (List.mem_of_getElem? hb)
    obtain rfl := List.eq_of_mem_replicate (List.mem_of_getElem? hc)
    refine ⟨1, rfl, fun before e he => ?_⟩
    obtain ⟨rfl, he⟩ := List.append_eq_cons_iff.1 he.symm |>.resolve_right (by simp)
    obtain rfl : notesEntry 1 = e := by simpa using he
    exact ⟨by decide, by decide⟩
  obtain ⟨snap, rfl, hcut⟩ :=
    buildSnapshot_cut (by decide) (confined_notes _) hshows hready _ hret haligned
  exact ⟨_, snap, hret, hcut⟩

/-- A build between the marker of the entry and its statement: the metadata names the entry,
the image does not hold its table. -/
theorem build_between_marker_and_effect :
    Confined catalogEnv catalogEffect [] [notesEntry 1] ∧
      Shows .stateDb (Applied.at catalogEffect [] []) catalogOpened ∧
      ∃ sched snap, ((Pool.pair (RaftStore.buildSnapshot catalogEnv ⟨.logDb, .stateDb⟩).run
        (applyBatches catalogEnv ⟨.logDb, .stateDb⟩ [[notesEntry 1]]).run catalogOpened).run
          sched).threads .observed = .ret (.ok snap) ∧
        ¬ ConsistentCut catalogEnv catalogEffect [] [notesEntry 1] snap := by
  obtain ⟨m, r, hret⟩ := catalogOpened_build 2
  obtain ⟨hshows, hready⟩ := catalogOpened_shows
  obtain ⟨snap, a, b, c, mode, d, rfl, ha, -, hc, hlast, -, himage, hs⟩ :=
    buildSnapshot_run (by decide) (confined_notes _) hshows hready _ hret
  rw [clockTimes_burst] at ha hc
  obtain rfl := List.eq_of_mem_replicate (List.mem_of_getElem? ha)
  obtain rfl := List.eq_of_mem_replicate (List.mem_of_getElem? hc)
  refine ⟨confined_notes _, hshows, _, snap, hret, ?_⟩
  rintro ⟨n, d', himage', hs', hlast', -⟩
  rw [himage, catalogEnv.contents_serialize] at himage'
  cases himage'
  have htables : (cutState catalogEffect (Applied.at catalogEffect [] []) [notesEntry 1] 2).tables =
      (Applied.at catalogEffect [] ([notesEntry 1].take n)).tables := hs.tables.symm.trans hs'.tables
  rw [hlast] at hlast'
  rcases n with _ | n
  · exact absurd hlast' (by decide)
  · rw [List.take_succ_cons, List.take_nil] at htables
    exact absurd htables (by decide)

end Replicat
