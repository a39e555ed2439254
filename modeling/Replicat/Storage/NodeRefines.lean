import Replicat.Storage.Bookkeeping
import Replicat.Storage.MemState
import Replicat.Storage.NodeSpec

/-!
# The store does what it is for

`Refines` ties a world to the node it holds. Each call, on whatever storage, takes a world that
holds a node to one that holds the node after all the acts of the call or, if it fails or is cut
off, after some first acts of it; reads answer from the node, and an open reads it back. So
every trace of the code is a trace of the specification: `store_refines_spec`.
-/

namespace Replicat

open Sqlite Atomics Atomics.Prog LogWrite

section Refinement

variable {U : Type} [Serde LogId] [Serde Vote] [Serde Entry] [Serde EffectiveMembership]
  [Serde SnapshotMeta]

/-- The world holds the node: its log half lies on disk, and its state machine shows. -/
structure Refines (stateStore : Option StateStore) (n : NodeData U) (w : World U) : Prop where
  hard : HoldsHard (storeOf stateStore) n.hard w
  data : Shows (dataHandle stateStore) n.applied (w.withFaults [])
  disk : stateStore = some .file → w.stateDb.backing = .disk

variable {env : Env U} {effect : Request → U → U} {stateStore : Option StateStore} {n : NodeData U}
  {w w' : World U}

omit [Serde SnapshotMeta] in
/-- What the storage does to the coming tasks is no part of the node. -/
theorem Refines.withFaults (faults : List Bool) :
    Refines stateStore n (w.withFaults faults) ↔ Refines stateStore n w := by
  constructor
  · rintro ⟨hhard, hdata, hdisk⟩
    exact ⟨(HoldsHard.withFaults faults).1 hhard, hdata, hdisk⟩
  · rintro ⟨hhard, hdata, hdisk⟩
    exact ⟨(HoldsHard.withFaults faults).2 hhard, hdata, hdisk⟩

omit [Serde EffectiveMembership] [Serde SnapshotMeta] in
/-- The rows tell the hard state apart. -/
theorem HardOf.unique {s s' : HardState} {d : Database U} (h : HardOf s d) (h' : HardOf s' d) : s = s' := by
  have hvote : s.vote = s'.vote := map_encoded_inj (h.vote.symm.trans h'.vote)
  have hpurged : s.log.purged = s'.log.purged := map_encoded_inj (h.purged.symm.trans h'.purged)
  obtain ⟨t, ht, hrows⟩ := h.rows
  obtain ⟨t', ht', hrows'⟩ := h'.rows
  obtain rfl : t = t' := Option.some.inj (ht.symm.trans ht')
  have hentries : s.log.entries = s'.log.entries := by
    funext i
    have hrecord := (hrows.lookup i).symm.trans (hrows'.lookup i)
    refine Option.map_injective (fun e e' he => encoded_inj ?_) hrecord
    exact congrArg LogRecord.entry he
  obtain ⟨v, entries, purged⟩ := s
  obtain ⟨v', entries', purged'⟩ := s'
  subst hvote hpurged hentries
  rfl

omit [Serde SnapshotMeta] in
/-- A world holds one node. -/
theorem Refines.unique {n' : NodeData U} (h : Refines stateStore n w) (h' : Refines stateStore n' w) : n = n' := by
  obtain ⟨d, hr, hd, -⟩ := h.hard
  obtain ⟨d', hr', hd', -⟩ := h'.hard
  obtain rfl : d = d' := by simpa using (Eq.symm hr).trans hr'
  have happlied : n.applied = n'.applied := h.data.unique h'.data
  have hhard : n.hard = n'.hard := hd.unique hd'
  cases n
  cases n'
  subst happlied hhard
  rfl

/-! ## The log half -/

section LogHalf

/-- The state machine, wherever its rows are. -/
def KeepsData (stateStore : Option StateStore) (v : Applied U) : World U → World U → Prop :=
  Keeps fun w => Shows (dataHandle stateStore) v (w.withFaults []) ∧
    (stateStore = some .file → w.stateDb.backing = .disk)

instance (v : Applied U) : Std.Refl (KeepsData stateStore v) := ⟨fun _ h => h⟩

instance (v : Applied U) : IsTrans (World U) (KeepsData stateStore v) := ⟨fun _ _ _ h h' p => h' (h p)⟩

omit [Serde SnapshotMeta] in
/-- A write of the log half leaves the state machine, also in the database it shares. -/
theorem write_keepsData (a : LogWrite) (v : Applied U) :
    ((storeOf stateStore).log.execute (.onMain a.stmt)).run.Within (KeepsData stateStore v) := by
  have hnext : ∀ w : World U, KeepsData stateStore v w w.nextFault.2 := by
    rintro w ⟨hshows, hdisk⟩
    rw [World.nextFault_snd]
    exact ⟨hshows, hdisk⟩
  refine StorageHandle.within_submitTask hnext ?_
  rintro w ⟨hshows, hdisk⟩
  rw [World.nextFault_snd]
  cases stateStore with
  | some path => exact ⟨⟨rfl, hshows.reads, hshows.log, hshows.membership⟩, hdisk⟩
  | none =>
    refine ⟨?_, nofun⟩
    obtain ⟨d, t, hr, ht, hd⟩ := hshows.reads
    have hs : w.logDb.session = some ⟨d, none⟩ := hr
    rcases Connection.step_onMain_cases w.logDb a.stmt with ⟨s, d', out, hs', hstmt, hstep⟩ | ⟨e, hstep⟩
    · rw [hs] at hs'
      cases hs'
      have hsome : d'.kvStates.isSome := by rw [(LogWrite.stmt_keeps hstmt).1, ht]; rfl
      obtain ⟨t', ht'⟩ := Option.isSome_iff_exists.1 hsome
      refine ⟨rfl, ⟨d', t', ?_, ht', hd.stmt hstmt⟩, hshows.log, hshows.membership⟩
      show (w.logDb.step (.onMain a.stmt)).1.session = _
      rw [hstep]
    · refine ⟨rfl, ⟨d, t, ?_, ht, hd⟩, hshows.log, hshows.membership⟩
      show (w.logDb.step (.onMain a.stmt)).1.session = _
      rw [hstep]
      exact hs

omit [Serde SnapshotMeta] in
theorem commitAll_keepsData (as : List LogWrite) (v : Applied U) :
    (commitAll (storeOf stateStore) as : StorageResult U Unit).run.Within (KeepsData stateStore v) := by
  induction as with
  | nil => exact within_run_pure ()
  | cons a as ih => exact (write_keepsData a v).run_mapErr.run_bind fun _ => ih

omit [Serde SnapshotMeta] in
/-- Cut off after `k` tasks, a call of the log half has done some first writes. -/
theorem Refines.commitAll_after (h : Refines stateStore n w) (effect : Request → U → U)
    (as : List LogWrite) (k : Nat) :
    ∃ m, Refines stateStore (n.after effect ((as.map NodeAct.log).take m))
      ((commitAll (storeOf stateStore) as : StorageResult U Unit).run.after k w) := by
  obtain ⟨hdata, hdisk⟩ := (commitAll_keepsData as n.applied).after k w ⟨h.data, h.disk⟩
  have hhard := after_commitAll as h.hard k
  have hprefix : (through as w.faults).take k <+: as :=
    (List.take_prefix k _).trans (isPrefix_through as w.faults)
  refine ⟨((through as w.faults).take k).length, ?_⟩
  rw [← List.map_take, ← List.prefix_iff_eq_take.1 hprefix, NodeData.after_log]
  exact ⟨hhard, hdata, hdisk⟩

omit [Serde SnapshotMeta] in
/-- Returned with `Ok`, it has done all of them. -/
theorem Refines.commitAll_ok (h : Refines stateStore n w) (effect : Request → U → U) {as : List LogWrite}
    (hexec : (commitAll (storeOf stateStore) as : StorageResult U Unit).run.exec w = (.ok (), w')) :
    Refines stateStore (n.after effect (as.map .log)) w' := by
  obtain ⟨hdata, hdisk⟩ := (commitAll_keepsData as n.applied).exec w ⟨h.data, h.disk⟩
  obtain ⟨r, w'', hexec', hhard, hok⟩ := exec_commitAll as h.hard
  rw [hexec] at hexec' hdata hdisk
  cases hexec'
  rw [hok.1 rfl] at hhard
  rw [NodeData.after_log]
  exact ⟨hhard, hdata, hdisk⟩

end LogHalf

/-! ## The state machine -/

section StateMachine

omit [Serde EffectiveMembership] [Serde SnapshotMeta] in
theorem HoldsHard.mapDb {store : RaftStore} {s : HardState} {data : StorageHandle}
    {f : Database U → Database U} (h : HoldsHard store s w) (hf : ∀ d, HardOf s d → HardOf s (f d)) :
    HoldsHard store s (World.mapDb data f w) := by
  obtain ⟨d, hr, hd, hdisk⟩ := h
  by_cases hlog : data = store.log
  · subst hlog
    rw [hr.mapDb_eq]
    exact ⟨f d, World.reads_setDb .., hf d hd, by rwa [World.backing_setDb]⟩
  · have hconn : (World.mapDb data f w).conn store.log = w.conn store.log := World.conn_setConn_ne w hlog _
    exact ⟨d, by unfold World.Reads; rwa [hconn], hd, by rwa [hconn]⟩

omit [Serde EffectiveMembership] [Serde SnapshotMeta] in
/-- The rows of the state machine lie under keys of their own. -/
theorem HardOf.putKv {s : HardState} {d : Database U} (h : HardOf s d) {key : String}
    (hvote : voteKey ≠ key) (hpurged : lastPurgedIdKey ≠ key) (v : Value) : HardOf s (d.putKv key v) := by
  refine h.congr ?_ (Database.kv_putKv_ne d hvote v) (Database.kv_putKv_ne d hpurged v)
    (Database.raftLogs_putKv ..)
  rw [Database.isSome_kvStates_putKv]
  exact h.kv

omit [Serde SnapshotMeta] in
/-- The statement of a request leaves the log half, also in the database it shares. -/
theorem HoldsHard.runOn {s : HardState} {v : Applied U} (h : HoldsHard (storeOf stateStore) s w)
    (hshows : Shows (dataHandle stateStore) v w) {req : Request} (hr : RunsOn env effect v.tables req) :
    HoldsHard (storeOf stateStore) s
      (World.runOn (dataHandle stateStore) (RaftStore.clientStatement env req) w) := by
  obtain ⟨d, t, own, n, hreads, ht, hd, hobjects, hstep⟩ := hshows.step_client hr
  have hmap : World.runOn (dataHandle stateStore) (RaftStore.clientStatement env req) w =
      w.setDb (dataHandle stateStore) { d with user := effect req v.tables, own } := by
    unfold World.runOn
    rw [hstep]
    rfl
  rw [hmap, ← hreads.mapDb_eq fun d => { d with user := effect req v.tables, own }]
  exact h.mapDb fun d hd => hd.congr hd.kv rfl rfl rfl

omit [Serde SnapshotMeta] in
/-- **One action of an apply** does to the node what it is for. -/
theorem Refines.onWorld (h : Refines stateStore n w) (hf : w.faults = []) {st : ApplyStep}
    (hst : st.Runs env effect n.applied) :
    Refines stateStore { n with applied := st.onApplied effect n.applied }
      (st.onWorld env (dataHandle stateStore) w) := by
  have hshows := h.data
  rw [World.withFaults_self hf] at hshows
  have hshows' : Shows (dataHandle stateStore) (st.onApplied effect n.applied) _ := hshows.onWorld hst
  refine ⟨?_, by rwa [World.withFaults_self hshows'.faults], fun hfile => ?_⟩
  · cases st with
    | logRow logId => exact h.hard.mapDb fun d hd => hd.putKv (by decide) (by decide) _
    | log logId => exact h.hard
    | exec req => exact h.hard.runOn hshows hst
    | membershipRow mem => exact h.hard.mapDb fun d hd => hd.putKv (by decide) (by decide) _
    | membership mem => exact h.hard
  · have hdisk := h.disk hfile
    subst hfile
    cases st with
    | exec req => exact (Connection.backing_step ..).trans hdisk
    | logRow | log | membershipRow | membership => exact hdisk

omit [Serde SnapshotMeta] in
theorem Refines.replay {steps : List ApplyStep} (h : Refines stateStore n w) (hf : w.faults = [])
    (hsteps : StepsRun env effect n.applied steps) :
    Refines stateStore (n.after effect (steps.map .state))
      (Prog.replay (steps.map (ApplyStep.onWorld env (dataHandle stateStore))) w) := by
  induction steps generalizing n w with
  | nil => exact h
  | cons st steps ih =>
    have hshows := h.data
    rw [World.withFaults_self hf] at hshows
    exact ih (h.onWorld hf hsteps.1) (hshows.onWorld hsteps.1).faults hsteps.2

omit [Serde Vote] [Serde Entry] [Serde SnapshotMeta] in
/-- An apply as a call of the store. -/
theorem applyCall_follows (stateStore : Option StateStore) {v : Applied U} {entries : List Entry}
    (hconfined : Confined env effect v.tables entries) :
    (do
      let _ ← (storeOf stateStore).applyToStateMachine env entries
      pure () : StorageResult U Unit).run.Follows
      (applyMoves env effect (dataHandle stateStore) v (entries.flatMap stepsOf)) (OkAnd fun _ => True) := by
  rw [← List.append_nil (applyMoves ..)]
  exact (applyToStateMachine_follows (storeOf stateStore) hconfined).run_bind fun _ _ => follows_run_pure trivial

/-- On a sound storage, after `m` of its tasks and writes of fields. -/
theorem Refines.apply_after (h : Refines stateStore n w) {entries : List Entry}
    (hconfined : Confined env effect n.applied.tables entries) (m : Nat) :
    Refines stateStore (n.after effect ((StoreCall.applyToStateMachine entries).acts.take m))
      (((StoreCall.applyToStateMachine entries).run env (storeOf stateStore)).run.after m (w.withFaults [])) := by
  have hsteps := hconfined.stepsRun
  have hrun := (applyCall_follows stateStore hconfined).after (h.data.moves hsteps) m
  rw [StoreCall.run, hrun, map_does_applyMoves, ← List.map_take]
  unfold StoreCall.acts
  rw [← List.map_take]
  exact ((Refines.withFaults []).2 h).replay rfl (hsteps.take m)

end StateMachine

/-! ## The calls -/

section Calls

omit [Serde SnapshotMeta] in
/-- A snapshot that is built changes neither half. -/
theorem Refines.quiet (h : Refines stateStore n w) (hq : Quiet w w') : Refines stateStore n w' := by
  have hsound : Quiet (w.withFaults []) (w'.withFaults []) :=
    ⟨fun handle => by simpa using hq.conn handle, hq.log, hq.membership, fun _ => rfl⟩
  exact ⟨h.hard.quiet hq, h.data.quiet hsound, fun hfile => (hq.conn .stateDb).backing.trans (h.disk hfile)⟩

/-- **Cut off anywhere, on whatever storage, a call has done some first acts.** -/
theorem Refines.call_after (h : Refines stateStore n w) {call : StoreCall}
    (hplain : call.Plain env effect n.applied.tables) (faults : List Bool) (k : Nat) :
    ∃ m, Refines stateStore (n.after effect (call.acts.take m))
      ((call.run env (storeOf stateStore)).run.after k (w.withFaults faults)) := by
  have hfaults := (Refines.withFaults faults).2 h
  rcases call.plain_cases hplain with hcall | ⟨entries, rfl, hconfined⟩ | rfl
  · rw [run_eq_commitAll hcall, call.acts_eq_writes hcall]
    exact hfaults.commitAll_after effect call.writes k
  · obtain ⟨m, hstopped⟩ := (failStop_run env (storeOf stateStore) (.applyToStateMachine entries)).stopped
      (w.withFaults []) faults k rfl
    refine ⟨m, (Refines.withFaults []).1 ?_⟩
    rw [World.withFaults_withFaults] at hstopped
    rw [hstopped]
    exact h.apply_after hconfined m
  · have hquiet := ((within_buildSnapshot env (storeOf stateStore)).run_bind fun _ =>
      within_run_pure ()).after k (w.withFaults faults)
    exact ⟨0, hfaults.quiet hquiet⟩

/-- **Returned with `Ok`, it has done all of them.** -/
theorem Refines.call_ok (h : Refines stateStore n w) {call : StoreCall}
    (hplain : call.Plain env effect n.applied.tables) {faults : List Bool}
    (hexec : (call.run env (storeOf stateStore)).run.exec (w.withFaults faults) = (.ok (), w')) :
    Refines stateStore (n.after effect call.acts) w' := by
  have hfaults := (Refines.withFaults faults).2 h
  rcases call.plain_cases hplain with hcall | ⟨entries, rfl, hconfined⟩ | rfl
  · rw [run_eq_commitAll hcall] at hexec
    rw [call.acts_eq_writes hcall]
    exact hfaults.commitAll_ok effect hexec
  · obtain ⟨faults', t, hsound, rfl⟩ :=
      (failStop_run env (storeOf stateStore) (.applyToStateMachine entries)).exec_ok
        (w := w.withFaults []) rfl hexec
    have hsteps := Confined.stepsRun (v := n.applied) hconfined
    obtain ⟨-, hrun⟩ := (applyCall_follows stateStore hconfined).exec (h.data.moves hsteps)
    rw [StoreCall.run] at hsound
    rw [hsound, map_does_applyMoves] at hrun
    have ht : t = Prog.replay _ (w.withFaults []) := hrun
    rw [ht]
    exact (Refines.withFaults faults').2 (((Refines.withFaults []).2 h).replay rfl hsteps)
  · have hquiet := ((within_buildSnapshot env (storeOf stateStore)).run_bind fun _ =>
      within_run_pure ()).exec (w.withFaults faults)
    have hquiet : Quiet (w.withFaults faults) ((StoreCall.buildSnapshot.run env
      (storeOf stateStore)).run.exec (w.withFaults faults)).2 := hquiet
    rw [hexec] at hquiet
    exact hfaults.quiet hquiet

end Calls

/-! ## Opening again -/

section Restart

omit [Serde SnapshotMeta] in
/-- What an open finds of the node. -/
theorem Refines.found (h : Refines stateStore n w) :
    LogNode env stateStore (n.restarted env stateStore).applied n.hard w := by
  refine ⟨h.hard, ?_⟩
  obtain ⟨d, t, hr, ht, hd⟩ := h.data.reads
  rcases stateStore with _ | _ | _
  · obtain ⟨d', hr', -, hdisk⟩ := h.hard
    have hsession : w.logDb.session = some ⟨d, none⟩ := hr
    have hdurable : w.logDb.durable = some d := Connection.durable_of_disk hdisk hsession
    have hfound : foundData env none w = atRest d := congrArg (Option.elim · _ _) hdurable
    rw [hfound]
    exact ⟨hd.logRow, hd.membershipRow, hd.tables, hd.atRest.clear, rfl⟩
  · exact stored_memory env w
  · have hsession : w.stateDb.session = some ⟨d, none⟩ := hr
    have hdurable : w.stateDb.durable = some d := Connection.durable_of_disk (h.disk rfl) hsession
    have hfound : foundData env (some .file) w = atRest d := congrArg (Option.elim · _ _) hdurable
    rw [hfound]
    exact ⟨hd.logRow, hd.membershipRow, hd.tables, hd.atRest.clear, rfl⟩

omit [Serde SnapshotMeta] in
/-- An open that returned `Ok` finds a node whose fields are those of its rows. -/
theorem Refines.of_opened {v : Applied U} {s : HardState} {w₀ : World U} (hf : w₀.faults = [])
    (hlog : HardOf s (Replicat.found env .file w₀.logDb).withLogs.withKv)
    (hdata : Stored v (foundData env stateStore w₀)) (hl : v.log = v.logRow)
    (hm : v.membership = v.membershipRow.getD default) {faults : List Bool} {store : RaftStore}
    (hopen : (RaftStore.openStore env stateStore).run.exec (w₀.withFaults faults) = (.ok store, w')) :
    Refines stateStore ⟨s, v⟩ w' := by
  obtain ⟨faults', rfl, hnode⟩ := openStore_node_ok hf hlog hdata hopen
  have hshows : Shows (dataHandle stateStore) v (opened env stateStore v w₀) := opened_shows ⟨hf, hdata⟩ hl hm
  refine ⟨hnode.hard, ?_, ?_⟩
  · rwa [World.withFaults_withFaults, World.withFaults_self hshows.faults]
  · rintro rfl
    rfl

omit [Serde SnapshotMeta] in
/-- **The process ends, and the store is opened again.** -/
theorem Refines.restart (h : Refines stateStore n w) {faults : List Bool} {store : RaftStore}
    (hopen : (RaftStore.openStore env stateStore).run.exec (w.crash.withFaults faults) = (.ok store, w')) :
    Refines stateStore (n.restarted env stateStore) w' := by
  have hfound : LogNode env stateStore _ n.hard w := h.found
  obtain ⟨hlog, hdata⟩ := hfound.crash
  obtain ⟨hl, hm⟩ := n.fields_restarted env stateStore
  exact .of_opened rfl hlog hdata hl hm hopen

omit [Serde SnapshotMeta] in
/-- A store opened on an empty disk holds the node that has nothing. -/
theorem Refines.fresh {faults : List Bool} {store : RaftStore}
    (hopen : (RaftStore.openStore env stateStore).run.exec (World.fresh.withFaults faults) = (.ok store, w)) :
    Refines stateStore ⟨.empty, unapplied env⟩ w := by
  obtain ⟨hf, hstored⟩ := finds_fresh env (fun _ t => t) stateStore
  exact .of_opened hf (hardOf_absent env) hstored rfl rfl hopen

end Restart

/-! ## Reading -/

section Read

/-- Nothing changes but the coming faults. -/
def Idle (w w' : World U) : Prop := w'.withFaults [] = w.withFaults []

instance : Std.Refl (Idle (U := U)) := ⟨fun _ => rfl⟩

instance : IsTrans (World U) Idle := ⟨fun _ _ _ h h' => Eq.trans h' h⟩

/-- A program that reads, and stops at the task that fails. -/
structure Reading {ε α : Type} (x : Fallible (World U) ε α) : Prop where
  failStop : FailStop x.run
  idle : x.run.Within Idle

namespace Reading

variable {ε ε' α β : Type}

omit [Serde LogId] [Serde Vote] [Serde Entry] [Serde EffectiveMembership] [Serde SnapshotMeta]

theorem run_pure (a : α) : Reading (pure a : Fallible (World U) ε α) := ⟨.run_pure a, within_run_pure a⟩

theorem run_liftResult (r : Except ε α) : Reading (liftResult r : Fallible (World U) ε α) :=
  ⟨.run_liftResult r, within_run_liftResult r⟩

theorem run_liftAct {f : World U → α} (hf : ∀ w fs, f (w.withFaults fs) = f w) :
    Reading (liftAct fun w => (f w, w) : Fallible (World U) ε α) :=
  ⟨.run_liftAct fun w fs => by rw [hf], within_run_liftAct fun _ => rfl⟩

theorem run_bind {x : Fallible (World U) ε α} {k : α → Fallible (World U) ε β} (hx : Reading x)
    (hk : ∀ a, Reading (k a)) : Reading (x >>= k) :=
  ⟨hx.failStop.run_bind fun a => (hk a).failStop, hx.idle.run_bind fun a => (hk a).idle⟩

theorem run_mapErr {g : ε → ε'} {x : Fallible (World U) ε α} (hx : Reading x) : Reading (mapErr g x) :=
  ⟨hx.failStop.run_mapErr, hx.idle.run_mapErr⟩

theorem decodeOption [Serde α] (f : AnyError → ε) (data : Option Bytes) :
    Reading (Replicat.decodeOption f data : StoreM U ε (Option α)) :=
  ⟨failStop_decodeOption f data, within_decodeOption f data⟩

/-- A statement that finds the contents as it leaves them. -/
theorem submitTask {h : StorageHandle} {f : Stmt U}
    {task : Connection (Database U) → Connection (Database U) × Except SqlError α}
    (hf : ∀ d d' out, f d = .ok (d', out) → d' = d) (ht : ∀ c, (task c).1 = (c.step (.onMain f)).1) :
    Reading (h.submitTask task : StoreM U SqlError α) := by
  refine ⟨failStop_submitTask _, StorageHandle.within_still (fun w => ?_) fun c => ?_⟩
  · show w.nextFault.2.withFaults [] = w.withFaults []
    rw [World.nextFault_snd, World.withFaults_withFaults]
  · rw [ht]
    rcases Connection.step_onMain_cases c f with ⟨s, d, out, hs, hstmt, hstep⟩ | ⟨e, hstep⟩
    · rw [hstep, hf _ _ _ hstmt]
      show { c with session := some s } = c
      rw [← hs]
    · rw [hstep]

theorem fetchOne {h : StorageHandle} {f : Stmt U} (hf : ∀ d d' out, f d = .ok (d', out) → d' = d)
    (fromRow : Row → Except SqlError α) : Reading (h.fetchOne (.onMain f) fromRow) :=
  submitTask hf fun _ => rfl

theorem fetchAll {h : StorageHandle} {f : Stmt U} (hf : ∀ d d' out, f d = .ok (d', out) → d' = d)
    (fromRow : Row → Except SqlError α) : Reading (h.fetchAll (.onMain f) fromRow) :=
  submitTask hf fun _ => rfl

theorem fromLogs_same {g : LogTable → List Row} {d d' : Database U} {out : Output}
    (h : fromLogs g d = .ok (d', out)) : d' = d := by
  unfold fromLogs at h
  cases ht : d.logTable with
  | none =>
    rw [ht] at h
    cases h
  | some t =>
    rw [ht] at h
    cases h
    rfl

end Reading

omit [Serde LogId] [Serde Vote] [Serde Entry] [Serde EffectiveMembership] [Serde SnapshotMeta] in
/-- What a read returns it returns of a sound storage too. -/
theorem Reading.exec {α : Type} {p : StorageResult U α} (hp : Reading p) {faults : List Bool}
    {r : Except StorageError α} (hexec : p.run.exec (w.withFaults faults) = (r, w')) :
    w'.withFaults [] = w.withFaults [] ∧ ∀ a, r = .ok a → resultOf p w = .ok a := by
  have hidle : Idle (w.withFaults faults) (p.run.exec (w.withFaults faults)).2 := hp.idle.exec _
  rw [hexec] at hidle
  refine ⟨hidle, ?_⟩
  rintro a rfl
  obtain ⟨_, t, hsound, -⟩ := hp.failStop.exec_ok (w := w.withFaults []) rfl hexec
  show ((p.run.exec (w.withFaults [])).1 : Except StorageError α) = .ok a
  rw [hsound]

/-! ### The calls that read -/

omit [Serde LogId] [Serde Vote] [Serde EffectiveMembership] [Serde SnapshotMeta] in
theorem reading_decodeEntries (datas : List Bytes) :
    Reading (RaftStore.decodeEntries datas : StorageResult U (List Entry)) := by
  induction datas with
  | nil => exact .run_pure []
  | cons data datas ih =>
    exact (Reading.run_liftResult _).run_bind fun _ => ih.run_bind fun _ => .run_pure _

omit [Serde EffectiveMembership] [Serde SnapshotMeta] in
theorem ReadCall.reading (call : ReadCall) {store : RaftStore} {p : StorageResult U ReadReply}
    (hp : call.run env store = some p) : Reading p := by
  have hkv : ∀ {key : String} (d d' : Database U) (out : Output),
      replicatKvSelectValue key d = .ok (d', out) → d' = d := fun _ _ _ => replicatKvSelectValue_same
  cases call with
  | readVote =>
    cases hp
    refine Reading.run_bind ?_ fun _ => .run_pure _
    exact (Reading.fetchOne hkv _).run_mapErr.run_bind fun data => .decodeOption _ data
  | getLogState =>
    cases hp
    refine Reading.run_bind ?_ fun _ => .run_pure _
    refine Reading.run_bind ?_ fun _ => Reading.run_bind ?_ fun _ => .run_pure _
    · exact (Reading.fetchOne (fun _ _ _ => Reading.fromLogs_same) _).run_mapErr.run_bind fun _ => .run_pure _
    · exact (Reading.fetchOne hkv _).run_mapErr.run_bind fun data => .decodeOption _ data
  | tryGetLogEntries checks startBound endBound =>
    obtain ⟨q, hq, rfl⟩ := Option.map_eq_some_iff.1 hp
    obtain ⟨query, -, rfl⟩ := Option.map_eq_some_iff.1 hq
    refine Reading.run_bind ?_ fun _ => .run_pure _
    exact (Reading.fetchAll (fun _ _ _ => Reading.fromLogs_same) _).run_mapErr.run_bind fun datas =>
      reading_decodeEntries datas
  | lastAppliedState =>
    cases hp
    refine Reading.run_bind ?_ fun _ => .run_pure _
    exact (Reading.run_liftAct fun _ _ => rfl).run_bind fun _ =>
      (Reading.run_liftAct fun _ _ => rfl).run_bind fun _ => .run_pure _

omit [Serde LogId] [Serde Vote] [Serde Entry] [Serde EffectiveMembership] [Serde SnapshotMeta] in
theorem resultOf_bind_pure {α β : Type} {x : StorageResult U α} {f : α → β} {a : α}
    (h : resultOf x w = .ok a) : resultOf (x >>= fun a => pure (f a)) w = .ok (f a) := by
  unfold resultOf at h ⊢
  rw [exec_run_bind]
  rcases hx : x.run.exec { w with faults := [] } with ⟨e | b, t⟩ <;> rw [hx] at h <;> cases h
  rfl

omit [Serde SnapshotMeta] in
/-- On a sound storage they answer from the node. -/
theorem Refines.answers (h : Refines stateStore n w) {call : ReadCall} {p : StorageResult U ReadReply}
    (hp : call.run env (storeOf stateStore) = some p)
    {r : Except StorageError ReadReply}
    (hplain : (StoreEvent.read call r).Plain env effect n.applied.tables) :
    ∃ reply, resultOf p w = .ok reply ∧ call.Answers n reply := by
  have hserves : Serves env (storeOf stateStore) n.hard w := h.hard.serves
  cases call with
  | readVote =>
    cases hp
    exact ⟨_, resultOf_bind_pure hserves.vote, rfl⟩
  | getLogState =>
    cases hp
    obtain ⟨last, hstate, hlast⟩ := hserves.state
    exact ⟨_, resultOf_bind_pure hstate, last, hlast, rfl⟩
  | tryGetLogEntries checks startBound endBound =>
    obtain ⟨q, es, hq, hes, hmem⟩ := hserves.entries checks startBound endBound hplain
    obtain ⟨q', hq', rfl⟩ := Option.map_eq_some_iff.1 hp
    rw [hq] at hq'
    cases hq'
    exact ⟨_, resultOf_bind_pure hes, es, rfl, hmem⟩
  | lastAppliedState =>
    cases hp
    refine ⟨_, rfl, ?_⟩
    show ReadReply.applied w.lastAppliedLog w.lastMembership = _
    rw [show w.lastAppliedLog = n.applied.log from h.data.log,
      show w.lastMembership = n.applied.membership from h.data.membership]

end Read

/-! ## Every trace -/

omit [Serde SnapshotMeta] in
/-- The tables that an event meets are those of the node. -/
theorem Refines.met (h : Refines stateStore n w) {ok : U → StoreEvent → Prop} {e : StoreEvent} :
    MetIn stateStore ok w e ↔ MetBy ok n e := by
  obtain ⟨d, t, hr, -, hd⟩ := h.data.reads
  have hreads : w.Reads (dataHandle stateStore) d := by
    unfold World.Reads at hr ⊢
    rwa [World.conn_withFaults] at hr
  constructor
  · intro hmet
    have hok := hmet d hreads
    rwa [hd.tables] at hok
  · rintro hmet d' hr'
    obtain rfl : d' = d := by simpa using (Eq.symm hr').trans hreads
    rw [hd.tables]
    exact hmet

/-- **One event of the code is one event of the specification.** -/
theorem node_simulation (env : Env U) (effect : Request → U → U) (stateStore : Option StateStore) :
    Lts.Simulation ((nodeSystem env stateStore).guard (MetIn stateStore (StoreEvent.Plain env effect)))
      (nodeSpec env effect stateStore) fun w n => Refines stateStore n w where
  start := by
    rintro w ⟨faults, store, hopen⟩
    exact ⟨_, rfl, .fresh hopen⟩
  step := by
    rintro w e w' n ⟨hmet, hstep⟩ h
    have hplain : e.Plain env effect n.applied.tables := h.met.1 hmet
    cases hstep with
    | call call faults hexec =>
      rename_i r
      cases r with
      | ok u => exact ⟨_, .done call, h.call_ok hplain hexec⟩
      | error e =>
        obtain ⟨k, hk⟩ := exists_after_exec (call.run env (storeOf stateStore)).run (w.withFaults faults)
        obtain ⟨m, hm⟩ := h.call_after hplain faults k
        rw [hk, hexec] at hm
        exact ⟨_, .failed call e m, hm⟩
    | read call faults hp hexec =>
      rename_i p r
      obtain ⟨hidle, hok⟩ := (call.reading hp).exec hexec
      have h' : Refines stateStore n w' := by
        rw [← Refines.withFaults [], hidle]
        exact (Refines.withFaults []).2 h
      cases r with
      | error e => exact ⟨n, .readFailed call e, h'⟩
      | ok reply =>
        obtain ⟨reply', hreply, hanswers⟩ := h.answers hp hplain
        rw [hok reply rfl] at hreply
        cases hreply
        exact ⟨n, .read hanswers, h'⟩
    | cutOff call faults faults' k hopen =>
      obtain ⟨m, hm⟩ := h.call_after hplain faults k
      exact ⟨_, .cutOff call m, hm.restart hopen⟩
    | restart faults hopen => exact ⟨_, .restart, h.restart hopen⟩

/-- **The store refines its specification**: every trace of the code whose events are plain on the
tables they meet is a trace of the specification, whatever the storage and wherever the process
ends, and ends in a world that holds the node. -/
theorem store_refines_spec {env : Env U} {effect : Request → U → U} {stateStore : Option StateStore}
    {events : List StoreEvent} {w : World U}
    (hrun : ((nodeSystem env stateStore).guard (MetIn stateStore (StoreEvent.Plain env effect))).Trace
      events w) :
    ∃ n, (nodeSpec env effect stateStore).Trace events n ∧ Refines stateStore n w :=
  (node_simulation env effect stateStore).trace hrun

end Refinement

/-- An entry is applied, the process ends, and the next one reads its position. -/
theorem store_refines_spec_reopened : ∃ n w,
    (nodeSpec catalogEnv catalogEffect (some .file)).Trace
      [.call (.applyToStateMachine [notesEntry 1]) (.ok ()), .restart,
        .read .lastAppliedState (.ok (.applied (some (logIdAt 1)) default))] n ∧
      Refines (some .file) n w := by
  have hplain : ∀ tables : Catalog,
      StoreCall.Plain catalogEnv catalogEffect tables (.applyToStateMachine [notesEntry 1]) := confined_notes
  obtain ⟨w₀, hopen, -, hf⟩ := openStore_fresh catalogEnv (some .file)
  have hfresh : (RaftStore.openStore catalogEnv (some .file)).run.exec (World.fresh.withFaults []) =
    (.ok (storeOf (some .file)), w₀) := hopen
  have h₀ : Refines (some .file) ⟨.empty, unapplied catalogEnv⟩ w₀ := .fresh hfresh
  have hshows : Shows .stateDb (Applied.at catalogEffect [] []) (w₀.withFaults []) := h₀.data
  obtain ⟨w₁, happly, -⟩ := applyToStateMachine_exec (storeOf (some .file)) (hplain _) hshows
  have hcall : (StoreCall.run catalogEnv (storeOf (some .file)) (.applyToStateMachine [notesEntry 1])).run.exec
      (w₀.withFaults []) = (.ok (), w₁) := (exec_run_bind_ok happly).trans rfl
  have h₁ := h₀.call_ok (hplain _) hcall
  obtain ⟨w₂, hreopen, -, -⟩ := LogNode.reopen (h₁.found : LogNode catalogEnv _ _ _ _)
  have h₂ := h₁.restart hreopen
  have hlog : w₂.lastAppliedLog = some (logIdAt 1) := h₂.data.log
  have hmembership : w₂.lastMembership = default := h₂.data.membership
  have hread : (nodeSystem catalogEnv (some .file)).step w₂
      (.read .lastAppliedState (.ok (.applied (some (logIdAt 1)) default))) (w₂.withFaults []) := by
    rw [← hlog, ← hmembership]
    exact .read .lastAppliedState [] rfl rfl
  have hrun : ((nodeSystem catalogEnv (some .file)).guard
      (MetIn (some .file) (StoreEvent.Plain catalogEnv catalogEffect))).Trace
      ([] ++ [.call (.applyToStateMachine [notesEntry 1]) (.ok ())] ++ [.restart] ++
        [.read .lastAppliedState (.ok (.applied (some (logIdAt 1)) default))]) _ :=
    .step (.step (.step (.start ⟨[], _, hfresh⟩) ⟨fun _ _ => hplain _, .call _ [] hcall⟩)
      ⟨fun _ _ => trivial, .restart [] hreopen⟩) ⟨fun _ _ => trivial, hread⟩
  obtain ⟨n, htrace, hrefines⟩ := store_refines_spec hrun
  exact ⟨n, _, htrace, hrefines⟩

end Replicat
