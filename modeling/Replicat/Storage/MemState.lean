import Replicat.Storage.LogWrites
import Replicat.Storage.SnapshotFile

/-!
# A store whose state machine is in memory

`open_with_mem_state` keeps the log on disk, and loses the state machine with the process. What
had been applied is there again after a reopen when it is in the log or under a snapshot. But
the metadata row of a snapshot is in the database that is lost, so `rebuilt_iff`: it is there
exactly when it is in the log.
-/

namespace Replicat

open Sqlite Atomics Atomics.Prog LogWrite

variable {U : Type}

/-- The store `open_with_mem_state` returns. -/
abbrev memStore : RaftStore := storeOf (some .memory)

/-- The entries a call hands to the state machine. -/
def StoreCall.applies : StoreCall → List Entry
  | applyToStateMachine entries => entries
  | _ => []

section Rebuilt

variable [Serde LogId] [Serde EffectiveMembership] [Serde SnapshotMeta] [Serde Entry]

/-- The entry is returned by `try_get_log_entries`, or the snapshot covers it. -/
def Recoverable (env : Env U) (w : World U) (e : Entry) : Prop :=
  (∀ checks, ∃ p es, memStore.tryGetLogEntries env checks .unbounded .unbounded = some p ∧
    (p.run.exec w).1 = .ok es ∧ e ∈ es) ∨
  ∃ snap last, currentSnapshot memStore w = .ok (some snap) ∧ snap.metadata.lastLogId = some last ∧
    e.index ≤ last.index.toNat

/-- The process ends and the store is opened again on the same path: every entry that was
applied can be had. -/
def Rebuilt (env : Env U) (w : World U) (applied : List Entry) : Prop :=
  ∃ store w', (RaftStore.openWithMemState env).run.exec (w.crash.withFaults []) = (.ok store, w') ∧
    ∀ e ∈ applied, Recoverable env w' e

end Rebuilt

section Runs

variable [Serde LogId] [Serde Vote] [Serde Entry] [Serde EffectiveMembership] [Serde SnapshotMeta]

/-- Calls on a store opened with `open_with_mem_state`, closed and opened again at any time:
the node, what its log is, and what was applied. -/
inductive MemRun (env : Env U) (ok : HardState → List Entry → StoreCall → Prop) :
    World U → HardState → List Entry → Prop where
  | opened {w faults store} :
      (RaftStore.openWithMemState env).run.exec (World.fresh.withFaults faults) = (.ok store, w) →
      MemRun env ok w .empty []
  | reopened {w w' s applied faults store} : MemRun env ok w s applied →
      (RaftStore.openWithMemState env).run.exec (w.crash.withFaults faults) = (.ok store, w') →
      MemRun env ok w' s applied
  | call {w w' s applied faults r} (call : StoreCall) : MemRun env ok w s applied → ok s applied call →
      (call.run env memStore).run.exec (w.withFaults faults) = (r, w') →
      MemRun env ok w' (s.after (through call.writes faults)) (applied ++ call.applies)

/-- The call leaves what was applied in the log: an entry is applied from the log, is not
appended over by another one, and is neither purged nor deleted. -/
def KeepsApplied (s : HardState) (applied : List Entry) : StoreCall → Prop
  | .appendToLog es => ∀ e ∈ es, ∀ a ∈ applied, e.index = a.index → e = a
  | .applyToStateMachine es => ∀ e ∈ es, s.log.entries e.index = some e
  | .purgeLogsUpto logId => ∀ a ∈ applied, logId.index.toNat < a.index
  | .deleteConflictLogsSince logId => ∀ a ∈ applied, a.index < logId.index.toNat
  | .saveVote _ | .buildSnapshot | .installSnapshot _ _ => True

/-! ## What a reopen finds -/

section Reopen

variable {env : Env U} {v : Applied U} {s : HardState} {w w' : World U}

omit [Serde Vote] [Serde Entry] in
/-- The state machine starts from nothing, and so does its snapshot. -/
theorem memState_no_snapshot {store : RaftStore}
    (hopen : (RaftStore.openWithMemState env).run.exec (w.crash.withFaults []) = (.ok store, w')) :
    currentSnapshot memStore w' = .ok none := by
  have hstored : Stored (Applied.at (fun _ tables => tables) env.emptyUser [])
      (foundData env (some .memory) (w.crash.withFaults [])) := ⟨rfl, rfl, rfl, rfl, rfl⟩
  unfold RaftStore.openWithMemState at hopen
  rw [openStore_exec rfl hstored] at hopen
  cases hopen
  rw [currentSnapshot_eq]
  rfl

/-- **What a reopen recovers** is what is in the log. -/
theorem rebuilt_iff (h : LogNode env (some .memory) v s w) (applied : List Entry) :
    Rebuilt env w applied ↔ ∀ e ∈ applied, s.log.entries e.index = some e := by
  obtain ⟨w', hopen, hnode, hf⟩ := h.reopen
  have hsnap := memState_no_snapshot hopen
  obtain ⟨d, hr, hd, -⟩ := hnode.hard
  obtain ⟨t, ht, hrows⟩ := hd.rows
  have hread : ∀ checks, ∃ p es, memStore.tryGetLogEntries env checks .unbounded .unbounded = some p ∧
      (p.run.exec w').1 = .ok es ∧ ∀ e, e ∈ es ↔ s.log.entries e.index = some e := by
    intro checks
    have hrange : ∃ i, i < 2 ^ 64 ∧ InRange .unbounded .unbounded i := ⟨0, by decide, trivial, trivial⟩
    obtain ⟨p, es, hp, hexec, -, hmem⟩ := tryGetLogEntries_rows hf hr ht hrows hd.keyed checks hrange
    refine ⟨p, es, hp, by rw [hexec], fun e => ?_⟩
    have hiff := hmem e.index e
    simpa [InRange, AtLeast, AtMost] using hiff
  constructor
  · rintro ⟨store, w'', hopen', hall⟩ e he
    obtain rfl : w' = w'' := congrArg Prod.snd (hopen.symm.trans hopen')
    rcases hall e he with hlog | ⟨snap, last, hcurrent, -⟩
    · obtain ⟨p, es, hp, hes, hmem⟩ := hlog false
      obtain ⟨p', es', hp', hes', hiff⟩ := hread false
      obtain rfl : p = p' := Option.some.inj (hp.symm.trans hp')
      obtain rfl : es = es' := Except.ok.inj (hes.symm.trans hes')
      exact (hiff e).1 hmem
    · rw [hsnap] at hcurrent
      cases hcurrent
  · intro hlogged
    refine ⟨memStore, w', hopen, fun e he => .inl fun checks => ?_⟩
    obtain ⟨p, es, hp, hes, hiff⟩ := hread checks
    exact ⟨p, es, hp, hes, (hiff e).2 (hlogged e he)⟩

end Reopen

/-! ## The calls -/

section Calls

variable {env : Env U} {v : Applied U} {s : HardState} {w w' : World U}

omit [Serde EffectiveMembership] [Serde SnapshotMeta] in
theorem HoldsHard.quiet {store : RaftStore} (h : HoldsHard store s w) (hq : Quiet w w') :
    HoldsHard store s w' := by
  obtain ⟨d, hr, hd, hdisk⟩ := h
  have hconn := hq.conn store.log
  obtain ⟨⟨d', saved⟩, hs', hsame, hsaved⟩ := hconn.session _ hr
  cases hsaved
  refine ⟨d', hs', hd.congr ?_ ?_ ?_ hsame.raftLogs, hconn.backing.trans hdisk⟩
  · rw [hsame.kvStates]
    exact hd.kv
  · exact hsame.kv _ (by decide) (by decide)
  · exact hsame.kv _ (by decide) (by decide)

/-- The connection of the log is not touched. -/
def KeepsLogDb (w w' : World U) : Prop := w'.logDb = w.logDb

instance : Std.Refl (KeepsLogDb (U := U)) := ⟨fun _ => rfl⟩

instance : IsTrans (World U) KeepsLogDb := ⟨fun _ _ _ h h' => Eq.trans h' h⟩

omit [Serde LogId] [Serde Vote] [Serde Entry] [Serde EffectiveMembership] [Serde SnapshotMeta] in
theorem stateTask_keepsLogDb {α : Type}
    (task : Connection (Database U) → Connection (Database U) × Except SqlError α) :
    (StorageHandle.stateDb.submitTask task).run.Within KeepsLogDb :=
  have hnext : ∀ w : World U, KeepsLogDb w w.nextFault.2 := fun w => World.conn_nextFault w .logDb
  StorageHandle.within_submitTask hnext hnext

omit [Serde EffectiveMembership] [Serde SnapshotMeta] in
theorem HoldsHard.keepsLogDb (h : HoldsHard memStore s w) (hw : KeepsLogDb w w') :
    HoldsHard memStore s w' := by
  have hconn : w'.conn memStore.log = w.conn memStore.log := hw
  unfold HoldsHard World.Reads at h ⊢
  rwa [hconn]

/-- A call of the state machine half leaves the log. -/
theorem HoldsHard.stateCall (h : HoldsHard memStore s w) {call : StoreCall} (hcall : ¬ call.onLogHalf) :
    HoldsHard memStore s ((call.run env memStore).run.exec w).2 := by
  cases call with
  | saveVote => exact absurd rfl hcall
  | appendToLog => exact absurd rfl hcall
  | deleteConflictLogsSince => exact absurd rfl hcall
  | purgeLogsUpto => exact absurd rfl hcall
  | applyToStateMachine entries =>
    have happly : (memStore.applyEntries env entries []).run.Within KeepsLogDb :=
      applyEntries_within entries [] (fun _ _ _ => stateTask_keepsLogDb _) (fun _ _ => rfl) (fun _ _ => rfl)
        fun _ _ _ _ => stateTask_keepsLogDb _
    exact h.keepsLogDb ((happly.run_bind fun _ => within_run_pure ()).exec w)
  | buildSnapshot =>
    exact h.quiet (((within_buildSnapshot env memStore).run_bind fun _ => within_run_pure ()).exec w)
  | installSnapshot metadata snapshot =>
    have hmeta : (writeSnapshotMeta .stateDb metadata : StoreM U AnyError Unit).run.Within KeepsLogDb :=
      (within_run_liftResult _).run_bind fun _ =>
        (stateTask_keepsLogDb _).run_mapErr.run_bind fun _ => within_run_pure ()
    have hinstall : (memStore.installSnapshot env metadata snapshot).run.Within KeepsLogDb :=
      (within_run_liftResult _).run_bind fun _ =>
        (stateTask_keepsLogDb _).run_mapErr.run_bind fun _ => hmeta.run_mapErr
    exact h.keepsLogDb (hinstall.exec w)

/-- **After any call the log is what its writes made of it.** -/
theorem HoldsHard.call (env : Env U) (h : HoldsHard memStore s w) (call : StoreCall) :
    HoldsHard memStore (s.after (through call.writes w.faults)) ((call.run env memStore).run.exec w).2 := by
  by_cases hcall : call.onLogHalf = true
  · rw [run_eq_commitAll hcall]
    obtain ⟨r, w', hexec, hw', -⟩ := exec_commitAll call.writes h
    rw [hexec]
    exact hw'
  · have hwrites : call.writes = [] := by
      cases call <;> first | rfl | exact absurd rfl hcall
    rw [hwrites]
    exact h.stateCall hcall

omit [Serde Vote] [Serde Entry] [Serde SnapshotMeta] in
/-- Nothing is found of a state machine in memory. -/
theorem stored_memory (env : Env U) (w : World U) :
    Stored (Applied.at (fun _ tables => tables) env.emptyUser []) (foundData env (some .memory) w) :=
  ⟨rfl, rfl, rfl, rfl, rfl⟩

/-- A call on a sound storage. -/
theorem MemRun.sound {ok : HardState → List Entry → StoreCall → Prop} {applied : List Entry}
    {r : Except StorageError Unit} (call : StoreCall) (h : MemRun env ok w s applied) (hf : w.faults = [])
    (hok : ok s applied call) (hexec : (call.run env memStore).run.exec w = (r, w')) :
    MemRun env ok w' (s.after (through call.writes [])) (applied ++ call.applies) := by
  rw [← World.withFaults_self hf] at hexec
  exact h.call call hok hexec

/-- **In every run** the log is what the writes of the calls made of it. -/
theorem MemRun.node {ok : HardState → List Entry → StoreCall → Prop} {applied : List Entry}
    (h : MemRun env ok w s applied) :
    LogNode env (some .memory) (Applied.at (fun _ tables => tables) env.emptyUser []) s w := by
  induction h with
  | opened hopen => exact .fresh env _ (some .memory) hopen
  | reopened _ hopen ih => exact ih.reopen_ok hopen
  | @call w w' s applied faults r call _ _ hexec ih =>
    have hhard := ((HoldsHard.withFaults faults).2 ih.hard).call env call
    rw [hexec] at hhard
    exact ⟨hhard, stored_memory env w'⟩

end Calls

/-! ## Runs that keep what was applied -/

section Keeps

variable {env : Env U} {s : HardState} {w : World U} {applied : List Entry}

/-- The log has every one of these entries. -/
def Logs (applied : List Entry) (s : HardState) : Prop := ∀ a ∈ applied, s.log.entries a.index = some a

omit [Serde LogId] [Serde Vote] [Serde Entry] [Serde EffectiveMembership] [Serde SnapshotMeta] in
/-- What every write keeps, the writes that get through keep. -/
theorem logs_after {as : List LogWrite} (h : ∀ a ∈ as, ∀ s, Logs applied s → Logs applied (a.onHard s))
    (hs : Logs applied s) (faults : List Bool) : Logs applied (s.after (through as faults)) := by
  have hthrough : ∀ bs : List LogWrite, bs <+: as → Logs applied (s.after bs) := by
    intro bs hbs
    replace hbs := hbs.subset
    induction bs generalizing s with
    | nil => exact hs
    | cons b bs ih =>
      exact ih (h b (hbs List.mem_cons_self) s hs) fun c hc => hbs (List.mem_cons_of_mem b hc)
  exact hthrough _ (isPrefix_through as faults)

omit [Serde LogId] [Serde Vote] [Serde Entry] [Serde EffectiveMembership] [Serde SnapshotMeta] in
/-- A call that keeps what was applied keeps it write by write. -/
theorem KeepsApplied.logs {call : StoreCall} (hcall : KeepsApplied s applied call) (hs : Logs applied s)
    (faults : List Bool) : Logs applied (s.after (through call.writes faults)) := by
  refine logs_after (fun a ha s hs b hb => ?_) hs faults
  cases call with
  | saveVote v =>
    obtain rfl := List.mem_singleton.1 ha
    exact hs b hb
  | appendToLog es =>
    obtain ⟨e, he, rfl⟩ := List.mem_map.1 ha
    by_cases hindex : b.index = e.index
    · obtain rfl := hcall e he b hb hindex.symm
      exact AbstractLog.entries_put_self ..
    · exact (AbstractLog.entries_put_ne s.log hindex).trans (hs b hb)
  | deleteConflictLogsSince logId =>
    obtain rfl := List.mem_singleton.1 ha
    have hbelow := hcall b hb
    show (s.log.deleteFrom logId).entries b.index = some b
    rw [AbstractLog.entries_deleteFrom, if_neg (by omega)]
    exact hs b hb
  | purgeLogsUpto logId =>
    have habove := hcall b hb
    rcases List.mem_pair.1 ha with rfl | rfl
    · exact hs b hb
    · show (if b.index ≤ logId.index.toNat then none else s.log.entries b.index) = some b
      rw [if_neg (by omega)]
      exact hs b hb
  | applyToStateMachine => cases ha
  | buildSnapshot => cases ha
  | installSnapshot => cases ha

theorem MemRun.logs (h : MemRun env KeepsApplied w s applied) : Logs applied s := by
  induction h with
  | opened => exact fun _ ha => nomatch ha
  | reopened _ _ ih => exact ih
  | @call w w' s applied faults r call _ hcall _ ih =>
    have hold := hcall.logs ih faults
    intro a ha
    rcases List.mem_append.1 ha with ha | ha
    · exact hold a ha
    · cases call with
      | applyToStateMachine es => exact hcall a ha
      | _ => cases ha

end Keeps

end Runs

/-! ## A purge under a snapshot -/

/-- A store just opened on an empty disk. -/
def catalogMem : World Catalog :=
  opened catalogEnv (some .memory) (Applied.at catalogEffect [] []) World.fresh

/-- An entry is appended, applied and built into a snapshot. -/
theorem catalogMem_built : ∃ w₁ w₂ w₃ snap s,
    (RaftStore.openWithMemState catalogEnv).run.exec World.fresh = (.ok memStore, catalogMem) ∧
    (memStore.appendToLog [notesEntry 1]).run.exec catalogMem = (.ok (), w₁) ∧
    (memStore.applyToStateMachine catalogEnv [notesEntry 1]).run.exec w₁ = (.ok [⟨⟩], w₂) ∧
    (memStore.buildSnapshot catalogEnv).run.exec w₂ = (.ok snap, w₃) ∧
    snap.metadata.lastLogId = some (logIdAt 1) ∧ w₃.faults = [] ∧
    MemRun catalogEnv KeepsApplied w₃ s [notesEntry 1] ∧ s.log.entries 1 = some (notesEntry 1) := by
  have hfinds := finds_fresh catalogEnv catalogEffect (some .memory)
  have hopen : (RaftStore.openWithMemState catalogEnv).run.exec World.fresh = (.ok memStore, catalogMem) :=
    openStore_exec hfinds.1 hfinds.2
  have hfits : (notesEntry 1).logId.Fits := fits_notesEntry (by decide)
  have hshows : Shows memStore.data (Applied.at catalogEffect [] []) catalogMem := opened_shows hfinds rfl rfl
  have hreads : catalogMem.Reads memStore.log ⟨some ∅, some .empty, [], [], .fresh⟩ := rfl
  have happend := appendToLog_exec memStore hshows.faults hreads rfl hfits
  have hready : ∀ t out, LogReady memStore.log .absent (catalogMem.setDb memStore.log
      (Database.withLogRows ⟨some ∅, some .empty, [], [], .fresh⟩ .empty t out)) :=
    fun t out => ⟨_, ∅, World.reads_setDb .., rfl, rfl⟩
  have hshows₁ : ∀ t out, Shows memStore.data (Applied.at catalogEffect [] []) (catalogMem.setDb memStore.log
      (Database.withLogRows ⟨some ∅, some .empty, [], [], .fresh⟩ .empty t out)) :=
    fun t out => hshows.setDb hreads rfl fun h => h.congr rfl rfl rfl rfl rfl
  have hconfined : Confined catalogEnv catalogEffect (execEntries catalogEffect [] []) [notesEntry 1] :=
    confined_notes _
  obtain ⟨w₂, happly, hshows₂, hready₂⟩ := applyToStateMachine_ready memStore hconfined
    (hshows₁ (RowidTable.empty.upsert (notesEntry 1).index (record (notesEntry 1))) ⟨[], 1⟩) (hready _ _)
  obtain ⟨snap, w₃, hbuild⟩ := buildSnapshot_exec catalogEnv _ (by decide) hshows₂ hready₂
  have hlast := (buildSnapshot_ok hbuild).1.trans hshows₂.log
  have hsound : w₃.faults = [] := (failStop_buildSnapshot catalogEnv memStore).sound_ok hshows₂.faults hbuild
  -- The same calls as a run.
  have hlogged : (HardState.empty.after (through [.entry (notesEntry 1)] [])).log.entries 1 =
      some (notesEntry 1) := rfl
  have hrun : MemRun catalogEnv KeepsApplied catalogMem .empty [] :=
    .opened (show (RaftStore.openWithMemState catalogEnv).run.exec (World.fresh.withFaults []) = _ from hopen)
  have hrun₁ := hrun.sound (.appendToLog [notesEntry 1]) rfl (fun _ _ a ha => nomatch ha) happend
  have hrun₂ := hrun₁.sound (.applyToStateMachine [notesEntry 1]) (hshows₁ _ _).faults
    (fun e he => by obtain rfl := List.mem_singleton.1 he; exact hlogged) (exec_run_bind_ok happly)
  have hrun₃ := hrun₂.sound (.buildSnapshot) hshows₂.faults trivial (exec_run_bind_ok hbuild)
  exact ⟨_, w₂, w₃, snap, _, hopen, happend, happly, hbuild, hlast, hsound, hrun₃, hlogged⟩

end Replicat
