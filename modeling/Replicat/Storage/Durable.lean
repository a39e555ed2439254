import Replicat.Storage.HardState
import Replicat.Storage.Replicas

/-!
# What a state store on disk keeps

`contents` is what the state machine has in its database. A statement leaves the connection
on its file, so closing and opening again finds the same contents; an install takes the
connection off the file for good, and what a later open finds is what the file held then.
-/

namespace Replicat

open Sqlite Atomics Atomics.Prog

variable {U α : Type}

/-- The client tables and the rows `last_applied_log`, `last_membership` and
`snapshot_meta`. -/
def Database.contents (d : Database U) : U × Option Value × Option Value × Option Value :=
  (d.user, d.kv lastLogKey, d.kv lastMembershipKey, d.kv snapshotMetaKey)

/-- The process ends in order, and the store is opened again with the same paths. -/
def reopen [Serde LogId] [Serde EffectiveMembership] (env : Env U) (w : World U) (faults : List Bool) :
    Except AnyError RaftStore × World U :=
  (RaftStore.openStore env (some .file)).run.exec { w.crash with faults }

/-! ## What the connection is backed by -/

/-- The connection of `h` stays on what backs it, and is not closed. -/
def KeepsBacking (h : StorageHandle) (w w' : World U) : Prop :=
  (w'.conn h).backing = (w.conn h).backing ∧
    ((w.conn h).session.isSome → (w'.conn h).session.isSome)

instance (h : StorageHandle) : Std.Refl (KeepsBacking (U := U) h) := ⟨fun _ => ⟨rfl, id⟩⟩

instance (h : StorageHandle) : IsTrans (World U) (KeepsBacking h) :=
  ⟨fun _ _ _ h₁ h₂ => ⟨h₂.1.trans h₁.1, fun hs => h₂.2 (h₁.2 hs)⟩⟩

/-- Once the connection has left its file, the file stays as it was left. -/
abbrev KeepsLeft (h : StorageHandle) (left : Option (Database U)) : World U → World U → Prop :=
  Keeps fun w => (w.conn h).backing = .memory left

section Backing

variable {h h' : StorageHandle}

theorem KeepsBacking.keepsLeft {left : Option (Database U)} {w w' : World U}
    (hw : KeepsBacking h w w') : KeepsLeft h left w w' := fun hleft => hw.1.trans hleft

theorem within_task_backing
    {task : Connection (Database U) → Connection (Database U) × Except SqlError α}
    (ht : ∀ c, (task c).1.backing = c.backing ∧ (c.session.isSome → (task c).1.session.isSome)) :
    (h'.submitTask task).run.Within (KeepsBacking h) := by
  refine StorageHandle.within_submitTask (fun w => ?_) fun w => ?_
  · unfold KeepsBacking
    rw [World.conn_nextFault]
    exact ⟨rfl, id⟩
  · unfold KeepsBacking
    by_cases hh : h' = h
    · subst hh
      rw [World.conn_setConn_self]
      exact ht _
    · rw [World.conn_setConn_ne _ hh, World.conn_nextFault]
      exact ⟨rfl, id⟩

/-- Any statement, a client's too, leaves the connection where it is. -/
theorem within_execute_backing (stmt : Prepared (Database U)) :
    (h'.execute stmt).run.Within (KeepsBacking h) := by
  refine within_task_backing fun c => ⟨Connection.backing_execute c stmt, fun hs => ?_⟩
  obtain ⟨s, hs⟩ := Option.isSome_iff_exists.1 hs
  simp [Connection.execute, Connection.step_some hs]

theorem within_fetchOne_backing (stmt : Prepared (Database U)) (fromRow : Row → Except SqlError α) :
    (h'.fetchOne stmt fromRow).run.Within (KeepsBacking h) := by
  refine within_task_backing fun c => ⟨Connection.backing_queryRow c stmt fromRow, fun hs => ?_⟩
  obtain ⟨s, hs⟩ := Option.isSome_iff_exists.1 hs
  simp [Connection.queryRow, Connection.step_some hs]

theorem Quiet.keepsBacking {w w' : World U} (hw : Quiet w w') : KeepsBacking h w w' := by
  refine ⟨(hw.conn h).backing, fun hs => ?_⟩
  obtain ⟨s, hs⟩ := Option.isSome_iff_exists.1 hs
  obtain ⟨s', hs', -⟩ := (hw.conn h).session s hs
  rw [hs']
  rfl

end Backing

theorem deserializeDb_backing {env : Env U} {mem : Bytes} {c : Connection (Database U)} :
    (StorageHandle.deserializeDb env mem c).1.backing = .memory c.durable := rfl

theorem deserializeDb_left {env : Env U} {mem : Bytes} {c : Connection (Database U)}
    {left : Option (Database U)} (hc : c.backing = .memory left) :
    (StorageHandle.deserializeDb env mem c).1.backing = .memory left := by
  rw [deserializeDb_backing, Connection.durable, hc]

section Calls

variable [Serde LogId] [Serde Vote] [Serde Entry] [Serde EffectiveMembership] [Serde SnapshotMeta]
variable {env : Env U} {store : RaftStore} {h : StorageHandle}

omit [Serde Vote] [Serde Entry] [Serde SnapshotMeta] in
theorem applyEntries_backing (entries : List Entry) (res : List Response) :
    (store.applyEntries env entries res).run.Within (KeepsBacking h) :=
  applyEntries_within entries res (fun _ _ _ => within_execute_backing _)
    (fun log w => by cases h <;> exact ⟨rfl, id⟩) (fun mem w => by cases h <;> exact ⟨rfl, id⟩)
    fun _ _ _ _ => within_execute_backing _

omit [Serde Vote] [Serde Entry] [Serde LogId] [Serde EffectiveMembership] [Serde SnapshotMeta] in
theorem within_mapErr_pure {ε ε' β : Type} {p : StoreM U ε α} {g : ε → ε'} {b : α → β}
    (hp : p.run.Within (KeepsBacking h)) :
    (mapErr g p >>= fun a => pure (b a) : StoreM U ε' β).run.Within (KeepsBacking h) :=
  hp.run_mapErr.run_bind fun _ => within_run_pure _

/-- **Every call but an install leaves every connection where it is.** -/
theorem run_backing {call : StoreCall} (hcall : call.isInstall = false) :
    (call.run env store).run.Within (KeepsBacking h) := by
  cases call with
  | saveVote vote =>
    unfold StoreCall.run RaftStore.saveVote RaftStore.setVote
    exact Within.run_bind (within_run_liftResult _) fun data => within_mapErr_pure (within_execute_backing _)
  | appendToLog | deleteConflictLogsSince | purgeLogsUpto =>
    exact logCall_within rfl (fun _ => within_execute_backing _) fun _ => within_execute_backing _
  | applyToStateMachine entries =>
    exact (applyEntries_backing entries []).run_bind fun _ => within_run_pure ()
  | buildSnapshot =>
    have hquiet := (within_buildSnapshot env store).mono fun _ _ hw => hw.keepsBacking (h := h)
    exact hquiet.run_bind fun _ => within_run_pure ()
  | installSnapshot metadata snapshot => cases hcall

/-- No call takes a connection back to its file. -/
theorem run_keepsLeft (call : StoreCall) (left : Option (Database U)) :
    (call.run env store).run.Within (KeepsLeft h left) := by
  rcases hcall : call.isInstall with _ | _
  · exact (run_backing hcall).mono fun _ _ hw => hw.keepsLeft
  · cases call with
    | installSnapshot metadata snapshot =>
      unfold StoreCall.run RaftStore.installSnapshot
      refine Within.run_bind (within_run_liftResult _) fun mem => ?_
      refine Within.run_bind (Within.run_mapErr ?_) fun _ => ?_
      · refine StorageHandle.within_submitTask (fun w hw => ?_) fun w hw => ?_
        · show (w.nextFault.2.conn h).backing = _
          rw [World.conn_nextFault]
          exact hw
        · show (World.conn (World.setConn _ _ _) h).backing = _
          by_cases hh : store.data = h
          · rw [hh, World.conn_setConn_self]
            exact deserializeDb_left hw
          · rw [World.conn_setConn_ne _ hh, World.conn_nextFault]
            exact hw
      · exact ((within_writeSnapshotMeta store.data metadata).mono fun _ _ hw =>
          hw.keepsBacking.keepsLeft).run_mapErr
    | _ => cases hcall

omit [Serde LogId] [Serde EffectiveMembership] [Serde Vote] [Serde Entry] in
/-- An install that returned leaves the file as it was. -/
theorem installSnapshot_left {metadata : SnapshotMeta} {snapshot : Bytes} {w w' : World U}
    (hexec : (store.installSnapshot env metadata snapshot).run.exec w = (.ok (), w')) :
    (w'.conn store.data).backing = .memory (w.conn store.data).durable := by
  unfold RaftStore.installSnapshot at hexec
  obtain ⟨mem, w₁, hslice, hexec⟩ := exec_run_bind_eq_ok hexec
  obtain ⟨_, w₂, hload, hmeta⟩ := exec_run_bind_eq_ok hexec
  obtain rfl : w = w₁ := congrArg Prod.snd hslice
  obtain ⟨-, rfl⟩ := StorageHandle.exec_submitTask_eq_ok (exec_run_mapErr_eq_ok hload)
  have hquiet := ((within_writeSnapshotMeta store.data metadata).run_mapErr (f := createSnapshotErr)).exec
    (w.nextFault.2.setConn store.data (StorageHandle.deserializeDb env mem (w.conn store.data)).1)
  rw [hmeta] at hquiet
  rw [(hquiet.conn store.data).backing, World.conn_setConn_self]
  exact deserializeDb_backing

theorem runCalls_backing (env : Env U) (store : RaftStore) (h : StorageHandle)
    {calls : List (StoreCall × List Bool)} (hcalls : ∀ c ∈ calls, c.1.isInstall = false) (w : World U) :
    KeepsBacking h w (runCalls env store w calls) := by
  induction calls generalizing w with
  | nil => exact refl_of (KeepsBacking h) w
  | cons c calls ih =>
    have hstays : (c.1.run env store).run.Within (KeepsBacking h) :=
      run_backing (hcalls c List.mem_cons_self)
    have hcall := hstays.exec { w with faults := c.2 }
    have hrest := ih (fun c' hc' => hcalls c' (List.mem_cons_of_mem _ hc')) (runCall env store w c).2
    have hw : KeepsBacking h w (runCall env store w c).2 := by
      unfold KeepsBacking at hcall ⊢
      rwa [World.conn_faults] at hcall
    exact trans_of (KeepsBacking h) hw hrest

theorem runCalls_keepsLeft (env : Env U) (store : RaftStore) {left : Option (Database U)} {w : World U}
    (hw : (w.conn h).backing = .memory left) (calls : List (StoreCall × List Bool)) :
    ((runCalls env store w calls).conn h).backing = .memory left := by
  induction calls generalizing w with
  | nil => exact hw
  | cons c calls ih =>
    have hw' : (({ w with faults := c.2 } : World U).conn h).backing = .memory left := by
      rwa [World.conn_faults]
    exact ih ((run_keepsLeft c.1 left).exec { w with faults := c.2 } hw')

end Calls

/-! ## What an open finds -/

section Reopen

variable {env : Env U} {w w' : World U}

theorem within_setupLogStore_other {f : Database U → α} :
    (setupLogStore .logDb : StoreM U SqlError Unit).run.Within (KeepsRows .stateDb f) := by
  have hne : StorageHandle.logDb ≠ .stateDb := by decide
  exact setupLogStore_within (within_other_keeps hne _) (within_other_keeps hne _) (within_other_keeps hne _)
    (within_other_keeps hne _) (within_other_keeps hne _)

theorem within_setupLogStore_backing {h : StorageHandle} :
    (setupLogStore .logDb : StoreM U SqlError Unit).run.Within (KeepsBacking h) := by
  refine setupLogStore_within (within_task_backing fun c => ?_) (within_task_backing fun c => ⟨rfl, id⟩)
    (within_task_backing fun c => ⟨rfl, id⟩) (within_execute_backing _) (within_execute_backing _)
  rcases c with ⟨session, _ | left, journal, sync⟩ <;> exact ⟨rfl, id⟩

theorem contents_withKv (d : Database U) : d.withKv.contents = d.contents := by
  simp [Database.contents]

variable [Serde LogId] [Serde EffectiveMembership]

theorem within_createStateMachine_contents (h : StorageHandle) :
    (createStateMachine h : StoreM U AnyError Unit).run.Within (KeepsRows h Database.contents) := by
  have hselect : ∀ (key : String) (d d' : Database U) (out : Output),
      replicatKvSelectValue key d = .ok (d', out) → d'.contents = d.contents := by
    intro key d d' out hd
    rw [replicatKvSelectValue_same hd]
  refine createStateMachine_within (within_execute_keeps ?_)
    (fun key => within_task_keeps fun _ => step_keeps (onMain_keeps (hselect key))) fun w _ _ => by cases h <;> rfl
  rintro d _ _ ⟨⟩
  exact contents_withKv d

theorem within_createStateMachine_backing {h : StorageHandle} (data : StorageHandle) :
    (createStateMachine data : StoreM U AnyError Unit).run.Within (KeepsBacking h) :=
  createStateMachine_within (within_execute_backing _) (fun _ => within_fetchOne_backing _ _) fun w _ _ => by
    cases h <;> exact ⟨rfl, id⟩

omit [Serde LogId] [Serde EffectiveMembership] in
/-- Opening a handle either fails, on a storage that fails, or finds what is at the path. -/
theorem task_openHandle_cases (env : Env U) (h : StorageHandle) (path : StateStore) (w : World U) :
    (∃ e w₁, (task id (openHandle env h path)).run.exec w = (.error e, w₁) ∧ w.faults ≠ []) ∨
    ∃ w₁, (task id (openHandle env h path)).run.exec w = (.ok h, w₁) ∧ (w.faults = [] → w₁.faults = []) ∧
      w₁.conn h = openConn env path (w.conn h) ∧ ∀ h', h ≠ h' → w₁.conn h' = w.conn h' := by
  unfold task
  rw [exec_run_mapErr, openHandle_eq, StorageHandle.exec_submitTask_eq]
  cases hfault : w.nextFault.1 with
  | true =>
    refine .inl ⟨_, _, rfl, fun hf => ?_⟩
    rw [World.nextFault_nil hf] at hfault
    cases hfault
  | false =>
    refine .inr ⟨_, rfl, fun hf => ?_, ?_, fun h' hh => ?_⟩
    · simp [World.nextFault_nil hf, hf]
    · simp
    · simp [World.conn_setConn_ne _ hh]

/-- **An open reads the file.** Where the storage fails nothing, or the open returned `Ok`, the
data connection has the contents of its file and stays on it. -/
theorem openStore_contents {r : Except AnyError RaftStore}
    (hopen : (RaftStore.openStore env (some .file)).run.exec w = (r, w'))
    (hsound : w.faults = [] ∨ ∃ store, r = .ok store) :
    w'.rows .stateDb Database.contents = some (found env .file w.stateDb).contents ∧
      (w'.conn .stateDb).backing = .disk := by
  unfold RaftStore.openStore at hopen
  obtain ⟨e, w₁, hlog, hf⟩ | ⟨w₁, hlog, hf₁, -, hother⟩ := task_openHandle_cases env .logDb .file w
  · rw [exec_run_bind_error hlog] at hopen
    cases hopen
    rcases hsound with hsound | ⟨store, hsound⟩
    · exact absurd hsound hf
    · cases hsound
  rw [exec_run_bind_ok hlog] at hopen
  obtain ⟨e, w₂, hdata, hf⟩ | ⟨w₂, hdata, -, hconn, -⟩ := task_openHandle_cases env .stateDb .file w₁
  · dsimp only at hopen
    rw [exec_run_bind_error hdata] at hopen
    cases hopen
    rcases hsound with hsound | ⟨store, hsound⟩
    · exact absurd (hf₁ hsound) hf
    · cases hsound
  dsimp only at hopen
  rw [exec_run_bind_ok hdata] at hopen
  rw [hother .stateDb (by decide)] at hconn
  have hrows : w₂.rows .stateDb Database.contents = some (found env .file w.stateDb).contents := by
    unfold World.rows
    rw [hconn]
    rfl
  have hbacking : (w₂.conn .stateDb).backing = .disk := by
    rw [hconn]
    rfl
  -- The rest sets up the other connection and reads the rows.
  have hrows' := (openRest_within within_setupLogStore_other
    (within_createStateMachine_contents .stateDb)).exec w₂
  have hbacking' := ((openRest_within within_setupLogStore_backing
    (within_createStateMachine_backing (h := .stateDb) .stateDb)).exec w₂).1
  rw [hopen] at hrows' hbacking'
  exact ⟨hrows'.trans hrows, hbacking'.trans hbacking⟩

omit [Serde LogId] [Serde EffectiveMembership] in
/-- The end of the process leaves the file. -/
theorem found_crash (w : World U) (faults : List Bool) :
    found env .file ({ w.crash with faults } : World U).stateDb = found env .file w.stateDb := by
  simp [found, World.crash]

/-- **Every run without an install survives a reopen**, unless a transaction is open when the
process ends. -/
theorem contents_survive_reopen [Serde Vote] [Serde Entry] [Serde SnapshotMeta] {store : RaftStore}
    {w₀ : World U} (hopen : (RaftStore.openStore env (some .file)).run.exec w₀ = (.ok store, w))
    {calls : List (StoreCall × List Bool)} (hcalls : ∀ c ∈ calls, c.1.isInstall = false)
    (hclosed : ∀ s, ((runCalls env store w calls).conn .stateDb).session = some s → s.saved = none)
    {faults : List Bool} {r : Except AnyError RaftStore}
    (hreopen : reopen env (runCalls env store w calls) faults = (r, w'))
    (hsound : faults = [] ∨ ∃ store', r = .ok store') :
    w'.rows .stateDb Database.contents =
      (runCalls env store w calls).rows .stateDb Database.contents := by
  obtain ⟨hrows, hdisk⟩ := openStore_contents hopen (.inr ⟨store, rfl⟩)
  obtain ⟨hbacking, hsome⟩ := runCalls_backing env store .stateDb hcalls w
  have hsession : (w.conn .stateDb).session.isSome := by
    unfold World.rows at hrows
    rw [← Option.isSome_map (f := fun s => s.main.contents), hrows]
    rfl
  obtain ⟨⟨d, saved⟩, hs⟩ := Option.isSome_iff_exists.1 (hsome hsession)
  obtain rfl : saved = none := hclosed _ hs
  have hdurable := Connection.durable_of_disk (hbacking.trans hdisk) hs
  obtain ⟨hfound, -⟩ := openStore_contents hreopen hsound
  rw [hfound, found_crash]
  unfold World.rows
  rw [hs]
  exact congrArg (fun file => some (file.elim (Database.empty env) atRest).contents) hdurable

/-- **An install freezes the file.** Whatever calls follow it, a reopen finds what the file held
when it began. -/
theorem reopen_after_install [Serde Vote] [Serde Entry] [Serde SnapshotMeta] {store : RaftStore}
    (hstore : store.data = .stateDb) {metadata : SnapshotMeta} {snapshot : Bytes} {w₁ : World U}
    {calls : List (StoreCall × List Bool)} {faults faults' : List Bool}
    (hinstall : runCall env store w (.installSnapshot metadata snapshot, faults) = (.ok (), w₁))
    {r : Except AnyError RaftStore}
    (hreopen : reopen env (runCalls env store w₁ calls) faults' = (r, w'))
    (hsound : faults' = [] ∨ ∃ store', r = .ok store') :
    w'.rows .stateDb Database.contents = some (found env .file w.stateDb).contents := by
  have hleft := installSnapshot_left hinstall
  rw [hstore] at hleft
  have hend := runCalls_keepsLeft env store hleft calls
  have hdurable : (runCalls env store w₁ calls).stateDb.durable = w.stateDb.durable := by
    unfold Connection.durable
    exact hend ▸ rfl
  obtain ⟨hfound, -⟩ := openStore_contents hreopen hsound
  rw [hfound, found_crash]
  unfold found
  rw [hdurable]

end Reopen

/-! ## Two restarts -/

theorem catalogOpened_exec : (RaftStore.openStore catalogEnv (some .file)).run.exec World.fresh =
    (.ok ⟨.logDb, .stateDb⟩, catalogOpened) :=
  openStore_exec rfl (finds_fresh catalogEnv catalogEffect (some .file)).2

/-- An applied entry survives. -/
theorem contents_survive_reopen_catalog :
    (reopen catalogEnv (runCalls catalogEnv ⟨.logDb, .stateDb⟩ catalogOpened
        [(.applyToStateMachine [notesEntry 1], [])]) []).2.rows .stateDb Database.contents =
      (runCalls catalogEnv ⟨.logDb, .stateDb⟩ catalogOpened
        [(.applyToStateMachine [notesEntry 1], [])]).rows .stateDb Database.contents := by
  obtain ⟨w, happly, hshows, -⟩ := openedFile_apply (confined_notes _)
  have hrun : runCalls catalogEnv ⟨.logDb, .stateDb⟩ catalogOpened
      [(.applyToStateMachine [notesEntry 1], [])] = w := by
    unfold runCalls
    rw [List.foldl_cons, List.foldl_nil, runCall_sound _ _ rfl]
    unfold StoreCall.run
    exact congrArg Prod.snd (exec_run_bind_ok happly)
  have hclosed : ∀ s, ((runCalls catalogEnv ⟨.logDb, .stateDb⟩ catalogOpened
      [(.applyToStateMachine [notesEntry 1], [])]).conn .stateDb).session = some s → s.saved = none := by
    intro s hs
    rw [hrun] at hs
    obtain ⟨d, -, hr, -⟩ := hshows.reads
    obtain rfl : s = ⟨d, none⟩ := Option.some.inj (hs.symm.trans hr)
    rfl
  exact contents_survive_reopen catalogOpened_exec (by simp [StoreCall.isInstall]) hclosed rfl
    (.inl rfl)

/-- A store installs the snapshot of another replica and is opened again: the table in the
snapshot is gone. -/
theorem install_then_reopen_loses : ∃ snap w₁ w₂ w,
    (RaftStore.applyToStateMachine catalogEnv ⟨.logDb, .stateDb⟩ [notesEntry 1]).run.exec catalogOpened =
        (.ok [⟨⟩], w₁) ∧
      (RaftStore.buildSnapshot catalogEnv ⟨.logDb, .stateDb⟩).run.exec w₁ = (.ok snap, w₂) ∧
      runCall catalogEnv ⟨.logDb, .stateDb⟩ catalogOpened
        (.installSnapshot snap.metadata snap.snapshot, []) = (.ok (), w) ∧
      (reopen catalogEnv w []).2.rows .stateDb Database.contents ≠ w.rows .stateDb Database.contents := by
  obtain ⟨w₁, snap, w₂, d, t, happly, -, hbuild, -, hne, hload, ht, hd⟩ :=
    openedFile_build (confined_notes _)
  obtain ⟨hshows, -⟩ := catalogOpened_shows
  obtain ⟨d₀, -, hr₀, -, hd₀⟩ := hshows.reads
  obtain ⟨w, hinstall, hshows'⟩ : ∃ w, runCall catalogEnv ⟨.logDb, .stateDb⟩ catalogOpened
      (.installSnapshot snap.metadata snap.snapshot, []) = (.ok (), w) ∧
      Shows .stateDb
        { Applied.at catalogEffect [] [notesEntry 1] with log := none, membership := default } w := by
    refine ⟨_, ?_, hshows.installed snap.metadata ht hd⟩
    rw [runCall_sound _ _ rfl]
    exact installSnapshot_exec hshows.faults hr₀ hne hload (Database.kvStates_replace hd₀.clear ht)
  refine ⟨snap, w₁, w₂, w, happly, hbuild, hinstall, ?_⟩
  intro hsame
  -- The file is as empty as it was when the install began.
  rcases hreopen : reopen catalogEnv w [] with ⟨r, w'⟩
  rw [hreopen] at hsame
  have hnocalls : reopen catalogEnv (runCalls catalogEnv ⟨.logDb, .stateDb⟩ w []) [] = (r, w') :=
    hreopen
  have hfound := reopen_after_install rfl hinstall hnocalls (.inl rfl)
  obtain ⟨d', -, hr', -, hd'⟩ := hshows'.reads
  have hrows : w.rows .stateDb Database.contents = some d'.contents := by
    unfold World.rows
    rw [hr']
    rfl
  have hcontents : (found catalogEnv .file catalogOpened.stateDb).contents = d'.contents :=
    Option.some.inj ((hfound.symm.trans hsame).trans hrows)
  have htables : [] = d'.user := congrArg Prod.fst hcontents
  rw [hd'.tables] at htables
  exact absurd htables (by decide)

end Replicat
