import Replicat.Storage.HardState

/-!
# A storage that fails

What a storage failure can do to a program: the failing task changes nothing and ends the
program with an error, so a run on a failing storage leaves what the same run on a sound one
would have left had it been stopped (`FailStop`). Every call on a store is such a program, and
any of its tasks can be made to be the one that fails (`FailStop.padded`).
-/

namespace Replicat

open Sqlite Atomics Atomics.Prog

variable {U α β ε : Type}

/-- The node on a storage that treats the coming tasks in this way. -/
def World.withFaults (w : World U) (faults : List Bool) : World U := { w with faults }

namespace World

variable (w : World U) (fs gs : List Bool)

@[simp] theorem faults_withFaults : (w.withFaults fs).faults = fs := rfl
@[simp] theorem withFaults_withFaults : (w.withFaults fs).withFaults gs = w.withFaults gs := rfl
@[simp] theorem conn_withFaults (h : StorageHandle) : (w.withFaults fs).conn h = w.conn h := conn_faults ..
@[simp] theorem snapshotFile_withFaults : (w.withFaults fs).snapshotFile = w.snapshotFile := rfl
@[simp] theorem lastAppliedLog_withFaults : (w.withFaults fs).lastAppliedLog = w.lastAppliedLog := rfl
@[simp] theorem lastMembership_withFaults : (w.withFaults fs).lastMembership = w.lastMembership := rfl

@[simp] theorem rows_withFaults (h : StorageHandle) (f : Database U → β) :
    (w.withFaults fs).rows h f = w.rows h f := rows_faults ..

theorem setConn_withFaults (h : StorageHandle) (c : Connection (Database U)) :
    (w.withFaults fs).setConn h c = (w.setConn h c).withFaults fs := by
  cases h <;> rfl

theorem nextFault_snd : w.nextFault.2 = w.withFaults w.faults.tail := by
  unfold nextFault withFaults
  rcases h : w.faults with _ | ⟨b, rest⟩
  · exact (with_faults_nil h).symm
  · rfl

variable {w} in
theorem withFaults_self (h : w.faults = []) : w.withFaults [] = w := with_faults_nil h

end World

/-- What a failing storage does to a program: it stops it. -/
structure FailStop (p : Prog (World U) (Except ε α)) : Prop where
  sound : ∀ w, w.faults = [] → (p.exec w).2.faults = []
  /-- The states it passes through are those of the run on a sound storage. -/
  stopped : ∀ w fs n, w.faults = [] →
    ∃ m, (p.after n (w.withFaults fs)).withFaults [] = p.after m w
  /-- It goes to its end as on a sound storage, or fails on the way. -/
  ended : ∀ w fs, w.faults = [] →
    (∃ fs', p.exec (w.withFaults fs) = ((p.exec w).1, (p.exec w).2.withFaults fs')) ∨
    ∃ e m, (p.exec (w.withFaults fs)).1 = .error e ∧
      (p.exec (w.withFaults fs)).2.withFaults [] = p.after m w
  /-- A failure can be kept for what comes after it. -/
  padded : ∀ w, w.faults = [] → ∃ m, ∀ fs, p.exec (w.withFaults (List.replicate m false ++ fs)) =
    ((p.exec w).1, (p.exec w).2.withFaults fs)

namespace FailStop

theorem sound_ok {x : Fallible (World U) ε α} (hx : FailStop x.run) {w t : World U} {a : α}
    (hw : w.faults = []) (h : x.run.exec w = (.ok a, t)) : t.faults = [] := by
  have hsound := hx.sound w hw
  rwa [h] at hsound

/-- A run that returned a value has met no failure. -/
theorem exec_ok {x : Fallible (World U) ε α} (hx : FailStop x.run) {w t : World U} {fs : List Bool}
    {a : α} (hw : w.faults = []) (h : x.run.exec (w.withFaults fs) = (.ok a, t)) :
    ∃ fs' t', x.run.exec w = (.ok a, t') ∧ t = t'.withFaults fs' := by
  rcases hx.ended w fs hw with ⟨fs', hend⟩ | ⟨e, m, he, -⟩
  · rw [h] at hend
    refine ⟨fs', (x.run.exec w).2, ?_, congrArg Prod.snd hend⟩
    exact Prod.ext (congrArg Prod.fst hend).symm rfl
  · rw [h] at he
    cases he

/-- A task: it meets the next fault, or runs. -/
theorem of_atomic {g : World U → Except ε α × World U}
    (hsound : ∀ w, w.faults = [] → (g w).2.faults = [])
    (hrun : ∀ w fs, w.faults = [] → g (w.withFaults (false :: fs)) = ((g w).1, (g w).2.withFaults fs))
    (hfail : ∀ (w : World U) fs, w.faults = [] →
      ∃ e, g (w.withFaults (true :: fs)) = (.error e, w.withFaults fs)) :
    FailStop (atomic g) where
  sound := hsound
  stopped w fs n hw := by
    cases n with
    | zero => exact ⟨0, World.withFaults_self hw⟩
    | succ n =>
      have hafter : ∀ w : World U, (atomic g).after (n + 1) w = (g w).2 := fun w => after_ret ..
      rw [hafter]
      match fs with
      | [] =>
        refine ⟨n + 1, ?_⟩
        rw [hafter, World.withFaults_self hw, World.withFaults_self (hsound w hw)]
      | false :: fs =>
        refine ⟨n + 1, ?_⟩
        rw [hafter, hrun w fs hw, World.withFaults_withFaults, World.withFaults_self (hsound w hw)]
      | true :: fs =>
        obtain ⟨e, he⟩ := hfail w fs hw
        refine ⟨0, ?_⟩
        rw [he, World.withFaults_withFaults]
        exact World.withFaults_self hw
  ended w fs hw := by
    match fs with
    | [] =>
      refine .inl ⟨[], ?_⟩
      rw [World.withFaults_self hw, exec_atomic, World.withFaults_self (hsound w hw)]
    | false :: fs => exact .inl ⟨fs, hrun w fs hw⟩
    | true :: fs =>
      obtain ⟨e, he⟩ := hfail w fs hw
      exact .inr ⟨e, 0, congrArg Prod.fst he, by rw [exec_atomic, he]; exact World.withFaults_self hw⟩
  padded w hw := ⟨1, fun fs => hrun w fs hw⟩

theorem of_ret (r : Except ε α) : FailStop (.ret r : Prog (World U) (Except ε α)) where
  sound _ hw := hw
  stopped w fs n hw := ⟨0, by rw [after_ret]; exact World.withFaults_self hw⟩
  ended w fs _ := .inl ⟨fs, rfl⟩
  padded w _ := ⟨0, fun fs => rfl⟩

theorem run_pure (a : α) : FailStop (pure a : Fallible (World U) ε α).run := of_ret _

theorem run_liftResult (r : Except ε α) : FailStop (liftResult r : Fallible (World U) ε α).run := of_ret r

/-- An access to the fields in memory: the storage has no part in it. -/
theorem run_liftAct {f : World U → α × World U}
    (hf : ∀ w fs, f (w.withFaults fs) = ((f w).1, (f w).2.withFaults fs)) :
    FailStop (liftAct f : Fallible (World U) ε α).run := by
  have hfaults : ∀ w, (f w).2.faults = w.faults := fun w => congrArg (·.2.faults) (hf w w.faults)
  have hexec : ∀ w, (liftAct f : Fallible (World U) ε α).run.exec w = (.ok (f w).1, (f w).2) :=
    fun w => rfl
  refine ⟨fun w hw => (hfaults w).trans hw, fun w fs n hw => ?_, fun w fs _ => .inl ⟨fs, ?_⟩,
    fun w _ => ⟨0, fun fs => ?_⟩⟩
  · cases n with
    | zero => exact ⟨0, World.withFaults_self hw⟩
    | succ n =>
      have hafter : ∀ w, (liftAct f : Fallible (World U) ε α).run.after (n + 1) w = (f w).2 :=
        fun w => after_ret ..
      refine ⟨n + 1, ?_⟩
      rw [hafter, hafter, hf]
      exact World.withFaults_self ((hfaults w).trans hw)
  · rw [hexec, hexec, hf]
  · rw [hexec, hexec]
    exact congrArg (fun r => (Except.ok r.1, r.2)) (hf w fs)

theorem run_bind {x : Fallible (World U) ε α} {k : α → Fallible (World U) ε β}
    (hx : FailStop x.run) (hk : ∀ a, FailStop (k a).run) : FailStop (x >>= k).run := by
  refine ⟨fun w hw => ?_, fun w fs n hw => ?_, fun w fs hw => ?_, fun w hw => ?_⟩
  · have hsound := hx.sound w hw
    rw [exec_run_bind]
    rcases h : x.run.exec w with ⟨e | a, t⟩ <;> rw [h] at hsound
    · exact hsound
    · exact (hk a).sound t hsound
  · rcases after_run_bind x k n (w.withFaults fs) with ⟨n', h⟩ | ⟨a, t, n', hr, h⟩
    · obtain ⟨m, hm⟩ := hx.stopped w fs n' hw
      obtain ⟨m', hm'⟩ := exists_after_run_bind x k m w
      exact ⟨m', by rw [h, hm, hm']⟩
    · obtain ⟨fs', t', hr', rfl⟩ := hx.exec_ok hw hr
      obtain ⟨m, hm⟩ := (hk a).stopped t' fs' n' (hx.sound_ok hw hr')
      obtain ⟨m', hm'⟩ := exists_after_run_bind_ok (k := k) hr' m
      exact ⟨m', by rw [h, hm, hm']⟩
  · rcases hr : x.run.exec (w.withFaults fs) with ⟨e | a, t⟩
    · rw [exec_run_bind_error hr]
      rcases hx.ended w fs hw with ⟨fs', hend⟩ | ⟨e', m, he, hm⟩
      · rw [hend] at hr
        refine .inl ⟨fs', ?_⟩
        rcases hs : x.run.exec w with ⟨e' | a, t'⟩ <;> rw [hs] at hr <;> cases hr
        rw [exec_run_bind_error hs]
      · rw [hr] at hm
        obtain ⟨m', hm'⟩ := exists_after_run_bind x k m w
        exact .inr ⟨e, m', rfl, by rw [hm']; exact hm⟩
    · rw [exec_run_bind_ok hr]
      obtain ⟨fs', t', hr', rfl⟩ := hx.exec_ok hw hr
      have ht := hx.sound_ok hw hr'
      rw [exec_run_bind_ok hr']
      refine ((hk a).ended t' fs' ht).imp id ?_
      rintro ⟨e, m, he, hm⟩
      obtain ⟨m', hm'⟩ := exists_after_run_bind_ok (k := k) hr' m
      exact ⟨e, m', he, by rw [hm', hm]⟩
  · obtain ⟨m, hm⟩ := hx.padded w hw
    rcases hr : x.run.exec w with ⟨e | a, t⟩ <;> rw [hr] at hm
    · refine ⟨m, fun fs => ?_⟩
      rw [exec_run_bind_error (hm fs), exec_run_bind_error hr]
    · obtain ⟨m', hm'⟩ := (hk a).padded t (hx.sound_ok hw hr)
      refine ⟨m + m', fun fs => ?_⟩
      rw [List.replicate_add, List.append_assoc, exec_run_bind_ok (hm _), hm', exec_run_bind_ok hr]

theorem run_mapErr {ε' : Type} {g : ε → ε'} {x : Fallible (World U) ε α} (hx : FailStop x.run) :
    FailStop (mapErr g x).run := by
  have hafter : ∀ n w, ∃ m, (mapErr g x).run.after n w = x.run.after m w := by
    intro n w
    rcases after_bind x.run _ n w with h | ⟨m, h⟩
    · exact ⟨n, h⟩
    · obtain ⟨m', hm'⟩ := exists_after_exec x.run w
      exact ⟨m', h.trans ((after_ret ..).trans hm'.symm)⟩
  have hafter' : ∀ n w, ∃ m, (mapErr g x).run.after m w = x.run.after n w :=
    fun n w => exists_after_bind x.run _ n w
  refine ⟨fun w hw => ?_, fun w fs n hw => ?_, fun w fs hw => ?_, fun w hw => ?_⟩
  · rw [exec_run_mapErr]
    exact hx.sound w hw
  · obtain ⟨n', hn'⟩ := hafter n (w.withFaults fs)
    obtain ⟨m, hm⟩ := hx.stopped w fs n' hw
    obtain ⟨m', hm'⟩ := hafter' m w
    exact ⟨m', by rw [hn', hm, hm']⟩
  · rw [exec_run_mapErr, exec_run_mapErr]
    rcases hx.ended w fs hw with ⟨fs', hend⟩ | ⟨e, m, he, hm⟩
    · exact .inl ⟨fs', by rw [hend]⟩
    · obtain ⟨m', hm'⟩ := hafter' m w
      exact .inr ⟨g e, m', by rw [he]; rfl, by rw [hm', hm]⟩
  · obtain ⟨m, hm⟩ := hx.padded w hw
    refine ⟨m, fun fs => ?_⟩
    rw [exec_run_mapErr, exec_run_mapErr, hm]

end FailStop

/-! ## The tasks -/

section Tasks

variable {h : StorageHandle}

theorem failStop_submitTask
    (task : Connection (Database U) → Connection (Database U) × Except SqlError α) :
    FailStop (h.submitTask task).run := by
  refine .of_atomic (fun w hw => ?_) (fun w fs hw => ?_) fun w fs _ => ⟨_, rfl⟩
  · rw [World.nextFault_nil hw]
    simpa using hw
  · rw [World.nextFault_nil hw]
    show ((task ((w.withFaults (false :: fs)).conn h)).2, (w.withFaults fs).setConn h _) = _
    rw [World.conn_withFaults, World.setConn_withFaults]
    rfl

theorem failStop_execute (stmt : Prepared (Database U)) : FailStop (h.execute stmt).run :=
  failStop_submitTask _

theorem failStop_fetchOne (stmt : Prepared (Database U)) (fromRow : Row → Except SqlError α) :
    FailStop (h.fetchOne stmt fromRow).run := failStop_submitTask _

theorem failStop_fileTask (f : Option Bytes → Except IoError α × Option Bytes) :
    FailStop (fileTask f : StoreM U AnyError α).run := by
  refine .of_atomic (fun w hw => ?_) (fun w fs hw => ?_) fun w fs _ => ⟨_, rfl⟩
  · rw [World.nextFault_nil hw]
    exact hw
  · rw [World.nextFault_nil hw]
    rfl

theorem failStop_encode [Serde α] (f : AnyError → ε) (v : α) :
    FailStop (encode f v : StoreM U ε Bytes).run := .run_liftResult _

theorem failStop_writeAll (pos : Nat) (data : Bytes) :
    FailStop (writeAll pos data : StoreM U AnyError Unit).run := by
  induction data generalizing pos with
  | nil => exact .run_pure ()
  | cons byte data ih => exact (failStop_fileTask _).run_bind fun _ => ih (pos + 1)

theorem failStop_serialize (env : Env U) : FailStop (h.serialize env).run := by
  unfold StorageHandle.serialize
  refine (failStop_fetchOne _ _).run_bind fun name => ?_
  cases name with
  | none => exact .run_pure none
  | some name => exact (failStop_submitTask _).run_bind fun _ => .run_pure _

end Tasks

/-! ## The calls -/

section Calls

/-- Writing the rows of an entry, and what setting a field adds. -/
theorem failStop_setLastAppliedLog [Serde LogId] (data : StorageHandle) (log : LogId) :
    FailStop (StateMachine.setLastAppliedLog data log : StorageResult U Unit).run :=
  (failStop_encode _ _).run_bind fun _ => (failStop_execute _).run_mapErr.run_bind
    fun _ => .run_liftAct fun _ _ => rfl

theorem failStop_setLastMembership [Serde EffectiveMembership] (data : StorageHandle)
    (membership : EffectiveMembership) :
    FailStop (StateMachine.setLastMembership data membership : StorageResult U Unit).run :=
  (failStop_encode _ _).run_bind fun _ => (failStop_execute _).run_mapErr.run_bind
    fun _ => .run_liftAct fun _ _ => rfl

theorem failStop_getAndIncSnapshotIndex (store : RaftStore) :
    FailStop (store.getAndIncSnapshotIndex : StorageResult U UInt64).run := by
  unfold RaftStore.getAndIncSnapshotIndex
  refine (failStop_fetchOne _ _).run_mapErr.run_bind fun index => ?_
  cases index with
  | none => exact (failStop_execute _).run_mapErr.run_bind fun _ => .run_pure 0
  | some v => exact .run_pure _

variable [Serde SnapshotMeta]

theorem failStop_writeSnapshotMeta (h : StorageHandle) (metadata : SnapshotMeta) :
    FailStop (writeSnapshotMeta h metadata : StoreM U AnyError Unit).run :=
  (failStop_encode _ _).run_bind fun _ => (failStop_execute _).run_mapErr.run_bind fun _ => .run_pure ()

theorem failStop_createSnapshot (env : Env U) (h : StorageHandle) (metadata : SnapshotMeta) :
    FailStop (createSnapshot env h metadata).run := by
  unfold createSnapshot
  refine (failStop_writeSnapshotMeta h metadata).run_bind fun _ => ?_
  refine (failStop_serialize env).run_mapErr.run_bind fun image => ?_
  cases image with
  | none => exact .run_pure []
  | some image =>
    refine (failStop_fileTask _).run_bind fun _ => ?_
    refine (failStop_writeAll 0 image).run_bind fun _ => ?_
    exact (failStop_fileTask _).run_bind fun _ => (failStop_fileTask _).run_bind fun _ => .run_pure image

theorem failStop_buildSnapshot (env : Env U) (store : RaftStore) :
    FailStop (store.buildSnapshot env).run := by
  unfold RaftStore.buildSnapshot
  refine FailStop.run_bind (.run_liftAct fun _ _ => rfl) fun log => ?_
  refine FailStop.run_bind (.run_liftAct fun _ _ => rfl) fun mem => ?_
  refine (failStop_getAndIncSnapshotIndex store).run_bind fun index => ?_
  exact (failStop_createSnapshot env store.data _).run_mapErr.run_bind fun _ => .run_pure _

variable [Serde LogId] [Serde EffectiveMembership]

omit [Serde SnapshotMeta] in
theorem failStop_applyEntries (env : Env U) (store : RaftStore) (entries : List Entry)
    (res : List Response) : FailStop (store.applyEntries env entries res).run := by
  induction entries generalizing res with
  | nil => exact .run_pure res
  | cons e entries ih =>
    have hpayload : FailStop (RaftStore.applyPayload env store e).run := by
      unfold RaftStore.applyPayload
      cases e.payload with
      | blank => exact .run_pure _
      | normal req => exact (failStop_execute _).run_mapErr.run_bind fun _ => .run_pure _
      | membership mem =>
        exact (failStop_setLastMembership store.data _).run_bind fun _ => .run_pure _
    unfold RaftStore.applyEntries
    exact (failStop_setLastAppliedLog store.data _).run_bind fun _ => hpayload.run_bind fun _ => ih _

variable [Serde Vote] [Serde Entry]

/-- **Every call on a store stops at the task that fails.** -/
theorem failStop_run (env : Env U) (store : RaftStore) (call : StoreCall) :
    FailStop (call.run env store).run := by
  cases call with
  | saveVote vote =>
    exact (failStop_encode _ _).run_bind fun _ => (failStop_execute _).run_mapErr.run_bind
      fun _ => .run_pure ()
  | appendToLog entries =>
    unfold StoreCall.run
    induction entries with
    | nil => exact .run_pure ()
    | cons e entries ih =>
      unfold RaftStore.appendToLog
      exact (failStop_encode _ _).run_bind fun _ => (failStop_execute _).run_mapErr.run_bind fun _ => ih
  | deleteConflictLogsSince logId => exact (failStop_execute _).run_mapErr.run_bind fun _ => .run_pure ()
  | purgeLogsUpto logId =>
    refine FailStop.run_bind ?_ fun _ => (failStop_execute _).run_mapErr.run_bind fun _ => .run_pure ()
    exact (failStop_encode _ _).run_bind fun _ => (failStop_execute _).run_mapErr.run_bind fun _ => .run_pure ()
  | applyToStateMachine entries =>
    exact (failStop_applyEntries env store entries []).run_bind fun _ => .run_pure ()
  | buildSnapshot => exact (failStop_buildSnapshot env store).run_bind fun _ => .run_pure ()
  | installSnapshot metadata snapshot =>
    refine FailStop.run_bind (.run_liftResult _) fun mem => ?_
    exact (failStop_submitTask _).run_mapErr.run_bind fun _ => (failStop_writeSnapshotMeta ..).run_mapErr

end Calls

/-! ## Opening -/

section Open

theorem failStop_openHandle (env : Env U) (h : StorageHandle) (path : StateStore) :
    FailStop (openHandle env h path).run := by
  rw [openHandle_eq]
  exact failStop_submitTask _

theorem failStop_decodeOption [Serde α] (f : AnyError → ε) (data : Option Bytes) :
    FailStop (decodeOption f data : StoreM U ε (Option α)).run := by
  cases data with
  | none => exact .run_pure none
  | some data => exact (FailStop.run_liftResult _).run_bind fun _ => .run_pure _

theorem failStop_setupLogStore (h : StorageHandle) :
    FailStop (setupLogStore h : StoreM U SqlError Unit).run := by
  unfold setupLogStore
  refine (failStop_submitTask _).run_bind fun _ => ?_
  refine (failStop_submitTask _).run_bind fun _ => ?_
  refine (failStop_submitTask _).run_bind fun _ => ?_
  exact (failStop_execute _).run_bind fun _ => (failStop_execute _).run_bind fun _ => .run_pure ()

variable [Serde LogId] [Serde EffectiveMembership]

theorem failStop_createStateMachine (h : StorageHandle) :
    FailStop (createStateMachine h : StoreM U AnyError Unit).run := by
  unfold createStateMachine
  refine (failStop_execute _).run_mapErr.run_bind fun _ => ?_
  refine (failStop_fetchOne _ _).run_mapErr.run_bind fun log => ?_
  refine (failStop_decodeOption id log).run_bind fun log => ?_
  refine (failStop_fetchOne _ _).run_mapErr.run_bind fun mem => ?_
  exact (failStop_decodeOption id mem).run_bind fun mem => .run_liftAct fun _ _ => rfl

theorem failStop_openStore (env : Env U) (stateStore : Option StateStore) :
    FailStop (RaftStore.openStore env stateStore).run := by
  have hrest : ∀ log data, FailStop (do
      task id (setupLogStore log)
      createStateMachine data
      pure ⟨log, data⟩ : StoreM U AnyError RaftStore).run :=
    fun log data => (failStop_setupLogStore log).run_mapErr.run_bind fun _ =>
      (failStop_createStateMachine data).run_bind fun _ => .run_pure _
  unfold RaftStore.openStore
  refine (failStop_openHandle env _ _).run_mapErr.run_bind fun log => ?_
  cases stateStore with
  | none => exact (FailStop.run_pure log).run_bind fun data => hrest log data
  | some path => exact (failStop_openHandle env _ path).run_mapErr.run_bind fun data => hrest log data

end Open

end Replicat
