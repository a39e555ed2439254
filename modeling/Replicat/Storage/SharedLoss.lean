import Replicat.Storage.NodeRefines
import Replicat.Storage.PowerLoss

/-!
# Losing power with one database

Without a state store of its own the state machine lies in `log.db`, whose commits are not
synced. A power loss may take the last of them back, but it takes back the log and the state
machine together: what it leaves is the database as it was at some commit. So a position that is
read back has its entry in the log, or below the purge: `shared_store_stays_behind`. With a state
store of its own the log alone falls back, and the position may be ahead of it.
-/

namespace Replicat

open Sqlite Atomics Atomics.Prog LogWrite

variable {U : Type}

/-! ## A state machine behind its log -/

/-- The entry with this id is in the log, or was purged from it. -/
def AbstractLog.Covers (l : AbstractLog) (id : LogId) : Prop :=
  (∃ p, l.purged = some p ∧ id.index ≤ p.index) ∨
    ∃ e, l.entries id.index.toNat = some e ∧ e.logId = id

namespace NodeData

/-- The position, as its row or as its field. -/
def At (n : NodeData U) (id : LogId) : Prop := n.applied.logRow = some id ∨ n.applied.log = some id

def Behind (n : NodeData U) : Prop := ∀ id, n.At id → n.hard.log.Covers id

/-- What the raft core keeps to: it replaces no entry that was applied by another, deletes none,
never moves the purge marker back, and applies what is in the log. -/
def Allows (n : NodeData U) : StoreCall → Prop
  | .appendToLog entries => ∀ e ∈ entries, ∀ id, n.At id → e.index = id.index.toNat → e.logId = id
  | .deleteConflictLogsSince logId => ∀ id, n.At id → id.index < logId.index
  | .purgeLogsUpto logId => ∀ p, n.hard.log.purged = some p → p.index ≤ logId.index
  | .applyToStateMachine entries => ∀ e ∈ entries, n.hard.log.Covers e.logId
  | _ => True

end NodeData

namespace AbstractLog

variable {l : AbstractLog} {id : LogId}

theorem Covers.put (h : l.Covers id) {e : Entry} (he : e.index = id.index.toNat → e.logId = id) :
    (l.put e).Covers id := by
  rcases h with h | ⟨e', hentry, hid⟩
  · exact .inl h
  · by_cases hi : id.index.toNat = e.index
    · exact .inr ⟨e, by rw [hi, entries_put_self], he hi.symm⟩
    · exact .inr ⟨e', (entries_put_ne l hi).trans hentry, hid⟩

theorem Covers.deleteFrom (h : l.Covers id) {logId : LogId} (hid : id.index < logId.index) :
    (l.deleteFrom logId).Covers id := by
  rcases h with h | ⟨e, hentry, he⟩
  · exact .inl h
  · refine .inr ⟨e, ?_, he⟩
    have hlt : ¬ logId.index.toNat ≤ id.index.toNat := by
      rw [UInt64.lt_iff_toNat_lt] at hid
      omega
    rw [entries_deleteFrom, if_neg hlt, hentry]

theorem Covers.mark (h : l.Covers id) {logId : LogId}
    (hmark : ∀ p, l.purged = some p → p.index ≤ logId.index) : (l.mark logId).Covers id := by
  rcases h with ⟨p, hp, hid⟩ | h
  · exact .inl ⟨logId, rfl, UInt64.le_trans hid (hmark p hp)⟩
  · exact .inr h

/-- What a purge deletes lies below its marker. -/
theorem Covers.deleteUpto {logId : LogId} (h : (l.mark logId).Covers id) :
    ((l.mark logId).deleteUpto logId).Covers id := by
  by_cases hid : id.index ≤ logId.index
  · exact .inl ⟨logId, rfl, hid⟩
  · rcases h with ⟨p, hp, hle⟩ | ⟨e, hentry, he⟩
    · exact .inl ⟨p, hp, hle⟩
    · refine .inr ⟨e, ?_, he⟩
      have hlt : ¬ id.index.toNat ≤ logId.index.toNat := fun hle => hid (UInt64.le_iff_toNat_le.2 hle)
      show (if id.index.toNat ≤ logId.index.toNat then none else _) = _
      rw [if_neg hlt]
      exact hentry

end AbstractLog

section Acts

variable {effect : Request → U → U} {n : NodeData U}

/-- Appending keeps what the position needs, entry by entry. -/
theorem NodeData.Behind.append (h : n.Behind) {entries : List Entry} (hallows : n.Allows (.appendToLog entries)) :
    (n.after effect ((entries.map LogWrite.entry).map .log)).Behind := by
  rw [NodeData.after_log]
  induction entries generalizing n with
  | nil => exact h
  | cons e entries ih =>
    refine ih (n := { n with hard := (LogWrite.entry e).onHard n.hard }) (fun id hid => ?_) fun e' he' =>
      hallows e' (List.mem_cons_of_mem _ he')
    exact (h id hid).put (hallows e List.mem_cons_self id hid)

/-- An apply takes its positions from the log. -/
theorem NodeData.Behind.apply (h : n.Behind) {steps : List ApplyStep}
    (hsteps : ∀ st ∈ steps, ∀ id, st = .logRow id ∨ st = .log id → n.hard.log.Covers id) :
    (n.after effect (steps.map .state)).Behind := by
  induction steps generalizing n with
  | nil => exact h
  | cons st steps ih =>
    refine ih (fun id hid => ?_) fun st' hst' => hsteps st' (List.mem_cons_of_mem _ hst')
    cases st with
    | logRow logId =>
      rcases hid with hid | hid
      · cases hid
        exact hsteps _ List.mem_cons_self _ (.inl rfl)
      · exact h id (.inr hid)
    | log logId =>
      rcases hid with hid | hid
      · exact h id (.inl hid)
      · cases hid
        exact hsteps _ List.mem_cons_self _ (.inr rfl)
    | exec req => exact h id hid
    | membershipRow mem => exact h id hid
    | membership mem => exact h id hid

theorem logId_of_mem_steps {entries : List Entry} {st : ApplyStep} (hst : st ∈ entries.flatMap stepsOf)
    {id : LogId} (hid : st = .logRow id ∨ st = .log id) : ∃ e ∈ entries, e.logId = id := by
  obtain ⟨e, he, hmem⟩ := List.mem_flatMap.1 hst
  refine ⟨e, he, ?_⟩
  unfold stepsOf payloadSteps at hmem
  rcases hid with rfl | rfl <;> cases hp : e.payload <;> simp [hp] at hmem <;> exact hmem.symm

/-- **Whatever first acts of an allowed call are done, the position stays behind the log.** -/
theorem NodeData.Behind.call (h : n.Behind) {call : StoreCall} (hallows : n.Allows call) (m : Nat) :
    (n.after effect (call.acts.take m)).Behind := by
  cases call with
  | saveVote v =>
    have hacts : (StoreCall.saveVote v).acts.take m = (((StoreCall.saveVote v).writes).take m).map .log :=
      (List.map_take ..).symm
    rw [hacts, NodeData.after_log]
    rcases m with _ | m
    · exact h
    · rw [show (StoreCall.saveVote v).writes.take (m + 1) = [.vote v] by simp [StoreCall.writes]]
      exact h
  | appendToLog entries =>
    have hacts : (StoreCall.appendToLog entries).acts.take m = ((entries.take m).map LogWrite.entry).map .log := by
      rw [List.map_take, List.map_take]
      rfl
    rw [hacts]
    exact h.append fun e he => hallows e (List.mem_of_mem_take he)
  | deleteConflictLogsSince logId =>
    rcases m with _ | m
    · exact h
    · have hacts : (StoreCall.deleteConflictLogsSince logId).acts.take (m + 1) = [.log (.deleteSince logId)] := by
        simp [StoreCall.acts, StoreCall.writes]
      rw [hacts]
      exact fun id hid => (h id hid).deleteFrom (hallows id hid)
  | purgeLogsUpto logId =>
    have hmarked : ∀ id, n.At id → (n.hard.log.mark logId).Covers id := fun id hid => (h id hid).mark hallows
    rcases m with _ | _ | m
    · exact h
    · exact hmarked
    · have hacts : (StoreCall.purgeLogsUpto logId).acts.take (m + 2) =
          [.log (.marker logId), .log (.deleteUpto logId)] := by
        simp [StoreCall.acts, StoreCall.writes]
      rw [hacts]
      exact fun id hid => (hmarked id hid).deleteUpto
  | applyToStateMachine entries =>
    unfold StoreCall.acts
    rw [← List.map_take]
    refine h.apply fun st hst id hid => ?_
    obtain ⟨e, he, rfl⟩ := logId_of_mem_steps (List.mem_of_mem_take hst) hid
    exact hallows e he
  | buildSnapshot =>
    have hacts : StoreCall.buildSnapshot.acts.take m = [] := List.take_nil
    rwa [hacts]
  | installSnapshot metadata snapshot =>
    have hacts : (StoreCall.installSnapshot metadata snapshot).acts.take m = [] := List.take_nil
    rwa [hacts]

end Acts

/-! ## Runs -/

section Runs

variable [Serde LogId] [Serde Vote] [Serde Entry] [Serde EffectiveMembership] [Serde SnapshotMeta]

/-- The log database as the program may have left it, wherever it is stopped. -/
def Versions {α : Type} (p : Prog (World U) α) (w : World U) (file : Option (Database U)) : Prop :=
  ∃ k, file = (p.after k w).logDb.durable

/-- The call is specified, and allowed, in the node that the world holds. -/
def CallAllowed (env : Env U) (effect : Request → U → U) (w : World U) (call : StoreCall) : Prop :=
  ∀ n, Refines none n w → call.Plain env effect n.applied.tables ∧ n.Allows call

/-- A store with one database, and what a power loss may leave of it: any version since the last
checkpoint. A call may be stopped after `k` actions by the end of the process, which loses
nothing, or by a loss of power. With `k = 0` there is no call. -/
inductive SharedRun (env : Env U) (effect : Request → U → U) :
    World U → (Option (Database U) → Prop) → Prop where
  | opened {w store} (faults : List Bool) :
      (RaftStore.openStore env none).run.exec (World.fresh.withFaults faults) = (.ok store, w) →
      SharedRun env effect w (Versions (RaftStore.openStore env none).run (World.fresh.withFaults faults))
  | call {w w' kept r} (call : StoreCall) (faults : List Bool) : SharedRun env effect w kept →
      CallAllowed env effect w call → (call.run env (storeOf none)).run.exec (w.withFaults faults) = (r, w') →
      SharedRun env effect w'
        fun file => kept file ∨ Versions (call.run env (storeOf none)).run (w.withFaults faults) file
  | checkpoint {w kept} : SharedRun env effect w kept → SharedRun env effect w fun file => file = w.logDb.durable
  | cutOff {w w' kept store} (call : StoreCall) (faults faults' : List Bool) (k : Nat) :
      SharedRun env effect w kept → CallAllowed env effect w call →
      (RaftStore.openStore env none).run.exec
        ((((call.run env (storeOf none)).run.after k (w.withFaults faults)).crash).withFaults faults') =
          (.ok store, w') →
      SharedRun env effect w' fun file => kept file ∨
        Versions (call.run env (storeOf none)).run (w.withFaults faults) file ∨
        Versions (RaftStore.openStore env none).run
          ((((call.run env (storeOf none)).run.after k (w.withFaults faults)).crash).withFaults faults') file
  | powerLoss {w w' kept store file} (call : StoreCall) (faults faults' : List Bool) (k : Nat) :
      SharedRun env effect w kept → CallAllowed env effect w call →
      (kept file ∨ Versions (call.run env (storeOf none)).run (w.withFaults faults) file) →
      (RaftStore.openStore env none).run.exec
        ((((call.run env (storeOf none)).run.after k (w.withFaults faults)).powerLoss file).withFaults faults') =
          (.ok store, w') →
      SharedRun env effect w' (Versions (RaftStore.openStore env none).run
        ((((call.run env (storeOf none)).run.after k (w.withFaults faults)).powerLoss file).withFaults faults'))

variable {env : Env U} {effect : Request → U → U} {n : NodeData U} {w w' : World U} {file : Option (Database U)}

/-- The database holds a node that is behind its log. -/
def BehindFile (env : Env U) (file : Option (Database U)) : Prop :=
  ∃ n : NodeData U, n.Behind ∧ FileOf env none n.applied n.hard file

omit [Serde LogId] [Serde Vote] [Serde Entry] [Serde EffectiveMembership] [Serde SnapshotMeta] in
theorem NodeData.Behind.restarted (h : n.Behind) : (n.restarted env none).Behind := by
  intro id hid
  have hrow : n.applied.logRow = some id := hid.elim (fun h => h) (fun h => h)
  exact h id (.inl hrow)

omit [Serde SnapshotMeta] in
theorem Refines.behindFile (h : Refines none n w) (hbehind : n.Behind) : BehindFile env w.logDb.durable :=
  ⟨n.restarted env none, hbehind.restarted, h.found.fileOf⟩

/-- Every version a call goes through is behind its log. -/
theorem Refines.behind_versions (h : Refines none n w) (hbehind : n.Behind) {call : StoreCall}
    (hcall : CallAllowed env effect w call) {faults : List Bool}
    (hfile : Versions (call.run env (storeOf none)).run (w.withFaults faults) file) : BehindFile env file := by
  obtain ⟨k, rfl⟩ := hfile
  obtain ⟨hplain, hallows⟩ := hcall n h
  obtain ⟨m, hm⟩ := h.call_after hplain faults k
  exact hm.behindFile (hbehind.call hallows m)

omit [Serde SnapshotMeta] in
/-- So is every version an open goes through. -/
theorem behind_openVersions {w₀ : World U} (hf : w₀.faults = []) (h : BehindFile env w₀.logDb.durable)
    {faults : List Bool} (hfile : Versions (RaftStore.openStore env none).run (w₀.withFaults faults) file) :
    BehindFile env file := by
  obtain ⟨n, hbehind, hn⟩ := h
  have hkept : KeptByOpen env none (w₀.withFaults faults) [file] := by
    intro file' hfile'
    cases List.mem_singleton.1 hfile'
    exact hfile
  exact ⟨n, hbehind, hkept.fileOf hf hn file (List.mem_singleton_self file)⟩

omit [Serde SnapshotMeta] in
/-- A store opened on such a database holds a node behind its log. -/
theorem behind_opened {w₀ : World U} (hf : w₀.faults = []) (h : BehindFile env w₀.logDb.durable)
    {faults : List Bool} {store : RaftStore}
    (hopen : (RaftStore.openStore env none).run.exec (w₀.withFaults faults) = (.ok store, w')) :
    ∃ n, Refines none n w' ∧ n.Behind := by
  obtain ⟨n, hbehind, hhard, hdata⟩ := h
  have hstored : Stored (n.restarted env none).applied (foundData env none w₀) :=
    ⟨(hdata rfl).logRow, (hdata rfl).membershipRow, (hdata rfl).tables, (hdata rfl).clear, (hdata rfl).objects⟩
  exact ⟨n.restarted env none, .of_opened hf hhard hstored rfl rfl hopen, hbehind.restarted⟩

omit [Serde SnapshotMeta] in
theorem behindFile_absent : BehindFile env (World.fresh : World U).logDb.durable := by
  obtain ⟨-, hstored⟩ := finds_fresh env (fun _ t => t) none
  refine ⟨⟨.empty, unapplied env⟩, fun id hid => ?_, hardOf_absent env, fun _ => hstored⟩
  rcases hid with hid | hid <;> cases hid

/-- **In every run** the node that is held, and every node a power loss may leave, is behind its log. -/
theorem SharedRun.behind {kept : Option (Database U) → Prop} (h : SharedRun env effect w kept) :
    (∃ n, Refines none n w ∧ n.Behind) ∧ ∀ file, kept file → BehindFile env file := by
  induction h with
  | opened faults hopen =>
    exact ⟨behind_opened rfl behindFile_absent hopen, fun file => behind_openVersions rfl behindFile_absent⟩
  | call call faults hbefore hallowed hexec ih =>
    rename_i w w' kept r
    obtain ⟨⟨n, hn, hbehind⟩, hkept⟩ := ih
    refine ⟨?_, fun file hfile => hfile.elim (hkept file) (hn.behind_versions hbehind hallowed)⟩
    obtain ⟨k, hk⟩ := exists_after_exec (call.run env (storeOf none)).run (w.withFaults faults)
    obtain ⟨m, hm⟩ := hn.call_after (hallowed n hn).1 faults k
    rw [hk, hexec] at hm
    exact ⟨_, hm, hbehind.call (hallowed n hn).2 m⟩
  | checkpoint _ ih =>
    obtain ⟨⟨n, hn, hbehind⟩, -⟩ := ih
    exact ⟨⟨n, hn, hbehind⟩, fun file hfile => hfile ▸ hn.behindFile hbehind⟩
  | cutOff call faults faults' k hbefore hallowed hopen ih =>
    rename_i w w' kept store
    obtain ⟨⟨n, hn, hbehind⟩, hkept⟩ := ih
    obtain ⟨m, hm⟩ := hn.call_after (hallowed n hn).1 faults k
    have hleft : BehindFile env ((((call.run env (storeOf none)).run.after k
        (w.withFaults faults)).crash).withFaults []).logDb.durable := by
      have hdurable : BehindFile env _ := hm.behindFile (hbehind.call (hallowed n hn).2 m)
      rwa [← Connection.durable_close] at hdurable
    refine ⟨behind_opened rfl hleft hopen, fun file hfile => ?_⟩
    rcases hfile with hfile | hfile | hfile
    · exact hkept file hfile
    · exact hn.behind_versions hbehind hallowed hfile
    · exact behind_openVersions rfl hleft hfile
  | powerLoss call faults faults' k hbefore hallowed hchosen hopen ih =>
    rename_i w w' kept store chosen
    obtain ⟨⟨n, hn, hbehind⟩, hkept⟩ := ih
    have hleft : BehindFile env ((((call.run env (storeOf none)).run.after k
        (w.withFaults faults)).powerLoss chosen).withFaults []).logDb.durable := by
      show BehindFile env ((((call.run env (storeOf none)).run.after k (w.withFaults faults)).powerLoss
        chosen).logDb.durable)
      rw [durable_powerLoss]
      exact hchosen.elim (hkept chosen) (hn.behind_versions hbehind hallowed)
    exact ⟨behind_opened rfl hleft hopen, fun file => behind_openVersions rfl hleft⟩

/-- **With one database no power loss takes the log from under the state machine**: the entry of the
last applied position is read from the log, or the log is purged up to it. -/
theorem shared_store_stays_behind {kept : Option (Database U) → Prop} (h : SharedRun env effect w kept)
    {id : LogId} {membership : EffectiveMembership}
    (hread : resultOf RaftStore.lastAppliedState w = .ok (some id, membership)) (checks : Bool) :
    ∃ state q es, resultOf (storeOf none).getLogState w = .ok state ∧
      (storeOf none).tryGetLogEntries env checks (.included id.index) (.included id.index) = some q ∧
      resultOf q w = .ok es ∧
      ((∃ p, state.lastPurgedLogId = some p ∧ id.index ≤ p.index) ∨ ∃ e ∈ es, e.logId = id) := by
  obtain ⟨⟨n, hn, hbehind⟩, -⟩ := h.behind
  have hserves : Serves env (storeOf none) n.hard w := hn.hard.serves
  obtain ⟨last, hstate, -⟩ := hserves.state
  have hself : InRange (.included id.index) (.included id.index) id.index.toNat := ⟨le_refl _, le_refl _⟩
  obtain ⟨q, es, hq, hes, hmem⟩ := hserves.entries checks _ _ ⟨_, id.index.toNat_lt, hself⟩
  refine ⟨_, q, es, hstate, hq, hes, ?_⟩
  have hat : n.At id := by
    refine .inr (hn.data.log.symm.trans ?_)
    show w.lastAppliedLog = some id
    have hfields : (w.lastAppliedLog, w.lastMembership) = (some id, membership) := Except.ok.inj hread
    exact (Prod.mk.inj hfields).1
  rcases hbehind id hat with ⟨p, hp, hle⟩ | ⟨e, hentry, hid⟩
  · exact .inl ⟨p, hp, hle⟩
  · exact .inr ⟨e, ((hmem _ e).2 ⟨hentry, hself⟩).1, hid⟩

end Runs

/-! ## Both sides of the loss -/

/-- An entry is appended and applied: the node without it, with it in the log, and with it applied. -/
theorem exists_noted (stateStore : Option StateStore) : ∃ w₀ w₁ w₂ : World Catalog,
    (RaftStore.openStore catalogEnv stateStore).run.exec (World.fresh.withFaults []) =
      (.ok (storeOf stateStore), w₀) ∧
    ((StoreCall.appendToLog [notesEntry 1]).run catalogEnv (storeOf stateStore)).run.exec (w₀.withFaults []) =
      (.ok (), w₁) ∧
    ((StoreCall.applyToStateMachine [notesEntry 1]).run catalogEnv (storeOf stateStore)).run.exec
      (w₁.withFaults []) = (.ok (), w₂) ∧
    Refines stateStore ⟨.empty, unapplied catalogEnv⟩ w₀ ∧
    Refines stateStore ⟨HardState.empty.after [.entry (notesEntry 1)], unapplied catalogEnv⟩ w₁ ∧
    Refines stateStore ⟨HardState.empty.after [.entry (notesEntry 1)],
      .at catalogEffect [] [notesEntry 1]⟩ w₂ := by
  obtain ⟨w₀, hopen, -, -⟩ := openStore_fresh catalogEnv stateStore
  have hfresh : (RaftStore.openStore catalogEnv stateStore).run.exec (World.fresh.withFaults []) = _ := hopen
  have h₀ : Refines stateStore ⟨.empty, unapplied catalogEnv⟩ w₀ := .fresh hfresh
  obtain ⟨r, w₁, happend, -, hok⟩ := exec_commitAll [.entry (notesEntry 1)] ((Refines.withFaults []).2 h₀).hard
  obtain rfl : r = .ok () := hok.2 (show through [.entry (notesEntry 1)] [] = _ by decide)
  have hcall : ((StoreCall.appendToLog [notesEntry 1]).run catalogEnv (storeOf stateStore)).run.exec
      (w₀.withFaults []) = (.ok (), w₁) := by
    rw [run_eq_commitAll rfl]
    exact happend
  have h₁ : Refines stateStore ⟨HardState.empty.after [.entry (notesEntry 1)], unapplied catalogEnv⟩ w₁ :=
    h₀.call_ok (show StoreCall.Plain catalogEnv catalogEffect [] (.appendToLog [notesEntry 1]) from trivial) hcall
  have hconfined : Confined catalogEnv catalogEffect [] [notesEntry 1] := confined_notes _
  have hshows : Shows (dataHandle stateStore) (Applied.at catalogEffect [] []) (w₁.withFaults []) := h₁.data
  obtain ⟨w₂, happly, -⟩ := applyToStateMachine_exec (storeOf stateStore) hconfined hshows
  have hcall' : ((StoreCall.applyToStateMachine [notesEntry 1]).run catalogEnv (storeOf stateStore)).run.exec
      (w₁.withFaults []) = (.ok (), w₂) := (exec_run_bind_ok happly).trans rfl
  have h₂ := h₁.call_ok (show StoreCall.Plain catalogEnv catalogEffect [] (.applyToStateMachine [notesEntry 1])
    from hconfined) hcall'
  exact ⟨w₀, w₁, w₂, hopen, hcall, hcall', h₀, h₁, h₂⟩

/-- An entry is appended and applied, and the power is lost: its position is read back, and it is
in the log. -/
theorem shared_store_stays_behind_noted : ∃ (w : World Catalog) (state : LogState)
    (q : StorageResult Catalog (List Entry)) (es : List Entry),
    resultOf RaftStore.lastAppliedState w = .ok (some (logIdAt 1), default) ∧
    resultOf (storeOf none).getLogState w = .ok state ∧
    (storeOf none).tryGetLogEntries catalogEnv true (.included 1) (.included 1) = some q ∧
    resultOf q w = .ok es ∧
    ((∃ p, state.lastPurgedLogId = some p ∧ 1 ≤ p.index) ∨ ∃ e ∈ es, e.logId = logIdAt 1) := by
  obtain ⟨w₀, w₁, w₂, hopen, happend, happly, h₀, h₁, h₂⟩ := exists_noted none
  have happends : CallAllowed catalogEnv catalogEffect w₀ (.appendToLog [notesEntry 1]) := by
    intro n hn
    obtain rfl := hn.unique h₀
    refine ⟨trivial, ?_⟩
    rintro e - id (hid | hid) <;> cases hid
  have happlies : CallAllowed catalogEnv catalogEffect w₁ (.applyToStateMachine [notesEntry 1]) := by
    intro n hn
    obtain rfl := hn.unique h₁
    refine ⟨confined_notes _, fun e he => ?_⟩
    cases List.mem_singleton.1 he
    exact .inr ⟨notesEntry 1, rfl, rfl⟩
  -- the power goes when nothing runs, and leaves the last commit
  have hfound : LogNode catalogEnv _ _ _ w₂ := h₂.found
  obtain ⟨hlog, hdata⟩ := hfound.powerLoss hfound.fileOf
  obtain ⟨hreopen, -⟩ := openStore_node (w := (w₂.powerLoss w₂.logDb.durable).withFaults []) rfl hlog hdata
  have hrun := ((SharedRun.opened [] hopen).call _ [] happends happend).call _ [] happlies happly
  have hlost := hrun.powerLoss (.saveVote ⟨1, 1, false⟩) [] [] 0 (fun _ _ => ⟨trivial, trivial⟩) (.inr ⟨0, rfl⟩) hreopen
  obtain ⟨state, q, es, hstate, hq, hes, hcovers⟩ := shared_store_stays_behind hlost
    (show resultOf RaftStore.lastAppliedState _ = .ok (some (logIdAt 1), default) from rfl) true
  exact ⟨_, state, q, es, rfl, hstate, hq, hes, hcovers⟩

/-- With a database of its own, the same node lost: the position is read back from the state store, and
the log that its entry was in is empty. -/
theorem separate_store_falls_ahead : ∃ (w₀ w₁ w₂ w : World Catalog),
    (RaftStore.openStore catalogEnv (some .file)).run.exec (World.fresh.withFaults []) =
      (.ok (storeOf (some .file)), w₀) ∧
    ((StoreCall.appendToLog [notesEntry 1]).run catalogEnv (storeOf (some .file))).run.exec (w₀.withFaults []) =
      (.ok (), w₁) ∧
    ((StoreCall.applyToStateMachine [notesEntry 1]).run catalogEnv (storeOf (some .file))).run.exec
      (w₁.withFaults []) = (.ok (), w₂) ∧
    (RaftStore.openStore catalogEnv (some .file)).run.exec ((w₂.powerLoss w₀.logDb.durable).withFaults []) =
      (.ok (storeOf (some .file)), w) ∧
    resultOf RaftStore.lastAppliedState w = .ok (some (logIdAt 1), default) ∧
    resultOf (storeOf (some .file)).getLogState w = .ok ⟨none, none⟩ := by
  obtain ⟨w₀, w₁, w₂, hopen, happend, happly, h₀, h₁, h₂⟩ := exists_noted (some .file)
  have hkept : FileOf catalogEnv (some .file) (unapplied catalogEnv) .empty w₀.logDb.durable :=
    (h₀.found : LogNode catalogEnv _ _ _ _).fileOf
  have hfile : FileOf catalogEnv (some .file) (Applied.at catalogEffect [] [notesEntry 1]) .empty
      w₀.logDb.durable := ⟨hkept.1, nofun⟩
  obtain ⟨hlog, hdata⟩ := LogNode.powerLoss (h₂.found : LogNode catalogEnv _ _ _ _) hfile
  obtain ⟨hreopen, hnode⟩ := openStore_node (w := (w₂.powerLoss w₀.logDb.durable).withFaults []) rfl hlog hdata
  have hserves : Serves catalogEnv (storeOf (some .file)) .empty _ := hnode.hard.serves
  obtain ⟨last, hstate, hlast⟩ := hserves.state
  have hnone : last = none := by
    rcases hlast with ⟨-, hlast⟩ | ⟨i, e, hentry, -⟩
    · exact hlast
    · cases hentry
  subst hnone
  exact ⟨w₀, w₁, w₂, _, hopen, happend, happly, hreopen, rfl, hstate⟩

end Replicat
