import Replicat.Storage.Catalog
import Replicat.Storage.LogWrites

/-!
# The purge marker

`purge_logs_upto` commits the marker before it deletes the rows. In the runs of `LogRun` any
write may fail and the process may stop after any task. `purged_stay_gone_iff`: what was purged
stays gone as long as no purge ends between its two writes over a row it has yet to delete.
-/

namespace Replicat

open Sqlite Atomics Atomics.Prog LogWrite

variable {U : Type}

namespace AbstractLog

/-- Every entry is above the marker. -/
def AboveMark (l : AbstractLog) : Prop :=
  ∀ id, l.purged = some id → ∀ i e, l.entries i = some e → id.index.toNat < i

end AbstractLog

/-- The raft core appends above the marker. -/
def AppendsAbove (l : AbstractLog) : StoreCall → Prop
  | .appendToLog entries => ∀ e ∈ entries, ∀ id, l.purged = some id → id.index.toNat < e.index
  | _ => True

/-- The writes done are not the marker of a purge alone, unless there is no row to delete. -/
def NotCut (l : AbstractLog) (done : List LogWrite) : Prop :=
  ∀ id, done = [.marker id] → ∀ i e, l.entries i = some e → id.index.toNat < i

section Runs

variable [Serde LogId] [Serde Vote] [Serde Entry] [Serde EffectiveMembership] [Serde SnapshotMeta]

/-- A call on whatever storage, to its end or stopped after `n` tasks; then the store is opened
again. `done` is what it has written. -/
inductive LogStep (env : Env U) (stateStore : Option StateStore) (w : World U) (s : HardState) :
    List LogWrite → World U → Prop where
  | call {r w'} (call : StoreCall) (faults : List Bool) : call.onLogHalf → AppendsAbove s.log call →
      (call.run env (storeOf stateStore)).run.exec (w.withFaults faults) = (r, w') →
      LogStep env stateStore w s (through call.writes faults) w'
  | stopped {store w'} (call : StoreCall) (faults : List Bool) (n : Nat) {faults' : List Bool} :
      call.onLogHalf → AppendsAbove s.log call →
      (RaftStore.openStore env stateStore).run.exec
        (((call.run env (storeOf stateStore)).run.after n (w.withFaults faults)).crash.withFaults faults') =
          (.ok store, w') →
      LogStep env stateStore w s ((through call.writes faults).take n) w'

/-- Runs from an empty disk whose steps meet `ok`. -/
inductive LogRun (env : Env U) (stateStore : Option StateStore) (ok : AbstractLog → List LogWrite → Prop) :
    World U → HardState → Prop where
  | opened {faults store w} :
      (RaftStore.openStore env stateStore).run.exec (World.fresh.withFaults faults) = (.ok store, w) →
      LogRun env stateStore ok w .empty
  | step {w s done w'} : LogRun env stateStore ok w s → LogStep env stateStore w s done w' → ok s.log done →
      LogRun env stateStore ok w' (s.after done)

/-- The last log id is not below the marker, and no read returns an entry at or below it. -/
def PurgedGone (env : Env U) (store : RaftStore) (w : World U) : Prop :=
  ∃ log, resultOf store.getLogState w = .ok log ∧ ∀ id, log.lastPurgedLogId = some id →
    (∃ last, log.lastLogId = some last ∧ id.index ≤ last.index) ∧
    ∀ checks startBound endBound p es, store.tryGetLogEntries env checks startBound endBound = some p →
      resultOf p w = .ok es → ∀ e ∈ es, id.index.toNat < e.index

/-! ## What the store answers -/

section Answers

variable {env : Env U} {store : RaftStore} {s : HardState} {w : World U}

omit [Serde EffectiveMembership] [Serde SnapshotMeta] in
/-- Whatever the bounds, only entries of the log are returned. -/
theorem HoldsHard.returned (h : HoldsHard store s w) {checks : Bool} {startBound endBound : Bound}
    {p : StorageResult U (List Entry)} {es : List Entry}
    (hp : store.tryGetLogEntries env checks startBound endBound = some p) (hes : resultOf p w = .ok es) :
    ∀ e ∈ es, s.log.entries e.index = some e := by
  obtain ⟨d, hr, hd, -⟩ := (HoldsHard.withFaults []).2 h
  obtain ⟨t, ht, hrows⟩ := hd.rows
  obtain ⟨query, hquery, -⟩ := Option.map_eq_some_iff.1 hp
  obtain ⟨p', es', hp', hexec, -, hmem⟩ :=
    tryGetLogEntries_query rfl hr ht hrows (fun he => (hd.keyed he).1) hquery
  obtain rfl := Option.some.inj (hp.symm.trans hp')
  obtain rfl : es' = es := Except.ok.inj ((congrArg Prod.fst hexec).symm.trans hes)
  exact fun e he => ((hmem e.index e).1 ⟨he, rfl⟩).1

omit [Serde EffectiveMembership] [Serde SnapshotMeta] in
/-- **The answers** are right about the marker exactly when every entry is above it. -/
theorem HoldsHard.purgedGone_iff (h : HoldsHard store s w) : PurgedGone env store w ↔ s.log.AboveMark := by
  have hserves : Serves env store s w := h.serves
  obtain ⟨last, hstate, hlast⟩ := hserves.state
  constructor
  · rintro ⟨log, hlog, hgone⟩ id hid i e he
    obtain rfl := Except.ok.inj (hstate.symm.trans hlog)
    obtain ⟨p, es, hp, hes, hmem⟩ := hserves.entries false .unbounded .unbounded ⟨0, by decide, trivial, trivial⟩
    obtain ⟨hin, hindex⟩ := (hmem i e).2 ⟨he, trivial, trivial⟩
    rw [← hindex]
    exact (hgone id hid).2 _ _ _ p es hp hes e hin
  · intro habove
    refine ⟨_, hstate, fun id hid => ⟨?_, fun checks startBound endBound p es hp hes e he => ?_⟩⟩
    · rcases hlast with ⟨-, rfl⟩ | ⟨i, e, he, -, rfl⟩
      · exact ⟨id, hid, UInt64.le_refl _⟩
      · obtain ⟨d, -, hd, -⟩ := h
        have hindex : e.logId.index.toNat = i := (hd.keyed he).1
        have hlt := habove id hid i e he
        exact ⟨e.logId, rfl, UInt64.le_iff_toNat_le.2 (by omega)⟩
    · exact habove id hid _ e (h.returned hp hes e he)

end Answers

end Runs

/-! ## The marker and the entries -/

section Marker

variable {s : HardState} {l : AbstractLog} {call : StoreCall} {done : List LogWrite}

theorem aboveMark_put {e : Entry} (h : l.AboveMark) (he : ∀ id, l.purged = some id → id.index.toNat < e.index) :
    (l.put e).AboveMark := by
  intro id hid i e' he'
  by_cases hi : i = e.index
  · exact hi ▸ he id hid
  · exact h id hid i e' ((AbstractLog.entries_put_ne l hi).symm.trans he')

/-- What is done of an append. -/
theorem aboveMark_entries {entries : List Entry} (h : s.log.AboveMark)
    (habove : ∀ e ∈ entries, ∀ id, s.log.purged = some id → id.index.toNat < e.index)
    (hdone : done <+: entries.map .entry) : (s.after done).log.AboveMark := by
  induction entries generalizing s done with
  | nil =>
    obtain rfl := List.prefix_nil.1 hdone
    exact h
  | cons e entries ih =>
    cases done with
    | nil => exact h
    | cons a as =>
      obtain ⟨rfl, hrest⟩ := List.cons_prefix_cons.1 hdone
      exact ih (s := (LogWrite.entry e).onHard s) (aboveMark_put h (habove e List.mem_cons_self))
        (fun e' he' => habove e' (List.mem_cons_of_mem e he')) hrest

theorem aboveMark_filter (h : l.AboveMark) (p : Nat → Prop) [DecidablePred p] :
    ({ l with entries := fun i => if p i then none else l.entries i } : AbstractLog).AboveMark := by
  intro id hid i e he
  simp only at he
  split at he
  · cases he
  · exact h id hid i e he

/-- The two writes of a purge leave what is above its id. -/
theorem aboveMark_purgeUpto (id : LogId) : (l.purgeUpto id).AboveMark := by
  intro id' hid' i e he
  obtain rfl : id = id' := Option.some.inj hid'
  rw [AbstractLog.entries_purgeUpto] at he
  split at he
  · cases he
  · omega

/-- The first alone leaves every entry. -/
theorem aboveMark_mark (id : LogId) :
    (l.mark id).AboveMark ↔ ∀ i e, l.entries i = some e → id.index.toNat < i := by
  constructor
  · exact fun h i e he => h id rfl i e he
  · rintro h id' hid' i e he
    obtain rfl : id = id' := Option.some.inj hid'
    exact h i e he

/-- **One step**: the entries stay above the marker exactly when it is not cut. -/
theorem aboveMark_after_iff (h : s.log.AboveMark) (hcall : AppendsAbove s.log call)
    (hdone : done <+: call.writes) : (s.after done).log.AboveMark ↔ NotCut s.log done := by
  have hother : (∀ id, done ≠ [.marker id]) → (s.after done).log.AboveMark →
      ((s.after done).log.AboveMark ↔ NotCut s.log done) :=
    fun hne hdone' => iff_of_true hdone' fun id hid => absurd hid (hne id)
  cases call with
  | saveVote v =>
    rcases List.prefix_cons_iff.1 hdone with rfl | ⟨as, rfl, has⟩
    · exact hother (fun _ hid => nomatch hid) h
    · obtain rfl := List.prefix_nil.1 has
      exact hother (fun _ hid => nomatch hid) h
  | appendToLog entries =>
    refine hother (fun id hid => ?_) (aboveMark_entries h hcall hdone)
    have hmem : LogWrite.marker id ∈ entries.map LogWrite.entry :=
      hdone.subset (hid ▸ List.mem_singleton_self _)
    obtain ⟨_, -, hcontra⟩ := List.mem_map.1 hmem
    cases hcontra
  | deleteConflictLogsSince logId =>
    rcases List.prefix_cons_iff.1 hdone with rfl | ⟨as, rfl, has⟩
    · exact hother (fun _ hid => nomatch hid) h
    · obtain rfl := List.prefix_nil.1 has
      exact hother (fun _ hid => nomatch hid) (aboveMark_filter h (logId.index.toNat ≤ ·))
  | purgeLogsUpto logId =>
    rcases List.prefix_cons_iff.1 hdone with rfl | ⟨as, rfl, has⟩
    · exact hother (fun _ hid => nomatch hid) h
    · rcases List.prefix_cons_iff.1 has with rfl | ⟨bs, rfl, hbs⟩
      · -- only the marker is written
        show (s.log.mark logId).AboveMark ↔ _
        rw [aboveMark_mark]
        constructor
        · rintro hrows id hid
          obtain rfl : logId = id := by simpa using hid
          exact hrows
        · exact fun hcut => hcut logId rfl
      · obtain rfl := List.prefix_nil.1 hbs
        have hpurged : ((s.log.mark logId).deleteUpto logId).AboveMark := by
          rw [AbstractLog.deleteUpto_mark]
          exact aboveMark_purgeUpto logId
        exact hother (fun _ hid => nomatch hid) hpurged
  | applyToStateMachine | buildSnapshot | installSnapshot =>
    obtain rfl := List.prefix_nil.1 hdone
    exact hother (fun _ hid => nomatch hid) h

end Marker

/-! ## Runs -/

section Runs

variable [Serde LogId] [Serde Vote] [Serde Entry] [Serde EffectiveMembership] [Serde SnapshotMeta]
  {env : Env U} {stateStore : Option StateStore} {v : Applied U} {s : HardState} {w w' : World U}
  {done : List LogWrite}

/-- What a step leaves on the node. -/
theorem LogStep.node (hstep : LogStep env stateStore w s done w') (h : LogNode env stateStore v s w) :
    LogNode env stateStore v (s.after done) w' := by
  cases hstep with
  | call call faults hcall _ hexec =>
    rw [run_eq_commitAll hcall] at hexec
    obtain ⟨r, w'', hexec', hnode, -⟩ := ((LogNode.withFaults faults).2 h).exec call.writes
    rw [hexec] at hexec'
    obtain ⟨-, rfl⟩ := Prod.ext_iff.1 hexec'
    exact hnode
  | stopped call faults n hcall _ hopen =>
    rw [run_eq_commitAll hcall] at hopen
    exact (((LogNode.withFaults faults).2 h).after call.writes n).reopen_ok hopen

theorem LogStep.aboveMark_iff (hstep : LogStep env stateStore w s done w') (h : s.log.AboveMark) :
    (s.after done).log.AboveMark ↔ NotCut s.log done := by
  cases hstep with
  | call call faults _ habove _ => exact aboveMark_after_iff h habove (isPrefix_through ..)
  | stopped call faults n _ habove _ =>
    exact aboveMark_after_iff h habove ((List.take_prefix ..).trans (isPrefix_through ..))

theorem LogRun.node {ok : AbstractLog → List LogWrite → Prop} (h : LogRun env stateStore ok w s) :
    LogNode env stateStore (unapplied env) s w := by
  induction h with
  | opened hopen => exact .fresh env _ stateStore hopen
  | step _ hstep _ ih => exact hstep.node ih

theorem LogRun.aboveMark (h : LogRun env stateStore NotCut w s) : s.log.AboveMark := by
  induction h with
  | opened => exact fun id hid => nomatch hid
  | step _ hstep hcut ih => exact (hstep.aboveMark_iff ih).2 hcut

end Runs

/-- **Purged entries stay gone** in every state of a run without a cut purge; and a step from a
state where they are gone keeps them gone exactly when it is not one. -/
theorem purged_stay_gone_iff [Serde LogId] [Serde Vote] [Serde Entry] [Serde EffectiveMembership]
    [Serde SnapshotMeta] (env : Env U) (stateStore : Option StateStore) :
    (∀ {w s}, LogRun env stateStore NotCut w s → PurgedGone env (storeOf stateStore) w) ∧
    ∀ {w s done w'}, LogRun env stateStore (fun _ _ => True) w s → PurgedGone env (storeOf stateStore) w →
      LogStep env stateStore w s done w' → (PurgedGone env (storeOf stateStore) w' ↔ NotCut s.log done) := by
  refine ⟨fun hrun => hrun.node.hard.purgedGone_iff.2 hrun.aboveMark, fun hrun hgone hstep => ?_⟩
  rw [(hstep.node hrun.node).hard.purgedGone_iff]
  exact hstep.aboveMark_iff (hrun.node.hard.purgedGone_iff.1 hgone)

/-- A store just opened takes its first entry. -/
theorem openStore_append : ∃ w₁ w₂,
    (RaftStore.openStore catalogEnv none).run.exec World.fresh = (.ok (storeOf none), w₁) ∧ w₁.faults = [] ∧
    ((storeOf none).appendToLog [notesEntry 1]).run.exec w₁ = (.ok (), w₂) ∧
    LogNode catalogEnv none (unapplied catalogEnv) (HardState.empty.after [.entry (notesEntry 1)]) w₂ := by
  obtain ⟨w₁, hopen, hfresh, hfaults⟩ := openStore_fresh catalogEnv none
  obtain ⟨r, w₂, happend, hnode, hok⟩ := hfresh.exec (StoreCall.appendToLog [notesEntry 1]).writes
  have hthrough : through (StoreCall.appendToLog [notesEntry 1]).writes [] = [.entry (notesEntry 1)] := by
    decide
  rw [hfaults, hthrough] at hnode hok
  obtain rfl := hok.2 rfl
  have hwrites : (StoreCall.appendToLog [notesEntry 1]).run catalogEnv (storeOf none) = _ := run_eq_commitAll rfl
  rw [← hwrites] at happend
  exact ⟨w₁, w₂, hopen, hfaults, happend, hnode⟩

/-- An entry is appended and purged. -/
theorem purged_stay_gone_purge : ∃ w₁ w₂ w₃,
    (RaftStore.openStore catalogEnv none).run.exec World.fresh = (.ok (storeOf none), w₁) ∧
    ((storeOf none).appendToLog [notesEntry 1]).run.exec (w₁.withFaults []) = (.ok (), w₂) ∧
    ((storeOf none).purgeLogsUpto (logIdAt 1)).run.exec (w₂.withFaults []) = (.ok (), w₃) ∧
    PurgedGone catalogEnv (storeOf none) w₃ := by
  obtain ⟨w₁, w₂, hopen, hfaults, happend, hnode⟩ := openStore_append
  rw [← World.withFaults_self hfaults] at happend
  obtain ⟨r, w₃, hpurge, -, hok⟩ :=
    ((LogNode.withFaults []).2 hnode).exec (StoreCall.purgeLogsUpto (logIdAt 1)).writes
  obtain rfl := hok.2 (show through (StoreCall.purgeLogsUpto (logIdAt 1)).writes [] = _ by decide)
  have hwrites : (StoreCall.purgeLogsUpto (logIdAt 1)).run catalogEnv (storeOf none) = _ := run_eq_commitAll rfl
  rw [← hwrites] at hpurge
  have hopened : LogRun catalogEnv none NotCut w₁ .empty := .opened (show _ = _ from hopen)
  have hrun := (hopened.step (.call (.appendToLog [notesEntry 1]) [] rfl (fun _ _ _ hid => nomatch hid) happend)
    fun _ hid => nomatch hid).step (.call (.purgeLogsUpto (logIdAt 1)) [] rfl trivial hpurge) fun _ hid => nomatch hid
  exact ⟨w₁, w₂, w₃, hopen, happend, hpurge, (purged_stay_gone_iff catalogEnv none).1 hrun⟩

/-- An entry is appended, and a purge beyond it stops after its marker: the last log id is below
the marker, and the entry is still returned. -/
theorem cut_purge_keeps_entry : ∃ w₁ w₂ w₃,
    (RaftStore.openStore catalogEnv none).run.exec World.fresh = (.ok (storeOf none), w₁) ∧
    ((storeOf none).appendToLog [notesEntry 1]).run.exec w₁ = (.ok (), w₂) ∧
    (RaftStore.openStore catalogEnv none).run.exec
        ((((storeOf none).purgeLogsUpto (logIdAt 5)).run.after 1 (w₂.withFaults [])).crash.withFaults []) =
      (.ok (storeOf none), w₃) ∧
    resultOf (storeOf none).getLogState w₃ = .ok ⟨some (logIdAt 5), some (logIdAt 1)⟩ ∧
    (∃ p es, (storeOf none).tryGetLogEntries catalogEnv true .unbounded .unbounded = some p ∧
      resultOf p w₃ = .ok es ∧ notesEntry 1 ∈ es) ∧
    ¬ PurgedGone catalogEnv (storeOf none) w₃ := by
  obtain ⟨w₁, w₂, hopen, -, happend, hnode⟩ := openStore_append
  -- the purge stops after one task
  have hcut := ((LogNode.withFaults []).2 hnode).after (StoreCall.purgeLogsUpto (logIdAt 5)).writes 1
  have hwrites : (StoreCall.purgeLogsUpto (logIdAt 5)).run catalogEnv (storeOf none) = _ := run_eq_commitAll rfl
  rw [← hwrites] at hcut
  obtain ⟨w₃, hreopen, hnode₃, -⟩ := hcut.reopen
  have hmarked : through (StoreCall.purgeLogsUpto (logIdAt 5)).writes [] =
      [.marker (logIdAt 5), .deleteUpto (logIdAt 5)] := by decide
  have hs : (HardState.empty.after [.entry (notesEntry 1)]).after
      (List.take 1 (through (StoreCall.purgeLogsUpto (logIdAt 5)).writes [])) =
      ⟨none, (AbstractLog.empty.put (notesEntry 1)).mark (logIdAt 5)⟩ := by
    rw [hmarked]
    rfl
  rw [show (w₂.withFaults []).faults = [] from rfl, hs] at hnode₃
  have hentry : (AbstractLog.empty.put (notesEntry 1)).entries 1 = some (notesEntry 1) := rfl
  have honly : ∀ i e, (AbstractLog.empty.put (notesEntry 1)).entries i = some e → e = notesEntry 1 := by
    intro i e he
    by_cases hi : i = (notesEntry 1).index
    · subst hi
      exact (Option.some.inj he).symm
    · rw [AbstractLog.entries_put_ne _ hi] at he
      cases he
  have hserves : Serves catalogEnv (storeOf none) _ w₃ := hnode₃.hard.serves
  obtain ⟨last, hstate, hlast⟩ := hserves.state
  obtain ⟨p, es, hp, hes, hmem⟩ := hserves.entries true .unbounded .unbounded ⟨0, by decide, trivial, trivial⟩
  have hreturned : notesEntry 1 ∈ es := ((hmem 1 (notesEntry 1)).2 ⟨hentry, trivial, trivial⟩).1
  have hlastId : last = some (logIdAt 1) := by
    rcases hlast with ⟨hempty, -⟩ | ⟨i, e, he, -, rfl⟩
    · exact absurd rfl (hempty 1)
    · rw [honly i e he]
      rfl
  subst hlastId
  refine ⟨w₁, w₂, w₃, hopen, happend, hreopen, hstate, ⟨p, es, hp, hes, hreturned⟩, fun hgone => ?_⟩
  exact absurd (hnode₃.hard.purgedGone_iff.1 hgone _ rfl 1 _ hentry) (by decide)

end Replicat
