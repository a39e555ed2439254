import Replicat.Lib.Advance
import Replicat.Storage.Clones

/-!
# What a replica's local reads see

The core applies the log in order, installs snapshots of later positions, and stops at a storage
error. The local reads of clients run beside it, between any two of its tasks.
`local_reads_follow_log`: each of them is answered from the tables that a prefix of the log makes, in
the middle of an apply or an install as well, and a later one from a prefix that is no shorter.
-/

namespace Replicat

open Sqlite Atomics Atomics.Prog

variable {U T α : Type}

/-! ## The tables -/

/-- Clients have left these tables only in the database behind the handle, and no transaction is open
on it. -/
def HasTables (data : StorageHandle) (tables : U) (w : World U) : Prop :=
  ∃ d, w.Reads data d ∧ OnlyTables tables d

/-- The tables that the first `p` entries of the log make. -/
def tablesAt (effect : Request → U → U) (base : U) (log : List Entry) (p : Nat) : U :=
  execEntries effect base (log.take p)

section Tables

variable {data h : StorageHandle} {tables : U} {w w' : World U}

theorem hasTables_withFaults (fs : List Bool) : HasTables data tables (w.withFaults fs) ↔ HasTables data tables w := by
  unfold HasTables World.Reads
  rw [World.conn_withFaults]

theorem hasTables_nextFault : HasTables data tables w.nextFault.2 ↔ HasTables data tables w := by
  rw [World.nextFault_snd, hasTables_withFaults]

/-- A statement that keeps the client tables, and leaves nothing else. -/
theorem keepsTables_execute {f : Stmt U}
    (hf : ∀ d d' out, f d = .ok (d', out) → OnlyTables tables d → OnlyTables tables d') :
    (h.execute (.onMain f)).run.Within (Keeps (HasTables data tables)) := by
  refine StorageHandle.within_submitTask (fun w => hasTables_nextFault.2) fun w hw => ?_
  obtain ⟨d, hr, hd⟩ := hw
  unfold Connection.execute
  by_cases hh : h = data
  · subst hh
    rcases Connection.step_onMain_cases (w.conn h) f with ⟨s, d', out, hs, hstmt, hstep⟩ | ⟨e, hstep⟩
    · rw [show (w.conn h).session = some ⟨d, none⟩ from hr] at hs
      cases hs
      refine ⟨d', ?_, hf _ _ _ hstmt hd⟩
      unfold World.Reads
      rw [World.conn_setConn_self, hstep]
    · refine ⟨d, ?_, hd⟩
      unfold World.Reads
      rw [World.conn_setConn_self, hstep]
      exact hr
  · refine ⟨d, ?_, hd⟩
    unfold World.Reads
    rwa [World.conn_setConn_ne _ hh, World.conn_nextFault]

theorem keepsTables_upsert (key : String) (v : Value) :
    (h.execute (.onMain (replicatKvUpsert key v))).run.Within (Keeps (HasTables data tables)) :=
  keepsTables_execute fun d d' out hstmt hd => by
    rw [(replicatKvUpsert_eq_ok hstmt).1]
    exact ⟨(Database.user_putKv ..).trans hd.user, (Database.hindrances_putKv ..).trans hd.clear,
      (Database.objects_putKv ..).trans hd.objects⟩

theorem Quiet.keepsTables (hq : Quiet w w') : Keeps (HasTables data tables) w w' := by
  rintro ⟨d, hr, hd⟩
  obtain ⟨s, hs, hsame, hsaved⟩ := (hq.conn data).session _ hr
  obtain ⟨d', saved⟩ := s
  cases hsaved
  exact ⟨d', hs, hsame.user.trans hd.user, hsame.hindrances.trans hd.clear, hsame.objects.trans hd.objects⟩

theorem Calm.keepsTables (hcalm : Calm w w') : Keeps (HasTables data tables) w w' := by
  intro hw
  exact (hasTables_withFaults []).1 (Quiet.keepsTables hcalm ((hasTables_withFaults []).2 hw))

end Tables

/-! ## Programs that meet failures -/

section Failing

variable {p : Prog (World U) α}

theorem advances_failing {ω : Type} [Preorder ω] {P : ω → World U → Prop} {Q : ω → α → Prop} {k : ω}
    (hP : ∀ k w fs, P k (w.withFaults fs) ↔ P k w) (h : p.Advances P Q k) (fails : Nat → Bool) :
    (failing fails p).Advances P Q k := by
  induction h generalizing fails with
  | ret hle hP' hQ => exact .ret hle hP' hQ
  | act next hle hact _ ih =>
    refine .act (fun w => next (w.withFaults [fails 0])) (fun w hw => hle _ ((hP _ _ _).2 hw))
      (fun w hw => (hP _ _ _).2 (hact _ ((hP _ _ _).2 hw))) fun w hw => ih _ ((hP _ _ _).2 hw) _

theorem keeps_failing {A : World U → Prop} (hA : ∀ w fs, A (w.withFaults fs) ↔ A w)
    (h : p.Within (Keeps A)) (fails : Nat → Bool) : (failing fails p).Within (Keeps A) := by
  induction h generalizing fails with
  | ret a => exact .ret a
  | act hu _ ih =>
    exact .act (fun w hw => (hA _ _).2 (hu _ ((hA _ _).2 hw))) fun w => ih _ _

end Failing

/-! ## The core -/

section Core

variable [Serde LogId] [Serde Vote] [Serde Entry] [Serde EffectiveMembership] [Serde SnapshotMeta]

/-- A call of a core that follows the log, from a position and, if it does not fail, to a position. -/
inductive Due (env : Env U) (effect : Request → U → U) (base : U) (log : List Entry) :
    UserCall T → Nat → Nat → Prop
  | apply {entries : List Entry} {p : Nat} : entries <+: log.drop p →
      Due env effect base log (.store (.applyToStateMachine entries)) p (p + entries.length)
  | install {metadata : SnapshotMeta} {snapshot : Bytes} {d : Database U} {p q : Nat} : p ≤ q →
      env.deserialize snapshot = some d → d.user = tablesAt effect base log q → d.hindrances = [] →
      Due env effect base log (.store (.installSnapshot metadata snapshot)) p q
  | log {call : StoreCall} {p : Nat} : call.onLogHalf = true → Due env effect base log (.store call) p p
  | read {call : ReadCall} {p : Nat} : Due env effect base log (.read call) p p

/-- The answer is not a storage error of a call that writes. -/
def UserCall.Granted : (call : UserCall T) → call.Answer → Prop
  | .store _ => fun r => r = .ok ()
  | _ => fun _ => True

/-- The caller follows the log from this position, and stops at a storage error. -/
inductive Follows (env : Env U) (effect : Request → U → U) (base : U) (log : List Entry) :
    Nat → Caller (UserCall T) UserCall.Answer α → Prop
  | done (p : Nat) (a : α) : Follows env effect base log p (.done a)
  | call {p q : Nat} {call : UserCall T} {next : call.Answer → Caller (UserCall T) UserCall.Answer α} :
      Due env effect base log call p q → (∀ r, call.Granted r → Follows env effect base log q (next r)) →
      (∀ r, ¬ call.Granted r → ∃ a, next r = .done a) → Follows env effect base log p (.call call next)

variable {env : Env U} {effect : Request → U → U} {base : U} {log entries : List Entry} {store : RaftStore}
  {p q : Nat}

omit [Serde LogId] [Serde Vote] [Serde Entry] [Serde EffectiveMembership] [Serde SnapshotMeta] in
theorem tablesAt_succ {e : Entry} {rest : List Entry} (h : log.drop p = e :: rest) :
    tablesAt effect base log (p + 1) = execEntry effect (tablesAt effect base log p) e := by
  have hget : log[p]? = some e := by
    have hhead := congrArg List.head? h
    rwa [List.head?_drop] at hhead
  unfold tablesAt
  rw [List.take_add_one, hget, Option.toList_some, execEntries_append_singleton]

omit [Serde Vote] [Serde Entry] [Serde SnapshotMeta] in
/-- What is written around an entry keeps the tables. -/
theorem keepsTables_markers (data : StorageHandle) (tables : U) (logId : LogId) (mem : EffectiveMembership) :
    (StateMachine.setLastAppliedLog data logId : StorageResult U Unit).run.Within (Keeps (HasTables data tables)) ∧
      (StateMachine.setLastMembership data mem : StorageResult U Unit).run.Within
        (Keeps (HasTables data tables)) := by
  constructor
  · unfold StateMachine.setLastAppliedLog
    refine Within.run_bind (within_run_liftResult _) fun data => ?_
    refine Within.run_bind (keepsTables_upsert _ _).run_mapErr fun _ => ?_
    exact within_run_liftAct fun w hw => hw
  · unfold StateMachine.setLastMembership
    refine Within.run_bind (within_run_liftResult _) fun data => ?_
    refine Within.run_bind (keepsTables_upsert _ _).run_mapErr fun _ => ?_
    exact within_run_liftAct fun w hw => hw

/-- At position `k` the tables are those of the first `k` entries. -/
abbrev TablesFollow (effect : Request → U → U) (base : U) (log : List Entry) (data : StorageHandle) (k : Nat) :
    World U → Prop := HasTables data (tablesAt effect base log k)

omit [Serde LogId] [Serde Vote] [Serde Entry] [Serde EffectiveMembership] [Serde SnapshotMeta] in
/-- The statement of the next entry. -/
theorem advances_statement {req : Request} {e : Entry} {rest : List Entry} (h : log.drop p = e :: rest)
    (hpayload : e.payload = .normal req) (hruns : RunsOn env effect (tablesAt effect base log p) req) :
    (store.data.execute (RaftStore.clientStatement env req)).run.Advances (TablesFollow effect base log store.data)
      (fun k r => (∃ n, r = .ok n) → k = p + 1) p := by
  refine .atomic fun w hw => ?_
  split
  · exact ⟨p, le_rfl, hasTables_nextFault.2 hw, nofun⟩
  · obtain ⟨d, hr, hd⟩ := hw
    obtain ⟨own, n, hobjects, hn⟩ := hruns d hd
    refine ⟨p + 1, Nat.le_succ p,
      ⟨{ d with user := effect req (tablesAt effect base log p), own }, ?_, ?_, hd.clear, hobjects⟩, fun _ => rfl⟩
    · unfold World.Reads
      rw [World.conn_setConn_self]
      show ((w.conn store.data).step _).1.session = _
      rw [Connection.step_some hr, hn]
    · rw [tablesAt_succ h, execEntry, hpayload]

omit [Serde LogId] [Serde Vote] [Serde Entry] [Serde SnapshotMeta] in
/-- The payload of the next entry takes the tables one entry further. -/
theorem advances_applyPayload {e : Entry} {rest : List Entry} (h : log.drop p = e :: rest)
    (hruns : ∀ req, e.payload = .normal req → RunsOn env effect (tablesAt effect base log p) req) :
    (store.applyPayload env e).run.Advances (TablesFollow effect base log store.data)
      (fun k r => (∃ res, r = .ok res) → k = p + 1) p := by
  have hsucc : tablesAt effect base log (p + 1) = execEntry effect (tablesAt effect base log p) e := tablesAt_succ h
  unfold execEntry at hsucc
  unfold RaftStore.applyPayload
  rcases hpayload : e.payload with _ | req | mem <;> rw [hpayload] at hsucc
  · exact .ret (Nat.le_succ p) (fun w hw => by unfold TablesFollow; rwa [hsucc]) fun _ => rfl
  · refine ((advances_statement h hpayload (hruns req hpayload)).run_mapErr
      (R := fun k r => (∃ n, r = .ok n) → k = p + 1) fun k r hr hok => hr ?_).run_bind (fun _ _ _ => nofun)
      fun k n hk => .pure fun _ => hk ⟨n, rfl⟩
    rcases r with e | n
    · obtain ⟨n, hn⟩ := hok
      cases hn
    · exact ⟨n, rfl⟩
  · refine Prog.Advances.run_bind (Q := fun k _ => k = p)
      (.of_keeps (keepsTables_markers store.data _ e.logId ⟨some e.logId, mem⟩).2 fun _ => rfl)
      (fun _ _ _ => nofun) ?_
    rintro _ _ rfl
    exact .ret (Nat.le_succ _) (fun w hw => by unfold TablesFollow; rwa [hsucc]) fun _ => rfl

omit [Serde Vote] [Serde Entry] [Serde SnapshotMeta] in
/-- The loop of an apply goes from entry to entry. -/
theorem advances_applyEntries (hconfined : Confined env effect base log) (h : entries <+: log.drop p)
    (res : List Response) :
    (store.applyEntries env entries res).run.Advances (TablesFollow effect base log store.data)
      (fun k r => (∃ res, r = .ok res) → k = p + entries.length) p := by
  induction entries generalizing p res with
  | nil => exact .pure fun _ => rfl
  | cons e entries ih =>
    obtain ⟨rest, hrest⟩ := h
    have hdrop : log.drop p = e :: (entries ++ rest) := hrest.symm
    have hnext : entries <+: log.drop (p + 1) := by
      refine ⟨rest, ?_⟩
      rw [← List.drop_drop, hdrop]
      rfl
    have hruns : Confined env effect (tablesAt effect base log p) (e :: (entries ++ rest)) :=
      hdrop ▸ hconfined.drop p
    refine Prog.Advances.run_bind (Q := fun k _ => k = p)
      (.of_keeps (keepsTables_markers store.data _ e.logId default).1 fun _ => rfl) (fun _ _ _ => nofun) ?_
    rintro _ _ rfl
    refine (advances_applyPayload hdrop hruns.1).run_bind (fun _ _ _ => nofun) fun k response hk => ?_
    obtain rfl := hk ⟨response, rfl⟩
    simpa [Nat.add_assoc, Nat.add_comm 1] using ih hnext (res ++ [response])

omit [Serde LogId] [Serde Vote] [Serde Entry] [Serde EffectiveMembership] in
/-- An install jumps to the position of its image, or stays where it is. -/
theorem advances_installSnapshot {metadata : SnapshotMeta} {snapshot : Bytes} {d : Database U} (hpq : p ≤ q)
    (himage : env.deserialize snapshot = some d) (hd : d.user = tablesAt effect base log q)
    (hclear : d.hindrances = []) :
    (store.installSnapshot env metadata snapshot).run.Advances (TablesFollow effect base log store.data)
      (fun k r => r = .ok () → k = q) p := by
  have hload : (store.data.loadFromSerialized env snapshot).run.Advances
      (TablesFollow effect base log store.data) (fun k r => r = .ok () → k = q) p := by
    refine .atomic fun w hw => ?_
    split
    · exact ⟨p, le_rfl, hasTables_nextFault.2 hw, nofun⟩
    · obtain ⟨d', hr, -, hclear', hobjects⟩ := hw
      refine ⟨q, hpq, ⟨Contents.replace d' d, ?_, hd, (Database.clear_replace hclear').trans hclear, hobjects⟩,
        fun _ => rfl⟩
      unfold World.Reads StorageHandle.deserializeDb
      rw [World.conn_setConn_self, himage]
      exact Connection.replaced_some hr _
  unfold RaftStore.installSnapshot StorageHandle.fromSlice
  by_cases hempty : snapshot.isEmpty
  · rw [if_pos hempty]
    exact .pure nofun
  · rw [if_neg hempty]
    refine (hload.run_mapErr (R := fun k r => r = .ok () → k = q) fun k r hr hok => hr ?_).run_bind
      (fun _ _ _ => nofun) fun k _ hk => ?_
    · rcases r with e | ⟨⟩
      · cases hok
      · rfl
    · obtain rfl := hk rfl
      refine .of_keeps ?_ fun _ _ => rfl
      unfold writeSnapshotMeta
      exact (Within.run_bind (within_run_liftResult _) fun data =>
        (keepsTables_upsert _ _).run_mapErr.run_bind fun _ => within_run_pure _).run_mapErr

omit [Serde EffectiveMembership] [Serde SnapshotMeta] in
/-- No write of the log half touches a client's table. -/
theorem keepsTables_commitAll (data : StorageHandle) (tables : U) (as : List LogWrite) :
    (commitAll store as : StorageResult U Unit).run.Within (Keeps (HasTables data tables)) := by
  induction as with
  | nil => exact within_run_pure ()
  | cons a as ih =>
    refine Within.run_bind (keepsTables_execute fun d d' out hstmt hd => ?_).run_mapErr fun _ => ih
    obtain ⟨-, htables, hclear, hobjects, -⟩ := LogWrite.stmt_keeps hstmt
    exact ⟨htables.trans hd.user, hclear.trans hd.clear, hobjects.trans hd.objects⟩

/-- **A call of a core that follows the log** goes forward to where it is due. -/
theorem Due.advances (hconfined : Confined env effect base log) {call : UserCall T}
    (h : Due env effect base log call p q) :
    (call.run env store).Advances (TablesFollow effect base log store.data)
      (fun k r => call.Granted r → k = q) p := by
  cases h with
  | apply hprefix =>
    refine Prog.Advances.run_bind (advances_applyEntries hconfined hprefix []) (fun _ _ _ => nofun) fun k res hk => ?_
    exact .pure fun _ => hk ⟨res, rfl⟩
  | install hpq himage hd hclear => exact advances_installSnapshot hpq himage hd hclear
  | @log call _ hcall =>
    show (call.run env store).run.Advances _ _ _
    rw [run_eq_commitAll hcall]
    exact .of_keeps (keepsTables_commitAll _ _ _) fun _ _ => rfl
  | @read call _ =>
    have hclone : (UserCall.read call : UserCall T).ByClone env := trivial
    exact .of_keeps (hclone.within.mono fun _ _ => Calm.keepsTables) fun _ _ => rfl

theorem Follows.advances (hconfined : Confined env effect base log) {caller : Caller (UserCall T) UserCall.Answer α}
    (h : Follows env effect base log p caller) :
    (caller.run (UserCall.run env store)).Advances (TablesFollow effect base log store.data) (fun _ _ => True) p := by
  induction h with
  | done => exact .pure trivial
  | @call p q call next hdue _ hstop ih =>
    refine (hdue.advances hconfined).bind fun k r hk => ?_
    by_cases hr : call.Granted r
    · obtain rfl := hk hr
      exact ih r hr
    · obtain ⟨a, ha⟩ := hstop r hr
      rw [ha]
      exact .pure trivial

end Core

/-! ## The readers -/

section Readers

variable [Serde LogId] [Serde Vote] [Serde Entry] [Serde EffectiveMembership] [Serde SnapshotMeta]

/-- A local read: it changes nothing, and outside a transaction, where clients have left only tables that
may be met, its answer depends on these. -/
def UserCall.ReadsTables (env : Env U) (met : U → Prop) : UserCall T → Prop
  | fetchOne sql params _ | fetchAll sql params _ =>
    ReadsOnly env sql params ∧ ∃ answer : U → Except Failure Output, ∀ tables, met tables →
      ∀ d, OnlyTables tables d → (env.client sql params ⟨d, none⟩).2 = answer tables
  | _ => False

/-- A node that has these tables and nothing else. -/
def World.holding (env : Env U) (tables : U) : World U where
  logDb := .openMemory { Database.empty env with user := tables }
  stateDb := .openMemory { Database.empty env with user := tables }
  lastAppliedLog := none
  lastMembership := default
  snapshotFile := none
  faults := []

/-- The same clients' tables, outside a transaction. -/
def AlikeTables (met : U → Prop) (data : StorageHandle) (w t : World U) : Prop :=
  ∃ tables, met tables ∧ HasTables data tables w ∧ HasTables data tables t

variable {env : Env U} {store : RaftStore} {met : U → Prop}

omit [Serde LogId] [Serde Vote] [Serde Entry] [Serde EffectiveMembership] [Serde SnapshotMeta] in
theorem hasTables_holding (data : StorageHandle) (tables : U) :
    HasTables data tables (World.holding env tables) := by
  cases data <;> exact ⟨{ Database.empty env with user := tables }, rfl, rfl, rfl, rfl⟩

omit [Serde LogId] [Serde Vote] [Serde Entry] [Serde EffectiveMembership] [Serde SnapshotMeta] in
/-- A task that steps a reading statement, and answers from its output. -/
theorem respects_reading {sql : String} {params : List Value} {answer : U → Except Failure Output}
    (hread : UserCall.ReadsOnly env sql params)
    (hanswer : ∀ tables, met tables → ∀ d, OnlyTables tables d →
      (env.client sql params ⟨d, none⟩).2 = answer tables)
    {data : StorageHandle} (task : Connection (Database U) → Connection (Database U) × Except SqlError α)
    (g : Except Failure Output → Except SqlError α) (hstep : ∀ c, (task c).1 = (c.step (env.client sql params)).1)
    (hresult : ∀ c, (task c).2 = g (c.step (env.client sql params)).2) :
    (data.submitTask task).run.Respects fun w t => AlikeTables met data w t ∧ w.faults = t.faults := by
  refine respects_atomic fun w t hwt => ?_
  obtain ⟨⟨tables, hmet, hw, ht⟩, hfaults⟩ := hwt
  have hfault : w.nextFault.1 = t.nextFault.1 ∧ w.nextFault.2.faults = t.nextFault.2.faults := by
    unfold World.nextFault
    rw [hfaults]
    cases htf : t.faults with
    | nil => exact ⟨rfl, hfaults.trans htf |>.trans htf.symm⟩
    | cons => exact ⟨rfl, rfl⟩
  rw [hfault.1]
  split
  · exact ⟨rfl, ⟨tables, hmet, hasTables_nextFault.2 hw, hasTables_nextFault.2 ht⟩, hfault.2⟩
  · have hrun : ∀ {w : World U}, HasTables data tables w → (task (w.conn data)).2 = g (answer tables) ∧
        w.nextFault.2.setConn data (task (w.conn data)).1 = w.nextFault.2 := by
      rintro w ⟨d, hr, hd⟩
      refine ⟨?_, ?_⟩
      · rw [hresult, Connection.step_some hr, hanswer tables hmet d hd]
      · rw [hstep, step_eq_self.2 fun s _ => hread s, ← World.conn_nextFault w data, World.setConn_conn]
    refine ⟨(hrun hw).1.trans (hrun ht).1.symm, ?_⟩
    rw [(hrun hw).2, (hrun ht).2]
    exact ⟨⟨tables, hmet, hasTables_nextFault.2 hw, hasTables_nextFault.2 ht⟩, hfault.2⟩

theorem UserCall.ReadsTables.respects {call : UserCall T} (h : call.ReadsTables env met) :
    (call.run env store).Respects fun w t => AlikeTables met store.data w t ∧ w.faults = t.faults := by
  cases call with
  | fetchOne sql params fromRow =>
    obtain ⟨hread, answer, hanswer⟩ := h
    exact respects_reading hread hanswer (fun conn => conn.queryRow (env.client sql params) fromRow)
      (Connection.firstOf fromRow) (fun _ => rfl) fun _ => rfl
  | fetchAll sql params fromRow =>
    obtain ⟨hread, answer, hanswer⟩ := h
    exact respects_reading hread hanswer (fun conn => conn.query (env.client sql params) fromRow)
      (Connection.allOf fromRow) (fun _ => rfl) fun _ => rfl
  | store | read | buildSnapshot | getCurrentSnapshot => exact h.elim

variable {ι : Type} [DecidableEq ι] {effect : Request → U → U} {base : U} {log : List Entry}
  {callers : Option ι → Caller (UserCall T) UserCall.Answer α} {w : World U} {p : Nat}

/-- **Local reads follow the log.** Beside a core that follows the log from `p`, with clones that read
and build snapshots, each with failures of its own, a client that reads from its node reads what it would
from nodes that hold the tables of prefixes of the log, none shorter than `p` or than one before. -/
theorem local_reads_follow_log (hconfined : Confined env effect base log)
    (hw : HasTables store.data (tablesAt effect base log p) w) (fails : Option ι → Nat → Bool)
    (hcore : Follows env effect base log p (callers none))
    (hclones : ∀ j, (callers (some j)).All (UserCall.ByClone env)) {j : ι}
    (hreader : (callers (some j)).All (UserCall.ReadsTables env fun tables => ∃ q, tables = tablesAt effect base log q))
    (sched : List (Option ι)) :
    let node := sharedNode env store w callers fails
    ∃ prefixes : List Nat, prefixes.length = sched.count (some j) ∧ (p :: prefixes).Pairwise (· ≤ ·) ∧
      (node.run sched).threads (some j) =
        (node.threads (some j)).feed (prefixes.map fun q => .holding env (tablesAt effect base log q)) := by
  intro node
  have hothers : ∀ j, j ≠ none → ∀ q, (node.threads j).Within (Keeps (TablesFollow effect base log store.data q)) := by
    intro j hj q
    obtain ⟨j, rfl⟩ := Option.ne_none_iff_exists'.1 hj
    exact keeps_failing (fun _ fs => hasTables_withFaults fs)
      ((hclones j).within fun _ h => h.within.mono fun _ _ => Calm.keepsTables) _
  obtain ⟨prefixes, hsorted, hmet⟩ := Pool.turns_advance (c := node)
    (advances_failing (fun _ _ fs => hasTables_withFaults fs) (hcore.advances hconfined) (fails none)) hothers
    ((hasTables_withFaults []).2 hw) sched (some j)
  have hlength : (node.turns (some j) sched).length = sched.count (some j) := by
    rw [node.length_turns, lawful_beq_subsingleton instBEqOfDecidableEq Option.instBEq]
  refine ⟨prefixes, hmet.length_eq.trans hlength, hsorted, ?_⟩
  have hrespects : (node.threads (some j)).Respects
      (AlikeTables (fun tables => ∃ q, tables = tablesAt effect base log q) store.data) :=
    respects_failing (hreader.respects fun _ h => h.respects)
      (fun w t fs ⟨tables, hq, hw, ht⟩ =>
        ⟨⟨tables, hq, (hasTables_withFaults fs).2 hw, (hasTables_withFaults fs).2 ht⟩, rfl⟩)
      (fun w t ⟨⟨tables, hq, hw, ht⟩, _⟩ =>
        ⟨tables, hq, (hasTables_withFaults []).2 hw, (hasTables_withFaults []).2 ht⟩) _
  rw [Pool.run_threads]
  refine hrespects.feed ?_
  rw [List.forall₂_map_right_iff]
  exact hmet.flip.imp fun w q hq => ⟨_, ⟨q, rfl⟩, hq, hasTables_holding _ _⟩

end Readers

/-! ### Two batches, and a client that lists the tables -/

def twoTables : List Entry := [notesEntry 1, usersEntry 2]

/-- The core applies an entry and, if that has not failed, another one; a client lists the tables twice. -/
def followingCallers : Option Unit → Caller (UserCall String) UserCall.Answer (Option (List String))
  | none => .call (.store (.applyToStateMachine [notesEntry 1])) fun r =>
      if r = .ok () then .call (.store (.applyToStateMachine [usersEntry 2])) fun _ => .done none else .done none
  | some _ => .call (.fetchAll listTables [] fromRowText) fun _ =>
      .call (.fetchAll listTables [] fromRowText) fun tables => .done tables.toOption

/-- The storage fails the third of the core's tasks, the marker of the second entry. -/
def followingNode : Pool (Option Unit) (World Catalog) fun _ => Option (List String) :=
  sharedNode listingEnv (storeOf (some .file))
    (opened listingEnv (some .file) (Applied.at catalogEffect [] []) World.fresh) followingCallers
    fun i n => decide (i = none ∧ n = 3)

theorem follows_followingCallers :
    Follows listingEnv catalogEffect [] twoTables 0 (followingCallers none) := by
  refine .call (.apply (List.prefix_append _ [usersEntry 2])) (fun r hr => ?_) fun r hr => ⟨none, if_neg hr⟩
  have hok : r = .ok () := hr
  rw [if_pos hok]
  exact .call (.apply (List.prefix_refl _)) (fun _ _ => .done _ none) fun _ _ => ⟨none, rfl⟩

theorem readsTables_listing (met : Catalog → Prop) :
    (followingCallers (some ())).All (UserCall.ReadsTables listingEnv met) := by
  have hlists : (UserCall.fetchAll listTables [] fromRowText).ReadsTables listingEnv met := by
    refine ⟨fun _ => rfl, fun tables => .ok ⟨tables.map fun name => [.text name], 0⟩, ?_⟩
    rintro _ - d ⟨rfl, -⟩
    rfl
  exact .call hlists fun _ => .call hlists fun _ => .done _

theorem confined_listing : Confined listingEnv catalogEffect [] twoTables := by
  refine confined_of_forall (fun e he req hreq tables d hd => ⟨d.own, 0, hd.objects, ?_⟩) _
  obtain ⟨rfl, -⟩ := hd
  rcases List.mem_pair.1 he with rfl | rfl <;> cases hreq <;> rfl

/-- A read in the first apply, and one after the second has failed. -/
theorem local_reads_follow_log_listing :
    let sched := [none, none, some (), none, none, none, some ()]
    ∃ prefixes : List Nat, prefixes.length = 2 ∧ (0 :: prefixes).Pairwise (· ≤ ·) ∧
      (followingNode.run sched).threads (some ()) = (followingNode.threads (some ())).feed
        (prefixes.map fun q => .holding listingEnv (tablesAt catalogEffect [] twoTables q)) := by
  have hshows := opened_shows (finds_fresh listingEnv catalogEffect (some .file)) rfl rfl
  have htables : HasTables (storeOf (some .file)).data (tablesAt catalogEffect [] twoTables 0)
      (opened listingEnv (some .file) (Applied.at catalogEffect [] []) World.fresh) := by
    obtain ⟨d, t, hr, -, hd⟩ := hshows.reads
    exact ⟨d, hr, hd.onlyTables⟩
  exact local_reads_follow_log confined_listing htables _ follows_followingCallers
    (fun _ => (readsTables_listing fun _ => True).mono fun call h => by
      cases call <;> first | exact h.1 | exact h.elim)
    (readsTables_listing _) [none, none, some (), none, none, none, some ()]

end Replicat
