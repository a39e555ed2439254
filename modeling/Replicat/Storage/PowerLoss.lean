import Replicat.Storage.Catalog
import Replicat.Storage.LogWrites

/-!
# Power loss

`setup_log_store` puts the log database in WAL mode with `synchronous = normal`, so a commit is
on disk only after the next checkpoint, and a power loss may leave any commit not older than the
last one. `PowerNode` is a node with what a power loss may leave of its log database, in small
steps: the tasks of a call, its return, a checkpoint, a power loss. `power_loss_survived`: as
long as no acknowledged call has committed since the checkpoint, what was acknowledged is there.
-/

namespace Replicat

open Sqlite Atomics Atomics.Prog LogWrite

variable {U : Type}

/-- The log database file has these contents when the power comes back. -/
def World.powerLoss (w : World U) (file : Option (Database U)) : World U :=
  { w.crash with logDb := { w.logDb.close with session := file.map (⟨·, none⟩) } }

/-- What a power loss may leave after a task, when it might leave `kept` before it. -/
def keep (c : Connection (Database U)) (kept : List (Option (Database U))) : List (Option (Database U)) :=
  if c.journalMode = .wal ∧ c.synchronous = .normal then kept ++ [c.durable] else [c.durable]

/-- A node on a machine that may lose power. -/
structure PowerNode (U : Type) where
  world : World U
  /-- What is left of the call in flight. -/
  call : Option (Prog (World U) (Except StorageError Unit))
  /-- What a power loss may leave of the log database, the oldest first. -/
  kept : List (Option (Database U))

/-- The program has ended with an error. -/
def hasFailed {σ ε α : Type} : Prog σ (Except ε α) → Bool
  | .ret (.error _) => true
  | _ => false

/-! ## What was acknowledged -/

/-- What the calls so far have acknowledged and written. -/
structure Ledger where
  /-- The writes the call in flight has yet to make. -/
  todo : List LogWrite
  /-- The hard state when a call last returned `Ok`. -/
  acked : HardState
  /-- The writes committed since. -/
  pending : List LogWrite
  /-- The hard states a power loss may leave. -/
  states : List HardState
  /-- How many of them are older than the last commit. -/
  since : Nat
  /-- How many of them are older than `acked`. -/
  stale : Nat

namespace Ledger

def current (g : Ledger) : HardState := g.acked.after g.pending

/-- The ledger of a store just opened at `s`. -/
def opened (s : HardState) (n : Nat) : Ledger := ⟨[], s, [], List.replicate n s, 0, 0⟩

def begins (g : Ledger) (as : List LogWrite) : Ledger := { g with todo := as }

/-- A task of the call in flight has run. -/
def ran (g : Ledger) (failed : Bool) : Ledger :=
  match g.todo, failed with
  | a :: as, false =>
    { g with
      todo := as
      pending := g.pending ++ [a]
      states := g.states ++ [g.acked.after (g.pending ++ [a])]
      since := g.states.length }
  | _, _ => { g with todo := [], states := g.states ++ [g.current] }

/-- The call in flight has returned. -/
def returned (g : Ledger) : Except StorageError Unit → Ledger
  | .ok () => { g with acked := g.current, pending := [], stale := g.since }
  | .error _ => g

def checkpointed (g : Ledger) : Ledger := { g with states := [g.current], since := 0, stale := 0 }

end Ledger

section Runs

variable [Serde LogId] [Serde Vote] [Serde Entry] [Serde EffectiveMembership] [Serde SnapshotMeta]

/-- Contents that the log database has while the store is opened from `w`. -/
def KeptByOpen (env : Env U) (stateStore : Option StateStore) (w : World U)
    (kept : List (Option (Database U))) : Prop :=
  ∀ file ∈ kept, ∃ n, file = ((RaftStore.openStore env stateStore).run.after n w).logDb.durable

/-- Runs of calls of the log half, with checkpoints and power losses at any moment; power is
lost only where the ledger meets `ok`. -/
inductive PowerRun (env : Env U) (stateStore : Option StateStore) (ok : Ledger → Prop) :
    PowerNode U → Ledger → Prop where
  | opened {w faults store kept} :
      (RaftStore.openStore env stateStore).run.exec (World.fresh.withFaults faults) = (.ok store, w) →
      KeptByOpen env stateStore (World.fresh.withFaults faults) kept →
      PowerRun env stateStore ok ⟨w, none, kept ++ [w.logDb.durable]⟩ (.opened .empty (kept.length + 1))
  | begins {w kept g} (call : StoreCall) : PowerRun env stateStore ok ⟨w, none, kept⟩ g → call.onLogHalf →
      PowerRun env stateStore ok ⟨w, some (call.run env (storeOf stateStore)).run, kept⟩ (g.begins call.writes)
  | task {w upd next kept g} (fails : Bool) : PowerRun env stateStore ok ⟨w, some (.act upd next), kept⟩ g →
      PowerRun env stateStore ok
        ⟨upd (w.withFaults [fails]), some (next (w.withFaults [fails])), keep (upd (w.withFaults [fails])).logDb kept⟩
        (g.ran (hasFailed (next (w.withFaults [fails]))))
  | returns {w r kept g} : PowerRun env stateStore ok ⟨w, some (.ret r), kept⟩ g →
      PowerRun env stateStore ok ⟨w, none, kept⟩ (g.returned r)
  | checkpoint {w call kept g} : PowerRun env stateStore ok ⟨w, call, kept⟩ g →
      PowerRun env stateStore ok ⟨w, call, [w.logDb.durable]⟩ g.checkpointed
  | powerLoss {node w faults store kept g file s} {i : Nat} : PowerRun env stateStore ok node g → ok g →
      node.kept[i]? = some file → g.states[i]? = some s →
      (RaftStore.openStore env stateStore).run.exec ((node.world.powerLoss file).withFaults faults) =
        (.ok store, w) →
      KeptByOpen env stateStore ((node.world.powerLoss file).withFaults faults) kept →
      PowerRun env stateStore ok ⟨w, none, kept ++ [w.logDb.durable]⟩ (.opened s (kept.length + 1))

/-! ## What an open finds of a file -/

section Files

variable {env : Env U} {stateStore : Option StateStore} {v : Applied U} {s : HardState} {w w' : World U}

/-- What the file of the log database is read as when the store is opened. -/
def FileOf (env : Env U) (stateStore : Option StateStore) (v : Applied U) (s : HardState)
    (file : Option (Database U)) : Prop :=
  HardOf s (file.elim (Database.empty env) atRest).withLogs.withKv ∧
    (stateStore = none → Stored v (file.elim (Database.empty env) atRest))

omit [Serde SnapshotMeta] in
theorem LogNode.fileOf (h : LogNode env stateStore v s w) : FileOf env stateStore v s w.logDb.durable := by
  obtain ⟨d, hr, hd, hdisk⟩ := h.hard
  have hdurable : w.logDb.durable = some d := Connection.durable_of_disk hdisk hr
  refine ⟨?_, fun hnone => ?_⟩
  · rw [hdurable]
    exact hd.atRest.opened
  · subst hnone
    exact h.found

omit [Serde LogId] [Serde Vote] [Serde Entry] [Serde EffectiveMembership] [Serde SnapshotMeta] in
theorem openHandle_finds_log {Q : Database U → Prop} (path : StateStore) :
    (openHandle env .stateDb path).run.Within (Keeps (Finds env none Q)) := by
  refine within_atomic fun w hw => ?_
  rw [World.nextFault_nil hw.1]
  exact hw

omit [Serde Vote] [Serde Entry] [Serde SnapshotMeta] in
/-- No action of an open changes what a later one finds of the log database. -/
theorem openStore_finds_log {Q : Database U → Prop} (hkv : ∀ d, Q d → Q d.withKv)
    (hlogs : ∀ d, Q d → Q d.withLogs) :
    (RaftStore.openStore env stateStore).run.Within (Keeps (Finds env none Q)) :=
  openStore_within (within_openHandle (.inr rfl)) (fun path _ => openHandle_finds_log path)
    (fun log => within_setupLogStore log hkv hlogs) fun data => within_createStateMachine data hkv

omit [Serde SnapshotMeta] in
/-- All that an open leaves on the way is read the same. -/
theorem KeptByOpen.fileOf {faults : List Bool} {kept : List (Option (Database U))}
    (hkept : KeptByOpen env stateStore (w.withFaults faults) kept) (hf : w.faults = [])
    (h : FileOf env stateStore v s w.logDb.durable) : ∀ file ∈ kept, FileOf env stateStore v s file := by
  intro file hfile
  obtain ⟨n, rfl⟩ := hkept file hfile
  obtain ⟨m, hm⟩ := (failStop_openStore env stateStore).stopped w faults n hf
  have hfinds : (RaftStore.openStore env stateStore).run.Within (Keeps (Finds env none fun d =>
      HardOf s d.withLogs.withKv ∧ (stateStore = none → Stored v d))) := by
    refine openStore_finds_log (fun d hd => ⟨?_, fun hnone => (hd.2 hnone).withKv⟩)
      fun d hd => ⟨hd.1, fun hnone => (hd.2 hnone).withLogs⟩
    refine hd.1.congr ?_ (by simp) (by simp) rfl
    rw [Database.kvStates_withKv (show d.withKv.withLogs.hindrances = [] from hd.1.clear)]
    rfl
  have hlater := (hfinds.after m w ⟨hf, h⟩).2
  rw [← hm] at hlater
  exact hlater

omit [Serde LogId] [Serde Vote] [Serde Entry] [Serde EffectiveMembership] [Serde SnapshotMeta] in
theorem durable_powerLoss (w : World U) (file : Option (Database U)) :
    (w.powerLoss file).logDb.durable = file := by
  unfold World.powerLoss Connection.close
  cases file <;> rfl

omit [Serde SnapshotMeta] in
/-- **An open after a power loss** finds the hard state the file holds. -/
theorem LogNode.powerLoss {t : HardState} {file : Option (Database U)}
    (h : LogNode env stateStore v t w) (hfile : FileOf env stateStore v s file) :
    HardOf s (Replicat.found env .file ((w.powerLoss file).withFaults []).logDb).withLogs.withKv ∧
      Stored v (foundData env stateStore ((w.powerLoss file).withFaults [])) := by
  have hfound : Replicat.found env .file ((w.powerLoss file).withFaults []).logDb =
      file.elim (Database.empty env) atRest :=
    congrArg (fun file => file.elim (Database.empty env) atRest) (durable_powerLoss w file)
  refine ⟨hfound ▸ hfile.1, ?_⟩
  cases stateStore with
  | none =>
    show Stored v (Replicat.found env .file _)
    rw [hfound]
    exact hfile.2 rfl
  | some path => exact h.crash.2

end Files

/-! ## The invariant -/

section Invariant

variable {env : Env U} {stateStore : Option StateStore} {v : Applied U} {s : HardState} {w w' : World U}
  {node : PowerNode U} {g : Ledger}

omit [Serde LogId] [Serde Vote] [Serde Entry] [Serde EffectiveMembership] [Serde SnapshotMeta] in
theorem HardState.after_append (s : HardState) (as bs : List LogWrite) :
    s.after (as ++ bs) = (s.after as).after bs := List.foldl_append ..

/-- The log database is in WAL mode and does not sync its commits. -/
def Lazy (w : World U) : Prop := w.logDb.journalMode = .wal ∧ w.logDb.synchronous = .normal

omit [Serde LogId] [Serde Vote] [Serde Entry] [Serde EffectiveMembership] [Serde SnapshotMeta] in
theorem keep_lazy (hw : Lazy w) (kept : List (Option (Database U))) :
    keep w.logDb kept = kept ++ [w.logDb.durable] := if_pos hw

omit [Serde LogId] [Serde Vote] [Serde Entry] [Serde EffectiveMembership] [Serde SnapshotMeta] in
theorem execute_lazy (h : StorageHandle) (stmt : Prepared (Database U)) :
    (h.execute stmt).run.Within (Keeps Lazy) := by
  have hnext : ∀ w : World U, Lazy w → Lazy w.nextFault.2 := by
    intro w hw
    have hconn := World.conn_nextFault w .logDb
    unfold Lazy at hw ⊢
    rwa [show w.nextFault.2.logDb = w.logDb from hconn]
  have hstep : ∀ c : Connection (Database U),
      (c.execute stmt).1.journalMode = c.journalMode ∧ (c.execute stmt).1.synchronous = c.synchronous := by
    intro c
    unfold Connection.execute Connection.step
    cases c.session <;> exact ⟨rfl, rfl⟩
  refine StorageHandle.within_submitTask hnext fun w hw => ?_
  cases h with
  | logDb => exact ⟨(hstep _).1.trans hw.1, (hstep _).2.trans hw.2⟩
  | stateDb => exact hnext w hw

/-- What the ledger says of the node. -/
structure LedgerOf (env : Env U) (stateStore : Option StateStore) (v : Applied U) (g : Ledger)
    (node : PowerNode U) : Prop where
  holds : LogNode env stateStore v g.current node.world
  lazy : Lazy node.world
  call : ∀ p, node.call = some p → p = (commitAll (storeOf stateStore) g.todo).run ∨ hasFailed p = true
  kept : List.Forall₂ (FileOf env stateStore v) g.states node.kept
  since : ∀ (i : Nat) (s : HardState), g.since ≤ i → g.states[i]? = some s → s = g.current
  /-- The states that are not stale are the acknowledged one and those after it. -/
  fresh : ∀ (i : Nat) (s : HardState), g.stale ≤ i → g.states[i]? = some s →
    ∃ m, s = g.acked.after (g.pending.take m)

omit [Serde SnapshotMeta] in
theorem LedgerOf.of_open {kept : List (Option (Database U))} (hnode : LogNode env stateStore v s w)
    (hlazy : Lazy w) (hkept : ∀ file ∈ kept, FileOf env stateStore v s file) :
    LedgerOf env stateStore v (.opened s (kept.length + 1)) ⟨w, none, kept ++ [w.logDb.durable]⟩ where
  holds := hnode
  lazy := hlazy
  call _ h := nomatch h
  kept := by
    have hall : ∀ file ∈ kept ++ [w.logDb.durable], FileOf env stateStore v s file := by
      intro file hfile
      rcases List.mem_append.1 hfile with hfile | hfile
      · exact hkept file hfile
      · rw [List.mem_singleton.1 hfile]
        exact hnode.fileOf
    rw [List.forall₂_iff_get]
    refine ⟨by simp [Ledger.opened], fun i hi hi' => ?_⟩
    simp only [Ledger.opened, List.get_eq_getElem, List.getElem_replicate]
    exact hall _ (List.getElem_mem _)
  since _ _ _ hi := (List.mem_replicate.1 (List.mem_of_getElem? hi)).2
  fresh i t _ hi := by
    obtain rfl : s = t := (List.mem_replicate.1 (List.mem_of_getElem? hi)).2.symm
    exact ⟨0, rfl⟩

omit [Serde SnapshotMeta] in
/-- A task that has run: the state is recorded beside what a power loss may leave. -/
theorem LedgerOf.record {g' : Ledger} {call : Option (Prog (World U) (Except StorageError Unit))}
    (h : LedgerOf env stateStore v g node) (hholds : LogNode env stateStore v g'.current w) (hlazy : Lazy w)
    (hcall : ∀ p, call = some p → p = (commitAll (storeOf stateStore) g'.todo).run ∨ hasFailed p = true)
    (hacked : g'.acked = g.acked) (hpending : g.pending <+: g'.pending)
    (hstates : g'.states = g.states ++ [g'.current]) (hstale : g'.stale = g.stale)
    (hsince : ∀ (i : Nat) (s : HardState), g'.since ≤ i → i < g.states.length → g.states[i]? = some s →
      s = g'.current) :
    LedgerOf env stateStore v g' ⟨w, call, keep w.logDb node.kept⟩ where
  holds := hholds
  lazy := hlazy
  call := hcall
  kept := by
    rw [keep_lazy hlazy, hstates]
    exact List.rel_append h.kept (.cons hholds.fileOf .nil)
  since i s hi hs := by
    rw [hstates] at hs
    by_cases hlt : i < g.states.length
    · rw [List.getElem?_append_left hlt] at hs
      exact hsince i s hi hlt hs
    · rw [List.getElem?_append_right (by omega)] at hs
      exact List.mem_singleton.1 (List.mem_of_getElem? hs)
  fresh i s hi hs := by
    rw [hacked]
    rw [hstale] at hi
    rw [hstates] at hs
    by_cases hlt : i < g.states.length
    · rw [List.getElem?_append_left hlt] at hs
      obtain ⟨m, rfl⟩ := h.fresh i s hi hs
      obtain ⟨rest, hrest⟩ := hpending
      refine ⟨min m g.pending.length, ?_⟩
      rw [← hrest, List.take_append_of_le_length (Nat.min_le_right ..), ← List.take_eq_take_min]
    · rw [List.getElem?_append_right (by omega)] at hs
      obtain rfl := List.mem_singleton.1 (List.mem_of_getElem? hs)
      exact ⟨g'.pending.length, by rw [List.take_length, ← hacked]; rfl⟩

omit [Serde SnapshotMeta] in
/-- **A task of the call in flight** makes the next write, or the call fails. -/
theorem LedgerOf.task {upd : World U → World U}
    {next : World U → Prog (World U) (Except StorageError Unit)} (fails : Bool)
    (h : LedgerOf env stateStore v g node) (hcall : node.call = some (.act upd next)) :
    LedgerOf env stateStore v (g.ran (hasFailed (next (node.world.withFaults [fails]))))
      ⟨upd (node.world.withFaults [fails]), some (next (node.world.withFaults [fails])),
        keep (upd (node.world.withFaults [fails])).logDb node.kept⟩ := by
  rcases h.call _ hcall with hp | hp
  swap
  · cases hp
  rcases htodo : g.todo with _ | ⟨a, as⟩
  · rw [htodo] at hp
    cases hp
  rw [htodo, commitAll_cons] at hp
  obtain ⟨rfl, rfl⟩ := Prog.act.inj hp
  have hstart : LogNode env stateStore v g.current (node.world.withFaults [fails]) :=
    (LogNode.withFaults _).2 h.holds
  have hdata : Stored v (foundData env stateStore _) :=
    ((commitAll_found (storeOf stateStore) [a]).after 1 (node.world.withFaults [fails])) hstart.found
  have hlazy : Lazy ((((storeOf stateStore).log.execute (.onMain a.stmt)).run.exec
      (node.world.withFaults [fails])).2) := (execute_lazy _ _).exec _ h.lazy
  rw [commitAll_cons, after_act, after_zero] at hdata
  beta_reduce
  rcases exec_write hstart.hard a with ⟨n, w', hexec, -, hw', -⟩ | ⟨e, w', hexec, -, hw'⟩
  · rw [hexec] at hdata hlazy ⊢
    have hgoes : hasFailed (commitAll (storeOf stateStore) as : StorageResult U Unit).run = false := by
      cases as with
      | nil => rfl
      | cons b bs => rfl
    have hran : g.ran (hasFailed (commitAll (storeOf stateStore) as : StorageResult U Unit).run) =
        { g with
          todo := as
          pending := g.pending ++ [a]
          states := g.states ++ [g.acked.after (g.pending ++ [a])]
          since := g.states.length } := by
      unfold Ledger.ran
      rw [hgoes, htodo]
    show LedgerOf env stateStore v (g.ran (hasFailed (commitAll (storeOf stateStore) as).run)) _
    rw [hran]
    refine h.record ⟨?_, hdata⟩ hlazy (fun p hp => .inl (Option.some.inj hp).symm) rfl (List.prefix_append ..) rfl rfl
      fun i s hi hlt => absurd hlt (Nat.not_lt.2 hi)
    show HoldsHard _ (g.acked.after (g.pending ++ [a])) w'
    rw [HardState.after_append]
    exact hw'
  · rw [hexec] at hdata hlazy ⊢
    have hran : g.ran true = { g with todo := [], states := g.states ++ [g.current] } := by
      unfold Ledger.ran
      rw [htodo]
    show LedgerOf env stateStore v (g.ran true) _
    rw [hran]
    exact h.record ⟨hw', hdata⟩ hlazy (fun p hp => .inr (Option.some.inj hp ▸ rfl)) rfl (List.prefix_refl _) rfl rfl
      fun i s hi _ => h.since i s hi

omit [Serde SnapshotMeta] in
theorem LedgerOf.returned {r : Except StorageError Unit} (h : LedgerOf env stateStore v g node) :
    LedgerOf env stateStore v (g.returned r) ⟨node.world, none, node.kept⟩ := by
  cases r with
  | error e => exact ⟨h.holds, h.lazy, fun _ hp => (nomatch hp), h.kept, h.since, h.fresh⟩
  | ok u =>
    exact ⟨h.holds, h.lazy, fun _ hp => (nomatch hp), h.kept, h.since,
      fun i s hi hs => ⟨0, h.since i s hi hs⟩⟩

omit [Serde SnapshotMeta] in
theorem LedgerOf.begins {as : List LogWrite} (h : LedgerOf env stateStore v g node) :
    LedgerOf env stateStore v (g.begins as)
      ⟨node.world, some (commitAll (storeOf stateStore) as).run, node.kept⟩ where
  holds := h.holds
  lazy := h.lazy
  call _ hp := .inl (Option.some.inj hp).symm
  kept := h.kept
  since := h.since
  fresh := h.fresh

omit [Serde SnapshotMeta] in
theorem LedgerOf.checkpoint (h : LedgerOf env stateStore v g node) :
    LedgerOf env stateStore v g.checkpointed ⟨node.world, node.call, [node.world.logDb.durable]⟩ where
  holds := h.holds
  lazy := h.lazy
  call := h.call
  kept := .cons h.holds.fileOf .nil
  since _ _ _ hs := List.mem_singleton.1 (List.mem_of_getElem? hs)
  fresh i s _ hs := by
    obtain rfl := List.mem_singleton.1 (List.mem_of_getElem? hs)
    exact ⟨g.pending.length, (congrArg g.acked.after List.take_length).symm⟩

omit [Serde SnapshotMeta] in
/-- What a power loss may leave is one of the recorded states. -/
theorem LedgerOf.fileOf {file : Option (Database U)} {i : Nat} (h : LedgerOf env stateStore v g node)
    (hfile : node.kept[i]? = some file) : ∃ s, g.states[i]? = some s ∧ FileOf env stateStore v s file := by
  have hlt : i < node.kept.length := (List.getElem?_eq_some_iff.1 hfile).1
  have hlt' : i < g.states.length := by rwa [h.kept.length_eq]
  refine ⟨_, List.getElem?_eq_getElem hlt', ?_⟩
  have hget := (List.forall₂_iff_get.1 h.kept).2 i hlt' hlt
  obtain rfl : node.kept[i] = file := Option.some.inj ((List.getElem?_eq_getElem hlt).symm.trans hfile)
  exact hget

omit [Serde SnapshotMeta] in
theorem LedgerOf.opens {faults : List Bool} {store : RaftStore} {kept : List (Option (Database U))}
    (hf : w.faults = []) (hlog : HardOf s (Replicat.found env .file w.logDb).withLogs.withKv)
    (hdata : Stored v (foundData env stateStore w)) (hfile : FileOf env stateStore v s w.logDb.durable)
    (hopen : (RaftStore.openStore env stateStore).run.exec (w.withFaults faults) = (.ok store, w'))
    (hkept : KeptByOpen env stateStore (w.withFaults faults) kept) :
    LedgerOf env stateStore v (.opened s (kept.length + 1)) ⟨w', none, kept ++ [w'.logDb.durable]⟩ := by
  obtain ⟨faults', rfl, hnode⟩ := openStore_node_ok hf hlog hdata hopen
  exact .of_open hnode ⟨rfl, rfl⟩ (hkept.fileOf hf hfile)

/-- **Every run** in which power is lost only while nothing acknowledged is stale. -/
theorem PowerRun.ledgerOf (hrun : PowerRun env stateStore (·.stale = 0) node g) :
    LedgerOf env stateStore (unapplied env) g node := by
  induction hrun with
  | opened hopen hkept =>
    obtain ⟨hf, hstored⟩ := finds_fresh env (fun _ t => t) stateStore
    refine .opens hf (hardOf_absent env) hstored ⟨hardOf_absent env, fun hnone => ?_⟩ hopen hkept
    subst hnone
    exact hstored
  | begins call _ hcall ih =>
    rw [run_eq_commitAll hcall]
    exact ih.begins
  | task fails _ ih => exact ih.task fails rfl
  | returns _ ih => exact ih.returned
  | checkpoint _ ih => exact ih.checkpoint
  | @powerLoss node w faults store kept g file s i _ _ hfile hs hopen hkept ih =>
    obtain ⟨t, ht, hof⟩ := ih.fileOf hfile
    obtain rfl : t = s := Option.some.inj (ht.symm.trans hs)
    obtain ⟨hlog, hdata⟩ := ih.holds.powerLoss hof
    refine .opens (w := (node.world.powerLoss file).withFaults []) rfl hlog hdata ?_ hopen hkept
    rw [show ((node.world.powerLoss file).withFaults []).logDb.durable = file from durable_powerLoss ..]
    exact hof

end Invariant

/-- **Power loss.** Whatever a power loss leaves, the store opens, and it serves what was
acknowledged and perhaps some of the writes after it, if nothing acknowledged was stale. -/
theorem power_loss_survived (env : Env U) (stateStore : Option StateStore) {node : PowerNode U} {g : Ledger}
    (hrun : PowerRun env stateStore (·.stale = 0) node g) (hstale : g.stale = 0) {file : Option (Database U)}
    (hfile : file ∈ node.kept) :
    (∃ w, (RaftStore.openStore env stateStore).run.exec ((node.world.powerLoss file).withFaults []) =
      (.ok (storeOf stateStore), w)) ∧
    ∀ faults store w, (RaftStore.openStore env stateStore).run.exec
        ((node.world.powerLoss file).withFaults faults) = (.ok store, w) →
      ∃ m, Serves env (storeOf stateStore) (g.acked.after (g.pending.take m)) w := by
  have hledger := hrun.ledgerOf
  obtain ⟨i, hi⟩ := List.mem_iff_getElem?.1 hfile
  obtain ⟨s, hs, hof⟩ := hledger.fileOf hi
  obtain ⟨hlog, hdata⟩ := hledger.holds.powerLoss hof
  obtain ⟨m, rfl⟩ := hledger.fresh i s (hstale ▸ Nat.zero_le i) hs
  refine ⟨⟨_, (openStore_node rfl hlog hdata).1⟩, fun faults store w hopen => ⟨m, ?_⟩⟩
  obtain ⟨_, -, hnode⟩ := openStore_node_ok (w := (node.world.powerLoss file).withFaults []) rfl hlog hdata hopen
  exact hnode.hard.serves

/-- A call of one write that a sound storage lets through. -/
theorem PowerRun.commits {env : Env U} {stateStore : Option StateStore} {ok : Ledger → Prop} {w : World U}
    {kept : List (Option (Database U))} {g : Ledger} {s : HardState} {v : Applied U}
    (call : StoreCall) (hrun : PowerRun env stateStore ok ⟨w, none, kept⟩ g) (hnode : LogNode env stateStore v s w)
    (hlazy : Lazy w) (hcall : call.onLogHalf) {a : LogWrite} (hwrites : call.writes = [a]) (hfits : a.Fits) :
    ∃ w', (call.run env (storeOf stateStore)).run.exec (w.withFaults [false]) = (.ok (), w') ∧
      LogNode env stateStore v (a.onHard s) w' ∧ w'.faults = [] ∧
      PowerRun env stateStore ok ⟨w', none, kept ++ [w'.logDb.durable]⟩
        (((g.begins [a]).ran false).returned (.ok ())) := by
  have hstart := (LogNode.withFaults [false]).2 hnode
  obtain ⟨n, w', hexec, -, hw', hfaults⟩ | ⟨_, _, -, hstops, -⟩ := exec_write hstart.hard a
  swap
  · exact absurd ⟨rfl, hfits⟩ hstops
  have hlazy' : Lazy w' := by
    have hkept := (execute_lazy (storeOf stateStore).log (.onMain a.stmt)).exec (w.withFaults [false]) hlazy
    rwa [hexec] at hkept
  have hbegins := hrun.begins call hcall
  rw [run_eq_commitAll hcall, hwrites] at hbegins ⊢
  rw [commitAll_cons] at hbegins
  have htask := hbegins.task false
  rw [hexec] at htask
  have hreturned : PowerRun env stateStore ok ⟨w', none, keep w'.logDb kept⟩
      (((g.begins [a]).ran false).returned (.ok ())) := .returns htask
  rw [keep_lazy hlazy'] at hreturned
  obtain ⟨r, w'', hall, hnode', hok⟩ := hstart.exec [a]
  have hthrough : through [a] (w.withFaults [false]).faults = [a] := by simp [through, hfits]
  rw [hthrough] at hnode' hok
  obtain rfl := hok.2 rfl
  have hlast : w'' = w' := by
    rw [commitAll_cons, exec_act, hexec] at hall
    exact (Prod.ext_iff.1 hall).2.symm
  subst hlast
  exact ⟨w'', hall, hnode', hfaults, hreturned⟩

end Runs

/-- The ledger once a vote is saved and synced. -/
def votedLedger : Ledger :=
  let s : HardState := ⟨some ⟨1, 1, false⟩, .empty⟩
  ⟨[], s, [], [s], 0, 0⟩

/-- A vote is acknowledged and a checkpoint follows: it is there after a power loss. -/
theorem power_loss_survived_checkpointed : ∃ (node : PowerNode Catalog) (g : Ledger),
    g.acked.vote = some ⟨1, 1, false⟩ ∧ node.kept ≠ [] ∧
    ∀ file ∈ node.kept, ∃ w,
      (RaftStore.openStore catalogEnv none).run.exec ((node.world.powerLoss file).withFaults []) =
        (.ok (storeOf none), w) ∧
      ∃ m, Serves catalogEnv (storeOf none) (g.acked.after (g.pending.take m)) w := by
  obtain ⟨hf, hstored⟩ := finds_fresh catalogEnv (fun _ t => t) none
  obtain ⟨hopen, hfresh⟩ := openStore_node hf (hardOf_absent catalogEnv) hstored
  have hopened : PowerRun catalogEnv none (·.stale = 0) _ _ :=
    .opened (show _ = _ from hopen) (show KeptByOpen catalogEnv none (World.fresh.withFaults []) [] from
      fun _ hfile => nomatch hfile)
  obtain ⟨w, -, -, -, hsaved⟩ := hopened.commits (.saveVote ⟨1, 1, false⟩) hfresh ⟨rfl, rfl⟩ rfl rfl trivial
  have hsynced : PowerRun catalogEnv none (·.stale = 0) ⟨w, none, [w.logDb.durable]⟩ votedLedger :=
    hsaved.checkpoint
  refine ⟨⟨w, none, [w.logDb.durable]⟩, votedLedger, rfl, List.cons_ne_nil _ _, fun file hfile => ?_⟩
  obtain ⟨⟨w', hreopen⟩, hserves⟩ := power_loss_survived catalogEnv none hsynced rfl hfile
  exact ⟨w', hreopen, hserves [] _ w' hreopen⟩

/-- A vote is acknowledged and no checkpoint comes: after a power loss `read_vote` returns
none, and another vote of the same term is acknowledged. -/
theorem acknowledged_vote_lost : ∃ (node : PowerNode Catalog) (g : Ledger) (file : Option (Database Catalog))
    (w₁ w₂ : World Catalog),
    PowerRun catalogEnv none (fun _ => True) node g ∧ node.call = none ∧ g.acked.vote = some ⟨1, 1, false⟩ ∧
    file ∈ node.kept ∧
    (RaftStore.openStore catalogEnv none).run.exec ((node.world.powerLoss file).withFaults []) =
      (.ok (storeOf none), w₁) ∧
    resultOf (storeOf none).readVote w₁ = .ok none ∧
    ((storeOf none).saveVote ⟨1, 2, false⟩).run.exec (w₁.withFaults [false]) = (.ok (), w₂) := by
  obtain ⟨hf, hstored⟩ := finds_fresh catalogEnv (fun _ t => t) none
  obtain ⟨hopen, hfresh⟩ := openStore_node hf (hardOf_absent catalogEnv) hstored
  have hnil : ∀ w, KeptByOpen catalogEnv none w [] := fun _ _ hfile => nomatch hfile
  have hopened : PowerRun catalogEnv none (fun _ => True) _ _ :=
    .opened (show _ = _ from hopen) (hnil (World.fresh.withFaults []))
  obtain ⟨w, -, hnode, -, hsaved⟩ :=
    hopened.commits (.saveVote ⟨1, 1, false⟩) hfresh ⟨rfl, rfl⟩ rfl rfl trivial
  -- the power loss leaves what was there before the vote was written
  obtain ⟨hlog, hdata⟩ := hnode.powerLoss hfresh.fileOf
  obtain ⟨hopen', hreopened⟩ := openStore_node rfl hlog hdata
  have hserves : Serves catalogEnv (storeOf none) .empty _ := hreopened.hard.serves
  have hlost : PowerRun catalogEnv none (fun _ => True) _ _ :=
    .powerLoss hsaved trivial (show _[0]? = _ from rfl) rfl hopen' (hnil _)
  obtain ⟨w₂, hsecond, -⟩ :=
    hlost.commits (.saveVote ⟨1, 2, false⟩) hreopened ⟨rfl, rfl⟩ rfl rfl trivial
  exact ⟨_, _, _, _, w₂, hsaved, rfl, rfl, List.mem_cons_self, hopen', hserves.vote, hsecond⟩

end Replicat
