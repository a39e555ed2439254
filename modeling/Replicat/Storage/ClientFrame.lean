import Replicat.Storage.Bookkeeping

/-!
# What client SQL can do to the bookkeeping

A client's statement runs on the connection and in the schema of the store's own rows, with no
transaction of the store around it. `EventsClean` are the runs in which the statements leave the
rows alone and no transaction of theirs is open when the process ends. In these the connections
always read what the store has acknowledged, and so does a store opened after a crash. In the
others a `BEGIN` is enough to lose a vote.
-/

namespace Replicat

open Sqlite Atomics Atomics.Prog

variable {U : Type}

/-- What happens to a node: a call of its store, or the process ends and the store is opened
again. A process that ends within a call is a call with a fault at that task, and then a reopen. -/
inductive NodeEvent where
  | call (call : StoreCall) (faults : List Bool)
  | reopen (faults : List Bool)

section Events

variable [Serde LogId] [Serde Vote] [Serde Entry] [Serde EffectiveMembership] [Serde SnapshotMeta]
variable (env : Env U) (stateStore : Option StateStore)

def NodeEvent.run (w : World U) : NodeEvent → World U
  | .call c faults => (runCall env (storeOf stateStore) w (c, faults)).2
  | .reopen faults => ((RaftStore.openStore env stateStore).run.exec (w.crash.withFaults faults)).2

def runEvents (w : World U) (es : List NodeEvent) : World U := es.foldl (NodeEvent.run env stateStore) w

/-- No transaction is open on the data handle, where a later open would look for its rows. -/
def NoTransaction (w : World U) : Prop :=
  stateStore ≠ some .memory → ∀ s, (w.conn (storeOf stateStore).data).session = some s → s.saved = none

/-- The statements of a call leave the rows alone, no transaction is open when the process ends,
and a store is opened then. -/
def NodeEvent.Clean (w : World U) : NodeEvent → Prop
  | .call c _ => CallUntouched env (storeOf stateStore) w c
  | .reopen faults => NoTransaction stateStore w ∧ ∃ store,
      ((RaftStore.openStore env stateStore).run.exec (w.crash.withFaults faults)).1 = .ok store

def EventsClean : World U → List NodeEvent → Prop
  | _, [] => True
  | w, e :: es => e.Clean env stateStore w ∧ EventsClean (e.run env stateStore w) es

omit [Serde LogId] [Serde Vote] [Serde Entry] [Serde EffectiveMembership] [Serde SnapshotMeta] in
/-- What an open reads back: a state machine in memory starts anew. -/
def Bookkeeping.reopened (b : Bookkeeping) : Bookkeeping :=
  match stateStore with
  | some .memory => { b with applied := none, membership := none, snapshotMeta := none }
  | _ => b

/-- What an event acknowledges: all writes of a call that returned `Ok`, and of one that failed
those before. -/
def NodeEvent.Acknowledges (w : World U) (b : Bookkeeping) : NodeEvent → Bookkeeping → Prop
  | .call c faults, b' => ∃ n, b' = b.after ((c.ownWrites env b).take n) ∧
      ((runCall env (storeOf stateStore) w (c, faults)).1 = .ok () → n = (c.ownWrites env b).length)
  | .reopen _, b' => b' = b.reopened stateStore

def Acknowledged : World U → Bookkeeping → List NodeEvent → Bookkeeping → Prop
  | _, b, [], b' => b' = b
  | w, b, e :: es, b'' => ∃ b', e.Acknowledges env stateStore w b b' ∧
      Acknowledged (e.run env stateStore w) b' es b''

end Events

/-! ## Opening a store -/

section Opening

variable [Serde LogId] [Serde Vote] [Serde Entry] [Serde EffectiveMembership] [Serde SnapshotMeta]
variable {env : Env U} {stateStore : Option StateStore} {b : Bookkeeping} {w w' : World U}

/-- The bookkeeping stands, and the connections that had a file are still on it. -/
structure Recorded (stateStore : Option StateStore) (b : Bookkeeping) (w : World U) : Prop where
  stands : Stands (storeOf stateStore) b w
  logDb : w.logDb.backing = .disk
  stateDb : stateStore = some .file → w.stateDb.backing = .disk

omit [Serde Vote] [Serde Entry] in
theorem DataOf.withLogs {d : Database U} (h : DataOf b d.withKv) : DataOf b d.withLogs.withKv :=
  ⟨h.kv, h.applied, h.membership, h.snapshotMeta⟩

omit [Serde Vote] [Serde Entry] in
theorem DataOf.withKv {d : Database U} (h : DataOf b d) : DataOf b d.withKv := by
  refine ⟨by rw [Database.kvStates_withKv h.clear]; rfl, ?_, ?_, ?_⟩
  · exact (Database.kv_withKv ..).trans h.applied
  · exact (Database.kv_withKv ..).trans h.membership
  · exact (Database.kv_withKv ..).trans h.snapshotMeta

omit [Serde EffectiveMembership] [Serde SnapshotMeta] in
theorem LogOf.opened {d : Database U} (h : LogOf b d) : LogOf b d.withLogs.withKv :=
  ⟨h.hard.opened, (Database.kv_withKv ..).trans h.snapshotIndex⟩

theorem Recorded.withFaults (h : Recorded stateStore b w) (faults : List Bool) :
    Recorded stateStore b (w.withFaults faults) := by
  obtain ⟨⟨s, hs⟩, hlog, hstate⟩ := h
  exact ⟨⟨s, hs.withFaults faults⟩, hlog, hstate⟩

/-- What `open` makes of a disk with the bookkeeping. -/
theorem recorded_opened {v : Applied U} (hlog : LogOf b (found env .file w.logDb).withLogs.withKv)
    (hdata : DataOf b (foundData env stateStore w).withKv) (happlied : v.logRow = b.applied)
    (hmembership : v.membershipRow = b.membership) :
    Recorded stateStore b (opened env stateStore v w) := by
  have hlogs : ∃ s', ((opened env stateStore v w).conn .logDb).session = some s' ∧ LogOf b s'.main ∧
      ((storeOf stateStore).log ≠ (storeOf stateStore).data → s'.saved = none) :=
    ⟨_, rfl, hlog, fun _ => rfl⟩
  have hmem : (opened env stateStore v w).lastMembership = b.membership.getD default := by
    rw [← hmembership]
    rfl
  refine ⟨?_, rfl, ?_⟩
  · cases stateStore with
    | none => exact ⟨_, rfl, hdata.withLogs, hlogs, happlied, hmem⟩
    | some path => exact ⟨_, rfl, hdata, hlogs, happlied, hmem⟩
  · rintro rfl
    rfl

/-- **An open reads the bookkeeping back** from what is on disk. -/
theorem openStore_recorded (hf : w.faults = []) (hlog : LogOf b (found env .file w.logDb).withLogs.withKv)
    (hdata : DataOf b (foundData env stateStore w).withKv) :
    (∃ w', (RaftStore.openStore env stateStore).run.exec w = (.ok (storeOf stateStore), w')) ∧
    ∀ faults store w', (RaftStore.openStore env stateStore).run.exec (w.withFaults faults) = (.ok store, w') →
      Recorded stateStore b w' ∧ Serves env (storeOf stateStore) b.hard w' := by
  have hstored : Stored ⟨(foundData env stateStore w).user, b.applied, b.membership, b.applied,
      b.membership.getD default⟩ (foundData env stateStore w) :=
    ⟨(Database.kv_withKv ..).symm.trans hdata.applied, (Database.kv_withKv ..).symm.trans hdata.membership, rfl,
      hdata.clear, objects_foundData env stateStore w⟩
  refine ⟨⟨_, (openStore_node hf hlog.hard hstored).1⟩, fun faults store w' hopen => ?_⟩
  obtain ⟨faults', rfl, hnode⟩ := openStore_node_ok hf hlog.hard hstored hopen
  exact ⟨(recorded_opened hlog hdata rfl rfl).withFaults faults', hnode.hard.serves⟩

/-- A store opened on an empty disk. -/
theorem recorded_fresh {faults : List Bool} {store : RaftStore}
    (hopen : (RaftStore.openStore env stateStore).run.exec (World.fresh.withFaults faults) = (.ok store, w)) :
    Recorded stateStore .empty w := by
  have hlog : LogOf .empty (found env .file World.fresh.logDb).withLogs.withKv :=
    ⟨hardOf_absent env, rfl⟩
  have hdata : DataOf .empty (foundData env stateStore World.fresh).withKv := by
    rcases stateStore with _ | _ | _ <;> exact ⟨rfl, rfl, rfl, rfl⟩
  exact ((openStore_recorded rfl hlog hdata).2 faults store w hopen).1

omit [Serde LogId] [Serde Vote] [Serde Entry] [Serde EffectiveMembership] [Serde SnapshotMeta] in
/-- A file holds what is committed, and nothing of the connection. -/
theorem found_close {c : Connection (Database U)} {s : Session (Database U)} (hdisk : c.backing = .disk)
    (hs : c.session = some s) : found env .file c.close = atRest s.committed := by
  have hdurable : c.durable = some s.committed := by simp [Connection.durable, hdisk, hs]
  simp [found, hdurable]

/-- **The end of the process** leaves the bookkeeping on disk, where no transaction is open. -/
theorem Recorded.crash (env : Env U) (h : Recorded stateStore b w) (hnone : NoTransaction stateStore w) :
    LogOf (b.reopened stateStore) (found env .file (w.crash.withFaults []).logDb).withLogs.withKv ∧
      DataOf (b.reopened stateStore) (foundData env stateStore (w.crash.withFaults [])).withKv := by
  obtain ⟨⟨s, hs⟩, hdisk, hdata⟩ := h
  have hfile : ∀ {c : Connection (Database U)} {s : Session (Database U)}, c.backing = .disk →
      c.session = some s → s.saved = none → found env .file c.close = atRest s.main := by
    rintro c ⟨d, _⟩ hdisk hsession rfl
    exact found_close hdisk hsession
  obtain ⟨sl, hsl, hlogs, hsaved⟩ := hs.log
  cases stateStore with
  | none =>
    obtain rfl : s = sl := Option.some.inj (hs.session.symm.trans hsl)
    have hfound := hfile hdisk hsl (hnone (by decide) s hs.session)
    refine ⟨?_, ?_⟩
    · show LogOf b (found env .file w.logDb.close).withLogs.withKv
      rw [hfound]
      exact hlogs.atRest.opened
    · show DataOf b (found env .file w.logDb.close).withKv
      rw [hfound]
      exact hs.data.atRest.withKv
  | some path =>
    have hfound := hfile hdisk hsl (hsaved (by simp [storeOf, dataHandle]))
    have hlog : LogOf b (found env .file w.logDb.close).withLogs.withKv := by
      rw [hfound]
      exact hlogs.atRest.opened
    cases path with
    | memory => exact ⟨⟨hlog.hard, hlog.snapshotIndex⟩, rfl, rfl, rfl, rfl⟩
    | file =>
      refine ⟨hlog, ?_⟩
      show DataOf b (found env .file w.stateDb.close).withKv
      rw [hfile (hdata rfl) hs.session (hnone (by decide) s hs.session)]
      exact hs.data.atRest.withKv

/-- Whatever the storage, a reopen without an open transaction finds the bookkeeping. -/
theorem Recorded.reopen (env : Env U) (h : Recorded stateStore b w) (hnone : NoTransaction stateStore w) :
    (∃ w', (RaftStore.openStore env stateStore).run.exec (w.crash.withFaults []) =
      (.ok (storeOf stateStore), w')) ∧
    ∀ faults store w', (RaftStore.openStore env stateStore).run.exec (w.crash.withFaults faults) =
        (.ok store, w') →
      Recorded stateStore (b.reopened stateStore) w' ∧
        Serves env (storeOf stateStore) (b.reopened stateStore).hard w' := by
  obtain ⟨hlog, hdata⟩ := h.crash env hnone
  exact openStore_recorded rfl hlog hdata

/-! ## Whole runs -/

/-- The vote that is read is the one acknowledged. -/
theorem Stands.readVote {store : RaftStore} (h : Stands store b w) :
    resultOf store.readVote w = .ok b.hard.vote := by
  obtain ⟨s, hs⟩ := h
  obtain ⟨sl, hsl, hlog, -⟩ := hs.log
  refine readVote_of_rows ?_
  unfold World.rows Database.voteRows
  rw [hsl, Option.map_some, (hlog.hard.writable voteKey).1, hlog.hard.vote]

omit [Serde Vote] [Serde Entry] [Serde SnapshotMeta] in
theorem CallUntouched.not_install {store : RaftStore} {call : StoreCall} (h : CallUntouched env store w call) :
    call.isInstall = false := by
  cases call with
  | installSnapshot metadata snapshot => exact h.elim
  | _ => rfl

omit [Serde Vote] [Serde Entry] [Serde SnapshotMeta] in
theorem CallUntouched.withFaults {store : RaftStore} {call : StoreCall} (h : CallUntouched env store w call)
    (faults : List Bool) : CallUntouched env store (w.withFaults faults) call := by
  unfold CallUntouched at h ⊢
  rwa [World.conn_withFaults]

/-- **One event** keeps the bookkeeping, with what it acknowledges. -/
theorem Recorded.event {e : NodeEvent} (h : Recorded stateStore b w) (hclean : e.Clean env stateStore w) :
    ∃ b', e.Acknowledges env stateStore w b b' ∧ Recorded stateStore b' (e.run env stateStore w) := by
  cases e with
  | call call faults =>
    have huntouched : CallUntouched env (storeOf stateStore) w call := hclean
    obtain ⟨⟨s, hs⟩, hlog, hstate⟩ := h
    obtain ⟨n, hstands, hok⟩ := run_stands ⟨s, hs.withFaults faults⟩ (huntouched.withFaults faults)
    have hbacking : ∀ handle, KeepsBacking handle (w.withFaults faults)
        (NodeEvent.run env stateStore w (.call call faults)) :=
      fun handle => Within.exec (run_backing huntouched.not_install) (w.withFaults faults)
    refine ⟨_, ⟨n, rfl, hok⟩, hstands, ?_, fun hfile => ?_⟩
    · exact (hbacking .logDb).1.trans hlog
    · exact (hbacking .stateDb).1.trans (hstate hfile)
  | reopen faults =>
    obtain ⟨hnone, store, hopen⟩ := hclean
    exact ⟨_, rfl, ((h.reopen env hnone).2 faults store _ (Prod.ext hopen rfl)).1⟩

/-- A call that returned `Ok` has done all of its writes. -/
theorem Recorded.call_ok {call : StoreCall} {faults : List Bool} (h : Recorded stateStore b w)
    (hrun : runCall env (storeOf stateStore) w (call, faults) = (.ok (), w'))
    (huntouched : CallUntouched env (storeOf stateStore) w call) :
    Recorded stateStore (b.after (call.ownWrites env b)) w' := by
  obtain ⟨b', ⟨n, rfl, hok⟩, h'⟩ := h.event (e := .call call faults) huntouched
  obtain rfl := hok (congrArg Prod.fst hrun)
  rw [List.take_length] at h'
  have hrun' : NodeEvent.run env stateStore w (.call call faults) = w' := congrArg Prod.snd hrun
  rwa [hrun'] at h'

theorem Recorded.events {es : List NodeEvent} (h : Recorded stateStore b w)
    (hclean : EventsClean env stateStore w es) :
    ∃ b', Acknowledged env stateStore w b es b' ∧ Recorded stateStore b' (runEvents env stateStore w es) := by
  induction es generalizing w b with
  | nil => exact ⟨b, rfl, h⟩
  | cons e es ih =>
    obtain ⟨hfirst, hrest⟩ := hclean
    obtain ⟨b₁, hack, h₁⟩ := h.event hfirst
    obtain ⟨b₂, hacks, h₂⟩ := ih h₁ hrest
    exact ⟨b₂, ⟨b₁, hack, hacks⟩, h₂⟩

end Opening

section Sound

variable [Serde LogId] [Serde Vote] [Serde Entry] [Serde EffectiveMembership] [Serde SnapshotMeta]
variable (env : Env U) (store : RaftStore) {s : Session (Database U)} {w : World U}

/-- An apply whose turns pass, on a storage that does not fail. -/
theorem runCall_apply {es : List Entry} (hf : w.faults = []) (hs : (w.conn store.data).session = some s)
    (hok : TurnsOk env s es) :
    ∃ w', runCall env store w (.applyToStateMachine es, []) = (.ok (), w') ∧ w'.faults = [] ∧
      (w'.conn store.data).session = some (es.foldl (turn env) s) := by
  rcases passes_applyEntries env store es [] w hf hs with ⟨-, rs, w', hexec, -, hf', hs'⟩ | ⟨hno, -⟩
  · refine ⟨w', ?_, hf', hs'⟩
    rw [runCall_sound env store hf]
    unfold StoreCall.run
    exact exec_run_bind_ok hexec
  · exact absurd hok hno

theorem runCall_saveVote_session (vote : Vote) (hf : w.faults = []) (hs : (w.conn store.log).session = some s)
    (hw : s.main.Writable voteKey) :
    ∃ w', runCall env store w (.saveVote vote, []) = (.ok (), w') ∧ w'.faults = [] ∧
      (w'.conn store.log).session = some { s with main := s.main.putKv voteKey (.blob (encoded vote)) } := by
  have hwrite := passes_upsert (s := s) (h := store.log) storeWriteError voteKey (.blob (encoded vote))
  rcases hwrite w hf hs with ⟨-, n, w', hexec, -, hf', hs'⟩ | ⟨hno, -⟩
  · refine ⟨w', ?_, hf', hs'⟩
    rw [runCall_sound env store hf]
    show (store.saveVote vote).run.exec w = _
    unfold RaftStore.saveVote RaftStore.setVote
    rw [encode_eq, pure_bind]
    exact exec_run_bind_ok hexec
  · exact absurd hw hno

end Sound

/-- The entry of a client that opens a transaction. -/
def beginEntry (index : UInt64) : Entry := ⟨logIdAt index, .normal (.execute "BEGIN" [])⟩

theorem begin_untouched (s : Session (Database Catalog)) :
    EntriesMet (Untouched (storeOf none)) catalogEnv s [beginEntry 1] := by
  refine fun _ => ⟨?_, fun _ => trivial⟩
  rintro req ⟨⟩
  rcases s with ⟨d, _ | saved⟩
  · exact ⟨rfl, fun _ _ => rfl, fun _ => ⟨rfl, fun _ _ => rfl⟩⟩
  · exact ⟨rfl, fun _ _ => rfl, fun _ => ⟨rfl, fun _ _ => rfl⟩⟩

end Replicat
