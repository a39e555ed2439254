import Replicat.Storage.SnapshotFile

/-!
# Snapshots over a run

A build writes its image over the file without truncating it, so the file is as long as the
longest image so far. `latest_snapshot_iff` says when what `get_current_snapshot` returns is
the latest snapshot all the same.
-/

namespace Replicat

open Sqlite Atomics Atomics.Prog

variable {U : Type}

/-! ## Runs -/

theorem length_writtenOver_le {data file : Bytes} {n : Nat} :
    (writtenOver data file).length ≤ n ↔ data.length ≤ n ∧ file.length ≤ n := by
  simp only [writtenOver, List.length_append, List.length_drop]
  omega

theorem writtenOver_eq_left {data file : Bytes} : writtenOver data file = data ↔ file.length ≤ data.length := by
  rw [writtenOver, List.append_right_eq_self, List.drop_eq_nil_iff]

section Runs

variable [Serde LogId] [Serde EffectiveMembership] [Serde SnapshotMeta]

/-- A call of `apply_to_state_machine` that succeeds, on whatever storage. -/
def Applies (env : Env U) (store : RaftStore) (w w' : World U) : Prop :=
  ∃ es res faults, (store.applyToStateMachine env es).run.exec (w.withFaults faults) = (.ok res, w')

/-- Successful calls from `w₀` on. The snapshots built are listed the latest first. -/
inductive BuildRun (env : Env U) (store : RaftStore) (w₀ : World U) : World U → List Snapshot → Prop where
  | start : BuildRun env store w₀ w₀ []
  | applied {w past w'} : BuildRun env store w₀ w past → Applies env store w w' →
      BuildRun env store w₀ w' past
  | built {w past snap w'} (faults : List Bool) : BuildRun env store w₀ w past →
      (store.buildSnapshot env).run.exec (w.withFaults faults) = (.ok snap, w') →
      BuildRun env store w₀ w' (snap :: past)

variable {env : Env U} {store : RaftStore} {w₀ w w' : World U} {past : List Snapshot} {snap : Snapshot}
  {faults : List Bool}

omit [Serde SnapshotMeta] in
theorem Applies.file (h : Applies env store w w') : w'.snapshotFile = w.snapshotFile := by
  obtain ⟨es, res, faults, hexec⟩ := h
  have hkeeps : KeepsFile (w.withFaults faults) (Except.ok (ε := StorageError) res, w').2 := by
    rw [← hexec]
    exact (applyEntries_within es [] (fun _ _ _ => submitTask_file _) (fun _ _ => rfl) (fun _ _ => rfl)
      fun _ _ _ _ => submitTask_file _).exec _
  exact hkeeps

omit [Serde SnapshotMeta] in
theorem appliesAll_file (h : Relation.ReflTransGen (Applies env store) w w') :
    w'.snapshotFile = w.snapshotFile := by
  induction h with
  | refl => rfl
  | tail _ hstep ih => exact hstep.file.trans ih

omit [Serde LogId] [Serde EffectiveMembership] in
/-- **What a build leaves**: its metadata in the row, and its image over the file. -/
theorem buildSnapshot_leaves
    (hbuild : (store.buildSnapshot env).run.exec (w.withFaults faults) = (.ok snap, w')) :
    metaIn (w'.conn store.data) = .ok (some snap.metadata) ∧
      w'.snapshotFile = some (writtenOver snap.snapshot (w.snapshotFile.getD [])) := by
  -- A build that succeeds goes as on a sound storage.
  obtain ⟨faults', t, hsound, rfl⟩ := (failStop_buildSnapshot env store).exec_ok
    (w := w.withFaults []) rfl hbuild
  obtain ⟨hsnap, -, -, -, hrow, -⟩ := buildSnapshot_parts rfl hsound
  rw [buildSnapshot_end rfl hsound]
  refine ⟨?_, rfl⟩
  rw [World.conn_withFaults, World.conn_withFile, hrow, hsnap]

/-- **The file over a run** is as long as the longest image, and as what was there at the start. -/
theorem BuildRun.file_le (h : BuildRun env store w₀ w past) (n : Nat) :
    (w.snapshotFile.getD []).length ≤ n ↔
      (w₀.snapshotFile.getD []).length ≤ n ∧ ∀ earlier ∈ past, earlier.snapshot.length ≤ n := by
  induction h with
  | start => simp
  | applied _ happlies ih => rw [happlies.file, ih]
  | built _ _ hbuild ih =>
    obtain ⟨-, hfile⟩ := buildSnapshot_leaves hbuild
    rw [hfile, Option.getD_some, length_writtenOver_le, ih, List.forall_mem_cons]
    exact and_left_comm

/-- Neither an image built before nor the file at the start is longer than this one. -/
def LongestSoFar (w₀ : World U) (past : List Snapshot) (snap : Snapshot) : Prop :=
  (w₀.snapshotFile.getD []).length ≤ snap.snapshot.length ∧
    ∀ earlier ∈ past, earlier.snapshot.length ≤ snap.snapshot.length

/-- The file is the snapshot just built when none before it took more room. -/
theorem BuildRun.file_iff (hrun : BuildRun env store w₀ w past)
    (hbuild : (store.buildSnapshot env).run.exec (w.withFaults faults) = (.ok snap, w')) :
    w'.snapshotFile = some snap.snapshot ↔ LongestSoFar w₀ past snap := by
  rw [(buildSnapshot_leaves hbuild).2, Option.some_inj, writtenOver_eq_left, hrun.file_le]
  rfl

end Runs

def dropNotes : String := "DROP TABLE IF EXISTS notes"
def vacuum : String := "VACUUM"

/-- The tables, and whether the pages of a dropped one are still in the database. -/
abbrev Roomy := Catalog × Bool

def runRoomy (sql : String) (tables : Roomy) : Roomy :=
  if sql = dropNotes then (tables.1.erase "notes", tables.2 || "notes" ∈ tables.1)
  else if sql = vacuum then (tables.1, false)
  else (runCatalog sql tables.1, tables.2)

def roomyClient (sql : String) (_ : List Value) : Prepared (Database Roomy) := fun s =>
  if sql = createNotes ∨ sql = dropNotes ∨ (sql = vacuum ∧ s.saved = none) then
    ({ s with main := { s.main with user := runRoomy sql s.main.user } }, .ok ⟨[], 0⟩)
  else (s, .error ⟨[], syntaxError⟩)

/-- An image has `room` bytes for the pages of `notes`, also when they are free. -/
def roomyEnv (room : Nat) : Env Roomy :=
  { Env.coded ([], false) Prod.fst roomyClient with
    serialize := fun _ d => 83 :: (List.replicate (if "notes" ∈ d.user.1 ∨ d.user.2 then room else 0) 0 ++
      1 :: Codec.write (atRest d))
    contents := fun bytes => Codec.read (bytes.tail.dropWhile (· == 0)).tail
    contents_serialize := fun _ d => by simp
    loads_serialize := fun _ _ _ => rfl
    serialize_ne_nil := fun _ d => by simp }

def roomyEffect : Request → Roomy → Roomy
  | .execute sql _ => runRoomy sql

/-- The entries that create the table, and those that give its room back. -/
def roomyEntries : List Entry := [⟨logIdAt 1, .normal (.execute createNotes [])⟩]

def vacuumEntries : List Entry :=
  [⟨logIdAt 2, .normal (.execute dropNotes [])⟩, ⟨logIdAt 3, .normal (.execute vacuum [])⟩]

theorem confined_roomy (room : Nat) (tables : Roomy) {es : List Entry}
    (h : ∀ e ∈ es, e ∈ roomyEntries ++ vacuumEntries) : Confined (roomyEnv room) roomyEffect tables es := by
  have hruns : ∀ sql ∈ [createNotes, dropNotes, vacuum], ∀ tables,
      RunsOn (roomyEnv room) roomyEffect tables (.execute sql []) := by
    rintro sql hsql _ d ⟨rfl, -, hobjects⟩
    refine ⟨d.own, 0, hobjects, ?_⟩
    show roomyClient sql [] ⟨d, none⟩ = _
    unfold roomyClient
    rw [if_pos (by simpa using hsql)]
    rfl
  refine confined_of_forall (fun e he req hreq => ?_) tables
  have hmem : e ∈ [_, _, _] := h e he
  simp only [List.mem_cons, List.not_mem_nil, or_false] at hmem
  rcases hmem with rfl | rfl | rfl <;> cases hreq <;> exact hruns _ (by simp)

/-- A store of it just opened. -/
def roomyOpened : World Roomy :=
  opened (roomyEnv 0) (some .file) (Applied.at roomyEffect ([], false) []) World.fresh

/-- The node after an apply of the entries. -/
def roomyApplied (es : List Entry) (w : World Roomy) : World Roomy :=
  Prog.replay ((es.flatMap stepsOf).map (ApplyStep.onWorld (roomyEnv 0) .stateDb)) w

theorem nextImage_of_session {env : Env U} [Serde SnapshotMeta] {store : RaftStore} {w : World U} {d : Database U}
    {saved : Option (Database U)}
    (h : ((rowsWritten env store w).conn store.data).session = some ⟨d, saved⟩) :
    nextImage env store w = env.serialize (w.conn store.data).journalMode d := by
  unfold nextImage
  rw [h]
  rfl

theorem rowsWritten_roomy (room : Nat) (store : RaftStore) (w : World Roomy) :
    rowsWritten (roomyEnv room) store w = rowsWritten (roomyEnv 0) store w := rfl

/-- What is in the file does not matter to what is built next. -/
theorem roomyApplied_withFile (env : Env Roomy) (w : World Roomy) (file : Bytes) :
    (rowsWritten env ⟨.logDb, .stateDb⟩ (roomyApplied vacuumEntries (w.withFile file))).conn .stateDb =
      (rowsWritten env ⟨.logDb, .stateDb⟩ (roomyApplied vacuumEntries w)).conn .stateDb := rfl

/-- The second image is of the same database, whatever the first one took. -/
theorem roomy_images : ∃ d₁ d₂ : Database Roomy, d₁.user = (["notes"], false) ∧ d₂.user = ([], false) ∧
      ((rowsWritten (roomyEnv 0) ⟨.logDb, .stateDb⟩ (roomyApplied roomyEntries roomyOpened)).conn
        .stateDb).session = some ⟨d₁, none⟩ ∧
      ((rowsWritten (roomyEnv 0) ⟨.logDb, .stateDb⟩ (roomyApplied vacuumEntries
        (rowsWritten (roomyEnv 0) ⟨.logDb, .stateDb⟩
          (roomyApplied roomyEntries roomyOpened)))).conn .stateDb).session = some ⟨d₂, none⟩ := by
  refine ⟨_, _, ?_, ?_, rfl, rfl⟩
  · decide
  · decide

/-- The first build of a store leaves an index that the next one can count on. -/
theorem rowsWritten_ready [Serde SnapshotMeta] (env : Env U) {store : RaftStore} {w : World U} (file : Bytes)
    (hne : store.data ≠ store.log) (hlog : LogReady store.log .absent w) :
    LogReady store.log .integer ((rowsWritten env store w).withFile file) := by
  obtain ⟨d, t, hr, ht, hk⟩ := rowsWritten_index env hne hlog
  refine ⟨d, t, ?_, ht, 0, hk, by decide⟩
  rw [World.Reads, World.conn_withFile]
  exact hr

theorem roomyApplied_exec (room : Nat) {es : List Entry} {v : Applied Roomy} {k : IndexRow} {w : World Roomy}
    (hes : ∀ e ∈ es, e ∈ roomyEntries ++ vacuumEntries) (hw : Shows .stateDb v w) (hlog : LogReady .logDb k w) :
    (RaftStore.applyToStateMachine (roomyEnv room) ⟨.logDb, .stateDb⟩ es).run.exec w =
        (.ok (es.map fun _ => ⟨⟩), roomyApplied es w) ∧
      Shows .stateDb (v.after roomyEffect (es.flatMap stepsOf)) (roomyApplied es w) ∧
      LogReady .logDb k (roomyApplied es w) := by
  have hsteps := (confined_roomy 0 v.tables hes).stepsRun
  exact ⟨applyToStateMachine_replay ⟨.logDb, .stateDb⟩ (confined_roomy room v.tables hes) hw, hw.replay hsteps,
    hlog.replay hw hsteps⟩

/-- Entries that create the table, and others that give its room back, each followed by a build. -/
theorem roomy_builds (room : Nat) {d₁ d₂ : Database Roomy}
    (hs₁ : ((rowsWritten (roomyEnv 0) ⟨.logDb, .stateDb⟩ (roomyApplied roomyEntries roomyOpened)).conn
      .stateDb).session = some ⟨d₁, none⟩)
    (hs₂ : ((rowsWritten (roomyEnv 0) ⟨.logDb, .stateDb⟩ (roomyApplied vacuumEntries
      (rowsWritten (roomyEnv 0) ⟨.logDb, .stateDb⟩ (roomyApplied roomyEntries roomyOpened)))).conn
        .stateDb).session = some ⟨d₂, none⟩) : ∃ first latest w₁ w₂ w₃ w₄ mode mode',
    (RaftStore.openStore (roomyEnv room) (some .file)).run.exec World.fresh =
      (.ok ⟨.logDb, .stateDb⟩, roomyOpened) ∧
    (RaftStore.applyToStateMachine (roomyEnv room) ⟨.logDb, .stateDb⟩ roomyEntries).run.exec roomyOpened =
      (.ok [⟨⟩], w₁) ∧
    (RaftStore.buildSnapshot (roomyEnv room) ⟨.logDb, .stateDb⟩).run.exec w₁ = (.ok first, w₂) ∧
    (RaftStore.applyToStateMachine (roomyEnv room) ⟨.logDb, .stateDb⟩ vacuumEntries).run.exec w₂ =
      (.ok [⟨⟩, ⟨⟩], w₃) ∧
    (RaftStore.buildSnapshot (roomyEnv room) ⟨.logDb, .stateDb⟩).run.exec w₃ = (.ok latest, w₄) ∧
    first.snapshot = (roomyEnv room).serialize mode d₁ ∧
    latest.snapshot = (roomyEnv room).serialize mode' d₂ := by
  rw [← rowsWritten_roomy room] at hs₁ hs₂
  rw [← rowsWritten_roomy room _ (roomyApplied roomyEntries roomyOpened)] at hs₂
  have hfinds := finds_fresh (roomyEnv room) roomyEffect (some .file)
  have hopen : (RaftStore.openStore (roomyEnv room) (some .file)).run.exec World.fresh =
      (.ok ⟨.logDb, .stateDb⟩, roomyOpened) := openStore_exec rfl hfinds.2
  have hshows : Shows .stateDb (Applied.at roomyEffect ([], false) []) roomyOpened := opened_shows hfinds rfl rfl
  have hready : LogReady .logDb .absent roomyOpened := ⟨_, _, rfl, Database.kvStates_withKv rfl, rfl⟩
  obtain ⟨happly₁, hshows₁, hready₁⟩ :=
    roomyApplied_exec room (fun e => List.mem_append_left _) hshows hready
  obtain ⟨first, w₂, hbuild₁⟩ :=
    buildSnapshot_exec (roomyEnv room) ⟨.logDb, .stateDb⟩ (by decide) hshows₁ hready₁
  have hquiet : Quiet (roomyApplied roomyEntries roomyOpened) w₂ := by
    have h := (within_buildSnapshot (roomyEnv room) ⟨.logDb, .stateDb⟩).exec (roomyApplied roomyEntries roomyOpened)
    rwa [hbuild₁] at h
  obtain ⟨rfl, -⟩ := buildSnapshot_parts hshows₁.faults hbuild₁
  obtain rfl := buildSnapshot_end hshows₁.faults hbuild₁
  obtain ⟨happly₂, hshows₂, hready₂⟩ := roomyApplied_exec room (fun e => List.mem_append_right _)
    (hshows₁.quiet hquiet) (rowsWritten_ready (roomyEnv room) _ (by decide) hready₁)
  obtain ⟨latest, w₄, hbuild₂⟩ :=
    buildSnapshot_exec (roomyEnv room) ⟨.logDb, .stateDb⟩ (by decide) hshows₂ hready₂
  obtain ⟨rfl, -⟩ := buildSnapshot_parts hshows₂.faults hbuild₂
  refine ⟨_, _, _, _, _, w₄, _, _, hopen, happly₁, hbuild₁, happly₂, hbuild₂, nextImage_of_session hs₁,
    Eq.trans ?_ (nextImage_of_session hs₂)⟩
  unfold nextImage
  rw [roomyApplied_withFile]
  rfl

end Replicat
