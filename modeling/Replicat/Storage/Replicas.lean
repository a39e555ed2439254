import Replicat.Storage.SnapshotCut
import Replicat.Storage.Snapshots

/-!
# Replicas that exchange snapshots

Any number of replicas over one committed sequence of entries. A replica applies the next
batch, builds a snapshot, or installs one that any replica built and goes on from its
`last_log_id`. An install replaces the rows but not the two cached fields, so the next build
may describe an older state than the image it takes; `replicas_agree` is about the runs in
which every build finds its cached fields as fresh as its rows.
-/

namespace Replicat

open Sqlite Atomics Atomics.Prog

variable {ι U : Type} [DecidableEq ι]

/-- The replicas, how many entries each has taken in, and every snapshot built so far. -/
structure Cluster (ι U : Type) where
  node : ι → World U
  position : ι → Nat
  snapshots : List Snapshot

/-- The entries up to and including the one with the id `last`. -/
def positionOf (log : List Entry) : Option LogId → Nat
  | none => 0
  | some last => log.findIdx (·.logId = last) + 1

section Run

variable [Serde LogId] [Serde EffectiveMembership] [Serde SnapshotMeta]

/-- Every replica has just opened its store on an empty disk. -/
def Cluster.new (env : Env U) (stateStore : ι → Option StateStore) : Cluster ι U where
  node i := ((RaftStore.openStore env (stateStore i)).run.exec World.fresh).2
  position _ := 0
  snapshots := []

/-- The cached fields are what the rows say. -/
def CachedFresh (data : StorageHandle) (w : World U) : Prop :=
  ∃ v, Shows data v w ∧ v.log = v.logRow ∧ v.membership = v.membershipRow.getD default

/-- One step of one replica. A build is taken only where `ok` allows it. -/
inductive ClusterStep (env : Env U) (stateStore : ι → Option StateStore) (log : List Entry)
    (ok : StorageHandle → World U → Prop) : Cluster ι U → Cluster ι U → Prop where
  | apply {c : Cluster ι U} {i : ι} {r w'} (n : Nat) :
      ((storeOf (stateStore i)).applyToStateMachine env ((log.drop (c.position i)).take n)).run.exec
        (c.node i) = (r, w') →
      ClusterStep env stateStore log ok c
        { c with
          node := Function.update c.node i w'
          position := Function.update c.position i
            (c.position i + ((log.drop (c.position i)).take n).length) }
  | build {c : Cluster ι U} {i : ι} {r w'} :
      ok (dataHandle (stateStore i)) (c.node i) →
      ((storeOf (stateStore i)).buildSnapshot env).run.exec (c.node i) = (r, w') →
      ClusterStep env stateStore log ok c
        { c with
          node := Function.update c.node i w'
          snapshots := c.snapshots ++ r.toOption.toList }
  | install {c : Cluster ι U} {i : ι} {snap : Snapshot} {r w'} :
      snap ∈ c.snapshots →
      ((storeOf (stateStore i)).installSnapshot env snap.metadata snap.snapshot).run.exec
        (c.node i) = (r, w') →
      ClusterStep env stateStore log ok c
        { c with
          node := Function.update c.node i w'
          position := Function.update c.position i (positionOf log snap.metadata.lastLogId) }

/-- The states that runs from newly opened replicas reach. -/
inductive ClusterReachable (env : Env U) (stateStore : ι → Option StateStore) (log : List Entry)
    (ok : StorageHandle → World U → Prop) : Cluster ι U → Prop where
  | new : ClusterReachable env stateStore log ok (Cluster.new env stateStore)
  | step {c c' : Cluster ι U} : ClusterReachable env stateStore log ok c →
      ClusterStep env stateStore log ok c c' → ClusterReachable env stateStore log ok c'

end Run

/-! ## What a node and a snapshot hold -/

section Invariant

variable [Serde LogId] [Serde EffectiveMembership] {effect : Request → U → U}

/-- The rows and the client tables of the data connection are those of a prefix of the log. The
cached fields may be anything. -/
def HoldsPrefix (effect : Request → U → U) (tables : U) (log : List Entry) (data : StorageHandle)
    (p : Nat) (w : World U) : Prop :=
  ∃ v, Shows data v w ∧ v.SameRows (Applied.at effect tables (log.take p))

omit [Serde LogId] [Serde EffectiveMembership] in
/-- The id of the last entry of a prefix finds the prefix again. -/
theorem take_positionOf {log : List Entry} (hlog : log.Pairwise (·.logId.index < ·.logId.index))
    (m : Nat) :
    log.take (positionOf log (lastLogId? (log.take m))) = log.take m := by
  rcases List.eq_nil_or_concat (log.take m) with hnil | ⟨before, last, htake⟩
  · rw [hnil]
    rfl
  · rw [List.concat_eq_append] at htake
    have hsplit : log = before ++ last :: log.drop m := by
      rw [List.append_cons, ← htake, List.take_append_drop]
    have hbefore : ∀ e ∈ before, ¬ e.logId = last.logId := by
      intro e he heq
      rw [hsplit, List.pairwise_append] at hlog
      have hlt := hlog.2.2 e he last List.mem_cons_self
      rw [heq, UInt64.lt_iff_toNat_lt] at hlt
      omega
    have hfind : log.findIdx (·.logId = last.logId) = before.length := by
      conv_lhs => rw [hsplit]
      rw [List.findIdx_append, List.findIdx_eq_length.2 (by simpa using hbefore), if_neg (by omega)]
      simp [List.findIdx_cons]
    rw [htake, lastLogId?_append_singleton, positionOf, hfind]
    conv_lhs => rw [hsplit, List.append_cons]
    rw [List.take_append_of_le_length (by simp), List.take_of_length_le (by simp)]

end Invariant

section Steps

variable [Serde LogId] [Serde EffectiveMembership] [Serde SnapshotMeta] {env : Env U}
  {effect : Request → U → U} {tables : U} {log : List Entry} {stateStore : Option StateStore}
  {w w' : World U}

/-- The images of the database behind `h` can be used over a buffer. -/
def ImagesLoad (env : Env U) (h : StorageHandle) (w : World U) : Prop :=
  ∀ d, env.loads (env.serialize (w.conn h).journalMode d)

omit [Serde LogId] [Serde EffectiveMembership] [Serde SnapshotMeta] in
theorem ImagesLoad.of_mode {h : StorageHandle} (hw : ImagesLoad env h w)
    (hmode : (w'.conn h).journalMode = (w.conn h).journalMode) : ImagesLoad env h w' := by
  unfold ImagesLoad
  rwa [hmode]

/-- The image holds the entries of a prefix of the log, and the metadata is of the same
prefix. -/
def SnapshotOf (env : Env U) (effect : Request → U → U) (tables : U) (log : List Entry)
    (snap : Snapshot) : Prop :=
  ∃ m d t, env.contents snap.snapshot = some d ∧ d.kvStates = some t ∧
    Stored (Applied.at effect tables (log.take m)) d ∧
    snap.metadata.lastLogId = lastLogId? (log.take m) ∧
    snap.metadata.lastMembership = (lastMembership? (log.take m)).getD default

omit [Serde SnapshotMeta] in
theorem SnapshotOf.consistentCut {snap : Snapshot} (h : SnapshotOf env effect tables log snap) :
    ConsistentCut env effect tables log snap := by
  obtain ⟨m, d, t, himage, -, hs, hlast, hmem⟩ := h
  exact ⟨m, d, himage, hs, hlast, hmem⟩

/-- An install takes the image, and a connection can use it. -/
def Installable (env : Env U) (snap : Snapshot) : Prop := snap.snapshot ≠ [] ∧ env.loads snap.snapshot

omit [Serde LogId] [Serde EffectiveMembership] [Serde SnapshotMeta] in
theorem Installable.deserialize {snap : Snapshot} {d : Database U} (h : Installable env snap)
    (himage : env.contents snap.snapshot = some d) : env.deserialize snap.snapshot = some d := by
  rw [Env.deserialize, if_pos h.2, himage]

omit [Serde LogId] [Serde EffectiveMembership] in
theorem ImagesLoad.built {store : RaftStore} {snap : Snapshot} (hw : ImagesLoad env store.data w)
    (hexec : (store.buildSnapshot env).run.exec w = (.ok snap, w')) : Installable env snap := by
  obtain ⟨-, -, s, -, -, -, himage, -⟩ := buildSnapshot_ok hexec
  have hquiet := (within_buildSnapshot env store).exec w
  rw [hexec] at hquiet
  rw [(hquiet.conn store.data).journalMode] at himage
  unfold Installable
  rw [himage]
  exact ⟨env.serialize_ne_nil _ _, hw s.main⟩

omit [Serde SnapshotMeta] in
theorem applyToStateMachine_mode (store : RaftStore) (entries : List Entry) (h : StorageHandle) :
    (((store.applyToStateMachine env entries).run.exec w).2.conn h).journalMode =
      (w.conn h).journalMode := by
  let SameMode (w w' : World U) : Prop := (w'.conn h).journalMode = (w.conn h).journalMode
  have : Std.Refl SameMode := ⟨fun _ => rfl⟩
  have : IsTrans (World U) SameMode := ⟨fun _ _ _ h₁ h₂ => Eq.trans h₂ h₁⟩
  have hstmt : ∀ {stmt : Prepared (Database U)}, (store.data.execute stmt).run.Within SameMode := by
    refine StorageHandle.within_submitTask (fun w => by simp only [SameMode, World.conn_nextFault]) fun w => ?_
    by_cases hh : store.data = h
    · subst hh
      simp [SameMode, Connection.execute]
    · simp only [SameMode, World.conn_setConn_ne _ hh, World.conn_nextFault]
  exact (applyEntries_within entries [] (fun _ _ _ => hstmt) (fun _ _ => by cases h <;> rfl)
    (fun _ _ => by cases h <;> rfl) fun _ _ _ _ => hstmt).exec w

omit [Serde SnapshotMeta] in
/-- Applying the next batch takes a node to a longer prefix. -/
theorem HoldsPrefix.apply {p n : Nat} {r : Except StorageError (List Response)}
    (h : HoldsPrefix effect tables log (dataHandle stateStore) p w) (hc : Confined env effect tables log)
    (hexec : ((storeOf stateStore).applyToStateMachine env ((log.drop p).take n)).run.exec w = (r, w')) :
    HoldsPrefix effect tables log (dataHandle stateStore) (p + ((log.drop p).take n).length) w' := by
  obtain ⟨v, hv, hrows⟩ := h
  have hbatch : Confined env effect v.tables ((log.drop p).take n) := by
    rw [hrows.1]
    exact (hc.drop p).take n
  have htake : log.take (p + ((log.drop p).take n).length) = log.take p ++ (log.drop p).take n := by
    rw [List.take_add, ← List.prefix_iff_eq_take.1 (List.take_prefix n (log.drop p))]
  rw [applyToStateMachine_replay (storeOf stateStore) hbatch hv] at hexec
  cases hexec
  refine ⟨_, hv.replay hbatch.stepsRun, ?_⟩
  rw [htake, ← Applied.at_after]
  exact hrows.after _

/-- Building leaves the node where it is, and the image is of its contents. -/
theorem HoldsPrefix.build {p : Nat} {r : Except StorageError Snapshot}
    (h : HoldsPrefix effect tables log (dataHandle stateStore) p w)
    (hexec : ((storeOf stateStore).buildSnapshot env).run.exec w = (r, w')) :
    HoldsPrefix effect tables log (dataHandle stateStore) p w' := by
  obtain ⟨v, hv, hrows⟩ := h
  have hquiet := (within_buildSnapshot env (storeOf stateStore)).exec w
  rw [hexec] at hquiet
  exact ⟨v, hv.quiet hquiet, hrows⟩

theorem buildSnapshot_image {v : Applied U} {snap : Snapshot} (hv : Shows (dataHandle stateStore) v w)
    (hexec : ((storeOf stateStore).buildSnapshot env).run.exec w = (.ok snap, w')) :
    snap.metadata.lastLogId = v.log ∧ snap.metadata.lastMembership = v.membership ∧
      ∃ d t, snap.snapshot = env.serialize (w.conn (dataHandle stateStore)).journalMode d ∧
        d.kvStates = some t ∧ Stored v d := by
  obtain ⟨hlast, hmem, s, t, hs, ht, himage, -⟩ := buildSnapshot_ok hexec
  have hquiet := (within_buildSnapshot env (storeOf stateStore)).exec w
  rw [hexec] at hquiet
  obtain ⟨d, -, hr, -, hd⟩ := (hv.quiet hquiet).reads
  obtain rfl : s = ⟨d, none⟩ := Option.some.inj (hs.symm.trans hr)
  exact ⟨hlast.trans hv.log, hmem.trans hv.membership, d, t,
    by rw [himage, ← (hquiet.conn (dataHandle stateStore)).journalMode]; rfl,
    Database.kvStates_eq_some.2 ⟨hd.clear, ht⟩, hd⟩

/-- A snapshot built from fresh fields is of the prefix the node holds. -/
theorem HoldsPrefix.built {p : Nat} {snap : Snapshot}
    (h : HoldsPrefix effect tables log (dataHandle stateStore) p w)
    (hfresh : CachedFresh (dataHandle stateStore) w)
    (hexec : ((storeOf stateStore).buildSnapshot env).run.exec w = (.ok snap, w')) :
    SnapshotOf env effect tables log snap := by
  obtain ⟨v, hv, hrows⟩ := h
  obtain ⟨v', hv', hlog, hmem⟩ := hfresh
  obtain rfl := hv'.unique hv
  obtain ⟨hlast, hlastMem, d, t, himage, ht, hd⟩ := buildSnapshot_image hv hexec
  refine ⟨p, atRest d, t, ?_, Database.kvStates_atRest ht, (hrows.stored hd).atRest, ?_, ?_⟩
  · rw [himage, env.contents_serialize]
  · rw [hlast, hlog, hrows.2.1]
    rfl
  · rw [hlastMem, hmem, hrows.2.2]
    rfl

/-- **A build is right exactly when it finds fresh fields.** -/
theorem HoldsPrefix.consistentCut_iff {p : Nat} {snap : Snapshot}
    (h : HoldsPrefix effect tables log (dataHandle stateStore) p w)
    (hexec : ((storeOf stateStore).buildSnapshot env).run.exec w = (.ok snap, w')) :
    ConsistentCut env effect tables log snap ↔ CachedFresh (dataHandle stateStore) w := by
  refine ⟨fun hcut => ?_, fun hfresh => (h.built hfresh hexec).consistentCut⟩
  obtain ⟨v, hv, hrows⟩ := h
  obtain ⟨hlast, hmem, d, t, himage, ht, hd⟩ := buildSnapshot_image hv hexec
  obtain ⟨m, d', hd', hs, hlast', hmem'⟩ := hcut
  rw [himage, env.contents_serialize] at hd'
  obtain rfl : atRest d = d' := Option.some.inj hd'
  have hd := hd.atRest
  -- The rows of the image say which prefix it is.
  have hlogRow : v.logRow = lastLogId? (log.take m) := map_encoded_inj (hd.logRow.symm.trans hs.logRow)
  have hmemRow : v.membershipRow = lastMembership? (log.take m) :=
    map_encoded_inj (hd.membershipRow.symm.trans hs.membershipRow)
  refine ⟨v, hv, ?_, ?_⟩
  · rw [hlogRow, ← hlast', hlast]
  · rw [hmemRow, ← hmem', hmem]

/-- Installing takes a node to the prefix of the snapshot. -/
theorem HoldsPrefix.install {p : Nat} {snap : Snapshot} {r : Except StorageError Unit}
    (hlog : log.Pairwise (·.logId.index < ·.logId.index))
    (h : HoldsPrefix effect tables log (dataHandle stateStore) p w)
    (hsnap : SnapshotOf env effect tables log snap) (hload : Installable env snap)
    (hexec : ((storeOf stateStore).installSnapshot env snap.metadata snap.snapshot).run.exec w = (r, w')) :
    HoldsPrefix effect tables log (dataHandle stateStore) (positionOf log snap.metadata.lastLogId) w' ∧
      (w'.conn (dataHandle stateStore)).journalMode = .memory := by
  obtain ⟨v, hv, -⟩ := h
  obtain ⟨m, d, t, himage, ht, hs, hlast, -⟩ := hsnap
  obtain ⟨d₀, -, hr, -, hd₀⟩ := hv.reads
  have hinstall : ((storeOf stateStore).installSnapshot env snap.metadata snap.snapshot).run.exec w = _ :=
    installSnapshot_exec hv.faults hr hload.1 (hload.deserialize himage)
      (Database.kvStates_replace hd₀.clear ht)
  rw [hinstall] at hexec
  cases hexec
  refine ⟨⟨_, hv.installed snap.metadata ht hs, ?_⟩, ?_⟩
  · rw [hlast, take_positionOf hlog]
    exact ⟨rfl, rfl, rfl⟩
  · show (World.conn (World.setConn _ (storeOf stateStore).data _) (storeOf stateStore).data).journalMode = _
    rw [World.conn_setConn_self]
    rfl

end Steps

/-! ## Whole runs -/

section Agreement

variable [Serde LogId] [Serde EffectiveMembership] [Serde SnapshotMeta] {env : Env U}
  {effect : Request → U → U} {log : List Entry} {stateStore : ι → Option StateStore}

/-- Every replica is at a prefix of the log, and so is every snapshot; every image loads. -/
structure ClusterInv (env : Env U) (effect : Request → U → U) (log : List Entry)
    (stateStore : ι → Option StateStore) (c : Cluster ι U) : Prop where
  nodes : ∀ i, HoldsPrefix effect env.emptyUser log (dataHandle (stateStore i)) (c.position i) (c.node i)
  loads : ∀ i, ImagesLoad env (dataHandle (stateStore i)) (c.node i)
  snapshots : ∀ snap ∈ c.snapshots, SnapshotOf env effect env.emptyUser log snap ∧ Installable env snap

omit [DecidableEq ι] [Serde SnapshotMeta] in
theorem Cluster.new_node (env : Env U) (effect : Request → U → U) (stateStore : ι → Option StateStore)
    (i : ι) : (Cluster.new env stateStore).node i =
      opened env (stateStore i) (Applied.at effect env.emptyUser []) World.fresh := by
  have hfinds := finds_fresh env effect (stateStore i)
  exact congrArg Prod.snd (openStore_exec hfinds.1 hfinds.2)

omit [DecidableEq ι] [Serde SnapshotMeta] in
theorem ClusterInv.new (hload : ∀ i, stateStore i = none → ∀ d, env.loads (env.serialize .wal d)) :
    ClusterInv env effect log stateStore (Cluster.new env stateStore) := by
  refine ⟨fun i => ⟨Applied.at effect env.emptyUser [], ?_, rfl, rfl, rfl⟩, fun i d => ?_,
    by simp [Cluster.new]⟩
  · rw [Cluster.new_node env effect]
    exact opened_shows (finds_fresh env effect (stateStore i)) rfl rfl
  · rw [Cluster.new_node env effect]
    cases hs : stateStore i with
    | none => exact hload i hs d
    | some path => exact env.loads_serialize _ d (by cases path <;> exact JournalMode.noConfusion)

omit [Serde LogId] [Serde EffectiveMembership] [Serde SnapshotMeta] in
/-- A step of one replica moves that replica only. -/
theorem update_node {P : ι → Nat → World U → Prop} {c : Cluster ι U}
    (h : ∀ j, P j (c.position j) (c.node j)) {i : ι} {w' : World U} {p' : Nat} (hnode : P i p' w') (j : ι) :
    P j (Function.update c.position i p' j) (Function.update c.node i w' j) := by
  by_cases hj : j = i
  · subst hj
    rw [Function.update_self, Function.update_self]
    exact hnode
  · rw [Function.update_of_ne hj, Function.update_of_ne hj]
    exact h j

theorem ClusterInv.step (hlog : log.Pairwise (·.logId.index < ·.logId.index))
    (hc : Confined env effect env.emptyUser log) {c c' : Cluster ι U}
    (h : ClusterInv env effect log stateStore c) (hstep : ClusterStep env stateStore log CachedFresh c c') :
    ClusterInv env effect log stateStore c' := by
  let P (j : ι) (p : Nat) (w : World U) : Prop :=
    HoldsPrefix effect env.emptyUser log (dataHandle (stateStore j)) p w ∧
      ImagesLoad env (dataHandle (stateStore j)) w
  have hnodes : ∀ j, P j (c.position j) (c.node j) := fun j => ⟨h.nodes j, h.loads j⟩
  cases hstep with
  | @apply i r w' n hexec =>
    have hmode : ImagesLoad env (dataHandle (stateStore i)) w' := by
      have hmode := @applyToStateMachine_mode _ _ _ env (c.node i) (storeOf (stateStore i))
        ((log.drop (c.position i)).take n) (dataHandle (stateStore i))
      rw [hexec] at hmode
      exact (h.loads i).of_mode hmode
    have hall := update_node hnodes ⟨(h.nodes i).apply hc hexec, hmode⟩
    exact ⟨fun j => (hall j).1, fun j => (hall j).2, h.snapshots⟩
  | @build i r w' hfresh hexec =>
    have hmode : ImagesLoad env (dataHandle (stateStore i)) w' := by
      have hquiet := (within_buildSnapshot env (storeOf (stateStore i))).exec (c.node i)
      rw [hexec] at hquiet
      exact (h.loads i).of_mode (hquiet.conn _).journalMode
    have hall := update_node hnodes ⟨(h.nodes i).build hexec, hmode⟩
    rw [Function.update_eq_self] at hall
    refine ⟨fun j => (hall j).1, fun j => (hall j).2, fun snap hsnap => ?_⟩
    rcases List.mem_append.1 hsnap with hold | hnew
    · exact h.snapshots snap hold
    · cases r with
      | error e => cases hnew
      | ok built =>
        obtain rfl := List.mem_singleton.1 hnew
        exact ⟨(h.nodes i).built hfresh hexec, (h.loads i).built hexec⟩
  | @install i snap r w' hsnap hexec =>
    obtain ⟨hcut, hload⟩ := h.snapshots snap hsnap
    obtain ⟨hholds, hmode⟩ := (h.nodes i).install hlog hcut hload hexec
    have hall := update_node hnodes ⟨hholds, fun d => env.loads_serialize _ d (by rw [hmode]; decide)⟩
    exact ⟨fun j => (hall j).1, fun j => (hall j).2, h.snapshots⟩

theorem ClusterReachable.inv (hlog : log.Pairwise (·.logId.index < ·.logId.index))
    (hc : Confined env effect env.emptyUser log)
    (hload : ∀ i, stateStore i = none → ∀ d, env.loads (env.serialize .wal d)) {c : Cluster ι U}
    (h : ClusterReachable env stateStore log CachedFresh c) : ClusterInv env effect log stateStore c := by
  induction h with
  | new => exact .new hload
  | step _ hstep ih => exact ih.step hlog hc hstep

/-- **Replicas agree.** In every run whose builds find fresh cached fields, every replica holds
the entries up to its position, each once and in order, and every snapshot is of the prefix its
metadata names. -/
theorem replicas_agree (hlog : log.Pairwise (·.logId.index < ·.logId.index))
    (hc : Confined env effect env.emptyUser log)
    (hload : ∀ i, stateStore i = none → ∀ d, env.loads (env.serialize .wal d)) {c : Cluster ι U}
    (h : ClusterReachable env stateStore log CachedFresh c) :
    (∀ i, ∃ d, (c.node i).Reads (dataHandle (stateStore i)) d ∧
      d.user = execEntries effect env.emptyUser (log.take (c.position i))) ∧
    ∀ snap ∈ c.snapshots, ConsistentCut env effect env.emptyUser log snap := by
  have hinv : ClusterInv env effect log stateStore c := h.inv hlog hc hload
  refine ⟨fun i => ?_, fun snap hsnap => (hinv.snapshots snap hsnap).1.consistentCut⟩
  obtain ⟨v, hv, htables, -⟩ := hinv.nodes i
  obtain ⟨d, t, hr, -, hd⟩ := hv.reads
  exact ⟨d, hr, hd.tables.trans htables⟩

end Agreement

/-! ## Two replicas, one snapshot -/

section Relay

variable [Serde LogId] [Serde EffectiveMembership] [Serde SnapshotMeta] {env : Env U}
  {effect : Request → U → U} {e : Entry}

omit [Serde SnapshotMeta] in
/-- A store just opened applies an entry. -/
theorem openedFile_apply (hc : Confined env effect env.emptyUser [e]) : ∃ w,
    (RaftStore.applyToStateMachine env ⟨.logDb, .stateDb⟩ [e]).run.exec
        (opened env (some .file) (Applied.at effect env.emptyUser []) World.fresh) = (.ok [⟨⟩], w) ∧
      Shows .stateDb (Applied.at effect env.emptyUser [e]) w ∧ LogReady .logDb .absent w := by
  have hshows : Shows .stateDb (Applied.at effect env.emptyUser []) _ :=
    opened_shows (finds_fresh env effect (some .file)) rfl rfl
  exact applyToStateMachine_ready ⟨.logDb, .stateDb⟩ hc hshows ⟨_, _, rfl, rfl, rfl⟩

/-- Then it builds a snapshot, of that entry. -/
theorem openedFile_build (hc : Confined env effect env.emptyUser [e]) : ∃ w snap w' d t,
    (RaftStore.applyToStateMachine env ⟨.logDb, .stateDb⟩ [e]).run.exec
        (opened env (some .file) (Applied.at effect env.emptyUser []) World.fresh) = (.ok [⟨⟩], w) ∧
      Shows .stateDb (Applied.at effect env.emptyUser [e]) w ∧
      (RaftStore.buildSnapshot env ⟨.logDb, .stateDb⟩).run.exec w = (.ok snap, w') ∧
      snap.metadata.lastLogId = some e.logId ∧ snap.snapshot ≠ [] ∧
      env.deserialize snap.snapshot = some d ∧ d.kvStates = some t ∧
      Stored (Applied.at effect env.emptyUser [e]) d := by
  obtain ⟨w, happly, hshows, hready⟩ := openedFile_apply hc
  obtain ⟨snap, w', hbuild⟩ : ∃ snap w',
      (RaftStore.buildSnapshot env ⟨.logDb, .stateDb⟩).run.exec w = (.ok snap, w') :=
    buildSnapshot_exec _ _ (by decide) hshows hready
  have hdata : Shows (dataHandle (some .file)) (Applied.at effect env.emptyUser [e]) w := hshows
  obtain ⟨hlast, -, d, t, himage, ht, hd⟩ := buildSnapshot_image hdata hbuild
  have hmode : (w.conn .stateDb).journalMode = .delete := by
    have hmode := @applyToStateMachine_mode _ _ _ env
      (opened env (some .file) (Applied.at effect env.emptyUser []) World.fresh) ⟨.logDb, .stateDb⟩ [e] .stateDb
    rw [happly] at hmode
    exact hmode
  have hloads : ImagesLoad env (⟨.logDb, .stateDb⟩ : RaftStore).data w := fun d =>
    env.loads_serialize _ d (by rw [hmode]; decide)
  have hinst : Installable env snap := hloads.built hbuild
  refine ⟨w, snap, w', atRest d, t, happly, hshows, hbuild, hlast, hinst.1, hinst.deserialize ?_,
    Database.kvStates_atRest ht, hd.atRest⟩
  rw [himage, env.contents_serialize]

/-- The first of two replicas applies an entry and builds a snapshot, the second installs it. Its
cached fields are still those of an empty log. -/
theorem relay_installed (ok : StorageHandle → World U → Prop) (hc : Confined env effect env.emptyUser [e])
    (hok : ∀ w, Shows .stateDb (Applied.at effect env.emptyUser [e]) w → ok .stateDb w) :
    ∃ c : Cluster Bool U, ClusterReachable env (fun _ => some .file) [e] ok c ∧ c.snapshots ≠ [] ∧
      c.position true = 1 ∧ LogReady .logDb .absent (c.node true) ∧
      Shows .stateDb { Applied.at effect env.emptyUser [e] with log := none, membership := default }
        (c.node true) := by
  have hnode := Cluster.new_node env effect (fun _ : Bool => some .file)
  obtain ⟨w₁, snap, w₂, d, t, happly, hshows₁, hbuild, hlast, hne, hload, ht, hs⟩ := openedFile_build hc
  -- The first replica.
  have happly' : ((storeOf (some .file)).applyToStateMachine env [e]).run.exec
      ((Cluster.new env fun _ : Bool => some .file).node false) = (.ok [⟨⟩], w₁) := by
    rw [hnode]
    exact happly
  obtain ⟨c₁, hreach₁, hfirst, hsecond, hsnaps⟩ : ∃ c₁ : Cluster Bool U,
      ClusterReachable env (fun _ => some .file) [e] ok c₁ ∧ c₁.node false = w₁ ∧
      c₁.node true = opened env (some .file) (Applied.at effect env.emptyUser []) World.fresh ∧
      c₁.snapshots = [] :=
    ⟨_, .step .new (.apply (i := false) 1 happly'), by simp, by simp [hnode], rfl⟩
  rw [← hfirst] at hbuild hshows₁
  obtain ⟨c, hreach, hsnap, hnode⟩ : ∃ c : Cluster Bool U,
      ClusterReachable env (fun _ => some .file) [e] ok c ∧ c.snapshots = [snap] ∧
      c.node true = opened env (some .file) (Applied.at effect env.emptyUser []) World.fresh :=
    ⟨_, hreach₁.step (.build (i := false) (hok _ hshows₁) hbuild), by rw [hsnaps]; rfl, by simp [hsecond]⟩
  -- The second replica.
  have hshows : Shows .stateDb (Applied.at effect env.emptyUser []) (c.node true) := by
    rw [hnode]
    exact opened_shows (finds_fresh env effect (some .file)) rfl rfl
  have hready : LogReady .logDb .absent (c.node true) := by
    rw [hnode]
    exact ⟨_, _, rfl, rfl, rfl⟩
  obtain ⟨d₀, -, hr₀, -, hd₀⟩ := hshows.reads
  have hinstall : ((storeOf (some .file)).installSnapshot env snap.metadata snap.snapshot).run.exec
      (c.node true) = (.ok (), (c.node true).setConn .stateDb
        (installed ((c.node true).conn .stateDb) snap.metadata d)) :=
    installSnapshot_exec hshows.faults hr₀ hne hload (Database.kvStates_replace hd₀.clear ht)
  refine ⟨_, hreach.step (.install (i := true) (by simp [hsnap]) hinstall), by simp [hsnap], ?_, ?_, ?_⟩
  · simp [positionOf, hlast]
  · -- The install is on the other connection.
    obtain ⟨d', t', hr', ht', hk⟩ := hready
    refine ⟨d', t', ?_, ht', hk⟩
    dsimp only
    rw [Function.update_self]
    exact hr'
  · dsimp only
    rw [Function.update_self]
    exact hshows.installed snap.metadata ht hs

end Relay

/-- Two replicas that exchange a snapshot, and build only from fresh fields. -/
theorem replicas_agree_catalog : ∃ c : Cluster Bool Catalog,
    ClusterReachable catalogEnv (fun _ => some .file) [notesEntry 1] CachedFresh c ∧
    c.snapshots ≠ [] ∧ c.position true = 1 ∧
    (∀ i, ∃ d, (c.node i).Reads .stateDb d ∧
      d.user = execEntries catalogEffect [] ([notesEntry 1].take (c.position i))) ∧
    ∀ snap ∈ c.snapshots, ConsistentCut catalogEnv catalogEffect [] [notesEntry 1] snap := by
  have hfresh : ∀ w, Shows .stateDb (Applied.at catalogEffect [] [notesEntry 1]) w →
      CachedFresh .stateDb w := fun w hw => ⟨_, hw, rfl, rfl⟩
  obtain ⟨c, hreach, hsnaps, hposition, -⟩ := relay_installed CachedFresh (confined_notes _) hfresh
  exact ⟨c, hreach, hsnaps, hposition, replicas_agree (by simp) (confined_notes _) nofun hreach⟩

/-- The second replica builds right after its install: the image holds the table, the metadata
is that of an empty log. -/
theorem build_after_install_misnames : Confined catalogEnv catalogEffect [] [notesEntry 1] ∧
    ∃ c : Cluster Bool Catalog,
      ClusterReachable catalogEnv (fun _ => some .file) [notesEntry 1] (fun _ _ => True) c ∧
      ∃ snap ∈ c.snapshots, ¬ ConsistentCut catalogEnv catalogEffect [] [notesEntry 1] snap := by
  refine ⟨confined_notes _, ?_⟩
  obtain ⟨c, hreach, -, hposition, hready, hshows⟩ :=
    relay_installed (fun _ _ => True) (confined_notes _) fun _ _ => trivial
  obtain ⟨snap, w, hbuild⟩ : ∃ snap w,
      ((storeOf (some .file)).buildSnapshot catalogEnv).run.exec (c.node true) = (.ok snap, w) :=
    buildSnapshot_exec _ _ (by decide) hshows hready
  refine ⟨_, hreach.step (.build (i := true) trivial hbuild), snap,
    List.mem_append_right _ (List.mem_singleton_self snap), ?_⟩
  have hholds : HoldsPrefix catalogEffect [] [notesEntry 1] (dataHandle (some .file)) 1 (c.node true) :=
    ⟨_, hshows, rfl, rfl, rfl⟩
  rw [hholds.consistentCut_iff hbuild]
  rintro ⟨v, hv, hlog, -⟩
  obtain rfl := hv.unique hshows
  cases hlog

end Replicat
