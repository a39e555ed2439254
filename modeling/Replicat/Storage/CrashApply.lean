import Replicat.Storage.Catalog

/-!
# Applying entries across crashes

A run of one node: it opens its store, is handed the entries after the reloaded
`last_applied_log` in batches, and may crash after any action, while opening as well as while
applying. `CrashRun` takes the crash points that are allowed as a parameter. Each entry writes
its marker in one commit and takes effect in a later one, so a crash between the two loses
the entry; `applied_exactly_once` is about the runs with no such crash.
-/

namespace Replicat

open Sqlite Atomics Atomics.Prog

variable {U : Type}

section Run

variable [Serde LogId] [Serde EffectiveMembership]

/-- The entries the caller resumes with. -/
def entriesAfter (last : Option LogId) (es : List Entry) : List Entry :=
  es.filter fun e => last.all fun l => decide (l.index < e.logId.index)

/-- The runs in which the entries `es` are handed over, with crashes after any action of
`open` and after the actions of `apply_to_state_machine` that `allowed` allows. -/
inductive CrashRun (env : Env U) (stateStore : Option StateStore) (es : List Entry)
    (allowed : List Entry → Nat → Prop) : World U → Except StorageError Unit → World U → Prop where
  | opening {w w' r} (n : Nat) :
      CrashRun env stateStore es allowed
        ((RaftStore.openStore env stateStore).run.after n w).crash r w' →
      CrashRun env stateStore es allowed w r w'
  | applying {w w₁ w' r store} {batches : List (List Entry)} (n : Nat) :
      (RaftStore.openStore env stateStore).run.exec w = (.ok store, w₁) →
      batches.flatten <+: entriesAfter w₁.lastAppliedLog es → allowed batches.flatten n →
      CrashRun env stateStore es allowed ((applyBatches env store batches).run.after n w₁).crash r w' →
      CrashRun env stateStore es allowed w r w'
  | done {w w₁ w' r store} {batches : List (List Entry)} :
      (RaftStore.openStore env stateStore).run.exec w = (.ok store, w₁) →
      batches.flatten = entriesAfter w₁.lastAppliedLog es →
      (applyBatches env store batches).run.exec w₁ = (r, w') →
      CrashRun env stateStore es allowed w r w'

end Run

/-! ## Where a crash leaves the rows -/

/-- The first `n` actions of the entries end after an entry's marker is committed and before
the entry takes effect. -/
def CutsEntry : List Entry → Nat → Prop
  | [], _ => False
  | e :: es, n => (0 < n ∧ n < 3 ∧ e.payload ≠ .blank) ∨
      ((stepsOf e).length ≤ n ∧ CutsEntry es (n - (stepsOf e).length))

/-- Within one entry the rows are those of an entry boundary, unless the entry is cut. -/
theorem sameRows_within_entry (effect : Request → U → U) (tables : U) (done : List Entry)
    {e : Entry} {n : Nat} (hn : n < (stepsOf e).length) (hcut : ¬ CutsEntry [e] n) :
    ∃ j, ((Applied.at effect tables done).after effect ((stepsOf e).take n)).SameRows
      (Applied.at effect tables (done ++ [e].take j)) := by
  have hcut : ¬ (0 < n ∧ n < 3 ∧ e.payload ≠ .blank) := fun h => hcut (.inl h)
  rcases Nat.eq_zero_or_pos n with rfl | hpos
  · exact ⟨0, by simp [Applied.after, Applied.SameRows]⟩
  refine ⟨1, ?_⟩
  rw [List.take_one, List.head?_cons, Option.toList_some]
  cases hp : e.payload with
  | blank =>
    have : n = 1 := by
      have hlen : (stepsOf e).length = 2 := by simp [stepsOf, payloadSteps, hp]
      omega
    subst this
    simp [Applied.after, Applied.SameRows, Applied.at, stepsOf, ApplyStep.onApplied, execEntry,
      Entry.membership?, hp]
  | normal req =>
    have hlen : (stepsOf e).length = 3 := by simp [stepsOf, payloadSteps, hp]
    exact absurd ⟨hpos, by omega, by simp [hp]⟩ hcut
  | membership mem =>
    have hlen : (stepsOf e).length = 4 := by simp [stepsOf, payloadSteps, hp]
    have : n = 3 := by
      by_contra hne
      exact hcut ⟨hpos, by omega, by simp [hp]⟩
    subst this
    simp [Applied.after, Applied.SameRows, Applied.at, stepsOf, payloadSteps, ApplyStep.onApplied,
      execEntry, Entry.membership?, hp]

/-- **Unless an entry is cut, the rows are those of an entry boundary.** -/
theorem sameRows_of_not_cutsEntry (effect : Request → U → U) (tables : U) (es : List Entry)
    (done : List Entry) {n : Nat} (h : ¬ CutsEntry es n) :
    ∃ j, ((Applied.at effect tables done).after effect ((es.flatMap stepsOf).take n)).SameRows
      (Applied.at effect tables (done ++ es.take j)) := by
  induction es generalizing done n with
  | nil => exact ⟨0, by simp [Applied.after, Applied.SameRows]⟩
  | cons e es ih =>
    rw [List.flatMap_cons]
    rcases Nat.lt_or_ge n (stepsOf e).length with hn | hn
    · have hcut : ¬ CutsEntry [e] n := by
        rintro (hcut | ⟨hle, -⟩)
        · exact h (.inl hcut)
        · omega
      obtain ⟨j, hj⟩ := sameRows_within_entry effect tables done hn hcut
      rw [List.take_append_of_le_length hn.le]
      rcases j with _ | j
      · exact ⟨0, by simpa using hj⟩
      · exact ⟨1, by simpa using hj⟩
    · obtain ⟨j, hj⟩ := ih (done ++ [e]) fun hc => h (.inr ⟨hn, hc⟩)
      refine ⟨j + 1, ?_⟩
      rw [List.take_append, List.take_of_length_le hn, Applied.after_append,
        Applied.at_after_stepsOf]
      simpa using hj

/-! ## One life -/

/-- After the entries up to some boundary the caller resumes with the rest. -/
theorem entriesAfter_lastLogId? {es : List Entry}
    (hes : es.Pairwise (·.logId.index < ·.logId.index)) (k : Nat) :
    entriesAfter (lastLogId? (es.take k)) es = es.drop k := by
  rcases List.eq_nil_or_concat (es.take k) with hnil | ⟨done, last, htake⟩
  · have hdrop := List.take_append_drop k es
    rw [hnil, List.nil_append] at hdrop
    simp [hnil, lastLogId?, entriesAfter, hdrop]
  · have hsplit : es = (done ++ [last]) ++ es.drop k := by
      rw [← List.concat_eq_append, ← htake, List.take_append_drop]
    rw [hsplit, List.pairwise_append, List.pairwise_append] at hes
    obtain ⟨⟨-, -, hdone⟩, -, hrest⟩ := hes
    rw [htake, List.concat_eq_append, lastLogId?_append_singleton]
    conv_lhs => rw [hsplit]
    unfold entriesAfter
    rw [List.filter_append, List.filter_eq_nil_iff.2, List.nil_append, List.filter_eq_self.2]
    · intro e he
      have := hrest last (by simp) e he
      simpa using this
    · intro e he
      rcases List.mem_append.1 he with he | he
      · have := hdone e he last (by simp)
        simp only [Option.all_some, decide_eq_true_eq, UInt64.lt_iff_toNat_lt] at this ⊢
        omega
      · rw [List.mem_singleton.1 he]
        simp

theorem take_append_take_of_prefix {es xs : List Entry} {k : Nat} (h : xs <+: es.drop k) (j : Nat) :
    ∃ k', es.take k ++ xs.take j = es.take k' := by
  have hprefix : es.take k ++ xs.take j <+: es.take k ++ es.drop k :=
    (List.prefix_append_right_inj _).2 ((List.take_prefix j xs).trans h)
  rw [List.take_append_drop] at hprefix
  exact ⟨_, List.prefix_iff_eq_take.1 hprefix⟩

section Life

variable [Serde LogId] [Serde EffectiveMembership] {env : Env U} {effect : Request → U → U}

/-- The actions of the entries leave the connection on its file. -/
theorem backing_replay (data : StorageHandle) (steps : List ApplyStep) (w : World U) :
    ((replay (steps.map (ApplyStep.onWorld env data)) w).conn data).backing =
      (w.conn data).backing := by
  induction steps generalizing w with
  | nil => rfl
  | cons st steps ih =>
    rw [List.map_cons, replay_cons, ih]
    cases st <;> simp only [ApplyStep.onWorld, World.mapDb, World.runOn, World.conn_setConn_self,
      Connection.backing_step]
    all_goals cases data <;> rfl

/-- On a file, what a later `open` finds is what the state machine shows. -/
theorem Shows.finds {stateStore : Option StateStore} {v : Applied U} {w : World U}
    (h : Shows (dataHandle stateStore) v w) (hfile : stateStore ≠ some .memory)
    (hb : (w.conn (dataHandle stateStore)).backing = .disk) :
    Finds env stateStore (Stored v) w := by
  obtain ⟨d, t, hr, -, hs⟩ := h.reads
  refine ⟨h.faults, ?_⟩
  have hd : (w.conn (dataHandle stateStore)).durable = some d := Connection.durable_of_disk hb hr
  have hfound : foundData env stateStore w = atRest d := by
    rcases stateStore with _ | _ | _
    · exact congrArg (Option.elim · _ _) hd
    · exact absurd rfl hfile
    · exact congrArg (Option.elim · _ _) hd
  rw [hfound]
  exact hs.atRest

omit [Serde LogId] [Serde EffectiveMembership] in
theorem backing_opened {stateStore : Option StateStore} {v : Applied U} {w : World U}
    (hfile : stateStore ≠ some .memory) :
    ((opened env stateStore v w).conn (dataHandle stateStore)).backing = .disk := by
  rcases stateStore with _ | _ | _
  · rfl
  · exact absurd rfl hfile
  · rfl

/-- What a crash after `n` actions leaves behind. -/
theorem applyBatches_after {stateStore : Option StateStore} (hfile : stateStore ≠ some .memory)
    {tables : U} {done : List Entry} {batches : List (List Entry)} {w : World U}
    (hc : Confined env effect (execEntries effect tables done) batches.flatten)
    (h : Finds env stateStore (Stored (Applied.at effect tables done)) w) (n : Nat) :
    Finds env stateStore (Stored ((Applied.at effect tables done).after effect
        ((batches.flatten.flatMap stepsOf).take n)))
      ((applyBatches env ⟨.logDb, dataHandle stateStore⟩ batches).run.after n
        (opened env stateStore (Applied.at effect tables done) w)) := by
  have hshows := opened_shows h rfl rfl
  have hsteps := Confined.stepsRun (v := Applied.at effect tables done) hc
  rw [(applyBatches_follows ⟨.logDb, dataHandle stateStore⟩ hc).after (hshows.moves hsteps) n,
    map_does_applyMoves, ← List.map_take]
  exact (hshows.replay (hsteps.take n)).finds hfile (by rw [backing_replay]; exact backing_opened hfile)

theorem applyBatches_exec {stateStore : Option StateStore} {tables : U} {done : List Entry}
    {batches : List (List Entry)} {w : World U}
    (hc : Confined env effect (execEntries effect tables done) batches.flatten)
    (h : Shows (dataHandle stateStore) (Applied.at effect tables done) w) :
    ∃ w', (applyBatches env ⟨.logDb, dataHandle stateStore⟩ batches).run.exec w = (.ok (), w') ∧
      Shows (dataHandle stateStore) (Applied.at effect tables (done ++ batches.flatten)) w' := by
  have hsteps := Confined.stepsRun (v := Applied.at effect tables done) hc
  obtain ⟨⟨_, hr, -⟩, hw'⟩ :=
    (applyBatches_follows ⟨.logDb, dataHandle stateStore⟩ hc).exec (h.moves hsteps)
  rw [map_does_applyMoves] at hw'
  refine ⟨_, Prod.ext hr hw', ?_⟩
  rw [← Applied.at_after]
  exact h.replay hsteps

/-- **In every run with no crash between an entry's marker and its effect, each entry is
applied exactly once.** -/
theorem applied_exactly_once {stateStore : Option StateStore} (hfile : stateStore ≠ some .memory)
    {es : List Entry} (hes : es.Pairwise (·.logId.index < ·.logId.index))
    {tables : U} (hc : Confined env effect tables es) {w w' : World U} {r : Except StorageError Unit}
    (hnew : Finds env stateStore (Stored (Applied.at effect tables [])) w)
    (hrun : CrashRun env stateStore es (fun es n => ¬ CutsEntry es n) w r w') :
    r = .ok () ∧ Shows (dataHandle stateStore) (Applied.at effect tables es) w' := by
  -- Every life finds the rows of some prefix of the entries.
  suffices h : ∀ k, Finds env stateStore (Stored (Applied.at effect tables (es.take k))) w →
      r = .ok () ∧ Shows (dataHandle stateStore) (Applied.at effect tables es) w' from
    h 0 (by simpa using hnew)
  clear hnew
  induction hrun with
  | opening n _ ih =>
    intro k hk
    have hopen : (RaftStore.openStore env stateStore).run.Within
        (Keeps (Finds env stateStore (Stored (Applied.at effect tables (es.take k))))) :=
      within_openStore (fun _ h => h.withKv) fun _ h => h.withLogs
    exact ih k (hopen.after n _ hk).crash
  | applying n hopen hprefix hcut _ ih =>
    intro k hk
    rw [openStore_exec hk.1 hk.2] at hopen
    cases hopen
    change _ <+: entriesAfter (lastLogId? (es.take k)) es at hprefix
    rw [entriesAfter_lastLogId? hes] at hprefix
    have hafter := applyBatches_after hfile ((hc.drop k).of_isPrefix hprefix) hk n
    obtain ⟨j, hj⟩ := sameRows_of_not_cutsEntry effect tables _ (es.take k) hcut
    obtain ⟨k', hk'⟩ := take_append_take_of_prefix hprefix j
    rw [hk'] at hj
    exact ih k' (Finds.crash ⟨hafter.1, hj.stored hafter.2⟩)
  | done hopen hall hexec =>
    intro k hk
    rw [openStore_exec hk.1 hk.2] at hopen
    cases hopen
    change _ = entriesAfter (lastLogId? (es.take k)) es at hall
    rw [entriesAfter_lastLogId? hes] at hall
    obtain ⟨w'', hexec', hshows⟩ := applyBatches_exec (hall ▸ hc.drop k) (opened_shows hk rfl rfl)
    rw [hexec'] at hexec
    cases hexec
    rw [hall, List.take_append_drop] at hshows
    exact ⟨rfl, hshows⟩

end Life

/-- Two entries with a crash between them: both tables are there. -/
theorem applied_exactly_once_catalog :
    ∃ r w', CrashRun catalogEnv (some .file) [notesEntry 1, usersEntry 2]
        (fun es n => ¬ CutsEntry es n) World.fresh r w' ∧
      r = .ok () ∧ Shows .stateDb (Applied.at catalogEffect [] [notesEntry 1, usersEntry 2]) w' := by
  have hc : Confined catalogEnv catalogEffect [] [notesEntry 1, usersEntry 2] :=
    confined_catalog (by simp [notesEntry, usersEntry]) []
  have hnew := finds_fresh catalogEnv catalogEffect (some .file)
  have hbatch : Confined catalogEnv catalogEffect [] [[notesEntry 1]].flatten := hc.take 1
  have hcrash := (applyBatches_after (by decide) hbatch hnew 3).crash
  have hrows : ((Applied.at catalogEffect [] []).after catalogEffect
      ((stepsOf (notesEntry 1)).take 3)).SameRows (Applied.at catalogEffect [] [notesEntry 1]) :=
    ⟨rfl, rfl, rfl⟩
  have hfinds : Finds catalogEnv (some .file) (Stored (Applied.at catalogEffect [] [notesEntry 1])) _ :=
    ⟨hcrash.1, hrows.stored hcrash.2⟩
  have hlast : Confined catalogEnv catalogEffect _ [[usersEntry 2]].flatten := hc.drop 1
  obtain ⟨w', hexec, -⟩ := applyBatches_exec hlast (opened_shows hfinds rfl rfl)
  have hcut : ¬ CutsEntry [[notesEntry 1]].flatten 3 := by
    simp [CutsEntry]
  have hrun : CrashRun catalogEnv (some .file) [notesEntry 1, usersEntry 2]
      (fun es n => ¬ CutsEntry es n) World.fresh (.ok ()) w' :=
    .applying 3 (openStore_exec hnew.1 hnew.2) (List.prefix_append _ [usersEntry 2]) hcut
      (.done (openStore_exec hfinds.1 hfinds.2) rfl hexec)
  exact ⟨_, w', hrun, applied_exactly_once (by decide) (by simp; decide) hc hnew hrun⟩

/-- A crash right after the marker of the only entry: the store reopens behind it, and the
table it creates is missing for good. -/
theorem crash_after_marker_loses_entry :
    Confined catalogEnv catalogEffect [] [notesEntry 1] ∧
      ∃ r w' d, CrashRun catalogEnv (some .file) [notesEntry 1] (fun _ _ => True) World.fresh r w' ∧
        w'.Reads .stateDb d ∧ d.user ≠ execEntries catalogEffect [] [notesEntry 1] := by
  have hc : Confined catalogEnv catalogEffect [] [notesEntry 1] := confined_catalog (by simp [notesEntry]) []
  have hnew := finds_fresh catalogEnv catalogEffect (some .file)
  have hbatch : Confined catalogEnv catalogEffect [] [[notesEntry 1]].flatten := hc
  have hcrash := (applyBatches_after (by decide) hbatch hnew 1).crash
  -- What the rows say after the marker task alone.
  let v : Applied Catalog := ⟨[], some (logIdAt 1), none, some (logIdAt 1), default⟩
  have hrows : ((Applied.at catalogEffect [] []).after catalogEffect
      ((stepsOf (notesEntry 1)).take 1)).SameRows v := ⟨rfl, rfl, rfl⟩
  have hfinds : Finds catalogEnv (some .file) (Stored v) _ := ⟨hcrash.1, hrows.stored hcrash.2⟩
  obtain ⟨d, t, hr, -, hs⟩ := (opened_shows hfinds rfl rfl).reads
  refine ⟨hc, .ok (), _, d, .applying 1 (openStore_exec hnew.1 hnew.2) List.prefix_rfl trivial
    (.done (openStore_exec hfinds.1 hfinds.2) (show [].flatten = _ from rfl) rfl), hr, ?_⟩
  rw [hs.tables]
  decide

end Replicat
