import Replicat.Storage.PurgeMark

/-!
# The log half at the ends of `u64`

An index of the log is a `u64` that SQLite keeps as a signed integer, and `logs_query` moves the
bounds of a range by one. `range_exact_iff`: the two ranges it gets wrong are the ones that
exclude the last number from below or the first from above. `takes_id_iff`: an entry can be
stored exactly when the three numbers of its id are below `2 ^ 63`.
-/

namespace Replicat

open Sqlite Atomics Atomics.Prog LogWrite

variable {U : Type}

/-! ## Ranges -/

section Ranges

variable [Serde LogId] [Serde Vote] [Serde Entry] {env : Env U} {startBound endBound : Bound}

def maxIndex : UInt64 := UInt64.ofNat (2 ^ 64 - 1)

/-- Whatever the build checks, the query's bounds are computed without overflow and select the
range, and reading a log returns the entries of the range. -/
structure RangeExact (env : Env U) (startBound endBound : Bound) : Prop where
  selects : ∀ checks, ∃ query, logsQuery checks startBound endBound = some query ∧
    ∀ i, i < 2 ^ 63 → ((query.1 ≤ i ∧ i ≤ query.2) ↔ InRange startBound endBound i)
  reads : ∀ {store s w}, HoldsHard store s w → ∀ checks, ∃ p es,
    store.tryGetLogEntries env checks startBound endBound = some p ∧ resultOf p w = .ok es ∧
      ∀ i e, (e ∈ es ∧ e.index = i) ↔ (s.log.entries i = some e ∧ InRange startBound endBound i)

omit [Serde LogId] [Serde Vote] [Serde Entry] in
theorem atLeast_of_ne (h : startBound ≠ .excluded maxIndex) : ∃ i, i < 2 ^ 64 ∧ AtLeast startBound i := by
  cases startBound with
  | included x => exact ⟨x.toNat, x.toNat_lt, Nat.le_refl _⟩
  | excluded x =>
    refine ⟨x.toNat + 1, ?_, Nat.lt_succ_self _⟩
    have hne : x.toNat ≠ 2 ^ 64 - 1 := fun hx => h (congrArg Bound.excluded (UInt64.toNat_inj.1 hx))
    have hlt := x.toNat_lt
    omega
  | unbounded => exact ⟨0, by decide, trivial⟩

omit [Serde LogId] [Serde Vote] [Serde Entry] in
theorem atMost_of_ne (h : endBound ≠ .excluded 0) : ∃ i, AtMost endBound i := by
  cases endBound with
  | included x => exact ⟨x.toNat, Nat.le_refl _⟩
  | excluded x =>
    refine ⟨0, Nat.pos_of_ne_zero fun hx => h (congrArg Bound.excluded (UInt64.toNat_inj.1 hx))⟩
  | unbounded => exact ⟨0, trivial⟩

/-- **Which ranges are exact**: all but those that start after the last number or end before the
first. -/
theorem range_exact_iff (env : Env U) (startBound endBound : Bound) :
    RangeExact env startBound endBound ↔ startBound ≠ .excluded maxIndex ∧ endBound ≠ .excluded 0 := by
  constructor
  · intro h
    obtain ⟨query, hquery, -⟩ := h.selects true
    constructor
    · rintro rfl
      cases hquery
    · rintro rfl
      unfold logsQuery at hquery
      cases hstart : queryStart true startBound <;> rw [hstart] at hquery <;> cases hquery
  · rintro ⟨hstart, hend⟩
    have hquery := fun checks => logsQuery_of_admits checks (atLeast_of_ne hstart) (atMost_of_ne hend)
    refine ⟨hquery, fun {store s w} h checks => ?_⟩
    obtain ⟨d, hr, hd, -⟩ := (HoldsHard.withFaults []).2 h
    obtain ⟨t, ht, hrows⟩ := hd.rows
    obtain ⟨p, es, hp, hexec, -, hmem⟩ := tryGetLogEntries_selected rfl hr ht hrows hd.keyed (hquery checks)
    exact ⟨p, es, hp, congrArg Prod.fst hexec, hmem⟩

end Ranges

/-- With overflow checks the range `(Excluded(u64::MAX), Unbounded)` panics; without them it
selects every index, and it contains none. -/
theorem excluded_max_not_exact :
    logsQuery true (.excluded maxIndex) .unbounded = none ∧
    logsQuery false (.excluded maxIndex) .unbounded = some (0, 2 ^ 63 - 1) ∧
    ¬ InRange (.excluded maxIndex) .unbounded 5 ∧
    ¬ RangeExact catalogEnv (.excluded maxIndex) .unbounded := by
  have hout : ¬ maxIndex.toNat < 5 := by decide
  refine ⟨rfl, rfl, fun h => hout h.1, fun h => ?_⟩
  obtain ⟨query, hquery, -⟩ := h.selects true
  cases hquery

/-! ## Ids -/

section Ids

variable [Serde LogId] [Serde Vote] [Serde Entry] {env : Env U} {store : RaftStore} {s : HardState}
  {w : World U} {e : Entry}

/-- Every read of the whole log comes back empty. -/
def ReadsNothing (env : Env U) (store : RaftStore) (w : World U) : Prop :=
  ∀ checks, ∃ p, store.tryGetLogEntries env checks .unbounded .unbounded = some p ∧ resultOf p w = .ok []

theorem HoldsHard.readsNothing (h : HoldsHard store s w) (hempty : s.log.Empty) :
    ReadsNothing env store w := by
  intro checks
  have hserves : Serves env store s w := h.serves
  obtain ⟨p, es, hp, hes, hmem⟩ := hserves.entries checks .unbounded .unbounded ⟨0, by decide, trivial, trivial⟩
  have hnil : es = [] := by
    refine List.eq_nil_iff_forall_not_mem.2 fun e he => hempty e.index ?_
    exact Option.isSome_iff_exists.2 ⟨e, ((hmem e.index e).1 ⟨he, rfl⟩).1⟩
  rw [hnil] at hes
  exact ⟨p, hp, hes⟩

/-- The entry can be appended, its id is then the last one, and the two ways of deleting it take
the id and remove the entry. No task of the four calls is failed by the storage. -/
def TakesId (env : Env U) (store : RaftStore) (e : Entry) (w : World U) : Prop :=
  ∃ w₁, (store.appendToLog [e]).run.exec (w.withFaults []) = (.ok (), w₁) ∧
    (∃ state, resultOf store.getLogState w₁ = .ok state ∧ state.lastLogId = some e.logId) ∧
    (∃ w₂, (store.deleteConflictLogsSince e.logId).run.exec (w₁.withFaults []) = (.ok (), w₂) ∧
      ReadsNothing env store w₂) ∧
    ∃ w₂, (store.purgeLogsUpto e.logId).run.exec (w₁.withFaults []) = (.ok (), w₂) ∧
      ReadsNothing env store w₂

omit [Serde LogId] [Serde Vote] [Serde Entry] in
theorem through_nil_faults {as : List LogWrite} (h : ∀ a ∈ as, a.Fits) : through as [] = as := by
  induction as with
  | nil => rfl
  | cons a as ih =>
    unfold through
    rw [if_pos ⟨rfl, h a List.mem_cons_self⟩, List.tail_nil, ih fun a ha => h a (List.mem_cons_of_mem _ ha)]

/-- Writes that fit are all committed on a sound storage. -/
theorem HoldsHard.commitAll (h : HoldsHard store s w) {as : List LogWrite} (hfits : ∀ a ∈ as, a.Fits) :
    ∃ w', (Replicat.commitAll store as).run.exec (w.withFaults []) = (.ok (), w') ∧
      HoldsHard store (s.after as) w' := by
  obtain ⟨r, w', hexec, hw', hok⟩ := exec_commitAll as ((HoldsHard.withFaults []).2 h)
  rw [World.faults_withFaults, through_nil_faults hfits] at hw' hok
  obtain rfl := hok.2 rfl
  exact ⟨w', hexec, hw'⟩

variable [Serde EffectiveMembership] [Serde SnapshotMeta]

/-- **Which ids the log takes**: those whose three numbers are signed 64-bit integers. -/
theorem takes_id_iff (h : HoldsHard store s w) (hempty : s.log.Empty) :
    TakesId env store e w ↔ e.logId.Fits := by
  have happend : store.appendToLog [e] = commitAll store [.entry e] :=
    show (StoreCall.appendToLog [e]).run env _ = _ from run_eq_commitAll rfl
  constructor
  · rintro ⟨w₁, hrun, -⟩
    obtain ⟨r, w', hexec, -, hok⟩ := exec_commitAll [.entry e] ((HoldsHard.withFaults []).2 h)
    rw [happend, hexec] at hrun
    cases hrun
    have hthrough := hok.1 rfl
    unfold through at hthrough
    by_contra hunfit
    rw [if_neg fun hif => hunfit hif.2] at hthrough
    cases hthrough
  · intro hfits
    obtain ⟨w₁, hrun, hw₁⟩ := h.commitAll (show ∀ a ∈ [LogWrite.entry e], a.Fits by simpa [LogWrite.Fits] using hfits)
    have honly : ∀ i, (s.after [.entry e]).log.Holds i → i = e.index := fun i hi =>
      (AbstractLog.holds_put.1 hi).resolve_right (hempty i)
    refine ⟨w₁, by rw [happend, hrun], ?_, ?_, ?_⟩
    · have hserves : Serves env store _ w₁ := hw₁.serves
      obtain ⟨last, hstate, hlast⟩ := hserves.state
      refine ⟨_, hstate, ?_⟩
      rcases hlast with ⟨hnone, -⟩ | ⟨i, e', he', -, rfl⟩
      · exact absurd (AbstractLog.holds_put.2 (.inl rfl)) (hnone e.index)
      · obtain rfl := honly i (Option.isSome_iff_exists.2 ⟨e', he'⟩)
        have hself : (s.after [.entry e]).log.entries e.index = some e := s.log.entries_put_self e
        rw [hself] at he'
        cases he'
        rfl
    · have hdelete : store.deleteConflictLogsSince e.logId = commitAll store [.deleteSince e.logId] :=
        show (StoreCall.deleteConflictLogsSince e.logId).run env _ = _ from run_eq_commitAll rfl
      obtain ⟨w₂, hrun₂, hw₂⟩ := hw₁.commitAll
        (show ∀ a ∈ [LogWrite.deleteSince e.logId], a.Fits by simpa [LogWrite.Fits] using hfits.1)
      refine ⟨w₂, by rw [hdelete, hrun₂], hw₂.readsNothing fun i hi => ?_⟩
      obtain ⟨hlt, hheld⟩ := AbstractLog.holds_deleteFrom.1 hi
      exact absurd hlt (by rw [honly i hheld]; exact Nat.lt_irrefl _)
    · have hpurge : store.purgeLogsUpto e.logId = commitAll store [.marker e.logId, .deleteUpto e.logId] :=
        show (StoreCall.purgeLogsUpto e.logId).run env _ = _ from run_eq_commitAll rfl
      obtain ⟨w₂, hrun₂, hw₂⟩ := hw₁.commitAll
        (show ∀ a ∈ [LogWrite.marker e.logId, .deleteUpto e.logId], a.Fits by simpa [LogWrite.Fits] using hfits.1)
      refine ⟨w₂, by rw [hpurge, hrun₂], hw₂.readsNothing fun i hi => ?_⟩
      obtain ⟨hlt, hheld⟩ := AbstractLog.holds_purgeUpto.1 hi
      exact absurd hlt (by rw [honly i hheld]; exact Nat.lt_irrefl _)

end Ids

/-- An id whose node id is the first number that is no signed integer. -/
def wideEntry : Entry := ⟨⟨⟨1, UInt64.ofNat (2 ^ 63)⟩, 1⟩, .blank⟩

theorem takes_id_iff_catalog : ∃ w,
    (RaftStore.openStore catalogEnv none).run.exec World.fresh = (.ok (storeOf none), w) ∧
    (TakesId catalogEnv (storeOf none) (notesEntry 1) w ↔ (notesEntry 1).logId.Fits) := by
  obtain ⟨w, hopen, hnode, -⟩ := openStore_fresh catalogEnv none
  exact ⟨w, hopen, takes_id_iff hnode.hard fun i hi => nomatch hi⟩

/-- A cluster with that node id: its first entry cannot be appended. -/
theorem wide_id_refused : ∃ w,
    (RaftStore.openStore catalogEnv none).run.exec World.fresh = (.ok (storeOf none), w) ∧
    (∃ e w', ((storeOf none).appendToLog [wideEntry]).run.exec (w.withFaults []) = (.error e, w')) ∧
    ¬ TakesId catalogEnv (storeOf none) wideEntry w := by
  obtain ⟨w, hopen, hnode, -⟩ := openStore_fresh catalogEnv none
  obtain ⟨r, w', hexec, -, hok⟩ := exec_commitAll [.entry wideEntry] ((HoldsHard.withFaults []).2 hnode.hard)
  have happend : (storeOf none).appendToLog [wideEntry] = commitAll (storeOf none) [.entry wideEntry] :=
    show (StoreCall.appendToLog [wideEntry]).run catalogEnv _ = _ from run_eq_commitAll rfl
  have hthrough : through [.entry wideEntry] (w.withFaults []).faults = [] := by
    rw [World.faults_withFaults]
    decide
  rcases r with e | ⟨⟩
  · refine ⟨w, hopen, ⟨e, w', by rw [happend, hexec]⟩, ?_⟩
    rintro ⟨w₁, hrun, -⟩
    rw [happend, hexec] at hrun
    cases hrun
  · have := hok.1 rfl
    rw [hthrough] at this
    cases this

end Replicat
