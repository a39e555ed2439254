import Replicat.Storage.SnapshotCut

/-!
# What a client's statement can do to the apply loop

A client's statement is committed before any replica runs it, and the loop returns its error
as an error of the storage. `TurnOk` is when the turn of one entry passes; on a storage that
does not fail `apply_to_state_machine` returns `Ok` exactly when every turn does.
-/

namespace Replicat

open Sqlite Atomics Atomics.Prog

variable {U α β ε : Type}

/-- The statement ran to its end and returned no rows. -/
def Succeeds (r : Except Failure Output) : Prop := ∃ n, r = .ok ⟨[], n⟩

/-! ## When a program passes -/

/-- Where the storage does not fail and `h` is in the session `s`, the program returns a value
exactly when `ok`; the value satisfies `Q` and the session is then `s'`. -/
def PassesIff (h : StorageHandle) (s : Session (Database U)) (p : StoreM U ε α) (ok : Prop)
    (Q : α → Prop) (s' : Session (Database U)) : Prop :=
  ∀ w, w.faults = [] → (w.conn h).session = some s →
    (ok ∧ ∃ a w', p.run.exec w = (.ok a, w') ∧ Q a ∧ w'.faults = [] ∧ (w'.conn h).session = some s') ∨
    (¬ ok ∧ ∃ e w', p.run.exec w = (.error e, w'))

section Passes

variable {h : StorageHandle} {s s' s'' : Session (Database U)} {ok ok' : Prop} {Q : α → Prop}
  {Q' : β → Prop}

theorem PassesIff.congr {p : StoreM U ε α} (hp : PassesIff h s p ok Q s') (hok : ok ↔ ok') :
    PassesIff h s p ok' Q s' := by
  rwa [← propext hok]

theorem PassesIff.bind {p : StoreM U ε α} {k : α → StoreM U ε β} (hp : PassesIff h s p ok Q s')
    (hk : ok → ∀ a, Q a → PassesIff h s' (k a) ok' Q' s'') :
    PassesIff h s (p >>= k) (ok ∧ ok') Q' s'' := by
  intro w hf hs
  rcases hp w hf hs with ⟨hok, a, w₁, hexec, ha, hf₁, hs₁⟩ | ⟨hno, e, w₁, hexec⟩
  · rw [exec_run_bind_ok hexec]
    rcases hk hok a ha w₁ hf₁ hs₁ with ⟨hok', hrest⟩ | ⟨hno', hrest⟩
    · exact .inl ⟨⟨hok, hok'⟩, hrest⟩
    · exact .inr ⟨fun hboth => hno' hboth.2, hrest⟩
  · exact .inr ⟨fun hboth => hno hboth.1, e, w₁, exec_run_bind_error hexec⟩

theorem passes_pure {a : α} (ha : Q a) : PassesIff h s (pure a : StoreM U ε α) True Q s :=
  fun w hf hs => .inl ⟨trivial, a, w, rfl, ha, hf, hs⟩

theorem passes_encode [Serde α] (g : AnyError → ε) (v : α) :
    PassesIff h s (encode g v) True (fun data => data = encoded v) s :=
  fun w hf hs => .inl ⟨trivial, _, w, exec_encode g v w, rfl, hf, hs⟩

theorem passes_field {f : World U → World U}
    (hf : ∀ w : World U, (f w).faults = w.faults ∧ (f w).conn h = w.conn h) :
    PassesIff h s (liftAct fun w => ((), f w) : StoreM U ε Unit) True (fun _ => True) s := by
  intro w hfaults hs
  refine .inl ⟨trivial, (), f w, rfl, trivial, ?_, ?_⟩
  · rw [(hf w).1, hfaults]
  · rw [(hf w).2, hs]

/-- A write task passes exactly when its statement succeeds. -/
theorem passes_execute (g : AnyError → ε) (stmt : Prepared (Database U)) :
    PassesIff h s (task g (h.execute stmt)) (Succeeds (stmt s).2) (fun _ => True) (stmt s).1 := by
  intro w hf hs
  have hexec : (h.execute stmt).run.exec w = (Connection.executed (stmt s).2,
      w.setConn h { w.conn h with session := some (stmt s).1 }) := by
    rw [StorageHandle.execute, StorageHandle.exec_submitTask hf]
    simp [Connection.execute, Connection.step_some hs]
  unfold task
  rw [exec_run_mapErr, hexec]
  cases hr : Connection.executed (stmt s).2 with
  | ok n => exact .inl ⟨⟨n, Connection.executed_ok_iff.1 hr⟩, n, _, rfl, trivial, by simpa using hf, by simp⟩
  | error e =>
    refine .inr ⟨?_, _, _, rfl⟩
    rintro ⟨n, hn⟩
    cases hr.symm.trans (Connection.executed_ok_iff.2 hn)

/-- A row is written exactly where the database lets it be. -/
theorem passes_upsert (g : AnyError → ε) (key : String) (v : Value) :
    PassesIff h s (task g (h.execute (.onMain (replicatKvUpsert key v)))) (s.main.Writable key)
      (fun _ => True) { s with main := s.main.putKv key v } := by
  intro w hf hs
  unfold task
  rw [exec_run_mapErr]
  rcases exec_upsert_cases h key v w with ⟨s', -, hs', hw, hexec⟩ | ⟨hfails, e, hexec⟩ <;> rw [hexec]
  · obtain rfl : s = s' := Option.some.inj (hs.symm.trans hs')
    rw [World.nextFault_nil hf]
    exact .inl ⟨hw, 1, _, rfl, trivial, by simpa using hf, by simp⟩
  · refine .inr ⟨?_, _, _, rfl⟩
    rcases hfails with hfault | hno
    · rw [World.nextFault_nil hf] at hfault
      cases hfault
    · exact hno s hs

end Passes

/-! ## One turn of the loop -/

section Turn

variable [Serde LogId] [Serde EffectiveMembership]

/-- The session when the payload of an entry is reached. -/
def marked (s : Session (Database U)) (e : Entry) : Session (Database U) :=
  { s with main := s.main.putKv lastLogKey (.blob (encoded e.logId)) }

/-- The session after the payload. -/
def paid (env : Env U) (s : Session (Database U)) (e : Entry) : Session (Database U) :=
  match e.payload with
  | .blank => s
  | .normal req => (RaftStore.clientStatement env req s).1
  | .membership mem =>
    { s with
      main := s.main.putKv lastMembershipKey (.blob (encoded (⟨some e.logId, mem⟩ : EffectiveMembership))) }

/-- The session after the turn of an entry. -/
def turn (env : Env U) (s : Session (Database U)) (e : Entry) : Session (Database U) :=
  paid env (marked s e) e

/-- The marker can be written, the statement of a `Normal` entry succeeds, and the row of a
`Membership` entry can be written. -/
def TurnOk (env : Env U) (s : Session (Database U)) (e : Entry) : Prop :=
  s.main.Writable lastLogKey ∧
    (∀ req, e.payload = .normal req → Succeeds (RaftStore.clientStatement env req (marked s e)).2) ∧
    ∀ mem, e.payload = .membership mem → (marked s e).main.Writable lastMembershipKey

/-- Every turn passes, on the session the turns before it leave. -/
def TurnsOk (env : Env U) (s : Session (Database U)) (es : List Entry) : Prop :=
  ∀ i e, es[i]? = some e → TurnOk env ((es.take i).foldl (turn env) s) e

theorem turnsOk_cons (env : Env U) (s : Session (Database U)) (e : Entry) (es : List Entry) :
    TurnsOk env s (e :: es) ↔ TurnOk env s e ∧ TurnsOk env (turn env s e) es := by
  refine ⟨fun h => ⟨h 0 e rfl, fun i e' he' => h (i + 1) e' he'⟩, ?_⟩
  rintro ⟨hfirst, hrest⟩ (_ | i) e' he'
  · obtain rfl : e = e' := Option.some.inj he'
    exact hfirst
  · exact hrest i e' he'

theorem turnsOk_singleton {env : Env U} {s : Session (Database U)} {e : Entry} :
    TurnsOk env s [e] ↔ TurnOk env s e := by
  rw [turnsOk_cons]
  exact and_iff_left (by simp [TurnsOk])

variable {env : Env U} {store : RaftStore} {s : Session (Database U)}

omit [Serde LogId] [Serde EffectiveMembership] in
/-- A row of the state machine and the field beside it. -/
theorem passes_setRow [Serde α] (key : String) (v : α) {f : World U → World U}
    (hf : ∀ w : World U, (f w).faults = w.faults ∧ (f w).conn store.data = w.conn store.data) :
    PassesIff store.data s (do
        let raw ← encode storeWriteError v
        let _ ← task storeWriteError (store.data.execute (.onMain (replicatKvUpsert key (.blob raw))))
        liftAct fun w => ((), f w) : StorageResult U Unit) (s.main.Writable key)
      (fun _ => True) { s with main := s.main.putKv key (.blob (encoded v)) } := by
  refine PassesIff.congr ((passes_encode _ _).bind ?_) (and_iff_right trivial)
  rintro - _ rfl
  exact PassesIff.congr ((passes_upsert _ _ _).bind fun _ _ _ => passes_field hf) (and_iff_left trivial)

omit [Serde EffectiveMembership] in
theorem passes_setLastAppliedLog (log : LogId) :
    PassesIff store.data s (StateMachine.setLastAppliedLog store.data log) (s.main.Writable lastLogKey)
      (fun _ => True) { s with main := s.main.putKv lastLogKey (.blob (encoded log)) } :=
  passes_setRow lastLogKey log fun w => ⟨rfl, by cases store.data <;> rfl⟩

omit [Serde LogId] in
theorem passes_setLastMembership (mem : EffectiveMembership) :
    PassesIff store.data s (StateMachine.setLastMembership store.data mem) (s.main.Writable lastMembershipKey)
      (fun _ => True) { s with main := s.main.putKv lastMembershipKey (.blob (encoded mem)) } :=
  passes_setRow lastMembershipKey mem fun w => ⟨rfl, by cases store.data <;> rfl⟩

omit [Serde LogId] in
theorem passes_applyPayload (e : Entry) :
    PassesIff store.data s (RaftStore.applyPayload env store e)
      ((∀ req, e.payload = .normal req → Succeeds (RaftStore.clientStatement env req s).2) ∧
        ∀ mem, e.payload = .membership mem → s.main.Writable lastMembershipKey)
      (fun _ => True) (paid env s e) := by
  unfold RaftStore.applyPayload paid
  cases e.payload with
  | blank => exact (passes_pure trivial).congr (by simp)
  | normal req =>
    refine PassesIff.congr ((passes_execute _ _).bind fun _ _ _ => passes_pure trivial) ?_
    simp
  | membership mem =>
    refine PassesIff.congr ((passes_setLastMembership _).bind fun _ _ _ => passes_pure trivial) ?_
    simp

theorem passes_applyEntries (env : Env U) (store : RaftStore) (es : List Entry) (res : List Response) :
    PassesIff store.data s (store.applyEntries env es res) (TurnsOk env s es)
      (fun rs => rs.length = res.length + es.length) (es.foldl (turn env) s) := by
  induction es generalizing s res with
  | nil => exact (passes_pure (by simp)).congr (by simp [TurnsOk])
  | cons e es ih =>
    have hturn : PassesIff store.data s (store.applyEntries env (e :: es) res)
        (s.main.Writable lastLogKey ∧
          ((∀ req, e.payload = .normal req → Succeeds (RaftStore.clientStatement env req (marked s e)).2) ∧
            ∀ mem, e.payload = .membership mem → (marked s e).main.Writable lastMembershipKey) ∧
          TurnsOk env (turn env s e) es)
        (fun rs => rs.length = res.length + (e :: es).length) (es.foldl (turn env) (turn env s e)) := by
      unfold RaftStore.applyEntries
      refine (passes_setLastAppliedLog e.logId).bind fun _ _ _ => ?_
      refine (passes_applyPayload e).bind fun _ response _ => ?_
      have hrest := ih (s := turn env s e) (res ++ [response])
      rwa [List.length_append, List.length_singleton, Nat.add_assoc, Nat.add_comm 1] at hrest
    refine hturn.congr ?_
    rw [turnsOk_cons, ← and_assoc]
    rfl

/-! ### The sessions that an apply meets -/

/-- Every statement of the entries that is reached takes the contents it meets to related ones. -/
def EntriesMet (R : Database U → Database U → Prop) (env : Env U) : Session (Database U) → List Entry → Prop
  | _, [] => True
  | s, e :: es => s.main.Writable lastLogKey →
    (∀ req, e.payload = .normal req → R (marked s e).main (turn env s e).main) ∧
      (TurnOk env s e → EntriesMet R env (turn env s e) es)

/-- The handle is in some session whose contents are related to those of `s`. -/
def RelatedSession (R : Database U → Database U → Prop) (h : StorageHandle) (s : Session (Database U))
    (w : World U) : Prop :=
  ∃ s', (w.conn h).session = some s' ∧ R s.main s'.main

section Met

variable {R : Database U → Database U → Prop} [Std.Refl R] [IsTrans (Database U) R]

omit [Serde LogId] [Serde EffectiveMembership] [Std.Refl R] [IsTrans (Database U) R] in
/-- A row of the state machine and the field beside it: the row is written, or nothing is. -/
theorem triple_setRow_session [Serde α] (key : String) (v : α) {f : World U → World U}
    (hf : ∀ w : World U, (f w).conn store.data = w.conn store.data) :
    Triple (fun w => (w.conn store.data).session = some s) (do
        let raw ← encode storeWriteError v
        let _ ← task storeWriteError (store.data.execute (.onMain (replicatKvUpsert key (.blob raw))))
        liftAct fun w => ((), f w) : StorageResult U Unit)
      (fun _ w => (w.conn store.data).session =
        some { s with main := s.main.putKv key (.blob (encoded v)) } ∧ s.main.Writable key)
      (fun w => (w.conn store.data).session = some s) := by
  intro w hs
  rw [exec_run_bind_ok (exec_encode ..)]
  rcases exec_upsert_cases store.data key (.blob (encoded v)) w with
    ⟨s', -, hs', hwritable, hexec⟩ | ⟨-, e, hexec⟩
  · obtain rfl : s = s' := Option.some.inj (hs.symm.trans hs')
    refine .inl ⟨(), _, exec_run_bind_ok (exec_task hexec), ?_, hwritable⟩
    change ((f _).conn store.data).session = _
    rw [hf, World.conn_setConn_self]
  · refine .inr ⟨storeWriteError (.sql e), w.nextFault.2, exec_run_bind_error ?_, ?_⟩
    · rw [task, exec_run_mapErr, hexec]
      rfl
    · exact (congrArg Connection.session (World.conn_nextFault w store.data)).trans hs

omit [Serde LogId] [Serde EffectiveMembership] [Std.Refl R] [IsTrans (Database U) R] in
/-- A statement leaves the session it met, or the one it ends in. -/
theorem triple_execute_session (h : StorageHandle) (g : AnyError → ε) (stmt : Prepared (Database U)) :
    Triple (fun w => (w.conn h).session = some s) (task g (h.execute stmt))
      (fun _ w => (w.conn h).session = some (stmt s).1 ∧ Succeeds (stmt s).2)
      (fun w => (w.conn h).session = some s ∨ (w.conn h).session = some (stmt s).1) := by
  intro w hs
  unfold task StorageHandle.execute
  rw [exec_run_mapErr, StorageHandle.exec_submitTask_eq]
  split
  · exact .inr ⟨_, _, rfl, .inl (by rw [World.conn_nextFault, hs])⟩
  · simp only [Connection.execute, Connection.step_some hs]
    cases hr : Connection.executed (stmt s).2 with
    | ok n => exact .inl ⟨n, _, rfl, by simp, n, Connection.executed_ok_iff.1 hr⟩
    | error e => exact .inr ⟨g (.sql e), _, rfl, .inr (by simp)⟩

/-- **What all its writes and all the statements it meets relate, an apply relates**, whatever the
storage does. -/
theorem triple_applyEntries_session (hlog : ∀ (d : Database U) v, R d (d.putKv lastLogKey v))
    (hmembership : ∀ (d : Database U) v, R d (d.putKv lastMembershipKey v)) {es : List Entry}
    (res : List Response) (h : EntriesMet R env s es) :
    Triple (fun w => (w.conn store.data).session = some s) (store.applyEntries env es res)
      (fun _ => RelatedSession R store.data s) (RelatedSession R store.data s) := by
  induction es generalizing s res with
  | nil => exact triple_run_pure fun w hs => ⟨s, hs, refl_of R _⟩
  | cons e es ih =>
    have hmarked : R s.main (marked s e).main := hlog _ _
    -- What is related to later contents is related to these.
    have hback : ∀ {s' : Session (Database U)}, R s.main s'.main → ∀ w,
        RelatedSession R store.data s' w → RelatedSession R store.data s w :=
      fun h w ⟨s'', hs'', h'⟩ => ⟨s'', hs'', trans_of R h h'⟩
    have hpayload (hw : s.main.Writable lastLogKey) :
        Triple (fun w => (w.conn store.data).session = some (marked s e))
          (RaftStore.applyPayload env store e)
          (fun _ w => (w.conn store.data).session = some (turn env s e) ∧ R s.main (turn env s e).main ∧
            TurnOk env s e)
          (RelatedSession R store.data s) := by
      unfold RaftStore.applyPayload TurnOk
      cases hp : e.payload with
      | blank =>
        have hturn : turn env s e = marked s e := by
          unfold turn paid
          rw [hp]
        rw [hturn]
        exact triple_run_pure fun w hs => ⟨hs, hmarked, hw, nofun, nofun⟩
      | membership mem =>
        have hturn : turn env s e = ⟨(marked s e).main.putKv lastMembershipKey
            (.blob (encoded (⟨some e.logId, mem⟩ : EffectiveMembership))), (marked s e).saved⟩ := by
          unfold turn paid
          rw [hp]
        rw [hturn]
        refine Triple.run_bind ((triple_setRow_session lastMembershipKey _
          fun w => by cases store.data <;> rfl).conseq (fun _ hs => hs) (fun _ _ hs => hs)
          fun w hs => ⟨_, hs, hmarked⟩) fun _ => triple_run_pure ?_
        rintro w ⟨hs, hmem⟩
        exact ⟨hs, trans_of R hmarked (hmembership _ _), hw, nofun, fun _ _ => hmem⟩
      | normal req =>
        have hstmt : R s.main (turn env s e).main := trans_of R hmarked ((h hw).1 req hp)
        have hturn : turn env s e = (RaftStore.clientStatement env req (marked s e)).1 := by
          unfold turn paid
          rw [hp]
        rw [hturn] at hstmt ⊢
        refine Triple.run_bind ((triple_execute_session store.data storeWriteError _).conseq
          (fun _ hs => hs) (fun _ _ h => h) ?_) fun _ => triple_run_pure ?_
        · rintro w (hs | hs)
          · exact ⟨_, hs, hmarked⟩
          · exact ⟨_, hs, hstmt⟩
        · rintro w ⟨hs, hok⟩
          refine ⟨hs, hstmt, hw, ?_, nofun⟩
          rintro req' ⟨⟩
          exact hok
    refine Triple.run_bind ((triple_setRow_session lastLogKey e.logId
      fun w => by cases store.data <;> rfl).conseq (fun _ hs => hs) (fun _ _ hs => hs)
      fun w hs => ⟨s, hs, refl_of R _⟩) fun _ => ?_
    rintro w ⟨hs, hw⟩
    refine (hpayload hw).run_bind (fun response => ?_) w hs
    rintro w ⟨hs, hrel, hok⟩
    exact (ih (res ++ [response]) ((h hw).2 hok)).conseq (fun _ h => h) (fun _ => hback hrel) (hback hrel) w hs

end Met

/-- **The entries alone decide.** On a storage that does not fail, `apply_to_state_machine`
returns `Ok` with one response an entry exactly when every turn passes. -/
theorem applyToStateMachine_ok_iff {w : World U} (hf : w.faults = [])
    (hs : (w.conn store.data).session = some s) (es : List Entry) :
    (∃ rs, ((store.applyToStateMachine env es).run.exec w).1 = .ok rs ∧ rs.length = es.length) ↔
      TurnsOk env s es := by
  rcases passes_applyEntries env store es [] w hf hs with
    ⟨hok, rs, w', hexec, hlen, -⟩ | ⟨hno, e, w', hexec⟩
  · unfold RaftStore.applyToStateMachine
    rw [hexec]
    exact ⟨fun _ => hok, fun _ => ⟨rs, rfl, by simpa using hlen⟩⟩
  · unfold RaftStore.applyToStateMachine
    rw [hexec]
    refine ⟨?_, fun hok => absurd hok hno⟩
    rintro ⟨rs, ⟨⟩, -⟩

end Turn

/-! ## Two entries -/

/-- A request whose text does not parse. -/
def gibberishEntry (index : UInt64) : Entry := ⟨logIdAt index, .normal (.execute "SELEC" [])⟩

theorem applyToStateMachine_ok_iff_catalog : ∃ rs,
    ((RaftStore.applyToStateMachine catalogEnv ⟨.logDb, .stateDb⟩ [notesEntry 1]).run.exec
      catalogOpened).1 = .ok rs ∧ rs.length = 1 := by
  obtain ⟨d, t, hr, ht, -⟩ := catalogOpened_shows.1.reads
  have hs : (catalogOpened.conn .stateDb).session = some ⟨d, none⟩ := hr
  have hiff : (∃ rs, ((RaftStore.applyToStateMachine catalogEnv ⟨.logDb, .stateDb⟩
      [notesEntry 1]).run.exec catalogOpened).1 = .ok rs ∧ rs.length = 1) ↔
        TurnsOk catalogEnv ⟨d, none⟩ [notesEntry 1] := applyToStateMachine_ok_iff rfl hs [notesEntry 1]
  refine hiff.2 (turnsOk_singleton.2 ⟨Database.writable_of_some ht _, ?_, nofun⟩)
  rintro req ⟨⟩
  exact ⟨0, rfl⟩

/-- One committed text that does not parse, and the store returns an error of its storage. -/
theorem gibberish_fails_apply : catalogOpened.faults = [] ∧ ∃ e,
    ((RaftStore.applyToStateMachine catalogEnv ⟨.logDb, .stateDb⟩ [gibberishEntry 1]).run.exec
      catalogOpened).1 = .error e := by
  refine ⟨rfl, ?_⟩
  obtain ⟨d, t, hr, -⟩ := catalogOpened_shows.1.reads
  obtain ⟨hok, -⟩ | ⟨-, e, w, hexec⟩ :=
    passes_applyEntries catalogEnv ⟨.logDb, .stateDb⟩ [gibberishEntry 1] [] catalogOpened rfl hr
  · obtain ⟨n, hn⟩ := (turnsOk_singleton.1 hok).2.1 _ rfl
    cases hn
  · exact ⟨e, congrArg Prod.fst hexec⟩

end Replicat
