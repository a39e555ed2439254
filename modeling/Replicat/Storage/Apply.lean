import Mathlib.Data.List.Flatten
import Replicat.Storage.Tasks

/-!
# Applying entries, step by step

`Applied U` is the abstract state machine: the client tables, the two bookkeeping rows and
the two cached fields. `stepsOf e` are the atomic actions `apply_to_state_machine` performs
for one entry, each with its effect on the world and on the abstract state, and
`applyToStateMachine_follows` says the code performs exactly these, in order, also when
other tasks run in between. `Applied.at` is what the state machine should be after a list of
entries; the two agree at every entry boundary.
-/

namespace Replicat

open Sqlite Atomics Atomics.Prog

variable {U : Type}

/-- The state machine, its rows decoded. -/
structure Applied (U : Type) where
  tables : U
  logRow : Option LogId
  membershipRow : Option EffectiveMembership
  log : Option LogId
  membership : EffectiveMembership

/-! ## What the entries mean -/

section Meaning

variable (effect : Request → U → U)

/-- The client tables after an entry. -/
def execEntry (tables : U) (e : Entry) : U :=
  match e.payload with
  | .normal req => effect req tables
  | _ => tables

/-- Every `Normal` entry's statement, once and in order. -/
def execEntries (tables : U) (es : List Entry) : U := es.foldl (execEntry effect) tables

/-- The membership an entry sets. -/
def Entry.membership? (e : Entry) : Option EffectiveMembership :=
  match e.payload with
  | .membership mem => some ⟨some e.logId, mem⟩
  | _ => none

/-- The membership of the last `Membership` entry. -/
def lastMembership? (es : List Entry) : Option EffectiveMembership :=
  es.foldl (fun m e => e.membership?.or m) none

def lastLogId? (es : List Entry) : Option LogId := es.getLast?.map (·.logId)

/-- The state machine that has applied exactly `es` to a database with the tables `tables`. -/
def Applied.at (tables : U) (es : List Entry) : Applied U where
  tables := execEntries effect tables es
  logRow := lastLogId? es
  membershipRow := lastMembership? es
  log := lastLogId? es
  membership := (lastMembership? es).getD default

end Meaning

@[simp] theorem lastLogId?_append_singleton (es : List Entry) (e : Entry) :
    lastLogId? (es ++ [e]) = some e.logId := by
  simp [lastLogId?]

@[simp] theorem lastMembership?_append_singleton (es : List Entry) (e : Entry) :
    lastMembership? (es ++ [e]) = e.membership?.or (lastMembership? es) := by
  simp [lastMembership?]

@[simp] theorem execEntries_append_singleton (effect : Request → U → U) (tables : U)
    (es : List Entry) (e : Entry) :
    execEntries effect tables (es ++ [e]) = execEntry effect (execEntries effect tables es) e := by
  simp [execEntries]

/-! ## The actions of one entry -/

inductive ApplyStep where
  | logRow (logId : LogId)
  | log (logId : LogId)
  | exec (req : Request)
  | membershipRow (mem : EffectiveMembership)
  | membership (mem : EffectiveMembership)
  deriving DecidableEq, Repr

def payloadSteps (e : Entry) : List ApplyStep :=
  match e.payload with
  | .blank => []
  | .normal req => [.exec req]
  | .membership mem => [.membershipRow ⟨some e.logId, mem⟩, .membership ⟨some e.logId, mem⟩]

def stepsOf (e : Entry) : List ApplyStep := .logRow e.logId :: .log e.logId :: payloadSteps e

namespace ApplyStep

/-- The effect of an action on the abstract state. -/
def onApplied (effect : Request → U → U) : ApplyStep → Applied U → Applied U
  | .logRow logId, v => { v with logRow := some logId }
  | .log logId, v => { v with log := some logId }
  | .exec req, v => { v with tables := effect req v.tables }
  | .membershipRow mem, v => { v with membershipRow := some mem }
  | .membership mem, v => { v with membership := mem }

variable [Serde LogId] [Serde EffectiveMembership]

/-- The effect of an action on the world, for the state machine on the handle `data`. -/
def onWorld (env : Env U) (data : StorageHandle) : ApplyStep → World U → World U
  | .logRow logId => World.mapDb data (Database.putKv lastLogKey (.blob (encoded logId)))
  | .log logId => fun w => { w with lastAppliedLog := some logId }
  | .exec req => World.runOn data (RaftStore.clientStatement env req)
  | .membershipRow mem => World.mapDb data (Database.putKv lastMembershipKey (.blob (encoded mem)))
  | .membership mem => fun w => { w with lastMembership := mem }

end ApplyStep

open ApplyStep

/-- The abstract state after some actions. -/
def Applied.after (effect : Request → U → U) (v : Applied U) (steps : List ApplyStep) : Applied U :=
  steps.foldl (fun v st => st.onApplied effect v) v

@[simp] theorem Applied.after_append (effect : Request → U → U) (v : Applied U)
    (s t : List ApplyStep) : v.after effect (s ++ t) = (v.after effect s).after effect t :=
  List.foldl_append ..

/-- The actions of an entry lead from one entry boundary to the next. -/
theorem Applied.at_after_stepsOf (effect : Request → U → U) (tables : U) (es : List Entry)
    (e : Entry) :
    (Applied.at effect tables es).after effect (stepsOf e) = Applied.at effect tables (es ++ [e]) := by
  unfold stepsOf payloadSteps
  cases h : e.payload <;>
    simp [Applied.after, Applied.at, onApplied, Entry.membership?, execEntry, h]

theorem Applied.at_after (effect : Request → U → U) (tables : U) (done es : List Entry) :
    (Applied.at effect tables done).after effect (es.flatMap stepsOf) =
      Applied.at effect tables (done ++ es) := by
  induction es generalizing done with
  | nil => simp [Applied.after]
  | cons e es ih =>
    rw [List.flatMap_cons, Applied.after_append, Applied.at_after_stepsOf, ih]
    simp

/-- The same rows and client tables. -/
def Applied.SameRows (v v' : Applied U) : Prop :=
  v.tables = v'.tables ∧ v.logRow = v'.logRow ∧ v.membershipRow = v'.membershipRow

theorem Applied.SameRows.after {effect : Request → U → U} {v v' : Applied U} (h : v.SameRows v')
    (steps : List ApplyStep) :
    (v.after effect steps).SameRows (v'.after effect steps) := by
  induction steps generalizing v v' with
  | nil => exact h
  | cons st steps ih =>
    obtain ⟨ht, hl, hm⟩ := h
    refine ih ?_
    cases st with
    | logRow logId => exact ⟨ht, rfl, hm⟩
    | log logId => exact ⟨ht, hl, hm⟩
    | exec req => exact ⟨congrArg (effect req) ht, hl, hm⟩
    | membershipRow mem => exact ⟨ht, hl, rfl⟩
    | membership mem => exact ⟨ht, hl, hm⟩

/-! ## What the statements of the entries do -/

/-- Clients have left these tables, and nothing else: nothing is in the way of the store's writes, and
there are no TEMP objects and settings of theirs on the connection. -/
structure OnlyTables (tables : U) (d : Database U) : Prop where
  user : d.user = tables
  clear : d.hindrances = []
  objects : d.own.objects = []

/-- Where clients have left these tables only, the statement of the request succeeds and returns no rows,
and it reads and changes the tables only: the request's `effect`. -/
def RunsOn (env : Env U) (effect : Request → U → U) (tables : U) (req : Request) : Prop :=
  ∀ d : Database U, OnlyTables tables d → ∃ own n, own.objects = [] ∧
    RaftStore.clientStatement env req ⟨d, none⟩ =
      (⟨{ d with user := effect req tables, own }, none⟩, .ok ⟨[], n⟩)

/-- The statement of each entry does so on the tables that the entries before it leave. -/
def Confined (env : Env U) (effect : Request → U → U) : U → List Entry → Prop
  | _, [] => True
  | tables, e :: es => (∀ req, e.payload = .normal req → RunsOn env effect tables req) ∧
      Confined env effect (execEntry effect tables e) es

section Confined

variable {env : Env U} {effect : Request → U → U}

/-- Statements that run so on all tables do in any order. -/
theorem confined_of_forall {es : List Entry}
    (h : ∀ e ∈ es, ∀ req, e.payload = .normal req → ∀ tables, RunsOn env effect tables req) (tables : U) :
    Confined env effect tables es := by
  induction es generalizing tables with
  | nil => trivial
  | cons e es ih =>
    exact ⟨fun req hreq => h e List.mem_cons_self req hreq tables,
      ih (fun e' he' => h e' (List.mem_cons_of_mem _ he')) _⟩

theorem confined_append {tables : U} {es es' : List Entry} : Confined env effect tables (es ++ es') ↔
    Confined env effect tables es ∧ Confined env effect (execEntries effect tables es) es' := by
  induction es generalizing tables with
  | nil => simp [Confined, execEntries]
  | cons e es ih =>
    rw [List.cons_append, Confined, Confined, ih, and_assoc]
    rfl

/-- The entries from any position on run on the tables that those before it leave. -/
theorem Confined.drop {tables : U} {es : List Entry} (h : Confined env effect tables es) (n : Nat) :
    Confined env effect (execEntries effect tables (es.take n)) (es.drop n) := by
  rw [← es.take_append_drop n] at h
  exact (confined_append.1 h).2

theorem Confined.of_isPrefix {tables : U} {es es' : List Entry} (h : Confined env effect tables es)
    (hp : es' <+: es) : Confined env effect tables es' := by
  obtain ⟨rest, rfl⟩ := hp
  exact (confined_append.1 h).1

theorem Confined.take {tables : U} {es : List Entry} (h : Confined env effect tables es) (n : Nat) :
    Confined env effect tables (es.take n) := h.of_isPrefix (es.take_prefix n)

/-- What an action of an apply needs of the state machine it meets. -/
def ApplyStep.Runs (env : Env U) (effect : Request → U → U) (v : Applied U) : ApplyStep → Prop
  | .exec req => RunsOn env effect v.tables req
  | _ => True

/-- Some actions, one after the other. -/
def StepsRun (env : Env U) (effect : Request → U → U) : Applied U → List ApplyStep → Prop
  | _, [] => True
  | v, st :: steps => st.Runs env effect v ∧ StepsRun env effect (st.onApplied effect v) steps

theorem stepsRun_append {v : Applied U} {steps steps' : List ApplyStep} :
    StepsRun env effect v (steps ++ steps') ↔
      StepsRun env effect v steps ∧ StepsRun env effect (v.after effect steps) steps' := by
  induction steps generalizing v with
  | nil => simp [StepsRun, Applied.after]
  | cons st steps ih =>
    rw [List.cons_append, StepsRun, StepsRun, ih, and_assoc]
    rfl

theorem StepsRun.take {v : Applied U} {steps : List ApplyStep} (h : StepsRun env effect v steps) (n : Nat) :
    StepsRun env effect v (steps.take n) := by
  rw [← steps.take_append_drop n] at h
  exact (stepsRun_append.1 h).1

theorem tables_after_stepsOf (v : Applied U) (e : Entry) :
    (v.after effect (stepsOf e)).tables = execEntry effect v.tables e := by
  unfold stepsOf payloadSteps execEntry
  cases e.payload <;> rfl

theorem tables_after (v : Applied U) (es : List Entry) :
    (v.after effect (es.flatMap stepsOf)).tables = execEntries effect v.tables es := by
  induction es generalizing v with
  | nil => rfl
  | cons e es ih =>
    rw [List.flatMap_cons, Applied.after_append, ih, tables_after_stepsOf]
    rfl

theorem Confined.stepsRun {v : Applied U} {es : List Entry} (h : Confined env effect v.tables es) :
    StepsRun env effect v (es.flatMap stepsOf) := by
  induction es generalizing v with
  | nil => trivial
  | cons e es ih =>
    rw [List.flatMap_cons, stepsRun_append]
    refine ⟨?_, ih (by rw [tables_after_stepsOf]; exact h.2)⟩
    unfold stepsOf payloadSteps
    cases hp : e.payload with
    | blank => exact ⟨trivial, trivial, trivial⟩
    | normal req => exact ⟨trivial, trivial, h.1 req hp, trivial⟩
    | membership mem => exact ⟨trivial, trivial, trivial, trivial, trivial⟩

end Confined

/-! ## Rows and cached fields -/

theorem lastLogKey_ne : lastLogKey ≠ lastMembershipKey := by decide

section Shows

variable [Serde LogId] [Serde EffectiveMembership]

/-- The rows and the client tables of `d` are those of `v`. -/
structure Stored (v : Applied U) (d : Database U) : Prop where
  logRow : d.kv lastLogKey = v.logRow.map fun log => .blob (encoded log)
  membershipRow : d.kv lastMembershipKey = v.membershipRow.map fun membership => .blob (encoded membership)
  tables : d.user = v.tables
  /-- Nothing of a client's is in the way of writing the rows. -/
  clear : d.hindrances = []
  /-- Nor has a client left TEMP objects or settings on the connection. -/
  objects : d.own.objects = []

theorem Stored.onlyTables {v : Applied U} {d : Database U} (h : Stored v d) : OnlyTables v.tables d :=
  ⟨h.tables, h.clear, h.objects⟩

/-- The state machine on the handle `data` is `v`. -/
structure Shows (data : StorageHandle) (v : Applied U) (w : World U) : Prop where
  faults : w.faults = []
  reads : ∃ d t, w.Reads data d ∧ d.kvStates = some t ∧ Stored v d
  log : w.lastAppliedLog = v.log
  membership : w.lastMembership = v.membership

theorem Applied.SameRows.stored {v v' : Applied U}
    {d : Database U} (h : v.SameRows v') (hs : Stored v d) : Stored v' d := by
  obtain ⟨ht, hl, hm⟩ := h
  exact ⟨by rw [← hl]; exact hs.logRow, by rw [← hm]; exact hs.membershipRow, by rw [← ht]; exact hs.tables,
    hs.clear, hs.objects⟩

theorem Stored.congr {v : Applied U} {d d' : Database U} (h : Stored v d)
    (hlog : d'.kv lastLogKey = d.kv lastLogKey) (hmem : d'.kv lastMembershipKey = d.kv lastMembershipKey)
    (htables : d'.user = d.user) (hclear : d'.hindrances = d.hindrances)
    (hobjects : d'.own.objects = d.own.objects) : Stored v d' :=
  ⟨hlog.trans h.logRow, hmem.trans h.membershipRow, htables.trans h.tables, hclear.trans h.clear,
    hobjects.trans h.objects⟩

/-- A row written under another key leaves the state machine alone. -/
theorem Stored.putKv_other {v : Applied U} {d : Database U} (h : Stored v d) {key : String}
    (hl : lastLogKey ≠ key) (hm : lastMembershipKey ≠ key) (value : Value) :
    Stored v (d.putKv key value) :=
  h.congr (Database.kv_putKv_ne d hl _) (Database.kv_putKv_ne d hm _) (Database.user_putKv ..)
    (Database.hindrances_putKv ..) (Database.objects_putKv ..)

omit [Serde LogId] [Serde EffectiveMembership] in
/-- A row tells the value apart. -/
theorem map_encoded_inj {α : Type} [Serde α] {a b : Option α}
    (h : (a.map fun x => Value.blob (encoded x)) = b.map fun x => Value.blob (encoded x)) : a = b :=
  Option.map_injective (fun _ _ hxy => encoded_inj (by simpa using hxy)) h

/-- A world shows one state machine. -/
theorem Shows.unique {data : StorageHandle} {v v' : Applied U} {w : World U} (h : Shows data v w)
    (h' : Shows data v' w) : v = v' := by
  obtain ⟨d, t, hr, -, hs⟩ := h.reads
  obtain ⟨d', t', hr', -, hs'⟩ := h'.reads
  have hd : d = d' := by simpa using (Eq.symm hr).trans hr'
  subst hd
  have htables := hs.tables.symm.trans hs'.tables
  have hlogRow := map_encoded_inj (hs.logRow.symm.trans hs'.logRow)
  have hmembershipRow := map_encoded_inj (hs.membershipRow.symm.trans hs'.membershipRow)
  have hlog := h.log.symm.trans h'.log
  have hmembership := h.membership.symm.trans h'.membership
  cases v
  cases v'
  simp_all

/-- A task that takes the rows of `v` to those of `v'` takes the state machine there. -/
theorem Shows.mapDb {data : StorageHandle} {v v' : Applied U} {w : World U} (h : Shows data v w)
    {f : Database U → Database U} (hf : ∀ d, (f d).kvStates.isSome = d.kvStates.isSome)
    (hs : ∀ d t, d.kvStates = some t → Stored v d → Stored v' (f d)) (hl : v'.log = v.log)
    (hm : v'.membership = v.membership) : Shows data v' (World.mapDb data f w) := by
  obtain ⟨d, t, hr, ht, hd⟩ := h.reads
  have hsome : (f d).kvStates.isSome := by rw [hf, ht]; rfl
  obtain ⟨t', ht'⟩ := Option.isSome_iff_exists.1 hsome
  rw [hr.mapDb_eq]
  refine ⟨?_, ⟨f d, t', World.reads_setDb w data (f d), ht', hs d t ht hd⟩, ?_, ?_⟩
  · rw [World.faults_setDb]; exact h.faults
  · rw [World.lastAppliedLog_setDb, hl]; exact h.log
  · rw [World.lastMembership_setDb, hm]; exact h.membership

/-- What the statement of a request does to a connection of the state machine. -/
theorem Shows.step_client {env : Env U} {effect : Request → U → U} {data : StorageHandle} {v : Applied U}
    {w : World U} (h : Shows data v w) {req : Request} (hr : RunsOn env effect v.tables req) :
    ∃ d t own n, w.Reads data d ∧ d.kvStates = some t ∧ Stored v d ∧ own.objects = [] ∧
      (w.conn data).step (RaftStore.clientStatement env req) =
        ({ w.conn data with session := some ⟨{ d with user := effect req v.tables, own }, none⟩ },
          .ok ⟨[], n⟩) := by
  obtain ⟨d, t, hreads, ht, hd⟩ := h.reads
  obtain ⟨own, n, hobjects, hn⟩ := hr d hd.onlyTables
  exact ⟨d, t, own, n, hreads, ht, hd, hobjects, by rw [Connection.step_some hreads, hn]⟩

/-- **Every action on the world refines its effect on the abstract state.** -/
theorem Shows.onWorld {env : Env U} {effect : Request → U → U} {data : StorageHandle} {v : Applied U}
    {w : World U} (h : Shows data v w) {st : ApplyStep} (hst : st.Runs env effect v) :
    Shows data (st.onApplied effect v) (st.onWorld env data w) := by
  cases st with
  | logRow logId =>
    refine h.mapDb (fun d => d.isSome_kvStates_putKv ..) (fun d t ht hd => ⟨?_, ?_, ?_, ?_, ?_⟩) rfl rfl
    · rw [Database.kv_putKv_self ht]; rfl
    · rw [Database.kv_putKv_ne d lastLogKey_ne.symm]; exact hd.membershipRow
    · rw [Database.user_putKv]; exact hd.tables
    · rw [Database.hindrances_putKv]; exact hd.clear
    · rw [Database.objects_putKv]; exact hd.objects
  | log logId =>
    obtain ⟨d, t, hr, ht, hd⟩ := h.reads
    exact ⟨h.faults, ⟨d, t, hr, ht, hd.logRow, hd.membershipRow, hd.tables, hd.clear, hd.objects⟩, rfl,
      h.membership⟩
  | exec req =>
    obtain ⟨d, t, own, n, hr, ht, hd, hobjects, hstep⟩ := h.step_client hst
    show Shows data _ (World.runOn data (RaftStore.clientStatement env req) w)
    unfold World.runOn
    rw [hstep]
    refine ⟨?_, ⟨_, t, World.reads_setDb w data _, ht, hd.logRow, hd.membershipRow, rfl, hd.clear, hobjects⟩, ?_, ?_⟩
    · rw [World.faults_setConn]; exact h.faults
    · rw [World.lastAppliedLog_setConn]; exact h.log
    · rw [World.lastMembership_setConn]; exact h.membership
  | membershipRow mem =>
    refine h.mapDb (fun d => d.isSome_kvStates_putKv ..) (fun d t ht hd => ⟨?_, ?_, ?_, ?_, ?_⟩) rfl rfl
    · rw [Database.kv_putKv_ne d lastLogKey_ne]; exact hd.logRow
    · rw [Database.kv_putKv_self ht]; rfl
    · rw [Database.user_putKv]; exact hd.tables
    · rw [Database.hindrances_putKv]; exact hd.clear
    · rw [Database.objects_putKv]; exact hd.objects
  | membership mem =>
    obtain ⟨d, t, hr, ht, hd⟩ := h.reads
    exact ⟨h.faults, ⟨d, t, hr, ht, hd.logRow, hd.membershipRow, hd.tables, hd.clear, hd.objects⟩, h.log,
      rfl⟩

theorem Shows.replay {env : Env U} {effect : Request → U → U} {data : StorageHandle} {steps : List ApplyStep}
    {v : Applied U} {w : World U} (h : Shows data v w) (hsteps : StepsRun env effect v steps) :
    Shows data (v.after effect steps) (Prog.replay (steps.map (ApplyStep.onWorld env data)) w) := by
  induction steps generalizing v w with
  | nil => exact h
  | cons st steps ih => exact ih (h.onWorld hsteps.1) hsteps.2

end Shows

/-! ## The code performs these actions -/

section Moves

variable [Serde LogId] [Serde EffectiveMembership]

/-- The actions, each on a world that shows the state machine the actions before it lead to. -/
def applyMoves (env : Env U) (effect : Request → U → U) (data : StorageHandle) :
    Applied U → List ApplyStep → List (Move (World U))
  | _, [] => []
  | v, st :: steps =>
    ⟨Shows data v, st.onWorld env data⟩ :: applyMoves env effect data (st.onApplied effect v) steps

variable {env : Env U} {effect : Request → U → U} {data : StorageHandle}

theorem applyMoves_append (v : Applied U) (steps steps' : List ApplyStep) :
    applyMoves env effect data v (steps ++ steps') =
      applyMoves env effect data v steps ++ applyMoves env effect data (v.after effect steps) steps' := by
  induction steps generalizing v with
  | nil => rfl
  | cons st steps ih => exact congrArg (List.cons _) (ih _)

theorem map_does_applyMoves (v : Applied U) (steps : List ApplyStep) :
    (applyMoves env effect data v steps).map (·.does) = steps.map (onWorld env data) := by
  induction steps generalizing v with
  | nil => rfl
  | cons st steps ih => exact congrArg (List.cons _) (ih _)

/-- The `n`-th of them. -/
theorem applyMoves_getElem? {v : Applied U} {steps : List ApplyStep} (h : StepsRun env effect v steps)
    {n : Nat} {m : Move (World U)} (hm : (applyMoves env effect data v steps)[n]? = some m) :
    ∃ st, m = ⟨Shows data (v.after effect (steps.take n)), onWorld env data st⟩ ∧
      st.Runs env effect (v.after effect (steps.take n)) ∧
      v.after effect (steps.take (n + 1)) = st.onApplied effect (v.after effect (steps.take n)) := by
  induction steps generalizing v n with
  | nil => cases hm
  | cons st steps ih =>
    cases n with
    | zero =>
      cases hm
      exact ⟨st, rfl, h.1, rfl⟩
    | succ n => exact ih h.2 hm

/-- Each action finds what it needs when nothing comes in between. -/
theorem Shows.moves {v : Applied U} {w : World U} {steps : List ApplyStep} (h : Shows data v w)
    (hsteps : StepsRun env effect v steps) : Moves (applyMoves env effect data v steps) w := by
  induction steps generalizing v w with
  | nil => trivial
  | cons st steps ih => exact ⟨h, ih (h.onWorld hsteps.1) hsteps.2⟩

omit [Serde LogId] [Serde EffectiveMembership] in
/-- A task that succeeds wherever it is run is one action. -/
theorem follows_execute {ε : Type} {I : World U → Prop} {stmt : Prepared (Database U)}
    {does : World U → World U} {g : AnyError → ε} (hI : ∀ w, I w → w.faults = [])
    (h : ∀ w, I w → ∃ n, ((w.conn data).execute stmt).2 = .ok n ∧
      w.setConn data ((w.conn data).execute stmt).1 = does w) :
    (task g (data.execute stmt)).run.Follows [⟨I, does⟩] (OkAnd fun _ => True) := by
  refine Follows.run_mapErr (StorageHandle.follows_submitTask hI fun w hw => ?_)
  obtain ⟨n, hn, hdoes⟩ := h w hw
  exact ⟨⟨n, hn, trivial⟩, hdoes⟩

theorem follows_upsert {ε : Type} {g : AnyError → ε} (v : Applied U) (key : String) (value : Value) :
    (task g (data.execute (.onMain (replicatKvUpsert key value)))).run.Follows
      [⟨Shows data v, World.mapDb data (Database.putKv key value)⟩] (OkAnd fun _ => True) := by
  refine follows_execute (fun w hw => hw.faults) fun w hw => ?_
  obtain ⟨d, t, hr, ht, -⟩ := hw.reads
  refine ⟨1, ?_, ?_⟩
  all_goals
    unfold Connection.execute
    rw [Connection.step_onMain hr (replicatKvUpsert_eq ht key value)]
  · rfl
  · rw [hr.mapDb_eq]
    rfl

omit [Serde LogId] [Serde EffectiveMembership] in
theorem follows_encode {ε α : Type} [Serde α] (g : AnyError → ε) (v : α) :
    (encode g v : StoreM U ε Bytes).run.Follows [] (OkAnd fun data => data = encoded v) := by
  unfold encode
  rw [toBytes_eq]
  exact follows_run_liftResult rfl

theorem setLastAppliedLog_follows (v : Applied U) (log : LogId) :
    (StateMachine.setLastAppliedLog data log : StorageResult U Unit).run.Follows
      (applyMoves env effect data v [.logRow log, .log log]) (OkAnd fun _ => True) := by
  unfold StateMachine.setLastAppliedLog
  refine (follows_encode storeWriteError log).run_bind ?_
  rintro _ rfl
  exact (follows_upsert v lastLogKey _).run_bind fun _ _ =>
    follows_run_liftAct (Q := fun _ => True) fun _ _ => ⟨trivial, rfl⟩

theorem setLastMembership_follows (v : Applied U) (membership : EffectiveMembership) :
    (StateMachine.setLastMembership data membership : StorageResult U Unit).run.Follows
      (applyMoves env effect data v [.membershipRow membership, .membership membership])
      (OkAnd fun _ => True) := by
  unfold StateMachine.setLastMembership
  refine (follows_encode storeWriteError membership).run_bind ?_
  rintro _ rfl
  exact (follows_upsert v lastMembershipKey _).run_bind fun _ _ =>
    follows_run_liftAct (Q := fun _ => True) fun _ _ => ⟨trivial, rfl⟩

theorem applyPayload_follows (store : RaftStore) {v : Applied U} {e : Entry}
    (h : ∀ req, e.payload = .normal req → RunsOn env effect v.tables req) :
    (RaftStore.applyPayload env store e).run.Follows
      (applyMoves env effect store.data v (payloadSteps e)) (OkAnd fun _ => True) := by
  unfold RaftStore.applyPayload payloadSteps
  cases hp : e.payload with
  | blank => exact follows_run_pure trivial
  | normal req =>
    dsimp only
    rw [← List.append_nil (applyMoves ..)]
    refine Follows.run_bind (follows_execute (fun w hw => hw.faults) fun w hw => ?_)
      fun _ _ => follows_run_pure trivial
    obtain ⟨d, t, own, n, -, -, -, -, hstep⟩ := Shows.step_client hw (h req hp)
    exact ⟨n, by rw [Connection.execute, hstep]; rfl, rfl⟩
  | membership mem =>
    dsimp only
    rw [← List.append_nil (applyMoves ..)]
    exact (setLastMembership_follows v _).run_bind fun _ _ => follows_run_pure trivial

theorem applyEntries_follows (store : RaftStore) {v : Applied U} {es : List Entry}
    (h : Confined env effect v.tables es) (res : List Response) :
    (store.applyEntries env es res).run.Follows
      (applyMoves env effect store.data v (es.flatMap stepsOf))
      (OkAnd fun r => r = res ++ es.map fun _ => ⟨⟩) := by
  induction es generalizing res v with
  | nil => exact follows_run_pure (by simp)
  | cons e es ih =>
    rw [List.flatMap_cons, applyMoves_append]
    show Follows _ (applyMoves env effect store.data v ([.logRow e.logId, .log e.logId] ++ payloadSteps e) ++ _) _
    rw [applyMoves_append, List.append_assoc]
    refine (setLastAppliedLog_follows v e.logId).run_bind fun _ _ => ?_
    refine (applyPayload_follows (v := v.after effect [.logRow e.logId, .log e.logId]) store h.1).run_bind
      fun response _ => ?_
    have hrest : Confined env effect (v.after effect (stepsOf e)).tables es := by
      rw [tables_after_stepsOf]
      exact h.2
    simpa using ih hrest (res ++ [response])

/-- **`apply_to_state_machine` performs the actions of its entries in order**, each exactly
once, and returns one response an entry. -/
theorem applyToStateMachine_follows (store : RaftStore) {v : Applied U} {es : List Entry}
    (h : Confined env effect v.tables es) :
    (store.applyToStateMachine env es).run.Follows
      (applyMoves env effect store.data v (es.flatMap stepsOf)) (OkAnd fun r => r = es.map fun _ => ⟨⟩) := by
  have := applyEntries_follows store h []
  simpa [RaftStore.applyToStateMachine] using this

/-- Consecutive calls of `apply_to_state_machine`. -/
def applyBatches (env : Env U) (store : RaftStore) : List (List Entry) → StorageResult U Unit
  | [] => pure ()
  | batch :: batches => do
    let _ ← store.applyToStateMachine env batch
    applyBatches env store batches

theorem applyBatches_follows (store : RaftStore) {v : Applied U} {batches : List (List Entry)}
    (h : Confined env effect v.tables batches.flatten) :
    (applyBatches env store batches).run.Follows
      (applyMoves env effect store.data v (batches.flatten.flatMap stepsOf)) (OkAnd fun _ => True) := by
  induction batches generalizing v with
  | nil => exact follows_run_pure trivial
  | cons batch batches ih =>
    rw [List.flatten_cons] at h ⊢
    obtain ⟨hbatch, hrest⟩ := confined_append.1 h
    rw [List.flatMap_append, applyMoves_append]
    rw [← tables_after] at hrest
    exact (applyToStateMachine_follows store hbatch).run_bind fun _ _ => ih hrest

/-- A call of `apply_to_state_machine` alone. -/
theorem applyToStateMachine_replay (store : RaftStore) {v : Applied U} {es : List Entry} {w : World U}
    (h : Confined env effect v.tables es) (hw : Shows store.data v w) :
    (store.applyToStateMachine env es).run.exec w = (.ok (es.map fun _ => ⟨⟩),
      Prog.replay ((es.flatMap stepsOf).map (onWorld env store.data)) w) := by
  obtain ⟨⟨r, hr, rfl⟩, hw'⟩ := (applyToStateMachine_follows store h).exec (hw.moves h.stepsRun)
  rw [map_does_applyMoves] at hw'
  exact Prod.ext hr hw'

/-- It leads from one entry boundary to the next. -/
theorem applyToStateMachine_exec (store : RaftStore) {es done : List Entry} {tables : U} {w : World U}
    (h : Confined env effect (execEntries effect tables done) es)
    (hw : Shows store.data (Applied.at effect tables done) w) :
    ∃ w', (store.applyToStateMachine env es).run.exec w = (.ok (es.map fun _ => ⟨⟩), w') ∧
      Shows store.data (Applied.at effect tables (done ++ es)) w' := by
  refine ⟨_, applyToStateMachine_replay store h hw, ?_⟩
  rw [← Applied.at_after]
  exact hw.replay h.stepsRun

end Moves

/-! ## Bounding every action of a call -/

section Within

variable {env : Env U} {store : RaftStore} {R : World U → World U → Prop}

/-- An upsert of a row of the state machine, then the field beside it. -/
theorem setRow_within {key : String} {v : Bytes} {f : World U → World U}
    (hrow : (store.data.execute (.onMain (replicatKvUpsert key (.blob v)))).run.Within R)
    (hfield : ∀ w, R w (f w)) : (do
      let _ ← task storeWriteError (store.data.execute (.onMain (replicatKvUpsert key (.blob v))))
      liftAct fun w => ((), f w) : StorageResult U Unit).run.Within R :=
  hrow.run_mapErr.run_bind fun _ => within_run_liftAct hfield

variable [Serde LogId] [Serde EffectiveMembership]

/-- What bounds the statements of an apply, the rows it writes and the fields it sets, bounds
the whole call. -/
theorem applyEntries_within (entries : List Entry) (res : List Response)
    (hrow : ∀ key v, key = lastLogKey ∨ key = lastMembershipKey →
      (store.data.execute (.onMain (replicatKvUpsert key (.blob v)))).run.Within R)
    (hlog : ∀ log (w : World U), R w { w with lastAppliedLog := some log })
    (hmembership : ∀ mem (w : World U), R w { w with lastMembership := mem })
    (hclient : ∀ e ∈ entries, ∀ req, e.payload = .normal req →
      (store.data.execute (RaftStore.clientStatement env req)).run.Within R) :
    (store.applyEntries env entries res).run.Within R := by
  induction entries generalizing res with
  | nil => exact within_run_pure res
  | cons e entries ih =>
    have hpayload : (RaftStore.applyPayload env store e).run.Within R := by
      unfold RaftStore.applyPayload
      cases hp : e.payload with
      | blank => exact within_run_pure _
      | normal req =>
        exact (hclient e List.mem_cons_self req hp).run_mapErr.run_bind fun _ => within_run_pure _
      | membership mem =>
        unfold StateMachine.setLastMembership
        exact ((within_run_liftResult _).run_bind fun raw =>
          setRow_within (hrow _ raw (.inr rfl)) (hmembership _)).run_bind fun _ => within_run_pure _
    unfold RaftStore.applyEntries StateMachine.setLastAppliedLog
    refine Within.run_bind ?_ fun _ => hpayload.run_bind fun _ => ih _ fun e' he' =>
      hclient e' (List.mem_cons_of_mem _ he')
    exact (within_run_liftResult _).run_bind fun raw => setRow_within (hrow _ raw (.inl rfl)) (hlog _)

end Within

end Replicat
