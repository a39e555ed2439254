import Replicat.Lib.Heap
import Replicat.Storage.Handle

/-!
# The buffers of the databases

A `SqliteMemory` owns a buffer of SQLite's allocator, and SQLite owns the one that a connection was
deserialized from. Here the functions of `storage/mod.rs` that have to do with them run on a heap where
every misuse is undefined, and a `SqliteMemory` is its pointer and its size. `sqlite_memory_safe`: no run of
them is undefined, every buffer has one owner at any time, and read through its pointer each value is the
bytes that the rest of the model takes it for.
-/

namespace Replicat

open Sqlite Malloc

abbrev SqliteMemory := Region

/-- `sqlite3_malloc64`: null for a block of nothing. -/
def sqlite3Malloc64 (a : Allocator UInt8) (m : Heap UInt8) (n : Nat) : Option Ptr × Heap UInt8 :=
  if n = 0 then (none, m) else m.alloc a n

namespace SqliteMemory

/-! ## The functions -/

def fromRaw (ptr : Ptr) (size : Nat) : SqliteMemory := ⟨ptr, size⟩

def fromSlice (a : Allocator UInt8) (m : Heap UInt8) (buf : Bytes) :
    Option (Except SqlError SqliteMemory × Heap UInt8) :=
  match sqlite3Malloc64 a m buf.length with
  | (none, m) => some (.error StorageHandle.noMemory, m)
  | (some ptr, m) => (m.store ptr buf).map fun m => (.ok (fromRaw ptr buf.length), m)

def deref (m : Heap UInt8) (self : SqliteMemory) : Option Bytes := m.load self

def drop (m : Heap UInt8) (self : SqliteMemory) : Option (Heap UInt8) := m.free self.ptr

/-- `sqlite3_serialize` of a connection with this image: a buffer, and its size or -1. -/
def sqlite3Serialize (a : Allocator UInt8) (m : Heap UInt8) (image : Option Bytes) (sized : Bool) :
    Option ((Option Ptr × Int) × Heap UInt8) :=
  match image with
  | none => some ((none, -1), m)
  | some data =>
    match sqlite3Malloc64 a m data.length with
    | (none, m) => some ((none, -1), m)
    | (some ptr, m) => (m.store ptr data).map fun m => ((some ptr, if sized then data.length else -1), m)

def serializeDb (a : Allocator UInt8) (m : Heap UInt8) (image : Option Bytes) (sized : Bool) :
    Option (Except SqlError SqliteMemory × Heap UInt8) :=
  (sqlite3Serialize a m image sized).bind fun x =>
    match x.1.1 with
    -- `sqlite3_free` of null does nothing.
    | none => some (.error StorageHandle.noMemory, x.2)
    | some ptr =>
      if x.1.2 = -1 then (x.2.free ptr).map fun m => (.error StorageHandle.noMemory, m)
      else some (.ok (fromRaw ptr x.1.2.toNat), x.2)

/-- `sqlite3_deserialize` with `SQLITE_DESERIALIZE_FREEONCLOSE`: SQLite frees the buffer that the connection
had, or, if it fails, the one that it was given. -/
def sqlite3Deserialize (m : Heap UInt8) (conn : Option SqliteMemory) (data : SqliteMemory) (ok : Bool) :
    Option (Option SqliteMemory × Heap UInt8) :=
  if ok then
    match conn with
    | none => some (some data, m)
    | some old => (m.free old.ptr).map fun m => (some data, m)
  else (m.free data.ptr).map fun m => (conn, m)

def viewFailed : SqlError := .sqliteFailure .busy (some "Unable to create memory view for database")

/-- The caller's value is behind `ManuallyDrop`: nothing is freed here. -/
def deserializeDb (m : Heap UInt8) (conn : Option SqliteMemory) (data : SqliteMemory) (ok : Bool) :
    Option (Except SqlError Unit × Option SqliteMemory × Heap UInt8) :=
  (sqlite3Deserialize m conn data ok).map fun x =>
    (if ok then .ok () else .error viewFailed, x)

/-- SQLite writes to a database in a buffer of its own (`SQLITE_DESERIALIZE_RESIZEABLE`): where it is, or
after `sqlite3_realloc64`, which leaves it if there is no room. -/
def sqlite3Write (a : Allocator UInt8) (m : Heap UInt8) (old : SqliteMemory) (data : Bytes) :
    Option (SqliteMemory × Heap UInt8) :=
  if data.length = old.size then (m.store old.ptr data).map fun m => (old, m)
  else
    (m.free old.ptr).bind fun rest =>
      match sqlite3Malloc64 a rest data.length with
      | (none, _) => some (old, m)
      | (some ptr, rest) => (rest.store ptr data).map fun m => (⟨ptr, data.length⟩, m)

end SqliteMemory

/-! ## Runs -/

/-- Who owns a buffer: what holds a `SqliteMemory` (a variable, a task or a reply in a channel), or SQLite,
for a connection. -/
inductive Owner (L H : Type) where
  | value (l : L)
  | connection (h : H)
  deriving DecidableEq, Repr

structure Memory (L H : Type) where
  heap : Heap UInt8
  owner : Owner L H → Option SqliteMemory

/-- What a process may do with the buffers. An action on a variable that holds nothing, or for one that
holds something, is no program, and does nothing. -/
inductive MemoryOp (L H : Type) where
  | fromSlice (l : L) (a : Allocator UInt8) (buf : Bytes)
  | serializeDb (l : L) (a : Allocator UInt8) (image : Option Bytes) (sized : Bool)
  | deserializeDb (l : L) (h : H) (ok : Bool)
  | deref (l : L)
  /-- A value is moved: into a task, through a channel, out of a reply. -/
  | move (l l' : L)
  | drop (l : L)
  | write (h : H) (a : Allocator UInt8) (data : Bytes)
  | close (h : H)

inductive MemoryAnswer where
  | done
  | failed (e : SqlError)
  | bytes (b : Bytes)
  deriving DecidableEq, Repr

def MemoryAnswer.of {α : Type} : Except SqlError α → MemoryAnswer
  | .ok _ => done
  | .error e => failed e

section Runs

variable {L H : Type} [DecidableEq L] [DecidableEq H]

namespace Memory

/-- Nothing is allocated. -/
def fresh : Memory L H := ⟨.empty, fun _ => none⟩

/-- A variable takes what a function has returned. -/
def take (s : Memory L H) (l : L) (x : Except SqlError SqliteMemory × Heap UInt8) : Memory L H × MemoryAnswer :=
  match x.1 with
  | .ok v => (⟨x.2, Function.update s.owner (.value l) (some v)⟩, .done)
  | .error e => (⟨x.2, s.owner⟩, .failed e)

end Memory

namespace MemoryOp

def exec : MemoryOp L H → Memory L H → Option (Memory L H × MemoryAnswer)
  | fromSlice l a buf, s =>
    match s.owner (.value l) with
    | some _ => some (s, .done)
    | none => (SqliteMemory.fromSlice a s.heap buf).map (s.take l)
  | serializeDb l a image sized, s =>
    match s.owner (.value l) with
    | some _ => some (s, .done)
    | none => (SqliteMemory.serializeDb a s.heap image sized).map (s.take l)
  | deserializeDb l h ok, s =>
    match s.owner (.value l) with
    | none => some (s, .done)
    | some data => (SqliteMemory.deserializeDb s.heap (s.owner (.connection h)) data ok).map fun x =>
        (⟨x.2.2, Function.update (Function.update s.owner (.value l) none) (.connection h) x.2.1⟩, .of x.1)
  | deref l, s =>
    match s.owner (.value l) with
    | none => some (s, .done)
    | some v => (v.deref s.heap).map fun b => (s, .bytes b)
  | move l l', s =>
    match s.owner (.value l), s.owner (.value l') with
    | some v, none =>
      some (⟨s.heap, Function.update (Function.update s.owner (.value l) none) (.value l') (some v)⟩, .done)
    | _, _ => some (s, .done)
  | drop l, s =>
    match s.owner (.value l) with
    | none => some (s, .done)
    | some v => (v.drop s.heap).map fun m => (⟨m, Function.update s.owner (.value l) none⟩, .done)
  | write h a data, s =>
    match s.owner (.connection h) with
    | none => some (s, .done)
    | some old => (SqliteMemory.sqlite3Write a s.heap old data).map fun x =>
        (⟨x.2, Function.update s.owner (.connection h) (some x.1)⟩, .done)
  | close h, s =>
    match s.owner (.connection h) with
    | none => some (s, .done)
    | some v => (s.heap.free v.ptr).map fun m => (⟨m, Function.update s.owner (.connection h) none⟩, .done)

/-- These actions, and their answers. `none` is undefined behaviour. -/
def run : List (MemoryOp L H) → Memory L H → Option (Memory L H × List MemoryAnswer)
  | [], s => some (s, [])
  | op :: ops, s => (op.exec s).bind fun x => (run ops x.1).map fun y => (y.1, x.2 :: y.2)

/-! ## The bytes -/

/-- A copy of the bytes in SQLite's memory, unless that has run out. -/
def filled (oom : Bool) (data : Bytes) : Except SqlError Bytes :=
  if oom then .error StorageHandle.noMemory else StorageHandle.fromSlice data

def keep (c : Owner L H → Option Bytes) (k : Owner L H) (x : Except SqlError Bytes) :
    (Owner L H → Option Bytes) × MemoryAnswer :=
  match x with
  | .ok b => (Function.update c k (some b), .done)
  | .error e => (c, .failed e)

/-- What the actions do where a `SqliteMemory` is its bytes. -/
def onBytes (oom : Bool) : MemoryOp L H → (Owner L H → Option Bytes) → (Owner L H → Option Bytes) × MemoryAnswer
  | fromSlice l _ buf, c =>
    match c (.value l) with
    | some _ => (c, .done)
    | none => keep c (.value l) (filled oom buf)
  | serializeDb l _ image sized, c =>
    match c (.value l) with
    | some _ => (c, .done)
    | none => keep c (.value l) (if sized then filled oom (image.getD []) else .error StorageHandle.noMemory)
  | deserializeDb l h ok, c =>
    match c (.value l) with
    | none => (c, .done)
    | some data =>
      if ok then (Function.update (Function.update c (.value l) none) (.connection h) (some data), .done)
      else (Function.update c (.value l) none, .failed SqliteMemory.viewFailed)
  | deref l, c => (c, (c (.value l)).elim .done .bytes)
  | move l l', c =>
    match c (.value l), c (.value l') with
    | some b, none => (Function.update (Function.update c (.value l) none) (.value l') (some b), .done)
    | _, _ => (c, .done)
  | drop l, c => (Function.update c (.value l) none, .done)
  | write h _ data, c =>
    match c (.connection h) with
    | none => (c, .done)
    | some _ => ((keep c (.connection h) (filled oom data)).1, .done)
  | close h, c => (Function.update c (.connection h) none, .done)

def runOnBytes : List (MemoryOp L H × Bool) → (Owner L H → Option Bytes) →
    (Owner L H → Option Bytes) × List MemoryAnswer
  | [], c => (c, [])
  | (op, oom) :: ops, c =>
    ((runOnBytes ops (op.onBytes oom c).1).1, (op.onBytes oom c).2 :: (runOnBytes ops (op.onBytes oom c).1).2)

/-- The allocator has no block of this size, on this heap. -/
def refused (a : Allocator UInt8) (m : Heap UInt8) (n : Nat) : Bool := n ≠ 0 && (a.malloc m n).isNone

/-- SQLite's memory runs out under this action. -/
def starved : MemoryOp L H → Memory L H → Bool
  | fromSlice _ a buf, s => refused a s.heap buf.length
  | serializeDb _ a image _, s => refused a s.heap (image.getD []).length
  | write h a data, s =>
    (s.owner (.connection h)).any fun old => data.length ≠ old.size &&
      (s.heap.free old.ptr).any fun rest => refused a rest data.length
  | _, _ => false

/-- Under which of these actions it does. -/
def starvedAlong : List (MemoryOp L H) → Memory L H → List Bool
  | [], _ => []
  | op :: ops, s => op.starved s :: (op.exec s).elim [] fun x => starvedAlong ops x.1

end MemoryOp

/-! ## One action -/

omit [DecidableEq L] [DecidableEq H] in
theorem connection_ne_value (h : H) (l : L) : Owner.connection h ≠ Owner.value l := nofun

section Step

variable {κ : Type} [DecidableEq κ] {owner : κ → Option Region} {m : Heap UInt8} {k : κ} {a : Allocator UInt8}

/-- SQLite's memory for one that has none, filled with these bytes. -/
theorem fill_spec (ho : Owns owner m) (hk : owner k = none) (a : Allocator UInt8) (data : Bytes) :
    (sqlite3Malloc64 a m data.length = (none, m) ∧
      MemoryOp.filled (MemoryOp.refused a m data.length) data = .error StorageHandle.noMemory) ∨
    MemoryOp.filled (MemoryOp.refused a m data.length) data = .ok data ∧
      ∃ ptr m₁ m₂, sqlite3Malloc64 a m data.length = (some ptr, m₁) ∧ m₁.store ptr data = some m₂ ∧
        Owns (Function.update owner k (some ⟨ptr, data.length⟩)) m₂ ∧
        contents (Function.update owner k (some ⟨ptr, data.length⟩)) m₂ =
          Function.update (contents owner m) k (some data) := by
  by_cases hdata : data = []
  · subst hdata
    exact .inl ⟨rfl, rfl⟩
  · have hlength : data.length ≠ 0 := fun h => hdata (List.length_eq_zero_iff.1 h)
    have hmalloc : sqlite3Malloc64 a m data.length = m.alloc a data.length := if_neg hlength
    rw [hmalloc]
    rcases ho.alloc hk a data.length with ⟨hnull, hsame⟩ | ⟨ptr, m₁, hnew, ho₁, b, hb⟩
    · refine .inl ⟨hsame, ?_⟩
      simp [MemoryOp.filled, MemoryOp.refused, hlength, hnull]
    · obtain ⟨m₂, hstore, ho₂, hcontents⟩ := ho₁.store (Function.update_self ..) rfl
      have hroom : (a.malloc m data.length).isNone = false := by
        unfold Heap.alloc at hnew
        cases hmalloc : a.malloc m data.length with
        | none => rw [hmalloc] at hnew; cases hnew
        | some _ => rfl
      refine .inr ⟨?_, ptr, m₁, m₂, hnew, hstore, ho₂, ?_⟩
      · simp [MemoryOp.filled, MemoryOp.refused, StorageHandle.fromSlice, hdata, hroom]
      · rw [hcontents, hb, Function.update_idem]

end Step

namespace Memory

/-- What the owners have in their buffers. -/
def bytes (s : Memory L H) : Owner L H → Option Bytes := contents s.owner s.heap

end Memory

namespace MemoryOp

/-- The action is defined, leaves each buffer with one owner, and does to the bytes what it does to
values that are their bytes. -/
def Agrees (op : MemoryOp L H) (s : Memory L H) : Prop :=
  ∃ s' x, op.exec s = some (s', x) ∧ Owns s'.owner s'.heap ∧
    op.onBytes (op.starved s) s.bytes = (s'.bytes, x)

variable {s : Memory L H}

theorem agrees_fromSlice (ho : Owns s.owner s.heap) (l : L) (a : Allocator UInt8) (buf : Bytes) :
    (fromSlice (H := H) l a buf).Agrees s := by
  cases hl : s.owner (.value l) with
  | some v =>
    obtain ⟨b, hb, -⟩ := ho.contents_some hl
    have hb : s.bytes (.value l) = some b := hb
    exact ⟨s, .done, by simp only [exec, hl], ho, by simp only [onBytes, hb]⟩
  | none =>
    have hb : s.bytes (.value l) = none := contents_none hl
    rcases fill_spec ho hl a buf with ⟨hnull, hoom⟩ |
      ⟨hfilled, ptr, m₁, m₂, hnew, hstore, ho', hcontents⟩
    · refine ⟨s, .failed StorageHandle.noMemory, ?_, ho, ?_⟩
      · simp only [exec, hl, SqliteMemory.fromSlice, hnull, Option.map_some, Memory.take]
      · simp only [onBytes, starved, hb, hoom, keep]
    · refine ⟨⟨m₂, Function.update s.owner (.value l) (some ⟨ptr, buf.length⟩)⟩, .done, ?_, ho', ?_⟩
      · simp only [exec, hl, SqliteMemory.fromSlice, hnew, hstore, Option.map_some, Memory.take, SqliteMemory.fromRaw]
      · simp only [onBytes, starved, hb, hfilled, keep]
        exact congrArg (·, MemoryAnswer.done) hcontents.symm

theorem agrees_serializeDb (ho : Owns s.owner s.heap) (l : L) (a : Allocator UInt8) (image : Option Bytes)
    (sized : Bool) : (serializeDb (H := H) l a image sized).Agrees s := by
  cases hl : s.owner (.value l) with
  | some v =>
    obtain ⟨b, hb, -⟩ := ho.contents_some hl
    have hb : s.bytes (.value l) = some b := hb
    exact ⟨s, .done, by simp only [exec, hl], ho, by simp only [onBytes, hb]⟩
  | none =>
    have hb : s.bytes (.value l) = none := contents_none hl
    cases image with
    | none =>
      refine ⟨s, .failed StorageHandle.noMemory, ?_, ho, ?_⟩
      · simp only [exec, hl, SqliteMemory.serializeDb, SqliteMemory.sqlite3Serialize, Option.bind_some,
          Option.map_some, Memory.take]
      · cases sized <;> simp [onBytes, starved, refused, hb, keep, filled, StorageHandle.fromSlice]
    | some data =>
      rcases fill_spec ho hl a data with
        ⟨hnull, hoom⟩ | ⟨hfilled, ptr, m₁, m₂, hnew, hstore, ho', hcontents⟩
      · refine ⟨s, .failed StorageHandle.noMemory, ?_, ho, ?_⟩
        · simp only [exec, hl, SqliteMemory.serializeDb, SqliteMemory.sqlite3Serialize, hnull, Option.bind_some,
            Option.map_some, Memory.take]
        · cases sized <;> simp [onBytes, starved, hb, keep, hoom]
      · cases sized with
        | true =>
          refine ⟨⟨m₂, Function.update s.owner (.value l) (some ⟨ptr, data.length⟩)⟩, .done, ?_, ho', ?_⟩
          · have hsize : (data.length : Int) ≠ -1 := by omega
            simp only [exec, hl, SqliteMemory.serializeDb, SqliteMemory.sqlite3Serialize, hnew, hstore, Option.map_some,
              Option.bind_some, if_true, if_neg hsize, Memory.take, SqliteMemory.fromRaw, Int.toNat_natCast]
          · simp only [onBytes, starved, hb, Option.getD_some, hfilled, keep, if_true]
            exact congrArg (·, MemoryAnswer.done) hcontents.symm
        | false =>
          -- the buffer without a size goes back
          obtain ⟨m₃, hfree, ho₃, hcontents₃⟩ := ho'.free (Function.update_self ..)
          rw [Function.update_idem, ← hl, Function.update_eq_self] at ho₃ hcontents₃
          rw [hcontents, Function.update_idem, ← hb] at hcontents₃
          refine ⟨⟨m₃, s.owner⟩, .failed StorageHandle.noMemory, ?_, ho₃, ?_⟩
          · simp only [exec, hl, SqliteMemory.serializeDb, SqliteMemory.sqlite3Serialize, hnew, hstore, Option.map_some,
              Option.bind_some, Bool.false_eq_true, if_false, if_true, hfree, Memory.take]
          · simp only [onBytes, hb, keep, Bool.false_eq_true, if_false]
            refine congrArg (·, MemoryAnswer.failed StorageHandle.noMemory) (hcontents₃.trans ?_).symm
            exact Function.update_eq_self ..

theorem agrees_deserializeDb (ho : Owns s.owner s.heap) (l : L) (h : H) (ok : Bool) :
    (deserializeDb l h ok).Agrees s := by
  cases hl : s.owner (.value l) with
  | none =>
    have hb : s.bytes (.value l) = none := contents_none hl
    exact ⟨s, .done, by simp only [exec, hl], ho, by simp only [onBytes, hb]⟩
  | some data =>
    obtain ⟨b, hb, -⟩ := ho.contents_some hl
    have hbytes : s.bytes (.value l) = some b := hb
    cases ok with
    | false =>
      -- SQLite frees what it was given
      obtain ⟨m', hfree, ho', hcontents⟩ := ho.free hl
      have hconn : Function.update (Function.update s.owner (.value l) none) (.connection h)
          (s.owner (.connection h)) =
          Function.update s.owner (.value l) none := by
        rw [Function.update_eq_self_iff]
        exact (Function.update_of_ne (connection_ne_value h l) ..).symm
      refine ⟨⟨m', Function.update s.owner (.value l) none⟩, .failed SqliteMemory.viewFailed,
        ?_, ho', ?_⟩
      · simp only [exec, hl, SqliteMemory.deserializeDb, SqliteMemory.sqlite3Deserialize, Bool.false_eq_true, if_false,
          hfree, Option.map_some, hconn]
        rfl
      · simp only [onBytes, hbytes, Bool.false_eq_true, if_false]
        exact congrArg (·, MemoryAnswer.failed SqliteMemory.viewFailed) hcontents.symm
    | true =>
      cases hh : s.owner (.connection h) with
      | none =>
        obtain ⟨ho', hcontents⟩ := ho.move hl hh
        rw [hb] at hcontents
        refine ⟨⟨s.heap, _⟩, .done, ?_, ho', ?_⟩
        · simp only [exec, hl, hh, SqliteMemory.deserializeDb, SqliteMemory.sqlite3Deserialize, if_true,
            Option.map_some]
          rfl
        · simp only [onBytes, hbytes, if_true]
          exact congrArg (·, MemoryAnswer.done) hcontents.symm
      | some old =>
        -- the buffer that the connection had is freed
        obtain ⟨m', hfree, ho', hcontents'⟩ := ho.free hh
        have hl' : Function.update s.owner (.connection h) none (.value l) = some data :=
          (Function.update_of_ne (connection_ne_value h l).symm ..).trans hl
        obtain ⟨ho'', hcontents⟩ := ho'.move hl' (Function.update_self ..)
        have hcomm : ∀ {β : Type} (f : Owner L H → Option β),
            Function.update (Function.update f (.connection h) none) (.value l) none =
              Function.update (Function.update f (.value l) none) (.connection h) none :=
          fun f => Function.update_comm (connection_ne_value h l) ..
        rw [hcontents', Function.update_of_ne (connection_ne_value h l).symm, hb, hcomm, hcomm, Function.update_idem,
          Function.update_idem] at hcontents
        rw [hcomm, Function.update_idem] at ho''
        refine ⟨⟨m', _⟩, .done, ?_, ho'', ?_⟩
        · simp only [exec, hl, hh, SqliteMemory.deserializeDb, SqliteMemory.sqlite3Deserialize, if_true, hfree,
            Option.map_some]
          rfl
        · simp only [onBytes, hbytes, if_true]
          exact congrArg (·, MemoryAnswer.done) hcontents.symm

theorem agrees_deref (ho : Owns s.owner s.heap) (l : L) : (deref (H := H) l).Agrees s := by
  cases hl : s.owner (.value l) with
  | none =>
    have hb : s.bytes (.value l) = none := contents_none hl
    exact ⟨s, .done, by simp only [exec, hl], ho, by simp only [onBytes, hb, Option.elim_none]⟩
  | some v =>
    obtain ⟨b, hb, -, hload⟩ := ho.contents_some hl
    have hb : s.bytes (.value l) = some b := hb
    refine ⟨s, .bytes b, ?_, ho, by simp only [onBytes, hb, Option.elim_some]⟩
    simp only [exec, hl, SqliteMemory.deref, hload, Option.map_some]

theorem agrees_move (ho : Owns s.owner s.heap) (l l' : L) : (move (H := H) l l').Agrees s := by
  cases hl : s.owner (.value l) with
  | none =>
    have hb : s.bytes (.value l) = none := contents_none hl
    exact ⟨s, .done, by simp only [exec, hl], ho, by simp only [onBytes, hb]⟩
  | some v =>
    obtain ⟨b, hb, -⟩ := ho.contents_some hl
    have hbytes : s.bytes (.value l) = some b := hb
    cases hl' : s.owner (.value l') with
    | some v' =>
      obtain ⟨b', hb', -⟩ := ho.contents_some hl'
      have hb' : s.bytes (.value l') = some b' := hb'
      exact ⟨s, .done, by simp only [exec, hl, hl'], ho, by simp only [onBytes, hbytes, hb']⟩
    | none =>
      have hb' : s.bytes (.value l') = none := contents_none hl'
      obtain ⟨ho', hcontents⟩ := ho.move hl hl'
      rw [hb] at hcontents
      refine ⟨⟨s.heap, Function.update (Function.update s.owner (.value l) none) (.value l') (some v)⟩, .done,
        by simp only [exec, hl, hl'], ho', ?_⟩
      simp only [onBytes, hbytes, hb']
      exact congrArg (·, MemoryAnswer.done) hcontents.symm

/-- What frees the buffer of one owner, if it has one. -/
theorem agrees_free (ho : Owns s.owner s.heap) (k : Owner L H) {op : MemoryOp L H}
    (hnone : s.owner k = none → op.exec s = some (s, .done))
    (hsome : ∀ v, s.owner k = some v →
      op.exec s = (s.heap.free v.ptr).map fun m => (⟨m, Function.update s.owner k none⟩, .done))
    (hbytes : op.onBytes (op.starved s) s.bytes = (Function.update s.bytes k none, .done)) : op.Agrees s := by
  cases hk : s.owner k with
  | none =>
    have hb : s.bytes k = none := contents_none hk
    rw [← hb, Function.update_eq_self] at hbytes
    exact ⟨s, .done, hnone hk, ho, hbytes⟩
  | some v =>
    obtain ⟨m', hfree, ho', hcontents⟩ := ho.free hk
    refine ⟨⟨m', Function.update s.owner k none⟩, .done, ?_, ho', ?_⟩
    · rw [hsome v hk, hfree, Option.map_some]
    · rw [hbytes]
      exact congrArg (·, MemoryAnswer.done) hcontents.symm

theorem agrees_write (ho : Owns s.owner s.heap) (h : H) (a : Allocator UInt8) (data : Bytes) :
    (write (L := L) h a data).Agrees s := by
  cases hh : s.owner (.connection h) with
  | none =>
    have hb : s.bytes (.connection h) = none := contents_none hh
    exact ⟨s, .done, by simp only [exec, hh], ho, by simp only [onBytes, hb]⟩
  | some old =>
    obtain ⟨b, hb, hlength, -⟩ := ho.contents_some hh
    have hbytes : s.bytes (.connection h) = some b := hb
    by_cases hsize : data.length = old.size
    · -- where it is
      obtain ⟨m', hstore, ho', hcontents⟩ := ho.store hh hsize
      have howner : Function.update s.owner (.connection h) (some old) = s.owner := by
        rw [← hh, Function.update_eq_self]
      have hstarved : (write (L := L) h a data).starved s = false := by simp [starved, hh, hsize]
      refine ⟨⟨m', s.owner⟩, .done, ?_, ho', ?_⟩
      · simp only [exec, hh, SqliteMemory.sqlite3Write, if_pos hsize, hstore, Option.map_some, howner]
      · simp only [onBytes, hbytes, hstarved]
        refine congrArg (·, MemoryAnswer.done) (Eq.trans ?_ hcontents.symm)
        by_cases hdata : data = []
        · subst hdata
          obtain rfl := List.length_eq_zero_iff.1 (hlength.trans hsize.symm)
          rw [← hb, Function.update_eq_self]
          rfl
        · simp only [filled, StorageHandle.fromSlice, List.isEmpty_iff, hdata, keep, Bool.false_eq_true, if_false]
          rfl
    · -- after `sqlite3_realloc64`
      obtain ⟨rest, hfree, ho₁, hrest⟩ := ho.free hh
      have hstarved : (write (L := L) h a data).starved s = refused a rest data.length := by
        simp [starved, hh, hsize, hfree]
      rcases fill_spec ho₁ (Function.update_self ..) a data with
        ⟨hnull, hoom⟩ | ⟨hfilled, ptr, m₁, m₂, hnew, hstore, ho', hcontents⟩
      · refine ⟨s, .done, ?_, ho, ?_⟩
        · have howner : Function.update s.owner (.connection h) (some old) = s.owner := by
            rw [← hh, Function.update_eq_self]
          simp only [exec, hh, SqliteMemory.sqlite3Write, if_neg hsize, hfree, Option.bind_some, hnull, Option.map_some,
            howner]
        · simp only [onBytes, hbytes, hstarved, hoom, keep]
      · rw [Function.update_idem] at ho' hcontents
        rw [hrest, Function.update_idem] at hcontents
        refine ⟨⟨m₂, Function.update s.owner (.connection h) (some ⟨ptr, data.length⟩)⟩, .done, ?_, ho', ?_⟩
        · simp only [exec, hh, SqliteMemory.sqlite3Write, if_neg hsize, hfree, Option.bind_some, hnew, hstore,
            Option.map_some]
        · simp only [onBytes, hbytes, hstarved, hfilled, keep]
          exact congrArg (·, MemoryAnswer.done) hcontents.symm

/-- **One action.** -/
theorem agrees (ho : Owns s.owner s.heap) (op : MemoryOp L H) : op.Agrees s := by
  cases op with
  | fromSlice l a buf => exact agrees_fromSlice ho l a buf
  | serializeDb l a image sized => exact agrees_serializeDb ho l a image sized
  | deserializeDb l h ok => exact agrees_deserializeDb ho l h ok
  | deref l => exact agrees_deref ho l
  | move l l' => exact agrees_move ho l l'
  | drop l =>
    refine agrees_free ho (.value l) (fun hl => ?_) (fun v hl => ?_) rfl
    · simp only [exec, hl]
    · simp only [exec, hl, SqliteMemory.drop]
  | write h a data => exact agrees_write ho h a data
  | close h =>
    refine agrees_free ho (.connection h) (fun hh => ?_) (fun v hh => ?_) rfl
    · simp only [exec, hh]
    · simp only [exec, hh]

/-- **Any number of actions.** -/
theorem run_agrees (ho : Owns s.owner s.heap) (ops : List (MemoryOp L H)) :
    ∃ s' answers, run ops s = some (s', answers) ∧ Owns s'.owner s'.heap ∧
      runOnBytes (ops.zip (starvedAlong ops s)) s.bytes = (s'.bytes, answers) := by
  induction ops generalizing s with
  | nil => exact ⟨s, [], rfl, ho, rfl⟩
  | cons op ops ih =>
    obtain ⟨s₁, x, hexec, ho₁, hbytes⟩ := agrees ho op
    obtain ⟨s', answers, hrun, ho', hrest⟩ := ih ho₁
    refine ⟨s', x :: answers, ?_, ho', ?_⟩
    · simp only [run, hexec, Option.bind_some, hrun, Option.map_some]
    · simp only [starvedAlong, hexec, Option.elim_some, List.zip_cons_cons, runOnBytes, hbytes, hrest]

end MemoryOp

/-- **The unsafe code is safe.** Whatever is done with the buffers, in any order and however the allocator
and SQLite answer: nothing is undefined (no buffer is freed twice, or read or written once freed, or beyond its
end); a buffer that is allocated has one owner; and all answers are those of values that are their bytes, with
`noMemory` for an empty slice and where the allocator, asked on the heap of that moment, had no block. -/
theorem sqlite_memory_safe (ops : List (MemoryOp L H)) :
    ∃ s answers, MemoryOp.run ops .fresh = some (s, answers) ∧
      (∀ p b, s.heap.block p = some b → ∃! k, ∃ v, s.owner k = some v ∧ v.ptr = p) ∧
      (∀ k v, s.owner k = some v → ∃ b, s.heap.block v.ptr = some b ∧ b.length = v.size) ∧
      MemoryOp.runOnBytes (ops.zip (MemoryOp.starvedAlong ops .fresh)) (fun _ => none) = (s.bytes, answers) := by
  obtain ⟨s, answers, hrun, ho, hbytes⟩ := MemoryOp.run_agrees (s := .fresh) owns_empty ops
  refine ⟨s, answers, hrun, fun p b hp => ?_, ho.block, hbytes⟩
  obtain ⟨k, v, hk, hv⟩ := ho.owned p b hp
  refine ⟨k, ⟨v, hk, hv⟩, ?_⟩
  rintro k' ⟨v', hk', hv'⟩
  exact ho.apart k' k v' v hk' hk (hv'.trans hv.symm)

end Runs

end Replicat
