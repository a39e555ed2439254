import Mathlib.Algebra.Group.Int.Defs
import Mathlib.Algebra.Group.Nat.Defs
import Mathlib.Data.Option.Basic
import Mathlib.Logic.Basic

/-!
# A connection to one SQLite database

What a program sees of SQLite through one connection, over any type `D` of database contents
as a connection sees them: what is in the file, with what the connection keeps beside it
(`Own`) until it is closed. A `Session` is the contents the connection reads, with the contents
to go back to while a transaction is open. A `Connection` is a session over a backing: the file
it was opened on, or memory. `deserialize` leaves the file and goes on in memory, so `durable`,
what opening the same path again finds, no longer follows the session.

`Prepared D` is a statement with its parameters bound, as the effect of stepping it to the
end; `execute`, `queryRow` and `query` are the three ways `rusqlite` runs one.
-/

namespace Sqlite

abbrev Bytes := List UInt8

/-- A 64-bit float, by its bits. -/
structure F64 where
  bits : UInt64
  deriving DecidableEq, Repr

/-- A value of one of the storage classes. -/
inductive Value where
  | null
  | integer (v : Int)
  | real (v : F64)
  | text (v : String)
  | blob (v : Bytes)
  deriving DecidableEq, Repr

/-! ### Arithmetic -/

def isSpace (c : Char) : Bool := c = ' ' || (9 ≤ c.toNat && c.toNat ≤ 13)

/-- A sign, if there is one (`true` for a minus), and what is behind it. -/
def leadingSign : List Char → Bool × List Char
  | '-' :: l => (true, l)
  | '+' :: l => (false, l)
  | l => (false, l)

def ofDigits (digits : List Char) : Nat := digits.foldl (fun n c => 10 * n + (c.toNat - 48)) 0

/-- The exponent behind the digits of a number. -/
def leadingExponent : List Char → Option Int
  | [] => none
  | c :: l =>
    let digits := (leadingSign l).2.takeWhile Char.isDigit
    if (c = 'e' ∨ c = 'E') ∧ digits ≠ [] then
      some (if (leadingSign l).1 then -ofDigits digits else ofDigits digits)
    else none

/-- `digits * 10 ^ exponent`, rounded. -/
def F64.ofDecimal (negative : Bool) (digits : Nat) (exponent : Int) : F64 :=
  let x := Float.ofScientific digits (exponent < 0) exponent.natAbs
  ⟨(if negative then -x else x).toBits⟩

/-- The number that a text starts with: 0 if there is none; a float if it has a point or an
exponent, or leaves 64 bits. -/
def leadingNumber (s : List Char) : Value :=
  let (negative, s) := leadingSign (s.dropWhile isSpace)
  let whole := s.takeWhile Char.isDigit
  let s := s.dropWhile Char.isDigit
  let point := s.head? = some '.'
  let fraction := if point then s.tail.takeWhile Char.isDigit else []
  let exponent := leadingExponent (if point then s.tail.dropWhile Char.isDigit else s)
  let v : Int := if negative then -ofDigits whole else ofDigits whole
  if whole = [] ∧ fraction = [] then .integer 0
  else if ¬ point ∧ exponent = none ∧ -2 ^ 63 ≤ v ∧ v < 2 ^ 63 then .integer v
  else .real (.ofDecimal negative (ofDigits (whole ++ fraction)) (exponent.getD 0 - fraction.length))

/-- A value as an operand of arithmetic. The bytes of a blob are read as a text. -/
def Value.number : Value → Value
  | .text v => leadingNumber v.toList
  | .blob v => leadingNumber (v.map fun byte => Char.ofNat byte.toNat)
  | v => v

/-- SQL's `value + 1`. An integer that leaves 64 bits becomes a float. -/
def Value.plusOne (v : Value) : Value :=
  match v.number with
  | .integer n => if n + 1 < 2 ^ 63 then .integer (n + 1) else .real ⟨0x43e0000000000000⟩
  | .real x => .real ⟨(Float.ofBits x.bits + 1).toBits⟩
  | _ => .null

theorem Value.plusOne_integer (n : Int) : (Value.integer n).plusOne =
    if n + 1 < 2 ^ 63 then .integer (n + 1) else .real ⟨0x43e0000000000000⟩ := rfl

example : (Value.text " +41x").plusOne = .integer 42 := by decide

abbrev Row := List Value

inductive ErrorCode where
  | error
  | busy
  | noMem
  | ioErr
  | readOnly
  | notADb
  | constraint
  deriving DecidableEq, Repr

/-- `rusqlite::Error`. -/
inductive SqlError where
  | sqliteFailure (code : ErrorCode) (message : Option String)
  | executeReturnedResults
  | invalidColumnType (index : Nat)
  | invalidParameterCount
  | toSqlConversionFailure
  deriving DecidableEq, Repr

/-- What a statement that ran to its end returned. -/
structure Output where
  rows : List Row
  changes : Nat
  deriving DecidableEq, Repr

/-- The error a statement met when it was stepped, after these rows. -/
structure Failure where
  rows : List Row
  error : SqlError
  deriving DecidableEq, Repr

/-! ## Sessions -/

/-- What a connection keeps for itself. -/
structure Own where
  changes : Nat
  totalChanges : Nat
  lastInsertRowid : Int
  /-- TEMP tables, views and triggers, and what PRAGMAs have set. -/
  objects : List (String × Value)
  deriving DecidableEq, Repr

namespace Own

/-- Of a connection just opened. -/
def fresh : Own := ⟨0, 0, 0, []⟩

/-- After a statement that changed `n` rows, and inserted the last of them if it inserted one. -/
def wrote (n : Nat) (rowid : Option Int) (own : Own) : Own where
  changes := n
  totalChanges := own.totalChanges + n
  lastInsertRowid := rowid.getD own.lastInsertRowid
  objects := own.objects

end Own

/-- Contents as a connection sees them. -/
class Contents (D : Type) where
  /-- What of them is in the file, and seen when it is opened again. -/
  atRest : D → D
  atRest_atRest : ∀ d, atRest (atRest d) = atRest d
  /-- Other contents, under the connection that saw these. -/
  replace : D → D → D

export Contents (atRest)

attribute [simp] Contents.atRest_atRest

structure Session (D : Type) where
  main : D
  /-- The contents a rollback restores; a transaction is open when there are any. -/
  saved : Option D
  deriving DecidableEq, Repr

namespace Session

variable {D : Type}

/-- The contents with no transaction open. -/
def committed (s : Session D) : D := s.saved.getD s.main

@[simp] theorem committed_mk_none (d : D) : (⟨d, none⟩ : Session D).committed = d := rfl

/-- The session once its contents are `image`; an open transaction stays open. -/
def load [Contents D] (s : Session D) (image : D) : Session D :=
  ⟨Contents.replace s.main image, s.saved.map fun _ => Contents.replace s.main image⟩

@[simp] theorem load_mk_none [Contents D] (d image : D) :
    (⟨d, none⟩ : Session D).load image = ⟨Contents.replace d image, none⟩ := rfl

end Session

/-- A statement with its parameters bound. -/
abbrev Prepared (D : Type) := Session D → Session D × Except Failure Output

/-- A statement that reads and writes the main database only, and changes nothing when it
fails. -/
def Prepared.onMain {D : Type} (f : D → Except SqlError (D × Output)) : Prepared D := fun s =>
  match f s.main with
  | .ok (d, out) => ({ s with main := d }, .ok out)
  | .error e => (s, .error ⟨[], e⟩)

/-! ## Connections -/

inductive Backing (D : Type) where
  /-- Commits reach the file. -/
  | disk
  /-- Nothing does. `left` is what the file the connection was opened on still holds. -/
  | memory (left : Option D)
  deriving DecidableEq, Repr

inductive JournalMode where
  | delete
  | wal
  | memory
  deriving DecidableEq, Repr

inductive Synchronous where
  | normal
  | full
  deriving DecidableEq, Repr

structure Connection (D : Type) where
  /-- `none` once a buffer that is not a database was deserialized. -/
  session : Option (Session D)
  backing : Backing D
  journalMode : JournalMode
  synchronous : Synchronous
  deriving DecidableEq, Repr

def notADb : SqlError := .sqliteFailure .notADb (some "file is not a database")

namespace Connection

variable {D α : Type}

/-- What is at the path the connection was opened on, with what is not in the file still there. -/
def durable (c : Connection D) : Option D :=
  match c.backing with
  | .disk => c.session.map (·.committed)
  | .memory left => left

/-- Open the file that holds `file`; a missing file is created as the database `new`. -/
def openDisk [Contents D] (new : D) (file : Option D) : Connection D where
  session := some ⟨file.elim new atRest, none⟩
  backing := .disk
  journalMode := .delete
  synchronous := .full

/-- Open `:memory:`. -/
def openMemory (new : D) : Connection D where
  session := some ⟨new, none⟩
  backing := .memory none
  journalMode := .memory
  synchronous := .full

/-- Nothing at the path. -/
def absent : Connection D where
  session := none
  backing := .disk
  journalMode := .delete
  synchronous := .full

def step (c : Connection D) (stmt : Prepared D) : Connection D × Except Failure Output :=
  match c.session with
  | none => (c, .error ⟨[], notADb⟩)
  | some s => ({ c with session := some (stmt s).1 }, (stmt s).2)

/-- What `Statement::execute` makes of the steps of a statement: the rows changed; a statement
that returns rows is an error. -/
def executed : Except Failure Output → Except SqlError Nat
  | .ok out => if out.rows.isEmpty then .ok out.changes else .error .executeReturnedResults
  | .error f => .error (if f.rows.isEmpty then f.error else .executeReturnedResults)

theorem executed_ok_iff {r : Except Failure Output} {n : Nat} : executed r = .ok n ↔ r = .ok ⟨[], n⟩ := by
  rcases r with f | ⟨_ | ⟨row, rows⟩, m⟩ <;> simp [executed]

def execute (c : Connection D) (stmt : Prepared D) : Connection D × Except SqlError Nat :=
  ((c.step stmt).1, executed (c.step stmt).2)

def firstRow (fromRow : Row → Except SqlError α) : List Row → Except SqlError (Option α)
  | [] => .ok none
  | row :: _ => (fromRow row).map some

/-- What `Statement::query_row` with `optional` makes of them: the first row, if there is one.
What comes behind it is not stepped to. -/
def firstOf (fromRow : Row → Except SqlError α) : Except Failure Output → Except SqlError (Option α)
  | .ok out => firstRow fromRow out.rows
  | .error f => if f.rows.isEmpty then .error f.error else firstRow fromRow f.rows

def queryRow (c : Connection D) (stmt : Prepared D) (fromRow : Row → Except SqlError α) :
    Connection D × Except SqlError (Option α) :=
  ((c.step stmt).1, firstOf fromRow (c.step stmt).2)

/-- What `Statement::query` makes of them, every row read in its turn. -/
def allOf (fromRow : Row → Except SqlError α) : Except Failure Output → Except SqlError (List α)
  | .ok out => out.rows.mapM fromRow
  | .error f => (f.rows.mapM fromRow).bind fun _ => .error f.error

def query (c : Connection D) (stmt : Prepared D) (fromRow : Row → Except SqlError α) :
    Connection D × Except SqlError (List α) :=
  ((c.step stmt).1, allOf fromRow (c.step stmt).2)

/-- The connection once a buffer that parses as `image` has replaced its contents: it leaves its
file and goes on in memory over the buffer. -/
def replaced [Contents D] (c : Connection D) (image : Option D) : Connection D where
  session := image.map fun d => c.session.elim ⟨d, none⟩ (·.load d)
  backing := .memory c.durable
  journalMode := .memory
  synchronous := c.synchronous

/-- `sqlite3_deserialize` of a buffer that parses as `image`, and whether it returned
`SQLITE_OK`: it fails for want of memory only. -/
def deserialize [Contents D] (c : Connection D) (image : Option D) : Connection D × Bool :=
  (c.replaced image, true)

/-- The connection is gone; what is at its path stays. -/
def close (c : Connection D) : Connection D :=
  { c with session := c.durable.map (⟨·, none⟩), backing := .disk }

@[simp] theorem durable_close (c : Connection D) : c.close.durable = c.durable := by
  unfold close
  rcases h : c.durable with _ | d <;> simp [durable, Session.committed]

@[simp] theorem durable_openDisk [Contents D] (new : D) (file : Option D) :
    (openDisk new file).durable = some (file.elim new atRest) := rfl

/-- No statement changes what the connection is backed by. -/
@[simp] theorem backing_step (c : Connection D) (stmt : Prepared D) :
    (c.step stmt).1.backing = c.backing := by
  unfold step
  cases c.session <;> rfl

@[simp] theorem journalMode_step (c : Connection D) (stmt : Prepared D) :
    (c.step stmt).1.journalMode = c.journalMode := by
  unfold step
  cases c.session <;> rfl

@[simp] theorem backing_execute (c : Connection D) (stmt : Prepared D) :
    (c.execute stmt).1.backing = c.backing := backing_step c stmt

@[simp] theorem backing_queryRow (c : Connection D) (stmt : Prepared D)
    (fromRow : Row → Except SqlError α) : (c.queryRow stmt fromRow).1.backing = c.backing :=
  backing_step c stmt

/-- On a file and outside a transaction, a later open finds what the connection reads. -/
theorem durable_of_disk {c : Connection D} {d : D} (hb : c.backing = .disk)
    (hs : c.session = some ⟨d, none⟩) : c.durable = some d := by
  simp [durable, hb, hs]

theorem step_some {c : Connection D} {s : Session D} (h : c.session = some s)
    (stmt : Prepared D) :
    c.step stmt = ({ c with session := some (stmt s).1 }, (stmt s).2) := by
  simp [step, h]

theorem step_onMain {c : Connection D} {s : Session D} {f : D → Except SqlError (D × Output)}
    {d : D} {out : Output} (h : c.session = some s) (hf : f s.main = .ok (d, out)) :
    c.step (.onMain f) = ({ c with session := some { s with main := d } }, .ok out) := by
  rw [step_some h]
  simp [Prepared.onMain, hf]

/-- A statement on the main database either runs on a session or changes nothing. -/
theorem step_onMain_cases (c : Connection D) (f : D → Except SqlError (D × Output)) :
    (∃ s d out, c.session = some s ∧ f s.main = .ok (d, out) ∧
      c.step (.onMain f) = ({ c with session := some { s with main := d } }, .ok out)) ∨
    ∃ e, c.step (.onMain f) = (c, .error ⟨[], e⟩) := by
  cases hs : c.session with
  | none => exact .inr ⟨notADb, by simp only [step, hs]⟩
  | some s =>
    cases hf : f s.main with
    | ok r => exact .inl ⟨s, r.1, r.2, rfl, hf, step_onMain hs hf⟩
    | error e =>
      refine .inr ⟨e, ?_⟩
      rw [step_some hs]
      unfold Prepared.onMain
      rw [hf]
      exact Prod.ext (by rw [← hs]) rfl

theorem execute_onMain_eq_ok {c : Connection D} {f : D → Except SqlError (D × Output)} {n : Nat}
    (h : (c.execute (.onMain f)).2 = .ok n) :
    ∃ s d out, c.session = some s ∧ f s.main = .ok (d, out) ∧
      (c.execute (.onMain f)).1 = { c with session := some { s with main := d } } := by
  unfold execute at h ⊢
  rcases step_onMain_cases c f with ⟨s, d, out, hs, hf, hstep⟩ | ⟨e, hstep⟩
  · exact ⟨s, d, out, hs, hf, by rw [hstep]⟩
  · rw [hstep] at h
    cases h

theorem replaced_some [Contents D] {c : Connection D} {s : Session D} (h : c.session = some s)
    (image : Option D) : (c.replaced image).session = image.map s.load := by
  simp [replaced, h]

end Connection

end Sqlite
