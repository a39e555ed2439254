import Mathlib.Data.Fin.Tuple.Basic
import Replicat.Storage.Params

/-!
# Rows as tuples

`FromRow` of the tuples, as the macros of `storage/from_row_impl.rs` generate it: one `row.get` a field,
with a cursor that goes from column to column. `tuple_read_back` puts it beside the parameters of
`execute`: a row of the parameters of a sequence reads back as the sequence, one of the parameters of a
tuple as the mirrored tuple.
-/

namespace Replicat

open Sqlite IntoParam

/-! ## Columns -/

/-- `rusqlite::types::FromSqlError`. -/
inductive FromSqlError where
  | invalidType
  | outOfRange (v : Int)
  deriving DecidableEq, Repr

/-- What `row.get` fails with. -/
inductive ColumnError where
  | invalidColumnIndex (index : Nat)
  | invalidColumnType (index : Nat)
  | integralValueOutOfRange (index : Nat) (v : Int)
  deriving DecidableEq, Repr

/-- `rusqlite::types::FromSql`. -/
class FromSql (T : Type) where
  columnResult : Value → Except FromSqlError T

open FromSql (columnResult)

/-- `v as f64`: to the nearest, ties to even. -/
def F64.ofInt (v : Int) : F64 :=
  let n := v.natAbs
  let e := n.log2
  let sign := if v < 0 then 2 ^ 63 else 0
  let pack (significand : Nat) : F64 := ⟨UInt64.ofNat (sign + (e + 1023) * 2 ^ 52 + (significand - 2 ^ 52))⟩
  if n = 0 then ⟨0⟩
  else if e ≤ 52 then pack (n * 2 ^ (52 - e))
  else
    let d := 2 ^ (e - 52)
    let up := d < 2 * (n % d) ∨ 2 * (n % d) = d ∧ n / d % 2 = 1
    -- A carry out of the significand goes to the exponent.
    pack (if up then n / d + 1 else n / d)

example : F64.ofInt (-3) = ⟨0xc008000000000000⟩ := by decide

def i64ColumnResult : Value → Except FromSqlError Int
  | .integer v => .ok v
  | _ => .error .invalidType

instance : FromSql Value := ⟨.ok⟩
instance : FromSql Int64 := ⟨fun v => (i64ColumnResult v).map Int64.ofInt⟩
instance : FromSql Bool := ⟨fun v => (i64ColumnResult v).map (· ≠ 0)⟩

instance : FromSql Int32 where
  columnResult v := (i64ColumnResult v).bind fun i =>
    if -2 ^ 31 ≤ i ∧ i < 2 ^ 31 then .ok (Int32.ofInt i) else .error (.outOfRange i)

instance : FromSql F64 where
  columnResult
    | .integer v => .ok (F64.ofInt v)
    | .real v => .ok v
    | _ => .error .invalidType

instance : FromSql String where
  columnResult
    | .text v => .ok v
    | _ => .error .invalidType

instance : FromSql Bytes where
  columnResult
    | .blob v => .ok v
    | _ => .error .invalidType

instance {T : Type} [FromSql T] : FromSql (Option T) where
  columnResult
    | .null => .ok none
    | v => (columnResult v).map some

def columnError (index : Nat) : FromSqlError → ColumnError
  | .invalidType => .invalidColumnType index
  | .outOfRange v => .integralValueOutOfRange index v

/-- `row.get`. -/
def rowGet (T : Type) [FromSql T] (row : Row) (index : Nat) : Except ColumnError T :=
  match row[index]? with
  | none => .error (.invalidColumnIndex index)
  | some v => (columnResult v).mapError (columnError index)

/-- What a parameter is bound to is read as the value it was. -/
class LawfulFromSql (T : Type) [IntoParam T] [FromSql T] : Prop where
  columnResult_into : ∀ v : T, columnResult (into v).toSql = .ok v

instance : LawfulFromSql Int64 := ⟨fun v => congrArg Except.ok (Int64.ofInt_toInt v)⟩
instance : LawfulFromSql Bool := ⟨fun v => by cases v <;> rfl⟩
instance : LawfulFromSql String := ⟨fun _ => rfl⟩
instance : LawfulFromSql Bytes := ⟨fun _ => rfl⟩

instance : LawfulFromSql Int32 where
  columnResult_into v := by
    have hv : v.toInt64.toInt = v.toInt := Int32.toInt_toInt64 v
    have hrange : -2 ^ 31 ≤ v.toInt ∧ v.toInt < 2 ^ 31 := ⟨Int32.le_toInt v, Int32.toInt_lt v⟩
    show (if -2 ^ 31 ≤ v.toInt64.toInt ∧ v.toInt64.toInt < 2 ^ 31 then _ else _) = _
    rw [hv, if_pos hrange, Int32.ofInt_toInt]

/-! ## Tuples -/

/-- The arity of the instance that `derive_tuple!` generates. -/
def deriveRowTuple (fields : List String) : Nat := fields.length

def deriveCommonRowTuples : List String → List Nat
  | [] => []
  | first :: rest => deriveRowTuple (first :: rest) :: deriveCommonRowTuples rest

/-- The macro call that generates the instances of the crate. -/
def rowTuples : List Nat :=
  deriveCommonRowTuples ["T1", "T2", "T3", "T4", "T5", "T6", "T7", "T8", "T9", "T10", "T11", "T12", "T13", "T14",
    "T15", "T16"]

/-- `row.get(inc(&mut cursor))?` field by field. -/
def readFields (row : Row) :
    {n : Nat} → (T : Fin n → Type) → [∀ i, FromSql (T i)] → (cursor : Nat) → Except ColumnError (Tuple T)
  | 0, _, _, _ => .ok ⟨fun i => i.elim0⟩
  | _ + 1, T, _, cursor =>
    match rowGet (T 0) row cursor with
    | .error e => .error e
    | .ok v =>
      match readFields row (fun i => T i.succ) (cursor + 1) with
      | .error e => .error e
      | .ok rest => .ok ⟨Fin.cons v rest.get⟩

/-- `from_row` of the tuples with these fields. -/
def Tuple.fromRow {n : Nat} (T : Fin n → Type) [∀ i, FromSql (T i)] (row : Row) : Except ColumnError (Tuple T) :=
  readFields row T 0

section Tuple

variable {n : Nat} {T : Fin n → Type}

theorem Tuple.ext {s t : Tuple T} (h : ∀ i, s.get i = t.get i) : s = t := by
  cases s
  cases t
  exact congrArg Tuple.mk (funext h)

/-- The columns of the fields after the first. -/
theorem cursor_succ (cursor : Nat) (i : Fin n) : cursor + 1 + (i : Nat) = cursor + (i.succ : Fin (n + 1)) := by
  rw [Fin.val_succ]
  omega

variable [∀ i, FromSql (T i)] {row : Row}

/-- **What is read** is each field from its own column. -/
theorem readFields_ok_iff {t : Tuple T} {cursor : Nat} :
    readFields row T cursor = .ok t ↔ ∀ i : Fin n, rowGet (T i) row (cursor + i) = .ok (t.get i) := by
  induction n generalizing cursor with
  | zero => exact ⟨fun _ i => i.elim0, fun _ => congrArg Except.ok (Tuple.ext fun i => i.elim0)⟩
  | succ n ih =>
    have hsucc : ∀ i : Fin n, cursor + 1 + (i : Nat) = cursor + (i.succ : Fin (n + 1)) := cursor_succ cursor
    rw [Fin.forall_fin_succ, readFields]
    cases hfirst : rowGet (T 0) row cursor with
    | error e => simp [hfirst]
    | ok v =>
      cases hrest : readFields row (fun i => T i.succ) (cursor + 1) with
      | error e =>
        refine ⟨nofun, fun ⟨_, h⟩ => ?_⟩
        have hall := (ih (T := fun i => T i.succ) (t := ⟨fun i => t.get i.succ⟩)).2 fun i => by rw [hsucc]; exact h i
        rw [hrest] at hall
        cases hall
      | ok rest =>
        have hgets := ih.1 hrest
        simp only [hsucc] at hgets
        constructor
        · intro h
          cases h
          exact ⟨by simpa using hfirst, fun i => by simpa using hgets i⟩
        · rintro ⟨h0, h⟩
          refine congrArg Except.ok (Tuple.ext fun i => ?_)
          refine Fin.cases ?_ (fun i => ?_) i
          · have h0 : rowGet (T 0) row cursor = .ok (t.get 0) := h0
            rw [hfirst] at h0
            exact Except.ok.inj h0
          · have hi := (hgets i).symm.trans (h i)
            exact Except.ok.inj hi

/-- **The error** is that of the first column that fails. -/
theorem readFields_error_iff {e : ColumnError} {cursor : Nat} :
    readFields row T cursor = .error e ↔ ∃ i : Fin n, rowGet (T i) row (cursor + i) = .error e ∧
      ∀ j < i, ∃ v, rowGet (T j) row (cursor + j) = .ok v := by
  induction n generalizing cursor with
  | zero => exact ⟨nofun, fun ⟨i, _⟩ => i.elim0⟩
  | succ n ih =>
    have hsucc : ∀ i : Fin n, cursor + 1 + (i : Nat) = cursor + (i.succ : Fin (n + 1)) := cursor_succ cursor
    rw [readFields]
    cases hfirst : rowGet (T 0) row cursor with
    | error e' =>
      constructor
      · intro h
        cases h
        exact ⟨0, by simpa using hfirst, fun j hj => absurd hj (Fin.not_lt_zero j)⟩
      · rintro ⟨i, hi, hbefore⟩
        refine Fin.cases (fun hi _ => ?_) (fun i _ hbefore => ?_) i hi hbefore
        · simpa [hfirst] using hi
        · obtain ⟨v, hv⟩ := hbefore 0 (Fin.succ_pos i)
          exact nomatch hfirst.symm.trans hv
    | ok v =>
      have hrest : readFields row (fun i : Fin n => T i.succ) (cursor + 1) = .error e ↔ _ := ih
      simp only [hsucc] at hrest
      have hiff : readFields row (fun i => T i.succ) (cursor + 1) = .error e ↔
          ∃ i : Fin (n + 1), rowGet (T i) row (cursor + i) = .error e ∧
            ∀ j < i, ∃ v, rowGet (T j) row (cursor + j) = .ok v := by
        rw [hrest]
        constructor
        · rintro ⟨i, hi, hbefore⟩
          refine ⟨i.succ, hi, fun j => Fin.cases (fun _ => ⟨v, by simpa using hfirst⟩) (fun j hj => ?_) j⟩
          exact hbefore j (Fin.succ_lt_succ_iff.1 hj)
        · rintro ⟨i, hi, hbefore⟩
          refine Fin.cases (fun hi _ => ?_) (fun i hi hbefore => ?_) i hi hbefore
          · exact nomatch hfirst.symm.trans hi
          · exact ⟨i, hi, fun j hj => hbefore j.succ (Fin.succ_lt_succ_iff.2 hj)⟩
      rw [← hiff]
      cases readFields row (fun i => T i.succ) (cursor + 1) with
      | error e' =>
        constructor <;> intro h <;> cases h <;> rfl
      | ok rest => exact ⟨nofun, nofun⟩

theorem rowGet_ok_iff {S : Type} [FromSql S] {i : Nat} {t : S} :
    rowGet S row i = .ok t ↔ ∃ v, row[i]? = some v ∧ columnResult v = .ok t := by
  unfold rowGet
  cases row[i]? with
  | none => exact ⟨nofun, fun ⟨v, hv, _⟩ => nomatch hv⟩
  | some v =>
    have hok : (columnResult v).mapError (columnError i) = .ok t ↔ columnResult v = .ok t := by
      cases (columnResult v : Except FromSqlError S) with
      | error e => exact ⟨nofun, nofun⟩
      | ok t' => exact ⟨fun h => congrArg Except.ok (Except.ok.inj h), fun h => congrArg Except.ok (Except.ok.inj h)⟩
    exact hok.trans ⟨fun h => ⟨v, rfl, h⟩, fun ⟨v', hv', h⟩ => Option.some.inj hv' ▸ h⟩

/-! ## What was bound -/

theorem ofFn_rev {α : Type} (f : Fin n → α) : (List.ofFn fun i => f i.rev) = (List.ofFn f).reverse := by
  refine List.ext_getElem (by simp) fun i h h' => ?_
  have hi : i < n := by simpa using h
  have hrev : (⟨i, hi⟩ : Fin n).rev = ⟨n - 1 - i, by omega⟩ := by
    refine Fin.ext ?_
    show n - (i + 1) = n - 1 - i
    omega
  simp only [List.getElem_ofFn, List.getElem_reverse, List.length_ofFn]
  rw [hrev]

variable [∀ i, IntoParam (T i)]

/-- The row that a statement makes of these parameters, in their order, and of anything after them. -/
def rowOf (params : List TransportableParam) (extra : Row) : Row := params.map TransportableParam.toSql ++ extra

/-- The values of the components, in their order, read back. -/
theorem fromRow_converted [∀ i, LawfulFromSql (T i)] (self : Tuple T) (extra : Row) :
    Tuple.fromRow T (rowOf self.converted extra) = .ok self := by
  refine readFields_ok_iff.2 fun i => rowGet_ok_iff.2 ⟨(into (self.get i)).toSql, ?_, ?_⟩
  · have hlength : (i : Nat) < (self.converted.map TransportableParam.toSql).length := by
      simp [Tuple.converted]
    rw [Nat.zero_add, rowOf, List.getElem?_append_left hlength]
    simp [Tuple.converted]
  · exact LawfulFromSql.columnResult_into _

omit [∀ i, FromSql (T i)] [∀ i, IntoParam (T i)] in
/-- The components last to first. -/
def Tuple.mirror (self : Tuple T) : Tuple fun i : Fin n => T i.rev := ⟨fun i => self.get i.rev⟩

omit [∀ i, FromSql (T i)] in
theorem converted_mirror (self : Tuple T) : self.mirror.converted = self.converted.reverse :=
  ofFn_rev fun i => into (self.get i)

omit [∀ i, IntoParam (T i)] [∀ i, FromSql (T i)] in
theorem mem_rowTuples (h1 : 1 ≤ n) (h16 : n ≤ 16) : n ∈ rowTuples := by
  have hall : ∀ n ∈ List.range' 1 16, n ∈ rowTuples := by decide
  exact hall n (by rw [List.mem_range'_1]; omega)

/-- **Rows and parameters.** A tuple is read from its own columns, one after the other, up to the first that
fails. What `execute` has bound of a tuple is read back as the mirrored tuple, and what it has bound of a
sequence as it was. -/
theorem tuple_read_back [∀ i, LawfulFromSql (T i)] {inst : TupleInstance} (h : tupleInstance n = some inst) :
    n ∈ rowTuples ∧
    (∀ row t, Tuple.fromRow T row = .ok t ↔
      ∀ i : Fin n, ∃ v, row[(i : Nat)]? = some v ∧ columnResult v = .ok (t.get i)) ∧
    (∀ row e, Tuple.fromRow T row = .error e ↔ ∃ i : Fin n, rowGet (T i) row i = .error e ∧
      ∀ j < i, ∃ v, rowGet (T j) row j = .ok v) ∧
    (∀ (self : Tuple T) (extra : Row),
      Tuple.fromRow (fun i : Fin n => T i.rev) (rowOf (inst.toParams self) extra) = .ok self.mirror) ∧
    ∀ {S : Type} [IntoParam S] [FromSql S] [LawfulFromSql S] (v : Vector S n) (extra : Row),
      Tuple.fromRow (fun _ : Fin n => S) (rowOf (ParamsValue.array v).params extra) = .ok ⟨fun i => v[i]⟩ := by
  obtain ⟨h1, h16, -⟩ := tupleInstance_eq_some h
  refine ⟨mem_rowTuples h1 h16, fun row t => ?_, fun row e => ?_, fun self extra => ?_, fun v extra => ?_⟩
  · simp only [Tuple.fromRow, readFields_ok_iff, Nat.zero_add, rowGet_ok_iff]
  · simp only [Tuple.fromRow, readFields_error_iff, Nat.zero_add]
  · rw [TupleInstance.toParams_eq h, ← converted_mirror]
    exact fromRow_converted self.mirror extra
  · have hparams : (ParamsValue.array v).params = (⟨fun i => v[i]⟩ : Tuple fun _ : Fin n => _).converted := by
      rw [ParamsValue.params_eq (v := .array v) nofun]
      refine List.ext_getElem (by simp [Tuple.converted, ParamsValue.converted]) fun i hi hi' => ?_
      simp [Tuple.converted, ParamsValue.converted]
    rw [hparams]
    exact fromRow_converted _ extra

end Tuple

/-- The pair `(0, 1)`, in a row with a third column. -/
theorem tuple_read_back_pair :
    let pair : Tuple fun _ : Fin 2 => Int64 := ⟨fun i => Int64.ofNat i⟩
    Tuple.fromRow (fun _ : Fin 2 => Int64) (rowOf (TupleInstance.toParams ⟨2, [1, 0]⟩ pair) [.null]) =
      .ok pair.mirror :=
  (tuple_read_back (T := fun _ => Int64) (by decide)).2.2.2.1 ⟨fun i => Int64.ofNat i⟩ [.null]

end Replicat
