import Mathlib.Data.List.FinRange
import Replicat.Lib.Sqlite

/-!
# Statement parameters

`TransportableParam` and its conversions, and the `IntoTransportableParams` instances of
`storage/params.rs`. The sequence instances push the converted entries in order. The tuple
instances come from two macros: `deriveCommonTuples` walks the list of `index => type` pairs
and `deriveTuple` turns each suffix of it into the instance of one arity, which converts the
components in the order the suffix lists their indices.
-/

namespace Replicat

open Sqlite

/-- An `f32`, by its bits. -/
structure F32 where
  bits : UInt32
  deriving DecidableEq, Repr

/-- `v as f64`: exact on every number. A NaN keeps its payload and becomes quiet. -/
def F32.toF64 (v : F32) : F64 :=
  let b := v.bits.toNat
  let sign := b / 2 ^ 31
  let exp := b / 2 ^ 23 % 2 ^ 8
  let man := b % 2 ^ 23
  let pack (e m : Nat) : F64 := ⟨UInt64.ofNat (sign * 2 ^ 63 + e * 2 ^ 52 + m)⟩
  if exp = 255 then pack 2047 (if man = 0 then 0 else (man * 2 ^ 29) ||| 2 ^ 51)
  else if exp ≠ 0 then pack (exp + 896) (man * 2 ^ 29)
  else if man = 0 then pack 0 0
  -- A subnormal is `man * 2 ^ (-149)`, which is normal as an `f64`.
  else pack (man.log2 + 874) ((man - 2 ^ man.log2) * 2 ^ (52 - man.log2))

example : F32.toF64 ⟨0x3fc00000⟩ = ⟨0x3ff8000000000000⟩ := by decide

inductive TransportableParam where
  | null
  | bool (v : Bool)
  | i64 (v : Int64)
  | f64 (v : F64)
  | string (v : String)
  | bytes (v : Bytes)
  deriving DecidableEq, Repr

def TransportableParam.toSql : TransportableParam → Value
  | null => .null
  | bool v => .integer (if v then 1 else 0)
  | i64 v => .integer v.toInt
  | f64 v => .real v
  | string v => .text v
  | bytes v => .blob v

/-- `T: Into<TransportableParam>`. -/
class IntoParam (T : Type) where
  into : T → TransportableParam

open IntoParam (into)

instance : IntoParam TransportableParam := ⟨id⟩
instance : IntoParam Bool := ⟨.bool⟩
instance : IntoParam Int64 := ⟨.i64⟩
instance : IntoParam Int32 := ⟨fun v => .i64 v.toInt64⟩
instance : IntoParam F64 := ⟨.f64⟩
instance : IntoParam F32 := ⟨fun v => .f64 v.toF64⟩
instance : IntoParam String := ⟨.string⟩
instance : IntoParam Bytes := ⟨.bytes⟩

/-- `&T`: the referent is cloned and converted. -/
structure Ref (T : Type) where
  val : T

instance {T : Type} [IntoParam T] : IntoParam (Ref T) := ⟨fun v => into v.val⟩

/-- The values `ReplicatClient::execute` takes as parameters. -/
class IntoTransportableParams (P : Type) where
  toParams : P → List TransportableParam

open IntoTransportableParams (toParams)

instance : IntoTransportableParams Unit := ⟨fun _ => []⟩

/-- `for entry in self { params.push(entry.into()) }`. -/
def pushEntries {T : Type} [IntoParam T] : List T → List TransportableParam → List TransportableParam
  | [], params => params
  | entry :: rest, params => pushEntries rest (params ++ [into entry])

/-- `[T; N]`. -/
instance {T : Type} {n : Nat} [IntoParam T] : IntoTransportableParams (Vector T n) :=
  ⟨fun self => pushEntries self.toList []⟩

/-- `Vec<T>`. -/
instance {T : Type} [IntoParam T] : IntoTransportableParams (List T) :=
  ⟨fun self => pushEntries self []⟩

/-- `&[T]`: iterating it yields references. -/
structure Slice (T : Type) where
  entries : List T

instance {T : Type} [IntoParam T] : IntoTransportableParams (Slice T) :=
  ⟨fun self => pushEntries (self.entries.map Ref.mk) []⟩

/-! ## Tuples -/

/-- An `index => type` pair of the macros. -/
structure TupleField where
  index : Nat
  type : String
  deriving DecidableEq, Repr

/-- The instance `derive_tuple!` generates: it is for the tuple type of as many components as
there are fields, and its vector lists `self.index.into()` field by field. -/
structure TupleInstance where
  arity : Nat
  indices : List Nat
  deriving DecidableEq, Repr

def deriveTuple (fields : List TupleField) : TupleInstance where
  arity := fields.length
  indices := fields.map (·.index)

def deriveCommonTuples : List TupleField → List TupleInstance
  | [] => []
  | first :: rest => deriveTuple (first :: rest) :: deriveCommonTuples rest

/-- The macro call that generates the instances of the crate. -/
def commonTuples : List TupleInstance :=
  deriveCommonTuples [⟨15, "T16"⟩, ⟨14, "T15"⟩, ⟨13, "T14"⟩, ⟨12, "T13"⟩, ⟨11, "T12"⟩, ⟨10, "T11"⟩,
    ⟨9, "T10"⟩, ⟨8, "T9"⟩, ⟨7, "T8"⟩, ⟨6, "T7"⟩, ⟨5, "T6"⟩, ⟨4, "T5"⟩, ⟨3, "T4"⟩, ⟨2, "T3"⟩,
    ⟨1, "T2"⟩, ⟨0, "T1"⟩]

/-- A value of a tuple type, by component index. -/
structure Tuple {n : Nat} (T : Fin n → Type) where
  get : (i : Fin n) → T i

section
variable {n : Nat} {T : Fin n → Type} [∀ i, IntoParam (T i)]

/-- `vec![$(self.$index.into(),)*]`. -/
def TupleInstance.toParams (inst : TupleInstance) (self : Tuple T) : List TransportableParam :=
  inst.indices.filterMap fun i => if h : i < n then some (into (self.get ⟨i, h⟩)) else none

/-- The instance for tuples of `n` components, where the macros generate one. -/
def tupleInstance (n : Nat) : Option TupleInstance := commonTuples.find? (·.arity = n)

/-- The components converted one by one, first to last. -/
def Tuple.converted (self : Tuple T) : List TransportableParam :=
  List.ofFn fun i => into (self.get i)

end

/-- A value `ReplicatClient::execute` accepts as parameters. -/
inductive ParamsValue : Type 1 where
  | unit
  | array {T : Type} [IntoParam T] {n : Nat} (v : Vector T n)
  | vec {T : Type} [IntoParam T] (v : List T)
  | slice {T : Type} [IntoParam T] (v : Slice T)
  | tuple {n : Nat} {T : Fin n → Type} [∀ i, IntoParam (T i)] (inst : TupleInstance)
      (derived : tupleInstance n = some inst) (v : Tuple T)

namespace ParamsValue

def params : ParamsValue → List TransportableParam
  | unit => toParams ()
  | array v => toParams v
  | vec v => toParams v
  | slice v => toParams v
  | tuple inst _ v => inst.toParams v

/-- The components converted one by one, first to last. -/
def converted : ParamsValue → List TransportableParam
  | unit => []
  | array v => v.toList.map into
  | vec v => v.map into
  | slice v => v.entries.map into
  | tuple _ _ v => v.converted

def IsTuple : ParamsValue → Prop
  | tuple .. => True
  | _ => False

end ParamsValue

/-! ## What the instances return -/

theorem pushEntries_eq {T : Type} [IntoParam T] (self : List T) (params : List TransportableParam) :
    pushEntries self params = params ++ self.map into := by
  induction self generalizing params with
  | nil => simp [pushEntries]
  | cons entry rest ih => simp [pushEntries, ih]

/-- The sixteen instances list their indices downwards. -/
theorem tupleInstance_eq_some {n : Nat} {inst : TupleInstance} (h : tupleInstance n = some inst) :
    1 ≤ n ∧ n ≤ 16 ∧ inst.indices = (List.range n).reverse := by
  have hmem := List.mem_of_find?_eq_some h
  have harity : inst.arity = n := by simpa using List.find?_some h
  subst harity
  revert hmem
  clear h
  have hall : ∀ inst ∈ commonTuples, 1 ≤ inst.arity ∧ inst.arity ≤ 16 ∧
      inst.indices = (List.range inst.arity).reverse := by decide
  exact hall inst

theorem filterMap_range_fin {α : Type} {n : Nat} (f : Fin n → α) :
    (List.range n).filterMap (fun i => if h : i < n then some (f ⟨i, h⟩) else none) =
      List.ofFn f := by
  have hrange : List.range n = (List.finRange n).map Fin.val :=
    List.ext_getElem (by simp) (by simp)
  rw [List.ofFn_eq_map, hrange, List.filterMap_map]
  simp

/-- A tuple's parameters come out last component first. -/
theorem TupleInstance.toParams_eq {n : Nat} {T : Fin n → Type} [∀ i, IntoParam (T i)]
    {inst : TupleInstance} (h : tupleInstance n = some inst) (self : Tuple T) :
    inst.toParams self = self.converted.reverse := by
  unfold toParams
  rw [(tupleInstance_eq_some h).2.2, List.filterMap_reverse,
    filterMap_range_fin fun i => into (self.get i)]
  rfl

theorem ParamsValue.params_eq {v : ParamsValue} (h : ¬ v.IsTuple) : v.params = v.converted := by
  cases v with
  | unit => rfl
  | array v => exact (pushEntries_eq v.toList []).trans (List.nil_append _)
  | vec v => exact (pushEntries_eq v []).trans (List.nil_append _)
  | slice v =>
    refine (pushEntries_eq (v.entries.map Ref.mk) []).trans ?_
    rw [List.nil_append, List.map_map]
    rfl
  | tuple => exact absurd trivial h

theorem ParamsValue.params_tuple {v : ParamsValue} (h : v.IsTuple) :
    v.params = v.converted.reverse := by
  cases v with
  | tuple inst derived v => exact TupleInstance.toParams_eq derived v
  | _ => exact h.elim

/-- **Parameter order**: the parameter list is the converted components in order exactly when
the value is not a tuple, or reads the same in both directions. -/
theorem params_in_order_iff (v : ParamsValue) :
    (v.params.length = v.converted.length ∧ ∀ i : Nat, v.params[i]? = v.converted[i]?) ↔
      (v.IsTuple → v.converted.reverse = v.converted) := by
  have hext : (v.params.length = v.converted.length ∧ ∀ i : Nat, v.params[i]? = v.converted[i]?) ↔
      v.params = v.converted :=
    ⟨fun h => List.ext_getElem? h.2, fun h => by simp [h]⟩
  rw [hext]
  by_cases ht : v.IsTuple
  · simp [ht, ParamsValue.params_tuple ht]
  · simp [ht, ParamsValue.params_eq ht]

/-- The pair `(1, 2)` of `i64`s. -/
def onePairTwo : ParamsValue :=
  .tuple (T := fun _ : Fin 2 => Int64) ⟨2, [1, 0]⟩ (by decide) ⟨fun i => if i = 0 then 1 else 2⟩

/-- The pair `(1, 2)` is sent as `[2, 1]`, the array `[1, 2]` as `[1, 2]`. -/
theorem pair_params_reversed :
    onePairTwo.params = [.i64 2, .i64 1] ∧ onePairTwo.converted = [.i64 1, .i64 2] ∧
      (ParamsValue.array #v[(1 : Int64), 2]).params = [.i64 1, .i64 2] ∧
      ¬ ∀ v : ParamsValue, v.params.length = v.converted.length ∧
        ∀ i : Nat, v.params[i]? = v.converted[i]? := by
  have h1 : onePairTwo.params = [.i64 2, .i64 1] := by decide
  have h2 : onePairTwo.converted = [.i64 1, .i64 2] := by decide
  refine ⟨h1, h2, by decide, fun h => ?_⟩
  have h0 := (h onePairTwo).2 0
  rw [h1, h2] at h0
  exact absurd h0 (by decide)

end Replicat
