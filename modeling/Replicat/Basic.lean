import Replicat.Storage.Params

/-!
# Raft types and their bytes

The data of openraft that the crate reads and stores, `Request` and `Response` of
`storage/raft.rs`, and `to_bytes` / `from_bytes` of `lib.rs`. The MessagePack format itself
belongs to `rmp_serde`: `Serde` is what the crate relies on, that decoding what was encoded
at the same type gives it back.
-/

namespace Replicat

open Sqlite

abbrev NodeId := UInt64

structure LeaderId where
  term : UInt64
  nodeId : NodeId
  deriving DecidableEq, Repr, Inhabited

structure LogId where
  leaderId : LeaderId
  index : UInt64
  deriving DecidableEq, Repr, Inhabited

structure Vote where
  term : UInt64
  nodeId : NodeId
  committed : Bool
  deriving DecidableEq, Repr, Inhabited

structure BasicNode where
  addr : String
  deriving DecidableEq, Repr, Inhabited

structure Membership where
  configs : List (List NodeId)
  nodes : List (NodeId × BasicNode)
  deriving DecidableEq, Repr

instance : Inhabited Membership := ⟨⟨[], []⟩⟩

/-- A membership and the log entry that set it; the default is neither. -/
structure EffectiveMembership where
  logId : Option LogId
  membership : Membership
  deriving DecidableEq, Repr

instance : Inhabited EffectiveMembership := ⟨⟨none, default⟩⟩

structure SnapshotMeta where
  lastLogId : Option LogId
  lastMembership : EffectiveMembership
  snapshotId : String
  deriving DecidableEq, Repr

inductive Request where
  | execute (sql : String) (params : List TransportableParam)
  deriving DecidableEq, Repr

structure Response where
  deriving DecidableEq, Repr

inductive EntryPayload where
  | blank
  | normal (req : Request)
  | membership (mem : Membership)
  deriving DecidableEq, Repr

structure Entry where
  logId : LogId
  payload : EntryPayload
  deriving DecidableEq, Repr

structure EncodeError where
  message : String
  deriving DecidableEq, Repr

structure DecodeError where
  message : String
  deriving DecidableEq, Repr

/-- A type `rmp_serde` writes and reads. Writing a value of such a type to a vector succeeds. -/
class Serde (α : Type) where
  toBytes : α → Except EncodeError Bytes
  fromBytes : Bytes → Except DecodeError α
  encodes : ∀ a, ∃ d, toBytes a = .ok d
  from_to : ∀ {a d}, toBytes a = .ok d → fromBytes d = .ok a

export Serde (toBytes fromBytes)

section
variable {α : Type} [Serde α]

/-- The bytes of a value. -/
def encoded (a : α) : Bytes :=
  match toBytes a with
  | .ok d => d
  | .error _ => []

@[simp] theorem toBytes_eq (a : α) : toBytes a = .ok (encoded a) := by
  obtain ⟨d, hd⟩ := Serde.encodes a
  simp [encoded, hd]

@[simp] theorem fromBytes_encoded (a : α) : fromBytes (encoded a) = .ok a :=
  Serde.from_to (toBytes_eq a)

theorem encoded_inj {a b : α} (h : encoded a = encoded b) : a = b := by
  have := (fromBytes_encoded a).symm.trans ((congrArg fromBytes h).trans (fromBytes_encoded b))
  simpa using this

end

end Replicat
