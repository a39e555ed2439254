import Mathlib.Tactic.DeriveEncodable
import Replicat.Lib.Codec
import Replicat.Rpc.Client
import Replicat.Storage.Open

/-!
# A concrete environment

An environment to run the model in. The client's database is a catalog of empty tables, and
a handful of statements are understood: creating one of two tables and opening or closing a
transaction. Values and images are written as the bytes of their numbers. Every address is
taken for a valid one, and every image loads: no run here takes one of a database in WAL mode.
-/

namespace Replicat

open Sqlite

/-! ## Bytes -/

deriving instance Encodable for F64
deriving instance Encodable for Value
deriving instance Encodable for TransportableParam
deriving instance Encodable for LeaderId
deriving instance Encodable for LogId
deriving instance Encodable for Vote
deriving instance Encodable for BasicNode
deriving instance Encodable for Membership
deriving instance Encodable for EffectiveMembership
deriving instance Encodable for SnapshotMeta
deriving instance Encodable for Request
deriving instance Encodable for EntryPayload
deriving instance Encodable for Entry
deriving instance Encodable for LogRecord
deriving instance Encodable for ErrorCode
deriving instance Encodable for SqlError
deriving instance Encodable for Hindrance
deriving instance Encodable for Own

instance {V : Type} [Encodable V] : Encodable (TableRow V) :=
  Encodable.ofLeftInverse (fun r => (r.rowid, r.key, r.val)) (fun r => ⟨r.1, r.2.1, r.2.2⟩) fun _ => rfl

instance {V : Type} [Encodable V] : Encodable (RowidTable V) :=
  Encodable.ofLeftInjection RowidTable.rows
    (fun rows =>
      if h : rows.Pairwise (·.rowid < ·.rowid) ∧ (rows.map (·.key)).Nodup then
        some ⟨rows, h.1, h.2⟩
      else none)
    fun t => dif_pos ⟨t.ascending, t.unique⟩

instance : Encodable KvTable :=
  Encodable.ofLeftInjection (fun t => t.entries.map fun e => (e.1, e.2))
    (fun entries =>
      if h : (entries.map fun e => (⟨e.1, e.2⟩ : Sigma fun _ : String => Value)).keys.Nodup then
        some ⟨_, h⟩
      else none)
    fun t => by
      have hentries : (t.entries.map fun e => (e.1, e.2)).map
          (fun e => (⟨e.1, e.2⟩ : Sigma fun _ : String => Value)) = t.entries := by
        rw [List.map_map]
        exact List.map_id _
      rw [dif_pos (by rw [hentries]; exact t.nodupKeys)]
      exact congrArg some (AList.ext hentries)

instance {U : Type} [Encodable U] : Encodable (Database U) :=
  Encodable.ofLeftInverse (fun d => (d.kvTable, d.logTable, d.user, d.hindrances, d.own))
    (fun d => ⟨d.1, d.2.1, d.2.2.1, d.2.2.2.1, d.2.2.2.2⟩) fun _ => rfl

instance (priority := low) {α : Type} [Encodable α] : Serde α where
  toBytes a := .ok (Codec.write a)
  fromBytes data := (Codec.read data).elim (.error ⟨"invalid value"⟩) .ok
  encodes _ := ⟨_, rfl⟩
  from_to := by
    rintro a _ ⟨⟩
    rw [Codec.read_write]
    rfl

instance (priority := low) : UriParser where
  parse text := .ok ⟨text⟩

/-! ## Statements -/

/-- The names of the tables, the last created first. -/
abbrev Catalog := List String

def createNotes : String := "CREATE TABLE IF NOT EXISTS notes (body)"
def createUsers : String := "CREATE TABLE IF NOT EXISTS users (name)"

def syntaxError : SqlError := .sqliteFailure .error (some "syntax error")

/-- The client tables after a statement; one that is not understood leaves them. -/
def runCatalog (sql : String) (tables : Catalog) : Catalog :=
  if sql = createNotes then tables.insert "notes"
  else if sql = createUsers then tables.insert "users"
  else tables

/-- What the environment does with a statement text. No statement here has parameters. -/
def catalogClient (sql : String) (params : List Value) : Prepared (Database Catalog) := fun s =>
  if params ≠ [] then (s, .error ⟨[], .invalidParameterCount⟩)
  else if sql = createNotes ∨ sql = createUsers then
    ({ s with main := { s.main with user := runCatalog sql s.main.user } }, .ok ⟨[], 0⟩)
  else if sql = "BEGIN" ∧ s.saved = none then (⟨s.main, some s.main⟩, .ok ⟨[], 0⟩)
  else if sql = "COMMIT" ∧ s.saved ≠ none then (⟨s.main, none⟩, .ok ⟨[], 0⟩)
  else (s, .error ⟨[], syntaxError⟩)

/-- An environment that writes databases as the bytes of their numbers. -/
def Env.coded {U : Type} [Encodable U] (emptyUser : U) (schemaNames : U → List String)
    (client : String → List Value → Prepared (Database U)) : Env U where
  emptyUser := emptyUser
  schemaNames := schemaNames
  client := client
  serialize _ d := 83 :: Codec.write (atRest d)
  contents bytes := Codec.read bytes.tail
  loads _ := true
  contents_serialize _ d := by simp
  loads_serialize _ _ _ := rfl
  serialize_ne_nil _ d := by simp
  scanOrder := .rowid
  displayLeaderId id := toString id.term ++ "-" ++ toString id.nodeId

def catalogEnv : Env Catalog := .coded [] id catalogClient

/-- The effect of a request on the catalog. -/
def catalogEffect : Request → Catalog → Catalog
  | .execute sql _ => runCatalog sql

def logIdAt (index : UInt64) : LogId := ⟨⟨1, 1⟩, index⟩

/-- The entry that creates the table `notes`. -/
def notesEntry (index : UInt64) : Entry := ⟨logIdAt index, .normal (.execute createNotes [])⟩

/-- The entry that creates the table `users`. -/
def usersEntry (index : UInt64) : Entry := ⟨logIdAt index, .normal (.execute createUsers [])⟩

/-- Creating a table succeeds everywhere and touches the catalog only. -/
theorem confined_catalog {es : List Entry} (h : ∀ e ∈ es, ∀ req, e.payload = .normal req →
    req = .execute createNotes [] ∨ req = .execute createUsers []) (tables : Catalog) :
    Confined catalogEnv catalogEffect tables es := by
  refine confined_of_forall (fun e he req hreq tables d hd => ⟨d.own, 0, hd.objects, ?_⟩) tables
  rcases h e he req hreq with rfl | rfl
  all_goals simp [RaftStore.clientStatement, catalogEnv, Env.coded, catalogClient, catalogEffect, hd.user]

end Replicat
