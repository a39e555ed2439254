import Mathlib.Data.Vector.Basic

/-!
# The wire format of proto3

A message is a sequence of fields, each a tag and a payload. A scalar field that holds its
default is left out, a field that holds no message is left out, and the fields a message type
does not know are skipped. A reader starts from the defaults and merges one field after the
other. `Message` is a message type by these two directions, with the fact that they agree.
A varint has at most ten bytes and 64 bits. Groups, which proto3 no longer has, are skipped up
to a level of nesting.
-/

namespace Proto3

abbrev Bytes := List UInt8

/-! ## Varints -/

/-- Seven bits a byte, the lowest first; every byte but the last has its high bit set. -/
def encodeVarint (n : ℕ) : Bytes :=
  if n < 128 then [UInt8.ofNat n] else UInt8.ofNat (n % 128 + 128) :: encodeVarint (n / 128)

/-- A number in at most `limit` bytes. -/
def decodeVarintWithin : ℕ → Bytes → Option (ℕ × Bytes)
  | 0, _ => none
  | _ + 1, [] => none
  | limit + 1, byte :: rest =>
    if byte.toNat < 128 then some (byte.toNat, rest)
    else (decodeVarintWithin limit rest).map fun (high, rest) => (byte.toNat - 128 + 128 * high, rest)

/-- Ten bytes at most; of the tenth only the lowest bit is within the 64 bits. -/
def decodeVarint (bytes : Bytes) : Option (UInt64 × Bytes) := do
  let (n, rest) ← decodeVarintWithin 10 bytes
  if n < 2 ^ 64 then some (.ofNat n, rest) else none

theorem toNat_ofNat_of_lt {n : ℕ} (h : n < 256) : (UInt8.ofNat n).toNat = n :=
  UInt8.toNat_ofNat_of_lt' h

theorem decodeVarintWithin_encodeVarint {limit n : ℕ} (h : (encodeVarint n).length ≤ limit)
    (rest : Bytes) : decodeVarintWithin limit (encodeVarint n ++ rest) = some (n, rest) := by
  induction n using Nat.strongRecOn generalizing limit with
  | ind n ih =>
    rw [encodeVarint] at h ⊢
    split at h
    · rename_i hlast
      have hbyte : (UInt8.ofNat n).toNat = n := toNat_ofNat_of_lt (by omega)
      obtain ⟨limit, rfl⟩ : ∃ k, limit = k + 1 := ⟨limit - 1, by simp at h; omega⟩
      simp [decodeVarintWithin, hbyte, hlast]
    · rename_i hmore
      have hbyte : (UInt8.ofNat (n % 128 + 128)).toNat = n % 128 + 128 :=
        toNat_ofNat_of_lt (by omega)
      have hhigh : ¬ n % 128 + 128 < 128 := by omega
      rw [List.length_cons] at h
      obtain ⟨limit, rfl⟩ : ∃ k, limit = k + 1 := ⟨limit - 1, by omega⟩
      rw [if_neg hmore, List.cons_append, decodeVarintWithin, hbyte, if_neg hhigh,
        ih (n / 128) (by omega) (Nat.le_of_succ_le_succ h)]
      refine congrArg some (Prod.ext ?_ rfl)
      show n % 128 + 128 - 128 + 128 * (n / 128) = n
      omega

/-- Seven bits a byte are enough. -/
theorem length_encodeVarint_le {k n : ℕ} (h : n < 128 ^ (k + 1)) : (encodeVarint n).length ≤ k + 1 := by
  induction k generalizing n with
  | zero =>
    rw [encodeVarint, if_pos (by simpa using h)]
    exact Nat.le_refl 1
  | succ k ih =>
    rw [encodeVarint]
    split
    · simp
    · have hhigh : n / 128 < 128 ^ (k + 1) := by
        rw [Nat.div_lt_iff_lt_mul (by omega), ← Nat.pow_succ]
        exact h
      simpa using ih hhigh

@[simp] theorem decodeVarint_encodeVarint (n : UInt64) (rest : Bytes) :
    decodeVarint (encodeVarint n.toNat ++ rest) = some (n, rest) := by
  have hlength : (encodeVarint n.toNat).length ≤ 10 :=
    length_encodeVarint_le (Nat.lt_trans n.toNat_lt (by decide))
  unfold decodeVarint
  rw [decodeVarintWithin_encodeVarint hlength]
  simp [n.toNat_lt]

theorem encodeVarint_ne_nil (n : ℕ) : encodeVarint n ≠ [] := by
  rw [encodeVarint]
  split <;> exact List.cons_ne_nil _ _

/-! ## Chunks -/

/-- Exactly `n` bytes. -/
def readChunk (n : ℕ) (bytes : Bytes) : Option (List.Vector UInt8 n × Bytes) :=
  if h : n ≤ bytes.length then
    some (⟨bytes.take n, by rw [List.length_take]; omega⟩, bytes.drop n)
  else none

@[simp] theorem readChunk_append {n : ℕ} (chunk : List.Vector UInt8 n) (rest : Bytes) :
    readChunk n (chunk.toList ++ rest) = some (chunk, rest) := by
  have hlength : n ≤ (chunk.toList ++ rest).length := by
    rw [List.length_append, chunk.toList_length]
    omega
  unfold readChunk
  rw [dif_pos hlength]
  refine congrArg some (Prod.ext (Subtype.ext ?_) ?_)
  · exact List.take_left' chunk.toList_length
  · exact List.drop_left' chunk.toList_length

/-- The length of a chunk, a varint. Beyond 64 bits, where there is no such buffer, it is kept. -/
def decodeLength (bytes : Bytes) : Option (ℕ × Bytes) := do
  let (n, rest) ← decodeVarintWithin bytes.length bytes
  if n < 2 ^ 64 then (decodeVarint bytes).map fun (value, rest) => (value.toNat, rest)
  else some (n, rest)

@[simp] theorem decodeLength_encodeVarint (n : ℕ) (rest : Bytes) :
    decodeLength (encodeVarint n ++ rest) = some (n, rest) := by
  unfold decodeLength
  rw [decodeVarintWithin_encodeVarint (by simp)]
  show (if n < 2 ^ 64 then _ else _) = _
  split
  · rename_i hlt
    have hvarint := decodeVarint_encodeVarint (.ofNat n) rest
    rw [UInt64.toNat_ofNat_of_lt' hlt] at hvarint
    rw [hvarint]
    exact congrArg (fun n => some (n, rest)) (UInt64.toNat_ofNat_of_lt' hlt)
  · rfl

/-- A length, and as many bytes. -/
def encodeDelimited (bytes : Bytes) : Bytes := encodeVarint bytes.length ++ bytes

def decodeDelimited (bytes : Bytes) : Option (Bytes × Bytes) := do
  let (length, rest) ← decodeLength bytes
  let (chunk, rest) ← readChunk length rest
  return (chunk.toList, rest)

@[simp] theorem decodeDelimited_encodeDelimited (bytes rest : Bytes) :
    decodeDelimited (encodeDelimited bytes ++ rest) = some (bytes, rest) := by
  have hchunk := readChunk_append ⟨bytes, rfl⟩ rest
  rw [List.Vector.toList_mk] at hchunk
  simp [decodeDelimited, encodeDelimited, hchunk]

/-! ## Keys and groups -/

/-- The number of a field. -/
structure Tag where
  number : ℕ
  pos : 0 < number
  lt : number < 536870912
  deriving DecidableEq, Repr

def Tag.of (number : ℕ) (h : 0 < number ∧ number < 536870912 := by decide) : Tag :=
  ⟨number, h.1, h.2⟩

/-- The key of a field has its tag above its wire type. -/
def encodeKey (tag : Tag) (wireType : ℕ) : Bytes := encodeVarint (tag.number * 8 + wireType)

/-- A key has 32 bits. -/
def decodeKey (bytes : Bytes) : Option (Tag × ℕ × Bytes) := do
  let (key, rest) ← decodeVarint bytes
  if h : 0 < key.toNat / 8 ∧ key.toNat / 8 < 536870912 then
    some (⟨key.toNat / 8, h.1, h.2⟩, key.toNat % 8, rest)
  else none

@[simp] theorem decodeKey_encodeKey (tag : Tag) {wireType : ℕ} (h : wireType < 8) (rest : Bytes) :
    decodeKey (encodeKey tag wireType ++ rest) = some (tag, wireType, rest) := by
  obtain ⟨number, hpos, hlt⟩ := tag
  have hkey : (UInt64.ofNat (number * 8 + wireType)).toNat = number * 8 + wireType :=
    UInt64.toNat_ofNat_of_lt' (by unfold UInt64.size; omega)
  have hvarint := decodeVarint_encodeVarint (.ofNat (number * 8 + wireType)) rest
  rw [hkey] at hvarint
  have htag : (number * 8 + wireType) / 8 = number := by omega
  have htype : (number * 8 + wireType) % 8 = wireType := by omega
  unfold decodeKey encodeKey
  rw [hvarint]
  simp only [Option.bind_eq_bind, Option.bind_some, hkey, htag, htype]
  exact dif_pos ⟨hpos, hlt⟩

/-- What is behind a payload other than a group. -/
def skipPayload (wireType : ℕ) (bytes : Bytes) : Option Bytes :=
  match wireType with
  | 0 => (decodeVarint bytes).map fun (_, rest) => rest
  | 1 => (readChunk 8 bytes).map fun (_, rest) => rest
  | 2 => (decodeDelimited bytes).map fun (_, rest) => rest
  | 5 => (readChunk 4 bytes).map fun (_, rest) => rest
  | _ => none

/-- What is behind the end of the last of the open groups, the innermost first. `levels` is how
deep fields may be nested, the first number how many keys there can be at most. -/
def skipGroups (levels : ℕ) : ℕ → List Tag → Bytes → Option Bytes
  | _, [], bytes => some bytes
  | 0, _ :: _, _ => none
  | keys + 1, group :: outer, bytes => do
    let (tag, wireType, rest) ← decodeKey bytes
    if wireType = 4 then
      if tag = group then skipGroups levels keys outer rest else none
    else if levels ≤ outer.length + 1 then none
    else if wireType = 3 then skipGroups levels keys (tag :: group :: outer) rest
    else
      let rest ← skipPayload wireType rest
      skipGroups levels keys (group :: outer) rest

/-! ## Fields -/

/-- What a field holds, by its wire type. Of a group nothing is kept. -/
inductive Payload where
  | varint (value : UInt64)
  | fixed64 (bytes : List.Vector UInt8 8)
  | delimited (bytes : Bytes)
  | group
  | fixed32 (bytes : List.Vector UInt8 4)
  deriving DecidableEq

def Payload.wireType : Payload → ℕ
  | varint _ => 0
  | fixed64 _ => 1
  | delimited _ => 2
  | group => 3
  | fixed32 _ => 5

def Payload.encode (tag : Tag) : Payload → Bytes
  | varint value => encodeVarint value.toNat
  | fixed64 bytes => bytes.toList
  | delimited bytes => encodeDelimited bytes
  | group => encodeKey tag 4
  | fixed32 bytes => bytes.toList

/-- Every key takes a byte or more, so the length of the bytes bounds the number of keys. -/
def Payload.decode (levels : ℕ) (tag : Tag) (wireType : ℕ) (bytes : Bytes) : Option (Payload × Bytes) :=
  match wireType with
  | 0 => (decodeVarint bytes).map fun (value, rest) => (varint value, rest)
  | 1 => (readChunk 8 bytes).map fun (chunk, rest) => (fixed64 chunk, rest)
  | 2 => (decodeDelimited bytes).map fun (chunk, rest) => (delimited chunk, rest)
  | 3 => (skipGroups levels bytes.length [tag] bytes).map fun rest => (group, rest)
  | 5 => (readChunk 4 bytes).map fun (chunk, rest) => (fixed32 chunk, rest)
  | _ => none

/-- The end of a group right behind its start. -/
theorem skipGroups_end (levels keys : ℕ) (tag : Tag) (rest : Bytes) :
    skipGroups levels (keys + 1) [tag] (encodeKey tag 4 ++ rest) = some rest := by
  rw [skipGroups, decodeKey_encodeKey tag (by omega)]
  cases keys <;> simp [skipGroups]

theorem encodeKey_ne_nil (tag : Tag) (wireType : ℕ) : encodeKey tag wireType ≠ [] :=
  encodeVarint_ne_nil _

@[simp] theorem Payload.decode_encode (levels : ℕ) (tag : Tag) (payload : Payload) (rest : Bytes) :
    decode levels tag payload.wireType (payload.encode tag ++ rest) = some (payload, rest) := by
  cases payload with
  | group =>
    obtain ⟨keys, hkeys⟩ : ∃ keys, (encodeKey tag 4 ++ rest).length = keys + 1 :=
      Nat.exists_eq_add_one.mpr
        (List.length_pos_iff.mpr (List.append_ne_nil_of_left_ne_nil (encodeKey_ne_nil tag 4) rest))
    simp only [decode, encode, wireType, hkeys, skipGroups_end, Option.map_some]
  | _ => simp [decode, encode, wireType]

structure Field where
  tag : Tag
  payload : Payload
  deriving DecidableEq

def Field.encode (field : Field) : Bytes :=
  encodeKey field.tag field.payload.wireType ++ field.payload.encode field.tag

def Field.decode (levels : ℕ) (bytes : Bytes) : Option (Field × Bytes) := do
  let (tag, wireType, rest) ← decodeKey bytes
  let (payload, rest) ← Payload.decode levels tag wireType rest
  return (⟨tag, payload⟩, rest)

theorem Payload.wireType_lt (payload : Payload) : payload.wireType < 8 := by
  cases payload <;> simp [wireType]

@[simp] theorem Field.decode_encode (levels : ℕ) (field : Field) (rest : Bytes) :
    decode levels (field.encode ++ rest) = some (field, rest) := by
  unfold decode encode
  rw [List.append_assoc, decodeKey_encodeKey field.tag field.payload.wireType_lt]
  simp

theorem Field.encode_ne_nil (field : Field) : field.encode ≠ [] :=
  fun h => encodeKey_ne_nil _ _ (List.append_eq_nil_iff.mp h).1

def encodeFields (fields : List Field) : Bytes := fields.flatMap Field.encode

/-- Every field takes a byte or more, so the length of the bytes bounds the number of fields. -/
def decodeFields (levels : ℕ) : ℕ → Bytes → Option (List Field)
  | _, [] => some []
  | 0, _ :: _ => none
  | fuel + 1, bytes@(_ :: _) => do
    let (field, rest) ← Field.decode levels bytes
    let fields ← decodeFields levels fuel rest
    return field :: fields

theorem decodeFields_cons (levels fuel : ℕ) (field : Field) (rest : Bytes) :
    decodeFields levels (fuel + 1) (field.encode ++ rest) =
      (decodeFields levels fuel rest).map (field :: ·) := by
  obtain ⟨byte, bytes, hbytes⟩ :=
    List.exists_cons_of_ne_nil (List.append_ne_nil_of_left_ne_nil field.encode_ne_nil rest)
  rw [hbytes, decodeFields, ← hbytes, Field.decode_encode]
  show (decodeFields levels fuel rest >>= fun fields => some (field :: fields)) = _
  rcases decodeFields levels fuel rest with _ | fields <;> rfl

theorem decodeFields_encodeFields (levels : ℕ) (fields : List Field) (fuel : ℕ)
    (h : fields.length ≤ fuel) : decodeFields levels fuel (encodeFields fields) = some fields := by
  induction fields generalizing fuel with
  | nil => cases fuel <;> rfl
  | cons field fields ih =>
    obtain ⟨fuel, rfl⟩ : ∃ n, fuel = n + 1 := ⟨fuel - 1, by simp only [List.length_cons] at h; omega⟩
    have hfuel : fields.length ≤ fuel := by simpa using h
    show decodeFields levels (fuel + 1) (field.encode ++ encodeFields fields) = _
    rw [decodeFields_cons, ih fuel hfuel]
    rfl

theorem length_le_encodeFields (fields : List Field) :
    fields.length ≤ (encodeFields fields).length := by
  induction fields with
  | nil => exact Nat.zero_le _
  | cons field fields ih =>
    have hfield : 0 < field.encode.length := List.length_pos_iff.mpr field.encode_ne_nil
    have hsplit : encodeFields (field :: fields) = field.encode ++ encodeFields fields := rfl
    rw [hsplit, List.length_append, List.length_cons]
    omega

/-- The fields of a whole message, in which fields may be nested `levels` deep. -/
def parse (levels : ℕ) (bytes : Bytes) : Option (List Field) := decodeFields levels bytes.length bytes

@[simp] theorem parse_encodeFields (levels : ℕ) (fields : List Field) :
    parse levels (encodeFields fields) = some fields :=
  decodeFields_encodeFields levels fields _ (length_le_encodeFields fields)

/-! ## Merging -/

section Merging

variable {μ : Type} {merge : μ → Field → Option μ}

/-- Merging the fields one after the other leads from `x` to `y`. -/
def Merges (merge : μ → Field → Option μ) (x : μ) (fields : List Field) (y : μ) : Prop :=
  fields.foldlM merge x = some y

theorem Merges.append {x y z : μ} {fs gs : List Field} (hf : Merges merge x fs y)
    (hg : Merges merge y gs z) : Merges merge x (fs ++ gs) z := by
  have hsplit : (fs ++ gs).foldlM merge x = fs.foldlM merge x >>= gs.foldlM merge :=
    List.foldlM_append
  have hf : fs.foldlM merge x = some y := hf
  rw [Merges, hsplit, hf]
  exact hg

theorem merges_single {x y : μ} {field : Field} (h : merge x field = some y) :
    Merges merge x [field] y := by
  show (merge x field >>= fun y => some y) = some y
  rw [h]
  rfl

end Merging

/-! ## Scalars -/

/-- A scalar type: its default, which is not written, and its payloads. -/
structure Scalar (α : Type) where
  default : α
  write : α → Payload
  read : Payload → Option α
  read_write : ∀ a, read (write a) = some a

attribute [simp] Scalar.read_write

namespace Scalar

variable {α : Type} [DecidableEq α]

def encode (scalar : Scalar α) (tag : Tag) (a : α) : List Field :=
  if a = scalar.default then [] else [⟨tag, scalar.write a⟩]

/-- A field that is written sets its value; one that is not had it from the start. -/
theorem merges (scalar : Scalar α) {μ : Type} {merge : μ → Field → Option μ} {tag : Tag} {a : α}
    (set : α → μ) (hset : merge (set scalar.default) ⟨tag, scalar.write a⟩ = some (set a)) :
    Merges merge (set scalar.default) (scalar.encode tag a) (set a) := by
  unfold encode
  split
  · rename_i ha
    rw [ha]
    exact rfl
  · exact merges_single hset

end Scalar

def uint64 : Scalar UInt64 where
  default := 0
  write n := .varint n
  read
    | .varint n => some n
    | _ => none
  read_write _ := rfl

/-- Also the numbers of an enumeration. They are written with 64 bits, by their sign. -/
def int32 : Scalar Int32 where
  default := 0
  write n := .varint n.toInt64.toUInt64
  read
    | .varint n => some n.toInt64.toInt32
    | _ => none
  read_write n := by simp

def bool : Scalar Bool where
  default := false
  write b := .varint b.toUInt64
  read
    | .varint n => some (n != 0)
    | _ => none
  read_write b := by cases b <;> rfl

def bytes : Scalar Bytes where
  default := []
  write bs := .delimited bs
  read
    | .delimited bs => some bs
    | _ => none
  read_write _ := rfl

def string : Scalar String where
  default := ""
  write s := .delimited s.toUTF8.data.toList
  read
    | .delimited bs => String.fromUTF8? ⟨bs.toArray⟩
    | _ => none
  read_write s := by
    have hbytes : (⟨s.toUTF8.data.toList.toArray⟩ : ByteArray) = s.toByteArray := by simp
    show String.fromUTF8? _ = some s
    rw [hbytes]
    exact dif_pos s.isValidUTF8

/-! ## Repeated numbers -/

def pack (ns : List UInt64) : Bytes := ns.flatMap fun n => encodeVarint n.toNat

/-- Every number takes a byte or more. -/
def unpack : ℕ → Bytes → Option (List UInt64)
  | _, [] => some []
  | 0, _ :: _ => none
  | fuel + 1, bytes@(_ :: _) => do
    let (n, rest) ← decodeVarint bytes
    let ns ← unpack fuel rest
    return n :: ns

theorem unpack_pack (ns : List UInt64) (fuel : ℕ) (h : (pack ns).length ≤ fuel) :
    unpack fuel (pack ns) = some ns := by
  induction ns generalizing fuel with
  | nil => cases fuel <;> rfl
  | cons n ns ih =>
    have hsplit : pack (n :: ns) = encodeVarint n.toNat ++ pack ns := rfl
    have hpos : 0 < (encodeVarint n.toNat).length := List.length_pos_iff.mpr (encodeVarint_ne_nil _)
    rw [hsplit, List.length_append] at h
    obtain ⟨fuel, rfl⟩ : ∃ k, fuel = k + 1 := ⟨fuel - 1, by omega⟩
    obtain ⟨byte, bytes, hbytes⟩ :=
      List.exists_cons_of_ne_nil (List.append_ne_nil_of_left_ne_nil (encodeVarint_ne_nil n.toNat) (pack ns))
    rw [hsplit, hbytes, unpack, ← hbytes, decodeVarint_encodeVarint]
    simp [ih fuel (by omega)]

/-- Numbers are written packed, in one field; no field stands for none of them. -/
def encodeRepeated (tag : Tag) (ns : List UInt64) : List Field :=
  if ns = [] then [] else [⟨tag, .delimited (pack ns)⟩]

/-- They are read packed or one by one, behind those that were read before. -/
def readRepeated (ns : List UInt64) : Payload → Option (List UInt64)
  | .varint value => some (ns ++ [value])
  | .delimited bytes => (unpack bytes.length bytes).map (ns ++ ·)
  | _ => none

@[simp] theorem readRepeated_pack (ns : List UInt64) :
    readRepeated [] (.delimited (pack ns)) = some ns := by
  simp [readRepeated, unpack_pack]

theorem mergesRepeated {μ : Type} {merge : μ → Field → Option μ} {tag : Tag} {ns : List UInt64}
    (set : List UInt64 → μ) (hset : merge (set []) ⟨tag, .delimited (pack ns)⟩ = some (set ns)) :
    Merges merge (set []) (encodeRepeated tag ns) (set ns) := by
  unfold encodeRepeated
  split
  · rename_i hnil
    rw [hnil]
    exact rfl
  · exact merges_single hset

/-! ## Messages -/

/-- How deep fields may be nested in a message. -/
def recursionLimit : ℕ := 100

/-- A message type: its default, the fields of a value in the order they are written, and what
one field makes of a value, with fields nested so many levels deep at most. -/
structure Message (α : Type) where
  default : α
  encodeRaw : α → List Field
  mergeField : ℕ → α → Field → Option α
  merges : ∀ levels a, Merges (mergeField levels) default (encodeRaw a) a

namespace Message

variable {α : Type} (message : Message α)

def encode (a : α) : Bytes := encodeFields (message.encodeRaw a)

/-- The fields in the bytes, merged into a value. -/
def merge (levels : ℕ) (a : α) (bytes : Bytes) : Option α := do
  let fields ← parse levels bytes
  fields.foldlM (message.mergeField levels) a

def decode (bytes : Bytes) : Option α := message.merge recursionLimit message.default bytes

theorem merge_encode (levels : ℕ) (a : α) :
    message.merge levels message.default (message.encode a) = some a := by
  have hmerges : (message.encodeRaw a).foldlM (message.mergeField levels) message.default = some a :=
    message.merges levels a
  unfold merge encode
  rw [parse_encodeFields]
  exact hmerges

@[simp] theorem decode_encode (a : α) : message.decode (message.encode a) = some a :=
  message.merge_encode recursionLimit a

theorem encode_inj {a b : α} (h : message.encode a = message.encode b) : a = b := by
  have hboth : some a = some b := by rw [← message.decode_encode a, h, message.decode_encode b]
  exact Option.some.inj hboth

/-! ### Message fields -/

/-- A message that is there is written, also where it has no bytes. -/
def encodeOptional (tag : Tag) (value : Option α) : List Field :=
  value.toList.map fun a => ⟨tag, .delimited (message.encode a)⟩

/-- A second field of one message is merged into the first. Its fields are one level deeper. -/
def readOptional (levels : ℕ) (value : Option α) : Payload → Option (Option α)
  | .delimited bs => (message.merge (levels - 1) (value.getD message.default) bs).map some
  | _ => none

@[simp] theorem readOptional_encode (levels : ℕ) (a : α) :
    message.readOptional levels none (.delimited (message.encode a)) = some (some a) := by
  simp [readOptional, message.merge_encode]

theorem mergesOptional {μ : Type} {merge : μ → Field → Option μ} {tag : Tag} {value : Option α}
    (set : Option α → μ) (hset : ∀ a, merge (set none) ⟨tag, .delimited (message.encode a)⟩ =
      some (set (some a))) : Merges merge (set none) (message.encodeOptional tag value) (set value) := by
  cases value with
  | none => exact rfl
  | some a => exact merges_single (hset a)

end Message

end Proto3
