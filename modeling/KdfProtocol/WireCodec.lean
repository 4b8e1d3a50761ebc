import KdfProtocol.BitcoinScript

/-!
# The wire codec

Little-endian numbers, fixed byte strings, CompactSize counts and counted lists.  A
reader takes a value off the front of the bytes.
-/

namespace KdfProtocol

open BitcoinScript

abbrev FixedBytes (n : ℕ) := { bytes : List UInt8 // bytes.length = n }

/-- A slice never holds more bytes than the largest signed size. -/
abbrev ByteSlice := { bytes : List UInt8 // bytes.length < 2 ^ 63 }

def FixedBytes.zero (n : ℕ) : FixedBytes n := ⟨List.replicate n 0, List.length_replicate⟩

namespace WireCodec

inductive Error where
  | malformedData
  | unexpectedEnd
  | unreadData
  | custom (text : String)
  /-- The allocator is asked for more than a vector can hold: a panic, which no
  caller handles. -/
  | capacityOverflow
  deriving DecidableEq

abbrev Reader := StateT (List UInt8) (Except Error)

/-! ## Reading -/

def readSlice (length : ℕ) : Reader (List UInt8) := fun bytes =>
  if length ≤ bytes.length then .ok (bytes.take length, bytes.drop length)
  else .error .unexpectedEnd

def readFixed (n : ℕ) : Reader (FixedBytes n) := fun bytes =>
  if hlength : n ≤ bytes.length then
    .ok (⟨bytes.take n, List.length_take_of_le hlength⟩, bytes.drop n)
  else .error .unexpectedEnd

def isFinished : Reader Bool := fun bytes => .ok (bytes.isEmpty, bytes)

def readU8 : Reader UInt8 := do return UInt8.ofNat (readLe (← readSlice 1))

def readU32 : Reader UInt32 := do return UInt32.ofNat (readLe (← readSlice 4))

def readU64 : Reader UInt64 := do return UInt64.ofNat (readLe (← readSlice 8))

def readI32 : Reader Int32 := do return (← readU32).toInt32

def readI64 : Reader Int64 := do return (← readU64).toInt64

def readCompactInteger : Reader ℕ := do
  let first ← readU8
  if first ≤ 0xfc then return first.toNat
  else if first = 0xfd then return readLe (← readSlice 2)
  else if first = 0xfe then return readLe (← readSlice 4)
  else return readLe (← readSlice 8)

def BYTES_DECODE_LIMIT : ℕ := 65536

def readBytes : Reader (List UInt8) := do
  let length ← readCompactInteger
  if BYTES_DECODE_LIMIT < length then throw .malformedData
  readSlice length

section Lists

variable {α : Type}

def readItems (item : Reader α) : ℕ → Reader (List α)
  | 0 => return []
  | length + 1 => do
      let first ← item
      let rest ← readItems item length
      return first :: rest

def readListMax (item : Reader α) (max : ℕ) : Reader (List α) := do
  let length ← readCompactInteger
  if max < length then throw .malformedData
  readItems item length

def deserialize (value : Reader α) (bytes : List UInt8) : Except Error α := do
  let (value, rest) ← value bytes
  if rest.isEmpty then return value else throw .unreadData

end Lists

/-! ## Writing -/

def writeU32 (n : UInt32) : List UInt8 := writeLe 4 n.toNat

def writeU64 (n : UInt64) : List UInt8 := writeLe 8 n.toNat

def writeI32 (n : Int32) : List UInt8 := writeU32 n.toUInt32

def writeI64 (n : Int64) : List UInt8 := writeU64 n.toUInt64

def writeCompactInteger (n : ℕ) : List UInt8 :=
  if n ≤ 0xfc then writeLe 1 n
  else if n ≤ 0xffff then 0xfd :: writeLe 2 n
  else if n ≤ 0xffffffff then 0xfe :: writeLe 4 n
  else 0xff :: writeLe 8 n

variable (bytes : List UInt8)

def writeBytes : List UInt8 :=
  writeCompactInteger bytes.length ++ bytes

def writeList {α : Type} (item : α → List UInt8) (items : List α) : List UInt8 :=
  writeCompactInteger items.length ++ items.flatMap item

/-! ## Numbers that are written as they are read -/

theorem readLe_cons (byte : UInt8) (bytes : List UInt8) :
    readLe (byte :: bytes) = byte.toNat + 256 * readLe bytes := rfl

theorem readLe_lt : readLe bytes < 256 ^ bytes.length := by
  induction bytes with
  | nil => exact Nat.one_pos
  | cons byte bytes ih =>
    have hbyte := byte.toNat_lt
    rw [readLe_cons, List.length_cons, pow_succ]
    omega

theorem writeLe_readLe : writeLe bytes.length (readLe bytes) = bytes := by
  induction bytes with
  | nil => rfl
  | cons byte bytes ih =>
    have hbyte := byte.toNat_lt
    have hlow : UInt8.ofNat (byte.toNat + 256 * readLe bytes) = byte := by
      apply UInt8.toNat.inj
      rw [UInt8.toNat_ofNat']
      omega
    have hhigh : (byte.toNat + 256 * readLe bytes) / 256 = readLe bytes := by
      omega
    rw [List.length_cons, writeLe, readLe_cons, hlow, hhigh, ih]

theorem readLe_append_replicate_zero (n : ℕ) :
    readLe (bytes ++ List.replicate n 0) = readLe bytes := by
  induction bytes with
  | nil =>
    induction n with
    | zero => rfl
    | succ n ih =>
      rw [List.nil_append] at ih
      rw [List.nil_append, List.replicate_succ, readLe_cons, ih]
      rfl
  | cons byte bytes ih => rw [List.cons_append, readLe_cons, ih, readLe_cons]

/-! ## Sizes -/

def serializedLength (n : ℕ) : ℕ :=
  if n ≤ 0xfc then 1 else if n ≤ 0xffff then 3 else if n ≤ 0xffffffff then 5 else 9

@[simp] theorem length_writeCompactInteger (n : ℕ) :
    (writeCompactInteger n).length = serializedLength n := by
  unfold writeCompactInteger serializedLength
  split_ifs <;> simp

@[simp] theorem length_writeBytes :
    (writeBytes bytes).length = serializedLength bytes.length + bytes.length := by
  simp [writeBytes]

@[simp] theorem length_writeList {α : Type} (item : α → List UInt8)
    (items : List α) : (writeList item items).length =
      serializedLength items.length + (items.map fun a => (item a).length).sum := by
  simp [writeList, List.length_flatMap]

end WireCodec

end KdfProtocol
