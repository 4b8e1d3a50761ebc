import Mathlib.Data.List.Basic
import Mathlib.Tactic

/-!
# RIPEMD-160

The hash function of the addresses of coins, on lists of bytes.
-/

namespace KdfProtocol

namespace RipemdDigest

abbrev Word := BitVec 32

structure State where
  a : Word
  b : Word
  c : Word
  d : Word
  e : Word

def initialState : State where
  a := 0x67452301
  b := 0xefcdab89
  c := 0x98badcfe
  d := 0x10325476
  e := 0xc3d2e1f0

def mix (group : ℕ) (x y z : Word) : Word :=
  match group with
  | 0 => x ^^^ y ^^^ z
  | 1 => (x &&& y) ||| (~~~x &&& z)
  | 2 => (x ||| ~~~y) ^^^ z
  | 3 => (x &&& z) ||| (y &&& ~~~z)
  | _ => x ^^^ (y ||| ~~~z)

/-- What a round reads: its group, the word of the block, the rotation and the
constant. -/
structure Round where
  group : ℕ
  word : ℕ
  rotation : ℕ
  constant : Word

def rounds (groups : List ℕ) (constants : List Word)
    (selections rotations : List (List ℕ)) : List Round :=
  (groups.zip (constants.zip (selections.zip rotations))).flatMap
    fun (group, constant, words, turns) =>
      (words.zip turns).map fun (word, turn) => ⟨group, word, turn, constant⟩

def leftRounds : List Round :=
  rounds [0, 1, 2, 3, 4] [0x00000000, 0x5a827999, 0x6ed9eba1, 0x8f1bbcdc, 0xa953fd4e]
    [[0, 1, 2, 3, 4, 5, 6, 7, 8, 9, 10, 11, 12, 13, 14, 15],
     [7, 4, 13, 1, 10, 6, 15, 3, 12, 0, 9, 5, 2, 14, 11, 8],
     [3, 10, 14, 4, 9, 15, 8, 1, 2, 7, 0, 6, 13, 11, 5, 12],
     [1, 9, 11, 10, 0, 8, 12, 4, 13, 3, 7, 15, 14, 5, 6, 2],
     [4, 0, 5, 9, 7, 12, 2, 10, 14, 1, 3, 8, 11, 6, 15, 13]]
    [[11, 14, 15, 12, 5, 8, 7, 9, 11, 13, 14, 15, 6, 7, 9, 8],
     [7, 6, 8, 13, 11, 9, 7, 15, 7, 12, 15, 9, 11, 7, 13, 12],
     [11, 13, 6, 7, 14, 9, 13, 15, 14, 8, 13, 6, 5, 12, 7, 5],
     [11, 12, 14, 15, 14, 15, 9, 8, 9, 14, 5, 6, 8, 6, 5, 12],
     [9, 15, 5, 11, 6, 8, 13, 12, 5, 12, 13, 14, 11, 8, 5, 6]]

def rightRounds : List Round :=
  rounds [4, 3, 2, 1, 0] [0x50a28be6, 0x5c4dd124, 0x6d703ef3, 0x7a6d76e9, 0x00000000]
    [[5, 14, 7, 0, 9, 2, 11, 4, 13, 6, 15, 8, 1, 10, 3, 12],
     [6, 11, 3, 7, 0, 13, 5, 10, 14, 15, 8, 12, 4, 9, 1, 2],
     [15, 5, 1, 3, 7, 14, 6, 9, 11, 8, 12, 2, 10, 0, 4, 13],
     [8, 6, 4, 1, 3, 11, 15, 0, 5, 12, 2, 13, 9, 7, 10, 14],
     [12, 15, 10, 4, 1, 5, 8, 7, 6, 2, 13, 14, 0, 3, 9, 11]]
    [[8, 9, 9, 11, 13, 15, 15, 5, 7, 7, 8, 11, 14, 14, 12, 6],
     [9, 13, 15, 7, 12, 8, 9, 11, 7, 7, 12, 7, 6, 15, 13, 11],
     [9, 7, 15, 11, 8, 6, 6, 14, 12, 13, 5, 14, 13, 13, 7, 5],
     [15, 5, 8, 11, 14, 14, 6, 14, 6, 9, 12, 9, 12, 5, 15, 8],
     [8, 5, 12, 9, 12, 5, 14, 6, 8, 13, 6, 5, 15, 13, 11, 11]]

def applyRound (block : List Word) (s : State) (round : Round) : State :=
  let sum := s.a + mix round.group s.b s.c s.d + block.getD round.word 0 + round.constant
  { a := s.e
    b := sum.rotateLeft round.rotation + s.e
    c := s.b
    d := s.c.rotateLeft 10
    e := s.d }

def compress (s : State) (block : List Word) : State :=
  let left := leftRounds.foldl (applyRound block) s
  let right := rightRounds.foldl (applyRound block) s
  { a := s.b + left.c + right.d
    b := s.c + left.d + right.e
    c := s.d + left.e + right.a
    d := s.e + left.a + right.b
    e := s.a + left.b + right.c }

def pad (message : List UInt8) : List UInt8 :=
  let bits := 8 * message.length
  message ++ 0x80 :: List.replicate ((119 - message.length % 64) % 64) 0 ++
    (List.range 8).map fun i => UInt8.ofNat (bits / 256 ^ i)

def words : List UInt8 → List Word
  | b0 :: b1 :: b2 :: b3 :: rest =>
    BitVec.ofNat 32 (((b3.toNat * 256 + b2.toNat) * 256 + b1.toNat) * 256 + b0.toNat) :: words rest
  | _ => []

def wordBytes (word : Word) : List UInt8 :=
  [0, 8, 16, 24].map fun shift => UInt8.ofNat (word.toNat / 2 ^ shift)

def finish (s : State) : List UInt8 :=
  [s.a, s.b, s.c, s.d, s.e].flatMap wordBytes

def digest (message : List UInt8) : List UInt8 :=
  finish (((words (pad message)).toChunks 16).foldl compress initialState)

theorem length_digest (message : List UInt8) : (digest message).length = 20 := rfl

example : (digest "abc".toUTF8.toList) =
    [0x8e, 0xb2, 0x08, 0xf7, 0xe0, 0x5d, 0x98, 0x7a, 0x9b, 0x04, 0x4a, 0x8e,
     0x98, 0xc6, 0xb0, 0x87, 0xf1, 0x5a, 0x0b, 0xfc] := by
  decide +kernel

end RipemdDigest

end KdfProtocol
