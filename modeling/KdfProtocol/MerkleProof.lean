import KdfProtocol.MerkleTree
import KdfProtocol.OrderbookItem
import KdfProtocol.Sha256

/-!
# Merkle inclusion proofs

The verifier of SPV proofs and the builder of the root that it is checked
against.  The hash function is a parameter; `sha256` is the real one.
-/

namespace KdfProtocol

open MerkleTree

inductive SPVError where
  | readOverrun
  | badCompactInt
  | malformattedOutput
  | unableToGetTarget
  | unableToGetHeader
  | wrongLengthHeader
  | unexpectedDifficultyChange
  | insufficientWork
  | invalidChain
  | wrongDigest
  | wrongMerkleRoot
  | wrongPrevHash
  | invalidVin
  | invalidVout
  | badMerkleProof
  | unableToGetMerkle
  | invalidHeight
  | timeout
  deriving DecidableEq

section Hashes

variable (sha256 : Bytes → H256)

def dhash256 (input : Bytes) : H256 := sha256 (sha256 input).bytes

/-! ## The root of a block -/

def merkleNodeHash (left right : H256) : H256 :=
  dhash256 sha256 (left.bytes ++ right.bytes)

/-- `none` is the panic on an empty slice. -/
def merkleRoot (leaves : List H256) : Option H256 :=
  MerkleTree.root (merkleNodeHash sha256) leaves

/-! ## The verifier -/

structure MerkleArray where
  slice : Bytes
  multiple : slice.length % 32 = 0

namespace MerkleArray

def new (slice : Bytes) : Except SPVError MerkleArray :=
  if hmultiple : slice.length % 32 = 0 then .ok ⟨slice, hmultiple⟩
  else .error .badMerkleProof

def len (nodes : MerkleArray) : ℕ := nodes.slice.length / 32

def index (i : ℕ) (nodes : MerkleArray) : Except SPVError H256 :=
  if hshort : nodes.slice.length < (i + 1) * 32 then .error .badMerkleProof
  else
    .ok
      { bytes := (nodes.slice.drop (i * 32)).take 32
        length_eq := by
          rw [List.length_take, List.length_drop]
          omega }

end MerkleArray

def hash256 (preimages : List Bytes) : H256 :=
  sha256 (sha256 preimages.flatten).bytes

def hash256MerkleStep (a b : Bytes) : H256 := hash256 sha256 [a, b]

/-- One turn of the verifier's loop, on the running digest and the rest of
the index. -/
def verifyStep (nodes : MerkleArray) (state : H256 × ℕ) (i : ℕ) : Except SPVError (H256 × ℕ) := do
  let (current, idx) := state
  let next ← nodes.index i
  let current :=
    if idx % 2 = 1 then hash256MerkleStep sha256 next.bytes current.bytes
    else hash256MerkleStep sha256 current.bytes next.bytes
  pure (current, idx / 2)

def verifyHash256Merkle (txid merkleRoot : H256)
    (intermediateNodes : MerkleArray) (index : ℕ) : Except SPVError Unit :=
  let proofLen := intermediateNodes.len
  if (proofLen = 0 ∧ txid = merkleRoot) ∨ proofLen = 1 then .ok ()
  else do
    let (current, _) ← (List.range proofLen).foldlM
      (verifyStep sha256 intermediateNodes) (txid, index)
    if current ≠ merkleRoot then .error .badMerkleProof else .ok ()

variable (nodes : List H256)

def packNodes : Bytes := nodes.flatMap H256.bytes

def merkleProve (txid merkleRoot : H256) (intermediateNodes : List H256)
    (index : ℕ) : Except SPVError Unit :=
  if txid = merkleRoot ∧ index = 0 ∧ intermediateNodes = [] then .ok ()
  else do
    let nodes ← MerkleArray.new (packNodes intermediateNodes)
    verifyHash256Merkle sha256 txid merkleRoot nodes index

/-! ## What the verifier computes -/

theorem hash256MerkleStep_eq (a b : H256) :
    hash256MerkleStep sha256 a.bytes b.bytes = merkleNodeHash sha256 a b := by
  simp [hash256MerkleStep, hash256, merkleNodeHash, dhash256]

theorem length_packNodes : (packNodes nodes).length = nodes.length * 32 := by
  induction nodes with
  | nil => rfl
  | cons node rest ih =>
    have hpack : packNodes (node :: rest) = node.bytes ++ packNodes rest := rfl
    rw [hpack, List.length_append, ih, node.length_eq, List.length_cons]
    omega

def packedArray : MerkleArray where
  slice := packNodes nodes
  multiple := by
    rw [length_packNodes]
    omega

theorem new_packNodes : MerkleArray.new (packNodes nodes) = .ok (packedArray nodes) := by
  have hmultiple := (packedArray nodes).multiple
  exact dif_pos hmultiple

theorem len_packedArray : (packedArray nodes).len = nodes.length := by
  simp only [MerkleArray.len, packedArray, length_packNodes]
  omega

theorem index_packedArray (before rest : List H256) (node : H256) :
    (packedArray (before ++ node :: rest)).index before.length = .ok node := by
  have hpack : packNodes (before ++ node :: rest) =
      packNodes before ++ (node.bytes ++ packNodes rest) := by
    simp [packNodes]
  have hlong : ¬(packNodes (before ++ node :: rest)).length < (before.length + 1) * 32 := by
    rw [length_packNodes, List.length_append, List.length_cons]
    omega
  have hbytes : ((packNodes (before ++ node :: rest)).drop
      (before.length * 32)).take 32 = node.bytes := by
    rw [hpack, ← length_packNodes before, List.drop_left, ← node.length_eq, List.take_left]
  unfold MerkleArray.index packedArray
  rw [dif_neg hlong]
  congr 1
  cases node
  simpa using hbytes

theorem foldlM_verifyStep (before rest : List H256) (current : H256) (idx : ℕ) :
    ∃ idx', (List.range' before.length rest.length).foldlM
        (verifyStep sha256 (packedArray (before ++ rest))) (current, idx) =
      .ok (foldPath (merkleNodeHash sha256) current idx rest, idx') := by
  induction rest generalizing before current idx with
  | nil => exact ⟨idx, rfl⟩
  | cons node rest ih =>
    have hnext := ih (before ++ [node]) (combine (merkleNodeHash sha256) idx current node) (idx / 2)
    rw [List.append_assoc, List.singleton_append, List.length_append,
      List.length_singleton] at hnext
    obtain ⟨idx', hloop⟩ := hnext
    refine ⟨idx', ?_⟩
    have hstep : verifyStep sha256 (packedArray (before ++ node :: rest))
        (current, idx) before.length =
        .ok (combine (merkleNodeHash sha256) idx current node, idx / 2) := by
      simp only [verifyStep, index_packedArray, hash256MerkleStep_eq]
      rfl
    rw [List.length_cons, List.range'_succ, List.foldlM_cons, hstep]
    exact hloop

theorem verifyHash256Merkle_packedArray (txid root : H256) (nodes : List H256) (index : ℕ) :
    verifyHash256Merkle sha256 txid root (packedArray nodes) index = .ok () ↔ nodes.length = 1 ∨
        foldPath (merkleNodeHash sha256) txid index nodes =
          root := by
  obtain ⟨idx', hloop⟩ := foldlM_verifyStep sha256 [] nodes txid index
  rw [List.nil_append, List.length_nil, ← List.range_eq_range'] at hloop
  simp only [verifyHash256Merkle, len_packedArray, hloop]
  by_cases hone : nodes.length = 1
  · simp [hone]
  · by_cases hempty : nodes.length = 0 ∧ txid = root
    · obtain ⟨hnil, rfl⟩ := hempty
      rw [List.length_eq_zero_iff] at hnil
      subst hnil
      simp [foldPath]
    · rw [if_neg (by tauto)]
      by_cases hroot : foldPath (merkleNodeHash sha256) txid index nodes = root
      · simp [hroot, bind, Except.bind]
      · simp [hroot, hone, bind, Except.bind]

theorem merkleProve_ok_iff (txid root : H256) (nodes : List H256) (index : ℕ) :
    merkleProve sha256 txid root nodes index = .ok () ↔ nodes.length = 1 ∨
        foldPath (merkleNodeHash sha256) txid index nodes =
          root := by
  unfold merkleProve
  by_cases hself : txid = root ∧ index = 0 ∧ nodes = []
  · obtain ⟨rfl, rfl, rfl⟩ := hself
    simp [foldPath]
  · rw [if_neg hself, new_packNodes]
    exact verifyHash256Merkle_packedArray sha256 txid root nodes index

/-- Soundness holds for exactly the proofs that are not one wrong node, and
every leaf of every block is accepted with its own path. -/
theorem merkleProve_sound_iff_and_complete :
    (∀ txid root nodes index,
      (merkleProve sha256 txid root nodes index = .ok () →
          MerkleTree.foldPath (merkleNodeHash sha256) txid index nodes =
            root) ↔
        nodes.length ≠ 1 ∨
          MerkleTree.foldPath (merkleNodeHash sha256) txid index nodes =
            root) ∧
    ∀ (leaves : List H256) (i : Fin leaves.length),
      ∃ root, merkleRoot sha256 leaves = some root ∧
        merkleProve sha256 (leaves.get i) root
          (MerkleTree.siblingPath (merkleNodeHash sha256) leaves i) i =
            .ok () := by
  constructor
  · intro txid root nodes index
    rw [merkleProve_ok_iff]
    tauto
  · intro leaves i
    have hleaf : leaves[(i : ℕ)]? = some (leaves.get i) := by simp
    refine ⟨_, root_eq_foldPath (merkleNodeHash sha256) leaves hleaf, ?_⟩
    rw [merkleProve_ok_iff]
    exact Or.inr rfl

end Hashes

def sha256 (input : Bytes) : H256 where
  bytes := Sha256.digest input
  length_eq := Sha256.length_digest input

/-- The leaf `00…00` with the one node `00…00` is accepted for the root
`01…01`, which is not their double SHA-256. -/
theorem merkleProve_accepts_wrong_root :
    merkleProve sha256 (H256.repeat 0) (H256.repeat 1) [H256.repeat 0] 0 =
        .ok () ∧
      MerkleTree.foldPath (merkleNodeHash sha256) (H256.repeat 0) 0
        [H256.repeat 0] ≠ H256.repeat 1 := by
  constructor
  · rw [merkleProve_ok_iff]
    exact Or.inl rfl
  · decide +kernel

end KdfProtocol
