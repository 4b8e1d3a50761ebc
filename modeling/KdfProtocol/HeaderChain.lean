import KdfProtocol.MerkleProof
import KdfProtocol.WireCodec

/-!
# Chains of block headers

A client without the chain takes a list of headers for a part of it if every header
names the one before it and its digest is below a target.  Each header encodes the
target that it was mined for.
-/

namespace KdfProtocol.HeaderChain

open BitcoinScript WireCodec

/-! ## Headers and their targets -/

/-- A length in bytes, a sign and the three highest bytes of a target. -/
structure Compact where
  bits : UInt32

def Compact.toU256 (compact : Compact) : Except ℕ ℕ :=
  let exponent := compact.bits.toNat >>> 24
  let mantissa := compact.bits.toNat &&& 0x007fffff
  let mantissa := if exponent ≤ 3 then mantissa >>> (8 * (3 - exponent)) else mantissa
  let target := if exponent ≤ 3 then mantissa
    else (mantissa <<< (8 * (exponent - 3))) % 2 ^ 256
  let negative := mantissa ≠ 0 && compact.bits.toNat &&& 0x00800000 ≠ 0
  let overflow := (mantissa ≠ 0 && 34 < exponent) || (0xff < mantissa && 33 < exponent) ||
    (0xffff < mantissa && 32 < exponent)
  if negative || overflow then .error target else .ok target

inductive BlockHeaderBits where
  | compact (compact : Compact)
  | u32 (n : UInt32)

def BlockHeaderBits.serialize : BlockHeaderBits → List UInt8
  | compact c => writeU32 c.bits
  | u32 n => writeU32 n

/-- The fields that the validation does not read are kept as the bytes that they are
written as: `middle` are the roots and the time, `trailer` the nonce and what the
coin adds. -/
structure BlockHeader where
  version : UInt32
  isVerus : Bool := false
  previousHeaderHash : FixedBytes 32
  middle : List UInt8
  bits : BlockHeaderBits
  trailer : List UInt8

namespace BlockHeader

def serialize (header : BlockHeader) : List UInt8 :=
  writeU32 (if header.isVerus then header.version ^^^ 0x00010000 else header.version) ++
    header.previousHeaderHash.val ++ header.middle ++ header.bits.serialize ++ header.trailer

def target (header : BlockHeader) : Except ℕ ℕ :=
  match header.bits with
  | .compact compact => compact.toU256
  | .u32 n => .ok n.toNat

def digest (header : BlockHeader) : FixedBytes 32 :=
  ⟨Sha256.digest (Sha256.digest header.serialize), Sha256.length_digest _⟩

/-- Bytes 4 to 36 of the raw header. -/
def parent (header : BlockHeader) : List UInt8 :=
  (header.serialize.drop 4).take 32

end BlockHeader

/-! ## The validation -/

def validateHeaderPrevHash (actual toCompareWith : List UInt8) : Bool :=
  actual = toCompareWith

def validateHeaderWork (digest : FixedBytes 32) (target : ℕ) : Bool :=
  digest ≠ .zero 32 && readLe digest.val < target

def validateHeadersLoop (difficultyCheck constantDifficulty : Bool) :
    ℕ → FixedBytes 32 → ℕ → List BlockHeader → Except SPVError Unit
  | _, _, _, [] => .ok ()
  | i, previousHash, target, header :: rest =>
    match header.target with
    | .error _ => .error .unableToGetTarget
    | .ok curTarget =>
      let target := if i = 0 then curTarget else target
      if (!constantDifficulty && difficultyCheck) && curTarget ≠ target then
        .error .unexpectedDifficultyChange
      else if i ≠ 0 && !validateHeaderPrevHash header.parent previousHash.val then
        .error .invalidChain
      else if difficultyCheck && !validateHeaderWork header.digest target then
        .error .insufficientWork
      else validateHeadersLoop difficultyCheck constantDifficulty (i + 1) header.digest target rest

def validateHeaders (headers : List BlockHeader)
    (difficultyCheck constantDifficulty : Bool) : Except SPVError Unit :=
  validateHeadersLoop difficultyCheck constantDifficulty 0 (.zero 32) 0 headers

/-! ## Accepted lists -/

def NamesParent (header next : BlockHeader) : Prop := next.parent = header.digest.val

def BlockHeader.MeetsTarget (header : BlockHeader) : Prop :=
  ∃ target, header.target = .ok target ∧ readLe header.digest.val < target

/-- The header passes the checks of the loop against the target of the first one. -/
def Passes (difficultyCheck constantDifficulty : Bool) (target : ℕ) (header : BlockHeader) : Prop :=
  ∃ own, header.target = .ok own ∧
    (difficultyCheck = true → constantDifficulty = false → own = target) ∧
    (difficultyCheck = true → validateHeaderWork header.digest target = true)

section Accepted

variable {difficultyCheck constantDifficulty : Bool}

variable {rest : List BlockHeader} {first : BlockHeader} {target : ℕ} {i : ℕ}

theorem loop_cons_eq_ok_iff {previousHash : FixedBytes 32} {header : BlockHeader} :
    validateHeadersLoop difficultyCheck constantDifficulty (i + 1) previousHash target
        (header :: rest) = .ok () ↔
      header.parent = previousHash.val ∧ Passes difficultyCheck constantDifficulty target header ∧
        validateHeadersLoop difficultyCheck constantDifficulty (i + 2) header.digest target
          rest = .ok () := by
  rw [validateHeadersLoop, Passes]
  cases header.target with
  | error raw => simp
  | ok own =>
    cases difficultyCheck <;> cases constantDifficulty <;> simp [validateHeaderPrevHash, ite_eq_iff]
    tauto

theorem loop_eq_ok_iff :
    validateHeadersLoop difficultyCheck constantDifficulty (i + 1) first.digest target rest =
        .ok () ↔
      (first :: rest).IsChain NamesParent ∧
        ∀ header ∈ rest, Passes difficultyCheck constantDifficulty target header := by
  induction rest generalizing i first with
  | nil => simp [validateHeadersLoop]
  | cons header rest ih =>
    rw [loop_cons_eq_ok_iff, ih, List.isChain_cons_cons, List.forall_mem_cons, NamesParent]
    tauto

theorem validateHeaders_cons_eq_ok_iff :
    validateHeaders (first :: rest) difficultyCheck constantDifficulty = .ok () ↔
      (first :: rest).IsChain NamesParent ∧ ∃ target, first.target = .ok target ∧
        ∀ header ∈ first :: rest, Passes difficultyCheck constantDifficulty target header := by
  cases htarget : first.target with
  | error raw => simp [validateHeaders, validateHeadersLoop, htarget]
  | ok target =>
    have hfirst : Passes difficultyCheck constantDifficulty target first ↔
        (difficultyCheck = true → validateHeaderWork first.digest target = true) := by
      simp [Passes, htarget]
    have hloop : validateHeaders (first :: rest) difficultyCheck constantDifficulty = .ok () ↔
        (difficultyCheck = true → validateHeaderWork first.digest target = true) ∧
        validateHeadersLoop difficultyCheck constantDifficulty 1 first.digest target rest =
          .ok () := by
      rw [validateHeaders, validateHeadersLoop, htarget]
      cases difficultyCheck <;> simp [ite_eq_iff]
    rw [hloop, loop_eq_ok_iff, ← hfirst]
    simp only [Except.ok.injEq, exists_eq_left', List.forall_mem_cons]
    tauto

end Accepted

/-! ## Two targets -/

def easyHeader : BlockHeader where
  version := 1
  previousHeaderHash := .zero 32
  middle := List.replicate 36 0
  bits := .compact ⟨0x207fffff⟩
  trailer := [0, 0, 0, 0]

/-- Its target is 1, which no digest but zero is below. -/
def unminedHeader : BlockHeader where
  version := 1
  previousHeaderHash := easyHeader.digest
  middle := List.replicate 36 0
  bits := .compact ⟨0x01010000⟩
  trailer := [1, 0, 0, 0]

theorem not_meetsTarget_unminedHeader : ¬unminedHeader.MeetsTarget := by
  have htarget : unminedHeader.target = .ok 1 := by decide +kernel
  have hdigest : readLe unminedHeader.digest.val ≠ 0 := by decide +kernel
  rintro ⟨target, hown, hbelow⟩
  rw [htarget, Except.ok.injEq] at hown
  omega

theorem validateHeaders_unminedHeader :
    validateHeaders [easyHeader, unminedHeader] true true = .ok () := by
  decide +kernel

/-- With the difficulty checked, an accepted list is linked and every header meets its
own target exactly if the targets are compared with each other; a linked list whose
headers meet one common target is accepted with either flag. -/
theorem own_targets_met_iff (constantDifficulty : Bool) :
    ((∀ headers, validateHeaders headers true constantDifficulty = .ok () →
        headers.IsChain NamesParent ∧ ∀ header ∈ headers, header.MeetsTarget) ↔
      constantDifficulty = false) ∧
    ∀ headers difficultyCheck target, headers ≠ [] → headers.IsChain NamesParent →
      (∀ header ∈ headers, header.target = .ok target ∧ header.digest ≠ .zero 32 ∧
        readLe header.digest.val < target) →
      validateHeaders headers difficultyCheck constantDifficulty = .ok () := by
  refine ⟨⟨?_, ?_⟩, ?_⟩
  · intro hmet
    cases constantDifficulty with
    | false => rfl
    | true =>
      have hheaders := (hmet _ validateHeaders_unminedHeader).2
      exact absurd (hheaders unminedHeader (by simp)) not_meetsTarget_unminedHeader
  · rintro rfl headers haccepted
    cases headers with
    | nil => exact ⟨.nil, by simp⟩
    | cons first rest =>
      obtain ⟨hchain, target, -, hpasses⟩ := validateHeaders_cons_eq_ok_iff.mp haccepted
      refine ⟨hchain, ?_⟩
      intro header hheader
      obtain ⟨own, hown, hsame, hwork⟩ := hpasses header hheader
      have hdigest := hwork rfl
      rw [validateHeaderWork, Bool.and_eq_true, decide_eq_true_eq, decide_eq_true_eq] at hdigest
      exact ⟨own, hown, hsame rfl rfl ▸ hdigest.2⟩
  · intro headers difficultyCheck target hne hchain hheaders
    cases headers with
    | nil => exact absurd rfl hne
    | cons first rest =>
      have hfirst := hheaders first List.mem_cons_self
      refine validateHeaders_cons_eq_ok_iff.mpr ⟨hchain, target, hfirst.1, ?_⟩
      intro header hheader
      obtain ⟨hown, hdigest, hbelow⟩ := hheaders header hheader
      refine ⟨target, hown, fun _ _ => rfl, fun _ => ?_⟩
      rw [validateHeaderWork, decide_eq_true hdigest, decide_eq_true hbelow, Bool.and_self]

theorem unmined_header_accepted :
    validateHeaders [easyHeader, unminedHeader] true true = .ok () ∧ ¬unminedHeader.MeetsTarget :=
  ⟨validateHeaders_unminedHeader, not_meetsTarget_unminedHeader⟩

end KdfProtocol.HeaderChain
