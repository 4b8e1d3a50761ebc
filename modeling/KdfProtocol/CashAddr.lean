import KdfProtocol.OrderTypes
import Mathlib.Data.Nat.Bitwise

/-!
# Checksums of cash addresses

An address is the name of a network and symbols of five bits; the last eight symbols are a
checksum.  The checksum is linear, so whether a replacement is seen depends on the replaced
symbols alone.
-/

namespace KdfProtocol.CashAddr

def charset : List Char := "qpzry9x8gf2tvdw0s3jn54khce6mua7l".toList

def bchGenerators : List ℕ :=
  [0x98f2bc8e61, 0x79b76d99e2, 0xf33e5fb3c4, 0xae2eabe2a8, 0x1e4f43e470]

inductive AddressType where
  | p2pkh
  | p2sh

inductive NetworkPrefix where
  | bitcoinCash
  | bchTest
  | bchReg
  | simpleLedger
  | slpTest
  | other (name : String)

namespace NetworkPrefix

def display : NetworkPrefix → String
  | bitcoinCash => "bitcoincash"
  | bchTest => "bchtest"
  | bchReg => "bchreg"
  | simpleLedger => "simpleledger"
  | slpTest => "slptest"
  | other name => name

def fromStr (toLowercase : String → String) (s : String) : NetworkPrefix :=
  match toLowercase s with
  | "bitcoincash" => bitcoinCash
  | "bchtest" => bchTest
  | "bchreg" => bchReg
  | "simpleledger" => simpleLedger
  | "slptest" => slpTest
  | lower => other lower

def checksumSeed (network : NetworkPrefix) : List ℕ :=
  network.display.toUTF8.toList.map (fun byte => byte.toNat &&& 0x1f) ++ [0]

end NetworkPrefix

structure CashAddress where
  network : NetworkPrefix
  hash : List ℕ
  addressType : AddressType

/-! ## The checksum -/

def applyGenerators (c0 c : ℕ) : ℕ :=
  bchGenerators.zipIdx.foldl (fun c (g, i) => if c0 &&& 1 <<< i ≠ 0 then c ^^^ g else c) c

def polyStep (c d : ℕ) : ℕ :=
  applyGenerators ((c >>> 35) % 2 ^ 8) (((c &&& 0x07ffffffff) <<< 5) ^^^ d)

def polyModWithPrefix (network : NetworkPrefix) (payload : List ℕ) : ℕ :=
  (network.checksumSeed ++ payload).foldl polyStep 1 ^^^ 1

/-! ## Decoding -/

/-- The inner loop takes as many symbols of the new width as the pending bits hold. -/
def repackBits (input : List ℕ) (width target : ℕ) (pad : Bool) : List ℕ × Bool :=
  let mask := 1 <<< target - 1
  let (out, acc, bits) := input.foldl (fun (out, acc, bits) b =>
    let acc := ((acc <<< width) ||| b) &&& (1 <<< (width + target - 1) - 1)
    let bits := bits + width
    (out ++ (List.range (bits / target)).map fun k => (acc >>> (bits - (k + 1) * target)) &&& mask,
      acc, bits % target)) ([], 0, 0)
  if bits = 0 then (out, true)
  else if pad then (out ++ [(acc <<< (target - bits)) &&& mask], true)
  else (out, false)

def decodeBase32 (input : List Char) : Fallible String (List ℕ) :=
  input.mapM fun c =>
    match charset.idxOf? c.toLower with
    | some symbol => .ok symbol
    | none => refuse "Invalid base32 input string"

def mixedCase (s : List Char) : Bool := s.any Char.isLower && s.any Char.isUpper

def hashSizeFromVersion (v : ℕ) : ℕ :=
  match v &&& 0x07 with
  | 0 => 20
  | 1 => 24
  | 2 => 28
  | 3 => 32
  | 4 => 40
  | 5 => 48
  | 6 => 56
  | _ => 64

section Decode

variable (toLowercase : String → String)

def splitAddress (addr : List Char) : NetworkPrefix × List Char :=
  if ':' ∈ addr then
    (.fromStr toLowercase (String.ofList (addr.takeWhile (· ≠ ':'))),
      (addr.dropWhile (· ≠ ':')).tail)
  else (.bitcoinCash, addr)

def decode (addr : List Char) : Fallible String CashAddress :=
  let (network, payload) := splitAddress toLowercase addr
  if mixedCase payload then
    refuse "cashaddress contains mixed upper and lowercase characters"
  else do
    let payload5 ← decodeBase32 payload
    if polyModWithPrefix network payload5 ≠ 0 then refuse "Checksum verification failed"
    else if payload5.length < 9 then refuse "Insufficient packed data to decode"
    else
      match (repackBits (payload5.take (payload5.length - 8)) 5 8 false).1 with
      | [] => .error .panic
      | version :: body8 =>
        if version &&& 0x80 ≠ 0 then
          refuse "The version byte's most significant bit is reserved and must be 0"
        else do
          let addressType ← match version >>> 3 with
            | 0 => .ok AddressType.p2pkh
            | 1 => .ok .p2sh
            | _ => refuse "Unexpected address type"
          let expected := hashSizeFromVersion version
          let actual := body8.length
          if actual ≠ expected then
            refuse s!"Incorrect address hash len: expected={expected}, actual={actual}"
          else return ⟨network, body8, addressType⟩

end Decode

/-! ## Replaced symbols -/

def difference (payload replaced : List ℕ) : List ℕ :=
  (payload.zip replaced).map fun (symbol, other) => symbol ^^^ other

theorem applyGenerators_xor (a b c d : ℕ) :
    applyGenerators (a ^^^ b) (c ^^^ d) = applyGenerators a c ^^^ applyGenerators b d := by
  unfold applyGenerators
  generalize bchGenerators.zipIdx = generators
  induction generators generalizing c d with
  | nil => rfl
  | cons generator rest ih =>
    obtain ⟨g, i⟩ := generator
    have hbit (n : ℕ) : n &&& 1 <<< i ≠ 0 ↔ n.testBit i = true := by
      rw [Nat.one_shiftLeft, Nat.and_two_pow]
      cases n.testBit i <;> simp
    have hstep : (if (a ^^^ b) &&& 1 <<< i ≠ 0 then c ^^^ d ^^^ g else c ^^^ d) =
        (if a &&& 1 <<< i ≠ 0 then c ^^^ g else c) ^^^ (if b &&& 1 <<< i ≠ 0 then d ^^^ g else d) := by
      simp only [hbit, Nat.testBit_xor]
      cases a.testBit i <;> cases b.testBit i <;> simp <;> grind
    simp only [List.foldl_cons, hstep, ih]

theorem polyStep_xor (a b d e : ℕ) :
    polyStep (a ^^^ b) (d ^^^ e) = polyStep a d ^^^ polyStep b e := by
  unfold polyStep
  rw [← applyGenerators_xor, Nat.shiftRight_xor_distrib, Nat.xor_mod_two_pow,
    Nat.and_xor_distrib_right, Nat.shiftLeft_xor_distrib]
  congr 1
  ac_rfl

theorem foldl_polyStep_xor (payload replaced : List ℕ) (hlength : payload.length = replaced.length)
    (a b : ℕ) :
    payload.foldl polyStep a ^^^ replaced.foldl polyStep b =
      (difference payload replaced).foldl polyStep (a ^^^ b) := by
  induction payload generalizing replaced a b with
  | nil =>
    cases replaced with
    | nil => rfl
    | cons => cases hlength
  | cons symbol payload ih =>
    cases replaced with
    | nil => cases hlength
    | cons other replaced =>
      simp only [List.foldl_cons, difference, List.zip_cons_cons, List.map_cons, polyStep_xor]
      exact ih replaced (Nat.succ.inj hlength) _ _

theorem applyGenerators_symbol : ∀ symbol < 32,
    applyGenerators symbol 0 < 2 ^ 40 ∧ applyGenerators symbol 0 % 32 = symbol := by
  decide

theorem applyGenerators_zero (c : ℕ) : applyGenerators 0 c = c := by
  simp [applyGenerators, bchGenerators]

theorem polyStep_eq_xor (c d : ℕ) : polyStep c d = polyStep c 0 ^^^ d := by
  have hxor := polyStep_xor c 0 0 d
  have hzero : polyStep 0 d = d := by simp [polyStep, applyGenerators_zero]
  rwa [Nat.xor_zero, Nat.zero_xor, hzero] at hxor

theorem polyStep_zero {c : ℕ} (hc : c < 2 ^ 40) :
    polyStep c 0 = applyGenerators (c / 2 ^ 35) 0 ^^^ (c % 2 ^ 35 * 2 ^ 5) := by
  have hsplit := applyGenerators_xor (c / 2 ^ 35) 0 0 (c % 2 ^ 35 * 2 ^ 5)
  rw [Nat.xor_zero, Nat.zero_xor, applyGenerators_zero] at hsplit
  rw [← hsplit, polyStep, Nat.xor_zero, Nat.shiftRight_eq_div_pow, Nat.mod_eq_of_lt (by omega),
    show 0x07ffffffff = 2 ^ 35 - 1 by decide, Nat.and_two_pow_sub_one_eq_mod, Nat.shiftLeft_eq]

theorem polyStep_lt {c d : ℕ} (hc : c < 2 ^ 40) (hd : d < 32) : polyStep c d < 2 ^ 40 := by
  rw [polyStep_eq_xor, polyStep_zero hc]
  have hsymbol := applyGenerators_symbol (c / 2 ^ 35) (by omega)
  exact Nat.xor_lt_two_pow (Nat.xor_lt_two_pow hsymbol.1 (by omega)) (by omega)

theorem polyStep_ne_zero {c : ℕ} (hc : c < 2 ^ 40) (hne : c ≠ 0) : polyStep c 0 ≠ 0 := by
  rw [polyStep_zero hc, ne_eq, Nat.xor_eq_zero_iff]
  intro heq
  have hsymbol := (applyGenerators_symbol (c / 2 ^ 35) (by omega)).2
  have hhigh : c / 2 ^ 35 = 0 := by omega
  rw [hhigh, applyGenerators_zero] at heq
  omega

/-- For `steps` zero symbols the checksum of `c` is no symbol. -/
def leavesSymbols : ℕ → ℕ → Bool
  | 0, _ => true
  | steps + 1, c => 32 ≤ polyStep c 0 && leavesSymbols steps (polyStep c 0)

theorem symbols_leave : ∀ symbol < 32, symbol ≠ 0 → leavesSymbols 111 symbol = true := by
  decide +kernel

section Errors

variable {errors : List ℕ}

theorem foldl_zeros_ne_zero (hzero : errors.countP (· ≠ 0) = 0) {c : ℕ} (hc : c < 2 ^ 40)
    (hne : c ≠ 0) : errors.foldl polyStep c ≠ 0 := by
  induction errors generalizing c with
  | nil => exact hne
  | cons symbol rest ih =>
    rw [List.countP_cons] at hzero
    have hsymbol : symbol = 0 := by
      by_contra hother
      simp [hother] at hzero
    rw [List.foldl_cons, hsymbol]
    exact ih (by omega) (polyStep_lt hc (by decide)) (polyStep_ne_zero hc hne)

theorem foldl_one_ne_zero (hone : errors.countP (· ≠ 0) ≤ 1)
    (hsymbols : ∀ symbol ∈ errors, symbol < 32) {steps c : ℕ} (hlength : errors.length ≤ steps)
    (hc : c < 2 ^ 40) (hne : c ≠ 0) (hleaves : leavesSymbols steps c = true) :
    errors.foldl polyStep c ≠ 0 := by
  induction errors generalizing steps c with
  | nil => exact hne
  | cons symbol rest ih =>
    obtain ⟨hlt, hrest⟩ := List.forall_mem_cons.mp hsymbols
    obtain ⟨steps, rfl⟩ := Nat.exists_eq_add_one.mpr (Nat.zero_lt_of_lt hlength)
    simp only [leavesSymbols, Bool.and_eq_true, decide_eq_true_eq] at hleaves
    rw [List.countP_cons] at hone
    rw [List.foldl_cons]
    by_cases hsymbol : symbol = 0
    · rw [hsymbol]
      exact ih (by omega) hrest (Nat.le_of_succ_le_succ hlength) (polyStep_lt hc (by decide))
        (polyStep_ne_zero hc hne) hleaves.2
    · -- The second error meets a state above all symbols, so it does not cancel the first.
      refine foldl_zeros_ne_zero (by simp [hsymbol] at hone; simpa using hone)
        (polyStep_lt hc hlt) ?_
      rw [polyStep_eq_xor, ne_eq, Nat.xor_eq_zero_iff]
      omega

theorem foldl_errors_ne_zero (herrors : errors.countP (· ≠ 0) ∈ [1, 2])
    (hsymbols : ∀ symbol ∈ errors, symbol < 32) (hlength : errors.length ≤ 112) :
    errors.foldl polyStep 0 ≠ 0 := by
  induction errors with
  | nil => simp at herrors
  | cons symbol rest ih =>
    obtain ⟨hlt, hrest⟩ := List.forall_mem_cons.mp hsymbols
    rw [List.countP_cons] at herrors
    rw [List.foldl_cons, polyStep_eq_xor, show polyStep 0 0 = 0 by decide, Nat.zero_xor]
    by_cases hsymbol : symbol = 0
    · rw [hsymbol]
      exact ih (by simpa [hsymbol] using herrors) hrest (Nat.le_of_succ_le hlength)
    · refine foldl_one_ne_zero ?_ hrest (Nat.le_of_succ_le_succ hlength) (by omega) hsymbol
        (symbols_leave symbol hlt hsymbol)
      rw [if_pos (by simpa using hsymbol)] at herrors
      simp only [List.mem_cons, List.not_mem_nil, or_false] at herrors
      omega

end Errors

/-- One or two replaced symbols of a valid payload are detected. -/
theorem substitutions_detected (toLowercase : String → String) (network : NetworkPrefix)
    (payload replaced : List ℕ) (hpayload : ∀ symbol ∈ payload, symbol < 32)
    (hsymbols : ∀ symbol ∈ replaced, symbol < 32) (hbound : payload.length ≤ 112)
    (hlength : replaced.length = payload.length)
    (hvalid : polyModWithPrefix network payload = 0)
    (hreplaced : (payload.zip replaced).countP (fun (symbol, other) => symbol ≠ other) ∈ [1, 2]) :
    polyModWithPrefix network replaced ≠ 0 ∧
    ∀ addr text, splitAddress toLowercase addr = (network, text) →
      decodeBase32 text = .ok replaced → ∃ err, decode toLowercase addr = .error (.error err) := by
  have hcheck : polyModWithPrefix network replaced ≠ 0 := by
    have hfold := foldl_polyStep_xor payload replaced hlength.symm
      (network.checksumSeed.foldl polyStep 1) (network.checksumSeed.foldl polyStep 1)
    have herrors : (difference payload replaced).foldl polyStep 0 ≠ 0 := by
      refine foldl_errors_ne_zero ?_ ?_ ?_
      · rw [difference, List.countP_map]
        convert hreplaced using 2
        funext pair
        simp
      · intro symbol hmem
        obtain ⟨⟨kept, other⟩, hpair, rfl⟩ := List.mem_map.mp hmem
        obtain ⟨hkept, hother⟩ := List.of_mem_zip hpair
        exact @Nat.xor_lt_two_pow _ _ 5 (hpayload kept hkept) (hsymbols other hother)
      · simp [difference, hlength, hbound]
    rw [Nat.xor_self] at hfold
    rw [← hfold, ne_eq, Nat.xor_eq_zero_iff] at herrors
    rw [polyModWithPrefix, List.foldl_append, Nat.xor_eq_zero_iff] at hvalid
    rw [polyModWithPrefix, List.foldl_append, ne_eq, Nat.xor_eq_zero_iff]
    exact fun heq => herrors (hvalid.trans heq.symm)
  refine ⟨hcheck, fun addr text hsplit hdecode => ?_⟩
  unfold decode
  rw [hsplit]
  dsimp only
  split
  · exact ⟨_, rfl⟩
  · rw [hdecode]
    exact ⟨_, if_pos hcheck⟩

/-- The address `bitcoincash:qzxqqt9lh4feptf0mplnk58gnajfepzwcq9f2rxk55` with another last
symbol. -/
theorem last_symbol_detected : ∃ err,
    decode id "bitcoincash:qzxqqt9lh4feptf0mplnk58gnajfepzwcq9f2rxk56".toList =
      .error (.error err) :=
  (substitutions_detected id .bitcoinCash
    [0, 2, 6, 0, 0, 11, 5, 31, 23, 21, 9, 25, 1, 11, 9, 15, 27, 1, 31, 19, 22, 20, 7, 8, 19, 29, 18,
      9, 25, 1, 2, 14, 24, 0, 5, 9, 10, 3, 6, 22, 20, 20]
    [0, 2, 6, 0, 0, 11, 5, 31, 23, 21, 9, 25, 1, 11, 9, 15, 27, 1, 31, 19, 22, 20, 7, 8, 19, 29, 18,
      9, 25, 1, 2, 14, 24, 0, 5, 9, 10, 3, 6, 22, 20, 26]
    (by decide) (by decide) (by decide) (by decide) (by decide +kernel) (by decide)).2 _ _
    (by rfl) (by rfl)

end KdfProtocol.CashAddr
