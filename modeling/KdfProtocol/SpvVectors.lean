import KdfProtocol.MerkleProof
import KdfProtocol.WireCodec
import Mathlib.Data.FinEnum

/-!
# The input and output vectors of an SPV proof

A vector is a count and that many items; an item holds a script behind its length.
The validator adds the lengths that the items declare, in the wrap-around arithmetic
of the release build, and takes the number of bytes that a length would have in its
shortest form for the number of bytes it has.
-/

namespace KdfProtocol.SpvVectors

open BitcoinScript WireCodec

/-! ## The validator -/

inductive CompactIntegerError where
  | parseError (text : String)

def dataLength (flag : UInt8) : ℕ :=
  match flag with
  | 0xfd => 2
  | 0xfe => 4
  | 0xff => 8
  | _ => 0

def parseCompactInt (buf : List UInt8) : Except CompactIntegerError ℕ :=
  match buf with
  | [] => .error (.parseError "Empty buffer!")
  | flag :: payload =>
    let payloadLen := dataLength flag
    if payloadLen = 0 then .ok flag.toNat
    else if buf.length < 1 + payloadLen then
      .error (.parseError "Insufficient bytes!")
    else .ok (readLe (payload.take payloadLen ++ List.replicate (8 - payloadLen) 0))

/-- The length that an item declares: `front` bytes, the script behind its length, and
whatever else makes up the `fixed` bytes. -/
def determineLength (front fixed : ℕ) (short : SPVError) (item : List UInt8) : Except SPVError ℕ :=
  if item.length < front + 1 then .error short
  else
    match parseCompactInt (item.drop front) with
    | .error _ => .error .badCompactInt
    | .ok scriptLen => .ok ((fixed + serializedLength scriptLen + scriptLen) % 2 ^ 64)

def determineInputLength : List UInt8 → Except SPVError ℕ :=
  determineLength 36 40 .readOverrun

def determineOutputLength : List UInt8 → Except SPVError ℕ :=
  determineLength 8 8 .malformattedOutput

structure Verdict where
  valid : Bool
  rounds : ℕ
  deriving DecidableEq

def validateItems (determine : List UInt8 → Except SPVError ℕ) (bytes : List UInt8) :
    ℕ → ℕ → Verdict
  | 0, offset => ⟨offset == bytes.length, 0⟩
  | items + 1, offset =>
    if bytes.length ≤ offset then ⟨false, 1⟩
    else
      match determine (bytes.drop offset) with
      | .error _ => ⟨false, 1⟩
      | .ok length =>
        let rest := validateItems determine bytes items ((offset + length) % 2 ^ 64)
        ⟨rest.valid, rest.rounds + 1⟩

def validateVector (determine : List UInt8 → Except SPVError ℕ) (bytes : List UInt8) : Verdict :=
  match parseCompactInt bytes with
  | .error _ => ⟨false, 0⟩
  | .ok count =>
    if count = 0 then ⟨false, 0⟩
    else validateItems determine bytes count (serializedLength count)

def validateVin : List UInt8 → Verdict := validateVector determineInputLength

def validateVout : List UInt8 → Verdict := validateVector determineOutputLength

/-! ## The format -/

def IsItem (front back : ℕ) (item : List UInt8) : Prop :=
  ∃ first script last, item = first ++ (writeBytes script ++ last) ∧
    first.length = front ∧ last.length = back

def IsInput : List UInt8 → Prop := IsItem 36 4

def IsOutput : List UInt8 → Prop := IsItem 8 0

/-- A count above zero and so many items, with nothing after them. -/
def IsVector (IsItem : List UInt8 → Prop) (bytes : List UInt8) : Prop :=
  ∃ items : List (List UInt8), 0 < items.length ∧ (∀ item ∈ items, IsItem item) ∧
    bytes = writeCompactInteger items.length ++ items.flatten

/-! ## Counts -/

def takenLength (buf : List UInt8) : ℕ :=
  match buf with
  | [] => 0
  | flag :: _ => 1 + dataLength flag

theorem dataLength_le (flag : UInt8) : dataLength flag ≤ 8 := by
  revert flag
  decide +kernel

theorem flag_cases (flag : UInt8) :
    (dataLength flag = 0 ∧ flag.toNat ≤ 0xfc) ∨ flag = 0xfd ∨ flag = 0xfe ∨ flag = 0xff := by
  revert flag
  decide +kernel

variable {flag : UInt8} {payload : List UInt8} {buf : List UInt8} {n : ℕ} {width : ℕ}

theorem dataLength_ofNat (hn : n ≤ 0xfc) :
    dataLength (UInt8.ofNat n) = 0 ∧ (UInt8.ofNat n).toNat = n := by
  revert n
  decide +kernel

theorem parseCompactInt_cons (flag : UInt8) (payload : List UInt8) :
    parseCompactInt (flag :: payload) =
      if dataLength flag = 0 then .ok flag.toNat
      else if payload.length < dataLength flag then
        .error (.parseError "Insufficient bytes!")
      else .ok (readLe (payload.take (dataLength flag))) := by
  unfold parseCompactInt
  simp only [List.length_cons, readLe_append_replicate_zero]
  congr 2
  rw [Nat.add_comm 1, Nat.add_lt_add_iff_right]

theorem parseCompactInt_lt (hparse : parseCompactInt buf = .ok n) : n < 2 ^ 64 := by
  cases buf with
  | nil => cases hparse
  | cons flag payload =>
    rw [parseCompactInt_cons] at hparse
    split_ifs at hparse with hzero hshort
    · cases hparse
      have hflag := flag.toNat_lt
      omega
    · cases hparse
      have hbound := readLe_lt (payload.take (dataLength flag))
      have hpow : 256 ^ (payload.take (dataLength flag)).length ≤ 256 ^ 8 := by
        apply Nat.pow_le_pow_right (by decide)
        have hlen := dataLength_le flag
        rw [List.length_take]
        omega
      omega

theorem serializedLength_pos (n : ℕ) : 0 < serializedLength n := by
  unfold serializedLength
  split_ifs
  all_goals decide

theorem parseCompactInt_eq_readLe (payload : List UInt8)
    (hwidth : dataLength flag = width) (hpos : width ≠ 0) :
    parseCompactInt (flag :: payload) = .ok n ↔
      width ≤ payload.length ∧ n = readLe (payload.take width) := by
  subst hwidth
  rw [parseCompactInt_cons, if_neg hpos]
  split_ifs with hshort
  · constructor
    · intro hparse
      cases hparse
    · rintro ⟨hle, -⟩
      omega
  · rw [Except.ok.injEq, eq_comm]
    constructor
    · intro hn
      exact ⟨Nat.le_of_not_lt hshort, hn⟩
    · exact And.right

theorem take_eq_writeLe (hwidth : width ≤ payload.length) :
    payload.take width = writeLe width (readLe (payload.take width)) := by
  have hwrite := writeLe_readLe (payload.take width)
  rw [List.length_take_of_le hwidth] at hwrite
  exact hwrite.symm

theorem write_of_parse {width n : ℕ} (hwidth : dataLength flag = width) (hpos : width ≠ 0)
    (hparse : parseCompactInt (flag :: payload) = .ok n) :
    flag :: payload = flag :: writeLe width n ++ payload.drop width := by
  obtain ⟨hle, rfl⟩ := (parseCompactInt_eq_readLe payload hwidth hpos).mp hparse
  rw [← take_eq_writeLe hle, List.cons_append, List.take_append_drop]

theorem parse_of_write {width n : ℕ} (rest : List UInt8)
    (hwidth : dataLength flag = width) (hpos : width ≠ 0) (hn : n < 256 ^ width) :
    parseCompactInt (flag :: writeLe width n ++ rest) = .ok n := by
  rw [List.cons_append, parseCompactInt_eq_readLe _ hwidth hpos]
  have hlen := length_writeLe width n
  refine ⟨by rw [List.length_append, hlen]; omega, ?_⟩
  rw [List.take_left' hlen, readLe_writeLe hn]

theorem writeCompactInteger_cases (n : ℕ) :
    (n ≤ 0xfc ∧ serializedLength n = 1 ∧ writeCompactInteger n = [UInt8.ofNat n]) ∨
    (n < 256 ^ 2 ∧ serializedLength n = 3 ∧ writeCompactInteger n = 0xfd :: writeLe 2 n) ∨
    (n < 256 ^ 4 ∧ serializedLength n = 5 ∧ writeCompactInteger n = 0xfe :: writeLe 4 n) ∨
    (serializedLength n = 9 ∧ writeCompactInteger n = 0xff :: writeLe 8 n) := by
  unfold serializedLength writeCompactInteger
  split_ifs with hone htwo hfour
  · exact Or.inl ⟨hone, rfl, rfl⟩
  · exact Or.inr (Or.inl ⟨by omega, rfl, rfl⟩)
  · exact Or.inr (Or.inr (Or.inl ⟨by omega, rfl, rfl⟩))
  · exact Or.inr (Or.inr (Or.inr ⟨rfl, rfl⟩))

theorem writeCompactInteger_of_flag
    (hflag : dataLength flag ≠ 0) (hlen : 1 + dataLength flag = serializedLength n) :
    writeCompactInteger n = flag :: writeLe (dataLength flag) n := by
  have hthree : dataLength 0xfd = 2 ∧ dataLength 0xfe = 4 ∧ dataLength 0xff = 8 := by
    decide
  rcases flag_cases flag with ⟨hzero, -⟩ | rfl | rfl | rfl
  · exact absurd hzero hflag
  all_goals
    obtain ⟨-, hbytes, hwrite⟩ | ⟨-, hbytes, hwrite⟩ | ⟨-, hbytes, hwrite⟩ |
      ⟨hbytes, hwrite⟩ := writeCompactInteger_cases n
    all_goals first | exact hwrite | omega

theorem parse_shortest_iff : (parseCompactInt buf = .ok n ∧ takenLength buf = serializedLength n) ↔
      n < 2 ^ 64 ∧ writeCompactInteger n <+: buf := by
  constructor
  · rintro ⟨hparse, htaken⟩
    refine ⟨parseCompactInt_lt hparse, ?_⟩
    cases buf with
    | nil => cases hparse
    | cons flag payload =>
      by_cases hflag : dataLength flag = 0
      · rw [parseCompactInt_cons, if_pos hflag] at hparse
        cases hparse
        obtain ⟨hsmall, -, hwrite⟩ | ⟨-, hbytes, -⟩ | ⟨-, hbytes, -⟩ | ⟨hbytes, -⟩ :=
          writeCompactInteger_cases flag.toNat
        · rw [hwrite, UInt8.ofNat_toNat]
          exact List.prefix_append [flag] payload
        all_goals
          rw [takenLength, hflag, hbytes] at htaken
          cases htaken
      · rw [writeCompactInteger_of_flag hflag htaken, write_of_parse rfl hflag hparse]
        exact List.prefix_append _ _
  · rintro ⟨hn, rest, rfl⟩
    obtain ⟨hsmall, hlen, hwrite⟩ | ⟨hsmall, hlen, hwrite⟩ |
      ⟨hsmall, hlen, hwrite⟩ | ⟨hlen, hwrite⟩ := writeCompactInteger_cases n
    · obtain ⟨hzero, hself⟩ := dataLength_ofNat hsmall
      rw [hwrite, hlen, List.singleton_append, parseCompactInt_cons, if_pos hzero, hself]
      exact ⟨rfl, by rw [takenLength, hzero]⟩
    · rw [hwrite, hlen]
      exact ⟨parse_of_write rest rfl (by decide) hsmall, rfl⟩
    · rw [hwrite, hlen]
      exact ⟨parse_of_write rest rfl (by decide) hsmall, rfl⟩
    · rw [hwrite, hlen]
      exact ⟨parse_of_write rest rfl (by decide) hn, rfl⟩

/-! ## The offsets of the loop -/

section Offsets

variable (determine : List UInt8 → Except SPVError ℕ) (bytes : List UInt8)

def nextOffset (offset : ℕ) : Option ℕ :=
  match determine (bytes.drop offset) with
  | .error _ => none
  | .ok length => some ((offset + length) % 2 ^ 64)

/-- The offset after so many items, where all of them can be read. -/
def itemOffset (offset : ℕ) : ℕ → Option ℕ
  | 0 => some offset
  | items + 1 => (nextOffset determine bytes offset).bind fun next => itemOffset next items

variable {determine bytes}

variable (hempty : ∃ e, determine [] = .error e)

include hempty

theorem nextOffset_of_le {offset : ℕ}
    (hoffset : bytes.length ≤ offset) : nextOffset determine bytes offset = none := by
  obtain ⟨e, hempty⟩ := hempty
  unfold nextOffset
  rw [List.drop_of_length_le hoffset, hempty]

theorem validateItems_succ (items offset : ℕ) : validateItems determine bytes (items + 1) offset =
      match nextOffset determine bytes offset with
      | none => ⟨false, 1⟩
      | some next =>
        ⟨(validateItems determine bytes items next).valid,
          (validateItems determine bytes items next).rounds + 1⟩ := by
  rw [validateItems]
  split_ifs with hend
  · rw [nextOffset_of_le hempty hend]
  · unfold nextOffset
    cases determine (bytes.drop offset) with
    | error e | ok length => rfl

theorem validateItems_valid {items offset : ℕ} :
    (validateItems determine bytes items offset).valid = true ↔
      itemOffset determine bytes offset items = some bytes.length := by
  induction items generalizing offset with
  | zero => simp [validateItems, itemOffset]
  | succ items ih =>
    rw [validateItems_succ hempty, itemOffset]
    cases nextOffset determine bytes offset with
    | none => simp
    | some next => exact ih

theorem validateItems_rounds {items offset bound : ℕ} :
    (validateItems determine bytes items offset).rounds ≤ bound ↔
      items ≤ bound ∨ itemOffset determine bytes offset bound = none := by
  induction items generalizing offset bound with
  | zero => simp [validateItems]
  | succ items ih =>
    rw [validateItems_succ hempty]
    cases bound with
    | zero =>
      simp only [itemOffset, reduceCtorEq, or_false]
      cases nextOffset determine bytes offset with
      | none | some next => simp
    | succ bound =>
      rw [itemOffset]
      cases nextOffset determine bytes offset with
      | none => simp
      | some next =>
        rw [Option.bind_some, Nat.add_le_add_iff_right, Nat.add_le_add_iff_right]
        exact ih

end Offsets

/-! ## Items that are read as they are -/

section Items

variable {front back : ℕ} {short : SPVError} {bytes : List UInt8}

/-- The script length found at an offset is in its shortest form, and no sum reaches
the end of the machine's integers. -/
def ReadsExactly (front fixed : ℕ) (bytes : List UInt8) (offset : ℕ) : Prop :=
  ∀ scriptLen, parseCompactInt (bytes.drop (offset + front)) = .ok scriptLen →
    takenLength (bytes.drop (offset + front)) = serializedLength scriptLen ∧
      offset + fixed + serializedLength scriptLen + scriptLen < 2 ^ 64

theorem determineLength_nil (fixed : ℕ) : ∃ e, determineLength front fixed short [] = .error e :=
  ⟨short, if_pos (Nat.succ_pos front)⟩

theorem determineLength_eq_ok {fixed length : ℕ} {item : List UInt8} :
    determineLength front fixed short item = .ok length ↔
      ∃ scriptLen, parseCompactInt (item.drop front) = .ok scriptLen ∧
        length = (fixed + serializedLength scriptLen + scriptLen) % 2 ^ 64 := by
  unfold determineLength
  split_ifs with hshort
  · constructor
    · intro hlen
      cases hlen
    · rintro ⟨scriptLen, hparse, -⟩
      rw [List.drop_of_length_le (Nat.le_of_lt_succ hshort)] at hparse
      cases hparse
  · cases hparse : parseCompactInt (item.drop front) with
    | error e => simp
    | ok scriptLen =>
      simp only [Except.ok.injEq, exists_eq_left']
      exact eq_comm

theorem nextOffset_eq_some {fixed offset next : ℕ} :
    nextOffset (determineLength front fixed short) bytes offset = some next ↔
      ∃ scriptLen, parseCompactInt (bytes.drop (offset + front)) = .ok scriptLen ∧
        next = (offset + (fixed + serializedLength scriptLen + scriptLen)) % 2 ^ 64 := by
  unfold nextOffset
  cases hlen : determineLength front fixed short (bytes.drop offset) with
  | error e =>
    constructor
    · intro hnext
      cases hnext
    · rintro ⟨scriptLen, hparse, -⟩
      rw [← List.drop_drop] at hparse
      rw [determineLength_eq_ok.mpr ⟨scriptLen, hparse, rfl⟩] at hlen
      cases hlen
  | ok length =>
    obtain ⟨scriptLen, hparse, rfl⟩ := determineLength_eq_ok.mp hlen
    rw [List.drop_drop] at hparse
    rw [hparse]
    simp only [Option.some.injEq, Except.ok.injEq, exists_eq_left', Nat.add_mod_mod]
    exact eq_comm

theorem item_of_nextOffset {offset next : ℕ}
    (hexact : ReadsExactly front (front + back) bytes offset)
    (hnext : nextOffset (determineLength front (front + back) short) bytes offset = some next) :
    offset + 1 ≤ next ∧ (next ≤ bytes.length → ∃ item, IsItem front back item ∧
      bytes.drop offset = item ++ bytes.drop next) := by
  obtain ⟨scriptLen, hparse, hsum⟩ := nextOffset_eq_some.mp hnext
  obtain ⟨htaken, hbound⟩ := hexact scriptLen hparse
  have hpos : 0 < serializedLength scriptLen := serializedLength_pos scriptLen
  rw [Nat.mod_eq_of_lt (by omega)] at hsum
  refine ⟨by omega, ?_⟩
  intro hle
  obtain ⟨-, rest, hrest⟩ := parse_shortest_iff.mp ⟨hparse, htaken⟩
  have hlen := congrArg List.length hrest
  rw [List.length_append, length_writeCompactInteger, List.length_drop] at hlen
  have hafter : bytes.drop next = rest.drop (scriptLen + back) := by
    calc bytes.drop next
        = ((bytes.drop (offset + front)).drop (serializedLength scriptLen)).drop
            (scriptLen + back) := by
          rw [List.drop_drop, List.drop_drop]
          congr 1
          omega
      _ = rest.drop (scriptLen + back) := by
          rw [← hrest, List.drop_left' (length_writeCompactInteger scriptLen)]
  refine ⟨(bytes.drop offset).take front ++ (writeBytes (rest.take scriptLen) ++
    (rest.drop scriptLen).take back), ⟨_, _, _, rfl, ?_, ?_⟩, ?_⟩
  · rw [List.length_take, List.length_drop]
    omega
  · rw [List.length_take, List.length_drop]
    omega
  · have hscript : (rest.take scriptLen).length = scriptLen :=
      List.length_take_of_le (by omega)
    rw [writeBytes, hscript, hafter, ← List.drop_drop, List.append_assoc,
      List.append_assoc, List.append_assoc, List.take_append_drop,
      List.take_append_drop, hrest, ← List.drop_drop, List.take_append_drop]

theorem nextOffset_of_item (short : SPVError) {offset : ℕ} {item rest : List UInt8}
    (hlen : bytes.length < 2 ^ 63) (hitem : IsItem front back item)
    (hbytes : bytes.drop offset = item ++ rest) :
    nextOffset (determineLength front (front + back) short) bytes offset =
        some (offset + item.length) ∧
      ReadsExactly front (front + back) bytes offset := by
  obtain ⟨first, script, last, rfl, rfl, rfl⟩ := hitem
  have htotal := congrArg List.length hbytes
  simp only [List.length_append, List.length_drop, length_writeBytes] at htotal
  have hpos := serializedLength_pos script.length
  have hdrop : bytes.drop (offset + first.length) =
      writeCompactInteger script.length ++ (script ++ (last ++ rest)) := by
    rw [← List.drop_drop, hbytes, List.append_assoc, List.drop_left, writeBytes,
      List.append_assoc, List.append_assoc]
  obtain ⟨hparse, htaken⟩ := parse_shortest_iff.mpr
    ⟨show script.length < 2 ^ 64 by omega, _, hdrop.symm⟩
  have hsum : offset + (first.length + last.length +
      serializedLength script.length + script.length) < 2 ^ 64 := by omega
  constructor
  · refine nextOffset_eq_some.mpr ⟨script.length, hparse, ?_⟩
    rw [Nat.mod_eq_of_lt hsum]
    simp only [List.length_append, length_writeBytes]
    omega
  · intro scriptLen hscript
    rw [hparse] at hscript
    cases hscript
    exact ⟨htaken, by omega⟩

def PlainFrom (front fixed : ℕ) (short : SPVError) (bytes : List UInt8) (offset items : ℕ) : Prop :=
  ∀ k < items, ∀ reached,
    itemOffset (determineLength front fixed short) bytes offset k = some reached →
      ReadsExactly front fixed bytes reached

theorem PlainFrom.first {fixed offset items : ℕ}
    (hplain : PlainFrom front fixed short bytes offset (items + 1)) :
    ReadsExactly front fixed bytes offset :=
  hplain 0 (Nat.succ_pos items) offset rfl

variable {determine : List UInt8 → Except SPVError ℕ} {offset items : ℕ}

theorem itemOffset_of_next
    {offset next : ℕ} (hnext : nextOffset determine bytes offset = some next) (items : ℕ) :
    itemOffset determine bytes offset (items + 1) = itemOffset determine bytes next items := by
  rw [itemOffset, hnext, Option.bind_some]

theorem PlainFrom.next {fixed offset next items : ℕ}
    (hplain : PlainFrom front fixed short bytes offset (items + 1))
    (hnext : nextOffset (determineLength front fixed short) bytes offset = some next) :
    PlainFrom front fixed short bytes next items := by
  intro k hk reached hreach
  rw [← itemOffset_of_next hnext] at hreach
  exact hplain (k + 1) (Nat.succ_lt_succ hk) reached hreach

theorem le_length_of_itemOffset (hempty : ∃ e, determine [] = .error e)
    (hend : itemOffset determine bytes offset items = some bytes.length) :
    offset ≤ bytes.length := by
  cases items with
  | zero =>
    cases hend
    exact le_refl _
  | succ items =>
    by_contra hpast
    rw [itemOffset, nextOffset_of_le hempty (by omega)] at hend
    cases hend

theorem items_of_itemOffset (hplain : PlainFrom front (front + back) short bytes offset items)
    (hend : itemOffset (determineLength front (front + back) short) bytes offset items =
      some bytes.length) :
    ∃ found : List (List UInt8), found.length = items ∧
      (∀ item ∈ found, IsItem front back item) ∧ bytes.drop offset = found.flatten := by
  induction items generalizing offset with
  | zero =>
    cases hend
    refine ⟨[], rfl, ?_, by rw [List.drop_length, List.flatten_nil]⟩
    intro item hitem
    cases hitem
  | succ items ih =>
    cases hnext : nextOffset (determineLength front (front + back) short) bytes offset with
    | none =>
      rw [itemOffset, hnext] at hend
      cases hend
    | some next =>
      rw [itemOffset_of_next hnext] at hend
      obtain ⟨found, hcount, hitems, hrest⟩ := ih (hplain.next hnext) hend
      obtain ⟨-, hitem⟩ := item_of_nextOffset hplain.first hnext
      obtain ⟨item, hform, hbytes⟩ := hitem (le_length_of_itemOffset (determineLength_nil _) hend)
      refine ⟨item :: found, by rw [List.length_cons, hcount], ?_, ?_⟩
      · intro other hother
        rcases List.mem_cons.mp hother with rfl | hfound
        · exact hform
        · exact hitems other hfound
      · rw [hbytes, hrest, List.flatten_cons]

theorem itemOffset_of_items (short : SPVError) {offset : ℕ} {found : List (List UInt8)}
    (hlen : bytes.length < 2 ^ 63) (hoffset : offset ≤ bytes.length)
    (hitems : ∀ item ∈ found, IsItem front back item) (hbytes : bytes.drop offset = found.flatten) :
    itemOffset (determineLength front (front + back) short) bytes offset found.length =
        some bytes.length ∧
      PlainFrom front (front + back) short bytes offset found.length := by
  induction found generalizing offset with
  | nil =>
    have hend := congrArg List.length hbytes
    rw [List.length_drop, List.flatten_nil, List.length_nil] at hend
    constructor
    · rw [List.length_nil, itemOffset]
      congr 1
      omega
    · intro k hk
      cases hk
  | cons item found ih =>
    rw [List.flatten_cons] at hbytes
    obtain ⟨hnext, hexact⟩ := nextOffset_of_item short hlen (hitems item List.mem_cons_self) hbytes
    have htotal := congrArg List.length hbytes
    rw [List.length_drop, List.length_append] at htotal
    have hrest : bytes.drop (offset + item.length) = found.flatten := by
      rw [← List.drop_drop, hbytes, List.drop_left]
    obtain ⟨hend, hplain⟩ := ih (by omega)
      (fun other hother => hitems other (List.mem_cons_of_mem item hother)) hrest
    constructor
    · rw [List.length_cons, itemOffset_of_next hnext, hend]
    · intro k hk reached hreach
      cases k with
      | zero =>
        cases hreach
        exact hexact
      | succ k =>
        rw [itemOffset_of_next hnext] at hreach
        exact hplain k (Nat.lt_of_succ_lt_succ hk) reached hreach

theorem itemOffset_eq_none {offset items k : ℕ}
    (hplain : PlainFrom front (front + back) short bytes offset items)
    (hpos : 0 < k) (hk : k ≤ items) (hbytes : bytes.length < offset + k) :
    itemOffset (determineLength front (front + back) short) bytes offset k = none := by
  induction k generalizing offset items with
  | zero => exact absurd hpos (lt_irrefl 0)
  | succ k ih =>
    obtain ⟨items, rfl⟩ := Nat.exists_eq_add_of_le' (show 1 ≤ items by omega)
    cases hnext : nextOffset (determineLength front (front + back) short) bytes offset with
    | none => rw [itemOffset, hnext, Option.bind_none]
    | some next =>
      have hlt : offset < bytes.length := by
        by_contra hpast
        rw [nextOffset_of_le (determineLength_nil _) (by omega)] at hnext
        cases hnext
      obtain ⟨hstep, -⟩ := item_of_nextOffset hplain.first hnext
      rw [itemOffset_of_next hnext]
      exact ih (hplain.next hnext) (by omega) (by omega) (by omega)

end Items

/-! ## Vectors -/

section Vectors

variable {front back : ℕ} {short : SPVError}

/-- The verdict is that of the format, after no more rounds than there are bytes. -/
def JudgedExactly (verdict : Verdict) (IsItem : List UInt8 → Prop) (bytes : List UInt8) : Prop :=
  (verdict.valid = true ↔ IsVector IsItem bytes) ∧ verdict.rounds ≤ bytes.length

/-- The count and every length that the loop reads are in their shortest form, and no
offset wraps around. -/
def PlainVector (front fixed : ℕ) (short : SPVError) (bytes : List UInt8) : Prop :=
  ∀ count, parseCompactInt bytes = .ok count → takenLength bytes = serializedLength count ∧
      PlainFrom front fixed short bytes (serializedLength count) count

/-- The offsets miss the end: the declared items do not lead to it, or one of the
first items, as many as there are bytes, cannot be read. -/
def MissesEnd (determine : List UInt8 → Except SPVError ℕ) (bytes : List UInt8) : Prop :=
  ∀ count, parseCompactInt bytes = .ok count → count = 0 ∨
    (count ≤ bytes.length ∧
      itemOffset determine bytes (serializedLength count) count ≠ some bytes.length) ∨
    (bytes.length < count ∧ itemOffset determine bytes (serializedLength count) bytes.length = none)

variable {bytes : List UInt8} {determine : List UInt8 → Except SPVError ℕ}

theorem itemOffset_none_mono
    {offset k items : ℕ} (hle : k ≤ items) (hnone : itemOffset determine bytes offset k = none) :
    itemOffset determine bytes offset items = none := by
  induction k generalizing offset items with
  | zero => cases hnone
  | succ k ih =>
    obtain ⟨items, rfl⟩ := Nat.exists_eq_add_of_le' (show 1 ≤ items by omega)
    cases hnext : nextOffset determine bytes offset with
    | none => rw [itemOffset, hnext, Option.bind_none]
    | some next =>
      rw [itemOffset_of_next hnext] at hnone ⊢
      exact ih (by omega) hnone

theorem missesEnd_iff (hempty : ∃ e, determine [] = .error e) (bytes : List UInt8) :
    MissesEnd determine bytes ↔ (validateVector determine bytes).valid = false ∧
        (validateVector determine bytes).rounds ≤ bytes.length := by
  unfold MissesEnd validateVector
  cases hparse : parseCompactInt bytes with
  | error e => simp
  | ok count =>
    simp only [Except.ok.injEq, forall_eq']
    split_ifs with hzero
    · simp [hzero]
    · rw [← Bool.not_eq_true, validateItems_valid hempty, validateItems_rounds hempty]
      constructor
      · rintro (hcount | ⟨hle, hend⟩ | ⟨hlt, hnone⟩)
        · exact absurd hcount hzero
        · exact ⟨hend, Or.inl hle⟩
        · refine ⟨?_, Or.inr hnone⟩
          rw [itemOffset_none_mono hlt.le hnone]
          intro hend
          cases hend
      · rintro ⟨hend, hrounds⟩
        rcases Nat.lt_or_ge bytes.length count with hlt | hle
        · rcases hrounds with hcount | hnone
          · omega
          · exact Or.inr (Or.inr ⟨hlt, hnone⟩)
        · exact Or.inr (Or.inl ⟨hle, hend⟩)

theorem IsItem.length_pos {item : List UInt8} (hitem : IsItem front back item) :
    1 ≤ item.length := by
  obtain ⟨first, script, last, rfl, -, -⟩ := hitem
  have hpos := serializedLength_pos script.length
  simp only [List.length_append, length_writeBytes]
  omega

theorem length_le_flatten {items : List (List UInt8)}
    (hitems : ∀ item ∈ items, IsItem front back item) : items.length ≤ items.flatten.length := by
  have hsum : (items.map List.length).length ≤ (items.map List.length).sum := by
    apply List.length_le_sum_of_one_le
    intro length hlen
    obtain ⟨item, hitem, rfl⟩ := List.mem_map.mp hlen
    exact (hitems item hitem).length_pos
  rw [List.length_map] at hsum
  rw [List.length_flatten]
  exact hsum

theorem IsVector.accepted (short : SPVError)
    (hlen : bytes.length < 2 ^ 63) (hvector : IsVector (IsItem front back) bytes) :
    (validateVector (determineLength front (front + back) short) bytes).valid = true ∧
      PlainVector front (front + back) short bytes := by
  obtain ⟨items, hpos, hitems, hbytes⟩ := hvector
  have hcount := length_le_flatten hitems
  have htotal := congrArg List.length hbytes
  rw [List.length_append, length_writeCompactInteger] at htotal
  have hrest : bytes.drop (serializedLength items.length) = items.flatten := by
    rw [hbytes, List.drop_left' (length_writeCompactInteger items.length)]
  obtain ⟨hparse, htaken⟩ := parse_shortest_iff.mpr
    ⟨show items.length < 2 ^ 64 by omega, _, hbytes.symm⟩
  obtain ⟨hend, hplain⟩ := itemOffset_of_items short hlen (by omega) hitems hrest
  constructor
  · unfold validateVector
    simp only [hparse, hpos.ne', if_false]
    rw [validateItems_valid (determineLength_nil _)]
    exact hend
  · intro count hagain
    rw [hparse] at hagain
    cases hagain
    exact ⟨htaken, hplain⟩

theorem PlainVector.isVector (hplain : PlainVector front (front + back) short bytes)
    (hvalid : (validateVector (determineLength front (front + back) short) bytes).valid = true) :
    IsVector (IsItem front back) bytes := by
  unfold validateVector at hvalid
  cases hparse : parseCompactInt bytes with
  | error e =>
    rw [hparse] at hvalid
    cases hvalid
  | ok count =>
    obtain ⟨htaken, hitems⟩ := hplain count hparse
    simp only [hparse] at hvalid
    split_ifs at hvalid with hzero
    rw [validateItems_valid (determineLength_nil _)] at hvalid
    obtain ⟨items, rfl, hform, hrest⟩ := items_of_itemOffset hitems hvalid
    obtain ⟨-, rest, hbytes⟩ := parse_shortest_iff.mp ⟨hparse, htaken⟩
    have hdrop : bytes.drop (serializedLength items.length) = rest := by
      rw [← hbytes, List.drop_left' (length_writeCompactInteger items.length)]
    refine ⟨items, Nat.pos_of_ne_zero hzero, hform, ?_⟩
    rw [← hrest, hdrop, hbytes]

theorem PlainVector.rounds_le (hplain : PlainVector front (front + back) short bytes) :
    (validateVector (determineLength front (front + back) short) bytes).rounds ≤ bytes.length := by
  unfold validateVector
  cases hparse : parseCompactInt bytes with
  | error e => exact Nat.zero_le _
  | ok count =>
    obtain ⟨-, hitems⟩ := hplain count hparse
    have hstart := serializedLength_pos count
    have hbytes : 0 < bytes.length := by
      cases bytes with
      | nil => cases hparse
      | cons flag payload => exact Nat.succ_pos _
    dsimp only
    split_ifs with hzero
    · exact Nat.zero_le _
    · rw [validateItems_rounds (determineLength_nil _)]
      rcases Nat.lt_or_ge bytes.length count with hlt | hle
      · exact Or.inr (itemOffset_eq_none hitems hbytes hlt.le (by omega))
      · exact Or.inl hle

/-- A string that the walk rejects is no vector. -/
theorem MissesEnd.not_isVector (hlen : bytes.length < 2 ^ 63)
    (hmissed : MissesEnd (determineLength front (front + back) short) bytes) :
    ¬IsVector (IsItem front back) bytes := by
  intro hvector
  obtain ⟨hinvalid, -⟩ := (missesEnd_iff (determineLength_nil _) bytes).mp hmissed
  rw [(hvector.accepted short hlen).1] at hinvalid
  cases hinvalid

theorem judgedExactly_iff (front back : ℕ) (short : SPVError) (hlen : bytes.length < 2 ^ 63) :
    JudgedExactly (validateVector (determineLength front (front + back) short) bytes)
        (IsItem front back) bytes ↔
      PlainVector front (front + back) short bytes ∨
        MissesEnd (determineLength front (front + back) short) bytes := by
  have hempty : ∃ e, determineLength front (front + back) short [] = .error e :=
    determineLength_nil _
  have hwalk := missesEnd_iff hempty bytes
  constructor
  · rintro ⟨hverdict, hrounds⟩
    cases hvalid : (validateVector (determineLength front (front + back) short) bytes).valid with
    | false => exact Or.inr (hwalk.mpr ⟨hvalid, hrounds⟩)
    | true =>
      exact Or.inl (IsVector.accepted short hlen (hverdict.mp hvalid)).2
  · rintro (hplain | hmissed)
    · exact ⟨⟨hplain.isVector, fun hvector => (hvector.accepted short hlen).1⟩, hplain.rounds_le⟩
    · obtain ⟨hinvalid, hrounds⟩ := hwalk.mp hmissed
      refine ⟨iff_of_false ?_ (hmissed.not_isVector hlen), hrounds⟩
      rw [hinvalid]
      exact Bool.false_ne_true

end Vectors

/-- Both vectors are judged by their format, in no more rounds than there are bytes,
exactly where every number that the loop reads is in its shortest form and keeps the
offset from wrapping around, or where the offsets miss the end in time. -/
theorem vectors_judged_iff (bytes : ByteSlice) :
    (JudgedExactly (validateVin bytes.val) IsInput bytes.val ↔
      PlainVector 36 40 .readOverrun bytes.val ∨
        MissesEnd determineInputLength bytes.val) ∧
    (JudgedExactly (validateVout bytes.val) IsOutput bytes.val ↔
      PlainVector 8 8 .malformattedOutput bytes.val ∨
        MissesEnd determineOutputLength bytes.val) :=
  ⟨judgedExactly_iff 36 4 .readOverrun bytes.property,
    judgedExactly_iff 8 0 .malformattedOutput bytes.property⟩

/-- One input whose script length is not in its shortest form, two bytes short. -/
def paddedVin : List UInt8 :=
  1 :: List.replicate 36 0 ++ [0xfd, 0, 0] ++ [0, 0]

theorem paddedVin_not_vector : ¬IsVector IsInput paddedVin := by
  intro hvector
  have hlen : paddedVin.length < 2 ^ 63 := by decide
  obtain ⟨-, hplain⟩ := IsVector.accepted .readOverrun hlen hvector
  obtain ⟨-, hitems⟩ := hplain 1 rfl
  obtain ⟨htaken, -⟩ := hitems 0 Nat.one_pos 1 rfl 0 rfl
  exact absurd htaken (by decide)

/-- As many inputs as there can be, of which the first declares a length that wraps
around to zero. -/
def spinningVin : List UInt8 :=
  0xff :: List.replicate 8 0xff ++ List.replicate 36 0 ++ 0xff :: writeLe 8 (2 ^ 64 - 49)

theorem itemOffset_spinningVin (items : ℕ) :
    itemOffset determineInputLength spinningVin 9 items = some 9 := by
  induction items with
  | zero => rfl
  | succ items ih =>
    have hnext : nextOffset determineInputLength spinningVin 9 = some 9 := by
      decide +kernel
    rw [itemOffset_of_next hnext, ih]

theorem spinningVin_rounds : (validateVin spinningVin).rounds = 2 ^ 64 - 1 := by
  have hempty : ∃ e, determineInputLength [] = .error e := determineLength_nil 40
  have hparse : parseCompactInt spinningVin = .ok (2 ^ 64 - 1) := rfl
  have hrounds : ∀ bound, (validateVin spinningVin).rounds ≤ bound ↔ 2 ^ 64 - 1 ≤ bound := by
    intro bound
    have hstart : serializedLength (2 ^ 64 - 1) = 9 := by decide
    unfold validateVin validateVector
    simp only [hparse]
    rw [if_neg (by decide), validateItems_rounds hempty, hstart,
      itemOffset_spinningVin]
    simp
  exact le_antisymm ((hrounds _).mpr (le_refl _)) ((hrounds _).mp (le_refl _))

/-- A vector that is not in the format is accepted, and another one keeps the loop
going for all of the 64-bit counts. -/
theorem vin_misjudged :
    (validateVin paddedVin).valid = true ∧ ¬IsVector IsInput paddedVin ∧
      spinningVin.length = 54 ∧
      (validateVin spinningVin).rounds = 18446744073709551615 :=
  ⟨by decide +kernel, paddedVin_not_vector, rfl, spinningVin_rounds⟩

end KdfProtocol.SpvVectors
