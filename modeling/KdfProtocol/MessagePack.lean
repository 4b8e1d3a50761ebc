import Mathlib.Data.FinEnum
import Mathlib.Data.List.Infix
import Mathlib.Tactic

/-!
# MessagePack

The grammar of MessagePack values over bytes.  A value is a scalar, or an array or a
map of values; its nesting is the number of arrays and maps that stand inside one
another.  The first byte of a value determines what follows it: data of a known
length, a length field and data, a known number of values, or a count field and
values.
-/

namespace KdfProtocol.MessagePack

def readBigEndian (bytes : List UInt8) : ℕ :=
  bytes.foldl (fun acc byte => acc * 256 + byte.toNat) 0

theorem readBigEndian_append_singleton (bytes : List UInt8) (byte : UInt8) :
    readBigEndian (bytes ++ [byte]) = readBigEndian bytes * 256 + byte.toNat := by
  unfold readBigEndian
  rw [List.foldl_append, List.foldl_cons, List.foldl_nil]

theorem readBigEndian_lt (bytes : List UInt8) : readBigEndian bytes < 256 ^ bytes.length := by
  induction bytes using List.reverseRecOn with
  | nil => exact Nat.one_pos
  | append_singleton bytes byte ih =>
    have hbyte := byte.toNat_lt
    rw [readBigEndian_append_singleton, List.length_append, List.length_singleton, pow_succ]
    omega

/-! ## The markers -/

def numberWidth : UInt8 → Option ℕ
  | 0xca => some 4
  | 0xcb => some 8
  | 0xcc => some 1
  | 0xcd => some 2
  | 0xce => some 4
  | 0xcf => some 8
  | 0xd0 => some 1
  | 0xd1 => some 2
  | 0xd2 => some 4
  | 0xd3 => some 8
  | _ => none

def byteStringWidth : UInt8 → Option ℕ
  | 0xc4 => some 1
  | 0xc5 => some 2
  | 0xc6 => some 4
  | 0xd9 => some 1
  | 0xda => some 2
  | 0xdb => some 4
  | _ => none

def extWidth : UInt8 → Option ℕ
  | 0xc7 => some 1
  | 0xc8 => some 2
  | 0xc9 => some 4
  | _ => none

def fixextLength : UInt8 → Option ℕ
  | 0xd4 => some 1
  | 0xd5 => some 2
  | 0xd6 => some 4
  | 0xd7 => some 8
  | 0xd8 => some 16
  | _ => none

def arrayWidth : UInt8 → Option ℕ
  | 0xdc => some 2
  | 0xdd => some 4
  | _ => none

def mapWidth : UInt8 → Option ℕ
  | 0xde => some 2
  | 0xdf => some 4
  | _ => none

/-! ## The grammar -/

mutual

inductive Value : ℕ → List UInt8 → Prop
  | nil : Value 0 [0xc0]
  | false : Value 0 [0xc2]
  | true : Value 0 [0xc3]
  | positiveFixint {n : UInt8} : n ≤ 0x7f → Value 0 [n]
  | negativeFixint {n : UInt8} : 0xe0 ≤ n → Value 0 [n]
  | number {marker : UInt8} {data : List UInt8} :
      numberWidth marker = some data.length → Value 0 (marker :: data)
  | fixstr {data : List UInt8} :
      data.length < 32 → Value 0 (UInt8.ofNat (0xa0 + data.length) :: data)
  | byteString {marker : UInt8} {field data : List UInt8} :
      byteStringWidth marker = some field.length →
      data.length = readBigEndian field → Value 0 (marker :: (field ++ data))
  | fixext {marker type : UInt8} {data : List UInt8} :
      fixextLength marker = some data.length → Value 0 (marker :: type :: data)
  | ext {marker type : UInt8} {field data : List UInt8} : extWidth marker = some field.length →
      data.length = readBigEndian field →
      Value 0 (marker :: (field ++ type :: data))
  | fixarray {n depth : ℕ} {body : List UInt8} : n < 16 → Values n depth body →
      Value (depth + 1) (UInt8.ofNat (0x90 + n) :: body)
  | array {marker : UInt8} {field body : List UInt8} {depth : ℕ} :
      arrayWidth marker = some field.length →
      Values (readBigEndian field) depth body →
      Value (depth + 1) (marker :: (field ++ body))
  | fixmap {n depth : ℕ} {body : List UInt8} : n < 16 → Values (n * 2) depth body →
      Value (depth + 1) (UInt8.ofNat (0x80 + n) :: body)
  | map {marker : UInt8} {field body : List UInt8} {depth : ℕ} :
      mapWidth marker = some field.length →
      Values (readBigEndian field * 2) depth body →
      Value (depth + 1) (marker :: (field ++ body))

inductive Values : ℕ → ℕ → List UInt8 → Prop
  | none : Values 0 0 []
  | next {n depth rest : ℕ} {value values : List UInt8} :
      Value depth value → Values n rest values → Values (n + 1) (max depth rest) (value ++ values)

end

def Fits (limit : ℕ) (bytes : List UInt8) : Prop :=
  ∃ depth, Value depth bytes ∧ depth ≤ limit

def AllFit (limit n : ℕ) (bytes : List UInt8) : Prop :=
  ∃ depth, Values n depth bytes ∧ depth ≤ limit

variable {limit n width : ℕ} {bytes body tail : List UInt8} {marker : UInt8}

theorem allFit_zero : AllFit limit 0 bytes ↔ bytes = [] := by
  constructor
  · rintro ⟨depth, hvals, -⟩
    cases hvals
    rfl
  · rintro rfl
    exact ⟨0, .none, Nat.zero_le limit⟩

theorem allFit_succ : AllFit limit (n + 1) bytes ↔
      ∃ value values, bytes = value ++ values ∧ Fits limit value ∧ AllFit limit n values := by
  constructor
  · rintro ⟨depth, hvals, hdepth⟩
    cases hvals with
    | next hvalue hrest =>
      rw [max_le_iff] at hdepth
      exact ⟨_, _, rfl, ⟨_, hvalue, hdepth.1⟩, ⟨_, hrest, hdepth.2⟩⟩
  · rintro ⟨value, values, rfl, ⟨depth, hvalue, hdepth⟩, ⟨rest, hrest, hle⟩⟩
    exact ⟨_, .next hvalue hrest, max_le hdepth hle⟩

/-! ## What the first byte determines -/

inductive Form where
  | data (length : ℕ)
  | sized (width extra : ℕ)
  | items (count : ℕ)
  | counted (width perEntry : ℕ)
  deriving DecidableEq

/-- The reserved marker has no form. -/
def form (marker : UInt8) : Option Form :=
  if marker ≤ 0x7f then some (.data 0)
  else if marker ≤ 0x8f then some (.items ((marker.toNat - 0x80) * 2))
  else if marker ≤ 0x9f then some (.items (marker.toNat - 0x90))
  else if marker ≤ 0xbf then some (.data (marker.toNat - 0xa0))
  else if marker = 0xc0 then some (.data 0)
  else if marker = 0xc1 then none
  else if marker ≤ 0xc3 then some (.data 0)
  else if 0xe0 ≤ marker then some (.data 0)
  else
    ((numberWidth marker).map .data).or <|
    ((byteStringWidth marker).map (.sized · 0)).or <|
    ((extWidth marker).map (.sized · 1)).or <|
    ((fixextLength marker).map fun length => .data (length + 1)).or <|
    ((arrayWidth marker).map (.counted · 1)).or <|
    (mapWidth marker).map (.counted · 2)

inductive Body where
  | data (length : ℕ)
  | values (count : ℕ)

def Body.Holds (limit : ℕ) (bytes : List UInt8) : Body → Prop
  | .data length => bytes.length = length
  | .values count => 0 < limit ∧ AllFit (limit - 1) count bytes

def Form.fieldWidth : Form → ℕ
  | .data _ => 0
  | .sized width _ => width
  | .items _ => 0
  | .counted width _ => width

def Form.bodyAfter (field : List UInt8) : Form → Body
  | .data length => .data length
  | .sized _ extra => .data (readBigEndian field + extra)
  | .items count => .values count
  | .counted _ perEntry => .values (readBigEndian field * perEntry)

/-- The bytes after a marker of a form, for a value within the limit. -/
def Form.Follows (limit : ℕ) (tail : List UInt8) (shape : Form) : Prop :=
  ∃ field rest, tail = field ++ rest ∧ field.length = shape.fieldWidth ∧
    (shape.bodyAfter field).Holds limit rest

theorem form_eq_none_iff (marker : UInt8) : form marker = none ↔ marker = 0xc1 := by
  revert marker
  decide +kernel

def Form.Small : Form → Prop
  | .sized width extra => width ≤ 4 ∧ extra ≤ 1
  | .counted width perEntry => width ≤ 4 ∧ perEntry ≤ 2
  | _ => True

instance (shape : Form) : Decidable shape.Small :=
  match shape with
  | .data _ => isTrue trivial
  | .sized _ _ => inferInstanceAs (Decidable (_ ∧ _))
  | .items _ => isTrue trivial
  | .counted _ _ => inferInstanceAs (Decidable (_ ∧ _))

theorem small_of_form {shape : Form} (hform : form marker = some shape) : shape.Small := by
  have hall : ∀ marker, ∀ shape ∈ form marker, shape.Small := by decide +kernel
  exact hall marker shape hform

theorem AllFit.of_values {depth : ℕ} (hvals : Values n depth body) (hdepth : depth + 1 ≤ limit) :
    0 < limit ∧ AllFit (limit - 1) n body :=
  ⟨by omega, depth, hvals, by omega⟩

theorem Value.follows {depth : ℕ} (hvalue : Value depth bytes) (hdepth : depth ≤ limit) :
    ∃ marker tail shape, bytes = marker :: tail ∧ form marker = some shape ∧
      shape.Follows limit tail := by
  have hfixstr : ∀ n < 32, form (UInt8.ofNat (0xa0 + n)) = some (.data n) := by
    decide +kernel
  have hfixarray : ∀ n < 16, form (UInt8.ofNat (0x90 + n)) = some (.items n) := by
    decide +kernel
  have hfixmap : ∀ n < 16,
      form (UInt8.ofNat (0x80 + n)) = some (.items (n * 2)) := by decide +kernel
  have hpos : ∀ n : UInt8, n ≤ 0x7f → form n = some (.data 0) := by
    decide +kernel
  have hnegative : ∀ n : UInt8, 0xe0 ≤ n → form n = some (.data 0) := by
    decide +kernel
  have hnumber : ∀ marker, ∀ width ∈ numberWidth marker,
      form marker = some (.data width) := by decide +kernel
  have hbyteString : ∀ marker, ∀ width ∈ byteStringWidth marker,
      form marker = some (.sized width 0) := by decide +kernel
  have hext : ∀ marker, ∀ width ∈ extWidth marker,
      form marker = some (.sized width 1) := by decide +kernel
  have hfixext : ∀ marker, ∀ length ∈ fixextLength marker,
      form marker = some (.data (length + 1)) := by decide +kernel
  have harray : ∀ marker, ∀ width ∈ arrayWidth marker,
      form marker = some (.counted width 1) := by decide +kernel
  have hmap : ∀ marker, ∀ width ∈ mapWidth marker,
      form marker = some (.counted width 2) := by decide +kernel
  have hbare : ∀ {tail : List UInt8} {shape : Form}, shape.fieldWidth = 0 →
      (shape.bodyAfter []).Holds limit tail → shape.Follows limit tail :=
    fun hwidth hholds => ⟨[], _, rfl, hwidth.symm, hholds⟩
  cases hvalue with
  | nil | false | true => exact ⟨_, _, .data 0, rfl, by decide, hbare rfl rfl⟩
  | positiveFixint hle => exact ⟨_, _, _, rfl, hpos _ hle, hbare rfl rfl⟩
  | negativeFixint hle => exact ⟨_, _, _, rfl, hnegative _ hle, hbare rfl rfl⟩
  | number hwidth => exact ⟨_, _, _, rfl, hnumber _ _ hwidth, hbare rfl rfl⟩
  | fixstr hlen => exact ⟨_, _, _, rfl, hfixstr _ hlen, hbare rfl rfl⟩
  | byteString hwidth hlen =>
    exact ⟨_, _, _, rfl, hbyteString _ _ hwidth, _, _, rfl, rfl, hlen⟩
  | fixext hlen =>
    exact ⟨_, _, _, rfl, hfixext _ _ hlen, hbare rfl List.length_cons⟩
  | ext hwidth hlen =>
    refine ⟨_, _, _, rfl, hext _ _ hwidth, _, _, rfl, rfl, ?_⟩
    exact List.length_cons.trans (congrArg (· + 1) hlen)
  | fixarray hn hvals =>
    exact ⟨_, _, _, rfl, hfixarray _ hn, hbare rfl (AllFit.of_values hvals hdepth)⟩
  | array hwidth hvals =>
    rw [← Nat.mul_one (readBigEndian _)] at hvals
    exact ⟨_, _, _, rfl, harray _ _ hwidth, _, _, rfl, rfl, AllFit.of_values hvals hdepth⟩
  | fixmap hn hvals =>
    exact ⟨_, _, _, rfl, hfixmap _ hn, hbare rfl (AllFit.of_values hvals hdepth)⟩
  | map hwidth hvals =>
    exact ⟨_, _, _, rfl, hmap _ _ hwidth, _, _, rfl, rfl, AllFit.of_values hvals hdepth⟩

def Form.Listed (marker : UInt8) : Form → Prop
  | .data length =>
    (length = 0 ∧ (marker ≤ 0x7f ∨ 0xe0 ≤ marker ∨ marker = 0xc0 ∨ marker = 0xc2 ∨ marker = 0xc3)) ∨
    (length < 32 ∧ marker = UInt8.ofNat (0xa0 + length)) ∨
    numberWidth marker = some length ∨
    (0 < length ∧ fixextLength marker = some (length - 1))
  | .sized width extra =>
    (extra = 0 ∧ byteStringWidth marker = some width) ∨
    (extra = 1 ∧ extWidth marker = some width)
  | .items count =>
    (count < 16 ∧ marker = UInt8.ofNat (0x90 + count)) ∨
    (count / 2 < 16 ∧ count = count / 2 * 2 ∧ marker = UInt8.ofNat (0x80 + count / 2))
  | .counted width perEntry =>
    (perEntry = 1 ∧ arrayWidth marker = some width) ∨
    (perEntry = 2 ∧ mapWidth marker = some width)

instance (marker : UInt8) (shape : Form) : Decidable (shape.Listed marker) :=
  match shape with
  | .data _ | .sized .. | .items _ | .counted .. => inferInstanceAs (Decidable (_ ∨ _))

theorem listed_of_form {shape : Form} (hform : form marker = some shape) : shape.Listed marker := by
  have hall : ∀ marker, ∀ shape ∈ form marker, shape.Listed marker := by
    decide +kernel
  exact hall marker shape hform

theorem Fits.of_allFit (hfit : 0 < limit ∧ AllFit (limit - 1) n body)
    (hvalue : ∀ depth, Values n depth body → Value (depth + 1) bytes) : Fits limit bytes := by
  obtain ⟨hpos, depth, hvals, hdepth⟩ := hfit
  exact ⟨depth + 1, hvalue depth hvals, by omega⟩

theorem Fits.of_value (hvalue : Value 0 bytes) : Fits limit bytes :=
  ⟨0, hvalue, Nat.zero_le limit⟩

theorem fits_data (hlist : (Form.data tail.length).Listed marker) :
    Fits limit (marker :: tail) := by
  obtain ⟨hzero, hmarker⟩ | ⟨hlen, rfl⟩ | hwidth | ⟨hpos, hlen⟩ := hlist
  · obtain rfl := List.eq_nil_of_length_eq_zero hzero
    obtain hle | hle | rfl | rfl | rfl := hmarker
    · exact .of_value (.positiveFixint hle)
    · exact .of_value (.negativeFixint hle)
    · exact .of_value .nil
    · exact .of_value .false
    · exact .of_value .true
  · exact .of_value (.fixstr hlen)
  · exact .of_value (.number hwidth)
  · obtain ⟨type, data, rfl⟩ := List.exists_cons_of_length_pos hpos
    exact .of_value (.fixext hlen)

theorem fits_sized {extra : ℕ} {field data : List UInt8}
    (hlist : (Form.sized field.length extra).Listed marker)
    (hlen : data.length = readBigEndian field + extra) :
    Fits limit (marker :: (field ++ data)) := by
  obtain ⟨rfl, hwidth⟩ | ⟨rfl, hwidth⟩ := hlist
  · exact .of_value (.byteString hwidth hlen)
  · have hpos : 0 < data.length := by omega
    obtain ⟨type, data, rfl⟩ := List.exists_cons_of_length_pos hpos
    exact .of_value (.ext hwidth (Nat.succ.inj hlen))

theorem fits_items {count : ℕ} (hlist : (Form.items count).Listed marker)
    (hfit : 0 < limit ∧ AllFit (limit - 1) count tail) : Fits limit (marker :: tail) := by
  obtain ⟨hcount, rfl⟩ | ⟨hcount, heven, rfl⟩ := hlist
  · exact .of_allFit hfit fun _ hvals => .fixarray hcount hvals
  · rw [heven] at hfit
    exact .of_allFit hfit fun _ hvals => .fixmap hcount hvals

theorem fits_counted {perEntry : ℕ} {field : List UInt8}
    (hlist : (Form.counted field.length perEntry).Listed marker)
    (hfit : 0 < limit ∧ AllFit (limit - 1) (readBigEndian field * perEntry) body) :
    Fits limit (marker :: (field ++ body)) := by
  obtain ⟨rfl, hwidth⟩ | ⟨rfl, hwidth⟩ := hlist
  · rw [Nat.mul_one] at hfit
    exact .of_allFit hfit fun _ hvals => .array hwidth hvals
  · exact .of_allFit hfit fun _ hvals => .map hwidth hvals

theorem fits_iff : Fits limit bytes ↔
      ∃ marker tail shape, bytes = marker :: tail ∧ form marker = some shape ∧
        shape.Follows limit tail := by
  constructor
  · rintro ⟨depth, hvalue, hdepth⟩
    exact hvalue.follows hdepth
  · rintro ⟨marker, tail, shape, rfl, hform, hfollows⟩
    have hlist := listed_of_form hform
    obtain ⟨field, rest, rfl, hwidth, hholds⟩ := hfollows
    cases shape with
    | data length =>
      obtain rfl := List.eq_nil_of_length_eq_zero hwidth
      cases hholds
      exact fits_data hlist
    | sized width extra =>
      cases hwidth
      exact fits_sized hlist hholds
    | items count =>
      obtain rfl := List.eq_nil_of_length_eq_zero hwidth
      exact fits_items hlist hholds
    | counted width perEntry =>
      cases hwidth
      exact fits_counted hlist hholds

theorem fits_cons_iff :
    Fits limit (marker :: tail) ↔ ∃ shape, form marker = some shape ∧ shape.Follows limit tail := by
  rw [fits_iff]
  constructor
  · rintro ⟨_, _, shape, heq, hform, hfollows⟩
    cases heq
    exact ⟨shape, hform, hfollows⟩
  · rintro ⟨shape, hform, hfollows⟩
    exact ⟨marker, tail, shape, rfl, hform, hfollows⟩

theorem Fits.ne_nil (hfits : Fits limit bytes) : bytes ≠ [] := by
  obtain ⟨marker, tail, -, rfl, -⟩ := fits_iff.mp hfits
  exact List.cons_ne_nil marker tail

theorem AllFit.le_length (hfit : AllFit limit n bytes) : n ≤ bytes.length := by
  induction n generalizing bytes with
  | zero => exact Nat.zero_le _
  | succ n ih =>
    obtain ⟨value, values, rfl, hvalue, hvals⟩ := allFit_succ.mp hfit
    have hvaluePos := List.length_pos_of_ne_nil hvalue.ne_nil
    have hrest := ih hvals
    rw [List.length_append]
    omega

end KdfProtocol.MessagePack
