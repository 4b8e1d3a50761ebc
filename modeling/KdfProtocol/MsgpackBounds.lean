import KdfProtocol.MakerOrderUpdate
import KdfProtocol.MessagePack
import KdfProtocol.WireCodec

/-!
# Bounds of a peer's MessagePack value

The walk over the first value of a byte slice.  It keeps the number of values that
each open array or map still expects in an array of fixed size, so it needs no
recursion.  Each result carries the positions that were read on the way to it.
-/

namespace KdfProtocol.MsgpackBounds

open MessagePack

def MAX_PEER_NESTING : ℕ := 64

inductive MsgpackBoundsError where
  | tooDeep
  | truncated
  | reserved
  deriving DecidableEq

/-! ## Results with the positions read -/

structure Traced (α : Type) where
  visits : List ℕ
  result : Fallible MsgpackBoundsError α

namespace Traced

variable {α β : Type}

def of (result : Fallible MsgpackBoundsError α) : Traced α := ⟨[], result⟩

def fail (e : MsgpackBoundsError) : Traced α := of (refuse e)

def bind (x : Traced α) (f : α → Traced β) : Traced β :=
  match x.result with
  | .ok a => ⟨x.visits ++ (f a).visits, (f a).result⟩
  | .error e => ⟨x.visits, .error e⟩

instance : Monad Traced where
  pure a := of (.ok a)
  bind := bind

theorem bind_of_ok {x : Traced α} {a : α} (f : α → Traced β) (hres : x.result = .ok a) :
    x >>= f = ⟨x.visits ++ (f a).visits, (f a).result⟩ := by
  change bind x f = _
  unfold bind
  rw [hres]

theorem bind_of_error {x : Traced α} {e : Failure MsgpackBoundsError}
    (f : α → Traced β) (hres : x.result = .error e) : x >>= f = ⟨x.visits, .error e⟩ := by
  change bind x f = _
  unfold bind
  rw [hres]

@[simp] theorem fail_bind (e : MsgpackBoundsError) (f : α → Traced β) :
    (fail e : Traced α) >>= f = fail e := by
  rw [bind_of_error f rfl]
  rfl

end Traced

/-! ## The walk -/

def checkedAdd (a b : ℕ) : Option ℕ :=
  if a + b < 2 ^ 64 then some (a + b) else none

def checkedMul (a b : ℕ) : Option ℕ :=
  if a * b < 2 ^ 64 then some (a * b) else none

inductive Item where
  | skip (length : ℕ)
  | container (children : ℕ)

def shiftIn (acc : ℕ) (byte : UInt8) : ℕ :=
  acc * 2 ^ 8 % 2 ^ 64 + byte.toNat

variable (bytes : List UInt8)

def readBe (pos width : ℕ) : Traced ℕ :=
  match checkedAdd pos width with
  | none => .fail .truncated
  | some stop =>
    if stop ≤ bytes.length then
      ⟨List.range' pos width, .ok (((bytes.drop pos).take width).foldl shiftIn 0)⟩
    else .fail .truncated

/-- A length field, then further bytes that stand before the data. -/
def sized (pos width extra : ℕ) : Traced (Item × ℕ) := do
  let length ← readBe bytes pos width
  match checkedAdd length extra with
  | none => .fail .truncated
  | some length => return (.skip length, pos + width)

def counted (pos width perEntry : ℕ) : Traced (Item × ℕ) := do
  let count ← readBe bytes pos width
  match checkedMul count perEntry with
  | none => .fail .truncated
  | some children => return (.container children, pos + width)

def readHeader (marker : UInt8) (pos : ℕ) : Traced (Item × ℕ) :=
  if marker ≤ 0x7f ∨ marker = 0xc0 ∨ marker = 0xc2 ∨ marker = 0xc3 ∨ 0xe0 ≤ marker then
    return (.skip 0, pos)
  else if 0x80 ≤ marker ∧ marker ≤ 0x8f then
    return (.container ((marker &&& 0x0f).toNat * 2), pos)
  else if 0x90 ≤ marker ∧ marker ≤ 0x9f then
    return (.container (marker &&& 0x0f).toNat, pos)
  else if 0xa0 ≤ marker ∧ marker ≤ 0xbf then
    return (.skip (marker &&& 0x1f).toNat, pos)
  else
    match marker with
    | 0xc4 => sized bytes pos 1 0
    | 0xc5 => sized bytes pos 2 0
    | 0xc6 => sized bytes pos 4 0
    | 0xc7 => sized bytes pos 1 1
    | 0xc8 => sized bytes pos 2 1
    | 0xc9 => sized bytes pos 4 1
    | 0xca => return (.skip 4, pos)
    | 0xcb => return (.skip 8, pos)
    | 0xcc | 0xd0 => return (.skip 1, pos)
    | 0xcd | 0xd1 => return (.skip 2, pos)
    | 0xce | 0xd2 => return (.skip 4, pos)
    | 0xcf | 0xd3 => return (.skip 8, pos)
    | 0xd4 => return (.skip 2, pos)
    | 0xd5 => return (.skip 3, pos)
    | 0xd6 => return (.skip 5, pos)
    | 0xd7 => return (.skip 9, pos)
    | 0xd8 => return (.skip 17, pos)
    | 0xd9 => sized bytes pos 1 0
    | 0xda => sized bytes pos 2 0
    | 0xdb => sized bytes pos 4 0
    | 0xdc => counted bytes pos 2 1
    | 0xdd => counted bytes pos 4 1
    | 0xde => counted bytes pos 2 2
    | 0xdf => counted bytes pos 4 2
    -- Only 0xc1 is left.
    | _ => .fail .reserved

def readByte (pos : ℕ) : Traced UInt8 :=
  match bytes[pos]? with
  | some byte => ⟨[pos], .ok byte⟩
  | none => .fail .truncated

structure Walker where
  remaining : List ℕ
  opened : ℕ
  deepest : ℕ
  pos : ℕ

variable (walker : Walker)

/-- An index outside the array panics, as does a counter that is counted below zero. -/
def countDown (remaining : List ℕ) (level : ℕ) : Fallible MsgpackBoundsError (List ℕ × ℕ) := do
  match ← unwrap remaining[level]? with
  | 0 => .error .panic
  | count + 1 => return (remaining.set level count, count)

/-- A value is complete: every level that it was the last value of is closed.
Nothing is left to read when no level stays open. -/
def closeLevels (remaining : List ℕ) : ℕ → Fallible MsgpackBoundsError (Option (List ℕ × ℕ))
  | 0 => return none
  | opened + 1 => do
      let (remaining, count) ← countDown remaining opened
      if 0 < count then return some (remaining, opened + 1)
      else closeLevels remaining opened

abbrev Round := Fallible MsgpackBoundsError (Walker ⊕ ℕ × ℕ)

def Walker.complete : Round := do
  match ← closeLevels walker.remaining walker.opened with
  | none => return .inr (walker.pos, walker.deepest)
  | some (remaining, opened) => return .inl { walker with remaining, opened }

def Walker.openLevel (children : ℕ) : Round :=
  if walker.opened < walker.remaining.length then
    return .inl
      { walker with
        remaining := walker.remaining.set walker.opened children
        opened := walker.opened + 1 }
  else .error .panic

def Walker.enter (item : Item) (afterHeader : ℕ) : Round :=
  if bytes.length < afterHeader then .error .panic
  else
    let left := bytes.length - afterHeader
    match item with
    | .skip length =>
      if left < length then refuse .truncated
      else ({ walker with pos := afterHeader + length } : Walker).complete
    | .container children =>
      if walker.opened = MAX_PEER_NESTING then refuse .tooDeep
      else if left < children then refuse .truncated
      else
        let walker :=
          { walker with
            deepest := max walker.deepest (walker.opened + 1), pos := afterHeader }
        if 0 < children then walker.openLevel children else walker.complete

/-- One round of the outer loop: the walk goes on, or it returns the offset after the
value and the deepest nesting. -/
def Walker.round : Traced (Walker ⊕ ℕ × ℕ) := do
  let marker ← readByte bytes walker.pos
  let (item, afterHeader) ← readHeader bytes marker (walker.pos + 1)
  .of (walker.enter bytes item afterHeader)

/-- The rounds of the outer loop; no walk uses up as many rounds as there are bytes,
so running out of them stands for a panic. -/
def Walker.walk (bytes : List UInt8) : ℕ → Walker → Traced (ℕ × ℕ)
  | 0, _ => .of (.error .panic)
  | rounds + 1, walker => do
      match ← walker.round bytes with
      | .inl walker => walker.walk bytes rounds
      | .inr result => return result

def Walker.start : Walker where
  remaining := List.replicate MAX_PEER_NESTING 0
  opened := 0
  deepest := 0
  pos := 0

def walk (bytes : List UInt8) : Traced (ℕ × ℕ) :=
  Walker.start.walk bytes (bytes.length + 1)

def checkMsgpackBounds : Traced ℕ := do
  let (stop, _) ← walk bytes
  return stop

/-! ## Slices -/

def slice (start stop : ℕ) : List UInt8 :=
  (bytes.drop start).take (stop - start)

section Slices

variable {bytes : List UInt8} {start mid stop : ℕ}

theorem length_slice (hstop : stop ≤ bytes.length) :
    (slice bytes start stop).length = stop - start := by
  rw [slice, List.length_take, List.length_drop]
  omega

theorem slice_append (bytes : List UInt8) (hstart : start ≤ mid) (hstop : mid ≤ stop) :
    slice bytes start mid ++ slice bytes mid stop = slice bytes start stop := by
  have hwidth : stop - start = (mid - start) + (stop - mid) := by omega
  have hdrop : bytes.drop mid = (bytes.drop start).drop (mid - start) := by
    rw [List.drop_drop, Nat.add_sub_cancel' hstart]
  rw [slice, slice, slice, hwidth, hdrop, List.take_add]

theorem slice_split {Parts : List UInt8 → List UInt8 → Prop} (hle : start ≤ stop) :
    (∃ front back, slice bytes start stop = front ++ back ∧ Parts front back) ↔
      ∃ mid, start ≤ mid ∧ mid ≤ stop ∧ Parts (slice bytes start mid) (slice bytes mid stop) := by
  constructor
  · rintro ⟨front, back, heq, hparts⟩
    have hlen := congrArg List.length heq
    rw [slice, List.length_take, List.length_append] at hlen
    have hfront : slice bytes start (start + front.length) = front := by
      have htake := congrArg (List.take front.length) heq
      rw [List.take_left, slice, List.take_take, Nat.min_eq_left (by omega)] at htake
      rw [slice, Nat.add_sub_cancel_left, htake]
    have hmid : start + front.length ≤ stop := by omega
    have hback := slice_append bytes (Nat.le_add_right start front.length) hmid
    rw [hfront, heq, List.append_cancel_left_eq] at hback
    rw [← hfront, ← hback] at hparts
    exact ⟨_, Nat.le_add_right _ _, hmid, hparts⟩
  · rintro ⟨mid, hstart, hstop, hparts⟩
    exact ⟨_, _, (slice_append bytes hstart hstop).symm, hparts⟩

theorem slice_cons {marker : UInt8} {tail : List UInt8} (hlt : start < stop)
    (hdrop : bytes.drop start = marker :: tail) :
    slice bytes start stop = marker :: slice bytes (start + 1) stop := by
  have hwidth : stop - start = stop - (start + 1) + 1 := by omega
  rw [slice, slice, hwidth, hdrop, List.take_succ_cons, ← List.drop_drop, hdrop]
  rfl

theorem slice_eq_nil_iff (hstop : stop ≤ bytes.length) :
    slice bytes start stop = [] ↔ stop ≤ start := by
  rw [← List.length_eq_zero_iff, length_slice hstop]
  omega

end Slices

/-! ## Headers -/

section Headers

variable {bytes : List UInt8} {pos width : ℕ}

theorem foldl_shiftIn (field : List UInt8) (hlen : field.length ≤ 8) :
    field.foldl shiftIn 0 = readBigEndian field := by
  induction field using List.reverseRecOn with
  | nil => rfl
  | append_singleton field byte ih =>
    rw [List.length_append, List.length_singleton] at hlen
    have hbound := readBigEndian_lt field
    have hpow : 256 ^ field.length ≤ 256 ^ 7 :=
      Nat.pow_le_pow_right (by decide) (by omega)
    rw [List.foldl_append, ih (by omega), readBigEndian_append_singleton]
    simp only [List.foldl_cons, List.foldl_nil, shiftIn]
    omega

theorem readBe_eq (pos : ℕ) (hwidth : width ≤ 8) (hlen : bytes.length < 2 ^ 63) :
    readBe bytes pos width =
      if pos + width ≤ bytes.length then
        ⟨List.range' pos width, .ok (readBigEndian (slice bytes pos (pos + width)))⟩
      else .fail .truncated := by
  have hfield : ((bytes.drop pos).take width).length ≤ 8 := by
    rw [List.length_take]
    omega
  unfold readBe checkedAdd slice
  rw [Nat.add_sub_cancel_left]
  by_cases hstop : pos + width ≤ bytes.length
  · have hfits : pos + width < 2 ^ 64 := by omega
    simp only [hfits, hstop, if_true, foldl_shiftIn _ hfield]
  · by_cases hfits : pos + width < 2 ^ 64
    · simp only [hfits, hstop, if_true, if_false]
    · simp only [hfits, hstop, if_false]

theorem readBigEndian_slice_lt (bytes : List UInt8) (pos : ℕ) (hwidth : width ≤ 4) :
    readBigEndian (slice bytes pos (pos + width)) < 2 ^ 32 := by
  have hbound := readBigEndian_lt (slice bytes pos (pos + width))
  have hlen : (slice bytes pos (pos + width)).length ≤ 4 := by
    rw [slice, List.length_take]
    omega
  have hpow : 256 ^ (slice bytes pos (pos + width)).length ≤ 256 ^ 4 :=
    Nat.pow_le_pow_right (by decide) hlen
  omega

def Item.ofBody : Body → Item
  | .data length => .skip length
  | .values count => .container count

def readForm (bytes : List UInt8) (pos : ℕ) : Option Form → Traced (Item × ℕ)
  | some (.data length) => return (.skip length, pos)
  | some (.sized width extra) => sized bytes pos width extra
  | some (.items count) => return (.container count, pos)
  | some (.counted width perEntry) => counted bytes pos width perEntry
  | none => .fail .reserved

theorem readHeader_eq (bytes : List UInt8) (marker : UInt8) (pos : ℕ) :
    readHeader bytes marker pos = readForm bytes pos (form marker) := by
  have hsingle : ∀ marker : UInt8, (marker ≤ 0x7f ∨ marker = 0xc0 ∨ marker = 0xc2 ∨
      marker = 0xc3 ∨ 0xe0 ≤ marker) → form marker = some (.data 0) := by
    decide +kernel
  have hfixmap : ∀ marker : UInt8, (0x80 ≤ marker ∧ marker ≤ 0x8f) →
      form marker = some (.items ((marker &&& 0x0f).toNat * 2)) := by
    decide +kernel
  have hfixarray : ∀ marker : UInt8, (0x90 ≤ marker ∧ marker ≤ 0x9f) →
      form marker = some (.items (marker &&& 0x0f).toNat) := by
    decide +kernel
  have hfixstr : ∀ marker : UInt8, (0xa0 ≤ marker ∧ marker ≤ 0xbf) →
      form marker = some (.data (marker &&& 0x1f).toNat) := by
    decide +kernel
  unfold readHeader
  split_ifs with hone hmap harray hstr
  · rw [hsingle marker hone]
    rfl
  · rw [hfixmap marker hmap]
    rfl
  · rw [hfixarray marker harray]
    rfl
  · rw [hfixstr marker hstr]
    rfl
  · split
    case h_29 =>
      have hresv : form marker = none := by
        rw [form_eq_none_iff]
        have hbyte := marker.toNat_lt
        simp only [UInt8.le_iff_toNat_le, UInt8.toNat_inj.symm, imp_false, UInt8.reduceToNat] at *
        omega
      rw [hresv]
      rfl
    all_goals rfl

theorem readBe_bind {next : ℕ → Traced (Item × ℕ)} {item : Item} (hwidth : width ≤ 4)
    (hlen : bytes.length < 2 ^ 63)
    (hnext : next (readBigEndian (slice bytes pos (pos + width))) = return (item, pos + width)) :
    readBe bytes pos width >>= next =
      if pos + width ≤ bytes.length then ⟨List.range' pos width, .ok (item, pos + width)⟩
      else .fail .truncated := by
  rw [readBe_eq pos (by omega) hlen]
  split
  · rw [Traced.bind_of_ok _ rfl, hnext]
    simp only [pure, Traced.of, List.append_nil]
  · exact Traced.fail_bind _ _

theorem readForm_eq {shape : Form} (hsmall : shape.Small) (hlen : bytes.length < 2 ^ 63)
    (hpos : pos ≤ bytes.length) :
    readForm bytes pos (some shape) =
      if pos + shape.fieldWidth ≤ bytes.length then
        ⟨List.range' pos shape.fieldWidth,
          .ok (.ofBody (shape.bodyAfter (slice bytes pos (pos + shape.fieldWidth))),
            pos + shape.fieldWidth)⟩
      else .fail .truncated := by
  cases shape with
  | data n | items n => exact (if_pos hpos).symm
  | sized width extra =>
    obtain ⟨hwidth, hextra⟩ := hsmall
    have hbound := readBigEndian_slice_lt bytes pos hwidth
    refine readBe_bind hwidth hlen ?_
    rw [checkedAdd, if_pos (by omega)]
    rfl
  | counted width perEntry =>
    obtain ⟨hwidth, hentry⟩ := hsmall
    have hbound := readBigEndian_slice_lt bytes pos hwidth
    have hproduct : readBigEndian (slice bytes pos (pos + width)) * perEntry < 2 ^ 64 := by
      calc readBigEndian (slice bytes pos (pos + width)) * perEntry
          ≤ 2 ^ 32 * 2 := Nat.mul_le_mul hbound.le hentry
        _ < 2 ^ 64 := by decide
    refine readBe_bind hwidth hlen ?_
    rw [checkedMul, if_pos hproduct]
    rfl

theorem fits_slice_iff {start stop limit : ℕ} {marker : UInt8} {tail : List UInt8}
    (hdrop : bytes.drop start = marker :: tail) (hstop : stop ≤ bytes.length) :
    Fits limit (slice bytes start stop) ↔
      ∃ shape, form marker = some shape ∧ start + 1 + shape.fieldWidth ≤ stop ∧
        (shape.bodyAfter (slice bytes (start + 1) (start + 1 + shape.fieldWidth))).Holds
          limit (slice bytes (start + 1 + shape.fieldWidth) stop) := by
  rcases Nat.lt_or_ge start stop with hlt | hle
  · rw [slice_cons hlt hdrop, fits_cons_iff]
    refine exists_congr fun shape => and_congr_right fun _ => ?_
    unfold Form.Follows
    rw [slice_split hlt]
    constructor
    · rintro ⟨mid, hstart, hmid, hwidth, hholds⟩
      rw [length_slice (hmid.trans hstop)] at hwidth
      obtain rfl : mid = start + 1 + shape.fieldWidth := by omega
      exact ⟨hmid, hholds⟩
    · rintro ⟨hmid, hholds⟩
      refine ⟨_, Nat.le_add_right _ _, hmid, ?_, hholds⟩
      rw [length_slice (hmid.trans hstop), Nat.add_sub_cancel_left]
  · constructor
    · intro hfits
      exact absurd ((slice_eq_nil_iff hstop).mpr hle) hfits.ne_nil
    · rintro ⟨shape, -, hmid, -⟩
      omega

end Headers

/-! ## What the open levels still expect -/

/-- After a value that the innermost level expects: the level's other values, then
what the outer levels expect.  The innermost level stands first. -/
def After : List ℕ → List UInt8 → Prop
  | [], bytes => bytes = []
  | count :: levels, bytes => ∃ values rest, bytes = values ++ rest ∧
      AllFit (MAX_PEER_NESTING - (levels.length + 1)) (count - 1) values ∧ After levels rest

def Expects (levels : List ℕ) (bytes : List UInt8) : Prop :=
  ∃ value rest, bytes = value ++ rest ∧
    Fits (MAX_PEER_NESTING - levels.length) value ∧ After levels rest

theorem after_last {levels : List ℕ} {bytes : List UInt8} :
    After (1 :: levels) bytes ↔ After levels bytes := by
  constructor
  · rintro ⟨values, rest, rfl, hvals, hrest⟩
    rw [allFit_zero.mp hvals]
    exact hrest
  · intro hrest
    exact ⟨[], bytes, rfl, allFit_zero.mpr rfl, hrest⟩

theorem allFit_after_iff {count : ℕ} {levels : List ℕ} {bytes : List UInt8} (hcount : 0 < count) :
    (∃ values rest, bytes = values ++ rest ∧
      AllFit (MAX_PEER_NESTING - (levels.length + 1)) count values ∧
        After levels rest) ↔ Expects (count :: levels) bytes := by
  obtain ⟨count, rfl⟩ := Nat.exists_eq_succ_of_ne_zero hcount.ne'
  constructor
  · rintro ⟨values, rest, rfl, hvals, hrest⟩
    obtain ⟨value, others, rfl, hvalue, hothers⟩ := allFit_succ.mp hvals
    exact ⟨value, others ++ rest, List.append_assoc _ _ _, hvalue,
      others, rest, rfl, hothers, hrest⟩
  · rintro ⟨value, _, rfl, hvalue, others, rest, rfl, hothers, hrest⟩
    exact ⟨value ++ others, rest, (List.append_assoc _ _ _).symm,
      allFit_succ.mpr ⟨value, others, rfl, hvalue, hothers⟩, hrest⟩

theorem after_next {count : ℕ} {levels : List ℕ} {bytes : List UInt8} (hcount : 0 < count) :
    After ((count + 1) :: levels) bytes ↔ Expects (count :: levels) bytes :=
  allFit_after_iff hcount

def openLevels (remaining : List ℕ) (opened : ℕ) : List ℕ :=
  (remaining.take opened).reverse

structure LevelsOpen (remaining : List ℕ) (opened : ℕ) : Prop where
  array : remaining.length = MAX_PEER_NESTING
  within : opened ≤ MAX_PEER_NESTING
  pos : ∀ count ∈ openLevels remaining opened, 0 < count

section

variable {remaining : List ℕ} {opened : ℕ}

theorem openLevels_succ {opened count : ℕ} (hcount : remaining[opened]? = some count) :
    openLevels remaining (opened + 1) = count :: openLevels remaining opened := by
  unfold openLevels
  rw [List.take_add_one, hcount, Option.toList_some, List.reverse_append,
    List.reverse_singleton, List.singleton_append]

theorem openLevels_set (remaining : List ℕ) (opened count : ℕ) :
    openLevels (remaining.set opened count) opened = openLevels remaining opened := by
  unfold openLevels
  rw [List.take_set_of_le (Nat.le_refl opened)]

theorem openLevels_set_succ (count : ℕ) (hopened : opened < remaining.length) :
    openLevels (remaining.set opened count) (opened + 1) =
      count :: openLevels remaining opened := by
  have hcount : (remaining.set opened count)[opened]? = some count := by
    rw [List.getElem?_set_self hopened]
  rw [openLevels_succ hcount, openLevels_set]

theorem LevelsOpen.length_openLevels
    (hopen : LevelsOpen remaining opened) : (openLevels remaining opened).length = opened := by
  have harray := hopen.array
  have hwithin := hopen.within
  unfold openLevels
  rw [List.length_reverse, List.length_take]
  omega

theorem LevelsOpen.set {opened count : ℕ}
    (hopen : LevelsOpen remaining opened) (hopened : opened < MAX_PEER_NESTING)
    (hcount : 0 < count) : LevelsOpen (remaining.set opened count) (opened + 1) := by
  have harray := hopen.array
  refine ⟨by rw [List.length_set, harray], hopened, ?_⟩
  rw [openLevels_set_succ count (by omega)]
  intro other hother
  rcases List.mem_cons.mp hother with rfl | houter
  · exact hcount
  · exact hopen.pos other houter

theorem LevelsOpen.set_closed (count : ℕ)
    (hopen : LevelsOpen remaining opened) : LevelsOpen (remaining.set opened count) opened := by
  refine ⟨by rw [List.length_set, hopen.array], hopen.within, ?_⟩
  rw [openLevels_set]
  exact hopen.pos

theorem LevelsOpen.outer
    (hopen : LevelsOpen remaining (opened + 1)) : LevelsOpen remaining opened := by
  have harray := hopen.array
  have hwithin := hopen.within
  refine ⟨harray, by omega, ?_⟩
  intro other hother
  have hget := List.getElem?_eq_getElem (show opened < remaining.length by omega)
  apply hopen.pos
  rw [openLevels_succ hget]
  exact List.mem_cons_of_mem _ hother

theorem LevelsOpen.countDown_eq (hopen : LevelsOpen remaining (opened + 1)) :
    ∃ count, countDown remaining opened = .ok (remaining.set opened count, count) ∧
      openLevels remaining (opened + 1) = (count + 1) :: openLevels remaining opened := by
  have harray := hopen.array
  have hwithin := hopen.within
  have hget := List.getElem?_eq_getElem (show opened < remaining.length by omega)
  have hlevels := openLevels_succ hget
  have hpos : 0 < remaining[opened] := by
    apply hopen.pos
    rw [hlevels]
    exact List.mem_cons_self
  obtain ⟨count, hcount⟩ := Nat.exists_eq_succ_of_ne_zero hpos.ne'
  refine ⟨count, ?_, ?_⟩
  · unfold countDown
    rw [hget, hcount]
    rfl
  · rw [hlevels, hcount]

def ClosedTo (levels : List ℕ) : Option (List ℕ × ℕ) → Prop
  | none => ∀ bytes, After levels bytes ↔ bytes = []
  | some (remaining, opened) => LevelsOpen remaining opened ∧
      ∀ bytes, After levels bytes ↔ Expects (openLevels remaining opened) bytes

theorem closeLevels_closedTo (hopen : LevelsOpen remaining opened) :
    ∃ closed, closeLevels remaining opened = .ok closed ∧
      ClosedTo (openLevels remaining opened) closed := by
  induction opened generalizing remaining with
  | zero => exact ⟨none, rfl, fun _ => Iff.rfl⟩
  | succ opened ih =>
    obtain ⟨count, hdown, hlevels⟩ := hopen.countDown_eq
    have hwithin := hopen.within
    unfold closeLevels
    rw [hdown, hlevels]
    simp only [bind, Except.bind]
    rcases Nat.eq_zero_or_pos count with rfl | hpos
    · -- The value was the last one of the level, so the next level is counted down.
      obtain ⟨closed, hclosed, hmeans⟩ := ih (hopen.outer.set_closed 0)
      rw [openLevels_set] at hmeans
      refine ⟨closed, by rw [if_neg (lt_irrefl 0), hclosed], ?_⟩
      cases closed with
      | none =>
        intro bytes
        rw [after_last, hmeans bytes]
      | some levels =>
        refine ⟨hmeans.1, ?_⟩
        intro bytes
        rw [after_last, hmeans.2 bytes]
    · have harray := hopen.array
      refine ⟨some (remaining.set opened count, opened + 1), ?_, hopen.outer.set hwithin hpos, ?_⟩
      · rw [if_pos hpos]
        rfl
      · intro bytes
        rw [after_next hpos, openLevels_set_succ count (by omega)]

end

/-! ## One round -/

def Walker.levels : List ℕ :=
  openLevels walker.remaining walker.opened

/-- The values that the open levels expect end there. -/
def Walker.Ends (stop : ℕ) : Prop :=
  walker.pos ≤ stop ∧ stop ≤ bytes.length ∧ Expects walker.levels (slice bytes walker.pos stop)

def Walker.RoundMeans (afterHeader : ℕ) : Round → Prop
  | .ok (.inl next) => LevelsOpen next.remaining next.opened ∧
      afterHeader ≤ next.pos ∧ next.pos ≤ bytes.length ∧
      ∀ stop, walker.Ends bytes stop ↔ next.Ends bytes stop
  | .ok (.inr (found, _)) => ∀ stop, walker.Ends bytes stop ↔ stop = found
  | .error (.error _) => ∀ stop, ¬walker.Ends bytes stop
  | .error .panic => False

section Rounds

variable {bytes : List UInt8} {walker : Walker} {afterHeader : ℕ}

/-- Values at the position of the walker are bodies that stand after its header. -/
def Body.Governs (bytes : List UInt8) (start afterHeader : ℕ) (body : Body) : Prop :=
  ∀ limit stop, stop ≤ bytes.length →
    (Fits limit (slice bytes start stop) ↔
      afterHeader ≤ stop ∧ body.Holds limit (slice bytes afterHeader stop))

section

variable (hopen : LevelsOpen walker.remaining walker.opened)

include hopen

theorem Walker.ends_iff {body : Body} (hpos : walker.pos ≤ afterHeader)
    (hgov : Body.Governs bytes walker.pos afterHeader body) {stop : ℕ} :
    walker.Ends bytes stop ↔ stop ≤ bytes.length ∧ ∃ mid, afterHeader ≤ mid ∧ mid ≤ stop ∧
      body.Holds (MAX_PEER_NESTING - walker.opened) (slice bytes afterHeader mid) ∧
        After walker.levels (slice bytes mid stop) := by
  have hlevels : walker.levels.length = walker.opened := hopen.length_openLevels
  unfold Walker.Ends Expects
  rw [hlevels]
  constructor
  · rintro ⟨hstart, hstop, hsplit⟩
    obtain ⟨mid, -, hmid, hfits, hafter⟩ := (slice_split hstart).mp hsplit
    obtain ⟨hhead, hholds⟩ := (hgov _ mid (hmid.trans hstop)).mp hfits
    exact ⟨hstop, mid, hhead, hmid, hholds, hafter⟩
  · rintro ⟨hstop, mid, hhead, hmid, hholds, hafter⟩
    refine ⟨by omega, hstop, (slice_split (by omega)).mpr ⟨mid, by omega, hmid, ?_, hafter⟩⟩
    exact (hgov _ mid (hmid.trans hstop)).mpr ⟨hhead, hholds⟩

theorem Walker.complete_means {pos deepest : ℕ} (hhead : afterHeader ≤ pos)
    (hpos : pos ≤ bytes.length)
    (hends : ∀ stop, walker.Ends bytes stop ↔ stop ≤ bytes.length ∧ pos ≤ stop ∧
      After walker.levels (slice bytes pos stop)) :
    walker.RoundMeans bytes afterHeader ({ walker with deepest, pos } : Walker).complete := by
  obtain ⟨closed, hclosed, hmeans⟩ := closeLevels_closedTo hopen
  unfold complete
  rw [hclosed]
  cases closed with
  | none =>
    intro stop
    rw [hends stop]
    constructor
    · rintro ⟨hstop, hle, hafter⟩
      have hempty := (slice_eq_nil_iff hstop).mp ((hmeans _).mp hafter)
      exact Nat.le_antisymm hempty hle
    · rintro rfl
      exact ⟨hpos, le_rfl, (hmeans _).mpr ((slice_eq_nil_iff hpos).mpr le_rfl)⟩
  | some closed =>
    obtain ⟨remaining, opened⟩ := closed
    refine ⟨hmeans.1, hhead, hpos, ?_⟩
    intro stop
    rw [hends stop, and_left_comm]
    exact and_congr_right fun _ => and_congr_right fun _ => hmeans.2 _

theorem Walker.enter_skip_means {n : ℕ}
    (hpos : walker.pos ≤ afterHeader) (hle : afterHeader ≤ bytes.length)
    (hgov : Body.Governs bytes walker.pos afterHeader (.data n)) :
    walker.RoundMeans bytes afterHeader (walker.enter bytes (.skip n) afterHeader) := by
  have hends : ∀ stop, walker.Ends bytes stop ↔ stop ≤ bytes.length ∧
      afterHeader + n ≤ stop ∧ After walker.levels (slice bytes (afterHeader + n) stop) := by
    intro stop
    rw [ends_iff hopen hpos hgov]
    refine and_congr_right fun hstop => ⟨?_, ?_⟩
    · rintro ⟨mid, hhead, hmid, hdata, hafter⟩
      rw [Body.Holds, length_slice (hmid.trans hstop)] at hdata
      obtain rfl : mid = afterHeader + n := by omega
      exact ⟨hmid, hafter⟩
    · rintro ⟨hmid, hafter⟩
      refine ⟨afterHeader + n, by omega, hmid, ?_, hafter⟩
      rw [Body.Holds, length_slice (hmid.trans hstop), Nat.add_sub_cancel_left]
  unfold enter
  simp only [Nat.not_lt.mpr hle, if_false]
  split_ifs with hleft
  · intro stop hstops
    obtain ⟨hstop, hmid, -⟩ := (hends stop).mp hstops
    omega
  · exact complete_means hopen (by omega) (by omega) hends

theorem Walker.openLevel_means {children deepest : ℕ} (hopened : walker.opened < MAX_PEER_NESTING)
    (hchildren : 0 < children) (hpos : walker.pos ≤ afterHeader) (hle : afterHeader ≤ bytes.length)
    (hgov : Body.Governs bytes walker.pos afterHeader (.values children)) :
    walker.RoundMeans bytes afterHeader
      (({ walker with deepest, pos := afterHeader } : Walker).openLevel children) := by
  have harray := hopen.array
  have hlevels : walker.levels.length = walker.opened := hopen.length_openLevels
  have hroom : walker.opened < walker.remaining.length := by omega
  have hnext : openLevels (walker.remaining.set walker.opened children)
      (walker.opened + 1) = children :: walker.levels :=
    openLevels_set_succ children hroom
  unfold openLevel
  rw [if_pos hroom]
  refine ⟨hopen.set hopened hchildren, le_rfl, hle, ?_⟩
  intro stop
  rw [ends_iff hopen hpos hgov]
  change _ ↔ afterHeader ≤ stop ∧ stop ≤ bytes.length ∧
    Expects (openLevels (walker.remaining.set walker.opened children) (walker.opened + 1))
      (slice bytes afterHeader stop)
  rw [hnext, and_left_comm]
  refine and_congr_right fun _ => ?_
  constructor
  · rintro ⟨mid, hhead, hmid, ⟨-, hfit⟩, hafter⟩
    refine ⟨hhead.trans hmid, (allFit_after_iff hchildren).mp ?_⟩
    rw [hlevels]
    exact (slice_split (hhead.trans hmid)).mpr ⟨mid, hhead, hmid, hfit, hafter⟩
  · rintro ⟨hhead, hexpects⟩
    have hsplit := (allFit_after_iff hchildren).mpr hexpects
    rw [hlevels] at hsplit
    obtain ⟨mid, hstart, hmid, hfit, hafter⟩ := (slice_split hhead).mp hsplit
    exact ⟨mid, hstart, hmid, ⟨by omega, hfit⟩, hafter⟩

theorem Walker.enter_container_means {n : ℕ}
    (hpos : walker.pos ≤ afterHeader) (hle : afterHeader ≤ bytes.length)
    (hgov : Body.Governs bytes walker.pos afterHeader (.values n)) :
    walker.RoundMeans bytes afterHeader (walker.enter bytes (.container n) afterHeader) := by
  have hwithin := hopen.within
  unfold enter
  simp only [Nat.not_lt.mpr hle, if_false]
  split_ifs with hdeep hleft hchildren
  · -- All levels are open, so an array or a map nests too deep.
    intro stop hstops
    obtain ⟨-, mid, -, -, ⟨hlimit, -⟩, -⟩ := (ends_iff hopen hpos hgov).mp hstops
    omega
  · -- Every value takes a byte, and there are not as many bytes.
    intro stop hstops
    obtain ⟨hstop, mid, hhead, hmid, ⟨-, hfit⟩, -⟩ := (ends_iff hopen hpos hgov).mp hstops
    have hcount := hfit.le_length
    rw [length_slice (hmid.trans hstop)] at hcount
    omega
  · exact openLevel_means hopen (by omega) hchildren hpos hle hgov
  · -- An empty array or map is a complete value.
    obtain rfl : n = 0 := by omega
    apply complete_means hopen le_rfl hle
    intro stop
    rw [ends_iff hopen hpos hgov]
    refine and_congr_right fun hstop => ⟨?_, ?_⟩
    · rintro ⟨mid, hhead, hmid, ⟨-, hfit⟩, hafter⟩
      have hempty := (slice_eq_nil_iff (hmid.trans hstop)).mp (allFit_zero.mp hfit)
      obtain rfl : mid = afterHeader := by omega
      exact ⟨hmid, hafter⟩
    · rintro ⟨hhead, hafter⟩
      refine ⟨afterHeader, le_rfl, hhead, ⟨by omega, allFit_zero.mpr ?_⟩, hafter⟩
      exact (slice_eq_nil_iff hle).mpr le_rfl

end

theorem Walker.refuse_means (e : MsgpackBoundsError)
    (hnone : ∀ limit stop, stop ≤ bytes.length → ¬Fits limit (slice bytes walker.pos stop)) :
    walker.RoundMeans bytes afterHeader (refuse e) := by
  rintro stop ⟨hstart, hstop, hexpects⟩
  obtain ⟨mid, -, hmid, hfits, -⟩ := (slice_split hstart).mp hexpects
  exact hnone _ mid (hmid.trans hstop) hfits

/-- A round reads a header and goes on from there, or there is no value. -/
theorem Walker.round_means (hlen : bytes.length < 2 ^ 63)
    (hopen : LevelsOpen walker.remaining walker.opened) (hpos : walker.pos ≤ bytes.length) :
    ∃ n, (walker.round bytes).visits = List.range' walker.pos n ∧ walker.pos + n ≤ bytes.length ∧
      ((walker.round bytes).result.isOk = true → 0 < n) ∧
      walker.RoundMeans bytes (walker.pos + n) (walker.round bytes).result := by
  unfold Walker.round
  rcases Nat.lt_or_ge walker.pos bytes.length with hlt | hge
  · have hfits {limit stop : ℕ} (hstop : stop ≤ bytes.length) :=
      @fits_slice_iff bytes walker.pos stop limit _ _ (List.drop_eq_getElem_cons hlt) hstop
    have hread : readByte bytes walker.pos = ⟨[walker.pos], .ok bytes[walker.pos]⟩ := by
      unfold readByte
      rw [List.getElem?_eq_getElem hlt]
    rw [hread, Traced.bind_of_ok _ rfl, readHeader_eq]
    cases hform : form bytes[walker.pos] with
    | none =>
      refine ⟨1, rfl, hlt, Bool.noConfusion, refuse_means .reserved ?_⟩
      intro limit stop hstop
      simp [hfits hstop, hform]
    | some shape =>
      have hhead := readForm_eq (small_of_form hform) hlen hlt
      have hmid : walker.pos + (shape.fieldWidth + 1) = walker.pos + 1 + shape.fieldWidth := by omega
      split_ifs at hhead with hroom
      · have hgov : Body.Governs bytes walker.pos (walker.pos + 1 + shape.fieldWidth)
            (shape.bodyAfter (slice bytes (walker.pos + 1) (walker.pos + 1 + shape.fieldWidth))) := by
          intro limit stop hstop
          simp [hfits hstop, hform]
        rw [hhead, Traced.bind_of_ok _ rfl]
        refine ⟨shape.fieldWidth + 1, ?_, by omega, fun _ => by omega, ?_⟩
        · simp only [Traced.of, List.append_nil, List.singleton_append, List.range'_succ]
        · rw [hmid]
          cases hbody : shape.bodyAfter (slice bytes (walker.pos + 1)
              (walker.pos + 1 + shape.fieldWidth)) with
          | data n => exact enter_skip_means hopen (by omega) hroom (hbody ▸ hgov)
          | values n => exact enter_container_means hopen (by omega) hroom (hbody ▸ hgov)
      · rw [hhead, Traced.fail_bind]
        refine ⟨1, rfl, hlt, Bool.noConfusion, refuse_means .truncated ?_⟩
        intro limit stop hstop
        simp only [hfits hstop, hform]
        rintro ⟨_, ⟨⟩, hmid, -⟩
        omega
  · have hread : readByte bytes walker.pos = .fail .truncated := by
      unfold readByte
      rw [List.getElem?_eq_none hge]
    rw [hread, Traced.fail_bind]
    refine ⟨0, rfl, hpos, Bool.noConfusion, refuse_means .truncated ?_⟩
    intro limit stop hstop hvalue
    exact hvalue.ne_nil ((slice_eq_nil_iff hstop).mpr (hstop.trans hge))

end Rounds

/-! ## The whole walk -/

/-- The result is the one number with the property, or an error if there is none. -/
def Decides {α : Type} (Property : ℕ → Prop) (number : α → ℕ) : Fallible MsgpackBoundsError α → Prop
  | .ok found => ∀ n, Property n ↔ n = number found
  | .error (.error _) => ∀ n, ¬Property n
  | .error .panic => False

section Walks

variable {bytes : List UInt8} {rounds : ℕ} {walker : Walker}

theorem Walker.walk_decides (hlen : bytes.length < 2 ^ 63)
    (hopen : LevelsOpen walker.remaining walker.opened)
    (hpos : walker.pos ≤ bytes.length) (hrounds : bytes.length < walker.pos + rounds) :
    Decides (walker.Ends bytes) Prod.fst (walker.walk bytes rounds).result ∧
      (walker.walk bytes rounds).visits.Sublist
        (List.range' walker.pos (bytes.length - walker.pos)) := by
  induction rounds generalizing walker with
  | zero => omega
  | succ rounds ih =>
    obtain ⟨n, hvisits, hn, hpositive, hround⟩ := round_means hlen hopen hpos
    have hsplit : List.range' walker.pos (bytes.length - walker.pos) =
        List.range' walker.pos n ++
          List.range' (walker.pos + n) (bytes.length - (walker.pos + n)) := by
      rw [List.range'_append_1, ← Nat.sub_sub, Nat.add_sub_cancel' (by omega)]
    rw [hsplit]
    unfold walk
    cases hres : (walker.round bytes).result with
    | error failure =>
      rw [hres] at hround
      rw [Traced.bind_of_error _ hres, hvisits]
      refine ⟨?_, List.sublist_append_left _ _⟩
      cases failure with
      | panic | error e => exact hround
    | ok outcome =>
      rw [hres] at hround hpositive
      rw [Traced.bind_of_ok _ hres, hvisits]
      cases outcome with
      | inr found => exact ⟨hround, List.Sublist.append_left (List.nil_sublist _) _⟩
      | inl next =>
        obtain ⟨hnextOpen, hnext, hle, hends⟩ := hround
        have hpositive := hpositive rfl
        obtain ⟨hdec, hrest⟩ := ih hnextOpen hle (by omega)
        obtain hsame : walker.Ends bytes = next.Ends bytes :=
          funext fun stop => propext (hends stop)
        refine ⟨hsame ▸ hdec, List.Sublist.append_left (hrest.trans ?_) _⟩
        have hskip : bytes.length - (walker.pos + n) =
            (next.pos - (walker.pos + n)) + (bytes.length - next.pos) := by omega
        have hstart : walker.pos + n + (next.pos - (walker.pos + n)) = next.pos := by
          omega
        rw [hskip, ← List.range'_append_1, hstart]
        exact List.sublist_append_right _ _

end Walks

theorem Walker.start_open : LevelsOpen start.remaining start.opened := by
  refine ⟨List.length_replicate, Nat.zero_le _, ?_⟩
  intro count hcount
  cases hcount

theorem Walker.start_ends {bytes : List UInt8} {stop : ℕ} :
    start.Ends bytes stop ↔ stop ≤ bytes.length ∧ Fits MAX_PEER_NESTING (bytes.take stop) := by
  have hexpects : ∀ taken, Expects start.levels taken ↔ Fits MAX_PEER_NESTING taken := by
    intro taken
    constructor
    · rintro ⟨value, rest, rfl, hfits, rfl⟩
      rw [List.append_nil]
      exact hfits
    · intro hfits
      exact ⟨taken, [], (List.append_nil taken).symm, hfits, rfl⟩
  unfold Walker.Ends
  rw [hexpects]
  exact and_iff_right (Nat.zero_le stop)

theorem checkMsgpackBounds_decides (bytes : ByteSlice) :
    Decides (Walker.start.Ends bytes.val) id (checkMsgpackBounds bytes.val).result ∧
      (checkMsgpackBounds bytes.val).visits.Sublist (List.range' 0 bytes.val.length) := by
  obtain ⟨hdec, hvisits⟩ : Decides (Walker.start.Ends bytes.val) Prod.fst (walk bytes.val).result ∧
        (walk bytes.val).visits.Sublist (List.range' 0 bytes.val.length) :=
    Walker.walk_decides bytes.property Walker.start_open (Nat.zero_le _)
      (Nat.lt_of_lt_of_le (Nat.lt_succ_self _) (Nat.le_add_left _ _))
  unfold checkMsgpackBounds
  cases hres : (walk bytes.val).result with
  | error failure =>
    rw [hres] at hdec
    rw [Traced.bind_of_error _ hres]
    refine ⟨?_, hvisits⟩
    cases failure with
    | panic | error e => exact hdec
  | ok found =>
    rw [hres] at hdec
    rw [Traced.bind_of_ok _ hres]
    exact ⟨hdec, (List.append_nil (walk bytes.val).visits).symm ▸ hvisits⟩

theorem Decides.eq_ok_iff {Property : ℕ → Prop} {result : Fallible MsgpackBoundsError ℕ}
    (hdec : Decides Property id result) {n : ℕ} : result = .ok n ↔ Property n := by
  cases result with
  | ok found =>
    rw [hdec n, Except.ok.injEq]
    exact eq_comm
  | error failure =>
    cases failure with
    | panic => exact absurd hdec not_false
    | error e =>
      constructor
      · intro hok
        cases hok
      · intro hprop
        exact absurd hprop (hdec n)

/-- The check accepts exactly the values whose nesting is within the bound, with their
exact end; it neither panics nor counts below zero, and it reads no byte twice. -/
theorem checkMsgpackBounds_exact (bytes : ByteSlice) :
    (∀ stop, (checkMsgpackBounds bytes.val).result = .ok stop ↔
      stop ≤ bytes.val.length ∧
        ∃ depth, Value depth (bytes.val.take stop) ∧ depth ≤ MAX_PEER_NESTING) ∧
    (checkMsgpackBounds bytes.val).result ≠ .error .panic ∧
    (checkMsgpackBounds bytes.val).visits.Nodup ∧
    ∀ position ∈ (checkMsgpackBounds bytes.val).visits,
      position < bytes.val.length := by
  obtain ⟨hdecides, hvisits⟩ := checkMsgpackBounds_decides bytes
  refine ⟨?_, ?_, hvisits.nodup List.nodup_range', ?_⟩
  · intro stop
    rw [hdecides.eq_ok_iff]
    exact Walker.start_ends
  · intro hpanic
    rw [hpanic] at hdecides
    exact hdecides
  · intro position hposition
    have hmem := hvisits.subset hposition
    rw [List.mem_range'_1] at hmem
    omega

/-- An array of nil and an array, with a byte after it that is not examined. -/
example : (checkMsgpackBounds [0x92, 0xc0, 0x91, 0x01, 0xff]).result = .ok 4 := rfl

end KdfProtocol.MsgpackBounds
