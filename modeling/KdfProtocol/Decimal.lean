import Mathlib.Data.Rat.Lemmas
import Mathlib.Data.List.TakeWhile
import Mathlib.Data.Nat.Log
import Mathlib.Tactic

/-!
# Decimal numbers

A decimal is a whole number and the number of its digits that stand after the
point.  A quotient of two whole numbers becomes a decimal by long division, which
ends when nothing remains or when the quotient has as many digits as the
precision allows; what then remains is rounded.  The text of a decimal can be
read back exactly, so a ratio survives the way through the text exactly when
the long division ends with nothing left.
-/

namespace KdfProtocol

structure Decimal where
  intVal : ℕ
  scale : ℕ
  deriving DecidableEq

namespace Decimal

def toRat (d : Decimal) : ℚ :=
  (d.intVal : ℚ) / 10 ^ d.scale

/-! ## Long division -/

/-- The numerator is shifted until it reaches the denominator. -/
def shiftNumerator (den num scale : ℕ) : ℕ × ℕ :=
  if 0 < num ∧ num < den then shiftNumerator den (num * 10) (scale + 1)
  else (num, scale)
termination_by den - num

structure LongDivision where
  quotient : ℕ
  remainder : ℕ
  precision : ℕ
  scale : ℕ

def LongDivision.nextDigit (den : ℕ) (division : LongDivision) : LongDivision where
  quotient := division.quotient * 10 + division.remainder / den
  remainder := division.remainder % den * 10
  precision := division.precision + 1
  scale := division.scale + 1

def LongDivision.extend (maxPrecision den : ℕ) (division : LongDivision) : LongDivision :=
  if division.remainder ≠ 0 ∧ division.precision < maxPrecision then
    (division.nextDigit den).extend maxPrecision den
  else division
termination_by maxPrecision - division.precision
decreasing_by
  simp only [LongDivision.nextDigit]
  omega

def countDecimalDigits (n : ℕ) : ℕ :=
  Nat.log 10 n + 1

def roundingTerm (digit : ℕ) : ℕ :=
  if digit < 5 then 0 else 1

def startDivision (num den scale : ℕ) : LongDivision where
  quotient := num / den
  remainder := num % den * 10
  precision := countDecimalDigits (num / den)
  scale := scale

def LongDivision.rounded (den : ℕ) (division : LongDivision) : Decimal where
  intVal :=
    if division.remainder = 0 then division.quotient
    else division.quotient + roundingTerm (division.remainder / den)
  scale := division.scale

def divide (maxPrecision num den : ℕ) : Decimal :=
  if num = 0 then ⟨0, 0⟩
  else
    let shifted := shiftNumerator den num 0
    let start := startDivision shifted.1 den shifted.2
    if start.remainder = 0 then ⟨start.quotient, start.scale⟩
    else (start.extend maxPrecision den).rounded den

/-- Zero, a whole number and one are not divided. -/
def ofRatio (maxPrecision num den : ℕ) : Decimal :=
  if num = 0 ∨ den = 1 then ⟨num, 0⟩
  else if num = den then ⟨1, 0⟩
  else divide maxPrecision num den

/-! ## What the division leaves -/

section LongDivision

variable {maxPrecision den : ℕ}

theorem shiftNumerator_spec (den num scale : ℕ) :
    ∃ shift, shiftNumerator den num scale = (num * 10 ^ shift, scale + shift) ∧
      (0 < num → den ≤ num * 10 ^ shift) ∧ (0 < shift → num * 10 ^ shift < 10 * den) := by
  fun_induction shiftNumerator den num scale with
  | case1 num scale hcond ih =>
    obtain ⟨shift, heq, hreach, hlast⟩ := ih
    have hpow : num * 10 * 10 ^ shift = num * 10 ^ (shift + 1) := by ring
    rw [hpow] at heq hreach hlast
    refine ⟨shift + 1, ?_, ?_, ?_⟩
    · rw [heq, Nat.add_assoc, Nat.add_comm 1]
    · intro hpos
      exact hreach (by omega)
    · intro _
      rcases Nat.eq_zero_or_pos shift with hzero | hpos
      · subst hzero
        rw [zero_add, pow_one]
        omega
      · exact hlast hpos
  | case2 num scale hcond =>
    refine ⟨0, by simp, ?_, ?_⟩
    · intro hpos
      rw [pow_zero, mul_one]
      omega
    · intro hshift
      exact absurd hshift (lt_irrefl 0)

structure LongDivision.Divides (num den : ℕ) (division : LongDivision) : Prop where
  equation : 10 * (num * 10 ^ division.scale) = 10 * (division.quotient * den) + division.remainder
  remainder_lt : division.remainder < 10 * den
  precision_pos : 0 < division.precision
  lower : 10 ^ (division.precision - 1) ≤ division.quotient
  upper : division.quotient < 10 ^ division.precision

variable {num : ℕ} {division : LongDivision}

theorem LongDivision.Divides.nextDigit (hdiv : division.Divides num den) :
    (division.nextDigit den).Divides num den := by
  have hden : 0 < den := by
    have hlt := hdiv.remainder_lt
    omega
  have hdigit : division.remainder / den < 10 := by
    rw [Nat.div_lt_iff_lt_mul hden]
    exact hdiv.remainder_lt
  have hsplit := Nat.div_add_mod division.remainder den
  refine ⟨?_, ?_, Nat.succ_pos _, ?_, ?_⟩
  · have heq := hdiv.equation
    have hpow : num * 10 ^ (division.scale + 1) = 10 * (num * 10 ^ division.scale) := by ring
    simp only [LongDivision.nextDigit]
    rw [hpow, heq]
    calc 10 * (10 * (division.quotient * den) + division.remainder)
        = 10 * (10 * (division.quotient * den) +
            (den * (division.remainder / den) + division.remainder % den)) := by rw [hsplit]
      _ = _ := by ring
  · have hmod := Nat.mod_lt division.remainder hden
    simp only [LongDivision.nextDigit]
    omega
  · have hlower := hdiv.lower
    have hpos := hdiv.precision_pos
    have hpow : 10 ^ division.precision = 10 ^ (division.precision - 1) * 10 := by
      rw [← pow_succ, Nat.sub_add_cancel hpos]
    simp only [LongDivision.nextDigit, Nat.add_sub_cancel]
    rw [hpow]
    exact (Nat.mul_le_mul_right 10 hlower).trans (Nat.le_add_right _ _)
  · have hupper := hdiv.upper
    simp only [LongDivision.nextDigit, pow_succ]
    omega

theorem LongDivision.Divides.extend (hdiv : division.Divides num den) (maxPrecision : ℕ) :
    (division.extend maxPrecision den).Divides num den := by
  fun_induction LongDivision.extend maxPrecision den division with
  | case1 division hcond ih => exact ih hdiv.nextDigit
  | case2 division hcond => exact hdiv

theorem LongDivision.extend_stops (maxPrecision den : ℕ) (division : LongDivision) :
    (division.extend maxPrecision den).remainder = 0 ∨
      maxPrecision ≤ (division.extend maxPrecision den).precision := by
  fun_induction LongDivision.extend maxPrecision den division with
  | case1 division hcond ih => exact ih
  | case2 division hcond =>
    rw [not_and_or, not_not, Nat.not_lt] at hcond
    exact hcond

theorem LongDivision.extend_precision_le
    (hrest : division.remainder = 0 → division.precision ≤ maxPrecision)
    (hended : (division.extend maxPrecision den).remainder = 0) :
    (division.extend maxPrecision den).precision ≤ maxPrecision := by
  fun_induction LongDivision.extend maxPrecision den division with
  | case1 division hcond ih => exact ih (fun _ => hcond.2) hended
  | case2 division hcond => exact hrest hended

theorem startDivision_divides {shift : ℕ} (hden : 0 < den) (hreach : den ≤ num * 10 ^ shift) :
    (startDivision (num * 10 ^ shift) den shift).Divides num den := by
  have hmod := Nat.mod_lt (num * 10 ^ shift) hden
  have hquotient : num * 10 ^ shift / den ≠ 0 := by
    have := Nat.div_pos hreach hden
    omega
  refine ⟨?_, ?_, Nat.succ_pos _, ?_, ?_⟩
  · have hsplit := Nat.div_add_mod (num * 10 ^ shift) den
    simp only [startDivision]
    calc 10 * (num * 10 ^ shift)
        = 10 * (den * (num * 10 ^ shift / den) + num * 10 ^ shift % den) := by rw [hsplit]
      _ = _ := by ring
  · simp only [startDivision]
    omega
  · exact Nat.pow_log_le_self 10 hquotient
  · exact Nat.lt_pow_succ_log_self (by decide) _

theorem LongDivision.Divides.toRat_rounded_eq_iff (hdiv : division.Divides num den) :
    (division.rounded den).toRat = (num : ℚ) / den ↔ division.remainder = 0 := by
  have hlt := hdiv.remainder_lt
  have hden : (den : ℚ) ≠ 0 := by
    have hne : den ≠ 0 := by omega
    exact_mod_cast hne
  have heq := hdiv.equation
  unfold toRat LongDivision.rounded
  rw [div_eq_div_iff (by positivity) hden]
  norm_cast
  dsimp only
  split
  next hzero => exact iff_of_true (by omega) hzero
  next hrest =>
    refine iff_of_false ?_ hrest
    rw [Nat.add_mul]
    unfold roundingTerm
    split <;> omega

theorem LongDivision.Divides.remainder_eq_zero {m k : ℕ} (hdiv : division.Divides num den)
    (hstop : division.remainder = 0 ∨ maxPrecision ≤ division.precision)
    (hprecision : 0 < maxPrecision) (hm : m < 10 ^ maxPrecision)
    (hdecimal : num * 10 ^ k = m * den) : division.remainder = 0 := by
  rcases hstop with hzero | hfull
  · exact hzero
  · have heq := hdiv.equation
    have hrest := hdiv.remainder_lt
    by_contra hne
    have hdenPos : 0 < den := by omega
    rcases Nat.lt_or_ge division.scale k with hpre | hafter
    · -- The digits that are still to come make the decimal too long.
      obtain ⟨j, hj⟩ := Nat.exists_eq_add_of_lt hpre
      have hten : 10 ^ k = 10 ^ division.scale * 10 ^ (j + 1) := by
        rw [← pow_add, hj, Nat.add_assoc]
      have hbound : division.quotient * 10 ^ (j + 1) ≤ m := by
        have hle : division.quotient * den ≤ num * 10 ^ division.scale := by
          omega
        have hscaled : division.quotient * 10 ^ (j + 1) * den ≤ m * den := by
          calc division.quotient * 10 ^ (j + 1) * den
              = division.quotient * den * 10 ^ (j + 1) := by ring
            _ ≤ num * 10 ^ division.scale * 10 ^ (j + 1) := Nat.mul_le_mul_right _ hle
            _ = num * 10 ^ k := by rw [hten, Nat.mul_assoc]
            _ = m * den := hdecimal
        exact Nat.le_of_mul_le_mul_right hscaled hdenPos
      have hlower : 10 ^ (maxPrecision - 1) ≤ division.quotient :=
        (Nat.pow_le_pow_right (by decide) (Nat.sub_le_sub_right hfull 1)).trans hdiv.lower
      have hlong : 10 ^ maxPrecision ≤ division.quotient * 10 ^ (j + 1) := by
        calc 10 ^ maxPrecision = 10 ^ (maxPrecision - 1) * 10 := by
              rw [← pow_succ, Nat.sub_add_cancel hprecision]
          _ ≤ division.quotient * 10 := Nat.mul_le_mul_right _ hlower
          _ ≤ division.quotient * 10 ^ (j + 1) :=
              Nat.mul_le_mul_left _ (Nat.le_self_pow (Nat.succ_ne_zero j) 10)
      omega
    · -- All digits of the decimal are there, so the denominator divides.
      obtain ⟨j, hj⟩ := Nat.exists_eq_add_of_le hafter
      have hscaled : num * 10 ^ division.scale = m * 10 ^ j * den := by
        rw [hj, pow_add, ← Nat.mul_assoc, hdecimal]
        ring
      rw [hscaled] at heq
      have hdvd : 10 * den ∣ division.remainder := by
        have hquotient : 10 * den ∣ 10 * (division.quotient * den) := ⟨division.quotient, by ring⟩
        rw [← Nat.dvd_add_right hquotient, ← heq]
        exact ⟨m * 10 ^ j, by ring⟩
      exact hne (Nat.eq_zero_of_dvd_of_lt hdvd hrest)

end LongDivision

theorem toRat_ofRatio_eq_iff {maxPrecision num den : ℕ}
    (hprecision : 0 < maxPrecision) (hden : 0 < den) (hcoprime : Nat.Coprime num den) :
    (ofRatio maxPrecision num den).toRat = (num : ℚ) / den ↔
      den = 1 ∨ ∃ m k, m < 10 ^ maxPrecision ∧ num * 10 ^ k = m * den := by
  by_cases hwhole : num = 0 ∨ den = 1
  · have hone : den = 1 := by
      rcases hwhole with rfl | hone
      · exact (Nat.coprime_zero_left den).mp hcoprime
      · exact hone
    refine ⟨fun _ => Or.inl hone, fun _ => ?_⟩
    unfold ofRatio
    rw [if_pos hwhole, hone]
    simp [toRat]
  · obtain ⟨hnum, hne⟩ := not_or.mp hwhole
    have hnumPos : 0 < num := Nat.pos_of_ne_zero hnum
    have hdistinct : num ≠ den := by
      rintro rfl
      exact hne ((Nat.coprime_self num).mp hcoprime)
    obtain ⟨shift, hshift, hreach, hlast⟩ := shiftNumerator_spec den num 0
    rw [zero_add] at hshift
    have hdiv := startDivision_divides hden (hreach hnumPos)
    have hvalue : ofRatio maxPrecision num den =
        ((startDivision (num * 10 ^ shift) den shift).extend maxPrecision den).rounded den := by
      unfold ofRatio divide
      rw [if_neg hwhole, if_neg hdistinct, if_neg hnum, hshift]
      dsimp only
      split
      next hzero =>
        rw [LongDivision.extend, if_neg (fun h => h.1 hzero), LongDivision.rounded, if_pos hzero]
      next => rfl
    have hextended := hdiv.extend maxPrecision
    rw [hvalue, hextended.toRat_rounded_eq_iff, or_iff_right hne]
    constructor
    · intro hended
      have heq := hextended.equation
      rw [hended, add_zero] at heq
      refine ⟨_, _, hextended.upper.trans_le (Nat.pow_le_pow_right (by decide) ?_),
        Nat.eq_of_mul_eq_mul_left (by decide) heq⟩
      refine LongDivision.extend_precision_le (fun hzero => ?_) hended
      have hdvd : den ∣ num * 10 ^ shift := by
        refine Nat.dvd_of_mod_eq_zero ?_
        simp only [startDivision] at hzero
        omega
      -- Without a shift the denominator would divide the numerator.
      have hshiftPos : 0 < shift := by
        rw [Nat.pos_iff_ne_zero]
        rintro rfl
        rw [pow_zero, mul_one] at hdvd
        exact hne (Nat.Coprime.eq_one_of_dvd hcoprime.symm hdvd)
      have hdigit : num * 10 ^ shift / den < 10 :=
        (Nat.div_lt_iff_lt_mul hden).mpr (hlast hshiftPos)
      simp only [startDivision, countDecimalDigits, Nat.log_of_lt hdigit]
      exact hprecision
    · rintro ⟨m, k, hm, hdecimal⟩
      exact hextended.remainder_eq_zero (LongDivision.extend_stops maxPrecision den _) hprecision
        hm hdecimal

/-! ## Text -/

def toChars (d : Decimal) : List Char :=
  let digits := Nat.toDigits 10 d.intVal
  if digits.length ≤ d.scale then
    '0' :: '.' :: (List.replicate (d.scale - digits.length) '0' ++ digits)
  else
    let location := digits.length - d.scale
    let after := digits.drop location
    if after.isEmpty then digits.take location
    else digits.take location ++ '.' :: after

def ofChars? (text : List Char) : Option Decimal :=
  let lead := text.takeWhile (· ≠ '.')
  let trail := (text.dropWhile (· ≠ '.')).tail
  let digits := lead ++ trail
  if digits ≠ [] ∧ digits.all Char.isDigit then
    some ⟨Nat.ofDigitChars 10 digits 0, trail.length⟩
  else none

theorem forall_ne_point {digits : List Char} (hdigits : ∀ c ∈ digits, c.isDigit = true) :
    ∀ c ∈ digits, decide (c ≠ '.') = true := by
  intro c hc
  refine decide_eq_true ?_
  rintro rfl
  exact absurd (hdigits _ hc) (by decide)

theorem ofChars?_point (lead : List Char) {trail : List Char} (hlead : ∀ c ∈ lead, c.isDigit = true)
    (htrail : ∀ c ∈ trail, c.isDigit = true) (hne : lead ++ trail ≠ []) :
    ofChars? (lead ++ '.' :: trail) =
      some ⟨Nat.ofDigitChars 10 (lead ++ trail) 0, trail.length⟩ := by
  have hpre : (lead ++ '.' :: trail).takeWhile (· ≠ '.') = lead := by
    rw [List.takeWhile_append_of_pos (forall_ne_point hlead)]
    simp
  have hafter : ((lead ++ '.' :: trail).dropWhile (· ≠ '.')).tail = trail := by
    rw [List.dropWhile_append_of_pos (forall_ne_point hlead)]
    simp
  have hdigits := List.forall_mem_append.mpr ⟨hlead, htrail⟩
  unfold ofChars?
  rw [hpre, hafter, if_pos ⟨hne, List.all_eq_true.mpr hdigits⟩]

theorem ofChars?_whole {digits : List Char} (hdigits : ∀ c ∈ digits, c.isDigit = true)
    (hne : digits ≠ []) : ofChars? digits = some ⟨Nat.ofDigitChars 10 digits 0, 0⟩ := by
  have hpoint := forall_ne_point hdigits
  have hpre : digits.takeWhile (· ≠ '.') = digits := List.takeWhile_eq_self_iff.mpr hpoint
  have hafter : digits.dropWhile (· ≠ '.') = [] := List.dropWhile_eq_nil_iff.mpr hpoint
  unfold ofChars?
  dsimp only
  rw [hpre, hafter, List.tail_nil, List.append_nil,
    if_pos ⟨hne, List.all_eq_true.mpr hdigits⟩, List.length_nil]

theorem ofChars?_toChars (d : Decimal) : ofChars? d.toChars = some d := by
  have hdigits : ∀ c ∈ Nat.toDigits 10 d.intVal, c.isDigit = true :=
    fun c hc => Nat.isDigit_of_mem_toDigits (by decide) (by decide) hc
  have hvalue : Nat.ofDigitChars 10 (Nat.toDigits 10 d.intVal) 0 = d.intVal :=
    Nat.ofDigitChars_ten_toDigits
  have hnonempty : Nat.toDigits 10 d.intVal ≠ [] :=
    List.ne_nil_of_length_pos Nat.length_toDigits_pos
  unfold toChars
  generalize Nat.toDigits 10 d.intVal = digits at *
  dsimp only
  split
  next hbehind =>
    have hzeros : ∀ c ∈ List.replicate (d.scale - digits.length) '0', c.isDigit = true := by
      intro c hc
      rw [List.eq_of_mem_replicate hc]
      rfl
    have hread := ofChars?_point ['0'] (by simp) (List.forall_mem_append.mpr ⟨hzeros, hdigits⟩)
      (by simp)
    rw [List.singleton_append] at hread
    rw [hread, List.singleton_append, Nat.ofDigitChars_cons,
      Nat.ofDigitChars_append, List.length_append, List.length_replicate,
      Nat.sub_add_cancel hbehind]
    have hlead : Nat.ofDigitChars 10 (List.replicate (d.scale - digits.length) '0') 0 = 0 := by
      simp [Nat.ofDigitChars_replicate_zero]
    rw [Nat.mul_zero, Nat.sub_self, Nat.zero_add, hlead, hvalue]
  next haround =>
    have hsplit := List.take_append_drop (digits.length - d.scale) digits
    have hlen : (digits.drop (digits.length - d.scale)).length = d.scale := by
      rw [List.length_drop]
      omega
    split
    next hempty =>
      have hafter := List.isEmpty_iff.mp hempty
      rw [hafter, List.append_nil] at hsplit
      rw [hafter, List.length_nil] at hlen
      rw [hsplit, ofChars?_whole hdigits hnonempty, hvalue, hlen]
    next hsome =>
      rw [ofChars?_point _ (fun c hc => hdigits c (List.mem_of_mem_take hc))
        (fun c hc => hdigits c (List.mem_of_mem_drop hc))
        (by rw [hsplit]; exact hnonempty), hsplit, hvalue, hlen]

/-! ## Signs -/

structure Signed where
  negative : Bool
  size : Decimal

namespace Signed

def toRat (d : Signed) : ℚ :=
  if d.negative then -d.size.toRat else d.size.toRat

def toText (d : Signed) : String :=
  String.ofList (if d.negative then '-' :: d.size.toChars else d.size.toChars)

def ofText? (text : String) : Option Signed :=
  match text.toList with
  | '-' :: digits => (ofChars? digits).map (⟨true, ·⟩)
  | digits => (ofChars? digits).map (⟨false, ·⟩)

theorem ofText?_toText (d : Signed) : ofText? d.toText = some d := by
  obtain ⟨negative, size⟩ := d
  have hread := ofChars?_toChars size
  unfold ofText? toText
  rw [String.toList_ofList]
  cases negative with
  | true => simp [hread]
  | false =>
    -- No decimal reads a sign among its digits.
    have hsign : ∀ digits, size.toChars ≠ '-' :: digits := by
      intro digits heq
      rw [heq] at hread
      simp [ofChars?] at hread
    simp [hread]

end Signed

end Decimal

end KdfProtocol
