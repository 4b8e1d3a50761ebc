import KdfProtocol.WireCodec

/-!
# The reader of scripts

The coins do not run the scripts of a transaction, they look at single
instructions.  The reader yields the opcodes with what they push, up to the first
byte that is no opcode or lacks its data.  The scripts of inputs that spend by the
hash of a script consist of pushes, and of these the reader yields what the
consensus runs.
-/

namespace KdfProtocol

open BitcoinScript WireCodec

namespace ScriptReader

def OP_0 : UInt8 := 0x00
def OP_PUSHBYTES_32 : UInt8 := 0x20
def OP_1 : UInt8 := 0x51
def OP_RETURN : UInt8 := 0x6a

theorem pushBytes32_le : OP_PUSHBYTES_32.toNat ≤ 75 := by decide

structure ReadInstruction where
  opcode : UInt8
  data : Option (List UInt8)
  deriving DecidableEq

def unassigned (code : UInt8) : Bool :=
  (0xba ≤ code.toNat ∧ code.toNat ≤ 0xc0) ∨ 0xc5 ≤ code.toNat

def payload (code : UInt8) (length : ℕ) (rest : Script) : Option (ReadInstruction × Script) :=
  if length ≤ rest.length then
    some (⟨code, some (rest.take length)⟩, rest.drop length)
  else none

/-- A payload whose length stands in so many bytes before it. -/
def sizedPayload (code : UInt8) (width : ℕ) (rest : Script) : Option (ReadInstruction × Script) :=
  if width ≤ rest.length then
    payload code (readLe (rest.take width)) (rest.drop width)
  else none

def instructionAt (code : UInt8) (rest : Script) : Option (ReadInstruction × Script) :=
  if unassigned code then none
  else if code = 0x4c then sizedPayload code 1 rest
  else if code = 0x4d then sizedPayload code 2 rest
  else if code = 0x4e then sizedPayload code 4 rest
  else if code.toNat ≤ 75 then payload code code.toNat rest
  else some (⟨code, none⟩, rest)

/-- The results of the iterator; an error is the last one. -/
def iterFrom : ℕ → Script → List (Option ReadInstruction)
  | _, [] | 0, _ :: _ => []
  | fuel + 1, code :: rest =>
    match instructionAt code rest with
    | none => [none]
    | some (instruction, later) => some instruction :: iterFrom fuel later

def iter (script : Script) : List (Option ReadInstruction) :=
  iterFrom script.length script

def getInstruction (script : Script) (n : ℕ) : Option (Option ReadInstruction) :=
  (iter script)[n]?

def opcodeAt (script : Script) (n : ℕ) : Option UInt8 :=
  (getInstruction script n).join.map ReadInstruction.opcode

/-! ## What is read -/

def ReadInstruction.WellFormed (instruction : ReadInstruction) : Prop :=
  instruction.opcode.toNat ≤ 75 →
    ∃ data, instruction.data = some data ∧ data.length = instruction.opcode.toNat

variable {code : UInt8} {rest later script : Script} {instruction : ReadInstruction}

def lengthWidth (code : UInt8) : ℕ :=
  if code = 0x4c then 1
  else if code = 0x4d then 2
  else if code = 0x4e then 4
  else 0

def ReadInstruction.bytes (instruction : ReadInstruction) : Script :=
  let data := instruction.data.getD []
  instruction.opcode :: (writeLe (lengthWidth instruction.opcode) data.length ++ data)

theorem payload_eq_some {length : ℕ}
    (hread : payload code length rest = some (instruction, later)) :
    ∃ data, instruction = ⟨code, some data⟩ ∧ data.length = length ∧ rest = data ++ later := by
  obtain ⟨hle, hread⟩ := Option.ite_none_right_eq_some.mp hread
  cases hread
  exact ⟨_, rfl, List.length_take_of_le hle, (List.take_append_drop ..).symm⟩

theorem sizedPayload_eq_some (hread : sizedPayload code (lengthWidth code) rest =
    some (instruction, later)) : code :: rest = instruction.bytes ++ later := by
  obtain ⟨hle, hread⟩ := Option.ite_none_right_eq_some.mp hread
  obtain ⟨data, rfl, hlen, hdata⟩ := payload_eq_some hread
  have hlength := writeLe_readLe (rest.take (lengthWidth code))
  rw [List.length_take_of_le hle, ← hlen] at hlength
  rw [ReadInstruction.bytes, Option.getD_some, hlength, List.cons_append, List.append_assoc,
    ← hdata, List.take_append_drop]

theorem instructionAt_eq_some (hread : instructionAt code rest = some (instruction, later)) :
    code :: rest = instruction.bytes ++ later ∧ instruction.WellFormed := by
  have hsized : ∀ width, lengthWidth code = width → 75 < code.toNat →
      sizedPayload code width rest = some (instruction, later) →
        code :: rest = instruction.bytes ++ later ∧ instruction.WellFormed := by
    rintro _ rfl hcode hread
    refine ⟨sizedPayload_eq_some hread, ?_⟩
    obtain ⟨-, hread⟩ := Option.ite_none_right_eq_some.mp hread
    obtain ⟨data, rfl, -, -⟩ := payload_eq_some hread
    exact fun hle => absurd hle (Nat.not_le.mpr hcode)
  unfold instructionAt at hread
  split at hread
  · cases hread
  split at hread
  · next hcode => subst hcode; exact hsized 1 rfl (by decide) hread
  split at hread
  · next hcode => subst hcode; exact hsized 2 rfl (by decide) hread
  split at hread
  · next hcode => subst hcode; exact hsized 4 rfl (by decide) hread
  next hone htwo hfour =>
    have hwidth : lengthWidth code = 0 := by
      rw [lengthWidth, if_neg hone, if_neg htwo, if_neg hfour]
    split at hread
    · obtain ⟨data, rfl, hlen, rfl⟩ := payload_eq_some hread
      exact ⟨by simp [ReadInstruction.bytes, hwidth, writeLe], fun _ => ⟨data, rfl, hlen⟩⟩
    · next hcode =>
        cases hread
        exact ⟨by simp [ReadInstruction.bytes, hwidth, writeLe], fun hle => absurd hle hcode⟩

theorem length_le_of_instructionAt (hread : instructionAt code rest = some (instruction, later)) :
    later.length ≤ rest.length := by
  have hlength := congrArg List.length (instructionAt_eq_some hread).1
  simp only [ReadInstruction.bytes, List.cons_append, List.length_cons,
    List.length_append] at hlength
  omega

theorem wellFormed_of_mem_iterFrom {fuel : ℕ} (hmem : some instruction ∈ iterFrom fuel script) :
    instruction.WellFormed := by
  induction fuel generalizing script with
  | zero => cases script <;> cases hmem
  | succ fuel ih =>
    cases script with
    | nil => cases hmem
    | cons code rest =>
      rw [iterFrom] at hmem
      split at hmem
      · simp at hmem
      · next first later hread =>
          rcases List.mem_cons.mp hmem with heq | hlater
          · cases heq
            exact (instructionAt_eq_some hread).2
          · exact ih hlater

theorem wellFormed_of_getInstruction {n : ℕ}
    (hget : getInstruction script n = some (some instruction)) : instruction.WellFormed :=
  wellFormed_of_mem_iterFrom (List.mem_of_getElem? hget)

/-! ## Scripts in front of others -/

theorem iterFrom_eq_iterFrom {fuel enough : ℕ} (hfuel : script.length ≤ fuel)
    (henough : script.length ≤ enough) : iterFrom fuel script = iterFrom enough script := by
  induction fuel generalizing script enough with
  | zero => rw [List.eq_nil_of_length_eq_zero (Nat.le_zero.mp hfuel), iterFrom, iterFrom]
  | succ fuel ih =>
    cases script with
    | nil => rw [iterFrom, iterFrom]
    | cons code rest =>
      cases enough with
      | zero => cases henough
      | succ enough =>
        rw [iterFrom, iterFrom]
        cases hread : instructionAt code rest with
        | none => rfl
        | some result =>
          have hlater := length_le_of_instructionAt hread
          exact congrArg _ (ih (hlater.trans (Nat.le_of_succ_le_succ hfuel))
            (hlater.trans (Nat.le_of_succ_le_succ henough)))

def Yields (script : Script) (instructions : List ReadInstruction) : Prop :=
  ∀ rest, iter (script ++ rest) = instructions.map some ++ iter rest

theorem Yields.append {first second : Script}
    {instructions others : List ReadInstruction} (hfirst : Yields first instructions)
    (hsnd : Yields second others) : Yields (first ++ second) (instructions ++ others) := by
  intro rest
  rw [List.append_assoc, hfirst, hsnd, List.map_append, List.append_assoc]

theorem iter_cons (hread : instructionAt code rest = some (instruction, later)) :
    iter (code :: rest) = some instruction :: iter later := by
  have hlater := length_le_of_instructionAt hread
  rw [iter, List.length_cons, iterFrom, hread]
  dsimp only
  rw [iterFrom_eq_iterFrom hlater le_rfl, iter]

theorem Yields.of_instructionAt (hread : ∀ rest, instructionAt code (script ++ rest) =
      some (instruction, rest)) : Yields (code :: script) [instruction] :=
  fun rest => iter_cons (hread rest)

def directPush (bytes : List UInt8) : ReadInstruction :=
  ⟨UInt8.ofNat bytes.length, some bytes⟩

theorem ofNat_length_ne {bytes : List UInt8} (hlen : bytes.length ≤ 75) (code : UInt8)
    (hcode : 75 < code.toNat) : UInt8.ofNat bytes.length ≠ code := by
  rintro rfl
  rw [UInt8.toNat_ofNat_of_lt' (lt_of_le_of_lt hlen (by decide))] at hcode
  omega

theorem Yields.push {bytes : List UInt8} (hlen : bytes.length ≤ 75) :
    Yields (UInt8.ofNat bytes.length :: bytes) [directPush bytes] := by
  have hcode : (UInt8.ofNat bytes.length).toNat = bytes.length :=
    UInt8.toNat_ofNat_of_lt' (lt_of_le_of_lt hlen (by decide))
  have hother := @ofNat_length_ne bytes hlen
  refine .of_instructionAt fun rest => ?_
  have hassigned : unassigned (UInt8.ofNat bytes.length) = false := by
    simp only [unassigned, hcode, decide_eq_false_iff_not]
    omega
  rw [instructionAt, hassigned, if_neg Bool.false_ne_true,
    if_neg (hother 0x4c (by decide)), if_neg (hother 0x4d (by decide)),
    if_neg (hother 0x4e (by decide)), if_pos (by omega), payload, hcode,
    if_pos (by simp), List.take_left, List.drop_left, directPush]

end ScriptReader

end KdfProtocol
