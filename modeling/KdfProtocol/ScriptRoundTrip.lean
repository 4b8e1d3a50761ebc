import KdfProtocol.ScriptReader
import KdfProtocol.SwapScriptsV2

/-!
# The builder of scripts against their reader

Every step of the builder writes the bytes of one instruction, and the reader yields this
instruction again.  The lowest number has no bytes.
-/

namespace KdfProtocol

open BitcoinScript ScriptReader V2

/-! ## The steps of the builder -/

/-- None stands for a loop that goes on after these turns. -/
def numBytesLoop : ℕ → Int64 → Option Bytes
  | 0, value => if value = 0 then some [] else none
  | turns + 1, value =>
    if value = 0 then some []
    else (numBytesLoop turns (value >>> 8)).map (value.toUInt64.toUInt8 :: ·)

/-- The negation wraps around.  A loop that ends does so within eight turns. -/
def numToBytes (value : Int64) : Option Bytes :=
  if value = 0 then some []
  else
    (numBytesLoop 8 (if value < 0 then -value else value)).map fun out =>
      let last := out.getLastD 0
      if last &&& 0x80 ≠ 0 then out ++ [if value < 0 then 0x80 else 0]
      else if value < 0 then out.dropLast ++ [last ||| 0x80]
      else out

theorem toInt_shiftRight_eight (value : Int64) : (value >>> 8).toInt = value.toInt / 256 := by
  change (value.toBitVec.sshiftRight 8).toInt = _
  rw [BitVec.toInt_sshiftRight, Int.shiftRight_eq_div_pow]
  rfl

theorem eq_zero_iff_toInt {value : Int64} : value = 0 ↔ value.toInt = 0 := by
  rw [← Int64.toInt_inj]
  rfl

/-- The loop over the bytes of a negative number does not end. -/
theorem numBytesLoop_of_neg {value : Int64} (hneg : value.toInt < 0) (turns : ℕ) :
    numBytesLoop turns value = none := by
  have hne : value ≠ 0 := fun heq => by
    rw [eq_zero_iff_toInt.mp heq] at hneg
    omega
  induction turns generalizing value with
  | zero => exact if_neg hne
  | succ turns ih =>
    have hshift := toInt_shiftRight_eight value
    rw [numBytesLoop, if_neg hne, ih (by omega) (fun heq => ?_), Option.map_none]
    rw [eq_zero_iff_toInt.mp heq] at hshift
    omega

theorem numBytesLoop_ends {value : Int64} {turns : ℕ} (hnonneg : 0 ≤ value.toInt)
    (hlt : value.toInt < 256 ^ turns) :
    ∃ bytes ∈ numBytesLoop turns value, bytes.length ≤ turns := by
  induction turns generalizing value with
  | zero => exact ⟨[], if_pos (eq_zero_iff_toInt.mpr (by omega)), le_rfl⟩
  | succ turns ih =>
    have hshift := toInt_shiftRight_eight value
    rw [pow_succ] at hlt
    obtain ⟨bytes, hbytes, hlen⟩ := @ih (value >>> 8) (by omega) (by omega)
    rw [numBytesLoop]
    split_ifs
    · exact ⟨[], rfl, Nat.zero_le _⟩
    · exact ⟨_, Option.mem_map_of_mem _ hbytes, Nat.succ_le_succ hlen⟩

/-- The lowest number is negative after the negation, too. -/
theorem numToBytes_minValue : numToBytes Int64.minValue = none := by
  have hloop := @numBytesLoop_of_neg Int64.minValue (by decide) 8
  have hnegated : (if Int64.minValue < 0 then -Int64.minValue else Int64.minValue) =
      Int64.minValue := by decide
  rw [numToBytes, if_neg (by decide), hnegated, hloop, Option.map_none]

inductive BuilderStep where
  | pushOpcode (code : UInt8)
  | pushBytes (bytes : Bytes)
  | pushData (data : Bytes)
  | pushNum (value : Int64)

namespace BuilderStep

def apply (builder : Builder) : BuilderStep → Builder
  | pushOpcode code => ⟨builder.data.map (· ++ [code])⟩
  | pushBytes bytes => builder.pushBytes bytes
  | pushData data => builder.pushData data
  | pushNum value => ⟨(numToBytes value).bind fun bytes => (builder.pushData bytes).data⟩

def Valid : BuilderStep → Prop
  | pushOpcode code => unassigned code = false ∧ 0x4e < code.toNat
  | pushBytes bytes => 1 ≤ bytes.length ∧ bytes.length ≤ 75
  | pushData data => data.length < 2 ^ 32
  | pushNum _ => True

/-- The instruction has the opcode, or the payload, that the step pushed. -/
def Pushed : BuilderStep → ReadInstruction → Prop
  | pushOpcode code, instruction => instruction = ⟨code, none⟩
  | pushBytes bytes, instruction => instruction.data = some bytes
  | pushData data, instruction => instruction.data = some data
  | pushNum value, instruction => ∃ bytes ∈ numToBytes value, instruction.data = some bytes

end BuilderStep

def ScriptReader.ReadInstruction.step (instruction : ReadInstruction) : ℕ :=
  1 + lengthWidth instruction.opcode + (instruction.data.getD []).length

/-- The reader yields one instruction for each step, up to the end of the script. -/
def ReadBack (steps : List BuilderStep) : Prop :=
  ∃ script instructions, (steps.foldl BuilderStep.apply .empty).intoScript = some script ∧
    iter script = instructions.map some ∧ List.Forall₂ BuilderStep.Pushed steps instructions ∧
    (instructions.map ReadInstruction.step).sum = script.length

/-- The instructions are the bytes up to the end of the script or to an error. -/
def Covered (script : Script) : Prop :=
  ∃ (instructions : List ReadInstruction) (rest : Script),
    script = instructions.flatMap ReadInstruction.bytes ++ rest ∧
    iter script = instructions.map some ++ (if rest = [] then [] else [none]) ∧
    (instructions.map ReadInstruction.step).sum ≤ script.length

theorem sum_step (instructions : List ReadInstruction) :
    (instructions.map ReadInstruction.step).sum =
      (instructions.flatMap ReadInstruction.bytes).length := by
  have hstep (instruction : ReadInstruction) : instruction.bytes.length = instruction.step := by
    simp [ReadInstruction.bytes, ReadInstruction.step]
    omega
  simp [List.length_flatMap, hstep]

/-! ## One step -/

/-- A step that appends the bytes of an instruction, where the reader finds it. -/
def Writes (step : BuilderStep) (instruction : ReadInstruction) : Prop :=
  step.Pushed instruction ∧ Yields instruction.bytes [instruction] ∧
    ∀ script, step.apply ⟨some script⟩ = ⟨some (script ++ instruction.bytes)⟩

section Data

variable {data : Bytes}

theorem bytes_directPush (hlen : data.length ≤ 75) :
    (directPush data).bytes = UInt8.ofNat data.length :: data := by
  have hother := @ofNat_length_ne data hlen
  simp [ReadInstruction.bytes, directPush, lengthWidth, hother, writeLe]

theorem yields_directPush (hlen : data.length ≤ 75) :
    Yields (directPush data).bytes [directPush data] := by
  rw [bytes_directPush hlen]
  exact .push hlen

theorem writes_sized {code : UInt8}
    (hcode : ∀ rest, instructionAt code rest = sizedPayload code (lengthWidth code) rest)
    (hlen : data.length < 256 ^ lengthWidth code)
    (hwrite : ∀ script : Script, (Builder.pushData ⟨some script⟩ data).data =
      some (script ++ ReadInstruction.bytes ⟨code, some data⟩)) :
    Writes (.pushData data) ⟨code, some data⟩ := by
  refine ⟨rfl, .of_instructionAt fun rest => ?_, fun script => congrArg Builder.mk (hwrite script)⟩
  rw [hcode, sizedPayload, if_pos (by simp), Option.getD_some, List.append_assoc,
    List.take_left' (length_writeLe ..), List.drop_left' (length_writeLe ..),
    readLe_writeLe hlen, payload, if_pos (by simp), List.take_left, List.drop_left]

theorem writes_pushData (hlen : data.length < 2 ^ 32) :
    ∃ instruction, Writes (.pushData data) instruction := by
  by_cases hdirect : data.length < 0x4c
  · have hshort := Nat.le_of_lt_succ hdirect
    refine ⟨directPush data, rfl, yields_directPush hshort, fun script => ?_⟩
    simp [BuilderStep.apply, Builder.pushData, hdirect, bytes_directPush hshort]
  by_cases hone : data.length ≤ 0xff
  · refine ⟨_, @writes_sized data 0x4c (fun _ => rfl) (Nat.lt_succ_of_le hone) fun _ => ?_⟩
    simp [Builder.pushData, hdirect, hone, ReadInstruction.bytes, lengthWidth]
  by_cases htwo : data.length ≤ 0xffff
  · refine ⟨_, @writes_sized data 0x4d (fun _ => rfl) (Nat.lt_succ_of_le htwo) fun _ => ?_⟩
    simp [Builder.pushData, hdirect, hone, htwo, ReadInstruction.bytes, lengthWidth]
  · have hfour : data.length ≤ 0xffffffff := Nat.le_of_lt_succ hlen
    refine ⟨_, @writes_sized data 0x4e (fun _ => rfl) hlen fun _ => ?_⟩
    simp [Builder.pushData, hdirect, hone, htwo, hfour, ReadInstruction.bytes, lengthWidth]

end Data

theorem exists_numToBytes {value : Int64} (hvalue : value ≠ Int64.minValue) :
    ∃ bytes ∈ numToBytes value, bytes.length ≤ 9 := by
  by_cases hzero : value = 0
  · exact ⟨[], if_pos hzero, by decide⟩
  · have hlowest : value.toInt ≠ -2 ^ 63 := fun heq => hvalue (Int64.toInt_inj.mp heq)
    have hsize : 0 ≤ (if value < 0 then -value else value).toInt := by
      have hle := value.le_toInt
      split_ifs with hneg <;> rw [Int64.lt_iff_toInt_lt, Int64.toInt_zero] at hneg
      · rw [Int64.toInt_neg, Int.bmod_eq_of_le] <;> omega
      · omega
    have hbound := (if value < 0 then -value else value).toInt_lt
    obtain ⟨out, hout, hlen⟩ := @numBytesLoop_ends _ 8 hsize (by omega)
    rw [numToBytes, if_neg hzero, Option.mem_def.mp hout]
    refine ⟨_, rfl, ?_⟩
    dsimp only
    split_ifs <;> grind

theorem exists_writes {step : BuilderStep} (hvalid : step.Valid)
    (hnum : step ≠ .pushNum Int64.minValue) : ∃ instruction, Writes step instruction := by
  cases step with
  | pushOpcode code =>
    obtain ⟨hassigned, hcode⟩ := hvalid
    have hother (other : UInt8) (hle : other.toNat ≤ 0x4e) : code ≠ other := by
      rintro rfl
      omega
    have hbytes : ReadInstruction.bytes ⟨code, none⟩ = [code] := by
      simp [ReadInstruction.bytes, lengthWidth, hother, writeLe]
    refine ⟨⟨code, none⟩, rfl, ?_, fun script => ?_⟩
    · rw [hbytes]
      refine .of_instructionAt fun rest => ?_
      simp [instructionAt, hassigned, hother, show ¬ code.toNat ≤ 75 by omega]
    · rw [hbytes]
      rfl
  | pushBytes bytes =>
    refine ⟨directPush bytes, rfl, yields_directPush hvalid.2, fun script => ?_⟩
    rw [bytes_directPush hvalid.2]
    exact congrArg Builder.mk (if_pos hvalid)
  | pushData data => exact writes_pushData hvalid
  | pushNum value =>
    have hvalue : value ≠ Int64.minValue := fun heq => hnum (congrArg _ heq)
    obtain ⟨bytes, hbytes, hlen⟩ := exists_numToBytes hvalue
    obtain ⟨instruction, hpushed, hyields, happly⟩ := @writes_pushData bytes (by omega)
    refine ⟨instruction, ⟨bytes, hbytes, hpushed⟩, hyields, fun script => ?_⟩
    rw [BuilderStep.apply, Option.mem_def.mp hbytes]
    exact happly script

/-! ## Sequences of steps -/

section Steps

variable {steps : List BuilderStep}

theorem foldl_apply_writes (hvalid : ∀ step ∈ steps, step.Valid)
    (hnum : ∀ step ∈ steps, step ≠ .pushNum Int64.minValue) (script : Script) :
    ∃ instructions, List.Forall₂ BuilderStep.Pushed steps instructions ∧
      Yields (instructions.flatMap ReadInstruction.bytes) instructions ∧
      steps.foldl BuilderStep.apply ⟨some script⟩ =
        ⟨some (script ++ instructions.flatMap ReadInstruction.bytes)⟩ := by
  induction steps generalizing script with
  | nil => exact ⟨[], .nil, fun rest => rfl, by simp⟩
  | cons step steps ih =>
    rw [List.forall_mem_cons] at hvalid hnum
    obtain ⟨first, hpushed, hyields, happly⟩ := exists_writes hvalid.1 hnum.1
    obtain ⟨others, hrest, hlater, hfold⟩ := ih hvalid.2 hnum.2 (script ++ first.bytes)
    refine ⟨first :: others, .cons hpushed hrest, hyields.append hlater, ?_⟩
    rw [List.foldl_cons, happly, hfold, List.flatMap_cons, List.append_assoc]

theorem foldl_apply_none : steps.foldl BuilderStep.apply ⟨none⟩ = ⟨none⟩ := by
  induction steps with
  | nil => rfl
  | cons step steps ih =>
    have hnone : step.apply ⟨none⟩ = ⟨none⟩ := by
      cases step with
      | pushNum value => exact congrArg Builder.mk (Option.bind_eq_none_iff.mpr fun _ _ => rfl)
      | _ => rfl
    rw [List.foldl_cons, hnone, ih]

theorem foldl_apply_lowest {builder : Builder} (hmem : .pushNum Int64.minValue ∈ steps) :
    steps.foldl BuilderStep.apply builder = ⟨none⟩ := by
  obtain ⟨before, after, rfl⟩ := List.append_of_mem hmem
  rw [List.foldl_append, List.foldl_cons, BuilderStep.apply, numToBytes_minValue]
  exact foldl_apply_none

theorem covered (script : Script) : Covered script := by
  induction hlen : script.length using Nat.strong_induction_on generalizing script with
  | _ length ih =>
    cases script with
    | nil => exact ⟨[], [], rfl, rfl, le_rfl⟩
    | cons code rest =>
      cases hread : instructionAt code rest with
      | none => exact ⟨[], code :: rest, rfl, by simp [iter, iterFrom, hread], Nat.zero_le _⟩
      | some result =>
        obtain ⟨first, later⟩ := result
        obtain ⟨hbytes, -⟩ := instructionAt_eq_some hread
        have hlater := length_le_of_instructionAt hread
        rw [List.length_cons] at hlen
        obtain ⟨others, unread, rfl, hiter, -⟩ := ih later.length (by omega) later rfl
        have hscript : code :: rest =
            (first :: others).flatMap ReadInstruction.bytes ++ unread := by
          rw [hbytes, List.flatMap_cons, List.append_assoc]
        refine ⟨first :: others, unread, hscript, ?_, ?_⟩
        · rw [iter_cons hread, hiter, List.map_cons, List.cons_append]
        · rw [sum_step, hscript, List.length_append]
          exact Nat.le_add_right ..

/-- The reader inverts the builder unless a step pushes the lowest number.  On any bytes it
stops, and what it yields are the bytes up to the first error. -/
theorem builder_reader_inverse {steps : List BuilderStep}
    (hvalid : ∀ step ∈ steps, step.Valid) :
    (ReadBack steps ↔ ∀ step ∈ steps, step ≠ .pushNum Int64.minValue) ∧
    ∀ script : Script, (∀ fuel ≥ script.length, iterFrom fuel script = iter script) ∧
      Covered script := by
  refine ⟨⟨?_, fun hnum => ?_⟩,
    fun script => ⟨fun _ hfuel => iterFrom_eq_iterFrom hfuel le_rfl, covered script⟩⟩
  · rintro ⟨script, instructions, hbuilt, -⟩ step hmem rfl
    rw [foldl_apply_lowest hmem] at hbuilt
    cases hbuilt
  · obtain ⟨instructions, hpushed, hyields, hbuilt⟩ := foldl_apply_writes hvalid hnum []
    refine ⟨_, instructions, congrArg Builder.intoScript hbuilt, ?_, hpushed, sum_step _⟩
    simpa [iter, iterFrom] using hyields []

end Steps

theorem negative_number_read_back :
    ReadBack [.pushOpcode OP_RETURN, .pushData [1, 2], .pushNum (-1)] :=
  (builder_reader_inverse (by simp [BuilderStep.Valid]; decide)).1.mpr (by simp)

theorem lowest_number_not_read_back : ¬ ReadBack [.pushNum Int64.minValue] := by
  rintro ⟨script, instructions, hbuilt, -⟩
  rw [foldl_apply_lowest List.mem_cons_self] at hbuilt
  cases hbuilt

end KdfProtocol
