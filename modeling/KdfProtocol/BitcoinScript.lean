import Mathlib.Data.List.Basic
import Mathlib.Tactic

/-!
# Bitcoin Script

Scripts are bytes: pushes of data and opcodes.  A script is read as a list of
instructions, which run on a stack of byte strings; `OP_IF` chooses what is
executed up to the matching `OP_ENDIF`.  The opcodes are those of hashed time lock
contracts and of all pushes; every other one ends the script.  The limits of the
size of a script, of its pushes and of its operations are those of the consensus,
which takes pushes and numbers in any encoding.  Hash functions and the check of
signatures are parameters.
-/

namespace KdfProtocol

namespace BitcoinScript

abbrev Script := List UInt8

inductive Opcode where
  | op0
  | op1
  | opIf
  | opElse
  | opEndif
  | opDrop
  | opSize
  | opEqual
  | opEqualverify
  | opHash160
  | opChecksig
  | opChecksigverify
  | opChecklocktimeverify
  deriving DecidableEq

def Opcode.code : Opcode → UInt8
  | .op0 => 0x00
  | .op1 => 0x51
  | .opIf => 0x63
  | .opElse => 0x67
  | .opEndif => 0x68
  | .opDrop => 0x75
  | .opSize => 0x82
  | .opEqual => 0x87
  | .opEqualverify => 0x88
  | .opHash160 => 0xa9
  | .opChecksig => 0xac
  | .opChecksigverify => 0xad
  | .opChecklocktimeverify => 0xb1

def Opcode.all : List Opcode :=
  [.op1, .opIf, .opElse, .opEndif, .opDrop, .opSize, .opEqual, .opEqualverify,
    .opHash160, .opChecksig, .opChecksigverify, .opChecklocktimeverify]

inductive Instruction where
  | push (data : List UInt8)
  | op (opcode : Opcode)
  | other (code : UInt8)
  deriving DecidableEq

open Instruction

/-- What an opcode is read as: the code zero is a push of no bytes. -/
def Opcode.instruction : Opcode → Instruction
  | .op0 => .push []
  | opcode => .op opcode

/-! ## Reading a script -/

def readLe (bytes : List UInt8) : ℕ :=
  bytes.foldr (fun byte rest => byte.toNat + 256 * rest) 0

def readPush (length : ℕ) (rest : Script) : Option (Instruction × Script) :=
  if length ≤ rest.length then some (.push (rest.take length), rest.drop length)
  else none

def readSizedPush (width : ℕ) (rest : Script) : Option (Instruction × Script) :=
  if width ≤ rest.length then
    readPush (readLe (rest.take width)) (rest.drop width)
  else none

def readInstruction (code : UInt8) (rest : Script) : Option (Instruction × Script) :=
  if code.toNat ≤ 75 then readPush code.toNat rest
  else if code = 0x4c then readSizedPush 1 rest
  else if code = 0x4d then readSizedPush 2 rest
  else if code = 0x4e then readSizedPush 4 rest
  else
    match Opcode.all.find? (fun opcode => opcode.code = code) with
    | some opcode => some (.op opcode, rest)
    | none => some (.other code, rest)

def decodeFrom : ℕ → Script → Option (List Instruction)
  | _, [] => some []
  | 0, _ :: _ => none
  | fuel + 1, code :: rest =>
    (readInstruction code rest).bind fun (instruction, later) =>
      (decodeFrom fuel later).map (instruction :: ·)

def decode (script : Script) : Option (List Instruction) :=
  decodeFrom script.length script

/-! ## Running a script -/

/-- What a script can ask: the hash functions, whether a signature of a key is
valid for the transaction, and the fields of the transaction that lock it. -/
structure Context where
  hash160 : List UInt8 → List UInt8
  checkSig : List UInt8 → List UInt8 → Bool
  lockTime : ℕ
  sequence : ℕ

variable (ctx : Context) (script : Script)

def sequenceFinal : ℕ := 0xffffffff

def lockTimeThreshold : ℕ := 500000000

/-- Zero is false, also with a sign. -/
def castToBool : List UInt8 → Bool
  | [] => false
  | [last] => last ≠ 0 ∧ last ≠ 0x80
  | byte :: rest => byte ≠ 0 || castToBool rest

def ofBool (b : Bool) : List UInt8 :=
  if b then [1] else []

/-- The number of a byte string: at most five bytes, the sign in the highest
bit. -/
def decodeNum (bytes : List UInt8) : Option ℤ :=
  match bytes.reverse with
  | [] => some 0
  | top :: lower =>
    if 5 < bytes.length then none
    else if 128 ≤ top.toNat then
      some (-(readLe (lower.reverse ++ [top - 0x80])))
    else some (readLe bytes)

def encodeNat (n : ℕ) : List UInt8 :=
  let digits := (Nat.digits 256 n).map UInt8.ofNat
  if digits.getLast?.any fun top => 128 ≤ top.toNat then digits ++ [0]
  else digits

/-- A lock time is reached if the transaction is locked by the same kind of
number, up to it at least, and the input is not final. -/
def Context.checkLockTime (lockTime : ℤ) : Bool :=
  0 ≤ lockTime ∧
    ((ctx.lockTime < lockTimeThreshold ∧ lockTime < lockTimeThreshold) ∨
      (lockTimeThreshold ≤ ctx.lockTime ∧ lockTimeThreshold ≤ lockTime)) ∧
    lockTime ≤ ctx.lockTime ∧ ctx.sequence ≠ sequenceFinal

def execute : Opcode → List (List UInt8) → Option (List (List UInt8))
  | .op0, stack => some ([] :: stack)
  | .op1, stack => some ([1] :: stack)
  | .opDrop, _ :: stack => some stack
  | .opSize, top :: stack => some (encodeNat top.length :: top :: stack)
  | .opEqual, a :: b :: stack => some (ofBool (a = b) :: stack)
  | .opEqualverify, a :: b :: stack => if a = b then some stack else none
  | .opHash160, top :: stack => some (ctx.hash160 top :: stack)
  | .opChecksig, pub :: sig :: stack => some (ofBool (ctx.checkSig sig pub) :: stack)
  | .opChecksigverify, pub :: sig :: stack =>
    if ctx.checkSig sig pub then some stack else none
  | .opChecklocktimeverify, top :: stack =>
    if (decodeNum top).any ctx.checkLockTime then some (top :: stack) else none
  | _, _ => none

/-- The stack, the conditions around the current position, the innermost first,
and what every executed `OP_IF` has chosen, in order. -/
structure EvalState where
  stack : List (List UInt8)
  conditions : List Bool
  choices : List Bool

def smallNumber (code : UInt8) : Option (List UInt8) :=
  if code = 0x4f then some [0x81]
  else if 0x52 ≤ code.toNat ∧ code.toNat ≤ 0x60 then some [code - 0x50]
  else none

def EvalState.executing (s : EvalState) : Bool :=
  s.conditions.all id

def step (s : EvalState) : Instruction → Option EvalState
  | .push data =>
    if s.executing then some { s with stack := data :: s.stack } else some s
  | .op .opIf =>
    if s.executing then
      match s.stack with
      | [] => none
      | top :: rest => some
          { stack := rest
            conditions := castToBool top :: s.conditions
            choices := s.choices ++ [castToBool top] }
    else some { s with conditions := false :: s.conditions }
  | .op .opElse =>
    match s.conditions with
    | [] => none
    | condition :: outer => some { s with conditions := (!condition) :: outer }
  | .op .opEndif =>
    match s.conditions with
    | [] => none
    | _ :: outer => some { s with conditions := outer }
  | .op opcode =>
    if s.executing then
      (execute ctx opcode s.stack).map fun stack => { s with stack := stack }
    else some s
  | .other code =>
    (smallNumber code).map fun data =>
      if s.executing then { s with stack := data :: s.stack } else s

def runFrom (ctx : Context) (s : EvalState) : List Instruction → Option EvalState
  | [] => some s
  | instruction :: rest =>
    (step ctx s instruction).bind fun next =>
      if next.stack.length ≤ 1000 then runFrom ctx next rest else none

def Instruction.isPush : Instruction → Bool
  | .push _ | .op .op0 | .op .op1 => true
  | .other code => (smallNumber code).isSome
  | _ => false

def Instruction.small : Instruction → Bool
  | .push data => data.length ≤ 520
  | _ => true

def withinLimits (instructions : List Instruction) : Bool :=
  script.length ≤ 10000 ∧ instructions.all Instruction.small ∧
    (instructions.countP fun instruction => !instruction.isPush) ≤ 201

/-- The stack after a script, and the choices of its conditions. -/
def eval (stack : List (List UInt8)) : Option (List (List UInt8) × List Bool) :=
  (decode script).bind fun instructions =>
    if withinLimits script instructions then
      (runFrom ctx ⟨stack, [], []⟩ instructions).bind fun final =>
        if final.conditions = [] then some (final.stack, final.choices) else none
    else none

def isPushOnly : Bool :=
  (decode script).any fun instructions => instructions.all Instruction.isPush

/-- Spends an output that is locked by the hash of a script: the last push is that
script, and it has to leave a true value.  The result is what the conditions of
the script have chosen. -/
def verifyP2sh (scriptSig : Script) (scriptHash : List UInt8) : Option (List Bool) :=
  if isPushOnly scriptSig then
    (eval ctx scriptSig []).bind fun (stack, _) =>
      match stack with
      | [] => none
      | redeem :: rest =>
        if ctx.hash160 redeem = scriptHash then
          (eval ctx redeem rest).bind fun (final, choices) =>
            if final.head?.any castToBool then some choices else none
        else none
  else none

/-! ## Scripts that are written piece by piece -/

variable {rest later : Script} {instruction : Instruction} {width : ℕ} {data : List UInt8}

theorem length_readPush {length : ℕ} (hread : readPush length rest = some (instruction, later)) :
    later.length ≤ rest.length := by
  unfold readPush at hread
  split at hread
  · cases hread
    rw [List.length_drop]
    exact Nat.sub_le _ _
  · cases hread

theorem length_readSizedPush (hread : readSizedPush width rest = some (instruction, later)) :
    later.length ≤ rest.length := by
  unfold readSizedPush at hread
  split at hread
  · have hlater := length_readPush hread
    rw [List.length_drop] at hlater
    exact hlater.trans (Nat.sub_le _ _)
  · cases hread

variable {script : Script} {code : UInt8} {n : ℕ}

theorem length_readInstruction (hread : readInstruction code rest = some (instruction, later)) :
    later.length ≤ rest.length := by
  unfold readInstruction at hread
  split at hread
  · exact length_readPush hread
  split at hread
  · exact length_readSizedPush hread
  split at hread
  · exact length_readSizedPush hread
  split at hread
  · exact length_readSizedPush hread
  split at hread
  · cases hread
    exact le_rfl
  · cases hread
    exact le_rfl

theorem decodeFrom_of_le {fuel fuel' : ℕ} (hfuel : script.length ≤ fuel)
    (hfuel' : script.length ≤ fuel') : decodeFrom fuel script = decodeFrom fuel' script := by
  induction fuel generalizing fuel' script with
  | zero =>
    have hnil : script = [] := List.length_eq_zero_iff.mp (by omega)
    subst hnil
    cases fuel' <;> rfl
  | succ fuel ih =>
    cases script with
    | nil => cases fuel' <;> rfl
    | cons code rest =>
      rw [List.length_cons] at hfuel hfuel'
      cases fuel' with
      | zero => omega
      | succ fuel' =>
        rw [decodeFrom, decodeFrom]
        cases hread : readInstruction code rest with
        | none => rfl
        | some read =>
          obtain ⟨instruction, later⟩ := read
          have hlater := length_readInstruction hread
          have hsame : decodeFrom fuel later = decodeFrom fuel' later :=
            ih (by omega) (by omega)
          simp only [Option.bind_some, hsame]

theorem decode_cons (code : UInt8) (rest : Script) :
    decode (code :: rest) = (readInstruction code rest).bind fun (instruction, later) =>
        (decode later).map (instruction :: ·) := by
  rw [decode, List.length_cons, decodeFrom]
  cases hread : readInstruction code rest with
  | none => rfl
  | some read =>
    obtain ⟨instruction, later⟩ := read
    have hsame : decodeFrom rest.length later = decode later :=
      decodeFrom_of_le (length_readInstruction hread) le_rfl
    simp only [Option.bind_some, hsame]

/-- A beginning of a script that is read as the given instructions, whatever
follows it. -/
def Reads (script : Script) (instructions : List Instruction) : Prop :=
  ∀ rest, decode (script ++ rest) = (decode rest).map (instructions ++ ·)

theorem Reads.nil : Reads [] [] := by
  intro rest
  simp

theorem Reads.append {first second : Script} {before after : List Instruction}
    (hfirst : Reads first before) (hsnd : Reads second after) :
    Reads (first ++ second) (before ++ after) := by
  intro rest
  rw [List.append_assoc, hfirst, hsnd, Option.map_map]
  congr 1
  funext instructions
  exact (List.append_assoc ..).symm

theorem Reads.decode_eq {instructions : List Instruction}
    (hreads : Reads script instructions) : decode script = some instructions := by
  have hall := hreads []
  rw [List.append_nil] at hall
  rw [hall]
  simp [decode, decodeFrom]

theorem Reads.opcode (opcode : Opcode) : Reads [opcode.code] [opcode.instruction] := by
  intro rest
  rw [List.singleton_append, decode_cons]
  cases opcode <;> rfl

theorem readPush_append (data rest : List UInt8) :
    readPush data.length (data ++ rest) = some (.push data, rest) := by
  rw [readPush, if_pos (by simp), List.take_left, List.drop_left]

theorem Reads.push (hlen : data.length ≤ 75) :
    Reads (UInt8.ofNat data.length :: data) [.push data] := by
  intro rest
  have hcode : (UInt8.ofNat data.length).toNat = data.length := by
    rw [UInt8.toNat_ofNat']
    omega
  rw [List.cons_append, decode_cons, readInstruction, hcode, if_pos hlen, readPush_append]
  rfl

def writeLe : ℕ → ℕ → List UInt8
  | 0, _ => []
  | width + 1, n => UInt8.ofNat n :: writeLe width (n / 256)

@[simp] theorem length_writeLe (width n : ℕ) : (writeLe width n).length = width := by
  induction width generalizing n with
  | zero => rfl
  | succ width ih => rw [writeLe, List.length_cons, ih]

theorem readLe_writeLe (hn : n < 256 ^ width) : readLe (writeLe width n) = n := by
  induction width generalizing n with
  | zero =>
    rw [pow_zero] at hn
    exact (Nat.lt_one_iff.mp hn).symm
  | succ width ih =>
    have hrest : n / 256 < 256 ^ width := by
      rw [pow_succ] at hn
      exact Nat.div_lt_of_lt_mul (by omega)
    rw [writeLe, readLe, List.foldr_cons, ← readLe, ih hrest, UInt8.toNat_ofNat']
    omega

theorem writeLe_succ (width n : ℕ) :
    writeLe (width + 1) n = writeLe width n ++ [UInt8.ofNat (n / 256 ^ width)] := by
  induction width generalizing n with
  | zero => simp [writeLe]
  | succ width ih =>
    rw [writeLe, ih, Nat.div_div_eq_div_mul, ← pow_succ']
    rfl

theorem decodeNum_writeLe (hwidth : width ≤ 4) (hupper : n < 128 * 256 ^ width) :
    decodeNum (writeLe (width + 1) n) = some (n : ℤ) := by
  have hpos : 0 < 256 ^ width := by positivity
  have hsmall : n / 256 ^ width < 128 := Nat.div_lt_of_lt_mul (by omega)
  have htop : (UInt8.ofNat (n / 256 ^ width)).toNat = n / 256 ^ width := by
    rw [UInt8.toNat_ofNat', Nat.mod_eq_of_lt (by omega)]
  have hread : readLe (writeLe (width + 1) n) = n := by
    refine readLe_writeLe ?_
    rw [pow_succ]
    omega
  have hreverse : (writeLe (width + 1) n).reverse =
      UInt8.ofNat (n / 256 ^ width) :: (writeLe width n).reverse := by
    rw [writeLe_succ, List.reverse_concat]
  rw [decodeNum, hreverse]
  dsimp only
  rw [length_writeLe, if_neg (by omega), htop, if_neg (by omega), hread]

theorem readSizedPush_append (hlen : data.length < 256 ^ width) (rest : Script) :
    readSizedPush width (writeLe width data.length ++ data ++ rest) = some (.push data, rest) := by
  have htake : (writeLe width data.length ++ (data ++ rest)).take width =
      writeLe width data.length := List.take_left' (length_writeLe ..)
  have hdrop : (writeLe width data.length ++ (data ++ rest)).drop width =
      data ++ rest := List.drop_left' (length_writeLe ..)
  rw [readSizedPush, if_pos (by simp), List.append_assoc, htake, hdrop,
    readLe_writeLe hlen, readPush_append]

theorem Reads.sizedPush (hcode : ∀ rest, readInstruction code rest = readSizedPush width rest)
    (hlen : data.length < 256 ^ width) :
    Reads (code :: (writeLe width data.length ++ data)) [.push data] := by
  intro rest
  rw [List.cons_append, decode_cons, hcode, readSizedPush_append hlen]
  rfl

theorem Reads.pushdata1 (hlen : data.length < 256) :
    Reads (0x4c :: (writeLe 1 data.length ++ data)) [.push data] :=
  sizedPush (fun _ => rfl) (by simpa using hlen)

theorem Reads.pushdata2 (hlen : data.length < 65536) :
    Reads (0x4d :: (writeLe 2 data.length ++ data)) [.push data] :=
  sizedPush (fun _ => rfl) (by simpa using hlen)

/-! ## Running step by step -/

section Running

variable {ctx : Context} {s next final : EvalState}
  {instruction : Instruction} {first second : List Instruction}

def Runs (ctx : Context) (s : EvalState) (instructions : List Instruction)
    (final : EvalState) : Prop :=
  runFrom ctx s instructions = some final

def Fails (ctx : Context) (s : EvalState) (instructions : List Instruction) : Prop :=
  runFrom ctx s instructions = none

theorem Runs.nil : Runs ctx s [] s := rfl

theorem Runs.cons (hstep : step ctx s instruction = some next) (hlen : next.stack.length ≤ 1000)
    (hrest : Runs ctx next second final) : Runs ctx s (instruction :: second) final := by
  rw [Runs, runFrom, hstep, Option.bind_some, if_pos hlen]
  exact hrest

theorem runFrom_append (ctx : Context) (s : EvalState) (first second : List Instruction) :
    runFrom ctx s (first ++ second) =
      (runFrom ctx s first).bind fun next => runFrom ctx next second := by
  induction first generalizing s with
  | nil => rfl
  | cons instruction rest ih =>
    rw [List.cons_append, runFrom, runFrom]
    cases step ctx s instruction with
    | none => rfl
    | some after =>
      rw [Option.bind_some, Option.bind_some]
      by_cases hlen : after.stack.length ≤ 1000
      · rw [if_pos hlen, if_pos hlen, ih]
      · rw [if_neg hlen, if_neg hlen]
        rfl

theorem Runs.append (hfirst : Runs ctx s first next) (hsnd : Runs ctx next second final) :
    Runs ctx s (first ++ second) final := by
  rw [Runs, runFrom_append, hfirst, Option.bind_some]
  exact hsnd

theorem fails_of_not_runs (hnot : ∀ final, ¬ Runs ctx s first final) : Fails ctx s first :=
  Option.eq_none_iff_forall_ne_some.mpr hnot

/-- The instructions run to their end exactly if the condition holds. -/
def RunsIf (ctx : Context) (p : Prop) [Decidable p] (s : EvalState)
    (instructions : List Instruction) (final : EvalState) : Prop :=
  runFrom ctx s instructions = if p then some final else none

section RunsIf

variable {p : Prop} [Decidable p]

theorem Runs.runsIf (hruns : Runs ctx s first final) : RunsIf ctx True s first final :=
  hruns.trans (if_pos trivial).symm

theorem RunsIf.append (hfirst : RunsIf ctx p s first next)
    (hsnd : Runs ctx next second final) : RunsIf ctx p s (first ++ second) final := by
  rw [RunsIf, runFrom_append, hfirst]
  split
  · exact hsnd
  · rfl

theorem Runs.append_runsIf (hfirst : Runs ctx s first next)
    (hsnd : RunsIf ctx p next second final) :
    RunsIf ctx p s (first ++ second) final := by
  rw [RunsIf, runFrom_append, hfirst]
  exact hsnd

end RunsIf

def Instruction.plain : Instruction → Bool
  | .op .opIf | .op .opElse | .op .opEndif | .other _ => false
  | _ => true

theorem step_of_not_executing (hplain : instruction.plain = true)
    (hs : s.executing = false) : step ctx s instruction = some s := by
  have hskip : ∀ taken : Option EvalState,
      (if s.executing = true then taken else some s) = some s := by
    intro taken
    rw [hs]
    rfl
  cases instruction with
  | push data => exact hskip _
  | op opcode =>
    cases opcode with
    | opIf | opElse | opEndif => cases hplain
    | _ => exact hskip _
  | other code => cases hplain

end Running

section Opcodes

variable {ctx : Context} {stack rest : List (List UInt8)} {conditions choices : List Bool}
  {instructions : List Instruction} {final : EvalState}

variable (hexec : conditions.all id = true)

include hexec

theorem Runs.push {data : List UInt8} (hlen : stack.length < 1000)
    (hrest : Runs ctx ⟨data :: stack, conditions, choices⟩ instructions final) :
    Runs ctx ⟨stack, conditions, choices⟩ (.push data :: instructions) final :=
  hrest.cons (if_pos hexec) hlen

variable {opcode : Opcode}

variable (hplain : (Instruction.op opcode).plain = true)

include hplain

theorem step_op :
    step ctx ⟨stack, conditions, choices⟩ (.op opcode) = (execute ctx opcode stack).map fun stack =>
        ⟨stack, conditions, choices⟩ := by
  cases opcode with
  | opIf | opElse | opEndif => cases hplain
  | _ => exact if_pos hexec

theorem Runs.op (hexecute : execute ctx opcode stack = some rest) (hlen : rest.length ≤ 1000)
    (hrest : Runs ctx ⟨rest, conditions, choices⟩ instructions final) :
    Runs ctx ⟨stack, conditions, choices⟩ (.op opcode :: instructions) final := by
  refine hrest.cons ?_ hlen
  rw [step_op hexec hplain, hexecute]
  rfl

end Opcodes

/-! ## Conditions -/

def ifElse (thenBranch elseBranch : List Instruction) : List Instruction :=
  .op .opIf :: (thenBranch ++ .op .opElse :: (elseBranch ++ [.op .opEndif]))

/-- Instructions that are passed over in a branch that was not chosen. -/
def Skips (instructions : List Instruction) : Prop :=
  ∀ ctx s, s.executing = false → s.stack.length ≤ 1000 → Runs ctx s instructions s

section Conditions

variable {ctx : Context} {top : List UInt8} {stack after : List (List UInt8)}
  {conditions choices chosen : List Bool} {thenBranch elseBranch : List Instruction}

theorem skips_of_plain {instructions : List Instruction}
    (hplain : instructions.all plain = true) : Skips instructions := by
  intro ctx s hs hlen
  induction instructions with
  | nil => exact Runs.nil
  | cons instruction rest ih =>
    rw [List.all_cons, Bool.and_eq_true] at hplain
    exact (ih hplain.2).cons (step_of_not_executing hplain.1 hs) hlen

theorem Skips.ifElse (hthen : Skips thenBranch) (helse : Skips elseBranch) :
    Skips (ifElse thenBranch elseBranch) := by
  intro ctx s hs hlen
  obtain ⟨stack, conditions, choices⟩ := s
  have hskipped : conditions.all id = false := hs
  have hif : step ctx ⟨stack, conditions, choices⟩ (.op .opIf) =
      some ⟨stack, false :: conditions, choices⟩ :=
    if_neg (by rw [hs]; exact Bool.false_ne_true)
  have hflipped : EvalState.executing ⟨stack, true :: conditions, choices⟩ =
      false := hskipped
  refine Runs.cons hif hlen ?_
  refine (hthen ctx ⟨stack, false :: conditions, choices⟩ rfl hlen).append ?_
  refine Runs.cons rfl hlen ?_
  exact (helse ctx _ hflipped hlen).append (Runs.cons rfl hlen Runs.nil)

variable (hexec : conditions.all id = true)

include hexec

theorem step_if {condition : Bool} (htop : castToBool top = condition) :
    step ctx ⟨top :: stack, conditions, choices⟩ (.op .opIf) =
      some ⟨stack, condition :: conditions, choices ++ [condition]⟩ := by
  subst htop
  exact if_pos hexec

theorem RunsIf.ifElse {p : Prop} [Decidable p] {choice : Bool}
    (htop : castToBool top = choice) (hstack : stack.length ≤ 1000) (hthen : Skips thenBranch)
    (helse : Skips elseBranch)
    (hbranch : RunsIf ctx p ⟨stack, true :: conditions, choices ++ [choice]⟩
      (bif choice then thenBranch else elseBranch) ⟨after, true :: conditions, chosen⟩)
    (hafter : after.length ≤ 1000) :
    RunsIf ctx p ⟨top :: stack, conditions, choices⟩ (ifElse thenBranch elseBranch)
      ⟨after, conditions, chosen⟩ := by
  have hif : Runs ctx ⟨top :: stack, conditions, choices⟩ [.op .opIf]
      ⟨stack, choice :: conditions, choices ++ [choice]⟩ := .cons (step_if hexec htop) hstack .nil
  refine hif.append_runsIf ?_
  cases choice with
  | true =>
    refine hbranch.append (.cons rfl hafter ?_)
    exact (helse ctx _ rfl hafter).append (.cons rfl hafter .nil)
  | false =>
    refine (hthen ctx ⟨stack, false :: conditions, _⟩ rfl hstack).append_runsIf ?_
    have helseStep : Runs ctx ⟨stack, false :: conditions, choices ++ [false]⟩ [.op .opElse]
        ⟨stack, true :: conditions, choices ++ [false]⟩ := .cons rfl hstack .nil
    exact helseStep.append_runsIf (hbranch.append (.cons rfl hafter .nil))

end Conditions

/-! ## What a run has done -/

section Inversion

variable {ctx : Context} {s final : EvalState} {instruction : Instruction}
  {first second : List Instruction}

theorem Runs.of_cons (hruns : Runs ctx s (instruction :: second) final) :
    ∃ next, step ctx s instruction = some next ∧ next.stack.length ≤ 1000 ∧
      Runs ctx next second final := by
  obtain ⟨next, hstep, hrest⟩ := Option.bind_eq_some_iff.mp hruns
  by_cases hlen : next.stack.length ≤ 1000
  · rw [if_pos hlen] at hrest
    exact ⟨next, hstep, hlen, hrest⟩
  · rw [if_neg hlen] at hrest
    cases hrest

theorem Runs.of_append (hruns : Runs ctx s (first ++ second) final) :
    ∃ next, Runs ctx s first next ∧ Runs ctx next second final := by
  rw [Runs, runFrom_append] at hruns
  exact Option.bind_eq_some_iff.mp hruns

theorem Runs.eq {final' : EvalState} (hruns : Runs ctx s first final)
    (hruns' : Runs ctx s first final') : final = final' :=
  Option.some.inj (hruns.symm.trans hruns')

theorem conditions_of_plain {next : EvalState} (hplain : instruction.plain = true)
    (hstep : step ctx s instruction = some next) : next.conditions = s.conditions := by
  by_cases hexec : s.executing = true
  · cases instruction with
    | push data =>
      cases (if_pos hexec).symm.trans hstep
      rfl
    | op opcode =>
      obtain ⟨stack, conditions, choices⟩ := s
      rw [step_op hexec hplain] at hstep
      obtain ⟨rest, -, hnext⟩ := Option.map_eq_some_iff.mp hstep
      rw [← hnext]
    | other code => cases hplain
  · rw [step_of_not_executing hplain (Bool.eq_false_iff.mpr hexec)] at hstep
    cases hstep
    rfl

def KeepsConditions (instructions : List Instruction) : Prop :=
  ∀ ctx s final, s.executing = true → Runs ctx s instructions final →
    final.conditions = s.conditions

theorem keepsConditions_of_plain {instructions : List Instruction}
    (hplain : instructions.all plain = true) : KeepsConditions instructions := by
  intro ctx s final hexec hruns
  induction instructions generalizing s with
  | nil =>
    cases hruns
    rfl
  | cons instruction rest ih =>
    rw [List.all_cons, Bool.and_eq_true] at hplain
    obtain ⟨next, hstep, -, hrest⟩ := hruns.of_cons
    have hsame := conditions_of_plain hplain.1 hstep
    have hnext : next.executing = true := by
      rw [EvalState.executing, hsame]
      exact hexec
    exact (ih hplain.2 next hnext hrest).trans hsame

variable {stack : List (List UInt8)} {conditions choices : List Bool}

theorem Runs.of_push (hexec : conditions.all id = true) {data : List UInt8}
    (hruns : Runs ctx ⟨stack, conditions, choices⟩ (.push data :: second) final) :
    Runs ctx ⟨data :: stack, conditions, choices⟩ second final := by
  obtain ⟨next, hstep, -, hrest⟩ := hruns.of_cons
  cases (if_pos hexec).symm.trans hstep
  exact hrest

theorem Runs.of_op (hexec : conditions.all id = true) {opcode : Opcode}
    (hplain : (Instruction.op opcode).plain = true)
    (hruns : Runs ctx ⟨stack, conditions, choices⟩ (.op opcode :: second) final) :
    ∃ rest, execute ctx opcode stack = some rest ∧
      Runs ctx ⟨rest, conditions, choices⟩ second final := by
  obtain ⟨next, hstep, -, hrest⟩ := hruns.of_cons
  rw [step_op hexec hplain] at hstep
  obtain ⟨rest, hexecute, rfl⟩ := Option.map_eq_some_iff.mp hstep
  exact ⟨rest, hexecute, hrest⟩

variable {thenBranch elseBranch : List Instruction}

theorem Runs.of_ifElse (hexec : conditions.all id = true) (hthen : KeepsConditions thenBranch)
    (helse : KeepsConditions elseBranch) (hskipThen : Skips thenBranch)
    (hskipElse : Skips elseBranch)
    (hruns : Runs ctx ⟨stack, conditions, choices⟩ (ifElse thenBranch elseBranch) final) :
    ∃ top rest after chosen, stack = top :: rest ∧ final = ⟨after, conditions, chosen⟩ ∧
      (castToBool top = true ∧
          Runs ctx ⟨rest, true :: conditions, choices ++ [true]⟩ thenBranch
            ⟨after, true :: conditions, chosen⟩ ∨
        castToBool top = false ∧
          Runs ctx ⟨rest, true :: conditions, choices ++ [false]⟩ elseBranch
            ⟨after, true :: conditions, chosen⟩) := by
  obtain ⟨opened, hif, hopened, hrest⟩ := of_cons hruns
  obtain ⟨between, hfirst, hrest⟩ := hrest.of_append
  obtain ⟨flipped, helseStep, hflipped, hrest⟩ := hrest.of_cons
  obtain ⟨last, hsnd, hrest⟩ := hrest.of_append
  obtain ⟨closed, hendif, -, hnil⟩ := hrest.of_cons
  cases hnil
  cases stack with
  | nil => cases (if_pos hexec).symm.trans hif
  | cons top rest =>
    have hchosen (choice : Bool) : EvalState.executing
        ⟨rest, true :: conditions, choices ++ [choice]⟩ = true := hexec
    cases htop : castToBool top with
    | true =>
      cases (step_if hexec htop).symm.trans hif
      have hkept := hthen _ _ _ (hchosen true) hfirst
      obtain ⟨after, between, chosen⟩ := between
      cases hkept
      cases helseStep
      cases (hskipElse ctx _ rfl hflipped).eq hsnd
      cases hendif
      exact ⟨top, rest, after, chosen, rfl, rfl, Or.inl ⟨htop, hfirst⟩⟩
    | false =>
      cases (step_if hexec htop).symm.trans hif
      cases (hskipThen ctx _ rfl hopened).eq hfirst
      cases helseStep
      have hkept := helse _ _ _ (hchosen false) hsnd
      obtain ⟨after, between, chosen⟩ := last
      cases hkept
      cases hendif
      exact ⟨top, rest, after, chosen, rfl, rfl, Or.inr ⟨htop, hsnd⟩⟩

theorem KeepsConditions.ifElse (hthen : KeepsConditions thenBranch)
    (helse : KeepsConditions elseBranch) (hskipThen : Skips thenBranch)
    (hskipElse : Skips elseBranch) : KeepsConditions (ifElse thenBranch elseBranch) := by
  intro ctx s final hexec hruns
  obtain ⟨stack, conditions, choices⟩ := s
  obtain ⟨_, _, _, _, -, rfl, -⟩ := hruns.of_ifElse hexec hthen helse hskipThen hskipElse
  rfl

end Inversion

/-! ## Spending by the hash of a script -/

def runScript (instructions : List Instruction) (stack : List (List UInt8)) : Option (List Bool) :=
  (runFrom ctx ⟨stack, [], []⟩ instructions).bind fun final =>
    if final.conditions = [] ∧ final.stack.head?.any castToBool = true then
      some final.choices
    else none

def Instruction.pushed : Instruction → List UInt8
  | .push data => data
  | .op .op1 => [1]
  | .other code => (smallNumber code).getD []
  | _ => []

section Spending

variable {ctx : Context} {script : Script} {instructions : List Instruction}

variable {stack : List (List UInt8)} {choices : List Bool} {pushes : List Instruction}
  {scriptSig : Script}

theorem RunsIf.runScript_eq {p : Prop} [Decidable p]
    (hruns : RunsIf ctx p ⟨stack, [], []⟩ instructions ⟨[[1]], [], choices⟩) :
    runScript ctx instructions stack = if p then some choices else none := by
  rw [runScript, hruns]
  split
  · rw [Option.bind_some]
    exact if_pos ⟨rfl, rfl⟩
  · rfl

theorem Reads.eval_eq (hreads : Reads script instructions)
    (hlimits : withinLimits script instructions = true) (stack : List (List UInt8)) :
    eval ctx script stack = (runFrom ctx ⟨stack, [], []⟩ instructions).bind fun final =>
        if final.conditions = [] then some (final.stack, final.choices)
        else none := by
  rw [eval, hreads.decode_eq, Option.bind_some, if_pos hlimits]

theorem step_of_isPush {instruction : Instruction}
    (hpush : instruction.isPush = true) (stack : List (List UInt8)) (choices : List Bool) :
    step ctx ⟨stack, [], choices⟩ instruction =
      some ⟨instruction.pushed :: stack, [], choices⟩ := by
  cases instruction with
  | push data => rfl
  | op opcode =>
    cases opcode with
    | op0 | op1 => rfl
    | _ => cases hpush
  | other code =>
    obtain ⟨data, hdata⟩ := Option.isSome_iff_exists.mp hpush
    simp [step, pushed, hdata, EvalState.executing]

theorem runFrom_pushes (hpush : pushes.all isPush = true)
    (hlen : stack.length + pushes.length ≤ 1000) (choices : List Bool) :
    runFrom ctx ⟨stack, [], choices⟩ pushes =
      some ⟨(pushes.map pushed).reverse ++ stack, [], choices⟩ := by
  induction pushes generalizing stack with
  | nil => rfl
  | cons instruction rest ih =>
    rw [List.all_cons, Bool.and_eq_true] at hpush
    rw [List.length_cons] at hlen
    have hstack : (instruction.pushed :: stack).length ≤ 1000 := by
      rw [List.length_cons]
      omega
    have hrest : (instruction.pushed :: stack).length + rest.length ≤ 1000 := by
      rw [List.length_cons]
      omega
    rw [runFrom, step_of_isPush hpush.1, Option.bind_some, if_pos hstack,
      ih hpush.2 hrest, List.map_cons, List.reverse_cons, List.append_assoc]
    rfl

variable {body : List Instruction}

theorem verifyP2sh_eq {redeem : Script} (hsig : Reads scriptSig (pushes ++ [.push redeem]))
    (hpushes : pushes.all isPush = true) (hsmall : pushes.all small = true)
    (hcount : pushes.length < 1000) (hlen : scriptSig.length ≤ 10000) (hbody : Reads redeem body)
    (hredeem : redeem.length ≤ 520) (hlimits : withinLimits redeem body = true) :
    verifyP2sh ctx scriptSig (ctx.hash160 redeem) =
      runScript ctx body (pushes.map pushed).reverse := by
  have hall : (pushes ++ [push redeem]).all isPush = true := by
    rw [List.all_append, hpushes]
    rfl
  have hsigLimits : withinLimits scriptSig (pushes ++ [.push redeem]) = true := by
    have hnone : (pushes ++ [push redeem]).countP (fun instruction => !instruction.isPush) = 0 := by
      rw [List.countP_eq_zero]
      intro instruction hinstr
      have hpush := List.all_eq_true.mp hall instruction hinstr
      simp [hpush]
    simp [withinLimits, hlen, hnone, hsmall, small, hredeem]
  have hpushOnly : isPushOnly scriptSig = true := by
    rw [isPushOnly, hsig.decode_eq]
    exact hall
  have hrun : runFrom ctx ⟨[], [], []⟩ (pushes ++ [.push redeem]) =
      some ⟨redeem :: (pushes.map pushed).reverse, [], []⟩ := by
    rw [runFrom_pushes hall (by simpa using hcount)]
    simp [pushed]
  rw [verifyP2sh, if_pos hpushOnly, hsig.eval_eq hsigLimits, hrun, runScript]
  simp only [Option.bind_some, if_true, hbody.eval_eq hlimits]
  cases runFrom ctx ⟨(pushes.map pushed).reverse, [], []⟩ body with
  | none => rfl
  | some final =>
    by_cases hconds : final.conditions = []
    · simp [hconds]
    · simp [hconds]

theorem Runs.stack_of_pushes {final : EvalState} (hpush : pushes.all isPush = true)
    (hruns : Runs ctx ⟨stack, [], choices⟩ pushes final) :
    final.stack = (pushes.map pushed).reverse ++ stack := by
  induction pushes generalizing stack with
  | nil =>
    cases hruns
    rfl
  | cons instruction rest ih =>
    rw [List.all_cons, Bool.and_eq_true] at hpush
    obtain ⟨next, hstep, -, hrest⟩ := hruns.of_cons
    cases (step_of_isPush hpush.1 stack choices).symm.trans hstep
    rw [ih hpush.2 hrest, List.map_cons, List.reverse_cons, List.append_assoc]
    rfl

theorem decode_of_isPushOnly (hpushOnly : isPushOnly scriptSig = true) :
    ∃ instructions, decode scriptSig = some instructions ∧ instructions.all isPush = true := by
  rw [isPushOnly] at hpushOnly
  cases hdec : decode scriptSig with
  | none =>
    rw [hdec] at hpushOnly
    cases hpushOnly
  | some instructions =>
    rw [hdec] at hpushOnly
    exact ⟨instructions, rfl, hpushOnly⟩

theorem exists_of_verifyP2sh {scriptHash : List UInt8}
    (hvalid : verifyP2sh ctx scriptSig scriptHash = some choices) :
    ∃ pushes last body, decode scriptSig = some (pushes ++ [last]) ∧
      (pushes ++ [last]).all isPush = true ∧
      ctx.hash160 last.pushed = scriptHash ∧ decode last.pushed = some body ∧
      runScript ctx body (pushes.map pushed).reverse = some choices := by
  unfold verifyP2sh at hvalid
  obtain ⟨hpushOnly, hvalid⟩ := Option.ite_none_right_eq_some.mp hvalid
  obtain ⟨instructions, hdec, hall⟩ := decode_of_isPushOnly hpushOnly
  obtain ⟨⟨stack, _⟩, heval, hvalid⟩ := Option.bind_eq_some_iff.mp hvalid
  rw [eval, hdec, Option.bind_some] at heval
  obtain ⟨-, heval⟩ := Option.ite_none_right_eq_some.mp heval
  obtain ⟨pushed, hpush, heval⟩ := Option.bind_eq_some_iff.mp heval
  obtain ⟨-, heval⟩ := Option.ite_none_right_eq_some.mp heval
  cases heval
  have hstack := Runs.stack_of_pushes hall hpush
  rw [List.append_nil] at hstack
  rcases instructions.eq_nil_or_concat with rfl | ⟨pushes, last, rfl⟩
  · rw [hstack] at hvalid
    cases hvalid
  · rw [List.concat_eq_append] at hdec hall hstack
    rw [List.map_append, List.reverse_append] at hstack
    rw [hstack] at hvalid
    obtain ⟨hhash, hvalid⟩ := Option.ite_none_right_eq_some.mp hvalid
    obtain ⟨⟨final, _⟩, heval, hvalid⟩ := Option.bind_eq_some_iff.mp hvalid
    obtain ⟨htrue, hvalid⟩ := Option.ite_none_right_eq_some.mp hvalid
    cases hvalid
    obtain ⟨body, hbody, heval⟩ := Option.bind_eq_some_iff.mp heval
    obtain ⟨-, heval⟩ := Option.ite_none_right_eq_some.mp heval
    obtain ⟨ended, hended, heval⟩ := Option.bind_eq_some_iff.mp heval
    obtain ⟨hconds, heval⟩ := Option.ite_none_right_eq_some.mp heval
    cases heval
    refine ⟨pushes, last, body, hdec, hall, hhash, hbody, ?_⟩
    refine Option.bind_eq_some_iff.mpr ⟨ended, hended, ?_⟩
    exact if_pos ⟨hconds, htrue⟩

theorem runs_of_runScript (hrun : runScript ctx body stack = some choices) :
    ∃ top rest, castToBool top = true ∧
      Runs ctx ⟨stack, [], []⟩ body ⟨top :: rest, [], choices⟩ := by
  obtain ⟨⟨after, conditions, chosen⟩, hruns, hrun⟩ := Option.bind_eq_some_iff.mp hrun
  obtain ⟨⟨hconds, htrue⟩, hchosen⟩ := Option.ite_none_right_eq_some.mp hrun
  cases hconds
  cases hchosen
  cases after with
  | nil => cases htrue
  | cons top rest => exact ⟨top, rest, htrue, hruns⟩

end Spending

end BitcoinScript

end KdfProtocol
