import Chip8.Host.Conversion
import Chip8.Proofs.Decoding
import Chip8.Proofs.Execution.Fault
import Chip8.Proofs.Memory

/-!
Dispatch by number.  Execution can also be read as a list of branches, one for each kind of
instruction, and a number that picks one of them:

* `State.handler` — what is done for a kind with the fields of an instruction word;
* `State.branches` — the handlers in the order of the numbers of their kinds;
* `Opcode.classify` — the number of the kind of a 32 bit integer, cut down to a word and read off
  the table with the last match first;
* `State.faultBy?` — the test for faults, from the fields and the number;
* `State.dispatch` — a 32 bit integer executed by these.

Main result: `decoding_agrees`.  The two ways to classify an integer agree, the branch picked by one
is the handler of the other, and `State.dispatch` is `State.execute` on the low sixteen bits.
-/

namespace Chip8

/-! ### Operands -/

theorem Nibble.ofInt_val (k : Nibble) : ofInt (k.val : Int) = k := by
  have hk := k.isLt
  apply Fin.ext
  show ((k.val : Int) % 16).toNat = k.val
  omega

namespace Fields

theorem toNat_emod_lt_size (i : Int) : (i % 4096).toNat < 4096 := by
  omega

/-- The register or key in the second nibble. -/
def vx (f : Fields) : Nibble := Nibble.ofInt f.x

/-- The register in the third nibble. -/
def vy (f : Fields) : Nibble := Nibble.ofInt f.y

/-- The height in the lowest nibble. -/
def height (f : Fields) : Nibble := Nibble.ofInt f.n

/-- The low byte. -/
def byte (f : Fields) : UInt8 := UInt8.ofInt f.nn

/-- The address in the low twelve bits. -/
def address (f : Fields) : Address := ⟨(f.nnn % 4096).toNat, toNat_emod_lt_size _⟩

theorem vx_ofInt (i : Int) : (ofInt i).vx = (Word.ofInt i).x := by
  rw [vx, ofInt_eq]
  exact Nibble.ofInt_val _

theorem vy_ofInt (i : Int) : (ofInt i).vy = (Word.ofInt i).y := by
  rw [vy, ofInt_eq]
  exact Nibble.ofInt_val _

theorem height_ofInt (i : Int) : (ofInt i).height = (Word.ofInt i).n := by
  rw [height, ofInt_eq]
  exact Nibble.ofInt_val _

theorem byte_ofInt (i : Int) : (ofInt i).byte = (Word.ofInt i).nn := by
  rw [byte, ofInt_eq]
  exact ofInt_toNat_byte _

theorem address_ofInt (i : Int) : (ofInt i).address = (Word.ofInt i).nnn := by
  have hlt := (Word.ofInt i).nnn.isLt
  apply Fin.ext
  rw [address, ofInt_eq]
  show (((Word.ofInt i).nnn.val : Int) % 4096).toNat = (Word.ofInt i).nnn.val
  omega

end Fields

/-! ### Handlers -/

namespace State

/-- What is done for a kind of instruction. -/
def handler : Opcode → State → Fields → State
  | .unimplemented, s, _ => s.perform .unimplemented
  | .clearScreen, s, _ => s.perform .clearScreen
  | .ret, s, _ => s.perform .ret
  | .jump, s, f => s.perform (.jump f.address)
  | .call, s, f => s.perform (.call f.address)
  | .skipIfEqualImmediate, s, f => s.perform (.skip (.equalsByte f.vx f.byte))
  | .skipIfNotEqualImmediate, s, f => s.perform (.skip (.differsByte f.vx f.byte))
  | .skipIfEqualRegister, s, f => s.perform (.skip (.equalsRegister f.vx f.vy))
  | .set, s, f => s.perform (.set f.vx f.byte)
  | .add, s, f => s.perform (.add f.vx f.byte)
  | .aluSet, s, f => s.perform (.alu .set f.vx f.vy)
  | .aluOr, s, f => s.perform (.alu .or f.vx f.vy)
  | .aluAnd, s, f => s.perform (.alu .and f.vx f.vy)
  | .aluXor, s, f => s.perform (.alu .xor f.vx f.vy)
  | .aluAdd, s, f => s.perform (.alu .add f.vx f.vy)
  | .aluSubXY, s, f => s.perform (.alu .subXY f.vx f.vy)
  | .aluShiftRight, s, f => s.perform (.alu .shiftRight f.vx f.vy)
  | .aluSubYX, s, f => s.perform (.alu .subYX f.vx f.vy)
  | .aluShiftLeft, s, f => s.perform (.alu .shiftLeft f.vx f.vy)
  | .skipIfNotEqualRegister, s, f => s.perform (.skip (.differsRegister f.vx f.vy))
  | .setIndex, s, f => s.perform (.setIndex f.address)
  | .jumpWithOffset, s, f => s.perform (.jumpWithOffset f.address)
  | .random, s, f => s.perform (.random f.vx f.byte)
  | .draw, s, f => s.perform (.draw f.vx f.vy f.height)
  | .skipIfKey, s, f => s.perform (.skip (.keyDown f.vx))
  | .skipIfNotKey, s, f => s.perform (.skip (.keyUp f.vx))
  | .getDelayTimer, s, f => s.perform (.getDelayTimer f.vx)
  | .waitForKey, s, f => s.perform (.waitForKey f.vx)
  | .setDelayTimer, s, f => s.perform (.setDelayTimer f.vx)
  | .setSoundTimer, s, f => s.perform (.setSoundTimer f.vx)
  | .addToIndex, s, f => s.perform (.addToIndex f.vx)
  | .fontCharacter, s, f => s.perform (.fontCharacter f.vx)
  | .bcdConversion, s, f => s.perform (.bcdConversion f.vx)
  | .storeRegisters, s, f => s.perform (.storeRegisters f.vx)
  | .loadRegisters, s, f => s.perform (.loadRegisters f.vx)

/-- The handlers in the order of the numbers of their kinds. -/
def branches : List (State → Fields → State) :=
  Opcode.all.map handler

/-- The test for faults, from the number of a kind and the fields. -/
def faultBy? (s : State) (f : Fields) (kind : Nat) : Option Fault :=
  let length :=
    if kind = Opcode.draw.number then f.n
    else if kind = Opcode.bcdConversion.number then 3
    else if kind = Opcode.storeRegisters.number ∨ kind = Opcode.loadRegisters.number then f.x + 1
    else 0
  let writes := kind = Opcode.bcdConversion.number ∨ kind = Opcode.storeRegisters.number
  if kind = Opcode.ret.number ∧ s.stack.isEmpty then some .stackUnderflow
  else if kind = Opcode.call.number ∧ s.stack.isFull then some .stackOverflow
  else Memory.accessFault? (Int32.ofNat s.index.toNat) (Int32.ofInt length) writes

end State

/-- The number of the kind of an integer of 32 bits. -/
def Opcode.classify (v : Int32) : Nat :=
  (lastMatch (Word.ofInt v.toInt)).number

/-- Execute an integer of 32 bits: the number of its kind picks a branch, unless there is a fault. -/
def State.dispatch (s : State) (v : Int32) : State :=
  let f := Fields.ofInt v.toInt
  match s.faultBy? f (Opcode.classify v) with
  | some fault => s.withStatus fault.status
  | none =>
    match branches[Opcode.classify v]? with
    | some branch => branch (s.withStatus .ok) f
    | none => s

/-! ### Agreement -/

theorem Opcode.classify_eq (v : Int32) : classify v = (ofInt v.toInt).number := by
  rw [classify, lastMatch_eq, ofInt_eq]

namespace State

/-- The branch of a number is the handler of the kind that has the number. -/
theorem getElem?_branches (o : Opcode) : branches[o.number]? = some (handler o) := by
  have hall : Opcode.all[o.number]? = some o := by cases o <;> rfl
  rw [branches, List.getElem?_map, hall]
  rfl

/-- The handler of a word does what the instruction of the word does. -/
theorem handler_ofInt (s : State) (i : Int) :
    handler (Opcode.ofInt i) s (Fields.ofInt i) = s.perform (Instruction.ofWord (Word.ofInt i)) := by
  rw [Opcode.ofInt_eq, Instruction.ofWord]
  cases Opcode.ofWord (Word.ofInt i) <;>
    simp only [handler, Fields.vx_ofInt, Fields.vy_ofInt, Fields.height_ofInt, Fields.byte_ofInt,
      Fields.address_ofInt]

/-- The test by number is the test of the instruction. -/
theorem faultBy?_ofInt (s : State) (i : Int) :
    s.faultBy? (Fields.ofInt i) (Opcode.ofInt i).number =
      s.fault? (Instruction.ofWord (Word.ofInt i)) := by
  rw [Opcode.ofInt_eq, Instruction.ofWord, Fields.ofInt_eq]
  -- only tests of the stack, and those of a length in a field, are written in two ways
  cases Opcode.ofWord (Word.ofInt i)
  case ret =>
    show (if Opcode.ret.number = Opcode.ret.number ∧ s.stack.isEmpty then some Fault.stackUnderflow
      else none) = if s.stack.isEmpty then some Fault.stackUnderflow else none
    simp only [true_and]
  case call =>
    show (if Opcode.call.number = Opcode.call.number ∧ s.stack.isFull then some Fault.stackOverflow
      else none) = if s.stack.isFull then some Fault.stackOverflow else none
    simp only [true_and]
  case draw => exact congrArg (Memory.accessFault? _ · false) Int32.ofInt_eq_ofNat
  case storeRegisters => exact congrArg (Memory.accessFault? _ · true) Int32.ofInt_eq_ofNat
  case loadRegisters => exact congrArg (Memory.accessFault? _ · false) Int32.ofInt_eq_ofNat
  all_goals rfl

/-- To dispatch an integer is to execute the word in its low sixteen bits. -/
theorem dispatch_eq (s : State) (v : Int32) : s.dispatch v = s.execute (Word.ofInt v.toInt) := by
  have hfault := s.faultBy?_ofInt v.toInt
  have hbranch := getElem?_branches (Opcode.ofInt v.toInt)
  rw [← Opcode.classify_eq] at hfault hbranch
  rw [dispatch, hfault, hbranch, execute_eq]
  rcases s.fault? (Instruction.ofWord (Word.ofInt v.toInt)) with - | f
  · exact handler_ofInt _ _
  · rfl

/-- An integer of 32 bits and its remainder in sixteen bits spell the same word. -/
theorem ofInt_toInt_emod (v : Int32) :
    Word.ofInt (Int32.ofInt (v.toInt % 65536)).toInt = Word.ofInt v.toInt := by
  have hsmall : (Int32.ofInt (v.toInt % 65536)).toInt = v.toInt % 65536 :=
    Int32.toInt_ofInt_of_le (by omega) (by omega)
  rw [hsmall, Word.ofInt_emod]

/-- A host that passes an integer of 32 bits has it dispatched. -/
theorem word_int_toInt (v : Int32) :
    (Host.Value.int v.toInt).word = .ok (Word.ofInt v.toInt) := by
  have hlow : -2147483648 ≤ v.toInt := v.le_toInt
  have hhigh : v.toInt < 2147483648 := v.toInt_lt
  have hfits : Host.int32? v.toInt = some v := by
    rw [Host.int32?, if_pos ⟨hlow, by omega⟩, Int32.ofInt_toInt]
  rw [Host.Value.word, Host.Value.int, Host.Value.int32, hfits]
  rfl

/-- **Decoding is unambiguous.**  For an integer of any size and sign: at most one of the
thirty-four entries of the table matches, its kind depends on its low sixteen bits and is no kind at
all exactly if no entry matches, and its fields recombine to those sixteen bits.  For an integer of
32 bits: the last match has the number of the first one, the branch of that number is the handler
of the kind, and what is dispatched is what is executed, for the integer and for its low sixteen
bits alike. -/
theorem decoding_agrees :
    Opcode.patterns.length = 34 ∧
      (∀ i : Int,
        (Opcode.patterns.filter fun p => p.matchesInt i).length ≤ 1 ∧
          Opcode.ofInt i = Opcode.ofInt (i % 65536) ∧
          (Opcode.ofInt i = .unimplemented ↔ ∀ p ∈ Opcode.patterns, p.matchesInt i = false) ∧
          (let f := Fields.ofInt i
          f.raw = i ∧ 4096 * f.family + 256 * f.x + 16 * f.y + f.n = i % 65536 ∧
            f.nn = 16 * f.y + f.n ∧ f.nnn = 256 * f.x + f.nn)) ∧
      ∀ v : Int32,
        Opcode.classify v = (Opcode.ofInt v.toInt).number ∧
          branches[Opcode.classify v]? = some (handler (Opcode.ofInt v.toInt)) ∧
          ∀ s : State,
            (Host.Value.int v.toInt).word.map s.execute = .ok (s.dispatch v) ∧
              s.dispatch v = s.dispatch (Int32.ofInt (v.toInt % 65536)) := by
  refine ⟨rfl, fun i => ⟨Opcode.length_filter_matchesInt i, ?_, Opcode.ofInt_eq_unimplemented_iff i,
    ?_⟩, fun v => ⟨Opcode.classify_eq v, ?_, fun s => ⟨?_, ?_⟩⟩⟩
  · rw [Opcode.ofInt_eq, Opcode.ofInt_eq, Word.ofInt_emod]
  · have hjoin := Word.join_nibbles (Word.ofInt i)
    have hword := Word.toNat_ofInt i
    have hnn := Word.toNat_nn (Word.ofInt i)
    have hnnn := Word.val_nnn (Word.ofInt i)
    rw [Fields.ofInt_eq]
    refine ⟨rfl, ?_, ?_, ?_⟩
    · show 4096 * ((Word.ofInt i).family.val : Int) + 256 * (Word.ofInt i).x.val +
        16 * (Word.ofInt i).y.val + (Word.ofInt i).n.val = i % 65536
      omega
    · show ((Word.ofInt i).nn.toNat : Int) = 16 * (Word.ofInt i).y.val + (Word.ofInt i).n.val
      omega
    · show ((Word.ofInt i).nnn.val : Int) = 256 * (Word.ofInt i).x.val + (Word.ofInt i).nn.toNat
      omega
  · rw [Opcode.classify_eq]
    exact getElem?_branches _
  · rw [word_int_toInt, dispatch_eq]
    rfl
  · rw [dispatch_eq, dispatch_eq, ofInt_toInt_emod]

end State

end Chip8
