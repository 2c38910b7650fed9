import SkyeyeStarlet.Library.ArmIsa

/-!
Where the instructions of a program are: those of Thumb state at even addresses, those of ARM
state at multiples of four.  Every instruction that the architecture defines goes on at such
an address, in whichever instruction set it leaves the processor.
-/

namespace ArmIsa

open ThumbIsa

variable {Mem : Type}

def Placed (machine : Processor Mem) : Prop :=
  machine.pc.toNat % (if machine.thumb then 2 else 4) = 0

section Ends

variable {machine moved after : Processor Mem}

theorem placed_thumb (thumb : machine.thumb = true) :
    Placed machine ↔ machine.pc.toNat % 2 = 0 := by
  rw [Placed, thumb]
  rfl

theorem placed_arm (arm : machine.thumb = false) :
    Placed machine ↔ machine.pc.toNat % 4 = 0 := by
  rw [Placed, arm]
  rfl

theorem even_target (target : Word) : (target &&& ~~~1#32).toNat % 2 = 0 := by
  have cleared : (target &&& ~~~1#32).getLsbD 0 = false := by
    rw [BitVec.getLsbD_and]
    exact Bool.and_false _
  rw [BitVec.getLsbD, Nat.testBit_zero, decide_eq_false_iff_not] at cleared
  omega

theorem whole_target (target : Word) : (target &&& ~~~3#32).toNat % 4 = 0 := by
  have cleared : target &&& ~~~3#32 = (target >>> 2) <<< 2 := by
    apply BitVec.eq_of_getLsbD_eq
    intro index bound
    have mask : ∀ index < 32, (~~~3#32).getLsbD index = decide (2 ≤ index) := by decide
    simp only [BitVec.getLsbD_and, BitVec.getLsbD_shiftLeft, BitVec.getLsbD_ushiftRight,
      mask index bound]
    grind
  rw [cleared, BitVec.toNat_shiftLeft, Nat.shiftLeft_eq]
  omega

theorem aligned_mod {address : Word} (aligned : Width.word.aligned address = true) :
    address.toNat % 4 = 0 := by
  rw [Width.aligned, Bool.and_eq_true, Bool.not_eq_true', Bool.not_eq_true', BitVec.getLsbD,
    BitVec.getLsbD, Nat.testBit_zero, Nat.testBit_succ, Nat.testBit_zero,
    decide_eq_false_iff_not, decide_eq_false_iff_not] at aligned
  omega

theorem placed_skip (placed : Placed machine) (arm : machine.thumb = false)
    (pc : moved.pc = machine.pc) (thumb : moved.thumb = machine.thumb) : Placed (skip moved) := by
  have source := (placed_arm arm).mp placed
  have state : (skip moved).thumb = false := thumb.trans arm
  refine (placed_arm state).mpr ?_
  rw [show (skip moved).pc = machine.pc + 4#32 from congrArg (· + 4#32) pc, BitVec.toNat_add]
  simp only [BitVec.toNat_ofNat]
  omega

theorem placed_next (placed : Placed machine) (state : machine.thumb = true)
    (pc : moved.pc = machine.pc) (thumb : moved.thumb = machine.thumb) : Placed moved.next := by
  have source := (placed_thumb state).mp placed
  have same : moved.next.thumb = true := thumb.trans state
  refine (placed_thumb same).mpr ?_
  rw [show moved.next.pc = machine.pc + 2#32 from congrArg (· + 2#32) pc, BitVec.toNat_add]
  simp only [BitVec.toNat_ofNat]
  omega

theorem placed_jump (thumb : moved.thumb = true) (target : Word) : Placed (moved.jump target) := by
  have state : (moved.jump target).thumb = true := thumb
  exact (placed_thumb state).mpr (even_target target)

theorem placed_exchange {target : Word} (defined : moved.exchange target = some after) :
    Placed after := by
  unfold Processor.exchange at defined
  split at defined
  · cases defined
    exact even_target target
  · rename_i even
    split at defined
    · cases defined
    · rename_i whole
      cases defined
      apply aligned_mod
      simp only [Width.aligned, Bool.not_eq_true] at even whole ⊢
      rw [even, whole]
      rfl

theorem placed_setResult {rd : Reg} {value : Word} (placed : Placed machine)
    (arm : machine.thumb = false) (defined : setResult machine rd value = some after) :
    Placed after := by
  unfold setResult at defined
  split at defined
  · split at defined
    · rename_i aligned
      cases defined
      have state : ({ machine with pc := value } : Processor Mem).thumb = false := arm
      exact (placed_arm state).mpr (aligned_mod aligned)
    · cases defined
  · cases defined
    exact placed_skip placed arm rfl rfl

end Ends

section Arm

variable {memory : Memory Mem} {machine after : Processor Mem} (placed : Placed machine)
  (arm : machine.thumb = false)

include placed arm

theorem placed_finish {op : DataOp} {flags : Bool} {rd : Reg} {value : Word}
    {flagged : Processor Mem} (pc : flagged.pc = machine.pc) (thumb : flagged.thumb = machine.thumb)
    (defined : finish op flags rd value machine flagged = some after) : Placed after := by
  unfold finish at defined
  split at defined
  · cases defined
    exact placed_skip placed arm pc thumb
  · split at defined
    · split at defined
      · cases defined
      · cases defined
        exact placed_skip placed arm pc thumb
    · exact placed_setResult placed arm defined

theorem placed_execData {op : DataOp} {flags : Bool} {rn rd : Reg} {operand : Operand}
    (defined : execData op flags rn rd operand machine = some after) : Placed after := by
  unfold execData at defined
  split at defined
  · cases defined
  · simp only [Option.bind_eq_bind, Option.bind_eq_some_iff] at defined
    obtain ⟨⟨y, carry⟩, -, finished⟩ := defined
    dsimp only at finished
    split at finished
    · refine placed_finish placed arm ?_ ?_ finished <;> rfl
    · refine placed_finish placed arm ?_ ?_ finished <;> rfl

theorem placed_execMultiply {accumulate flags : Bool} {rd rn rs rm : Reg}
    (defined : execMultiply accumulate flags rd rn rs rm machine = some after) :
    Placed after := by
  unfold execMultiply at defined
  dsimp only at defined
  split at defined
  · cases defined
  · cases defined
    cases flags <;> exact placed_skip placed arm rfl rfl

theorem placed_execLongMultiply {signed accumulate flags : Bool} {hi lo rs rm : Reg}
    (defined : execLongMultiply signed accumulate flags hi lo rs rm machine = some after) :
    Placed after := by
  unfold execLongMultiply at defined
  dsimp only at defined
  split at defined
  · cases defined
  · cases defined
    cases flags <;> exact placed_skip placed arm rfl rfl

theorem placed_execLoad {width : Width} {signed : Bool} {rn rd : Reg} {address : Address}
    (defined : execLoad memory width signed rn rd address machine = some after) :
    Placed after := by
  unfold execLoad at defined
  dsimp only at defined
  split at defined
  · cases defined
  · simp only [Option.bind_eq_bind, Option.bind_eq_some_iff] at defined
    obtain ⟨⟨value, mem⟩, -, rest⟩ := defined
    dsimp only at rest
    unfold Address.moveBase at rest
    split at rest
    · obtain ⟨branched, exchanged, rfl⟩ := Option.map_eq_some_iff.mp rest
      have target := placed_exchange exchanged
      split
      · exact target
      · exact target
    · cases rest
      split <;> exact placed_skip placed arm rfl rfl

theorem placed_execStore {width : Width} {rn rd : Reg} {address : Address}
    (defined : execStore memory width rn rd address machine = some after) : Placed after := by
  unfold execStore at defined
  dsimp only at defined
  split at defined
  · cases defined
  · simp only [Option.bind_eq_bind, Option.bind_eq_some_iff] at defined
    obtain ⟨mem, -, same⟩ := defined
    cases same
    unfold Address.moveBase
    split <;> exact placed_skip placed arm rfl rfl

theorem placed_execTransfer {access : Access} {rn rd : Reg} {address : Address}
    (defined : execTransfer memory access rn rd address machine = some after) :
    Placed after := by
  unfold execTransfer at defined
  split at defined
  · split at defined
    · exact placed_execLoad placed arm defined
    · exact placed_execStore placed arm defined
  · cases defined

theorem placed_execDouble {load : Bool} {rn rd : Reg} {address : Address}
    (defined : execDouble memory load rn rd address machine = some after) : Placed after := by
  unfold execDouble at defined
  dsimp only at defined
  split at defined
  · cases defined
  · unfold Address.moveBase at defined
    split at defined
    · simp only [Option.bind_eq_bind, Option.bind_eq_some_iff] at defined
      obtain ⟨⟨words, mem⟩, -, same⟩ := defined
      cases same
      split <;> exact placed_skip placed arm (by simp) (by simp)
    · simp only [Option.bind_eq_bind, Option.bind_eq_some_iff] at defined
      obtain ⟨mem, -, same⟩ := defined
      cases same
      split <;> exact placed_skip placed arm rfl rfl

theorem placed_execBlock {load before up writes : Bool} {rn : Reg} {list : BitVec 16}
    (defined : execBlock memory load before up writes rn list machine = some after) :
    Placed after := by
  unfold execBlock at defined
  split at defined
  · unfold execLoadBlock at defined
    dsimp only at defined
    split at defined
    · cases defined
    · simp only [Option.bind_eq_bind, Option.bind_eq_some_iff] at defined
      obtain ⟨⟨words, mem⟩, -, rest⟩ := defined
      dsimp only at rest
      split at rest
      · simp only [Option.bind_eq_some_iff] at rest
        obtain ⟨target, -, exchanged⟩ := rest
        exact placed_exchange exchanged
      · cases rest
        split <;> exact placed_skip placed arm (by simp) (by simp)
  · unfold execStoreBlock at defined
    dsimp only at defined
    split at defined
    · cases defined
    · simp only [Option.bind_eq_bind, Option.bind_eq_some_iff] at defined
      obtain ⟨mem, -, same⟩ := defined
      cases same
      split <;> exact placed_skip placed arm rfl rfl

theorem placed_execSwap {byte : Bool} {rn rd rm : Reg}
    (defined : execSwap memory byte rn rd rm machine = some after) : Placed after := by
  unfold execSwap at defined
  dsimp only at defined
  split at defined
  · cases defined
  · simp only [Option.bind_eq_bind, Option.bind_eq_some_iff] at defined
    obtain ⟨⟨value, loaded⟩, -, mem, -, same⟩ := defined
    cases same
    exact placed_skip placed arm rfl rfl

theorem branch_word (offset : BitVec 24) :
    (machine.pc + 8#32 + offset.signExtend 32 <<< 2).toNat % 4 = 0 := by
  have source := (placed_arm arm).mp placed
  rw [BitVec.toNat_add, BitVec.toNat_add, BitVec.toNat_shiftLeft, Nat.shiftLeft_eq]
  simp only [BitVec.toNat_ofNat]
  omega

theorem placed_execBranch (link : Bool) (offset : BitVec 24) :
    Placed (execBranch link offset machine) := by
  have state : (execBranch link offset machine).thumb = false := by
    cases link <;> exact arm
  exact (placed_arm state).mpr (branch_word placed arm offset)

theorem placed_execCallThumb (upper : Bool) (offset : BitVec 24) :
    Placed (execCallThumb upper offset machine) := by
  have word := branch_word placed arm offset
  have state : (execCallThumb upper offset machine).thumb = true := rfl
  refine (placed_thumb state).mpr ?_
  unfold execCallThumb
  dsimp only
  generalize machine.pc + 8#32 + offset.signExtend 32 <<< 2 = target at word ⊢
  cases upper with
  | true =>
      simp only [if_true, BitVec.toNat_add, BitVec.toNat_ofNat]
      omega
  | false =>
      simp only [Bool.false_eq_true, if_false, BitVec.add_zero]
      omega

theorem placed_execHalfMultiply {op : HalfOp} {rd rn rs rm : Reg} {q : Bool}
    {after : Machine Mem}
    (defined : execHalfMultiply op rd rn rs rm { toProcessor := machine, q } = some after) :
    Placed after.toProcessor := by
  unfold execHalfMultiply at defined
  dsimp only at defined
  split at defined
  · cases defined
  · cases op with
    | accumulate x y =>
        cases defined
        exact placed_skip placed arm rfl rfl
    | accumulateWide y =>
        cases defined
        exact placed_skip placed arm rfl rfl
    | wide y =>
        cases defined
        exact placed_skip placed arm rfl rfl
    | accumulateLong x y =>
        dsimp only at defined
        split at defined
        · cases defined
        · cases defined
          exact placed_skip placed arm rfl rfl
    | multiply x y =>
        cases defined
        exact placed_skip placed arm rfl rfl

theorem placed_exec {instr : Instr} {q : Bool} {final : Machine Mem}
    (defined : exec memory instr { toProcessor := machine, q } = some (.goesOn final)) :
    Placed final.toProcessor := by
  have continued {result : Option (Processor Mem)} (keeps : ∀ after, result = some after → Placed after)
      (ran : Machine.continues { toProcessor := machine, q } result = some (.goesOn final)) :
      Placed final.toProcessor := by
    obtain ⟨after, found, same⟩ := Option.map_eq_some_iff.mp ran
    cases same
    exact keeps after found
  cases instr with
  | data op flags rn rd operand => exact continued (fun _ => placed_execData placed arm) defined
  | multiply accumulate flags rd rn rs rm =>
      exact continued (fun _ => placed_execMultiply placed arm) defined
  | longMultiply signed accumulate flags hi lo rs rm =>
      exact continued (fun _ => placed_execLongMultiply placed arm) defined
  | halfMultiply op rd rn rs rm =>
      obtain ⟨after, found, same⟩ := Option.map_eq_some_iff.mp defined
      cases same
      exact placed_execHalfMultiply placed arm found
  | saturating subtract doubles rn rd rm =>
      obtain ⟨after, found, same⟩ := Option.map_eq_some_iff.mp defined
      cases same
      unfold execSaturating at found
      dsimp only at found
      split at found
      · cases found
      · cases found
        exact placed_skip placed arm rfl rfl
  | countZeros rd rm =>
      refine continued (fun after found => ?_) defined
      unfold execCountZeros at found
      split at found
      · cases found
      · cases found
        exact placed_skip placed arm rfl rfl
  | swap byte rn rd rm => exact continued (fun _ => placed_execSwap placed arm) defined
  | exchange link rm =>
      refine continued (fun after found => ?_) defined
      unfold execExchange at found
      split at found
      · split at found
        · cases found
        · exact placed_exchange found
      · exact placed_exchange found
  | transfer access rn rd address =>
      exact continued (fun _ => placed_execTransfer placed arm) defined
  | double load rn rd address => exact continued (fun _ => placed_execDouble placed arm) defined
  | block load before up writes rn list =>
      exact continued (fun _ => placed_execBlock placed arm) defined
  | branch link offset =>
      refine continued (fun after found => ?_) defined
      cases found
      exact placed_execBranch placed arm link offset
  | callThumb upper offset =>
      refine continued (fun after found => ?_) defined
      cases found
      exact placed_execCallThumb placed arm upper offset
  | softwareInterrupt number => cases defined

theorem placed_meaning {code : Word} {q : Bool} {final : Machine Mem}
    (defined : meaning memory code { toProcessor := machine, q } = some (.goesOn final)) :
    Placed final.toProcessor := by
  unfold meaning at defined
  split at defined
  · simp only [Option.bind_eq_bind, Option.bind_eq_some_iff] at defined
    obtain ⟨instr, -, ran⟩ := defined
    exact placed_exec placed arm ran
  · simp only [Option.bind_eq_bind, Option.bind_eq_some_iff] at defined
    obtain ⟨instr, -, ran⟩ := defined
    split at ran
    · exact placed_exec placed arm ran
    · cases ran
      exact placed_skip placed arm rfl rfl

end Arm

section Thumb

variable {memory : Memory Mem} {machine after : Processor Mem} (placed : Placed machine)
  (thumb : machine.thumb = true)

include placed thumb

theorem placed_execAlu {op : AluOp} {rd rm : LowReg}
    (defined : execAlu op rd rm machine = some after) : Placed after := by
  have multiplied (value : Word) (ran : (if rd = rm then none
      else some (machine.logical rd value)) = some after) : Placed after := by
    split at ran
    · cases ran
    · cases ran
      exact placed_next placed thumb rfl rfl
  cases op <;>
    first
    | exact multiplied _ defined
    | (cases defined; exact placed_next placed thumb rfl rfl)

theorem placed_setHigh (rd : Reg) (value : Word) : Placed (machine.setHigh rd value) := by
  unfold Processor.setHigh
  split
  · exact placed_jump thumb value
  · exact placed_next placed thumb rfl rfl

theorem placed_execHigh {op : HighOp} {rd rm : Reg}
    (defined : execHigh op rd rm machine = some after) : Placed after := by
  unfold execHigh at defined
  split at defined
  · cases defined
  · cases op with
    | add =>
        cases defined
        exact placed_setHigh placed thumb rd _
    | cmp =>
        dsimp only at defined
        split at defined
        · cases defined
        · cases defined
          exact placed_next placed thumb rfl rfl
    | mov =>
        cases defined
        exact placed_setHigh placed thumb rd _

theorem placed_execAccess {access : Access} {rd : LowReg} {address : Word}
    (defined : execAccess memory access rd address machine = some after) : Placed after := by
  cases access with
  | load width signed =>
      simp only [execAccess] at defined
      split at defined
      · simp only [Option.bind_eq_bind, Option.bind_eq_some_iff] at defined
        obtain ⟨⟨value, mem⟩, -, same⟩ := defined
        cases same
        exact placed_next placed thumb rfl rfl
      · cases defined
  | store width =>
      simp only [execAccess] at defined
      split at defined
      · simp only [Option.bind_eq_bind, Option.bind_eq_some_iff] at defined
        obtain ⟨mem, -, same⟩ := defined
        cases same
        exact placed_next placed thumb rfl rfl
      · cases defined

theorem placed_execPush {list : BitVec 8} {link : Bool}
    (defined : execPush memory list link machine = some after) : Placed after := by
  unfold execPush at defined
  dsimp only at defined
  generalize ThumbIsa.listed list ++ (if link then [14#4] else []) = numbers at defined
  split at defined
  · cases defined
  · simp only [Option.bind_eq_bind, Option.bind_eq_some_iff] at defined
    obtain ⟨mem, -, same⟩ := defined
    cases same
    exact placed_next placed thumb rfl rfl

theorem placed_execPop {list : BitVec 8} {returns : Bool}
    (defined : execPop memory list returns machine = some after) : Placed after := by
  unfold execPop at defined
  dsimp only at defined
  split at defined
  · cases defined
  · simp only [Option.bind_eq_bind, Option.bind_eq_some_iff] at defined
    obtain ⟨⟨words, mem⟩, -, rest⟩ := defined
    dsimp only at rest
    split at rest
    · simp only [Option.bind_eq_some_iff] at rest
      obtain ⟨target, -, exchanged⟩ := rest
      exact placed_exchange exchanged
    · cases rest
      exact placed_next placed thumb (by simp) (by simp)

theorem placed_execStmia {rn : LowReg} {list : BitVec 8}
    (defined : execStmia memory rn list machine = some after) : Placed after := by
  unfold execStmia at defined
  dsimp only at defined
  split at defined
  · cases defined
  · simp only [Option.bind_eq_bind, Option.bind_eq_some_iff] at defined
    obtain ⟨mem, -, same⟩ := defined
    cases same
    exact placed_next placed thumb rfl rfl

theorem placed_execLdmia {rn : LowReg} {list : BitVec 8}
    (defined : execLdmia memory rn list machine = some after) : Placed after := by
  unfold execLdmia at defined
  dsimp only at defined
  split at defined
  · cases defined
  · simp only [Option.bind_eq_bind, Option.bind_eq_some_iff] at defined
    obtain ⟨⟨words, mem⟩, -, same⟩ := defined
    cases same
    exact placed_next placed thumb (by simp) (by simp)

theorem placed_execImm (op : ImmOp) (rd : LowReg) (imm : Word) :
    Placed (execImm op rd imm machine) := by
  cases op <;> exact placed_next placed thumb rfl rfl

omit placed in
theorem placed_execSuffix {offset : BitVec 11}
    (defined : execSuffix offset machine = some after) : Placed after := by
  unfold execSuffix at defined
  dsimp only at defined
  split at defined
  · cases defined
  · cases defined
    exact placed_jump thumb _

omit placed thumb in
theorem placed_execBlxSuffix (offset : BitVec 11) : Placed (execBlxSuffix offset machine) := by
  have state : (execBlxSuffix offset machine).thumb = false := rfl
  exact (placed_arm state).mpr (whole_target _)

theorem placed_execThumb {instr : ThumbIsa.Instr}
    (defined : ThumbIsa.exec memory instr machine = some (.goesOn after)) : Placed after := by
  have continued {result : Option (Processor Mem)}
      (keeps : ∀ final, result = some final → Placed final)
      (ran : result.map ThumbIsa.Effect.goesOn = some (.goesOn after)) : Placed after := by
    obtain ⟨final, found, same⟩ := Option.map_eq_some_iff.mp ran
    cases same
    exact keeps _ found
  cases instr with
  | alu op rd rm => exact continued (fun _ => placed_execAlu placed thumb) defined
  | high op rd rm => exact continued (fun _ => placed_execHigh placed thumb) defined
  | bx rm => exact continued (fun _ => placed_exchange) defined
  | blx rm =>
      simp only [ThumbIsa.exec] at defined
      split at defined
      · cases defined
      · exact continued (fun _ => placed_exchange) defined
  | literal rd imm => exact continued (fun _ => placed_execAccess placed thumb) defined
  | transferReg access rd rn rm =>
      exact continued (fun _ => placed_execAccess placed thumb) defined
  | transferImm access rd rn imm =>
      exact continued (fun _ => placed_execAccess placed thumb) defined
  | transferSp access rd imm => exact continued (fun _ => placed_execAccess placed thumb) defined
  | push list link => exact continued (fun _ => placed_execPush placed thumb) defined
  | pop list returns => exact continued (fun _ => placed_execPop placed thumb) defined
  | stmia rn list => exact continued (fun _ => placed_execStmia placed thumb) defined
  | ldmia rn list => exact continued (fun _ => placed_execLdmia placed thumb) defined
  | blSuffix offset => exact continued (fun _ => placed_execSuffix thumb) defined
  | immediate op rd imm =>
      cases defined
      exact placed_execImm placed thumb op rd _
  | branchIf condition offset =>
      cases defined
      split
      · exact placed_jump thumb _
      · exact placed_next placed thumb rfl rfl
  | branch offset =>
      cases defined
      exact placed_jump thumb _
  | blxSuffix offset =>
      cases defined
      exact placed_execBlxSuffix offset
  | swi number => cases defined
  | bkpt number => cases defined
  | _ =>
      cases defined
      exact placed_next placed thumb rfl rfl

theorem placed_thumbMeaning {code following : BitVec 16}
    (defined : ThumbIsa.meaning memory code following machine = some (.goesOn after)) :
    Placed after := by
  unfold ThumbIsa.meaning at defined
  simp only [Option.bind_eq_bind, Option.bind_eq_some_iff] at defined
  obtain ⟨instr, -, ran⟩ := defined
  split at ran
  · rename_i offset
    have prefixed : Placed (machine.longPrefix offset) := placed_next placed thumb rfl rfl
    split at ran
    · simp only [Option.bind_eq_some_iff] at ran
      obtain ⟨second, -, ran⟩ := ran
      exact placed_execThumb prefixed thumb ran
    · cases ran
      exact prefixed
  · exact placed_execThumb placed thumb ran

end Thumb

end ArmIsa
