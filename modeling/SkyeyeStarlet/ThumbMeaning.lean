import SkyeyeStarlet.Kept
import SkyeyeStarlet.ThumbBlocks
import SkyeyeStarlet.TransferAbortExact
import SkyeyeStarlet.TrapReads

/-!
`ARMul_ThumbDecode` and the main switch against the Thumb instruction set: what becomes of a
halfword that the architecture defines is what the architecture says.
-/

namespace SkyeyeStarlet

open ThumbIsa

variable {Mem : Type}

section Statements

def emulated : Effect Mem → Effect Mem
  | .prefetchAbort link => .softwareInterrupt (link - 2#32)
  | effect => effect

def Performs (highVectors : Mem → Bool) (before after : ARMulState Mem) (pc : ARMword) :
    Effect Mem → Prop
  | .goesOn machine => Shows before after pc machine
  | .softwareInterrupt link => Enters highVectors before after pc .swiV link
  | .prefetchAbort link => Enters highVectors before after pc .prefetchAbortV link

def Realizes (bus : Bus Mem) (traps : Traps Mem) (cops : Coprocessors Mem)
    (state : ARMulState Mem) (pc : ARMword) (effect : Effect Mem) : ThumbResult Mem → Prop
  | .undefined => False
  | .branched after => Performs bus.highVectors state after pc effect
  | .decoded instr =>
      Performs bus.highVectors state (executeArm bus traps cops state pc instr) pc effect

/-- Where the main switch departs from the architecture: an addition to the program counter
reads it without bit 1, the write back of `LDMIA` overwrites a base that is loaded, and `SWI`
255 at an address whose fetch has failed before is taken for the marker of the failure. -/
def Departs (state : ARMulState Mem) (pc : ARMword) (tinstr : Halfword) : Prop :=
  match decode tinstr with
  | some (.high .add rd _) => rd = 15#4 ∧ pc.getLsbD 1 = true
  | some (.ldmia rn list) => rn.setWidth 4 ∈ listed list
  | some (.swi _) => tinstr = 0xdfff#16 ∧ state.abortAddr = pc
  | _ => False

end Statements

section Groups

variable {tinstr : Halfword} {code : BitVec 5}

theorem group_low (group : tinstr.extractLsb' 11 5 = code) :
    tinstr.extractLsb' 11 2 = code.setWidth 2 := by
  rw [← group]
  apply BitVec.eq_of_getLsbD_eq
  intro index bound
  simp only [BitVec.getLsbD_extractLsb', BitVec.getLsbD_setWidth]
  grind

theorem scaled_immAccess (byte load : Bool) (imm : BitVec 5) :
    scaled (immAccess byte load) imm = imm.setWidth 32 <<< if byte then 0 else 2 := by
  cases byte <;> cases load <;> rfl

end Groups

section Formats

variable {state : ARMulState Mem} {pc : ARMword} {bus : NarrowBus Mem} {traps : Traps Mem}
  {cops : Coprocessors Mem} {tinstr following : Halfword} {instr : Instr} {effect : Effect Mem}
  (ready : ThumbReady state pc) (decoded : decode tinstr = some instr)
  (ran : exec (busMemory bus.toBus bus.plain state.mode) instr (machineOf state pc) = some effect)

include ready decoded ran

theorem realizes_shift
    (group : tinstr.extractLsb' 11 5 = 0#5 ∨ tinstr.extractLsb' 11 5 = 1#5 ∨
      tinstr.extractLsb' 11 5 = 2#5) :
    Realizes bus.toBus traps cops state pc (emulated effect)
      (thumbDecodeHalf state pc tinstr following) := by
  have named : instr = .shift (shiftKind (tinstr.extractLsb' 11 2)).isa (tinstr.extractLsb' 6 5)
      (tinstr.extractLsb' 0 3) (tinstr.extractLsb' 3 3) := by
    rcases group with group | group | group <;>
      rw [group_low group] <;>
      simp only [decode, group, Option.some.injEq] at decoded <;>
      exact decoded.symm
  have rotates : shiftKind (tinstr.extractLsb' 11 2) ≠ .ror := by
    rcases group with group | group | group <;>
      rw [group_low group] <;>
      decide
  have result : thumbDecodeHalf state pc tinstr following = .decoded (thumbShift tinstr) := by
    rcases group with group | group | group <;> simp only [thumbDecodeHalf, group]
  subst named
  cases ran
  rw [result]
  exact shows_thumbShift bus.toBus traps cops ready tinstr rotates

theorem realizes_addSub (group : tinstr.extractLsb' 11 5 = 3#5) :
    Realizes bus.toBus traps cops state pc (emulated effect)
      (thumbDecodeHalf state pc tinstr following) := by
  simp only [decode, group, decodeAddSub] at decoded
  simp only [thumbDecodeHalf, group]
  cases operand : tinstr.getLsbD 10 with
  | true =>
      rw [operand] at decoded
      cases decoded
      cases ran
      exact shows_addImm bus.toBus traps cops ready tinstr operand
  | false =>
      rw [operand] at decoded
      cases decoded
      cases ran
      exact shows_addReg bus.toBus traps cops ready tinstr operand

theorem realizes_immediate
    (group : tinstr.extractLsb' 11 5 = 4#5 ∨ tinstr.extractLsb' 11 5 = 5#5 ∨
      tinstr.extractLsb' 11 5 = 6#5 ∨ tinstr.extractLsb' 11 5 = 7#5) :
    Realizes bus.toBus traps cops state pc (emulated effect)
      (thumbDecodeHalf state pc tinstr following) := by
  have named : ∃ op, tinstr.extractLsb' 11 2 = immBits op ∧
      instr = .immediate op (tinstr.extractLsb' 8 3) (tinstr.extractLsb' 0 8) := by
    rcases group with group | group | group | group <;>
      simp only [decode, group, Option.some.injEq] at decoded <;>
      refine ⟨_, ?_, decoded.symm⟩ <;>
      exact group_low group
  have result : thumbDecodeHalf state pc tinstr following = .decoded (thumbImmediate tinstr) := by
    rcases group with group | group | group | group <;> simp only [thumbDecodeHalf, group]
  obtain ⟨op, code, rfl⟩ := named
  cases ran
  rw [result]
  exact shows_thumbImmediate bus.toBus traps cops ready tinstr code

theorem realizes_alu (group : tinstr.extractLsb' 11 5 = 8#5) (low : tinstr.getLsbD 10 = false) :
    Realizes bus.toBus traps cops state pc (emulated effect)
      (thumbDecodeHalf state pc tinstr following) := by
  simp only [decode, group, low, Bool.false_eq_true, if_false, Option.some.injEq] at decoded
  subst decoded
  simp only [exec, Option.map_eq_some_iff] at ran
  obtain ⟨after, defined, rfl⟩ := ran
  simp only [thumbDecodeHalf, group, low, Bool.false_eq_true, if_false]
  exact shows_thumbAlu bus.toBus traps cops tinstr ready defined

theorem realizes_highOp (group : tinstr.extractLsb' 11 5 = 8#5) (high : tinstr.getLsbD 10 = true)
    (op : HighOp) (code : tinstr.extractLsb' 8 2 = highBits op)
    (named : instr = .high op (highRd tinstr) (tinstr.extractLsb' 3 4))
    (steady : ¬Departs state pc tinstr) :
    Realizes bus.toBus traps cops state pc (emulated effect)
      (thumbDecodeHalf state pc tinstr following) := by
  subst named
  simp only [exec, Option.map_eq_some_iff] at ran
  obtain ⟨after, defined, rfl⟩ := ran
  have whole : op = .add → highRd tinstr = 15#4 → pc.getLsbD 1 = false := by
    rintro rfl isPc
    rw [Departs, decoded] at steady
    exact Bool.eq_false_iff.mpr fun half => steady ⟨isPc, half⟩
  have some : ¬(highRd tinstr < 8#4 ∧ tinstr.extractLsb' 3 4 < 8#4) := by
    intro low
    unfold execHigh at defined
    rw [if_pos low] at defined
    cases defined
  simp only [thumbDecodeHalf, group, high, if_true, thumbHigh_eq tinstr code some]
  exact shows_highWord bus.toBus traps cops ready defined whole

theorem realizes_high (group : tinstr.extractLsb' 11 5 = 8#5) (high : tinstr.getLsbD 10 = true)
    (steady : ¬Departs state pc tinstr) :
    Realizes bus.toBus traps cops state pc (emulated effect)
      (thumbDecodeHalf state pc tinstr following) := by
  have named := decoded
  simp only [decode, group, high, if_true, decodeHigh] at named
  split at named
  · rename_i code
    cases named
    exact realizes_highOp ready decoded ran group high .add code rfl steady
  · rename_i code
    cases named
    exact realizes_highOp ready decoded ran group high .cmp code rfl steady
  · rename_i code
    cases named
    exact realizes_highOp ready decoded ran group high .mov code rfl steady
  · rename_i add cmp mov
    have code : tinstr.extractLsb' 8 2 = 3#2 := by
      have codes : ∀ code : BitVec 2, code ≠ 0#2 → code ≠ 1#2 → code ≠ 2#2 → code = 3#2 := by
        decide
      exact codes _ add cmp mov
    split at named
    · cases named
    · simp only [thumbDecodeHalf, group, high, if_true]
      split at named
      · rename_i links
        cases named
        simp only [exec] at ran
        split at ran
        · cases ran
        · simp only [Option.map_eq_some_iff] at ran
          obtain ⟨after, defined, rfl⟩ := ran
          simp only [ready.isV5, thumbHigh_blx tinstr code links]
          exact shows_blx bus.toBus traps cops ready defined
      · rename_i stays
        cases named
        simp only [exec, Option.map_eq_some_iff] at ran
        obtain ⟨after, defined, rfl⟩ := ran
        simp only [thumbHigh_bx tinstr code (by simpa using stays)]
        exact shows_bx bus.toBus traps cops ready defined

theorem realizes_literal (group : tinstr.extractLsb' 11 5 = 9#5) :
    Realizes bus.toBus traps cops state pc (emulated effect)
      (thumbDecodeHalf state pc tinstr following) := by
  simp only [decode, group, Option.some.injEq] at decoded
  subst decoded
  simp only [exec, Option.map_eq_some_iff] at ran
  obtain ⟨after, defined, rfl⟩ := ran
  simp only [thumbDecodeHalf, group]
  exact shows_literal bus traps cops tinstr ready defined

theorem realizes_regTransfer
    (group : tinstr.extractLsb' 11 5 = 10#5 ∨ tinstr.extractLsb' 11 5 = 11#5) :
    Realizes bus.toBus traps cops state pc (emulated effect)
      (thumbDecodeHalf state pc tinstr following) := by
  have named : instr = .transferReg (decodeAccess (tinstr.extractLsb' 9 3))
      (tinstr.extractLsb' 0 3) (tinstr.extractLsb' 3 3) (tinstr.extractLsb' 6 3) := by
    rcases group with group | group <;>
      simp only [decode, group, Option.some.injEq] at decoded <;>
      exact decoded.symm
  have result : thumbDecodeHalf state pc tinstr following = .decoded (thumbRegTransfer tinstr) := by
    rcases group with group | group <;> simp only [thumbDecodeHalf, group]
  subst named
  simp only [exec, Option.map_eq_some_iff] at ran
  obtain ⟨after, defined, rfl⟩ := ran
  rw [result]
  exact shows_regTransfer bus traps cops tinstr ready defined

theorem realizes_immTransfer
    (group : tinstr.extractLsb' 11 5 = 12#5 ∨ tinstr.extractLsb' 11 5 = 13#5 ∨
      tinstr.extractLsb' 11 5 = 14#5 ∨ tinstr.extractLsb' 11 5 = 15#5) :
    Realizes bus.toBus traps cops state pc (emulated effect)
      (thumbDecodeHalf state pc tinstr following) := by
  have named : instr = .transferImm (immAccess (tinstr.getLsbD 12) (tinstr.getLsbD 11))
      (tinstr.extractLsb' 0 3) (tinstr.extractLsb' 3 3) (tinstr.extractLsb' 6 5) := by
    rcases group with group | group | group | group <;>
      rw [extract_bit group (show 0 < 5 by decide), extract_bit group (show 1 < 5 by decide)] <;>
      simp only [decode, group, Option.some.injEq] at decoded <;>
      exact decoded.symm
  have result : thumbDecodeHalf state pc tinstr following = .decoded (thumbImmTransfer tinstr) := by
    rcases group with group | group | group | group <;> simp only [thumbDecodeHalf, group]
  subst named
  simp only [exec, Option.map_eq_some_iff] at ran
  obtain ⟨after, defined, rfl⟩ := ran
  rw [result]
  refine shows_immTransfer bus traps cops tinstr ready ?_
  rw [← defined, scaled_immAccess]

theorem realizes_halfTransfer
    (group : tinstr.extractLsb' 11 5 = 16#5 ∨ tinstr.extractLsb' 11 5 = 17#5) :
    Realizes bus.toBus traps cops state pc (emulated effect)
      (thumbDecodeHalf state pc tinstr following) := by
  have named : instr = .transferImm
      (if tinstr.getLsbD 11 then .load .half false else .store .half)
      (tinstr.extractLsb' 0 3) (tinstr.extractLsb' 3 3) (tinstr.extractLsb' 6 5) := by
    rcases group with group | group <;>
      rw [extract_bit group (show 0 < 5 by decide)] <;>
      simp only [decode, group, Option.some.injEq] at decoded <;>
      exact decoded.symm
  have result : thumbDecodeHalf state pc tinstr following =
      .decoded (thumbHalfTransfer tinstr) := by
    rcases group with group | group <;> simp only [thumbDecodeHalf, group]
  subst named
  simp only [exec, Option.map_eq_some_iff] at ran
  obtain ⟨after, defined, rfl⟩ := ran
  rw [result]
  refine shows_halfTransfer bus traps cops tinstr ready ?_
  rw [← defined]
  cases tinstr.getLsbD 11 <;> rfl

theorem realizes_stackTransfer
    (group : tinstr.extractLsb' 11 5 = 18#5 ∨ tinstr.extractLsb' 11 5 = 19#5) :
    Realizes bus.toBus traps cops state pc (emulated effect)
      (thumbDecodeHalf state pc tinstr following) := by
  have named : instr = .transferSp
      (if tinstr.getLsbD 11 then .load .word false else .store .word)
      (tinstr.extractLsb' 8 3) (tinstr.extractLsb' 0 8) := by
    rcases group with group | group <;>
      rw [extract_bit group (show 0 < 5 by decide)] <;>
      simp only [decode, group, Option.some.injEq] at decoded <;>
      exact decoded.symm
  have result : thumbDecodeHalf state pc tinstr following =
      .decoded (thumbStackTransfer tinstr) := by
    rcases group with group | group <;> simp only [thumbDecodeHalf, group]
  subst named
  simp only [exec, Option.map_eq_some_iff] at ran
  obtain ⟨after, defined, rfl⟩ := ran
  rw [result]
  exact shows_stackTransfer bus traps cops tinstr ready defined

theorem realizes_address
    (group : tinstr.extractLsb' 11 5 = 20#5 ∨ tinstr.extractLsb' 11 5 = 21#5) :
    Realizes bus.toBus traps cops state pc (emulated effect)
      (thumbDecodeHalf state pc tinstr following) := by
  rcases group with group | group
  · simp only [decode, group, Option.some.injEq] at decoded
    subst decoded
    cases ran
    simp only [thumbDecodeHalf, group]
    exact shows_addPc bus.toBus traps cops tinstr ready (extract_bit group (show 0 < 5 by decide))
  · simp only [decode, group, Option.some.injEq] at decoded
    subst decoded
    cases ran
    simp only [thumbDecodeHalf, group]
    exact shows_addSp bus.toBus traps cops tinstr ready (extract_bit group (show 0 < 5 by decide))

theorem realizes_block (group : tinstr.extractLsb' 11 5 = 24#5 ∨ tinstr.extractLsb' 11 5 = 25#5)
    (steady : ¬Departs state pc tinstr) :
    Realizes bus.toBus traps cops state pc (emulated effect)
      (thumbDecodeHalf state pc tinstr following) := by
  rcases group with group | group
  · simp only [decode, group, Option.some.injEq] at decoded
    subst decoded
    simp only [exec, Option.map_eq_some_iff] at ran
    obtain ⟨after, defined, rfl⟩ := ran
    simp only [thumbDecodeHalf, group]
    exact shows_stmia tinstr bus.toBus traps cops ready
      (extract_bit group (show 0 < 5 by decide)) defined
  · have named := decoded
    simp only [decode, group, Option.some.injEq] at named
    subst named
    rw [Departs, decoded] at steady
    simp only [exec, Option.map_eq_some_iff] at ran
    obtain ⟨after, defined, rfl⟩ := ran
    simp only [thumbDecodeHalf, group]
    exact shows_ldmia tinstr bus.toBus traps cops ready
      (extract_bit group (show 0 < 5 by decide)) steady defined

theorem realizes_branch (group : tinstr.extractLsb' 11 5 = 28#5) :
    Realizes bus.toBus traps cops state pc (emulated effect)
      (thumbDecodeHalf state pc tinstr following) := by
  simp only [decode, group, Option.some.injEq] at decoded
  subst decoded
  cases ran
  simp only [thumbDecodeHalf, group, thumbOffset_eq]
  exact shows_branch ready _

theorem realizes_suffix (group : tinstr.extractLsb' 11 5 = 29#5 ∨ tinstr.extractLsb' 11 5 = 31#5) :
    Realizes bus.toBus traps cops state pc (emulated effect)
      (thumbDecodeHalf state pc tinstr following) := by
  have suffix : isSuffix tinstr = true := by
    simpa [isSuffix] using group
  obtain ⟨after, final, same, rfl, shown⟩ := shows_thumbSuffix (within_refl ready.ready pc)
    ready.isV5 suffix decoded ran pc
  have branched : thumbDecodeHalf state pc tinstr following = .branched after := by
    rcases group with group | group <;>
      simp only [thumbDecodeHalf, group] <;>
      exact same
  rw [branched]
  exact shown

variable (declines : ∀ link word, emulated effect = .softwareInterrupt link →
  thumbDecodeHalf state pc tinstr following = .decoded word →
    traps.undfTrap state word = (state, false))

include declines

theorem realizes_stack (group : tinstr.extractLsb' 11 5 = 22#5 ∨ tinstr.extractLsb' 11 5 = 23#5) :
    Realizes bus.toBus traps cops state pc (emulated effect)
      (thumbDecodeHalf state pc tinstr following) := by
  have stack : decodeStack tinstr = some instr ∧
      thumbDecodeHalf state pc tinstr following = .decoded (thumbStack tinstr) := by
    rcases group with group | group <;>
      simp only [decode, group] at decoded <;>
      exact ⟨decoded, by simp only [thumbDecodeHalf, group]⟩
  rw [stack.2]
  have named := stack.1
  unfold decodeStack at named
  split at named
  · rename_i code
    cases named
    cases ran
    rw [thumbStack, if_pos code]
    exact shows_adjustSp bus.toBus traps cops tinstr ready
  · rename_i code
    cases named
    simp only [exec, Option.map_eq_some_iff] at ran
    obtain ⟨after, defined, rfl⟩ := ran
    rw [@thumbStack_push tinstr false code]
    exact shows_push tinstr bus.toBus traps cops ready defined
  · rename_i code
    cases named
    simp only [exec, Option.map_eq_some_iff] at ran
    obtain ⟨after, defined, rfl⟩ := ran
    rw [@thumbStack_push tinstr true code]
    exact shows_push tinstr bus.toBus traps cops ready defined
  · rename_i code
    cases named
    simp only [exec, Option.map_eq_some_iff] at ran
    obtain ⟨after, defined, rfl⟩ := ran
    rw [@thumbStack_pop tinstr false code]
    exact shows_pop tinstr bus.toBus traps cops ready defined
  · rename_i code
    cases named
    simp only [exec, Option.map_eq_some_iff] at ran
    obtain ⟨after, defined, rfl⟩ := ran
    rw [@thumbStack_pop tinstr true code]
    exact shows_pop tinstr bus.toBus traps cops ready defined
  · rename_i code
    cases named
    cases ran
    have breakpoint : thumbStack tinstr = 0xef180000#32 := by
      rw [thumbStack, code]
      rfl
    have link : pc + 4#32 - 2#32 = pc + 2#32 := by bv_omega
    have swi : IsSwi 0xef180000#32 := ⟨rfl, rfl⟩
    rw [breakpoint]
    have entered := enters_softwareInterrupt bus.toBus traps cops ready swi (by decide)
      (declines _ _ rfl (by rw [stack.2, breakpoint]))
    rw [← link] at entered
    exact entered
  · cases named

theorem realizes_cond (group : tinstr.extractLsb' 11 5 = 26#5 ∨ tinstr.extractLsb' 11 5 = 27#5)
    (steady : ¬Departs state pc tinstr) :
    Realizes bus.toBus traps cops state pc (emulated effect)
      (thumbDecodeHalf state pc tinstr following) := by
  have named : decodeCond tinstr = some instr := by
    rcases group with group | group <;>
      simp only [decode, group] at decoded <;>
      exact decoded
  have result : thumbDecodeHalf state pc tinstr following =
      if tinstr.extractLsb' 8 4 = 0xf#4 then .decoded (thumbSwi state pc tinstr)
      else if tinstr.extractLsb' 8 4 = 0xe#4 then .undefined
      else .branched (thumbCondBranch state pc tinstr) := by
    rcases group with group | group <;>
      simp only [thumbDecodeHalf, group]
  rw [result]
  unfold decodeCond at named
  split at named
  · cases named
  · rename_i code
    cases named
    cases ran
    rw [Departs, decoded] at steady
    obtain ⟨swi, unmarked⟩ := thumbSwi_isSwi ready.thumb steady
    rw [if_pos code] at result ⊢
    exact enters_softwareInterrupt bus.toBus traps cops ready swi unmarked
      (declines _ _ rfl result)
  · rename_i undefinedCode swi
    cases named
    cases ran
    rw [if_neg swi, if_neg undefinedCode]
    exact shows_thumbCondBranch ready tinstr

end Formats

section Meaning

theorem decode_blPrefix {code : BitVec 16} {offset : BitVec 11}
    (decoded : decode code = some (.blPrefix offset)) : code.extractLsb' 11 5 = 30#5 := by
  have addSub : decodeAddSub code ≠ .blPrefix offset := by
    unfold decodeAddSub
    split <;> simp
  have high : decodeHigh code ≠ some (.blPrefix offset) := by
    unfold decodeHigh
    split
    · simp
    · simp
    · simp
    · split
      · simp
      · split <;> simp
  have stack : decodeStack code ≠ some (.blPrefix offset) := by
    unfold decodeStack
    split <;> simp
  have cond : decodeCond code ≠ some (.blPrefix offset) := by
    unfold decodeCond
    split <;> simp
  unfold decode at decoded
  split at decoded <;>
    first
    | assumption
    | exact absurd decoded stack
    | exact absurd decoded cond
    | exact absurd (Option.some.inj decoded) addSub
    | cases decoded
    | skip
  · split at decoded
    · exact absurd decoded high
    · cases decoded
  · split at decoded <;> cases decoded

theorem meaning_exec {memory : Memory Mem} {code following : BitVec 16} {machine : Processor Mem}
    {effect : Effect Mem} (whole : code.extractLsb' 11 5 ≠ 30#5)
    (defined : meaning memory code following machine = some effect) :
    ∃ instr, decode code = some instr ∧ exec memory instr machine = some effect := by
  rw [meaning, Option.bind_eq_bind, Option.bind_eq_some_iff] at defined
  obtain ⟨instr, decoded, ran⟩ := defined
  refine ⟨instr, decoded, ?_⟩
  split at ran
  · exact absurd (decode_blPrefix decoded) whole
  · exact ran

variable {state : ARMulState Mem} {pc : ARMword} {bus : NarrowBus Mem} {traps : Traps Mem}
  {cops : Coprocessors Mem} {effect : Effect Mem}

theorem realizes_halfword (ready : ThumbReady state pc) {tinstr following : Halfword}
    (declines : ∀ link word, emulated effect = .softwareInterrupt link →
      thumbDecodeHalf state pc tinstr following = .decoded word →
        traps.undfTrap state word = (state, false))
    (steady : ¬Departs state pc tinstr)
    (defined : meaning (busMemory bus.toBus bus.plain state.mode) tinstr following
      (machineOf state pc) = some effect) :
    Realizes bus.toBus traps cops state pc (emulated effect)
      (thumbDecodeHalf state pc tinstr following) := by
  by_cases prefixes : tinstr.extractLsb' 11 5 = 30#5
  · obtain ⟨after, final, branched, rfl, shown⟩ := shows_thumbPrefix ready prefixes defined
    simp only [thumbDecodeHalf, prefixes, branched]
    exact shown
  · obtain ⟨instr, decoded, ran⟩ := meaning_exec prefixes defined
    rcases group_cases (tinstr.extractLsb' 11 5) with group | group | group | group | group |
      group | group | group | group | group | group | group | group | group | group |
      group
    · exact realizes_shift ready decoded ran group
    · exact realizes_addSub ready decoded ran group
    · exact realizes_immediate ready decoded ran group
    · cases high : tinstr.getLsbD 10 with
      | true => exact realizes_high ready decoded ran group high steady
      | false => exact realizes_alu ready decoded ran group high
    · exact realizes_literal ready decoded ran group
    · exact realizes_regTransfer ready decoded ran group
    · exact realizes_immTransfer ready decoded ran group
    · exact realizes_halfTransfer ready decoded ran group
    · exact realizes_stackTransfer ready decoded ran group
    · exact realizes_address ready decoded ran group
    · exact realizes_stack ready decoded ran declines group
    · exact realizes_block ready decoded ran group steady
    · exact realizes_cond ready decoded ran declines group steady
    · exact realizes_branch ready decoded ran group
    · exact realizes_suffix ready decoded ran group
    · exact absurd group prefixes

/-- The halfword at `pc`, through the decoder and the main switch. -/
theorem thumb_preserves_meaning (ready : ThumbReady state pc) {word : ARMword}
    (declines : ∀ link instr, emulated effect = .softwareInterrupt link →
      armulThumbDecode state pc word = .decoded instr →
        traps.undfTrap state instr = (state, false))
    (steady : ¬Departs state pc (thumbHalves state.bigendSig word).1)
    (defined : meaning (busMemory bus.toBus bus.plain state.mode)
      (thumbHalves state.bigendSig word).1 (thumbHalves state.bigendSig word).2
      (machineOf state pc) = some effect) :
    Performs bus.highVectors state (execute bus.toBus traps cops state pc word) pc
      (emulated effect) := by
  have realized : Realizes bus.toBus traps cops state pc (emulated effect)
      (armulThumbDecode state pc word) :=
    realizes_halfword ready declines steady defined
  rw [execute, if_pos ready.thumb]
  cases result : armulThumbDecode state pc word with
  | undefined =>
      rw [result] at realized
      exact realized.elim
  | branched after =>
      rw [result] at realized
      exact realized
  | decoded instr =>
      rw [result] at realized
      exact realized

theorem and_laneMask (width : Width) (word : ARMword) :
    word &&& laneMask (accessSize width) = (word.setWidth width.bits).setWidth 32 := by
  apply BitVec.eq_of_toNat_eq
  have low (bits : Nat) : word.toNat &&& (2 ^ bits - 1) = word.toNat % 2 ^ bits :=
    Nat.and_two_pow_sub_one_eq_mod word.toNat bits
  have bound := word.isLt
  cases width with
  | byte =>
      simp only [laneMask, accessSize, Width.bits, BitVec.toNat_and, BitVec.toNat_setWidth]
      rw [show (0xff#32).toNat = 2 ^ 8 - 1 from rfl, low]
      omega
  | half =>
      simp only [laneMask, accessSize, Width.bits, BitVec.toNat_and, BitVec.toNat_setWidth]
      rw [show (0xffff#32).toNat = 2 ^ 16 - 1 from rfl, low]
      omega
  | word =>
      simp only [laneMask, accessSize, Width.bits, BitVec.toNat_and, BitVec.toNat_setWidth]
      rw [show (0xffffffff#32).toNat = 2 ^ 32 - 1 from rfl, low]
      omega

theorem lane_and (width : Width) (data : ARMword) (shift : Nat) :
    (data &&& laneMask (accessSize width)) <<< shift &&& laneMask (accessSize width) <<< shift =
      data <<< shift &&& laneMask (accessSize width) <<< shift := by
  rw [BitVec.shiftLeft_and_distrib, BitVec.and_assoc, BitVec.and_self]

def narrowFlatBus : NarrowBus FlatMemory :=
  { flatBus with
    plain := fun _ _ _ _ => true
    read_narrow := by
      intro width mode address mem _
      simp only [flatBus, flatRead, ← and_laneMask, BitVec.and_assoc, BitVec.and_self]
    write_narrow := by
      intro width mode address data mem _
      simp only [flatBus, flatWrite, ← and_laneMask, lane_and] }

/-- `POP {r0, pc}` at an address that is 2 modulo 4. -/
def poppingCore : ARMulState FlatMemory :=
  coreAt user32mode true 0x8002#32 (flatMemory fun address => address + 0x41#32)

theorem poppingCore_ready : ThumbReady poppingCore 0x8002#32 := by
  exact ⟨rfl, rfl, rfl, rfl, rfl, rfl, rfl, coreAt_coherent (by decide) _ _ _⟩

/-- With `SWI 5`, which the hook of the machine declines, at the same address. -/
theorem thumb_pops :
    let traps := starletTraps flatBus flatPhysical
    let popped := execute flatBus traps noUnits poppingCore 0x8002#32 0xbd010000#32
    let called := execute flatBus traps noUnits poppingCore 0x8002#32 0xdf050000#32
    (popped.reg 0#4 = 0x41#32 ∧ popped.reg 13#4 = 8#32 ∧ popped.tFlag = true ∧
      nextPc popped 0x8002#32 = 0x44#32) ∧ called.mode = svc32mode ∧ called.reg 14#4 = 0x8004#32 := by
  intro traps popped called
  have shown := @thumb_preserves_meaning _ poppingCore 0x8002#32 narrowFlatBus traps noUnits _
    poppingCore_ready 0xbd010000#32 (fun _ _ interrupts => by cases interrupts)
    (fun departs => departs) rfl
  have entered := @thumb_preserves_meaning _ poppingCore 0x8002#32 narrowFlatBus traps noUnits _
    poppingCore_ready 0xdf050000#32 (fun _ _ _ decoded => by cases decoded; rfl)
    (fun departs => absurd departs.1 (by decide)) rfl
  exact ⟨⟨shown.regs 0#4 (by decide), shown.regs 13#4 (by decide), shown.thumb, shown.next⟩,
    entered.mode, entered.link⟩

/-- `BKPT` enters the software interrupt and not the prefetch abort. -/
theorem breakpoint_interrupts :
    let state := coreAt user32mode true 0x8002#32 (flatMemory fun _ => 0#32)
    ∃ effect, meaning (busMemory flatBus narrowFlatBus.plain state.mode) 0xbe00#16 0#16
        (machineOf state 0x8002#32) = some effect ∧
      ¬Performs flatBus.highVectors state
        (execute flatBus noTraps noUnits state 0x8002#32 0xbe000000#32) 0x8002#32 effect := by
  intro state
  refine ⟨_, rfl, fun entered => ?_⟩
  have mode : (execute flatBus noTraps noUnits state 0x8002#32 0xbe000000#32).mode = svc32mode := by
    decide
  exact absurd (mode.symm.trans entered.mode) (by decide)

end Meaning

end SkyeyeStarlet
