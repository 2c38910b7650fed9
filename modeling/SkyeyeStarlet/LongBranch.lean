import SkyeyeStarlet.Pipeline
import SkyeyeStarlet.ThumbMeaning
import SkyeyeStarlet.ThumbFetch

/-!
A long branch and its two halves.  The decoder runs the second half with the first one when
it stands behind it in the fetched word; alone, the first half leaves its part of the target
in register 14 for a second half at the next address.
-/

namespace SkyeyeStarlet

open ThumbIsa

variable {Mem : Type}

section Words

def longOffset (first second : Halfword) : ARMword :=
  (first.extractLsb' 0 11 ++ second.extractLsb' 0 11).signExtend 32 <<< 1

theorem longOffset_eq (first second : Halfword) :
    thumbPrefixOffset first + field second 0 11 1 = longOffset first second := by
  rw [thumbPrefixOffset_eq, longOffset, field]
  generalize first.extractLsb' 0 11 = high
  generalize second.extractLsb' 0 11 = low
  have apart : high.signExtend 32 <<< 12 &&& low.setWidth 32 <<< 1 = 0#32 := by
    apply BitVec.eq_of_getLsbD_eq
    intro index bound
    simp only [BitVec.getLsbD_and, BitVec.getLsbD_shiftLeft, BitVec.getLsbD_setWidth,
      BitVec.getLsbD_zero]
    by_cases below : index < 12
    · simp [below]
    · have beyond : low.getLsbD (index - 1) = false := BitVec.getLsbD_of_ge _ _ (by omega)
      simp [beyond]
  rw [BitVec.add_eq_or_of_and_eq_zero _ _ apart]
  apply BitVec.eq_of_getLsbD_eq
  intro index bound
  have sign : (high ++ low).msb = high.msb := by
    rw [BitVec.msb_append]
    rfl
  simp only [BitVec.getLsbD_or, BitVec.getLsbD_shiftLeft, BitVec.getLsbD_signExtend, sign,
    BitVec.getLsbD_setWidth, BitVec.getLsbD_append]
  by_cases lowest : index < 1
  · simp [lowest, show index < 12 by omega]
  · by_cases inLow : index < 12
    · simp [bound, lowest, inLow, show index - 1 < 32 by omega, show index - 1 < 22 by omega,
        show index - 1 < 11 by omega]
    · have beyond : low.getLsbD (index - 1) = false := BitVec.getLsbD_of_ge _ _ (by omega)
      have place : index - 1 - 11 = index - 12 := by omega
      simp only [bound, lowest, inLow, beyond, place, decide_true, decide_false, Bool.not_false,
        Bool.true_and, Bool.and_false, Bool.or_false, show index - 12 < 32 by omega,
        show index - 1 < 32 by omega, show ¬index - 1 < 11 by omega, if_false]
      by_cases inHigh : index - 12 < 11
      · simp [inHigh, show index - 1 < 22 by omega]
      · simp [inHigh, show ¬index - 1 < 22 by omega]

theorem thumbHalves_splice (bigend : Bool) (first second : ARMword) :
    thumbHalves bigend
        (if bigend then (first <<< 16) ||| (second >>> 16)
          else ((second &&& 0xffff#32) <<< 16) ||| (first >>> 16)) =
      ((thumbHalves bigend first).2, (thumbHalves bigend second).1) := by
  have mask : 0xffff#32 = (BitVec.allOnes 16).setWidth 32 := by decide
  have beyond (word : ARMword) (index : Nat) (high : 32 ≤ index) : word.getLsbD index = false :=
    BitVec.getLsbD_of_ge _ _ high
  cases bigend with
  | true =>
      apply Prod.ext
      · apply BitVec.eq_of_getLsbD_eq
        intro index bound
        simp only [thumbHalves, if_true, BitVec.getLsbD_extractLsb', BitVec.getLsbD_or,
          BitVec.getLsbD_shiftLeft, BitVec.getLsbD_ushiftRight]
        grind
      · apply BitVec.eq_of_getLsbD_eq
        intro index bound
        simp only [thumbHalves, if_true, BitVec.getLsbD_extractLsb', BitVec.getLsbD_or,
          BitVec.getLsbD_shiftLeft, BitVec.getLsbD_ushiftRight]
        grind
  | false =>
      apply Prod.ext
      · apply BitVec.eq_of_getLsbD_eq
        intro index bound
        simp only [thumbHalves, Bool.false_eq_true, if_false, mask, BitVec.getLsbD_extractLsb',
          BitVec.getLsbD_or, BitVec.getLsbD_shiftLeft, BitVec.getLsbD_ushiftRight,
          BitVec.getLsbD_and, BitVec.getLsbD_setWidth, BitVec.getLsbD_allOnes]
        grind
      · apply BitVec.eq_of_getLsbD_eq
        intro index bound
        simp only [thumbHalves, Bool.false_eq_true, if_false, mask, BitVec.getLsbD_extractLsb',
          BitVec.getLsbD_or, BitVec.getLsbD_shiftLeft, BitVec.getLsbD_ushiftRight,
          BitVec.getLsbD_and, BitVec.getLsbD_setWidth, BitVec.getLsbD_allOnes]
        grind

def HoldsCode (bus : Bus Mem) (bigend : Bool) (code : ARMword → Halfword) : Prop :=
  ∀ mode index place mem, (bus.fetch mode (byteAddress index place) mem).fault = .noFault →
    thumbHalves bigend (bus.fetch mode (byteAddress index place) mem).data =
      (code (byteAddress index 0#2), code (byteAddress index 2#2))

/-- Fetched from memory that holds `code`, a word has the halfword at its address first and
the next one behind it, in both halves of a word of memory. -/
theorem fetchWord_halves {bus : Bus Mem} {state : ARMulState Mem} {code : ARMword → Halfword}
    (delivers : HoldsCode bus state.bigendSig code) {pc word : ARMword} {mem : Mem}
    (even : pc.getLsbD 0 = false) (fetched : fetchWord bus state pc 2#32 = (mem, some word)) :
    thumbHalves state.bigendSig word = (code pc, code (pc + 2#32)) := by
  obtain ⟨index, place, rfl⟩ := exists_byteAddress pc
  have half : place = 0#2 ∨ place = 2#2 := by
    have places : ∀ place : BitVec 2, place.getLsbD 0 = false → place = 0#2 ∨ place = 2#2 := by
      decide
    rw [getLsbD_byteAddress, if_pos (by decide)] at even
    exact places place even
  have upper : (byteAddress index place).getLsbD 1 = place.getLsbD 1 := by
    rw [getLsbD_byteAddress, if_pos (by decide)]
  unfold fetchWord at fetched
  dsimp only at fetched
  split at fetched
  · rename_i fine
    have first := delivers _ _ _ _ fine
    rcases half with rfl | rfl
    · rw [upper, if_neg (fun both => absurd both.2 (by decide))] at fetched
      cases fetched
      rw [first, byteAddress_add_two]
    · have next : byteAddress index 2#2 + 4#32 = byteAddress (index + 1#30) 2#2 := by
        rw [← byteAddress_add_two (index + 1#30), ← byteAddress_next, BitVec.add_assoc]
        rfl
      rw [upper, if_pos ⟨rfl, rfl⟩, next] at fetched
      split at fetched
      · rename_i fineNext
        have second := delivers _ _ _ _ fineNext
        cases fetched
        rw [thumbHalves_splice, first, second, byteAddress_next]
      · cases fetched
  · cases fetched

end Words

section Halves

/-- What the loop leaves alone between two halfwords: everything but register 15, the
pipeline and the memory. -/
structure Between (before after : ARMulState Mem) : Prop where
  regs : ∀ number, number ≠ 15#4 → after.reg number = before.reg number
  regBank : after.file.regBank = before.file.regBank
  bank : after.file.bank = before.file.bank
  flags : after.flags = before.flags
  cpsr : after.cpsr = before.cpsr
  spsr : after.spsr = before.spsr
  mode : after.mode = before.mode
  isV5 : after.isV5 = before.isV5

structure SameProcessor (first second : ARMulState Mem) : Prop where
  file : first.file = second.file
  flags : first.flags = second.flags
  cpsr : first.cpsr = second.cpsr
  spsr : first.spsr = second.spsr
  mode : first.mode = second.mode

def exchanges (second : Halfword) : Bool :=
  second.extractLsb' 11 5 == 29#5

structure LongBranched (before after : ARMulState Mem) (pc : ARMword) (first second : Halfword) :
    Prop where
  target : after.reg 15#4 =
    if exchanges second then (pc + 4#32 + longOffset first second) &&& ~~~3#32
    else pc + 4#32 + longOffset first second
  link : after.reg 14#4 = (pc + 4#32) ||| 1#32
  thumb : after.tFlag = !exchanges second
  others : ∀ number, number ≠ 14#4 → number ≠ 15#4 → after.reg number = before.reg number

variable {state : ARMulState Mem} {pc : ARMword}

theorem Between.other {before state : ARMulState Mem} (between : Between before state) (mem : Mem)
    (nextInstr : BitVec 8) (abortSig : Bool) (abortAddr : ARMword) :
    Between before { state with mem, nextInstr, abortSig, abortAddr } := by
  exact ⟨between.regs, between.regBank, between.bank, between.flags, between.cpsr, between.spsr,
    between.mode, between.isV5⟩

theorem between_reload (bus : Bus Mem) {before state : ARMulState Mem}
    (between : Between before state) (address isize : ARMword) :
    Between before (armulReLoadInstr bus state address isize).1 := by
  simp only [armulReLoadInstr]
  split
  · exact between.other _ _ _ _
  · simp only [prefetchAbort]
    split <;> exact between.other _ _ _ _

theorem between_round (bus : Bus Mem) (emulator : Emulator Mem) (round : Round Mem)
    (sequential : emulator.cpu.nextInstr < 4#8) :
    Between emulator.cpu ((primePipe bus emulator).executing round) ∧
      (primePipe bus emulator).pc = emulator.pc + insnSize emulator.cpu := by
  have stepped : Between emulator.cpu (stepPc emulator) := by
    simp only [stepPc]
    split
    · exact ⟨fun _ _ => rfl, rfl, rfl, rfl, rfl, rfl, rfl, rfl⟩
    · refine ⟨?_, rfl, rfl, rfl, rfl, rfl, rfl, rfl⟩
      intro number notPc
      exact Function.update_of_ne notPc _ _
  have fetched := between_reload bus stepped
    (emulator.pc + insnSize emulator.cpu + insnSize emulator.cpu * 2#32) (insnSize emulator.cpu)
  rw [primePipe_advance sequential]
  exact ⟨fetched.other _ _ _ _, rfl⟩

theorem thumbDecode_firstHalf {word : ARMword} {first next : Halfword}
    (halves : thumbHalves state.bigendSig word = (first, next))
    (prefixes : first.extractLsb' 11 5 = 30#5) :
    armulThumbDecode state pc word = thumbPrefix state pc first next := by
  simp only [armulThumbDecode, halves, thumbDecodeHalf, prefixes]

theorem thumbDecode_suffix {word : ARMword} {second : Halfword}
    (halves : (thumbHalves state.bigendSig word).1 = second) (suffixes : isSuffix second = true) :
    armulThumbDecode state pc word = thumbSuffix state pc second := by
  rw [isSuffix, Bool.or_eq_true, beq_iff_eq, beq_iff_eq] at suffixes
  rcases suffixes with group | group
  · simp only [armulThumbDecode, halves, thumbDecodeHalf, group]
    rfl
  · simp only [armulThumbDecode, halves, thumbDecodeHalf, group]
    rfl

theorem thumbPrefix_fused (isV5 : state.isV5 = true) {first second : Halfword}
    (suffixes : isSuffix second = true) :
    thumbPrefix state pc first second =
      thumbSuffix (state.setReg 14#4 (state.reg 15#4 + thumbPrefixOffset first)) (pc + 2#32)
        second := by
  rw [isSuffix, Bool.or_eq_true, beq_iff_eq, beq_iff_eq] at suffixes
  rw [thumbPrefix, if_neg]
  rintro ⟨notBl, old | notBlx⟩
  · rw [isV5] at old
    cases old
  · exact suffixes.elim notBlx notBl

theorem thumbPrefix_alone {first other : Halfword} (follows : isSuffix other = false) :
    thumbPrefix state pc first other =
      .branched (state.setReg 14#4 (state.reg 15#4 + thumbPrefixOffset first)) := by
  simp only [isSuffix, Bool.or_eq_false_iff, beq_eq_false_iff_ne] at follows
  rw [thumbPrefix, if_pos ⟨follows.2, Or.inr follows.1⟩]

/-- The end of a long branch whose first half has left `base` in register 14. -/
def suffixEnd (state : ARMulState Mem) (pc base : ARMword) (second : Halfword) : ARMulState Mem :=
  let linked := state.setReg 14#4 ((pc + 2#32) ||| 1#32)
  let dest := base + field second 0 11 1
  if exchanges second then
    let flags := { linked.flags with tFlag := false }
    flushpipe
      { linked.setReg 15#4 (dest &&& 0xfffffffc#32) with
        flags, cpsr := packCPSR flags linked.mode }
  else thumbJump linked dest

theorem thumbSuffix_eq (isV5 : state.isV5 = true) (second : Halfword) :
    thumbSuffix state pc second = .branched (suffixEnd state pc (state.reg 14#4) second) := by
  unfold thumbSuffix suffixEnd exchanges
  simp only [isV5, Bool.not_true, Bool.and_false, Bool.false_eq_true, if_false]
  split <;> rfl

section SuffixEnd

variable (state : ARMulState Mem) (pc base : ARMword) (second : Halfword)

theorem suffixEnd_file :
    (suffixEnd state pc base second).file =
      (state.file.set 14#4 ((pc + 2#32) ||| 1#32)).set 15#4
        (if exchanges second then (base + field second 0 11 1) &&& 0xfffffffc#32
          else base + field second 0 11 1) := by
  simp only [suffixEnd]
  split <;> rfl

theorem suffixEnd_flags :
    (suffixEnd state pc base second).flags =
      if exchanges second then { state.flags with tFlag := false } else state.flags := by
  simp only [suffixEnd]
  split <;> rfl

theorem suffixEnd_cpsr :
    (suffixEnd state pc base second).cpsr =
      if exchanges second then packCPSR { state.flags with tFlag := false } state.mode
      else state.cpsr := by
  simp only [suffixEnd]
  split <;> rfl

theorem suffixEnd_saved :
    (suffixEnd state pc base second).spsr = state.spsr ∧
      (suffixEnd state pc base second).mode = state.mode := by
  simp only [suffixEnd]
  split <;> exact ⟨rfl, rfl⟩

end SuffixEnd

theorem Between.jumped {before between : ARMulState Mem} (kept : Between before between)
    (link target : ARMword) :
    (before.file.set 14#4 link).set 15#4 target = (between.file.set 14#4 link).set 15#4 target := by
  have regs (number : RegNum) (notPc : number ≠ 15#4) :
      between.file.reg number = before.file.reg number := kept.regs number notPc
  have updated : Function.update (Function.update before.file.reg 14#4 link) 15#4 target =
      Function.update (Function.update between.file.reg 14#4 link) 15#4 target := by
    funext number
    by_cases isPc : number = 15#4
    · subst isPc
      rw [Function.update_self, Function.update_self]
    · rw [Function.update_of_ne isPc, Function.update_of_ne isPc]
      by_cases isLink : number = 14#4
      · subst isLink
        rw [Function.update_self, Function.update_self]
      · rw [Function.update_of_ne isLink, Function.update_of_ne isLink, regs number isPc]
  simp only [Registers.set, updated, kept.regBank, kept.bank]

theorem Between.suffixEnd {before between : ARMulState Mem} (kept : Between before between)
    (base : ARMword) (second : Halfword) :
    SameProcessor (SkyeyeStarlet.suffixEnd before pc base second)
      (SkyeyeStarlet.suffixEnd between pc base second) := by
  obtain ⟨spsr, mode⟩ := suffixEnd_saved before pc base second
  obtain ⟨spsr', mode'⟩ := suffixEnd_saved between pc base second
  refine ⟨?_, ?_, ?_, ?_, ?_⟩
  · rw [suffixEnd_file, suffixEnd_file, kept.jumped]
  · rw [suffixEnd_flags, suffixEnd_flags, kept.flags]
  · rw [suffixEnd_cpsr, suffixEnd_cpsr, kept.flags, kept.mode, kept.cpsr]
  · rw [spsr, spsr', kept.spsr]
  · rw [mode, mode', kept.mode]

theorem suffixEnd_longBranched (thumb : state.tFlag = true) (ahead : state.reg 15#4 = pc + 4#32)
    (first second : Halfword) :
    LongBranched state
      (suffixEnd (state.setReg 14#4 (state.reg 15#4 + thumbPrefixOffset first)) (pc + 2#32)
        (state.reg 15#4 + thumbPrefixOffset first) second)
      pc first second := by
  rw [ahead]
  have file := suffixEnd_file (state.setReg 14#4 (pc + 4#32 + thumbPrefixOffset first))
    (pc + 2#32) (pc + 4#32 + thumbPrefixOffset first) second
  have behind : pc + 2#32 + 2#32 = pc + 4#32 := by
    rw [BitVec.add_assoc]
    rfl
  rw [BitVec.add_assoc (pc + 4#32), longOffset_eq, behind] at file
  refine ⟨?_, ?_, ?_, ?_⟩
  · rw [ARMulState.reg, file]
    simp only [Registers.set, Function.update_self]
    rfl
  · rw [ARMulState.reg, file]
    simp only [Registers.set, Function.update_of_ne (show 14#4 ≠ 15#4 by decide),
      Function.update_self]
  · rw [ARMulState.tFlag, suffixEnd_flags]
    cases exchanges second with
    | true => rfl
    | false => exact thumb
  · intro number notLink notPc
    rw [ARMulState.reg, file]
    simp only [Registers.set, ARMulState.setReg, Function.update_of_ne notPc,
      Function.update_of_ne notLink]
    rfl

/-- The fused pair of a version 5 core ends as its two halves one after the other, with
register 15 wherever the loop has it in between: at the target that the architecture gives
a long branch, with the address behind the pair in register 14.  The pair is what the loop
fetches from memory that holds the two halves, and the round behind the first half is at the
second one. -/
theorem long_branch_fused (thumb : state.tFlag = true) (isV5 : state.isV5 = true)
    {first second other : Halfword} (prefixes : first.extractLsb' 11 5 = 30#5)
    (suffixes : isSuffix second = true) (follows : isSuffix other = false)
    {pair alone : ARMword} (fetched : thumbHalves state.bigendSig pair = (first, second))
    (apart : thumbHalves state.bigendSig alone = (first, other)) :
    ∃ fused prefixed,
      armulThumbDecode state pc pair = .branched fused ∧
      armulThumbDecode state pc alone = .branched prefixed ∧
      (∀ between word, Between prefixed between →
        (thumbHalves between.bigendSig word).1 = second →
        ∃ halves, armulThumbDecode between (pc + 2#32) word = .branched halves ∧
          SameProcessor fused halves) ∧
      (state.reg 15#4 = pc + 4#32 → LongBranched state fused pc first second) ∧
      (∀ (bus : Bus Mem) (code : ARMword → Halfword) (mem : Mem) (word : ARMword),
        HoldsCode bus state.bigendSig code → pc.getLsbD 0 = false → code pc = first →
        code (pc + 2#32) = second → fetchWord bus state pc 2#32 = (mem, some word) →
          armulThumbDecode state pc word = .branched fused) ∧
      (∀ (bus : Bus Mem) (emulator : Emulator Mem) (round : Round Mem),
        emulator.cpu = prefixed → emulator.pc = pc → state.nextInstr < 4#8 →
          (primePipe bus emulator).pc = pc + 2#32 ∧
            Between prefixed ((primePipe bus emulator).executing round)) := by
  let prefixed := state.setReg 14#4 (state.reg 15#4 + thumbPrefixOffset first)
  have base : prefixed.reg 14#4 = state.reg 15#4 + thumbPrefixOffset first :=
    setReg_reg_self state 14#4 _
  have decodes (word : ARMword) (halves : thumbHalves state.bigendSig word = (first, second)) :
      armulThumbDecode state pc word =
        .branched (suffixEnd prefixed (pc + 2#32) (prefixed.reg 14#4) second) := by
    rw [thumbDecode_firstHalf halves prefixes, thumbPrefix_fused isV5 suffixes]
    exact @thumbSuffix_eq Mem prefixed (pc + 2#32) isV5 second
  refine ⟨suffixEnd prefixed (pc + 2#32) (prefixed.reg 14#4) second, prefixed,
    decodes pair fetched, ?_, ?_, ?_, ?_, ?_⟩
  · rw [thumbDecode_firstHalf apart prefixes, thumbPrefix_alone follows]
  · intro between word kept behind
    have keptBase : between.reg 14#4 = prefixed.reg 14#4 := kept.regs 14#4 (by decide)
    refine ⟨suffixEnd between (pc + 2#32) (prefixed.reg 14#4) second, ?_, kept.suffixEnd _ _⟩
    rw [thumbDecode_suffix behind suffixes, thumbSuffix_eq (kept.isV5.trans isV5), keptBase]
  · intro ahead
    rw [base]
    exact suffixEnd_longBranched thumb ahead first second
  · rintro bus code mem word holds even rfl rfl taken
    exact decodes word (fetchWord_halves holds even taken)
  · rintro bus emulator round cpu rfl sequential
    obtain ⟨kept, next⟩ := between_round bus emulator round (by rw [cpu]; exact sequential)
    rw [cpu] at kept next
    refine ⟨next.trans (congrArg (emulator.pc + ·) ?_), kept⟩
    exact if_pos thumb

/-- A backward `BLX` at an address that is 2 modulo 4. -/
theorem long_branch_fused_blx :
    ∃ fused, armulThumbDecode poppingCore 0x8002#32 0xf7ffeffe#32 = .branched fused ∧
      fused.reg 15#4 = 0x8000#32 ∧ fused.reg 14#4 = 0x8007#32 ∧ fused.tFlag = false := by
  obtain ⟨fused, _, ran, _, _, lands, _⟩ := @long_branch_fused _ poppingCore 0x8002#32 rfl rfl
    0xf7ff#16 0xeffe#16 0x0#16 (by decide) (by decide) (by decide) 0xf7ffeffe#32 0xf7ff0000#32
    (by decide) (by decide)
  have branched := lands rfl
  exact ⟨fused, ran, branched.target, branched.link, branched.thumb⟩

end Halves

end SkyeyeStarlet
