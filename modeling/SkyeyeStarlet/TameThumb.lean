import SkyeyeStarlet.TameWords

/-!
The halfwords that the architecture defines, and that go on, seen from the loop of
`ARMul_Emulate32`: the words that the Thumb decoder makes of them, and the branches that it
runs itself.
-/

namespace SkyeyeStarlet

open ThumbIsa

variable {Mem : Type}

def Carried (bus : Bus Mem) (traps : Traps Mem) (cops : Coprocessors Mem)
    (state : ARMulState Mem) (pc : ARMword) : ThumbResult Mem → Prop
  | .undefined => False
  | .branched after => Live after
  | .decoded word => word.extractLsb' 28 4 = 0xe#4 ∧ Tame bus traps cops state pc word

section Branches

variable {state : ARMulState Mem} {pc : ARMword} (live : Live state)

include live

theorem live_thumbCondBranch (tinstr : Halfword) : Live (thumbCondBranch state pc tinstr) := by
  unfold thumbCondBranch
  split
  · exact live.congr rfl rfl rfl
  · exact live

theorem live_thumbSuffix {tinstr : Halfword} {after : ARMulState Mem}
    (branched : thumbSuffix state pc tinstr = .branched after) : Live after := by
  unfold thumbSuffix at branched
  dsimp only at branched
  split at branched
  · cases branched
  · split at branched
    · cases branched
      exact live.congr rfl rfl rfl
    · cases branched
      exact live.congr rfl rfl rfl

end Branches

section Words

variable {bus : Bus Mem} {traps : Traps Mem} {cops : Coprocessors Mem} {state : ARMulState Mem}
  {pc instr : ARMword} (ready : ThumbReady state pc) (live : Live state)

theorem IsMsr.status (msr : IsMsr instr) : StatusWord instr := by
  refine ⟨msr.form, ?_, msr.tests, msr.plain⟩
  rcases msr.form with immediate | register
  · exact absurd (msr.register.symm.trans (word_bit immediate (show 0 < 3 by decide))) (by decide)
  · exact register.1

theorem msr_switch (msr : IsMsr instr) :
    mainSwitch bus traps cops state pc instr = msrCase state pc instr := by
  rw [msr.status.mainSwitch bus traps cops, msr.current, msr.writes]

include ready live

omit ready in
theorem carried_bx (rm : RegNum) :
    Carried bus traps cops state pc (.decoded (0xe12fff10#32 ||| regField rm 0)) := by
  generalize code : 0xe12fff10#32 ||| regField rm 0 = instr
  have msr : IsMsr instr := by
    constructor
    · constructor <;> simp [← code, regField, BitVec.extractLsb'_or]
    all_goals simp [← code, regField, BitVec.extractLsb'_or]
  have form : instr.extractLsb' 4 20 = 0x2fff1#20 := by
    simp [← code, regField, BitVec.extractLsb'_or]
  exact ⟨msr.always,
    tame_exchange live msr.status (exchange_switch bus traps cops msr.status form)⟩

theorem carried_blx (rm : RegNum) :
    Carried bus traps cops state pc (.decoded (0xe1200030#32 ||| regField rm 0)) := by
  generalize code : 0xe1200030#32 ||| regField rm 0 = instr
  have msr : IsMsr instr := by
    constructor
    · constructor <;> simp [← code, regField, BitVec.extractLsb'_or]
    all_goals simp [← code, regField, BitVec.extractLsb'_or]
  have form : instr.extractLsb' 4 4 = 3#4 := by
    simp [← code, regField, BitVec.extractLsb'_or]
  have switched := @msr_switch _ bus traps cops state pc instr msr
  simp only [msrCase, form, ready.isV5, ready.thumb, if_true, Bool.true_and,
    show (3#4 == 3#4) = true from rfl] at switched
  exact ⟨msr.always, tame_link live msr.status switched⟩

theorem carried_multiply (tinstr : Halfword) :
    Carried bus traps cops state pc (.decoded
      (0xe0100090#32 ||| field tinstr 0 3 16 ||| field tinstr 0 3 8 ||| field tinstr 3 3 0)) := by
  generalize code : 0xe0100090#32 ||| field tinstr 0 3 16 ||| field tinstr 0 3 8 |||
    field tinstr 3 3 0 = instr
  have word : MultiplyWord instr := by
    constructor <;> simp [← code, BitVec.extractLsb'_or]
  have always : instr.extractLsb' 28 4 = 0xe#4 := by
    simp [← code, BitVec.extractLsb'_or]
  have multiplies : isMultiply instr = true := by
    simp [isMultiply, ← code, BitVec.extractLsb'_or]
  have short : instr.getLsbD 23 = false := by
    simp [← code]
  have left : lhsReg instr = (tinstr.extractLsb' 0 3).setWidth 4 := by
    simp [← code, lhsReg, BitVec.extractLsb'_or]
  refine ⟨always, tame_multiply ready.ready live word.transferOf word.group multiplies ?_⟩
  rw [regularMultiply, short]
  exact fun both => low_ne_pc _ (left.symm.trans both.1)

variable (trapsRead : TrapsReadOnly traps)

include trapsRead

theorem carried_data {opcode : Opcode} {flags : Bool} {rd rn : RegNum}
    (word : DataWord instr opcode flags rd rn) (operates : flags = false → opcode.tests = false)
    (apart : flags = true → rd ≠ 15#4) :
    Carried bus traps cops state pc (.decoded instr) := by
  refine ⟨word.always, tame_data ready.ready live trapsRead ready.isV4 word.form ?_ ?_⟩
  · rintro ⟨tests, plain⟩
    rw [opcodeOf_tests, word.opcode, operates (word.flags.symm.trans plain)] at tests
    cases tests
  · intro set
    rw [word.dest]
    exact apart (word.flags.symm.trans set)

theorem carried_low {opcode : Opcode} {rd : LowReg} {rn : RegNum}
    (word : DataWord instr opcode true (rd.setWidth 4) rn) :
    Carried bus traps cops state pc (.decoded instr) := by
  exact carried_data ready live trapsRead word Bool.noConfusion fun _ => low_ne_pc rd

theorem carried_transfer {kind : Transfer} {rd : LowReg} {rn : RegNum}
    (word : TransferWord instr kind rd rn) : Carried bus traps cops state pc (.decoded instr) := by
  have dest : destReg instr ≠ 15#4 := by
    rw [word.dest]
    exact low_ne_pc rd
  have stays : ¬writesBack instr = true := by
    rw [writesBack, word.indexes, word.keeps]
    decide
  refine ⟨word.always, tame_transfer ready.ready live trapsRead ready.isV4 word.kind ?_⟩
  cases kind <;>
    first
    | exact dest
    | exact fun moves => absurd moves stays

theorem carried_block (always : instr.extractLsb' 28 4 = 0xe#4)
    (group : instr.extractLsb' 25 3 = 4#3) (own : instr.getLsbD 22 = false) :
    Carried bus traps cops state pc (.decoded instr) := by
  exact ⟨always, tame_block ready.ready live trapsRead ready.isV4 group own⟩

end Words

section Formats

variable {bus : Bus Mem} {traps : Traps Mem} {cops : Coprocessors Mem} {state : ARMulState Mem}
  {pc : ARMword} {tinstr following : Halfword} {instr : Instr} {memory : Memory Mem}
  {machine : Processor Mem} (ready : ThumbReady state pc) (live : Live state)
  (trapsRead : TrapsReadOnly traps)

include ready live trapsRead

theorem carried_thumbAlu {after : Processor Mem}
    (defined : execAlu (decodeAlu (tinstr.extractLsb' 6 4)) (tinstr.extractLsb' 0 3)
      (tinstr.extractLsb' 3 3) (machineOf state pc) = some after) :
    Carried bus traps cops state pc (.decoded (thumbAlu tinstr)) := by
  have plain {base : ARMword} (opcode : AluBase base) :
      Carried bus traps cops state pc (.decoded (aluWord tinstr base)) :=
    carried_low ready live trapsRead (aluWord_word tinstr opcode)
  have shifted (kind : ShiftType) :
      Carried bus traps cops state pc (.decoded (shiftWord tinstr kind)) :=
    carried_low ready live trapsRead (shiftWord_word tinstr kind)
  unfold thumbAlu
  rcases bitVec_cases (tinstr.extractLsb' 6 4) with
    code | code | code | code | code | code | code | code |
    code | code | code | code | code | code | code | code <;>
    rw [code] at defined ⊢
  · exact plain ⟨rfl, rfl, rfl, rfl⟩
  · exact plain ⟨rfl, rfl, rfl, rfl⟩
  · exact shifted .lsl
  · exact shifted .lsr
  · exact shifted .asr
  · exact plain ⟨rfl, rfl, rfl, rfl⟩
  · exact plain ⟨rfl, rfl, rfl, rfl⟩
  · exact shifted .ror
  · exact plain ⟨rfl, rfl, rfl, rfl⟩
  · exact carried_low ready live trapsRead (negate_word tinstr)
  · exact plain ⟨rfl, rfl, rfl, rfl⟩
  · exact plain ⟨rfl, rfl, rfl, rfl⟩
  · exact plain ⟨rfl, rfl, rfl, rfl⟩
  · change (if tinstr.extractLsb' 0 3 = tinstr.extractLsb' 3 3 then none else some _) =
      some after at defined
    split at defined
    · cases defined
    · exact carried_multiply ready live tinstr
  · exact plain ⟨rfl, rfl, rfl, rfl⟩
  · exact plain ⟨rfl, rfl, rfl, rfl⟩

theorem carried_highOp {op : HighOp} {rd rm : RegNum} {after : Processor Mem}
    (defined : execHigh op rd rm (machineOf state pc) = some after) :
    Carried bus traps cops state pc (.decoded (highWord (highBase op) rd rm)) := by
  refine carried_data ready live trapsRead (highWord_word op rd rm) ?_ ?_
  · cases op <;> intro flags <;> first | rfl | cases flags
  · intro flags
    cases op with
    | add => cases flags
    | mov => cases flags
    | cmp =>
        rintro rfl
        unfold execHigh at defined
        split at defined
        · cases defined
        · cases defined

variable (decoded : decode tinstr = some instr)
  (ran : exec memory instr (machineOf state pc) = some (.goesOn machine))

include decoded ran

theorem carried_highOps (group : tinstr.extractLsb' 11 5 = 8#5)
    (high : tinstr.getLsbD 10 = true) :
    Carried bus traps cops state pc (thumbDecodeHalf state pc tinstr following) := by
  have operation (op : HighOp) (code : tinstr.extractLsb' 8 2 = highBits op)
      (named : instr = .high op (highRd tinstr) (tinstr.extractLsb' 3 4)) :
      Carried bus traps cops state pc (thumbDecodeHalf state pc tinstr following) := by
    subst named
    simp only [exec, Option.map_eq_some_iff] at ran
    obtain ⟨after, defined, -⟩ := ran
    have some : ¬(highRd tinstr < 8#4 ∧ tinstr.extractLsb' 3 4 < 8#4) := by
      intro low
      unfold execHigh at defined
      rw [if_pos low] at defined
      cases defined
    simp only [thumbDecodeHalf, group, high, if_true, thumbHigh_eq tinstr code some]
    exact carried_highOp ready live trapsRead defined
  have named := decoded
  simp only [decode, group, high, if_true, decodeHigh] at named
  split at named
  · exact operation .add ‹_› (Option.some.inj named).symm
  · exact operation .cmp ‹_› (Option.some.inj named).symm
  · exact operation .mov ‹_› (Option.some.inj named).symm
  · rename_i add cmp mov
    have code : tinstr.extractLsb' 8 2 = 3#2 := by
      have codes : ∀ code : BitVec 2, code ≠ 0#2 → code ≠ 1#2 → code ≠ 2#2 → code = 3#2 := by
        decide
      exact codes _ add cmp mov
    split at named
    · cases named
    · simp only [thumbDecodeHalf, group, high, if_true]
      split at named
      · rename_i links
        simp only [ready.isV5, thumbHigh_blx tinstr code links]
        exact carried_blx ready live _
      · rename_i stays
        simp only [thumbHigh_bx tinstr code (by simpa using stays)]
        exact carried_bx live _

theorem carried_stack (group : tinstr.extractLsb' 11 5 = 22#5 ∨ tinstr.extractLsb' 11 5 = 23#5) :
    Carried bus traps cops state pc (.decoded (thumbStack tinstr)) := by
  have named : decodeStack tinstr = some instr := by
    rcases group with group | group <;>
      simp only [decode, group] at decoded <;>
      exact decoded
  have push (link : Bool) : Carried bus traps cops state pc (.decoded (pushWord tinstr link)) := by
    refine carried_block ready live trapsRead ?_ ?_ ?_ <;>
      cases link <;>
      simp [pushWord, BitVec.extractLsb'_or]
  have pop (returns : Bool) :
      Carried bus traps cops state pc (.decoded (popWord tinstr returns)) := by
    refine carried_block ready live trapsRead ?_ ?_ ?_ <;>
      cases returns <;>
      simp [popWord, BitVec.extractLsb'_or]
  unfold decodeStack at named
  split at named
  · rename_i code
    rw [thumbStack, if_pos code]
    refine carried_data ready live trapsRead (stackWord_word tinstr) ?_ Bool.noConfusion
    intro _
    split <;> rfl
  · rename_i code
    rw [@thumbStack_push tinstr false code]
    exact push false
  · rename_i code
    rw [@thumbStack_push tinstr true code]
    exact push true
  · rename_i code
    rw [@thumbStack_pop tinstr false code]
    exact pop false
  · rename_i code
    rw [@thumbStack_pop tinstr true code]
    exact pop true
  · cases named
    cases ran
  · cases named

end Formats

section Meaning

variable {bus : Bus Mem} {traps : Traps Mem} {cops : Coprocessors Mem} {state : ARMulState Mem}
  {pc : ARMword} {tinstr following : Halfword} {memory : Memory Mem} {machine : Processor Mem}
  (ready : ThumbReady state pc) (live : Live state) (trapsRead : TrapsReadOnly traps)

include live

theorem carried_suffix {after : ARMulState Mem}
    (branched : thumbSuffix state pc tinstr = .branched after) :
    Carried bus traps cops state pc (thumbSuffix state pc tinstr) := by
  rw [branched]
  exact live_thumbSuffix live branched

include ready

theorem carried_prefix (prefixes : tinstr.extractLsb' 11 5 = 30#5)
    (defined : meaning memory tinstr following (machineOf state pc) = some (.goesOn machine)) :
    Carried bus traps cops state pc (thumbDecodeHalf state pc tinstr following) := by
  obtain ⟨after, -, branched, -, -⟩ := shows_thumbPrefix ready prefixes defined
  have linked : Live (state.setReg 14#4 (state.reg 15#4 + thumbPrefixOffset tinstr)) :=
    live.setReg _ _
  simp only [thumbDecodeHalf, prefixes, branched]
  unfold thumbPrefix at branched
  dsimp only at branched
  split at branched
  · cases branched
    exact linked
  · exact live_thumbSuffix linked branched

include trapsRead

theorem carried_halfword
    (defined : meaning memory tinstr following (machineOf state pc) = some (.goesOn machine)) :
    Carried bus traps cops state pc (thumbDecodeHalf state pc tinstr following) := by
  by_cases prefixes : tinstr.extractLsb' 11 5 = 30#5
  · exact carried_prefix ready live prefixes defined
  obtain ⟨instr, decoded, ran⟩ := meaning_exec prefixes defined
  have low {word : ARMword} {opcode : Opcode} {rd : LowReg} {rn : RegNum}
      (form : DataWord word opcode true (rd.setWidth 4) rn) :
      Carried bus traps cops state pc (.decoded word) :=
    carried_low ready live trapsRead form
  have transfer {word : ARMword} {kind : Transfer} {rd : LowReg} {rn : RegNum}
      (form : TransferWord word kind rd rn) : Carried bus traps cops state pc (.decoded word) :=
    carried_transfer ready live trapsRead form
  rcases group_cases (tinstr.extractLsb' 11 5) with group | group | group | group | group |
    group | group | group | group | group | group | group | group | group | group | group
  · rcases group with group | group | group <;>
      simp only [thumbDecodeHalf, group] <;>
      exact low (thumbShift_word tinstr)
  · simp only [thumbDecodeHalf, group]
    exact low (thumbAddSub_word tinstr)
  · have word {op : ImmOp} (code : tinstr.extractLsb' 11 2 = immBits op) :=
      low (thumbImmediate_word tinstr code)
    rcases group with group | group | group | group <;>
      simp only [thumbDecodeHalf, group]
    · exact @word .mov (group_low group)
    · exact @word .cmp (group_low group)
    · exact @word .add (group_low group)
    · exact @word .sub (group_low group)
  · cases high : tinstr.getLsbD 10 with
    | true => exact carried_highOps ready live trapsRead decoded ran group high
    | false =>
        simp only [decode, group, high, Bool.false_eq_true, if_false, Option.some.injEq] at decoded
        subst decoded
        simp only [exec, Option.map_eq_some_iff] at ran
        obtain ⟨after, plain, -⟩ := ran
        simp only [thumbDecodeHalf, group, high, Bool.false_eq_true, if_false]
        exact carried_thumbAlu ready live trapsRead plain
  · simp only [thumbDecodeHalf, group]
    exact transfer (literalWord_word tinstr)
  · have word : Carried bus traps cops state pc (.decoded (thumbRegTransfer tinstr)) := by
      cases half : tinstr.getLsbD 9 with
      | true => exact transfer (thumbRegTransfer_half tinstr half)
      | false => exact transfer (thumbRegTransfer_single tinstr half)
    rcases group with group | group <;>
      simp only [thumbDecodeHalf, group] <;>
      exact word
  · rcases group with group | group | group | group <;>
      simp only [thumbDecodeHalf, group] <;>
      exact transfer (thumbImmTransfer_word tinstr)
  · rcases group with group | group <;>
      simp only [thumbDecodeHalf, group] <;>
      exact transfer (thumbHalfTransfer_word tinstr)
  · rcases group with group | group <;>
      simp only [thumbDecodeHalf, group] <;>
      exact transfer (thumbStackTransfer_word tinstr)
  · rcases group with group | group <;>
      simp only [thumbDecodeHalf, group] <;>
      exact carried_data ready live trapsRead (thumbAddress_word tinstr) (fun _ => rfl)
        Bool.noConfusion
  · have word := @carried_stack _ bus traps cops _ _ _ _ _ _ ready live trapsRead decoded ran group
    rcases group with group | group <;>
      simp only [thumbDecodeHalf, group] <;>
      exact word
  · have word : Carried bus traps cops state pc (.decoded (thumbBlock tinstr)) := by
      refine carried_block ready live trapsRead ?_ ?_ ?_ <;>
        unfold thumbBlock <;>
        split <;>
        simp [BitVec.extractLsb'_or]
    rcases group with group | group <;>
      simp only [thumbDecodeHalf, group] <;>
      exact word
  · have named : decodeCond tinstr = some instr := by
      rcases group with group | group <;>
        simp only [decode, group] at decoded <;>
        exact decoded
    unfold decodeCond at named
    split at named
    · cases named
    · cases named
      cases ran
    · rename_i undefinedCode swi
      rcases group with group | group <;>
        simp only [thumbDecodeHalf, group, if_neg swi, if_neg undefinedCode] <;>
        exact live_thumbCondBranch live tinstr
  · simp only [thumbDecodeHalf, group]
    exact live.congr rfl rfl rfl
  · have suffix : isSuffix tinstr = true := by
      simpa [isSuffix] using group
    obtain ⟨after, final, branched, -, -⟩ := shows_thumbSuffix (within_refl ready.ready pc)
      ready.isV5 suffix decoded ran pc
    have word := @carried_suffix _ bus traps cops _ _ _ live _ branched
    rcases group with group | group <;>
      simp only [thumbDecodeHalf, group] <;>
      exact word
  · exact absurd group prefixes

end Meaning

end SkyeyeStarlet
