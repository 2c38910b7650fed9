import SkyeyeStarlet.ExecCore

/-!
`ARMul_ThumbDecode` of `thumbemu.c`: the nineteen Thumb formats as ARM words, and the
branches that the decoder runs itself.
-/

namespace SkyeyeStarlet

abbrev Halfword := BitVec 16

/-- The result of `ARMul_ThumbDecode`.  A branch has already changed the state. -/
inductive ThumbResult (Mem : Type) where
  | undefined
  | branched (state : ARMulState Mem)
  | decoded (instr : ARMword)

variable {Mem : Type}

/-- Bits `first` to `first + width - 1` of the halfword, put at bit `place`. -/
def field (tinstr : Halfword) (first width place : Nat) : ARMword :=
  (tinstr.extractLsb' first width).setWidth 32 <<< place

def thumbShift (tinstr : Halfword) : ARMword :=
  0xe1b00000#32 ||| field tinstr 11 2 5 ||| field tinstr 6 5 7 ||| field tinstr 3 3 0 |||
    field tinstr 0 3 12

/-- Format 2: addition and subtraction of a register or a three bit constant. -/
def thumbAddSub (tinstr : Halfword) : ARMword :=
  (match tinstr.getLsbD 10, tinstr.getLsbD 9 with
    | false, false => 0xe0900000#32
    | false, true => 0xe0500000#32
    | true, false => 0xe2900000#32
    | true, true => 0xe2500000#32) |||
    field tinstr 6 3 0 ||| field tinstr 3 3 16 ||| field tinstr 0 3 12

def thumbImmediate (tinstr : Halfword) : ARMword :=
  (match tinstr.getLsbD 12, tinstr.getLsbD 11 with
    | false, false => 0xe3b00000#32
    | false, true => 0xe3500000#32
    | true, false => 0xe2900000#32
    | true, true => 0xe2500000#32) |||
    field tinstr 0 8 0 ||| field tinstr 8 3 16 ||| field tinstr 8 3 12

def thumbAlu (tinstr : Halfword) : ARMword :=
  let norm (opcode : ARMword) :=
    opcode ||| field tinstr 0 3 16 ||| field tinstr 0 3 12 ||| field tinstr 3 3 0
  let shift (opcode : ARMword) :=
    opcode ||| field tinstr 0 3 12 ||| field tinstr 0 3 0 ||| field tinstr 3 3 8
  match tinstr.extractLsb' 6 4 with
  | 0x0#4 => norm 0xe0100000#32
  | 0x1#4 => norm 0xe0300000#32
  | 0x2#4 => shift 0xe1b00010#32
  | 0x3#4 => shift 0xe1b00030#32
  | 0x4#4 => shift 0xe1b00050#32
  | 0x5#4 => norm 0xe0b00000#32
  | 0x6#4 => norm 0xe0d00000#32
  | 0x7#4 => shift 0xe1b00070#32
  | 0x8#4 => norm 0xe1100000#32
  | 0x9#4 => 0xe2700000#32 ||| field tinstr 0 3 12 ||| field tinstr 3 3 16
  | 0xa#4 => norm 0xe1500000#32
  | 0xb#4 => norm 0xe1700000#32
  | 0xc#4 => norm 0xe1900000#32
  | 0xd#4 =>
      0xe0100090#32 ||| field tinstr 0 3 16 ||| field tinstr 0 3 8 ||| field tinstr 3 3 0
  | 0xe#4 => norm 0xe1d00000#32
  | _ => norm 0xe1f00000#32

def thumbHighRd (tinstr : Halfword) : ARMword :=
  field tinstr 0 3 0 + if tinstr.getLsbD 7 then 8#32 else 0#32

def thumbHighRs (tinstr : Halfword) : ARMword :=
  field tinstr 3 3 0 + if tinstr.getLsbD 6 then 8#32 else 0#32

/-- Format 5: operations on high registers, `BX` and `BLX`. -/
def thumbHigh (isV5 : Bool) (tinstr : Halfword) : Option ARMword :=
  let rd := thumbHighRd tinstr
  let rs := thumbHighRs tinstr
  let high (opcode : ARMword) := some (opcode ||| rd <<< 16 ||| rd <<< 12 ||| rs)
  match tinstr.extractLsb' 6 4 with
  | 0x1#4 | 0x2#4 | 0x3#4 => high 0xe0800000#32
  | 0x5#4 | 0x6#4 | 0x7#4 => high 0xe1500000#32
  | 0x9#4 | 0xa#4 | 0xb#4 => high 0xe1a00000#32
  | 0xc#4 | 0xd#4 => some (0xe12fff10#32 ||| field tinstr 3 4 0)
  | 0xe#4 | 0xf#4 => if isV5 then some (0xe1200030#32 ||| rs) else none
  | _ => none

def thumbRegTransfer (tinstr : Halfword) : ARMword :=
  (match tinstr.getLsbD 9, tinstr.getLsbD 11, tinstr.getLsbD 10 with
    | false, false, false => 0xe7800000#32
    | false, false, true => 0xe7c00000#32
    | false, true, false => 0xe7900000#32
    | false, true, true => 0xe7d00000#32
    | true, false, false => 0xe18000b0#32
    | true, false, true => 0xe19000d0#32
    | true, true, false => 0xe19000b0#32
    | true, true, true => 0xe19000f0#32) |||
    field tinstr 0 3 12 ||| field tinstr 3 3 16 ||| field tinstr 6 3 0

def thumbImmTransfer (tinstr : Halfword) : ARMword :=
  (match tinstr.getLsbD 12, tinstr.getLsbD 11 with
    | false, false => 0xe5800000#32
    | false, true => 0xe5900000#32
    | true, false => 0xe5c00000#32
    | true, true => 0xe5d00000#32) |||
    field tinstr 0 3 12 ||| field tinstr 3 3 16 |||
    field tinstr 6 5 (if tinstr.getLsbD 12 then 0 else 2)

def thumbHalfTransfer (tinstr : Halfword) : ARMword :=
  (if tinstr.getLsbD 11 then 0xe1d000b0#32 else 0xe1c000b0#32) |||
    field tinstr 0 3 12 ||| field tinstr 3 3 16 ||| field tinstr 6 3 1 ||| field tinstr 9 2 8

def thumbStackTransfer (tinstr : Halfword) : ARMword :=
  (if tinstr.getLsbD 11 then 0xe59d0000#32 else 0xe58d0000#32) |||
    field tinstr 8 3 12 ||| field tinstr 0 8 2

/-- Format 12: addresses relative to the program counter or the stack pointer. -/
def thumbAddress (tinstr : Halfword) : ARMword :=
  (if tinstr.getLsbD 11 then 0xe28d0f00#32 else 0xe28f0f00#32) |||
    field tinstr 8 3 12 ||| field tinstr 0 8 0

/-- Formats 13 and 14, and the breakpoint, which becomes `SWI_Breakpoint`. -/
def thumbStack (tinstr : Halfword) : ARMword :=
  if tinstr.extractLsb' 8 4 = 0#4 then
    (if tinstr.getLsbD 7 then 0xe24ddf00#32 else 0xe28ddf00#32) ||| field tinstr 0 7 0
  else if tinstr.extractLsb' 8 4 = 0xe#4 then 0xef180000#32
  else
    (match tinstr.getLsbD 11, tinstr.getLsbD 8 with
      | false, false => 0xe92d0000#32
      | false, true => 0xe92d4000#32
      | true, false => 0xe8bd0000#32
      | true, true => 0xe8bd8000#32) ||| field tinstr 0 8 0

def thumbBlock (tinstr : Halfword) : ARMword :=
  (if tinstr.getLsbD 11 then 0xe8b00000#32 else 0xe8a00000#32) |||
    field tinstr 8 3 16 ||| field tinstr 0 8 0

/-- Format 17.  A failed fetch is passed on where its marker is the halfword. -/
def thumbSwi (state : ARMulState Mem) (pc : ARMword) (tinstr : Halfword) : ARMword :=
  if tinstr = (armulAbortWord state).setWidth 16 ∧ state.abortAddr = pc then
    armulAbortWord state
  else if tinstr.extractLsb' 0 8 = 0x18#8 then 0xef000000#32 ||| field tinstr 0 8 16
  else if tinstr.extractLsb' 0 8 = 0xfe#8 then 0xef180000#32
  else 0xef000000#32 ||| field tinstr 0 8 0

def thumbJump (state : ARMulState Mem) (target : ARMword) : ARMulState Mem :=
  flushpipe (state.setReg 15#4 target)

def thumbCondOffset (tinstr : Halfword) : ARMword :=
  field tinstr 0 7 1 ||| if tinstr.getLsbD 7 then 0xffffff00#32 else 0#32

def thumbOffset (tinstr : Halfword) : ARMword :=
  field tinstr 0 10 1 ||| if tinstr.getLsbD 10 then 0xfffff800#32 else 0#32

def thumbCondBranch (state : ARMulState Mem) (pc : ARMword) (tinstr : Halfword) :
    ARMulState Mem :=
  if conditionHolds state.flags (tinstr.extractLsb' 8 4) then
    thumbJump state (pc + 4#32 + thumbCondOffset tinstr)
  else state

/-- The second half of a long branch, at `pc`. -/
def thumbSuffix (state : ARMulState Mem) (pc : ARMword) (tinstr : Halfword) :
    ThumbResult Mem :=
  let exchange := tinstr.extractLsb' 11 5 == 29#5
  if exchange && !state.isV5 then .undefined
  else
    let dest := state.reg 14#4 + field tinstr 0 11 1
    let linked := state.setReg 14#4 ((pc + 2#32) ||| 1#32)
    if exchange then
      let flags := { linked.flags with tFlag := false }
      .branched (flushpipe
        { linked.setReg 15#4 (dest &&& 0xfffffffc#32) with
          flags, cpsr := packCPSR flags linked.mode })
    else .branched (thumbJump linked dest)

def thumbPrefixOffset (tinstr : Halfword) : ARMword :=
  field tinstr 0 11 12 ||| if tinstr.getLsbD 10 then 0xff800000#32 else 0#32

/-- The first half of a long branch, which takes the second with it when it follows. -/
def thumbPrefix (state : ARMulState Mem) (pc : ARMword) (tinstr next : Halfword) :
    ThumbResult Mem :=
  let linked := state.setReg 14#4 (state.reg 15#4 + thumbPrefixOffset tinstr)
  let second := next.extractLsb' 11 5
  if second ≠ 31#5 ∧ (state.isV5 = false ∨ second ≠ 29#5) then .branched linked
  else thumbSuffix linked (pc + 2#32) next

/-- The halfword of the instruction and the one behind it in a fetched word. -/
def thumbHalves (bigend : Bool) (word : ARMword) : Halfword × Halfword :=
  if bigend then (word.extractLsb' 16 16, word.extractLsb' 0 16)
  else (word.extractLsb' 0 16, word.extractLsb' 16 16)

def thumbDecodeHalf (state : ARMulState Mem) (pc : ARMword) (tinstr next : Halfword) :
    ThumbResult Mem :=
  match tinstr.extractLsb' 11 5 with
  | 0#5 | 1#5 | 2#5 => .decoded (thumbShift tinstr)
  | 3#5 => .decoded (thumbAddSub tinstr)
  | 4#5 | 5#5 | 6#5 | 7#5 => .decoded (thumbImmediate tinstr)
  | 8#5 =>
      if tinstr.getLsbD 10 then
        match thumbHigh state.isV5 tinstr with
        | some instr => .decoded instr
        | none => .undefined
      else .decoded (thumbAlu tinstr)
  | 9#5 => .decoded (0xe59f0000#32 ||| field tinstr 8 3 12 ||| field tinstr 0 8 2)
  | 10#5 | 11#5 => .decoded (thumbRegTransfer tinstr)
  | 12#5 | 13#5 | 14#5 | 15#5 => .decoded (thumbImmTransfer tinstr)
  | 16#5 | 17#5 => .decoded (thumbHalfTransfer tinstr)
  | 18#5 | 19#5 => .decoded (thumbStackTransfer tinstr)
  | 20#5 | 21#5 => .decoded (thumbAddress tinstr)
  | 22#5 | 23#5 => .decoded (thumbStack tinstr)
  | 24#5 | 25#5 => .decoded (thumbBlock tinstr)
  | 26#5 | 27#5 =>
      if tinstr.extractLsb' 8 4 = 0xf#4 then .decoded (thumbSwi state pc tinstr)
      else if tinstr.extractLsb' 8 4 = 0xe#4 then .undefined
      else .branched (thumbCondBranch state pc tinstr)
  | 28#5 => .branched (thumbJump state (pc + 4#32 + thumbOffset tinstr))
  | 30#5 => thumbPrefix state pc tinstr next
  | _ => thumbSuffix state pc tinstr

def armulThumbDecode (state : ARMulState Mem) (pc word : ARMword) : ThumbResult Mem :=
  let (tinstr, next) := thumbHalves state.bigendSig word
  thumbDecodeHalf state pc tinstr next

end SkyeyeStarlet
