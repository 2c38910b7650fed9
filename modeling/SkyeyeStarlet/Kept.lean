import SkyeyeStarlet.AttemptCore
import SkyeyeStarlet.Library.Runs
import SkyeyeStarlet.TrapReads

/-!
An invariant rule for the instruction set.  A property of the state that survives the
primitive updates survives every ARM and Thumb instruction; where an instruction enters
an exception, a second property takes over for what is left of it.
-/

namespace SkyeyeStarlet

variable {Mem : Type}

/-- What the modes protect: the registers with their banks, the mode, the saved status
words and the interrupt masks. -/
structure View where
  file : Registers
  mode : ModeNum
  spsr : Bank → ARMword
  ifFlags : BitVec 2
  prog32Sig : Bool

def ARMulState.view (state : ARMulState Mem) : View :=
  ⟨state.file, state.mode, state.spsr, state.flags.ifFlags, state.prog32Sig⟩

/-- The property looks at the view only, and the registers of the current bank are free. -/
structure Closed (P : ARMulState Mem → Prop) : Prop where
  view : ∀ {before after : ARMulState Mem}, P before → after.view = before.view → P after
  setReg : ∀ {state : ARMulState Mem} (number : RegNum) (value : ARMword),
    P state → P (state.setReg number value)

structure Status where
  view : View
  tFlag : Bool
  cpsr : ARMword

def ARMulState.status (state : ARMulState Mem) : Status :=
  ⟨state.view, state.tFlag, state.cpsr⟩

def exchangeSet (state : ARMulState Mem) (thumb : Bool) : ARMulState Mem :=
  let flags := { state.flags with tFlag := thumb }
  { state with flags, cpsr := packCPSR flags state.mode }

structure Situation where
  status : Status
  flags : Flags
  isV5e : Bool

def ARMulState.situation (state : ARMulState Mem) : Situation :=
  ⟨state.status, state.flags, state.isV5e⟩

/-- The property looks at the situation only, and outlives changes of register 15: it holds
through whatever an instruction does beside its results. -/
structure Passive (P : ARMulState Mem → Prop) : Prop where
  same : ∀ {before after : ARMulState Mem},
    P before → after.situation = before.situation → P after
  setPc : ∀ {state : ARMulState Mem} (value : ARMword), P state → P (state.setReg 15#4 value)

/-- The property looks at the status only, and outlives changes of registers and of the
instruction set. -/
structure Stable (P : ARMulState Mem → Prop) : Prop extends Passive P where
  status : ∀ {before after : ARMulState Mem}, P before → after.status = before.status → P after
  setReg : ∀ {state : ARMulState Mem} (number : RegNum) (value : ARMword),
    P state → P (state.setReg number value)
  exchange : ∀ {state : ARMulState Mem} (thumb : Bool), P state → P (exchangeSet state thumb)
  same := fun holds same => status holds (congrArg Situation.status same)
  setPc := fun value holds => setReg 15#4 value holds

/-- What an instruction may do behind an exception that it has entered: the next cycle is not
sequential, and a register other than 15 is written. -/
structure Rested (Q : ARMulState Mem → Prop) : Prop where
  keep : ∀ {before after : ARMulState Mem}, Q before → after.status = before.status →
    after.mem = before.mem →
    (after.nextInstr = before.nextInstr ∨ after.nextInstr = before.nextInstr ||| 1#8) → Q after
  setReg : ∀ {state : ARMulState Mem} (number : RegNum) (value : ARMword), number ≠ 15#4 →
    Q state → Q (state.setReg number value)

/-- `P` holds up to an exception and `Q` from then on. -/
structure StatusKept (bus : Bus Mem) (traps : Traps Mem) (P Q : ARMulState Mem → Prop) : Prop where
  work : Stable P
  rest : Rested Q
  rawReg : ∀ {state : ARMulState Mem} (index : Nat) (value : ARMword),
    P state → P { state with file := setRawReg state.file index value }
  fixCPSR : ∀ {state : ARMulState Mem} (instr rhs : ARMword),
    P state → P (armulFixCPSR state instr rhs)
  fixSPSR : ∀ {state : ARMulState Mem} (instr rhs : ARMword),
    P state → P (armulFixSPSR state instr rhs)
  bankStatus : ∀ {state : ARMulState Mem}, state.file.bank ≠ .userbank →
    P state → P (armulCPSRAltered { state with cpsr := state.spsr state.file.bank })
  savedStatus : ∀ {state : ARMulState Mem},
    P state → P (armulCPSRAltered { state with cpsr := armulGetSPSR state state.mode })
  userBank : ∀ {state : ARMulState Mem}, P state → P (toUserBank state)
  ownBank : ∀ {state : ARMulState Mem}, P state → P (toOwnBank state)
  trap : ∀ {state : ARMulState Mem} (instr : ARMword),
    P state → P (traps.undfTrap state instr).1
  enter : ∀ {state : ARMulState Mem} (vector : Vector), vector.is32 = true →
    P state → Q (armulAbort bus.highVectors state vector)
  returned : ∀ {state : ARMulState Mem}, Q state → Q (returnFromList state)
  unwind : ∀ {state : ARMulState Mem}, Q state → Q (toOwnBank state)

/-- `Q` outlives whatever is left of an instruction, a second exception too. -/
structure Loose (bus : Bus Mem) (P Q : ARMulState Mem → Prop) : Prop where
  rest : Stable Q
  enter : ∀ {state : ARMulState Mem} (vector : Vector),
    P state → Q (armulAbort bus.highVectors state vector)
  again : ∀ {state : ARMulState Mem} (vector : Vector),
    Q state → Q (armulAbort bus.highVectors state vector)

/-- The exceptions that end the busy waiting for a coprocessor are those of `IntPending`, and
its routines raise none of their own. -/
def Answer.Quiet : Answer Mem → Prop
  | .done _ vector => vector = none
  | .cant _ => True
  | .interrupted _ vector => vector.is32 = true

def Answer.Is32 : Answer Mem → Prop
  | .done _ vector => ∀ raised ∈ vector, raised.is32 = true
  | .cant _ => True
  | .interrupted _ vector => vector.is32 = true

structure QuietCoprocessors (cops : Coprocessors Mem) : Prop where
  mrc : ∀ instr mem, (cops.mrc instr mem).1.Quiet
  mcr : ∀ instr value mem, (cops.mcr instr value mem).Quiet
  cdp : ∀ instr mem, (cops.cdp instr mem).Is32
  transfer : ∀ instr mem, (cops.transfer instr mem).Quiet

def noUnits : Coprocessors Mem :=
  { mrc := fun _ mem => (.cant mem, 0#32)
    mcr := fun _ _ mem => .cant mem
    cdp := fun _ mem => .cant mem
    transfer := fun _ mem => .cant mem
    words := fun _ => 0
    load := fun _ _ mem => mem
    store := fun _ mem => (mem, 0#32) }

theorem noUnits_quiet : QuietCoprocessors (noUnits : Coprocessors Mem) := by
  exact ⟨fun _ _ => trivial, fun _ _ _ => trivial, fun _ _ => trivial, fun _ _ => trivial⟩

theorem Closed.stable {P : ARMulState Mem → Prop} (closed : Closed P) : Stable P := by
  refine { status := ?_, setReg := ?_, exchange := ?_ }
  · intro before after holds same
    exact closed.view holds (congrArg Status.view same)
  · exact closed.setReg
  · intro state thumb holds
    exact closed.view holds rfl

theorem Peeks.status {before after : ARMulState Mem} (peeks : Peeks before after) :
    after.status = before.status := by
  rw [peeks.same]
  rfl

theorem Stable.rested {Q : ARMulState Mem → Prop} (stable : Stable Q) : Rested Q := by
  constructor
  · intro before after holds same _ _
    exact stable.status holds same
  · intro state number value _ holds
    exact stable.setReg number value holds

theorem Stable.returnFromList {Q : ARMulState Mem → Prop} (stable : Stable Q)
    (resume : ∀ {state : ARMulState Mem}, Q state →
      Q (armulCPSRAltered { state with cpsr := armulGetSPSR state state.mode }))
    {state : ARMulState Mem} (holds : Q state) : Q (SkyeyeStarlet.returnFromList state) := by
  have restored : Q (if inUserMode state.mode then state
      else armulCPSRAltered { state with cpsr := armulGetSPSR state state.mode }) := by
    split
    · exact holds
    · exact resume holds
  exact stable.status (stable.setReg 15#4 _ restored) rfl

def Reached (P Q : ARMulState Mem → Prop) (state : ARMulState Mem) : Prop :=
  P state ∨ Q state

section Updates

variable {P : ARMulState Mem → Prop} {state : ARMulState Mem}

theorem Stable.or {Q : ARMulState Mem → Prop} (left : Stable P) (right : Stable Q) :
    Stable (Reached P Q) := by
  refine { status := ?_, setReg := ?_, exchange := ?_ }
  · rintro before after (holds | holds) same
    · exact Or.inl (left.status holds same)
    · exact Or.inr (right.status holds same)
  · rintro state number value (holds | holds)
    · exact Or.inl (left.setReg number value holds)
    · exact Or.inr (right.setReg number value holds)
  · rintro state thumb (holds | holds)
    · exact Or.inl (left.exchange thumb holds)
    · exact Or.inr (right.exchange thumb holds)

theorem Passive.flushpipe (passive : Passive P) (holds : P state) :
    P (SkyeyeStarlet.flushpipe state) := by
  exact passive.same holds rfl

theorem Passive.incpc (passive : Passive P) (holds : P state) : P (SkyeyeStarlet.incpc state) := by
  exact passive.same (passive.setPc (state.reg 15#4 + insnSize state) holds) rfl

theorem Passive.bususedincpcs (passive : Passive P) (holds : P state) :
    P (SkyeyeStarlet.bususedincpcs state) := by
  unfold SkyeyeStarlet.bususedincpcs
  split
  · exact holds
  · exact passive.same (passive.setPc (state.reg 15#4 + insnSize state) holds) rfl

theorem Passive.bususedincpcn (passive : Passive P) (holds : P state) :
    P (SkyeyeStarlet.bususedincpcn state) := by
  unfold SkyeyeStarlet.bususedincpcn
  split
  · exact passive.same holds rfl
  · exact passive.same (passive.setPc (state.reg 15#4 + insnSize state) holds) rfl

theorem Passive.read (passive : Passive P) (bus : Bus Mem) (size : AccessSize) (address : ARMword)
    (holds : P state) : P (armulRead bus size state address).1 := by
  unfold armulRead
  dsimp only
  split
  · exact passive.same holds rfl
  · exact passive.same holds rfl

theorem Passive.write (passive : Passive P) (bus : Bus Mem) (size : AccessSize)
    (address data : ARMword) (holds : P state) : P (armulWrite bus size state address data) := by
  unfold armulWrite
  dsimp only
  split
  · exact passive.same holds rfl
  · exact passive.same holds rfl

theorem Passive.writeR15 (passive : Passive P) (src : ARMword) (holds : P state) :
    P (SkyeyeStarlet.writeR15 state src) := by
  exact passive.flushpipe (passive.setPc _ holds)

theorem Stable.writeR15Branch (stable : Stable P) (src : ARMword) (holds : P state) :
    P (SkyeyeStarlet.writeR15Branch state src) := by
  exact stable.status (stable.exchange (src.getLsbD 0)
    (stable.setReg 15#4 (alignPc (src.getLsbD 0) src) holds)) rfl

theorem Stable.writeDest (stable : Stable P) (instr value : ARMword) (holds : P state) :
    P (SkyeyeStarlet.writeDest state instr value) := by
  unfold SkyeyeStarlet.writeDest
  split
  · exact stable.writeR15 value holds
  · exact stable.setReg _ value holds

theorem Stable.writeDestB (stable : Stable P) (instr value : ARMword) (holds : P state) :
    P (SkyeyeStarlet.writeDestB state instr value) := by
  unfold SkyeyeStarlet.writeDestB
  split
  · exact stable.writeR15Branch value holds
  · exact stable.setReg _ value holds

theorem Stable.opcodeFlags (stable : Stable P) (opcode : Opcode) (lhs rhs dest : ARMword)
    (holds : P state) : P (opcode.flags state lhs rhs dest) := by
  have adds : P (addFlags state lhs rhs dest) := by
    unfold addFlags
    split
    · exact stable.status holds rfl
    · exact stable.status holds rfl
  have subs (left right : ARMword) : P (subFlags state left right dest) := by
    unfold subFlags
    split
    · exact stable.status holds rfl
    · exact stable.status holds rfl
  cases opcode <;> first | exact holds | exact adds | exact subs _ _

theorem Passive.shiftStarted (passive : Passive P) (instr : ARMword) (holds : P state) :
    P (if instr.getLsbD 4 then SkyeyeStarlet.incpc state else state) := by
  split
  · exact passive.incpc holds
  · exact holds

theorem Passive.dpRegRHS (passive : Passive P) (instr : ARMword) (holds : P state) :
    P (SkyeyeStarlet.dpRegRHS state instr).1 := by
  unfold SkyeyeStarlet.dpRegRHS
  split
  · exact holds
  · exact passive.shiftStarted instr holds

theorem Stable.dpsRegRHS (stable : Stable P) (instr : ARMword) (holds : P state) :
    P (SkyeyeStarlet.dpsRegRHS state instr).1 := by
  have started := stable.shiftStarted instr holds
  unfold SkyeyeStarlet.dpsRegRHS
  split
  · exact holds
  · dsimp only
    split
    · exact started
    · exact stable.status started rfl

theorem Passive.plainRHS (passive : Passive P) (instr : ARMword) (holds : P state) :
    P (SkyeyeStarlet.plainRHS state instr).1 := by
  unfold SkyeyeStarlet.plainRHS
  split
  · exact holds
  · exact passive.dpRegRHS instr holds

theorem Stable.carryRHS (stable : Stable P) (instr : ARMword) (holds : P state) :
    P (SkyeyeStarlet.carryRHS state instr).1 := by
  unfold SkyeyeStarlet.carryRHS
  split
  · unfold dpsImmRHS
    split
    · exact holds
    · exact stable.status holds rfl
  · exact stable.dpsRegRHS instr holds

end Updates

section DataProcessing

variable {P : ARMulState Mem → Prop} {state : ARMulState Mem}

theorem Stable.dataPlain (stable : Stable P) (instr : ARMword) (holds : P state) :
    P (SkyeyeStarlet.dataPlain state instr) := by
  exact stable.writeDest instr _ (stable.plainRHS instr holds)

theorem Stable.scc64 (stable : Stable P) (instr hi lo : ARMword) (holds : P state) :
    P (SkyeyeStarlet.scc64 state instr hi lo) := by
  unfold SkyeyeStarlet.scc64
  split
  · exact stable.status holds rfl
  · exact holds

theorem Stable.multiply (stable : Stable P) (instr : ARMword) (holds : P state) :
    P (SkyeyeStarlet.multiply state instr) := by
  unfold SkyeyeStarlet.multiply
  dsimp only
  split
  · exact holds
  · split
    · exact stable.setReg _ _ (stable.status holds rfl)
    · exact stable.setReg _ _ holds

theorem Stable.multiplied64 (stable : Stable P) (instr : ARMword) (holds : P state) :
    P (SkyeyeStarlet.multiplied64 state instr).1 := by
  unfold SkyeyeStarlet.multiplied64
  split
  · exact stable.setReg _ _ (stable.setReg _ _ holds)
  · exact holds

theorem Stable.multiplyCase (stable : Stable P) (instr : ARMword) (holds : P state) :
    P (SkyeyeStarlet.multiplyCase state instr) := by
  have moved := stable.multiplied64 instr holds
  unfold SkyeyeStarlet.multiplyCase
  split
  · exact stable.multiply instr holds
  · exact stable.scc64 _ _ _ moved
  · exact stable.scc64 _ _ _ (stable.setReg _ _ (stable.setReg _ _ moved))

theorem Stable.signedMultiply (stable : Stable P) (instr : ARMword) (holds : P state) :
    P (SkyeyeStarlet.signedMultiply state instr) := by
  unfold SkyeyeStarlet.signedMultiply
  dsimp only
  split
  · exact stable.setReg _ _ (stable.status holds rfl)
  · split
    · exact stable.setReg _ _ holds
    · exact stable.setReg _ _ (stable.status holds rfl)
  · exact stable.setReg _ _ (stable.setReg _ _ holds)
  · exact stable.setReg _ _ holds

theorem Stable.saturating (stable : Stable P) (instr : ARMword) (holds : P state) :
    P (SkyeyeStarlet.saturating state instr) := by
  exact stable.setReg _ _ (stable.status holds rfl)

theorem Stable.mrsCase (stable : Stable P) (instr : ARMword) (holds : P state) :
    P (SkyeyeStarlet.mrsCase state instr) := by
  unfold SkyeyeStarlet.mrsCase
  split
  · exact stable.signedMultiply instr holds
  · split
    · exact stable.saturating instr holds
    · split
      · exact stable.setReg _ _ holds
      · exact holds

end DataProcessing

section Instructions

variable {bus : Bus Mem} {traps : Traps Mem} {P Q : ARMulState Mem → Prop}
  {state : ARMulState Mem}

theorem StatusKept.writeSR15 (rules : StatusKept bus traps P Q) (src : ARMword) (holds : P state) :
    P (SkyeyeStarlet.writeSR15 state src) := by
  have returned : P (if state.file.bank = .userbank then state
      else armulCPSRAltered { state with cpsr := state.spsr state.file.bank }) := by
    split
    · exact holds
    · rename_i banked
      exact rules.bankStatus banked holds
  exact rules.work.flushpipe (rules.work.setReg 15#4 _ returned)

theorem StatusKept.writeSDest (rules : StatusKept bus traps P Q) (instr value : ARMword)
    (holds : P state) : P (SkyeyeStarlet.writeSDest state instr value) := by
  unfold SkyeyeStarlet.writeSDest
  split
  · exact rules.writeSR15 value holds
  · exact rules.work.status (rules.work.setReg (destReg instr) value holds) rfl

theorem StatusKept.dataFlags (rules : StatusKept bus traps P Q) (instr : ARMword)
    (holds : P state) : P (SkyeyeStarlet.dataFlags state instr) := by
  unfold SkyeyeStarlet.dataFlags
  split
  · exact rules.writeSDest instr _
      (rules.work.opcodeFlags _ _ _ _ (rules.work.plainRHS instr holds))
  · exact rules.writeSDest instr _ (rules.work.carryRHS instr holds)

theorem StatusKept.dataTest (rules : StatusKept bus traps P Q) (instr : ARMword)
    (holds : P state) : P (SkyeyeStarlet.dataTest state instr) := by
  unfold SkyeyeStarlet.dataTest
  split
  · exact rules.savedStatus holds
  · split
    · exact rules.work.opcodeFlags _ _ _ _
        (rules.work.status (rules.work.plainRHS instr holds) rfl)
    · exact rules.work.status (rules.work.carryRHS instr holds) rfl

theorem StatusKept.msrCase (rules : StatusKept bus traps P Q) (pc instr : ARMword)
    (holds : P state) : P (SkyeyeStarlet.msrCase state pc instr) := by
  unfold SkyeyeStarlet.msrCase
  split
  · exact rules.work.setReg _ _ (rules.work.writeR15Branch _ holds)
  · split
    · exact rules.work.signedMultiply instr holds
    · split
      · exact rules.work.saturating instr holds
      · split
        · exact rules.work.writeR15Branch _ holds
        · split
          · exact rules.work.status holds rfl
          · split
            · exact rules.fixCPSR instr _ (rules.work.dpRegRHS instr holds)
            · exact holds

theorem StatusKept.clzCase (rules : StatusKept bus traps P Q) (instr : ARMword)
    (holds : P state) : P (SkyeyeStarlet.clzCase state instr) := by
  unfold SkyeyeStarlet.clzCase
  split
  · exact rules.work.signedMultiply instr holds
  · split
    · exact rules.work.saturating instr holds
    · split
      · exact rules.work.setReg _ _ holds
      · split
        · exact rules.fixSPSR instr _ (rules.work.dpRegRHS instr holds)
        · exact holds

theorem StatusKept.statusCase (rules : StatusKept bus traps P Q) (pc instr : ARMword)
    (holds : P state) : P (SkyeyeStarlet.statusCase state pc instr) := by
  unfold SkyeyeStarlet.statusCase
  split
  · exact rules.work.mrsCase instr holds
  · exact rules.msrCase pc instr holds
  · exact rules.clzCase instr holds
  · exact holds
  · split
    · exact rules.fixCPSR instr _ holds
    · exact holds
  · split
    · exact rules.fixSPSR instr _ holds
    · exact holds

theorem StatusKept.dataProcessing (rules : StatusKept bus traps P Q) (pc instr : ARMword)
    (holds : P state) : P (SkyeyeStarlet.dataProcessing state pc instr) := by
  unfold SkyeyeStarlet.dataProcessing
  split
  · exact rules.work.multiplyCase instr holds
  · split
    · split
      · exact rules.dataTest instr holds
      · exact rules.statusCase pc instr holds
    · split
      · exact rules.dataFlags instr holds
      · exact rules.work.dataPlain instr holds

theorem StatusKept.undefInstr (rules : StatusKept bus traps P Q) (instr : ARMword)
    (holds : P state) :
    Reached P Q (armulUndefInstr bus traps state instr) := by
  unfold armulUndefInstr
  dsimp only
  split
  · exact Or.inl (rules.trap instr holds)
  · exact Or.inr (rules.enter _ rfl (rules.trap instr holds))

end Instructions

section Transfers

variable {bus : Bus Mem} {traps : Traps Mem} {P Q : ARMulState Mem → Prop}
  {state : ARMulState Mem}

theorem StatusKept.keep (rules : StatusKept bus traps P Q) {before after : ARMulState Mem}
    (holds : Reached P Q before) (same : after.status = before.status)
    (mem : after.mem = before.mem)
    (cycle : after.nextInstr = before.nextInstr ∨ after.nextInstr = before.nextInstr ||| 1#8) :
    Reached P Q after := by
  rcases holds with holds | holds
  · exact Or.inl (rules.work.status holds same)
  · exact Or.inr (rules.rest.keep holds same mem cycle)

theorem StatusKept.setReg (rules : StatusKept bus traps P Q) {number : RegNum}
    (notPc : number ≠ 15#4) (value : ARMword) (holds : Reached P Q state) :
    Reached P Q (state.setReg number value) := by
  rcases holds with holds | holds
  · exact Or.inl (rules.work.setReg number value holds)
  · exact Or.inr (rules.rest.setReg number value notPc holds)

theorem StatusKept.takeAbort (rules : StatusKept bus traps P Q) (holds : P state) :
    Q (SkyeyeStarlet.takeAbort bus state) := by
  exact rules.enter _ rfl holds

/-- An access of the addressing modes is a load or a store of the given size. -/
structure Accesses (bus : Bus Mem) (P : ARMulState Mem → Prop) (size : AccessSize)
    (access : ARMulState Mem → ARMword → ARMword → ARMulState Mem × Bool)
    (state : ARMulState Mem) (instr : ARMword) : Prop where
  loads : instr.getLsbD 20 = true → ∃ finish : ARMword → ARMulState Mem → ARMword → ARMulState Mem,
    (∀ address middle value, P middle → P (finish address middle value)) ∧
      ∀ address, access state instr address =
        SkyeyeStarlet.loadData bus size (finish address) state instr address
  stores : instr.getLsbD 20 = false → ∀ address,
    access state instr address = SkyeyeStarlet.storeData bus size state instr address

theorem accesses_single (bus : Bus Mem) (state : ARMulState Mem) {instr : ARMword}
    (writes : instr.getLsbD 20 = true → ∀ middle value, P middle →
      P (SkyeyeStarlet.writeDest middle instr value))
    (branches : instr.getLsbD 20 = true → ∀ middle value, P middle →
      P (SkyeyeStarlet.writeDestB middle instr value)) :
    Accesses bus P (singleSize instr) (SkyeyeStarlet.singleAccess bus) state instr := by
  constructor
  · intro load
    cases byte : instr.getLsbD 22 with
    | false =>
        refine ⟨fun address read dest => SkyeyeStarlet.writeDestB read instr
          (if address &&& 3#32 = 0#32 then dest else armulAlign address dest), ?_, ?_⟩
        · exact fun address middle value => branches load middle _
        · intro address
          simp only [SkyeyeStarlet.singleAccess, singleSize, byte, load, Bool.false_eq_true,
            if_false]
          rfl
    | true =>
        refine ⟨fun _ read dest => SkyeyeStarlet.writeDest read instr (signExtendFrom 8 false dest),
          ?_, ?_⟩
        · exact fun _ middle value => writes load middle _
        · intro address
          simp only [SkyeyeStarlet.singleAccess, singleSize, byte, load, if_true]
          rfl
  · intro store address
    cases byte : instr.getLsbD 22 with
    | false =>
        simp only [SkyeyeStarlet.singleAccess, singleSize, byte, store, Bool.false_eq_true, if_false]
        rfl
    | true =>
        simp only [SkyeyeStarlet.singleAccess, singleSize, byte, store, if_true]
        rfl

theorem accesses_half (bus : Bus Mem) (state : ARMulState Mem) {instr : ARMword}
    (writes : instr.getLsbD 20 = true → ∀ middle value, P middle →
      P (SkyeyeStarlet.writeDest middle instr value)) :
    Accesses bus P (halfSize instr) (SkyeyeStarlet.halfAccess bus) state instr := by
  constructor
  · intro load
    have extended (bits : Nat) (signed : Bool) (address : ARMword) (middle : ARMulState Mem)
        (value : ARMword) (holds : P middle) :
        P (SkyeyeStarlet.writeDest middle instr (signExtendFrom bits signed value)) :=
      writes load middle _ holds
    cases signed : instr.getLsbD 6 with
    | false =>
        refine ⟨fun _ read dest => SkyeyeStarlet.writeDest read instr
          (signExtendFrom 16 false dest), extended 16 false, fun address => ?_⟩
        simp only [SkyeyeStarlet.halfAccess, halfSize, load, signed, if_true, Bool.and_false,
          Bool.false_and, Bool.false_eq_true, if_false]
        rfl
    | true =>
        cases half : instr.getLsbD 5 with
        | false =>
            refine ⟨fun _ read dest => SkyeyeStarlet.writeDest read instr
              (signExtendFrom 8 true dest), extended 8 true, fun address => ?_⟩
            simp only [SkyeyeStarlet.halfAccess, halfSize, load, signed, half, if_true,
              Bool.and_true, Bool.not_false]
            rfl
        | true =>
            refine ⟨fun _ read dest => SkyeyeStarlet.writeDest read instr
              (signExtendFrom 16 true dest), extended 16 true, fun address => ?_⟩
            simp only [SkyeyeStarlet.halfAccess, halfSize, load, signed, half, if_true,
              Bool.not_true, Bool.and_false, Bool.false_eq_true, if_false]
            rfl
  · intro store address
    simp only [SkyeyeStarlet.halfAccess, halfSize, store, Bool.false_and, Bool.false_eq_true,
      if_false]
    rfl

theorem Stable.accesses_single (stable : Stable P) (bus : Bus Mem) (state : ARMulState Mem)
    (instr : ARMword) :
    Accesses bus P (singleSize instr) (SkyeyeStarlet.singleAccess bus) state instr := by
  exact SkyeyeStarlet.accesses_single bus state (fun _ _ _ => stable.writeDest instr _)
    fun _ _ _ => stable.writeDestB instr _

theorem Stable.accesses_half (stable : Stable P) (bus : Bus Mem) (state : ARMulState Mem)
    (instr : ARMword) :
    Accesses bus P (halfSize instr) (SkyeyeStarlet.halfAccess bus) state instr := by
  exact SkyeyeStarlet.accesses_half bus state fun _ _ _ => stable.writeDest instr _

/-- An access that takes no abort keeps the property; one that does has kept it up to there. -/
structure Attempted (bus : Bus Mem) (P : ARMulState Mem → Prop) (attempt : Attempt Mem)
    (result : ARMulState Mem × Bool) : Prop where
  tested : P attempt.tested
  clear : attempt.taken = false → P result.1
  faulted : attempt.taken = true →
    result = (SkyeyeStarlet.takeAbort bus attempt.tested,
      (SkyeyeStarlet.takeAbort bus attempt.tested).lateabtSig)

theorem Passive.attempted_load (passive : Passive P) (bus : Bus Mem) (size : AccessSize)
    {finish : ARMulState Mem → ARMword → ARMulState Mem}
    (finishes : ∀ middle value, P middle → P (finish middle value)) (instr address : ARMword)
    (holds : P state) :
    Attempted bus P (readAttempt bus size (SkyeyeStarlet.bususedincpcs state) address)
      (SkyeyeStarlet.loadData bus size finish state instr address) := by
  have read := passive.read bus size address (passive.bususedincpcs holds)
  refine ⟨read, ?_, ?_⟩ <;>
    simp only [Attempt.taken, readAttempt, SkyeyeStarlet.loadData, Bool.false_and, Bool.false_or]
  · intro clear
    rw [if_pos (bne_eq_false_iff_eq.mp clear)]
    exact finishes _ _ read
  · intro faulted
    rw [if_neg (bne_iff_ne.mp faulted)]

theorem Passive.attempted_store (passive : Passive P) (bus : Bus Mem) (size : AccessSize)
    (instr address : ARMword) (holds : P state) :
    Attempted bus P
      (writeAttempt bus size (SkyeyeStarlet.bususedincpcn state) address
        ((SkyeyeStarlet.bususedincpcn state).reg (destReg instr)))
      (SkyeyeStarlet.storeData bus size state instr address) := by
  have written := passive.write bus size address
    ((SkyeyeStarlet.bususedincpcn state).reg (destReg instr)) (passive.bususedincpcn holds)
  refine ⟨written, ?_, ?_⟩ <;>
    simp only [Attempt.taken, writeAttempt, SkyeyeStarlet.storeData, Bool.false_and, Bool.false_or]
  · intro clear
    rw [if_pos (bne_eq_false_iff_eq.mp clear)]
    exact written
  · intro faulted
    rw [if_neg (bne_iff_ne.mp faulted)]

theorem Accesses.attempted (passive : Passive P) {size : AccessSize}
    {access : ARMulState Mem → ARMword → ARMword → ARMulState Mem × Bool} {instr : ARMword}
    (accesses : Accesses bus P size access state instr)
    (offset : ARMulState Mem → ARMword → ARMword) (holds : P state) :
    Attempted bus P (indexedAttempt bus offset size state instr)
      (access state instr (if instr.getLsbD 24 then
        indexed offset state instr (lhsValue state instr) else lhsValue state instr)) := by
  unfold indexedAttempt
  dsimp only
  cases load : instr.getLsbD 20 with
  | true =>
      obtain ⟨finish, finishes, same⟩ := accesses.loads load
      rw [if_pos rfl, same]
      exact passive.attempted_load bus size (finishes _) instr _ holds
  | false =>
      rw [if_neg Bool.false_ne_true, accesses.stores load]
      exact passive.attempted_store bus size instr _ holds

theorem indexedTransfer_clear {offset : ARMulState Mem → ARMword → ARMword}
    {access : ARMulState Mem → ARMword → ARMword → ARMulState Mem × Bool} {instr : ARMword}
    (writes : instr.getLsbD 24 = false ∨ instr.getLsbD 21 = true →
      ∀ middle value, P middle → P (middle.setReg (lhsReg instr) value))
    (holds : P (access state instr (if instr.getLsbD 24 then
      indexed offset state instr (lhsValue state instr) else lhsValue state instr)).1) :
    P (SkyeyeStarlet.indexedTransfer offset access state instr) := by
  unfold SkyeyeStarlet.indexedTransfer
  dsimp only
  split
  · rename_i pre
    rw [if_pos pre] at holds
    split
    · rename_i based
      rw [Bool.and_eq_true] at based
      exact writes (Or.inr based.1) _ _ holds
    · exact holds
  · rename_i post
    rw [if_neg post] at holds
    split
    · exact writes (Or.inl (Bool.eq_false_iff.mpr post)) _ _ holds
    · exact holds

theorem Stable.indexedTransfer_clear (stable : Stable P)
    {offset : ARMulState Mem → ARMword → ARMword}
    {access : ARMulState Mem → ARMword → ARMword → ARMulState Mem × Bool} {instr : ARMword}
    (holds : P (access state instr (if instr.getLsbD 24 then
      indexed offset state instr (lhsValue state instr) else lhsValue state instr)).1) :
    P (SkyeyeStarlet.indexedTransfer offset access state instr) := by
  exact SkyeyeStarlet.indexedTransfer_clear (fun _ _ _ => stable.setReg _ _) holds

theorem StatusKept.indexedTransfer (rules : StatusKept bus traps P Q) (rest : Stable Q)
    {size : AccessSize} {access : ARMulState Mem → ARMword → ARMword → ARMulState Mem × Bool}
    {instr : ARMword} (accesses : Accesses bus P size access state instr)
    (offset : ARMulState Mem → ARMword → ARMword) (holds : P state) :
    Reached P Q (SkyeyeStarlet.indexedTransfer offset access state instr) := by
  have attempted := accesses.attempted rules.work.toPassive offset holds
  cases taken : (indexedAttempt bus offset size state instr).taken with
  | false => exact Or.inl (rules.work.indexedTransfer_clear (attempted.clear taken))
  | true =>
      refine Or.inr (rest.indexedTransfer_clear ?_)
      rw [attempted.faulted taken]
      exact rules.takeAbort attempted.tested

theorem StatusKept.singleTransfer (rules : StatusKept bus traps P Q) (rest : Stable Q)
    (instr : ARMword) (holds : P state) :
    Reached P Q (SkyeyeStarlet.singleTransfer bus state instr) := by
  have accesses (state : ARMulState Mem) := rules.work.accesses_single bus state instr
  unfold SkyeyeStarlet.singleTransfer
  split
  · have started : P { state with ntransSig := false } := rules.work.status holds rfl
    exact rules.keep (rules.indexedTransfer rest (accesses _) singleOffset started) rfl rfl
      (Or.inl rfl)
  · exact rules.indexedTransfer rest (accesses _) singleOffset holds

theorem StatusKept.halfTransfer (rules : StatusKept bus traps P Q) (rest : Stable Q)
    (instr : ARMword) (holds : P state) :
    Reached P Q (SkyeyeStarlet.halfTransfer bus state instr) := by
  exact rules.indexedTransfer rest (rules.work.accesses_half bus state instr) getLS7RHS holds

theorem Stable.doubleWriteBack (stable : Stable P) (instr : ARMword) (address : DoubleAddress)
    (holds : P state) : P (SkyeyeStarlet.doubleWriteBack state instr address) := by
  unfold SkyeyeStarlet.doubleWriteBack
  split
  · exact stable.setReg _ _ holds
  · exact holds

theorem StatusKept.handleLoadDouble (rules : StatusKept bus traps P Q) (instr : ARMword)
    (holds : P state) :
    Reached P Q (SkyeyeStarlet.handleLoadDouble bus traps state instr) := by
  have started := rules.work.bususedincpcs holds
  unfold SkyeyeStarlet.handleLoadDouble
  dsimp only
  split
  · have read := rules.work.read bus .word
      ((doubleAddress (SkyeyeStarlet.bususedincpcs state) instr).addr + 4#32)
      (rules.work.read bus .word
        (doubleAddress (SkyeyeStarlet.bususedincpcs state) instr).addr started)
    split
    · exact Or.inl (rules.work.doubleWriteBack _ _
        (rules.work.setReg _ _ (rules.work.setReg _ _ read)))
    · exact Or.inr (rules.takeAbort read)
  · exact rules.undefInstr instr started

theorem StatusKept.handleStoreDouble (rules : StatusKept bus traps P Q) (instr : ARMword)
    (holds : P state) :
    Reached P Q (SkyeyeStarlet.handleStoreDouble bus traps state instr) := by
  have started := rules.work.bususedincpcs holds
  unfold SkyeyeStarlet.handleStoreDouble
  dsimp only
  split
  · split
    · exact Or.inl (rules.work.doubleWriteBack _ _
        (rules.work.write bus _ _ _ (rules.work.write bus _ _ _ started)))
    · exact Or.inr (rules.takeAbort
        (rules.work.write bus _ _ _ (rules.work.write bus _ _ _ started)))
  · exact rules.undefInstr instr started

theorem StatusKept.swapEnd (rules : StatusKept bus traps P Q) (holds : P state) :
    Reached P Q (SkyeyeStarlet.swapEnd bus state) := by
  unfold SkyeyeStarlet.swapEnd
  split
  · exact Or.inr (rules.takeAbort holds)
  · exact Or.inl holds

theorem StatusKept.swapWord (rules : StatusKept bus traps P Q) (instr : ARMword)
    (holds : P state) :
    Reached P Q (SkyeyeStarlet.swapWord bus state instr) := by
  have read := rules.work.read bus .word (lhsValue state instr) (rules.work.bususedincpcs holds)
  exact rules.swapEnd (rules.work.setReg _ _ (rules.work.status read rfl))

theorem StatusKept.swapByte (rules : StatusKept bus traps P Q) (instr : ARMword)
    (holds : P state) :
    Reached P Q (SkyeyeStarlet.swapByte bus state instr) := by
  have read := rules.work.read bus .byte (lhsValue state instr) (rules.work.bususedincpcs holds)
  exact rules.swapEnd (rules.work.setReg _ _ (rules.work.write bus _ _ _ read))

def IndexedReached (bus : Bus Mem) (traps : Traps Mem) (P Q : ARMulState Mem → Prop)
    (state : ARMulState Mem) (instr : ARMword) : Prop :=
  ∀ kind, transferOf instr = some kind → kind = .single ∨ kind = .half →
    Reached P Q (SkyeyeStarlet.dataTransfer bus traps state instr kind)

theorem StatusKept.indexedReached (rules : StatusKept bus traps P Q) (rest : Stable Q)
    (instr : ARMword) (holds : P state) : IndexedReached bus traps P Q state instr := by
  rintro kind - (rfl | rfl)
  · exact rules.singleTransfer rest instr holds
  · exact rules.halfTransfer rest instr holds

theorem StatusKept.dataTransfer (rules : StatusKept bus traps P Q) {instr : ARMword}
    (indexed : IndexedReached bus traps P Q state instr) {kind : Transfer}
    (transfers : transferOf instr = some kind) (holds : P state) :
    Reached P Q (SkyeyeStarlet.dataTransfer bus traps state instr kind) := by
  cases kind with
  | single => exact indexed .single transfers (Or.inl rfl)
  | half => exact indexed .half transfers (Or.inr rfl)
  | loadDouble => exact rules.handleLoadDouble instr holds
  | storeDouble => exact rules.handleStoreDouble instr holds
  | swapWord => exact rules.swapWord instr holds
  | swapByte => exact rules.swapByte instr holds

end Transfers

section Blocks

variable {bus : Bus Mem} {traps : Traps Mem} {P Q : ARMulState Mem → Prop}
  {state : ARMulState Mem} {instr address wbBase : ARMword}

theorem transferAll_listed {first transfer : ARMulState Mem → Nat → ARMword → ARMulState Mem}
    (starts : ∀ state address, P state → P (first state (firstListed instr) address))
    (each : ∀ index ∈ laterListed instr, ∀ state address,
      P state → P (transfer state index address))
    (holds : P state) : P (transferAll first transfer instr address state) := by
  have rest (list : List Nat) (inside : ∀ index ∈ list, index ∈ laterListed instr) :
      ∀ (address : ARMword) (state : ARMulState Mem),
        P state → P (transferRest transfer list address state) := by
    induction list with
    | nil => exact fun _ _ holds => holds
    | cons index list ih =>
        intro address state holds
        have moved := each index (inside index List.mem_cons_self) state (address + 4#32) holds
        unfold transferRest
        dsimp only
        split
        · exact ih (fun index member => inside index (List.mem_cons_of_mem _ member)) _ _ moved
        · exact moved
  unfold transferAll
  dsimp only
  split
  · exact rest _ (fun _ member => member) _ _ (starts _ _ holds)
  · exact starts _ _ holds

theorem transferAll_kept {first transfer : ARMulState Mem → Nat → ARMword → ARMulState Mem}
    (starts : ∀ state index address, P state → P (first state index address))
    (each : ∀ state index address, P state → P (transfer state index address))
    (holds : P state) : P (transferAll first transfer instr address state) := by
  exact transferAll_listed (fun state address => starts state _ address)
    (fun index _ state address => each state index address) holds

theorem StatusKept.loadListed (rules : StatusKept bus traps P Q) (sticky : Bool)
    (state : ARMulState Mem) (index : Nat) (address : ARMword) (holds : P state) :
    P (SkyeyeStarlet.loadListed bus sticky state index address) := by
  have read := rules.work.read bus .word address holds
  unfold SkyeyeStarlet.loadListed
  dsimp only
  split
  · exact rules.rawReg index _ read
  · split
    · exact rules.work.status read rfl
    · exact read

theorem Passive.storeListed (passive : Passive P) (bus : Bus Mem) (state : ARMulState Mem)
    (index : Nat) (address : ARMword) (holds : P state) :
    P (SkyeyeStarlet.storeListed bus state index address) := by
  have written := passive.write bus .word address (SkyeyeStarlet.rawReg state.file index) holds
  unfold SkyeyeStarlet.storeListed
  dsimp only
  split
  · exact passive.same written rfl
  · exact written

theorem Stable.writeBack (stable : Stable P) (holds : P state) :
    P (SkyeyeStarlet.writeBack instr wbBase state) := by
  unfold SkyeyeStarlet.writeBack
  split
  · exact stable.setReg _ _ holds
  · exact holds

theorem Stable.writeBackLate (stable : Stable P) (holds : P state) :
    P (SkyeyeStarlet.writeBackLate instr wbBase state) := by
  unfold SkyeyeStarlet.writeBackLate
  split
  · exact holds
  · exact stable.writeBack holds

theorem StatusKept.loadMult (rules : StatusKept bus traps P Q) (holds : P state) :
    Reached P Q (SkyeyeStarlet.loadMult bus state instr address wbBase) := by
  have loaded : P (transferAll (SkyeyeStarlet.loadListed bus true)
      (SkyeyeStarlet.loadListed bus true) instr address (SkyeyeStarlet.bususedincpcs state)) :=
    transferAll_kept (rules.loadListed true) (rules.loadListed true)
      (rules.work.bususedincpcs holds)
  unfold SkyeyeStarlet.loadMult
  dsimp only
  split
  · refine Or.inl (rules.work.writeBack ?_)
    split
    · exact rules.work.writeR15Branch _ loaded
    · exact loaded
  · exact Or.inr (rules.takeAbort loaded)

theorem StatusKept.returnFromList (rules : StatusKept bus traps P Q) (holds : Reached P Q state) :
    Reached P Q (SkyeyeStarlet.returnFromList state) := by
  rcases holds with holds | holds
  · exact Or.inl (rules.work.returnFromList rules.savedStatus holds)
  · exact Or.inr (rules.returned holds)

theorem StatusKept.loadedBase (rules : StatusKept bus traps P Q) (instr wbBase : ARMword)
    (holds : P state) :
    Reached P Q (if state.aborted = 0#32 then SkyeyeStarlet.writeBack instr wbBase state
      else SkyeyeStarlet.takeAbort bus (SkyeyeStarlet.writeBackLate instr wbBase state)) := by
  split
  · exact Or.inl (rules.work.writeBack holds)
  · exact Or.inr (rules.takeAbort (rules.work.writeBackLate holds))

theorem StatusKept.toOwnBank (rules : StatusKept bus traps P Q) (holds : Reached P Q state) :
    Reached P Q (SkyeyeStarlet.toOwnBank state) := by
  rcases holds with holds | holds
  · exact Or.inl (rules.ownBank holds)
  · exact Or.inr (rules.unwind holds)

theorem StatusKept.listedEnd (rules : StatusKept bus traps P Q) (listed : Bool)
    (holds : Reached P Q state) :
    Reached P Q
      (let returned :=
        if listed && state.aborted == 0#32 then SkyeyeStarlet.returnFromList state else state
      if listed then returned else SkyeyeStarlet.toOwnBank returned) := by
  cases listed with
  | false => exact rules.toOwnBank holds
  | true =>
      simp only [Bool.true_and, if_true]
      split
      · exact rules.returnFromList holds
      · exact holds

theorem StatusKept.loadSMult (rules : StatusKept bus traps P Q) (holds : P state) :
    Reached P Q (SkyeyeStarlet.loadSMult bus state instr address wbBase) := by
  have started := rules.work.bususedincpcs holds
  have switched : P (if instr.getLsbD 15 then SkyeyeStarlet.bususedincpcs state
      else toUserBank (SkyeyeStarlet.bususedincpcs state)) := by
    split
    · exact started
    · exact rules.userBank started
  have loaded : P (transferAll (SkyeyeStarlet.loadListed bus false)
      (SkyeyeStarlet.loadListed bus true) instr address
      (if instr.getLsbD 15 then SkyeyeStarlet.bususedincpcs state
        else toUserBank (SkyeyeStarlet.bususedincpcs state))) :=
    transferAll_kept (rules.loadListed false) (rules.loadListed true) switched
  exact rules.listedEnd (instr.getLsbD 15) (rules.loadedBase instr wbBase loaded)

theorem StatusKept.orAbort (rules : StatusKept bus traps P Q) (holds : P state) :
    Reached P Q (if state.aborted = 0#32 then state else SkyeyeStarlet.takeAbort bus state) := by
  split
  · exact Or.inl holds
  · exact Or.inr (rules.takeAbort holds)

theorem StatusKept.storeMult (rules : StatusKept bus traps P Q) (holds : P state) :
    Reached P Q (SkyeyeStarlet.storeMult bus state instr address wbBase) := by
  have started : P (if state.tFlag then state else SkyeyeStarlet.bususedincpcn state) := by
    split
    · exact holds
    · exact rules.work.bususedincpcn holds
  exact rules.orAbort (rules.work.writeBackLate
    (transferAll_kept (rules.work.storeListed bus) (rules.work.storeListed bus) started))

theorem StatusKept.storeSMult (rules : StatusKept bus traps P Q) (holds : P state) :
    Reached P Q (SkyeyeStarlet.storeSMult bus state instr address wbBase) := by
  have stored : P (transferAll (SkyeyeStarlet.storeListed bus) (SkyeyeStarlet.storeListed bus)
      instr address (toUserBank (SkyeyeStarlet.bususedincpcn state))) :=
    transferAll_kept (rules.work.storeListed bus) (rules.work.storeListed bus)
      (rules.userBank (rules.work.bususedincpcn holds))
  refine rules.orAbort (rules.work.writeBackLate ?_)
  split
  · exact rules.ownBank stored
  · exact stored

theorem StatusKept.blockTransfer (rules : StatusKept bus traps P Q) (instr : ARMword)
    (holds : P state) :
    Reached P Q (SkyeyeStarlet.blockTransfer bus state instr) := by
  unfold SkyeyeStarlet.blockTransfer
  dsimp only
  split
  · exact rules.storeMult holds
  · exact rules.loadMult holds
  · exact rules.storeSMult holds
  · exact rules.loadSMult holds

end Blocks

section Coprocessors

variable {bus : Bus Mem} {traps : Traps Mem} {P Q : ARMulState Mem → Prop}
  {state : ARMulState Mem} {instr : ARMword}

theorem Loose.raised (loose : Loose bus P Q) (vector : Option Vector)
    (holds : P state) : Reached P Q (SkyeyeStarlet.raised bus state vector) := by
  cases vector with
  | none => exact Or.inl holds
  | some vector => exact Or.inr (loose.enter vector holds)

theorem StatusKept.interrupted (rules : StatusKept bus traps P Q) {vector : Vector}
    (calm : vector.is32 = true ∨ Loose bus P Q) (holds : P state) :
    Q (armulAbort bus.highVectors state vector) := by
  rcases calm with is32 | loose
  · exact rules.enter vector is32 holds
  · exact loose.enter vector holds

theorem StatusKept.coprocessorCall (rules : StatusKept bus traps P Q) {answer : Answer Mem}
    (calm : answer.Quiet ∨ Loose bus P Q) (holds : P state) :
    Reached P Q (SkyeyeStarlet.coprocessorCall bus SkyeyeStarlet.bususedincpcn state answer) := by
  have called (mem : Mem) : P { state with mem } := rules.work.status holds rfl
  cases answer with
  | done mem vector =>
      rcases calm with quiet | loose
      · obtain rfl : vector = none := quiet
        exact Or.inl (rules.work.bususedincpcn (called mem))
      · exact (rules.work.or loose.rest).bususedincpcn (loose.raised vector (called mem))
  | cant mem => exact Or.inr (rules.enter _ rfl (called mem))
  | interrupted mem vector => exact Or.inr (rules.interrupted calm (called mem))

theorem StatusKept.coprocessorOperation (rules : StatusKept bus traps P Q) {answer : Answer Mem}
    (calm : answer.Is32 ∨ Loose bus P Q) (holds : P state) :
    Reached P Q (SkyeyeStarlet.coprocessorCall bus busused state answer) := by
  have called (mem : Mem) : P { state with mem } := rules.work.status holds rfl
  cases answer with
  | done mem vector =>
      cases vector with
      | none => exact Or.inl (rules.work.status (called mem) rfl)
      | some vector =>
          have entered := rules.interrupted
            (calm.imp_left fun quiet => quiet vector (Option.mem_some_self vector)) (called mem)
          exact Or.inr (rules.rest.keep entered rfl rfl (Or.inr rfl))
  | cant mem => exact Or.inr (rules.enter _ rfl (called mem))
  | interrupted mem vector => exact Or.inr (rules.interrupted calm (called mem))

theorem StatusKept.coprocessorRegister (rules : StatusKept bus traps P Q)
    {cops : Coprocessors Mem} (calm : QuietCoprocessors cops ∨ Loose bus P Q) (holds : P state) :
    Reached P Q (SkyeyeStarlet.coprocessorRegister bus cops state instr) := by
  unfold SkyeyeStarlet.coprocessorRegister
  split
  · split
    · have called := rules.coprocessorCall
        (calm.imp_left fun quiet => quiet.mrc instr state.mem) holds
      dsimp only
      split
      · exact rules.keep called rfl rfl (Or.inl rfl)
      · rename_i notPc
        exact rules.setReg notPc _ called
    · exact rules.coprocessorCall (calm.imp_left fun quiet => quiet.mcr instr _ state.mem) holds
  · exact rules.coprocessorOperation (calm.imp_left fun quiet => quiet.cdp instr state.mem) holds

theorem Passive.ldcRest (passive : Passive P) (bus : Bus Mem) (cops : Coprocessors Mem)
    (instr : ARMword) (words : Nat) : ∀ (address : ARMword) (state : ARMulState Mem),
    P state → P (SkyeyeStarlet.ldcRest bus cops instr words address state) := by
  induction words with
  | zero => exact fun _ _ holds => holds
  | succ words ih =>
      intro address state holds
      have read := passive.read bus .word (address + 4#32) holds
      unfold SkyeyeStarlet.ldcRest
      dsimp only
      split
      · exact read
      · exact ih _ _ (passive.same read rfl)

theorem Passive.stcRest (passive : Passive P) (bus : Bus Mem) (cops : Coprocessors Mem)
    (instr : ARMword) (words : Nat) : ∀ (address : ARMword) (state : ARMulState Mem),
    P state → P (SkyeyeStarlet.stcRest bus cops instr words address state) := by
  induction words with
  | zero => exact fun _ _ holds => holds
  | succ words ih =>
      intro address state holds
      have given : P { state with mem := (cops.store instr state.mem).1 } :=
        passive.same holds rfl
      have written := passive.write bus .word (address + 4#32)
        (cops.store instr state.mem).2 given
      unfold SkyeyeStarlet.stcRest
      dsimp only
      split
      · exact written
      · exact ih _ _ written

theorem Passive.ldcWords (passive : Passive P) (bus : Bus Mem) (cops : Coprocessors Mem)
    (instr address : ARMword) (holds : P state) :
    P (SkyeyeStarlet.ldcWords bus cops state instr address) := by
  have read := passive.read bus .word address holds
  unfold SkyeyeStarlet.ldcWords
  dsimp only
  split
  · exact read
  · exact passive.ldcRest bus cops instr _ _ _ (passive.same (passive.bususedincpcn read) rfl)

theorem Passive.stcWords (passive : Passive P) (bus : Bus Mem) (cops : Coprocessors Mem)
    (instr address : ARMword) (holds : P state) :
    P (SkyeyeStarlet.stcWords bus cops state instr address) := by
  have started := passive.bususedincpcn holds
  have written := fun data => passive.write bus .word address data
    (passive.same started rfl :
      P { SkyeyeStarlet.bususedincpcn state with
        mem := (cops.store instr (SkyeyeStarlet.bususedincpcn state).mem).1 })
  unfold SkyeyeStarlet.stcWords
  dsimp only
  split
  · exact written _
  · exact passive.stcRest bus cops instr _ _ _ (written _)

theorem Stable.coprocessorBase (stable : Stable P) (instr base : ARMword) (holds : P state) :
    P (SkyeyeStarlet.coprocessorBase state instr base) := by
  unfold SkyeyeStarlet.coprocessorBase
  split
  · exact stable.setReg _ _ holds
  · exact holds

theorem StatusKept.orTakeAbort (rules : StatusKept bus traps P Q) (holds : P state) :
    Reached P Q
      (if accessAborted state then SkyeyeStarlet.takeAbort bus state else state) := by
  split
  · exact Or.inr (rules.takeAbort holds)
  · exact Or.inl holds

theorem Loose.orTakeAbort (loose : Loose bus P Q) (holds : Reached P Q state) :
    Reached P Q
      (if accessAborted state then SkyeyeStarlet.takeAbort bus state else state) := by
  split
  · exact Or.inr (holds.elim (loose.enter _) (loose.again _))
  · exact holds

theorem StatusKept.coprocessorWords (rules : StatusKept bus traps P Q) {cops : Coprocessors Mem}
    (calm : QuietCoprocessors cops ∨ Loose bus P Q) (address base : ARMword) (holds : P state) :
    Reached P Q (SkyeyeStarlet.coprocessorWords bus cops state instr address base) := by
  have called (mem : Mem) : P { state with mem } := rules.work.status holds rfl
  have quiet := calm.imp_left fun quiet => quiet.transfer instr state.mem
  have moved {R : ARMulState Mem → Prop} (stable : Stable R) {accepted : ARMulState Mem}
      (holds : R accepted) :
      R (SkyeyeStarlet.coprocessorBase (if instr.getLsbD 20 then
          SkyeyeStarlet.ldcWords bus cops accepted instr address
        else SkyeyeStarlet.stcWords bus cops accepted instr address) instr base) := by
    refine stable.coprocessorBase instr base ?_
    split
    · exact stable.ldcWords bus cops instr address holds
    · exact stable.stcWords bus cops instr address holds
  unfold SkyeyeStarlet.coprocessorWords
  cases answer : cops.transfer instr state.mem with
  | done mem vector =>
      rw [answer] at quiet
      dsimp only
      rcases quiet with quiet | loose
      · obtain rfl : vector = none := quiet
        exact rules.orTakeAbort (moved rules.work (called mem))
      · exact loose.orTakeAbort
          (moved (rules.work.or loose.rest) (loose.raised vector (called mem)))
  | cant mem =>
      refine Or.inr (rules.enter _ ?_ (called mem))
      split <;> rfl
  | interrupted mem vector =>
      rw [answer] at quiet
      exact Or.inr (rules.interrupted quiet (called mem))

theorem StatusKept.coprocessorTransfer (rules : StatusKept bus traps P Q)
    {cops : Coprocessors Mem} (calm : QuietCoprocessors cops ∨ Loose bus P Q) (holds : P state) :
    Reached P Q (SkyeyeStarlet.coprocessorTransfer bus traps cops state instr) := by
  unfold SkyeyeStarlet.coprocessorTransfer
  split
  · exact rules.undefInstr instr holds
  · exact rules.coprocessorWords calm _ _ holds

theorem StatusKept.softwareInterrupt (rules : StatusKept bus traps P Q) (pc : ARMword)
    (holds : P state) :
    Reached P Q (SkyeyeStarlet.softwareInterrupt bus traps state pc instr) := by
  unfold SkyeyeStarlet.softwareInterrupt
  split
  · exact Or.inr (rules.enter _ rfl holds)
  · dsimp only
    split
    · exact Or.inl (rules.trap instr holds)
    · exact Or.inr (rules.enter _ rfl (rules.trap instr holds))

end Coprocessors

section Execution

variable {bus : Bus Mem} {traps : Traps Mem} {P Q : ARMulState Mem → Prop}
  {state : ARMulState Mem}

theorem Stable.branch (stable : Stable P) (pc instr : ARMword) (holds : P state) :
    P (SkyeyeStarlet.branch state pc instr) := by
  refine stable.flushpipe (stable.setReg _ _ ?_)
  split
  · exact stable.setReg _ _ holds
  · exact holds

theorem StatusKept.mainSwitch (rules : StatusKept bus traps P Q) {cops : Coprocessors Mem}
    (calm : QuietCoprocessors cops ∨ Loose bus P Q) (pc : ARMword) {instr : ARMword}
    (indexed : IndexedReached bus traps P Q state instr) (holds : P state) :
    Reached P Q (SkyeyeStarlet.mainSwitch bus traps cops state pc instr) := by
  unfold SkyeyeStarlet.mainSwitch
  split
  · rename_i kind transfers
    exact rules.dataTransfer indexed transfers holds
  · split
    · exact Or.inl (rules.dataProcessing pc instr holds)
    · exact Or.inl (rules.dataProcessing pc instr holds)
    · unfold undefinedTransfer
      split
      · exact Or.inl (rules.work.status holds rfl)
      · exact rules.undefInstr instr holds
    · unfold undefinedTransfer
      split
      · exact Or.inl (rules.work.status holds rfl)
      · exact rules.undefInstr instr holds
    · exact rules.blockTransfer instr holds
    · exact Or.inl (rules.work.branch pc instr holds)
    · exact rules.coprocessorTransfer calm holds
    · split
      · exact rules.softwareInterrupt pc holds
      · exact rules.coprocessorRegister calm holds

theorem StatusKept.executeArm_unpassed (rules : StatusKept bus traps P Q)
    (cops : Coprocessors Mem) (pc : ARMword) {instr : ARMword}
    (unpassed : passedWord state instr = none) (holds : P state) :
    Reached P Q (SkyeyeStarlet.executeArm bus traps cops state pc instr) := by
  unfold passedWord at unpassed
  unfold SkyeyeStarlet.executeArm
  split at unpassed
  · rename_i never
    rw [if_pos never]
    split at unpassed
    · cases unpassed
    · rename_i refused
      simp only [Bool.and_eq_true, Bool.or_eq_true, bne_iff_ne, beq_iff_eq] at refused
      unfold SkyeyeStarlet.unconditional
      split
      · exact Or.inl holds
      · rename_i isV5
        split
        · exact Or.inl (rules.work.writeR15Branch _ (rules.work.setReg _ _ holds))
        · rename_i notBranch
          split
          · exact Or.inl holds
          · rename_i notPreload
            split
            · rename_i coprocessor
              rw [Bool.not_eq_true', Bool.not_eq_false] at isV5
              exact absurd ⟨⟨⟨isV5, notBranch⟩, notPreload⟩, coprocessor⟩ refused
            · exact rules.undefInstr instr holds
  · rename_i conditional
    rw [if_neg conditional]
    split at unpassed
    · cases unpassed
    · rename_i fails
      rw [if_neg fails]
      exact Or.inl holds

theorem group_cases (code : BitVec 5) :
    (code = 0#5 ∨ code = 1#5 ∨ code = 2#5) ∨ code = 3#5 ∨
      (code = 4#5 ∨ code = 5#5 ∨ code = 6#5 ∨ code = 7#5) ∨ code = 8#5 ∨ code = 9#5 ∨
      (code = 10#5 ∨ code = 11#5) ∨ (code = 12#5 ∨ code = 13#5 ∨ code = 14#5 ∨ code = 15#5) ∨
      (code = 16#5 ∨ code = 17#5) ∨ (code = 18#5 ∨ code = 19#5) ∨ (code = 20#5 ∨ code = 21#5) ∨
      (code = 22#5 ∨ code = 23#5) ∨ (code = 24#5 ∨ code = 25#5) ∨ (code = 26#5 ∨ code = 27#5) ∨
      code = 28#5 ∨ (code = 29#5 ∨ code = 31#5) ∨ code = 30#5 := by
  revert code
  decide

def branchesKept (P : ARMulState Mem → Prop) : ThumbResult Mem → Prop
  | .branched after => P after
  | _ => True

theorem Stable.thumbSuffix (stable : Stable P) (pc : ARMword) (tinstr : Halfword)
    (holds : P state) : branchesKept P (SkyeyeStarlet.thumbSuffix state pc tinstr) := by
  have linked := stable.setReg 14#4 ((pc + 2#32) ||| 1#32) holds
  unfold SkyeyeStarlet.thumbSuffix
  dsimp only
  split
  · trivial
  · split
    · exact stable.flushpipe (stable.exchange false (stable.setReg 15#4
        ((state.reg 14#4 + field tinstr 0 11 1) &&& 0xfffffffc#32) linked))
    · exact stable.flushpipe (stable.setReg _ _ linked)

theorem Stable.thumbPrefix (stable : Stable P) (pc : ARMword) (tinstr next : Halfword)
    (holds : P state) : branchesKept P (SkyeyeStarlet.thumbPrefix state pc tinstr next) := by
  unfold SkyeyeStarlet.thumbPrefix
  dsimp only
  split
  · exact stable.setReg _ _ holds
  · exact stable.thumbSuffix _ _ (stable.setReg _ _ holds)

/-- Outside the long branches, the decoder runs only jumps. -/
theorem Passive.thumbDecodeHalf (passive : Passive P) (pc : ARMword) (tinstr next : Halfword)
    (holds : P state)
    (long : tinstr.extractLsb' 11 5 ∈ [29#5, 30#5, 31#5] →
      branchesKept P (SkyeyeStarlet.thumbDecodeHalf state pc tinstr next)) :
    branchesKept P (SkyeyeStarlet.thumbDecodeHalf state pc tinstr next) := by
  have jumps (target : ARMword) : P (thumbJump state target) :=
    passive.flushpipe (passive.setPc _ holds)
  have conditional : P (thumbCondBranch state pc tinstr) := by
    unfold thumbCondBranch
    split
    · exact jumps _
    · exact holds
  by_cases branches : tinstr.extractLsb' 11 5 ∈ [29#5, 30#5, 31#5]
  · exact long branches
  · have group := group_cases (tinstr.extractLsb' 11 5)
    simp only [List.mem_cons, List.not_mem_nil, or_false] at branches
    unfold SkyeyeStarlet.thumbDecodeHalf
    split <;> try trivial
    · split
      · split
        · trivial
        · trivial
      · trivial
    · split
      · trivial
      · split
        · trivial
        · exact conditional
    · split
      · trivial
      · split
        · trivial
        · exact conditional
    · exact jumps _
    · simp_all
    · simp_all

theorem Stable.thumbDecode (stable : Stable P) (pc word : ARMword) (holds : P state) :
    branchesKept P (armulThumbDecode state pc word) := by
  unfold armulThumbDecode
  dsimp only
  refine stable.thumbDecodeHalf pc _ _ holds fun long => ?_
  simp only [List.mem_cons, List.not_mem_nil, or_false] at long
  unfold SkyeyeStarlet.thumbDecodeHalf
  rcases long with exchange | first | second
  · rw [exchange]
    exact stable.thumbSuffix _ _ holds
  · rw [first]
    exact stable.thumbPrefix _ _ _ holds
  · rw [second]
    exact stable.thumbSuffix _ _ holds

theorem StatusKept.execute_unswitched (rules : StatusKept bus traps P Q)
    (cops : Coprocessors Mem) {pc instr : ARMword}
    (unswitched : switchedWord state pc instr = none) (holds : P state) :
    Reached P Q (SkyeyeStarlet.execute bus traps cops state pc instr) := by
  unfold switchedWord at unswitched
  unfold SkyeyeStarlet.execute
  split at unswitched
  · rename_i thumb
    have decoded := rules.work.thumbDecode pc instr holds
    rw [if_pos thumb]
    cases result : armulThumbDecode state pc instr with
    | undefined => exact rules.undefInstr instr holds
    | branched after =>
        rw [result] at decoded
        exact Or.inl decoded
    | decoded word =>
        rw [result] at unswitched
        exact rules.executeArm_unpassed cops pc unswitched holds
  · rename_i arm
    rw [if_neg arm]
    exact rules.executeArm_unpassed cops pc unswitched holds

theorem StatusKept.execute (rules : StatusKept bus traps P Q) {cops : Coprocessors Mem}
    (calm : QuietCoprocessors cops ∨ Loose bus P Q) {pc instr : ARMword}
    (indexed : ∀ word, switchedWord state pc instr = some word →
      IndexedReached bus traps P Q state word) (holds : P state) :
    Reached P Q (SkyeyeStarlet.execute bus traps cops state pc instr) := by
  cases switched : switchedWord state pc instr with
  | none => exact rules.execute_unswitched cops switched holds
  | some word =>
      rw [execute_switched switched]
      exact rules.mainSwitch calm pc (indexed word switched) holds

theorem StatusKept.execute_loose (rules : StatusKept bus traps P Q) (loose : Loose bus P Q)
    (cops : Coprocessors Mem) (pc instr : ARMword) (holds : P state) :
    Reached P Q (SkyeyeStarlet.execute bus traps cops state pc instr) := by
  exact rules.execute (Or.inr loose) (fun word _ => rules.indexedReached loose.rest word holds)
    holds

end Execution

section Rounds

variable {bus : Bus Mem} {traps : Traps Mem} {P : ARMulState Mem → Prop}
  {state : ARMulState Mem}

theorem Passive.reload (passive : Passive P) (bus : Bus Mem) (address isize : ARMword)
    (holds : P state) : P (armulReLoadInstr bus state address isize).1 := by
  unfold armulReLoadInstr
  split
  · exact passive.same holds rfl
  · unfold prefetchAbort
    split
    · exact passive.same holds rfl
    · exact passive.same holds rfl

theorem Passive.primePipe (passive : Passive P) (bus : Bus Mem) {emulator : Emulator Mem}
    (holds : P emulator.cpu) : P (SkyeyeStarlet.primePipe bus emulator).cpu := by
  unfold SkyeyeStarlet.primePipe
  split
  · have stepped : P (stepPc emulator) := by
      unfold stepPc
      split
      · exact holds
      · exact passive.setPc _ holds
    exact passive.same (passive.reload bus _ _ stepped) rfl
  · have restarted : P (restartPc emulator.cpu) :=
      passive.same (passive.setPc _ holds) rfl
    have first := passive.reload bus (emulator.cpu.reg 15#4) (insnSize emulator.cpu) restarted
    exact passive.same (passive.reload bus _ _ (passive.reload bus _ _ first)) rfl

theorem StatusKept.round (rules : StatusKept bus traps P P) (loose : Loose bus P P)
    (cops : Coprocessors Mem) (emulator : Emulator Mem) (round : Round Mem)
    (holds : P emulator.cpu) : P (emulateRound bus traps cops emulator round).cpu := by
  have primed := rules.work.primePipe bus holds
  unfold emulateRound
  split
  · unfold finishRound
    split
    · unfold reenter
      split
      · exact loose.enter _ primed
      · exact loose.enter _ primed
    · have executing : P ((primePipe bus emulator).executing round) :=
        rules.work.status primed rfl
      exact (rules.execute_loose loose cops _ _ executing).elim id id
  · exact holds

theorem StatusKept.run (rules : StatusKept bus traps P P) (loose : Loose bus P P)
    (cops : Coprocessors Mem) (emulator : Emulator Mem) (holds : P emulator.cpu)
    (rounds : List (Round Mem)) :
    P (Runs.run (emulateRound bus traps cops) emulator rounds).cpu := by
  exact Runs.run_invariant (emulateRound bus traps cops) (fun emulator => P emulator.cpu)
    (fun emulator round => rules.round loose cops emulator round) emulator holds rounds

end Rounds

end SkyeyeStarlet
