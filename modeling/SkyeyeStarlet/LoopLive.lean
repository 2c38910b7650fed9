import SkyeyeStarlet.Flow
import SkyeyeStarlet.StickyFlag
import SkyeyeStarlet.TrapReads

/-!
What keeps the loop of `ARMul_Emulate32` running: the emulation is not told to stop, and the
mode is one of the 32 bit ones.  An access that aborts keeps both, so only the instructions
that write a status word, and the breakpoints, are left out here.
-/

namespace SkyeyeStarlet

variable {Mem : Type}

structure Live (state : ARMulState Mem) : Prop where
  prog32 : state.prog32Sig = true
  valid : validMode state.mode = true
  emulate : state.emulate = .run

section Updates

variable {before after state : ARMulState Mem}

theorem Live.running (live : Live state) : running state = true := by
  rw [SkyeyeStarlet.running, live.prog32, live.emulate, validMode_mode32bit live.valid]
  rfl

theorem Live.congr (live : Live before) (prog32 : after.prog32Sig = before.prog32Sig)
    (mode : after.mode = before.mode) (emulate : after.emulate = before.emulate) :
    Live after := by
  exact ⟨prog32.trans live.prog32, by rw [mode]; exact live.valid, emulate.trans live.emulate⟩

theorem Live.steady (live : Live before) (steady : Steady before after) : Live after := by
  exact live.congr (congrArg Core.prog32Sig steady.core) steady.mode steady.emulate

theorem Live.setReg (live : Live state) (number : RegNum) (value : ARMword) :
    Live (state.setReg number value) := by
  exact live.congr rfl rfl rfl

theorem Live.abort (live : Live state) (highVectors : Mem → Bool) {vector : Vector}
    (is32 : vector.is32 = true) : Live (armulAbort highVectors state vector) := by
  rw [armulAbort_eq highVectors live.prog32 live.valid is32]
  exact ⟨live.prog32, Vector.mode_valid is32, live.emulate⟩

theorem Live.takeAbort (live : Live state) (bus : Bus Mem) : Live (takeAbort bus state) := by
  exact live.abort _ rfl

theorem Live.writeR15Branch (live : Live state) (src : ARMword) :
    Live (writeR15Branch state src) := by
  exact live.congr rfl rfl rfl

theorem Live.writeDest (live : Live state) (instr value : ARMword) :
    Live (writeDest state instr value) := by
  unfold SkyeyeStarlet.writeDest
  split <;> exact live.congr rfl rfl rfl

theorem Live.writeDestB (live : Live state) (instr value : ARMword) :
    Live (writeDestB state instr value) := by
  unfold SkyeyeStarlet.writeDestB
  split <;> exact live.congr rfl rfl rfl

theorem Live.writeBack (live : Live state) (instr wbBase : ARMword) :
    Live (writeBack instr wbBase state) := by
  exact live.steady (steady_writeBack instr wbBase state)

theorem Live.undefInstr (live : Live state) (bus : Bus Mem) {traps : Traps Mem}
    (trapsRead : TrapsReadOnly traps) (instr : ARMword) :
    Live (armulUndefInstr bus traps state instr) := by
  have trapped := live.steady (trapsRead.steady state instr)
  unfold armulUndefInstr
  dsimp only
  split
  · exact trapped
  · exact trapped.abort _ rfl

end Updates

section DataProcessing

variable {state : ARMulState Mem} {instr : ARMword}

theorem Live.plainRHS (live : Live state) (instr : ARMword) : Live (plainRHS state instr).1 := by
  unfold SkyeyeStarlet.plainRHS dpRegRHS
  split
  · exact live
  · split
    · exact live
    · dsimp only
      split
      · exact live.congr rfl rfl rfl
      · exact live

theorem Live.carryRHS (live : Live state) (instr : ARMword) : Live (carryRHS state instr).1 := by
  unfold SkyeyeStarlet.carryRHS
  split
  · unfold dpsImmRHS
    split
    · exact live
    · exact live.congr rfl rfl rfl
  · have started : Live (dpRegRHS state instr).1 := by
      unfold dpRegRHS
      split
      · exact live
      · dsimp only
        split
        · exact live.congr rfl rfl rfl
        · exact live
    exact started.steady (dpsRegRHS_steady state instr)

theorem Live.writeSDest (live : Live state) (notPc : destReg instr ≠ 15#4) (value : ARMword) :
    Live (writeSDest state instr value) := by
  rw [SkyeyeStarlet.writeSDest, if_neg notPc]
  exact live.congr rfl rfl rfl

theorem live_dataPlain (live : Live state) (instr : ARMword) : Live (dataPlain state instr) := by
  exact (live.plainRHS instr).writeDest instr _

theorem live_dataFlags (live : Live state) (notPc : destReg instr ≠ 15#4) :
    Live (dataFlags state instr) := by
  unfold dataFlags
  split
  · exact ((live.plainRHS instr).steady (steady_opcodeFlags _ _ _ _ _)).writeSDest notPc _
  · exact (live.carryRHS instr).writeSDest notPc _

theorem live_dataTest (live : Live state) (notPc : destReg instr ≠ 15#4) :
    Live (dataTest state instr) := by
  rw [dataTest, if_neg notPc]
  split
  · exact ((live.plainRHS instr).steady (steady_negZero _ _)).steady (steady_opcodeFlags _ _ _ _ _)
  · exact (live.carryRHS instr).steady (steady_negZero _ _)

end DataProcessing

section Transfers

variable {bus : Bus Mem} {state : ARMulState Mem} {instr : ARMword}

theorem Live.read (live : Live state) (bus : Bus Mem) (size : AccessSize) (address : ARMword) :
    Live (armulRead bus size state address).1 := by
  exact live.steady (steady_read bus size state address)

theorem Live.write (live : Live state) (bus : Bus Mem) (size : AccessSize)
    (address data : ARMword) : Live (armulWrite bus size state address data) := by
  exact live.steady (steady_write bus size state address data)

theorem Live.bususedincpcs (live : Live state) : Live (bususedincpcs state) := by
  unfold SkyeyeStarlet.bususedincpcs
  split
  · exact live
  · exact live.congr rfl rfl rfl

theorem Live.bususedincpcn (live : Live state) : Live (bususedincpcn state) := by
  unfold SkyeyeStarlet.bususedincpcn
  split <;> exact live.congr rfl rfl rfl

theorem live_loadData (live : Live state) (size : AccessSize)
    {finish : ARMulState Mem → ARMword → ARMulState Mem}
    (finishes : ∀ read value, Live read → Live (finish read value)) (instr address : ARMword) :
    Live (loadData bus size finish state instr address).1 := by
  have read := live.bususedincpcs.read bus size address
  unfold loadData
  dsimp only
  split
  · exact finishes _ _ read
  · exact read.takeAbort bus

theorem live_storeData (live : Live state) (size : AccessSize) (instr address : ARMword) :
    Live (storeData bus size state instr address).1 := by
  have written := live.bususedincpcn.write bus size address
    ((bususedincpcn state).reg (destReg instr))
  unfold storeData
  dsimp only
  split
  · exact written
  · exact written.takeAbort bus

theorem live_singleAccess (live : Live state) (instr address : ARMword) :
    Live (singleAccess bus state instr address).1 := by
  unfold singleAccess
  split
  · exact live_storeData live .word instr address
  · exact live_loadData live .word (fun read value ready => ready.writeDestB instr _) instr address
  · exact live_storeData live .byte instr address
  · exact live_loadData live .byte (fun read value ready => ready.writeDest instr _) instr address

theorem live_halfAccess (live : Live state) (instr address : ARMword) :
    Live (halfAccess bus state instr address).1 := by
  have loads (size : AccessSize) (bits : Nat) (signextend : Bool) :
      Live (loadData bus size (fun read dest =>
        writeDest read instr (signExtendFrom bits signextend dest)) state instr address).1 :=
    live_loadData live size (fun read value ready => ready.writeDest instr _) instr address
  unfold halfAccess
  split
  · split
    · exact loads .byte 8 true
    · exact loads .halfword 16 true
    · exact loads .halfword 16 false
  · exact live_storeData live .halfword instr address

theorem live_indexedTransfer {offset : ARMulState Mem → ARMword → ARMword}
    {access : ARMulState Mem → ARMword → ARMword → ARMulState Mem × Bool}
    (accesses : ∀ address, Live (access state instr address).1) :
    Live (indexedTransfer offset access state instr) := by
  unfold indexedTransfer
  dsimp only
  split <;> split
  · exact (accesses _).setReg _ _
  · exact accesses _
  · exact (accesses _).setReg _ _
  · exact accesses _

theorem live_singleTransfer (live : Live state) (instr : ARMword) :
    Live (singleTransfer bus state instr) := by
  unfold singleTransfer
  split
  · have unprivileged : Live { state with ntransSig := false } := live.congr rfl rfl rfl
    exact (live_indexedTransfer fun address =>
      live_singleAccess unprivileged instr address).congr rfl rfl rfl
  · exact live_indexedTransfer fun address => live_singleAccess live instr address

theorem Live.doubleWriteBack (live : Live state) (instr : ARMword) (address : DoubleAddress) :
    Live (doubleWriteBack state instr address) := by
  unfold SkyeyeStarlet.doubleWriteBack
  split
  · exact live.setReg _ _
  · exact live

theorem Live.swapEnd (live : Live state) (bus : Bus Mem) : Live (swapEnd bus state) := by
  unfold SkyeyeStarlet.swapEnd
  split
  · exact live.takeAbort bus
  · exact live

theorem live_dataTransfer {traps : Traps Mem} (trapsRead : TrapsReadOnly traps)
    (live : Live state) (instr : ARMword) (kind : Transfer) :
    Live (dataTransfer bus traps state instr kind) := by
  have started := live.bususedincpcs
  cases kind with
  | single => exact live_singleTransfer live instr
  | half => exact live_indexedTransfer fun address => live_halfAccess live instr address
  | loadDouble =>
      unfold dataTransfer handleLoadDouble
      dsimp only
      split
      · have read (first second : ARMword) := (started.read bus .word first).read bus .word second
        split
        · exact (((read _ _).setReg _ _).setReg _ _).doubleWriteBack instr _
        · exact (read _ _).takeAbort bus
      · exact started.undefInstr bus trapsRead instr
  | storeDouble =>
      unfold dataTransfer handleStoreDouble
      dsimp only
      split
      · have written (first second low high : ARMword) :=
          (started.write bus .word first low).write bus .word second high
        split
        · exact (written _ _ _ _).doubleWriteBack instr _
        · exact (written _ _ _ _).takeAbort bus
      · exact started.undefInstr bus trapsRead instr
  | swapWord =>
      have swapped (mem : Mem) :=
        (started.read bus .word (lhsValue state instr)).steady (steady_mem _ mem)
      exact ((swapped _).setReg _ _).swapEnd bus
  | swapByte =>
      have swapped := (started.read bus .byte (lhsValue state instr)).write bus .byte
        (lhsValue state instr) ((bususedincpcs state).reg (rhsReg instr))
      exact (swapped.setReg _ _).swapEnd bus

theorem live_transferAll {first transfer : ARMulState Mem → Nat → ARMword → ARMulState Mem}
    (live : Live state)
    (starts : ∀ state index address, Live state → Live (first state index address))
    (each : ∀ state index address, Live state → Live (transfer state index address))
    (instr address : ARMword) : Live (transferAll first transfer instr address state) := by
  exact @transferAll_related Mem (fun before after => Live before → Live after)
    (fun _ => id) (fun _ _ _ first second => second ∘ first) first transfer instr
    (fun _ _ => starts _ _ _) (fun _ _ _ _ => each _ _ _) address state live

variable (bus)

theorem live_loadListed (sticky : Bool) (live : Live state) (index : Nat) (address : ARMword) :
    Live (loadListed bus sticky state index address) := by
  have read := live.read bus .word address
  unfold loadListed
  dsimp only
  split
  · exact read.congr rfl rfl rfl
  · split
    · exact read.congr rfl rfl rfl
    · exact read

theorem live_storeListed (live : Live state) (index : Nat) (address : ARMword) :
    Live (storeListed bus state index address) := by
  exact live.steady (steady_storeListed state index address)

theorem Live.orAbort (live : Live state) :
    Live (if state.aborted = 0#32 then state else SkyeyeStarlet.takeAbort bus state) := by
  split
  · exact live
  · exact live.takeAbort bus

theorem live_storeMult (live : Live state) (instr address wbBase : ARMword) :
    Live (storeMult bus state instr address wbBase) := by
  have started : Live (if state.tFlag then state else SkyeyeStarlet.bususedincpcn state) := by
    split
    · exact live
    · exact live.bususedincpcn
  have stored := live_transferAll started (fun _ index address live =>
    live_storeListed bus live index address) (fun _ index address live =>
    live_storeListed bus live index address) instr address
  exact (stored.steady (steady_writeBackLate instr wbBase _)).orAbort bus

theorem live_loadMult (live : Live state) (instr address wbBase : ARMword) :
    Live (loadMult bus state instr address wbBase) := by
  have loaded := live_transferAll live.bususedincpcs (fun _ index address live =>
    live_loadListed bus true live index address) (fun _ index address live =>
    live_loadListed bus true live index address) instr address
  unfold loadMult
  dsimp only
  split
  · split
    · exact (loaded.writeR15Branch _).writeBack instr _
    · exact loaded.writeBack instr _
  · exact loaded.takeAbort bus

theorem live_blockTransfer (live : Live state) (own : instr.getLsbD 22 = false) :
    Live (blockTransfer bus state instr) := by
  unfold blockTransfer
  dsimp only
  rw [own]
  cases instr.getLsbD 20 with
  | true => exact live_loadMult bus live instr _ _
  | false => exact live_storeMult bus live instr _ _

end Transfers

section Traps

variable (bus : Bus Mem) (physical : PhysicalBus Mem)

theorem Peeks.steady {before after : ARMulState Mem} (peeks : Peeks before after) :
    Steady before after := by
  rw [peeks.same]
  exact ⟨rfl, Or.inl rfl⟩

theorem starletTraps_readOnly : TrapsReadOnly (starletTraps bus physical) := by
  exact ⟨fun state instr => (starletTraps_peeks bus physical state instr).steady⟩

end Traps

end SkyeyeStarlet
