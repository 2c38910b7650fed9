import SkyeyeStarlet.Library.WordBits
import SkyeyeStarlet.DevicesCore

/-!
The interrupt pin against the interrupt controller.  Every device that raises an
interrupt drives the pin in the same step, except the SD host controller, whose
completion interrupt waits for whichever device updates the pin next.
-/

namespace SkyeyeStarlet

def LineReflects (irq : Irq) : Prop :=
  irq.nirqSig = false ↔ irq.irqActive &&& irq.irqEnabled ≠ 0#32

instance (irq : Irq) : Decidable (LineReflects irq) :=
  inferInstanceAs (Decidable (_ ↔ _))

theorem lineReflects_updateIntr (irq : Irq) : LineReflects (starletUpdateIntr irq) := by
  simp [LineReflects, starletUpdateIntr]

theorem lineReflects_updateInt (irq : Irq) : LineReflects (starletUpdateInt irq) := by
  simp [LineReflects, starletUpdateInt]

def SdhcHarmless (irq : Irq) : Prop :=
  irq.irqEnabled.getLsbD 7 = false ∨ irq.irqActive &&& irq.irqEnabled ≠ 0#32

theorem pending_setIntr (irq : Irq) (harmless : SdhcHarmless irq) :
    ((starletSetIntr irq 7).irqActive &&& irq.irqEnabled ≠ 0#32) ↔
      irq.irqActive &&& irq.irqEnabled ≠ 0#32 := by
  have grown : (starletSetIntr irq 7).irqActive &&& irq.irqEnabled =
      (irq.irqActive &&& irq.irqEnabled) ||| (intrBit 7 &&& irq.irqEnabled) := by
    exact BitVec.and_or_distrib_right
  rw [grown]
  obtain disabled | pending := harmless
  · have none : intrBit 7 &&& irq.irqEnabled = 0#32 := by
      rw [BitVec.and_comm]
      exact (WordBits.and_bit_eq_zero irq.irqEnabled 7).mpr disabled
    rw [none, BitVec.or_zero]
  · refine ⟨fun _ => pending, fun _ all => pending ?_⟩
    apply BitVec.eq_of_getLsbD_eq
    intro index bound
    have bit := congrArg (fun word => word.getLsbD index) all
    simp only [BitVec.getLsbD_or, BitVec.getLsbD_zero, Bool.or_eq_false_iff] at bit
    rw [bit.1, BitVec.getLsbD_zero]

theorem lineReflects_setIntr (irq : Irq) (line : LineReflects irq) (harmless : SdhcHarmless irq) :
    LineReflects (starletSetIntr irq 7) ∧ SdhcHarmless (starletSetIntr irq 7) := by
  have same := pending_setIntr irq harmless
  refine ⟨line.trans same.symm, ?_⟩
  obtain disabled | pending := harmless
  · exact Or.inl disabled
  · exact Or.inr (same.mpr pending)

variable {Other : Type}

def OffRegisters (board : Board Other) (copy : ARMword × Nat) : Prop :=
  ∀ index < copy.2, board.region (copy.1 + BitVec.ofNat 32 index) = .io →
    isSram (copy.1 + BitVec.ofNat 32 index) = true

structure Copied (machine copied : Machine Other) : Prop where
  irq : copied.irq = machine.irq
  sdhc : copied.rest.sdhc = machine.rest.sdhc

section Copies

variable {board : Board Other} {depth : Nat}

theorem nandflash_absent {store : Store Other} {machine : Machine Other} {addr data : ARMword}
    (sram : isSram addr = true) :
    nandflashStarletWriteWord board store machine addr data = none := by
  unfold nandflashStarletWriteWord
  rw [if_neg (ne_of_isSram sram (by decide)), if_neg (ne_of_isSram sram (by decide)),
    if_neg (ne_of_isSram sram (by decide)), if_neg (ne_of_isSram sram (by decide)),
    if_neg (ne_of_isSram sram (by decide)), if_neg (ne_of_isSram sram (by decide))]

theorem ioWrite_sram {store : Store Other} {width : CopyWidth} {machine : Machine Other}
    {addr data : ARMword} (sram : isSram addr = true) :
    ioWrite board store width machine addr data =
      machine.onOther fun other => board.plainWrite width other addr data := by
  cases width with
  | byte =>
      rw [ioWrite, nandflash_absent sram, Option.getD_none, starletIoWriteByte, if_pos sram]
  | halfword =>
      rw [ioWrite, starletIoWriteHalfword, sram, Bool.true_or, if_pos rfl]
  | word =>
      rw [ioWrite, nandflash_absent sram, Option.getD_none, starletIoWriteWord, if_pos sram]

theorem memWrite_frame {width : CopyWidth} {machine : Machine Other} {addr data : ARMword}
    (outside : board.region addr = .io → isSram addr = true) :
    ∃ other exited, memWrite board depth width machine addr data =
      { machine with exited, rest := { machine.rest with other } } := by
  cases depth with
  | zero => exact ⟨_, _, rfl⟩
  | succ depth =>
      unfold memWrite
      cases region : board.region addr with
      | memory => exact ⟨_, _, rfl⟩
      | io =>
          dsimp only
          rw [ioWrite_sram (outside region)]
          exact ⟨_, _, rfl⟩
      | none =>
          dsimp only
          split
          · exact ⟨_, _, rfl⟩
          · exact ⟨_, _, rfl⟩

theorem host2arm_writes {width : CopyWidth} {units : List ARMword} {dst : ARMword}
    {machine : Machine Other}
    (writes : ∀ index < units.length, ∀ (machine : Machine Other) (data : ARMword),
      ∃ other exited, memWrite board depth width machine
          (dst + BitVec.ofNat 32 (index * width.bytes.toNat)) data =
        { machine with exited, rest := { machine.rest with other } }) :
    ∃ other exited, starletHost2arm (memWrite board depth) width units dst machine =
      { machine with exited, rest := { machine.rest with other } } := by
  induction units generalizing dst machine with
  | nil => exact ⟨_, _, rfl⟩
  | cons unit rest ih =>
      have first := writes 0 (Nat.zero_lt_succ _) machine unit
      rw [Nat.zero_mul, BitVec.add_zero] at first
      obtain ⟨_, _, written⟩ := first
      have later : ∀ index < rest.length, ∀ (machine : Machine Other) (data : ARMword),
          ∃ other exited, memWrite board depth width machine
              (dst + width.bytes + BitVec.ofNat 32 (index * width.bytes.toNat)) data =
            { machine with exited, rest := { machine.rest with other } } := by
        intro index bound machine data
        have next := writes (index + 1) (Nat.succ_lt_succ bound) machine data
        rwa [Nat.succ_mul, Nat.add_comm, BitVec.ofNat_add, BitVec.ofNat_toNat, BitVec.setWidth_eq,
          ← BitVec.add_assoc] at next
      obtain ⟨other, exited, copied⟩ := ih later
      refine ⟨other, exited, ?_⟩
      rw [starletHost2arm, copied, written]

theorem host2arm_frame {width : CopyWidth} {units : List ARMword} {dst : ARMword} {count : Nat}
    {machine : Machine Other} (fits : units.length * width.bytes.toNat ≤ count)
    (outside : OffRegisters board (dst, count)) :
    ∃ other exited, starletHost2arm (memWrite board depth) width units dst machine =
      { machine with exited, rest := { machine.rest with other } } := by
  have size : 0 < width.bytes.toNat := by
    cases width <;> decide
  apply host2arm_writes
  intro index bound machine data
  have inside : index * width.bytes.toNat < count :=
    Nat.lt_of_lt_of_le (Nat.mul_lt_mul_of_pos_right bound size) fits
  exact memWrite_frame (outside _ inside)

theorem host2arm_copied {width : CopyWidth} {units : List ARMword} {dst : ARMword} {count : Nat}
    {machine : Machine Other} (fits : units.length * width.bytes.toNat ≤ count)
    (outside : OffRegisters board (dst, count)) :
    Copied machine (starletHost2arm (memWrite board depth) width units dst machine) := by
  obtain ⟨_, _, frame⟩ := host2arm_frame fits outside
  rw [frame]
  exact ⟨rfl, rfl⟩

theorem bytesFrom_copied {source : Nat → BitVec 8} {first count : Nat} {dst : ARMword}
    {machine : Machine Other} (outside : OffRegisters board (dst, count)) :
    Copied machine (starletHost2arm (memWrite board depth) .byte
      (byteUnits (bytesFrom source first count)) dst machine) := by
  refine host2arm_copied ?_ outside
  simp [byteUnits, bytesFrom, CopyWidth.bytes]

end Copies

def diCopies (di : Di) (offset data : ARMword) : List (ARMword × Nat) :=
  if offset &&& 0xff#32 = 0x1c#32 ∧ data &&& 1#32 ≠ 0#32 then [(di.dimar, di.dicmdbuf2.toNat)]
  else []

def aesCopies (aes : Aes) (addr data : ARMword) : List (ARMword × Nat) :=
  if addr &&& 0xffff#32 = 0#32 ∧ data &&& 0x80000000#32 ≠ 0#32 ∧ data &&& 0x40000000#32 = 0#32 then
    [(aes.destPtr, aesLength data)]
  else []

def startsSdCommand (sdhc : Sdhc) (addr data : ARMword) : Prop :=
  addr &&& 0xffff#32 = 0x0c#32 ∧ sdhc.command ≠ data >>> 16

/-- `READ_MULTIPLE`, which copies to memory and completes twice. -/
def readsCard (devices : Devices Other) (data : ARMword) : Bool :=
  !devices.sdAppCmd && sdhcCommandIndex (data >>> 16) == 18

def sdhcCopies (devices : Devices Other) (data : ARMword) : List (ARMword × Nat) :=
  if readsCard devices data then [(devices.sdhc.dmaAddr, sdhcLength devices.sdhc)] else []

def completionBits (devices : Devices Other) (data : ARMword) : ARMword :=
  if readsCard devices data then 0x03#32 else 0x01#32

/-- The two ways a register write can leave the pin behind: its copy lands on device
registers, or it completes an SD command whose interrupt is signalled. -/
structure SdhcQuiet (board : Board Other) (machine : Machine Other) (data : ARMword) : Prop where
  copies : ∀ copy ∈ sdhcCopies machine.rest data, OffRegisters board copy
  signal : machine.rest.sdhc.irqSignal &&& completionBits machine.rest data ≠ 0#32 →
    SdhcHarmless machine.irq

structure WriteQuiet (board : Board Other) (machine : Machine Other) (addr data : ARMword) :
    Prop where
  drive : addr &&& 0xfc00#32 = 0x6000#32 → addr >>> 16 = 0x0d00#32 ∨ addr >>> 16 = 0x0d80#32 →
    ∀ copy ∈ diCopies machine.rest.di addr data, OffRegisters board copy
  cipher : addr >>> 16 = 0x0d02#32 → ∀ copy ∈ aesCopies machine.rest.aes addr data,
    OffRegisters board copy
  card : addr >>> 16 = 0x0d07#32 → startsSdCommand machine.rest.sdhc addr data →
    SdhcQuiet board machine data

theorem writeQuiet_of_elsewhere {board : Board Other} {machine : Machine Other}
    {addr data : ARMword}
    (elsewhere : addr &&& 0xfc00#32 ≠ 0x6000#32 ∧ addr >>> 16 ≠ 0x0d02#32 ∧
      addr >>> 16 ≠ 0x0d07#32) : WriteQuiet board machine addr data := by
  obtain ⟨drive, cipher, card⟩ := elsewhere
  exact ⟨fun isDrive => absurd isDrive drive, fun isCipher => absurd isCipher cipher,
    fun isCard => absurd isCard card⟩

section Devices

variable {board : Board Other} {depth : Nat} {machine : Machine Other} {addr data : ARMword}

theorem starletDoDiCommand_irq
    (outside : OffRegisters board (machine.rest.di.dimar, machine.rest.di.dicmdbuf2.toNat)) :
    (starletDoDiCommand board (memWrite board depth) machine).irq = machine.irq := by
  unfold starletDoDiCommand
  cases board.disc with
  | none => rfl
  | some disc =>
      dsimp only
      split
      · split
        · rfl
        · exact (bytesFrom_copied outside).irq
      · rfl

theorem starletDiWrite_irq
    (outside : ∀ copy ∈ diCopies machine.rest.di addr data, OffRegisters board copy) :
    (starletDiWrite board (memWrite board depth) machine addr data).irq = machine.irq := by
  unfold starletDiWrite
  split
  case h_8 register =>
    dsimp only
    split
    · rename_i starts
      have here : addr &&& 0xff#32 = 0x1c#32 := BitVec.eq_of_toNat_eq register
      refine Eq.trans (starletDoDiCommand_irq ?_) rfl
      apply outside
      rw [diCopies, if_pos ⟨here, by simpa using starts⟩]
      exact List.mem_singleton.mpr rfl
    · rfl
  all_goals rfl

theorem aesCipher_kept (board : Board Other) (machine : Machine Other) (command : ARMword)
    (source : Bytes) :
    (aesCipher board machine command source).1.irq = machine.irq ∧
      (aesCipher board machine command source).1.rest.aes.destPtr = machine.rest.aes.destPtr := by
  unfold aesCipher
  dsimp only
  split
  · split
    · exact ⟨rfl, rfl⟩
    · exact ⟨rfl, rfl⟩
  · exact ⟨rfl, rfl⟩

theorem starletAesCommand_line (line : LineReflects machine.irq)
    (outside : data &&& 0x80000000#32 ≠ 0#32 → data &&& 0x40000000#32 = 0#32 →
      OffRegisters board (machine.rest.aes.destPtr, aesLength data)) :
    LineReflects (starletAesCommand board (memWrite board depth) machine data).irq := by
  unfold starletAesCommand
  split
  · rename_i starts
    dsimp only
    split
    · exact lineReflects_updateInt _
    · rename_i silent
      let source := bytesFrom (board.arm2host machine machine.rest.aes.srcPtr) 0 (aesLength data)
      obtain ⟨irq, dest⟩ := aesCipher_kept board machine data source
      have copied := outside (by simpa using starts) (by simpa using silent)
      rw [← dest] at copied
      refine Eq.subst (motive := LineReflects) ?_ line
      refine Eq.symm (Eq.trans ?_ irq)
      exact (bytesFrom_copied copied).irq
  · exact line

theorem starletAesWrite_line (line : LineReflects machine.irq)
    (outside : ∀ copy ∈ aesCopies machine.rest.aes addr data, OffRegisters board copy) :
    LineReflects (starletAesWrite board (memWrite board depth) machine addr data).irq := by
  unfold starletAesWrite
  split
  case h_1 register =>
    refine starletAesCommand_line line ?_
    intro starts silent
    apply outside
    have here : addr &&& 0xffff#32 = 0#32 := BitVec.eq_of_toNat_eq register
    rw [aesCopies, if_pos ⟨here, starts, silent⟩]
    exact List.mem_singleton.mpr rfl
  all_goals exact line

theorem starletShaWrite_line (line : LineReflects machine.irq) :
    LineReflects (starletShaWrite board machine addr data).irq := by
  unfold starletShaWrite
  split
  case h_1 =>
    unfold starletShaCommand
    split
    · dsimp only
      split
      · exact lineReflects_updateInt _
      · exact line
    · exact line
  all_goals exact line

theorem noteSdhcIrq_kept (machine : Machine Other) (irq : ARMword) :
    (noteSdhcIrq machine irq).irq = machine.irq ∧
      (noteSdhcIrq machine irq).rest.sdhc.irqSignal = machine.rest.sdhc.irqSignal := by
  unfold noteSdhcIrq
  split
  · exact ⟨rfl, rfl⟩
  · exact ⟨rfl, rfl⟩

theorem starletSdhcFireIrq_kept (machine : Machine Other) (irq : ARMword) :
    (starletSdhcFireIrq machine irq).rest.sdhc.irqSignal = machine.rest.sdhc.irqSignal ∧
      (starletSdhcFireIrq machine irq).irq =
        if machine.rest.sdhc.irqSignal &&& irq != 0#32 then starletSetIntr machine.irq 7
        else machine.irq := by
  obtain ⟨sameIrq, sameSignal⟩ := noteSdhcIrq_kept machine irq
  unfold starletSdhcFireIrq
  dsimp only
  rw [sameSignal]
  split
  · exact ⟨sameSignal, by rw [← sameIrq]⟩
  · exact ⟨sameSignal, sameIrq⟩

theorem starletSdhcFireIrq_line {irq : ARMword} (line : LineReflects machine.irq)
    (quiet : machine.rest.sdhc.irqSignal &&& irq ≠ 0#32 → SdhcHarmless machine.irq) :
    LineReflects (starletSdhcFireIrq machine irq).irq ∧
      (SdhcHarmless machine.irq → SdhcHarmless (starletSdhcFireIrq machine irq).irq) := by
  rw [(starletSdhcFireIrq_kept machine irq).2]
  split
  · rename_i signals
    have harmless := quiet (by simpa using signals)
    obtain ⟨reflects, stays⟩ := lineReflects_setIntr machine.irq line harmless
    exact ⟨reflects, fun _ => stays⟩
  · exact ⟨line, id⟩

theorem sdhcServe_kept {index : Nat}
    (outside : (!machine.rest.sdAppCmd && index == 18) = true →
      OffRegisters board (machine.rest.sdhc.dmaAddr, sdhcLength machine.rest.sdhc)) :
    (sdhcServe board (memWrite board depth) machine index).irq = machine.irq ∧
      (sdhcServe board (memWrite board depth) machine index).rest.sdhc.irqSignal =
        machine.rest.sdhc.irqSignal := by
  unfold sdhcServe
  cases app : machine.rest.sdAppCmd with
  | true =>
      dsimp only
      rw [if_pos rfl]
      split
      · exact ⟨rfl, rfl⟩
      · exact ⟨rfl, rfl⟩
  | false =>
      rw [if_neg Bool.false_ne_true]
      split
      case h_5 =>
        have card := outside (by rw [app]; rfl)
        exact ⟨(bytesFrom_copied card).irq, congrArg Sdhc.irqSignal (bytesFrom_copied card).sdhc⟩
      all_goals exact ⟨rfl, rfl⟩

theorem and_ne_zero_of_part {word mask part : ARMword} (inside : mask &&& part = part)
    (some : word &&& part ≠ 0#32) : word &&& mask ≠ 0#32 := by
  intro none
  apply some
  rw [← inside, ← BitVec.and_assoc, none, BitVec.zero_and]

theorem starletSdhcExec_line (line : LineReflects machine.irq)
    (command : machine.rest.sdhc.command = data >>> 16) (quiet : SdhcQuiet board machine data) :
    LineReflects (starletSdhcExec board (memWrite board depth) machine).irq := by
  let index := sdhcCommandIndex machine.rest.sdhc.command
  let served := sdhcServe board (memWrite board depth) machine index
  have reads : (!machine.rest.sdAppCmd && index == 18) = readsCard machine.rest data := by
    rw [readsCard, ← command]
  obtain ⟨servedIrq, servedSignal⟩ : served.irq = machine.irq ∧
      served.rest.sdhc.irqSignal = machine.rest.sdhc.irqSignal := by
    refine sdhcServe_kept ?_
    intro card
    apply quiet.copies
    rw [sdhcCopies, if_pos (reads.symm.trans card)]
    exact List.mem_singleton.mpr rfl
  have servedLine : LineReflects served.irq := by
    rw [servedIrq]
    exact line
  have signalled (part : ARMword) (inside : completionBits machine.rest data &&& part = part)
      (signals : machine.rest.sdhc.irqSignal &&& part ≠ 0#32) : SdhcHarmless served.irq := by
    rw [servedIrq]
    exact quiet.signal (and_ne_zero_of_part inside signals)
  obtain ⟨completed, stays⟩ : LineReflects (starletSdhcFireIrq served 0x01#32).irq ∧
      (SdhcHarmless served.irq → SdhcHarmless (starletSdhcFireIrq served 0x01#32).irq) := by
    refine starletSdhcFireIrq_line servedLine ?_
    rw [servedSignal]
    refine signalled 0x01#32 ?_
    unfold completionBits
    split <;> decide
  unfold starletSdhcExec
  dsimp only
  rw [reads]
  cases card : readsCard machine.rest data with
  | false => exact completed
  | true =>
      rw [if_pos rfl]
      refine (starletSdhcFireIrq_line completed ?_).1
      rw [(starletSdhcFireIrq_kept served 0x01#32).1, servedSignal]
      intro signals
      refine stays (signalled 0x02#32 ?_ signals)
      rw [completionBits, if_pos card]
      decide

theorem starletSdhcWrite_line (line : LineReflects machine.irq)
    (quiet : startsSdCommand machine.rest.sdhc addr data → SdhcQuiet board machine data) :
    LineReflects (starletSdhcWrite board (memWrite board depth) machine addr data).irq := by
  unfold starletSdhcWrite
  dsimp only
  split
  case h_4 register =>
    split
    · exact line
    · rename_i changes
      have here : addr &&& 0xffff#32 = 0x0c#32 := BitVec.eq_of_toNat_eq register
      have allowed := quiet ⟨here, changes⟩
      exact starletSdhcExec_line line rfl ⟨allowed.copies, allowed.signal⟩
  all_goals exact line

theorem starletHollywoodWrite_line (line : LineReflects machine.irq) :
    LineReflects (starletHollywoodWrite board machine addr data).irq := by
  unfold starletHollywoodWrite
  dsimp only
  split
  case h_9 => exact lineReflects_updateInt _
  case h_10 => exact lineReflects_updateInt _
  all_goals exact line

theorem aesCopies_none (elsewhere : addr &&& 0xfc00#32 ≠ 0#32) (aes : Aes) :
    aesCopies aes addr data = [] := by
  refine if_neg ?_
  rintro ⟨zero, _, _⟩
  apply elsewhere
  calc addr &&& 0xfc00#32 = addr &&& (0xffff#32 &&& 0xfc00#32) := rfl
    _ = (addr &&& 0xffff#32) &&& 0xfc00#32 := (BitVec.and_assoc _ _ _).symm
    _ = 0#32 := by rw [zero]; rfl

theorem starletIoWriteWord_line (line : LineReflects machine.irq)
    (quiet : WriteQuiet board machine addr data) :
    LineReflects (starletIoWriteWord board (memWrite board depth) machine addr data).irq := by
  unfold starletIoWriteWord
  dsimp only
  split
  · exact line
  · split
    · rename_i page
      split
      · exact starletHollywoodWrite_line line
      · rename_i notHollywood
        split
        · rename_i isDrive
          rw [starletDiWrite_irq (quiet.drive isDrive page)]
          exact line
        · split
          · exact line
          · split
            · refine starletAesWrite_line line ?_
              rw [aesCopies_none notHollywood]
              intro copy member
              cases member
            · exact line
    · split
      · rename_i isCipher
        exact starletAesWrite_line line (quiet.cipher isCipher)
      · split
        · exact starletShaWrite_line line
        · split
          · rename_i isCard
            exact starletSdhcWrite_line line (quiet.card isCard)
          · split
            · exact line
            · exact line

theorem nandflashStarletWriteWord_line {written : Machine Other} (line : LineReflects machine.irq)
    (hit : nandflashStarletWriteWord board (memWrite board depth) machine addr data =
      some written) : LineReflects written.irq := by
  unfold nandflashStarletWriteWord at hit
  split at hit
  · cases hit
    unfold nandCommand
    split
    · exact line
    · exact lineReflects_updateIntr _
  · repeat' split at hit
    all_goals cases hit
    all_goals exact line

theorem ioWriteWord_line (line : LineReflects machine.irq)
    (quiet : WriteQuiet board machine addr data) :
    LineReflects (ioWrite board (memWrite board depth) .word machine addr data).irq := by
  simp only [ioWrite]
  cases hit : nandflashStarletWriteWord board (memWrite board depth) machine addr data with
  | none => exact starletIoWriteWord_line line quiet
  | some written => exact nandflashStarletWriteWord_line line hit

end Devices

section Cycle

variable {Rest : Type} {services : Services Rest} {input : CycleInput}

def StepLine (outcome : Except (IpcStep Rest) (IpcStep Rest)) : Prop :=
  LineReflects (leave outcome).host.irq

theorem StepLine.bind {first : Except (IpcStep Rest) (IpcStep Rest)}
    {next : IpcStep Rest → Except (IpcStep Rest) (IpcStep Rest)} (before : StepLine first)
    (keeps : ∀ step, LineReflects step.host.irq → StepLine (next step)) :
    StepLine (first >>= next) := by
  cases first with
  | ok step => exact keeps step before
  | error step => exact before

theorem sendipcmsg_line {step : IpcStep Rest} (line : LineReflects step.host.irq) (msg : Sent) :
    StepLine (sendipcmsg input step msg) := by
  unfold sendipcmsg
  split
  · exact line
  · exact line

theorem idlePending_line {step : IpcStep Rest} (line : LineReflects step.host.irq) :
    StepLine (idlePending input step) := by
  unfold idlePending
  split
  · refine StepLine.bind ?_ (fun acked ackedLine => StepLine.bind ?_ fun served servedLine => ?_)
    · unfold idleAck
      split
      · exact sendipcmsg_line (show LineReflects (step.set 0x02#32).host.irq from line) _
      · exact line
    · unfold idleMessage
      split
      · exact sendipcmsg_line (show LineReflects (acked.set 0x0c#32).host.irq from ackedLine) _
      · exact ackedLine
    · exact servedLine
  · exact line

theorem idleReceive_line {step : IpcStep Rest} (line : LineReflects step.host.irq)
    (writes : ∀ arg payload, input.received = .write arg payload → ∀ host : Host Rest,
      (services.host2arm (copyWidth arg (BitVec.ofNat 32 payload.length)) host arg payload).irq =
        host.irq) :
    StepLine (idleReceive services input step) := by
  unfold idleReceive
  cases received : input.received with
  | write arg payload =>
      show LineReflects (services.host2arm _ _ _ _).irq
      rw [writes arg payload received]
      exact line
  | read arg len => exact sendipcmsg_line line _
  | state => exact sendipcmsg_line line _
  | _ => exact line

theorem idleStatus_line {step : IpcStep Rest} (line : LineReflects step.host.irq) :
    StepLine (idleStatus input step) := by
  unfold idleStatus
  split
  · exact StepLine.bind (sendipcmsg_line line _) fun told toldLine => toldLine
  · exact line

theorem starletDoIpc_line {host : Host Rest} (line : LineReflects host.irq)
    (writes : ∀ arg payload, input.received = .write arg payload → ∀ host : Host Rest,
      (services.host2arm (copyWidth arg (BitVec.ofNat 32 payload.length)) host arg payload).irq =
        host.irq) :
    LineReflects (starletDoIpc services input host).host.irq := by
  unfold starletDoIpc
  cases host.ipcs with
  | ipcInit => exact line
  | ipcAccept =>
      dsimp only
      split
      · exact StepLine.bind (sendipcmsg_line line _) fun told toldLine => toldLine
      · exact line
  | ipcIdle =>
      refine StepLine.bind (idlePending_line line) fun served servedLine => ?_
      exact StepLine.bind (idleReceive_line servedLine writes) fun answered => idleStatus_line
  | ipcSndack =>
      dsimp only
      split
      · split
        · exact line
        · exact line
      · exact line

theorem refreshInt_line {host : Host Rest} (line : LineReflects host.irq) :
    LineReflects (refreshInt host).irq := by
  have ppc : LineReflects (if ipcRequests host.ipc.ppcctrl then starletUpdateInt
      (if starletPendingIntrPpc host.irq 30 then host.irq else starletSetIntr host.irq 30)
      else host.irq) := by
    split
    · exact lineReflects_updateInt _
    · exact line
  simp only [refreshInt, ipcUpdateInt]
  split
  · exact lineReflects_updateInt _
  · exact ppc

theorem tickTimer_line {host : Host Rest} (line : LineReflects host.irq) :
    LineReflects (tickTimer host).irq := by
  simp only [tickTimer]
  split
  · exact lineReflects_updateInt _
  · exact line

theorem starletIoDoCycle_line {host : Host Rest} (line : LineReflects host.irq)
    (writes : ∀ arg payload, input.received = .write arg payload → ∀ host : Host Rest,
      (services.host2arm (copyWidth arg (BitVec.ofNat 32 payload.length)) host arg payload).irq =
        host.irq) :
    LineReflects (starletIoDoCycle services input host).host.irq := by
  exact refreshInt_line (starletDoIpc_line (refreshInt_line (tickTimer_line line)) writes)

end Cycle

theorem unitsOf_fits (width : CopyWidth) (payload : Bytes) :
    (unitsOf width payload).length * width.bytes.toNat ≤ payload.length := by
  induction width, payload using unitsOf.induct with
  | case1 bytes => simp [unitsOf, byteUnits, CopyWidth.bytes]
  | case2 first second rest ih =>
      simp only [unitsOf, List.length_cons, CopyWidth.bytes] at ih ⊢
      simp only [BitVec.toNat_ofNat] at ih ⊢
      omega
  | case3 first second third fourth rest ih =>
      simp only [unitsOf, List.length_cons, CopyWidth.bytes] at ih ⊢
      simp only [BitVec.toNat_ofNat] at ih ⊢
      omega
  | case4 width bytes notByte notHalf notWord =>
      rw [unitsOf]
      · simp
      all_goals assumption

inductive DeviceEvent where
  | write (addr data : ARMword)
  | cycle (input : CycleInput)

def deviceStep (board : Board Other) (depth : Nat) (cookedState : Machine Other → Bytes)
    (machine : Machine Other) : DeviceEvent → Machine Other
  | .write addr data => ioWrite board (memWrite board depth) .word machine addr data
  | .cycle input => (starletIoDoCycle (clientServices board depth cookedState) input machine).host

/-- The pin cannot fall behind in this step: no copy lands on device registers, and no
SD command completes with a signal that would have to change it. -/
def QuietStep (board : Board Other) (machine : Machine Other) : DeviceEvent → Prop
  | .write addr data => WriteQuiet board machine addr data
  | .cycle input =>
      ∀ arg payload, input.received = .write arg payload → OffRegisters board (arg, payload.length)

theorem deviceStep_line {board : Board Other} {depth : Nat} {cookedState : Machine Other → Bytes}
    (machine : Machine Other) (event : DeviceEvent) (line : LineReflects machine.irq)
    (quiet : QuietStep board machine event) :
    LineReflects (deviceStep board depth cookedState machine event).irq := by
  cases event with
  | write addr data => exact ioWriteWord_line line quiet
  | cycle input =>
      refine starletIoDoCycle_line line ?_
      intro arg payload received host
      exact (host2arm_copied (unitsOf_fits _ payload) (quiet arg payload received)).irq

def resetIrq : Irq :=
  { irqActive := 0#32, irqEnabled := 0#32, irqActivePpc := 0#32, irqEnabledPpc := 0#32
    nirqSig := true, nfiqSig := true }

/-- In every run from reset whose steps are quiet the pin is low exactly when an enabled
interrupt is active. -/
theorem irq_line_reflects (board : Board Other) (depth : Nat) (cookedState : Machine Other → Bytes)
    (machine : Machine Other) (reset : machine.irq = resetIrq) (events : List DeviceEvent)
    (quiet : Runs.AllSteps (deviceStep board depth cookedState) (QuietStep board) machine events) :
    let reached := Runs.run (deviceStep board depth cookedState) machine events
    reached.irq.nirqSig = false ↔ reached.irq.irqActive &&& reached.irq.irqEnabled ≠ 0#32 := by
  have start : LineReflects machine.irq := by
    rw [reset]
    decide
  exact Runs.run_invariant_of_allowed (deviceStep board depth cookedState)
    (fun machine => LineReflects machine.irq) (QuietStep board) deviceStep_line machine start events
    quiet

def starletBoard : Board Unit :=
  { region := fun addr =>
      if addr < 0x01800000#32 ∨ (0x02000000#32 ≤ addr ∧ addr < 0x03800000#32) ∨
          (0x10000000#32 ≤ addr ∧ addr < 0x14000000#32) then .memory
      else if (0x0d800000#32 ≤ addr ∧ addr < 0x0d900000#32) ∨
          (0x0d000000#32 ≤ addr ∧ addr < 0x0d090000#32) ∨
          (0x0d400000#32 ≤ addr ∧ addr < 0x0d420000#32) ∨
          (0x0dc00000#32 ≤ addr ∧ addr < 0x0dc20000#32) ∨ 0xfff00000#32 ≤ addr then .io
      else .none
    memWrite := fun _ _ _ _ => ()
    plainWrite := fun _ _ _ _ => ()
    arm2host := fun _ _ _ => 0#8
    aesCbcEncrypt := fun _ _ iv source => (source, iv)
    sha1Input := fun _ digest _ => ((), digest)
    disc := none
    card := fun _ => 0#8
    cardSize := 0#64
    nandSend := fun _ _ _ => ()
    nandData := fun _ _ => 0#8
    nandRead := fun _ _ => ()
    nandProgram := fun _ _ => ()
    calcEcc := fun _ _ => 0#8
    nandInterrupt := 1 }

def resetMachine : Machine Unit :=
  { irq := resetIrq
    ipc := { ppcmsg := 0#32, ppcctrl := 0#32, armmsg := 0#32, armctrl := 0#32 }
    timer := 0#32
    alarm := 0#32
    ppcRunning := 0#32
    ipcs := .ipcInit
    lastPpcState := 0#32
    exited := false
    rest :=
      { di :=
          { disr := 0#32, dicvr := 0#32, dicmdbuf0 := 0#32, dicmdbuf1 := 0#32, dicmdbuf2 := 0#32
            dimar := 0#32, dilength := 0#32, dicr := 0#32, diimmbuf := 0#32, dicfg := 0#32 }
        aes :=
          { key := List.replicate 16 0#8, iv := List.replicate 16 0#8
            tempIv := List.replicate 16 0#8, srcPtr := 0#32, destPtr := 0#32 }
        sha := { messageDigest := fun _ => 0#32, srcPtr := 0#32 }
        sdhc := clearSdhc
        sdAppCmd := false
        nand :=
          { address := fun _ => 0#8, nfconf := 0#32, nfAddr0 := 0#32, nfAddr1 := 0#32
            nfData := 0#32, nfEcc := 0#32 }
        resetFlags := 0#32
        other := () } }

/-- Interrupt 7 enabled, the completion signal of the SD controller enabled, and
`SEND_IF_COND` written to its command register. -/
def sdCommandEvents : List DeviceEvent :=
  [.write 0x0d80003c#32 0x80#32, .write 0x0d070038#32 0x01#32, .write 0x0d07000c#32 0x08000000#32]

theorem irq_line_behind_sdhc :
    let reached := Runs.run (deviceStep starletBoard 4 fun _ => []) resetMachine sdCommandEvents
    reached.irq.irqActive &&& reached.irq.irqEnabled = 0x80#32 ∧ reached.irq.nirqSig = true := by
  decide +kernel

def maskedEvents : List DeviceEvent :=
  [.write 0x0d80003c#32 0x82#32, .write 0x0d010000#32 0x00ff0000#32,
    .write 0x0d07000c#32 0x08000000#32]

theorem irq_line_reflects_masked :
    let reached := Runs.run (deviceStep starletBoard 4 fun _ => []) resetMachine maskedEvents
    reached.irq.nirqSig = false ∧ reached.irq.irqActive &&& reached.irq.irqEnabled ≠ 0#32 := by
  have line := irq_line_reflects starletBoard 4 (fun _ => []) resetMachine rfl maskedEvents ?_
  · have low : (Runs.run (deviceStep starletBoard 4 fun _ => []) resetMachine
        maskedEvents).irq.nirqSig = false := by
      decide +kernel
    exact ⟨low, line.mp low⟩
  · refine ⟨writeQuiet_of_elsewhere (by decide), writeQuiet_of_elsewhere (by decide), ?_, trivial⟩
    refine ⟨fun drive => absurd drive (by decide), fun cipher => absurd cipher (by decide), ?_⟩
    intro _ _
    refine ⟨?_, fun signal => absurd signal (by decide +kernel)⟩
    rw [sdhcCopies, if_neg (by decide +kernel)]
    intro copy member
    cases member

end SkyeyeStarlet
