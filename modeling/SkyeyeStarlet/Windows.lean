import SkyeyeStarlet.AesChaining
import SkyeyeStarlet.InterruptLine
import SkyeyeStarlet.MmioBounds
import SkyeyeStarlet.RegistersCore

/-!
Which parts of the machine a write to a register changes.  Every device has its window, and
a command of a device may also copy to memory and raise interrupts.  The switch on page
`0x0D80` runs on into the memory controller, so two addresses that are in no window change
its registers.
-/

namespace SkyeyeStarlet

section Parts

variable {Guest Hash : Type}

inductive MachinePart where
  | hollywood
  | masks
  | interrupts
  | di
  | exi
  | aes
  | sha
  | sdhc
  | dram
  | ahb
  | nand
  | sram
  | guest
  | server
  deriving DecidableEq, Repr

abbrev MachinePart.Value (Guest Hash : Type) : MachinePart → Type
  | .hollywood =>
      (Ipc × ARMword × ARMword × ARMword × ARMword) ×
        (Ports × ARMword × ARMword × ARMword × (Nat → BitVec 8))
  | .masks => ARMword × ARMword
  | .interrupts => ARMword × ARMword × Bool × Bool
  | .di => Di
  | .exi => Exi
  | .aes => Aes
  | .sha => Sha × Hash
  | .sdhc => Sdhc × Bool
  | .dram => ARMword × ARMword
  | .ahb => ARMword
  | .nand => Nand
  | .sram => SramBytes
  | .guest => Guest
  | .server => IpcState × ARMword × Nat

def MachinePart.view (part : MachinePart) (machine : Machine (PlainIo Guest Hash)) :
    part.Value Guest Hash :=
  let io := machine.rest.other
  match part with
  | .hollywood =>
      ((machine.ipc, machine.timer, machine.alarm, machine.ppcRunning, machine.rest.resetFlags),
        ({ io.ports with exited := false }, io.gpio1Enable, io.ahbFlushFlags, io.clocks,
          io.portState))
  | .masks => (machine.irq.irqEnabled, machine.irq.irqEnabledPpc)
  | .interrupts =>
      (machine.irq.irqActive, machine.irq.irqActivePpc, machine.irq.nirqSig, machine.irq.nfiqSig)
  | .di => machine.rest.di
  | .exi => io.exi
  | .aes => machine.rest.aes
  | .sha => (machine.rest.sha, io.hash)
  | .sdhc => (machine.rest.sdhc, machine.rest.sdAppCmd)
  | .dram => (io.dram4074, io.dram4076)
  | .ahb => io.ahbFlushcmd
  | .nand => machine.rest.nand
  | .sram => io.sram
  | .guest => io.guest
  | .server => (machine.ipcs, machine.lastPpcState, io.internal)

def Changes (allowed : MachinePart → Prop) (before after : Machine (PlainIo Guest Hash)) : Prop :=
  ∀ part, ¬allowed part → part.view after = part.view before

variable {allowed : MachinePart → Prop} {before middle after : Machine (PlainIo Guest Hash)}

theorem Changes.refl (allowed : MachinePart → Prop) (machine : Machine (PlainIo Guest Hash)) :
    Changes allowed machine machine :=
  fun _ _ => rfl

theorem Changes.trans (first : Changes allowed before middle)
    (second : Changes allowed middle after) :
    Changes allowed before after :=
  fun part outside => (second part outside).trans (first part outside)

theorem changes_of_views {own : MachinePart}
    (views : ∀ part, part ≠ own → part.view after = part.view before)
    (ownAllowed : allowed own) : Changes allowed before after := by
  intro part outside
  apply views part
  rintro rfl
  exact outside ownAllowed

variable (machine : Machine (PlainIo Guest Hash))

theorem onDi_changes (change : Di → Di) (own : allowed .di) :
    Changes allowed machine (machine.onDi change) := by
  refine changes_of_views (fun part other => ?_) own
  cases part <;> first | rfl | exact absurd rfl other

theorem onAes_changes (change : Aes → Aes) (own : allowed .aes) :
    Changes allowed machine (machine.onAes change) := by
  refine changes_of_views (fun part other => ?_) own
  cases part <;> first | rfl | exact absurd rfl other

theorem onSha_changes (change : Sha → Sha) (own : allowed .sha) :
    Changes allowed machine (machine.onSha change) := by
  refine changes_of_views (fun part other => ?_) own
  cases part <;> first | rfl | exact absurd rfl other

theorem onSdhc_changes (change : Sdhc → Sdhc) (own : allowed .sdhc) :
    Changes allowed machine (machine.onSdhc change) := by
  refine changes_of_views (fun part other => ?_) own
  cases part <;> first | rfl | exact absurd rfl other

theorem sdAppCmd_changes (sdAppCmd : Bool) (own : allowed .sdhc) :
    Changes allowed machine { machine with rest := { machine.rest with sdAppCmd } } := by
  refine changes_of_views (fun part other => ?_) own
  cases part <;> first | rfl | exact absurd rfl other

theorem exit_changes (allowed : MachinePart → Prop) : Changes allowed machine machine.exit := by
  intro part _
  cases part <;> rfl

theorem irq_changes {irq : Irq} (enabled : irq.irqEnabled = machine.irq.irqEnabled)
    (enabledPpc : irq.irqEnabledPpc = machine.irq.irqEnabledPpc) (own : allowed .interrupts) :
    Changes allowed machine { machine with irq } := by
  refine changes_of_views (fun part other => ?_) own
  cases part with
  | interrupts => exact absurd rfl other
  | masks => exact Prod.ext enabled enabledPpc
  | _ => rfl

end Parts

section Copies

variable {Guest Hash : Type} {allowed : MachinePart → Prop} {images : Images}
  {around : Surroundings Guest Hash} {board : Board (PlainIo Guest Hash)} {depth : Nat}

abbrev copyStore (images : Images) (around : Surroundings Guest Hash)
    (board : Board (PlainIo Guest Hash)) (depth : Nat) : Store (PlainIo Guest Hash) :=
  internalStore (memWrite (registersBoard images around board) depth)

theorem sramPlain_views (width : CopyWidth) (machine : Machine (PlainIo Guest Hash))
    (addr data : ARMword) {part : MachinePart} (other : part ≠ .sram) :
    part.view (machine.onOther fun io => sramPlain width io addr data) = part.view machine := by
  have written : ∀ io : PlainIo Guest Hash,
      (∃ sram, sramPlain width io addr data = { io with sram }) ∨
        sramPlain width io addr data = { io with ports := { io.ports with exited := true } } := by
    intro io
    rw [sramPlain]
    cases starletSramWrite io.settings width.access addr data io.sram with
    | some sram => exact Or.inl ⟨sram, rfl⟩
    | none => exact Or.inr rfl
  obtain ⟨sram, stored⟩ | exits := written machine.rest.other
  · rw [Host.onOther, stored]
    cases part <;> first | rfl | exact absurd rfl other
  · rw [Host.onOther, exits]
    cases part <;> rfl

theorem guest_views (machine : Machine (PlainIo Guest Hash)) (change : Guest → Guest)
    {part : MachinePart} (other : part ≠ .guest) :
    part.view (machine.onOther fun io => { io with guest := change io.guest }) =
      part.view machine := by
  cases part <;> first | rfl | exact absurd rfl other

theorem memWrite_changes (machine : Machine (PlainIo Guest Hash)) {addr : ARMword} (data : ARMword)
    (outside : board.region addr = .io → isSram addr = true) (sram : allowed .sram)
    (guest : allowed .guest) :
    Changes allowed machine
      (memWrite (registersBoard images around board) depth .byte machine addr data) := by
  cases depth with
  | zero => exact Changes.refl allowed machine
  | succ depth =>
      rw [memWrite, show (registersBoard images around board).region = board.region from rfl]
      cases region : board.region addr with
      | memory =>
          refine changes_of_views (fun part other => ?_) guest
          exact guest_views machine (fun bytes => around.guestWrite .byte bytes addr data) other
      | none => exact exit_changes machine allowed
      | io =>
          have inSram := outside region
          have plain : ioWrite (registersBoard images around board)
              (memWrite (registersBoard images around board) depth) .byte machine addr data =
                machine.onOther fun io => sramPlain .byte io addr data := by
            rw [ioWrite_sram inSram]
            congr 1
            funext io
            exact if_pos inSram
          dsimp only
          rw [plain]
          exact changes_of_views (fun part other => sramPlain_views .byte machine addr data other)
            sram

theorem internal_views (machine : Machine (PlainIo Guest Hash)) (change : Nat → Nat)
    {part : MachinePart} (other : part ≠ .server) :
    part.view (machine.onOther fun io => { io with internal := change io.internal }) =
      part.view machine := by
  cases part <;> first | rfl | exact absurd rfl other

theorem copyStore_changes (machine : Machine (PlainIo Guest Hash)) {addr : ARMword} (data : ARMword)
    (outside : board.region addr = .io → isSram addr = true) (sram : allowed .sram)
    (guest : allowed .guest) :
    Changes allowed machine (copyStore images around board depth .byte machine addr data) := by
  let entered := machine.onOther fun io => { io with internal := io.internal + 1 }
  have memory : Changes (fun part => part = .sram ∨ part = .guest) entered
      (memWrite (registersBoard images around board) depth .byte entered addr data) :=
    memWrite_changes entered data outside (Or.inl rfl) (Or.inr rfl)
  intro part other
  have apart : ¬(part = .sram ∨ part = .guest) := by
    rintro (rfl | rfl)
    · exact other sram
    · exact other guest
  by_cases server : part = .server
  · subst server
    have kept := memory .server apart
    simp only [MachinePart.view, Prod.mk.injEq] at kept ⊢
    obtain ⟨ipcs, lastPpcState, internal⟩ := kept
    refine ⟨ipcs, lastPpcState, ?_⟩
    show _ - 1 = _
    rw [internal]
    rfl
  · rw [copyStore, internalStore, internal_views _ (· - 1) server, memory part apart,
      internal_views _ (· + 1) server]

theorem copy_changes (units : List ARMword) {dst : ARMword}
    (machine : Machine (PlainIo Guest Hash)) (outside : OffRegisters board (dst, units.length))
    (sram : allowed .sram) (guest : allowed .guest) :
    Changes allowed machine
      (starletHost2arm (copyStore images around board depth) .byte units dst machine) := by
  induction units generalizing dst machine with
  | nil => exact Changes.refl allowed machine
  | cons unit rest ih =>
      have first : board.region dst = .io → isSram dst = true := by
        have here := outside 0 (Nat.zero_lt_succ _)
        simpa only [BitVec.add_zero] using here
      have later : OffRegisters board (dst + CopyWidth.byte.bytes, rest.length) := by
        intro index bound
        have next := outside (index + 1) (Nat.succ_lt_succ bound)
        rwa [Nat.add_comm, BitVec.ofNat_add, ← BitVec.add_assoc] at next
      rw [starletHost2arm]
      exact (copyStore_changes machine unit first sram guest).trans (ih _ later)

end Copies

section Devices

variable {Guest Hash : Type} {allowed : MachinePart → Prop} {images : Images}
  {around : Surroundings Guest Hash} {board : Board (PlainIo Guest Hash)} {depth : Nat}
  {addr data : ARMword}

structure Serves (allowed : MachinePart → Prop) : Prop where
  sram : allowed .sram
  guest : allowed .guest

theorem byteUnits_length (bytes : Bytes) : (byteUnits bytes).length = bytes.length :=
  List.length_map _

theorem doDiCommand_changes (machine : Machine (PlainIo Guest Hash)) (own : allowed .di)
    (serves : Serves allowed)
    (outside : OffRegisters board (machine.rest.di.dimar, machine.rest.di.dicmdbuf2.toNat)) :
    Changes allowed machine
      (starletDoDiCommand (registersBoard images around board)
        (copyStore images around board depth) machine) := by
  unfold starletDoDiCommand
  cases (registersBoard images around board).disc with
  | none => exact exit_changes machine allowed
  | some disc =>
      dsimp only
      split_ifs
      · exact Changes.refl allowed machine
      · refine Changes.trans (copy_changes _ machine ?_ serves.sram serves.guest)
          (onDi_changes _ _ own)
        rwa [byteUnits_length, bytesFrom_length]
      · exact Changes.refl allowed machine

theorem diWrite_changes (machine : Machine (PlainIo Guest Hash)) (own : allowed .di)
    (command : ∀ copy ∈ diCopies machine.rest.di addr data,
      Serves allowed ∧ OffRegisters board copy) :
    Changes allowed machine
      (starletDiWrite (registersBoard images around board)
        (copyStore images around board depth) machine addr data) := by
  unfold starletDiWrite
  split
  case h_8 register =>
    dsimp only
    split_ifs with starts
    · have here : addr &&& 0xff#32 = 0x1c#32 := BitVec.eq_of_toNat_eq register
      have copies : diCopies machine.rest.di addr data =
          [(machine.rest.di.dimar, machine.rest.di.dicmdbuf2.toNat)] :=
        if_pos ⟨here, by simpa using starts⟩
      obtain ⟨serves, outside⟩ := command _ (copies ▸ List.mem_singleton_self _)
      exact (onDi_changes machine _ own).trans (doDiCommand_changes _ own serves outside)
    · exact onDi_changes machine _ own
  case h_11 => exact Changes.refl allowed machine
  all_goals exact onDi_changes machine _ own

theorem aesCipher_changes (machine : Machine (PlainIo Guest Hash)) (own : allowed .aes)
    (command : ARMword) (source : Bytes) :
    Changes allowed machine
      (aesCipher (registersBoard images around board) machine command source).1 := by
  unfold aesCipher
  dsimp only
  split_ifs
  · exact onAes_changes machine _ own
  · exact onAes_changes machine _ own
  · exact Changes.refl allowed machine

theorem aesCommand_changes (machine : Machine (PlainIo Guest Hash)) (own : allowed .aes)
    (command : data &&& 0x80000000#32 ≠ 0#32 → Serves allowed ∧ allowed .interrupts ∧
      OffRegisters board (machine.rest.aes.destPtr, aesLength data)) :
    Changes allowed machine
      (starletAesCommand (registersBoard images around board)
        (copyStore images around board depth) machine data) := by
  unfold starletAesCommand
  split
  · rename_i starts
    obtain ⟨serves, interrupts, outside⟩ := command (by simpa using starts)
    dsimp only
    let source := bytesFrom ((registersBoard images around board).arm2host machine
      machine.rest.aes.srcPtr) 0 (aesLength data)
    have dest := (aesCipher_kept (registersBoard images around board) machine data source).2
    have ciphered : Changes allowed machine
        (aesCipher (registersBoard images around board) machine data source).1 :=
      aesCipher_changes machine own data source
    have copied (bytes : Nat → BitVec 8) :
        Changes allowed machine
          (starletHost2arm (copyStore images around board depth) .byte
            (byteUnits (bytesFrom bytes 0 (aesLength data)))
            (aesCipher (registersBoard images around board) machine data source).1.rest.aes.destPtr
            (aesCipher (registersBoard images around board) machine data source).1) := by
      refine ciphered.trans (copy_changes _ _ ?_ serves.sram serves.guest)
      rwa [dest, byteUnits_length, bytesFrom_length]
    split
    · exact ((copied _).trans (onAes_changes _ _ own)).trans (irq_changes _ rfl rfl interrupts)
    · exact (copied _).trans (onAes_changes _ _ own)
  · exact Changes.refl allowed machine

theorem aesWrite_changes (machine : Machine (PlainIo Guest Hash)) (own : allowed .aes)
    (command : addr &&& 0xffff#32 = 0#32 → data &&& 0x80000000#32 ≠ 0#32 →
      Serves allowed ∧ allowed .interrupts ∧
        OffRegisters board (machine.rest.aes.destPtr, aesLength data)) :
    Changes allowed machine
      (starletAesWrite (registersBoard images around board)
        (copyStore images around board depth) machine addr data) := by
  unfold starletAesWrite
  split
  case h_1 register =>
      exact aesCommand_changes machine own (command (BitVec.eq_of_toNat_eq register))
  case h_6 => exact Changes.refl allowed machine
  all_goals exact onAes_changes machine _ own

theorem hash_views (machine : Machine (PlainIo Guest Hash)) (hash : Hash) (sha : Sha)
    {part : MachinePart} (other : part ≠ .sha) :
    part.view ((machine.onOther fun io => { io with hash }).onSha fun _ => sha) =
      part.view machine := by
  cases part <;> first | rfl | exact absurd rfl other

theorem shaWrite_changes (machine : Machine (PlainIo Guest Hash)) (own : allowed .sha)
    (command : addr &&& 0xffff#32 = 0#32 → data &&& 0x80000000#32 ≠ 0#32 → allowed .interrupts) :
    Changes allowed machine
      (starletShaWrite (registersBoard images around board) machine addr data) := by
  unfold starletShaWrite
  split
  case h_1 register =>
    unfold starletShaCommand
    split
    · rename_i starts
      have interrupts := command (BitVec.eq_of_toNat_eq register) (by simpa using starts)
      have hashed (hash : Hash) (sha : Sha) :
          Changes allowed machine
            ((machine.onOther fun io => { io with hash }).onSha fun _ => sha) :=
        changes_of_views (fun part other => hash_views machine hash sha other) own
      dsimp only
      split
      · exact (hashed _ _).trans (irq_changes _ rfl rfl interrupts)
      · exact hashed _ _
    · exact Changes.refl allowed machine
  case h_8 => exact Changes.refl allowed machine
  all_goals exact onSha_changes machine _ own

theorem fireIrq_changes (machine : Machine (PlainIo Guest Hash)) (irq : ARMword)
    (own : allowed .sdhc) (interrupts : allowed .interrupts) :
    Changes allowed machine (starletSdhcFireIrq machine irq) := by
  have noted : Changes allowed machine (noteSdhcIrq machine irq) := by
    unfold noteSdhcIrq
    split
    · exact onSdhc_changes machine _ own
    · exact Changes.refl allowed machine
  unfold starletSdhcFireIrq
  dsimp only
  split
  · exact noted.trans (irq_changes _ rfl rfl interrupts)
  · exact noted

theorem sdhcServe_changes (machine : Machine (PlainIo Guest Hash)) (index : Nat)
    (own : allowed .sdhc) (serves : Serves allowed)
    (outside : (!machine.rest.sdAppCmd && index == 18) = true →
      OffRegisters board (machine.rest.sdhc.dmaAddr, sdhcLength machine.rest.sdhc)) :
    Changes allowed machine
      (sdhcServe (registersBoard images around board) (copyStore images around board depth)
        machine index) := by
  unfold sdhcServe
  cases app : machine.rest.sdAppCmd with
  | true =>
      dsimp only
      rw [if_pos rfl]
      split
      · exact (sdAppCmd_changes machine false own).trans (onSdhc_changes _ _ own)
      · exact sdAppCmd_changes machine false own
  | false =>
      rw [if_neg Bool.false_ne_true]
      split
      case h_1 => exact sdAppCmd_changes machine true own
      case h_5 =>
        have card := outside (by rw [app]; rfl)
        refine copy_changes _ machine ?_ serves.sram serves.guest
        rwa [byteUnits_length, bytesFrom_length]
      case h_6 => exact Changes.refl allowed machine
      all_goals exact onSdhc_changes machine _ own

theorem sdhcExec_changes (machine : Machine (PlainIo Guest Hash)) (own : allowed .sdhc)
    (serves : Serves allowed) (interrupts : allowed .interrupts)
    (outside : (!machine.rest.sdAppCmd && sdhcCommandIndex machine.rest.sdhc.command == 18) = true →
      OffRegisters board (machine.rest.sdhc.dmaAddr, sdhcLength machine.rest.sdhc)) :
    Changes allowed machine
      (starletSdhcExec (registersBoard images around board) (copyStore images around board depth)
        machine) := by
  have completed : Changes allowed machine
      (starletSdhcFireIrq
        (sdhcServe (registersBoard images around board) (copyStore images around board depth)
          machine (sdhcCommandIndex machine.rest.sdhc.command)) 0x01#32) :=
    (sdhcServe_changes machine _ own serves outside).trans
      (fireIrq_changes _ 0x01#32 own interrupts)
  unfold starletSdhcExec
  dsimp only
  split
  · exact (completed.trans (fireIrq_changes _ 0x02#32 own interrupts)).trans
      (onSdhc_changes _ _ own)
  · exact completed.trans (onSdhc_changes _ _ own)

theorem sdhcWrite_changes (machine : Machine (PlainIo Guest Hash)) (own : allowed .sdhc)
    (command : startsSdCommand machine.rest.sdhc addr data →
      Serves allowed ∧ allowed .interrupts ∧
        ∀ copy ∈ sdhcCopies machine.rest data, OffRegisters board copy) :
    Changes allowed machine
      (starletSdhcWrite (registersBoard images around board)
        (copyStore images around board depth) machine addr data) := by
  unfold starletSdhcWrite
  dsimp only
  split
  case h_4 register =>
    split_ifs with same
    · exact onSdhc_changes machine _ own
    · have here : addr &&& 0xffff#32 = 0x0c#32 := BitVec.eq_of_toNat_eq register
      obtain ⟨serves, interrupts, outside⟩ := command ⟨here, same⟩
      refine ((onSdhc_changes machine _ own).trans (onSdhc_changes _ _ own)).trans
        (sdhcExec_changes _ own serves interrupts fun card => ?_)
      have reads : readsCard machine.rest data = true := card
      apply outside
      rw [sdhcCopies, if_pos reads]
      exact List.mem_singleton.mpr rfl
  case h_14 => exact Changes.refl allowed machine
  all_goals exact onSdhc_changes machine _ own

theorem hollywoodPlain_views (machine : Machine (PlainIo Guest Hash)) (addr data : ARMword)
    {part : MachinePart} (other : part ≠ .hollywood) :
    part.view (machine.onOther fun io => hollywoodPlain images io addr data) =
      part.view machine := by
  cases part <;> first | rfl | exact absurd rfl other

theorem hollywoodWrite_changes (machine : Machine (PlainIo Guest Hash)) (own : allowed .hollywood)
    (masks : allowed .masks) (interrupts : allowed .interrupts)
    (plain : ∀ io, (registersBoard images around board).plainWrite .word io addr data =
      hollywoodPlain images io addr data) :
    Changes allowed machine
      (starletHollywoodWrite (registersBoard images around board) machine addr data) := by
  have shadowed : Changes allowed machine
      (machine.onOther fun io =>
        (registersBoard images around board).plainWrite .word io addr data) := by
    rw [funext plain]
    exact changes_of_views (fun part other => hollywoodPlain_views machine addr data other) own
  have register {after : Machine (PlainIo Guest Hash)}
      (same : ∀ part : MachinePart, part ≠ .hollywood ∧ part ≠ .masks ∧ part ≠ .interrupts →
        part.view after = part.view (machine.onOther fun io =>
          (registersBoard images around board).plainWrite .word io addr data)) :
      Changes allowed machine after := by
    refine shadowed.trans fun part outside => same part ⟨?_, ?_, ?_⟩
    · rintro rfl
      exact outside own
    · rintro rfl
      exact outside masks
    · rintro rfl
      exact outside interrupts
  unfold starletHollywoodWrite
  dsimp only
  split
  case h_12 => exact shadowed
  all_goals
    refine register fun part apart => ?_
    cases part <;> first | rfl | exact absurd rfl apart.1 | exact absurd rfl apart.2.1 |
      exact absurd rfl apart.2.2

end Devices

section Windows

variable {Guest Hash : Type}

def windowOf (addr : ARMword) : Option IoDevice :=
  let page := addr >>> 16
  let device := addr &&& 0xfc00#32
  if isSram addr then some .sram
  else if page = 0x0d00#32 ∨ page = 0x0d80#32 then
    if device = 0x0000#32 then some .hollywood
    else if device = 0x6000#32 then some .di
    else if device = 0x6800#32 then some .exi
    else none
  else if page = 0x0d02#32 then some .aes
  else if page = 0x0d03#32 then some .sha
  else if page = 0x0d07#32 then some .sdhc
  else if page = 0x0d8b#32 then some .dram
  else none

def IsCommand (machine : Machine (PlainIo Guest Hash)) (addr data : ARMword) : Prop :=
  match windowOf addr with
  | some .di => addr &&& 0xff#32 = 0x1c#32 ∧ data &&& 1#32 ≠ 0#32
  | some .aes | some .sha => addr &&& 0xffff#32 = 0#32 ∧ data &&& 0x80000000#32 ≠ 0#32
  | some .sdhc => startsSdCommand machine.rest.sdhc addr data
  | _ => False

def MachinePart.owner : MachinePart → Option IoDevice
  | .hollywood | .masks => some .hollywood
  | .di => some .di
  | .exi => some .exi
  | .aes => some .aes
  | .sha => some .sha
  | .sdhc => some .sdhc
  | .dram => some .dram
  | .sram => some .sram
  | _ => none

def IoDevice.reaches : IoDevice → MachinePart → Prop
  | .hollywood, part => part = .interrupts
  | .di, part => part = .sram ∨ part = .guest
  | .aes, part | .sdhc, part => part = .sram ∨ part = .guest ∨ part = .interrupts
  | .sha, part => part = .interrupts
  | _, _ => False

/-- What a write may change: its device, and with a command what this reaches.  The interrupt
registers are registers of the Hollywood window. -/
def MayChange (machine : Machine (PlainIo Guest Hash)) (addr data : ARMword)
    (part : MachinePart) : Prop :=
  ∃ device, windowOf addr = some device ∧
    (part.owner = some device ∨
      (device = .hollywood ∨ IsCommand machine addr data) ∧ device.reaches part)

def StaysInWindow (before after : Machine (PlainIo Guest Hash)) (addr data : ARMword) : Prop :=
  Changes (MayChange before addr data) before after ∧ (windowOf addr = none → after = before)

def Misrouted (io : PlainIo Guest Hash) (addr data : ARMword) : Prop :=
  (addr = 0x0d804074#32 ∧ io.dram4074 ≠ data) ∨ (addr = 0x0d804076#32 ∧ io.dram4076 ≠ data)

def startedCopies (machine : Machine (PlainIo Guest Hash)) (addr data : ARMword) :
    List (ARMword × Nat) :=
  match windowOf addr with
  | some .di => diCopies machine.rest.di addr data
  | some .aes =>
      if addr &&& 0xffff#32 = 0#32 ∧ data &&& 0x80000000#32 ≠ 0#32 then
        [(machine.rest.aes.destPtr, aesLength data)]
      else []
  | some .sdhc => sdhcCopies machine.rest data
  | _ => []

variable {images : Images} {around : Surroundings Guest Hash} {board : Board (PlainIo Guest Hash)}
  {depth : Nat} {machine : Machine (PlainIo Guest Hash)} {addr data : ARMword}

theorem mayChange_own {device : IoDevice} (window : windowOf addr = some device)
    {part : MachinePart} (owned : part.owner = some device) : MayChange machine addr data part :=
  ⟨device, window, Or.inl owned⟩

theorem mayChange_command {device : IoDevice} (window : windowOf addr = some device)
    {part : MachinePart} (command : device = .hollywood ∨ IsCommand machine addr data)
    (reached : device.reaches part) :
    MayChange machine addr data part :=
  ⟨device, window, Or.inr ⟨command, reached⟩⟩

theorem plainWrite_word (io : PlainIo Guest Hash) :
    (registersBoard images around board).plainWrite .word io addr data =
      if isSram addr then sramPlain .word io addr data
      else if (addr >>> 16 = 0x0d00#32 ∨ addr >>> 16 = 0x0d80#32) ∧
          addr &&& 0xfc00#32 = 0x0000#32 then
        hollywoodPlain images io addr data
      else if (addr >>> 16 = 0x0d00#32 ∨ addr >>> 16 = 0x0d80#32) ∧
          addr &&& 0xfc00#32 = 0x6800#32 then
        { io with exi := starletExiWrite io.exi addr data }
      else if addr >>> 16 = 0x0d80#32 ∨ addr >>> 16 = 0x0d8b#32 then starletDramWrite io addr data
      else io := by
  show starletPlainWrite images .word io addr data = _
  rw [starletPlainWrite, if_neg (show ¬CopyWidth.word = .halfword by decide)]

theorem dram_views (machine : Machine (PlainIo Guest Hash)) (addr data : ARMword)
    {part : MachinePart} (other : part ≠ .dram) :
    part.view (machine.onOther fun io => starletDramWrite io addr data) = part.view machine := by
  have written (io : PlainIo Guest Hash) :
      ∃ first second, starletDramWrite io addr data =
        { io with dram4074 := first, dram4076 := second } := by
    unfold starletDramWrite
    split <;> exact ⟨_, _, rfl⟩
  obtain ⟨first, second, stored⟩ := written machine.rest.other
  rw [Host.onOther, stored]
  cases part <;> first | rfl | exact absurd rfl other

theorem exi_views (machine : Machine (PlainIo Guest Hash)) (change : Exi → Exi) {part : MachinePart}
    (other : part ≠ .exi) :
    part.view (machine.onOther fun io => { io with exi := change io.exi }) = part.view machine := by
  cases part <;> first | rfl | exact absurd rfl other

section Pages

theorem aesWrite_none (device : addr &&& 0xfc00#32 ≠ 0x0000#32) :
    starletAesWrite (registersBoard images around board) (copyStore images around board depth)
      machine addr data = machine := by
  have offset {low : ARMword} (high : low &&& 0xfc00#32 = 0#32) :
      ¬(addr &&& 0xffff#32).toNat = low.toNat := by
    intro same
    apply device
    have word : addr &&& 0xffff#32 = low := BitVec.eq_of_toNat_eq same
    have narrow : (0xffff#32 : ARMword) &&& 0xfc00#32 = 0xfc00#32 := by
      decide
    rw [← narrow, ← BitVec.and_assoc, word, high]
  unfold starletAesWrite
  split
  case h_1 register => exact absurd register (@offset 0x0000#32 (by decide))
  case h_2 register => exact absurd register (@offset 0x0004#32 (by decide))
  case h_3 register => exact absurd register (@offset 0x0008#32 (by decide))
  case h_4 register => exact absurd register (@offset 0x000c#32 (by decide))
  case h_5 register => exact absurd register (@offset 0x0010#32 (by decide))
  case h_6 => rfl

theorem sramWrite_changes (sram : isSram addr = true) :
    Changes (MayChange machine addr data) machine
      (starletIoWriteWord (registersBoard images around board)
        (copyStore images around board depth) machine addr data) := by
  have window : windowOf addr = some .sram := if_pos sram
  have plain (io : PlainIo Guest Hash) :
      (registersBoard images around board).plainWrite .word io addr data =
        sramPlain .word io addr data := by
    rw [plainWrite_word, if_pos sram]
  rw [starletIoWriteWord, if_pos sram, funext plain]
  exact changes_of_views (fun part other => sramPlain_views .word machine addr data other)
    (mayChange_own window rfl)

variable (sram : isSram addr = false)

include sram

theorem sharedPage_changes (page : addr >>> 16 = 0x0d00#32 ∨ addr >>> 16 = 0x0d80#32)
    {device : IoDevice} (window : windowOf addr = some device)
    (outside : ∀ copy ∈ startedCopies machine addr data, OffRegisters board copy) :
    Changes (MayChange machine addr data) machine
      (starletIoWriteWord (registersBoard images around board)
        (copyStore images around board depth) machine addr data) := by
  have notSram : ¬isSram addr = true := by
    rw [sram]
    exact Bool.false_ne_true
  have shape : windowOf addr =
      if addr &&& 0xfc00#32 = 0x0000#32 then some .hollywood
      else if addr &&& 0xfc00#32 = 0x6000#32 then some .di
      else if addr &&& 0xfc00#32 = 0x6800#32 then some .exi
      else none := by
    rw [windowOf, if_neg notSram, if_pos page]
  rw [starletIoWriteWord, if_neg notSram, if_pos page]
  by_cases hollywood : addr &&& 0xfc00#32 = 0x0000#32
  · rw [if_pos hollywood] at shape ⊢
    refine hollywoodWrite_changes machine (mayChange_own shape rfl) (mayChange_own shape rfl)
      (mayChange_command shape (Or.inl rfl) rfl) fun io => ?_
    rw [plainWrite_word, if_neg notSram, if_pos ⟨page, hollywood⟩]
  · rw [if_neg hollywood] at shape ⊢
    by_cases drive : addr &&& 0xfc00#32 = 0x6000#32
    · rw [if_pos drive] at shape ⊢
      refine diWrite_changes machine (mayChange_own shape rfl) fun copy member => ?_
      have command : IsCommand machine addr data := by
        rw [IsCommand, shape]
        by_contra idle
        rw [diCopies, if_neg idle] at member
        exact List.not_mem_nil member
      refine ⟨⟨mayChange_command shape (Or.inr command) (Or.inl rfl),
        mayChange_command shape (Or.inr command) (Or.inr rfl)⟩, outside copy ?_⟩
      rw [startedCopies, shape]
      exact member
    · rw [if_neg drive] at shape ⊢
      by_cases exi : addr &&& 0xfc00#32 = 0x6800#32
      · rw [if_pos exi] at shape ⊢
        have plain (io : PlainIo Guest Hash) :
            (registersBoard images around board).plainWrite .word io addr data =
              { io with exi := starletExiWrite io.exi addr data } := by
          rw [plainWrite_word, if_neg notSram, if_neg fun both => hollywood both.2,
            if_pos ⟨page, exi⟩]
        rw [funext plain]
        exact changes_of_views
          (fun part other => exi_views machine (starletExiWrite · addr data) other)
          (mayChange_own shape rfl)
      · rw [if_neg exi, window] at shape
        exact absurd shape (Option.some_ne_none device)

theorem ownPage_changes (shared : ¬(addr >>> 16 = 0x0d00#32 ∨ addr >>> 16 = 0x0d80#32))
    {device : IoDevice} (window : windowOf addr = some device)
    (outside : ∀ copy ∈ startedCopies machine addr data, OffRegisters board copy) :
    Changes (MayChange machine addr data) machine
      (starletIoWriteWord (registersBoard images around board)
        (copyStore images around board depth) machine addr data) := by
  have notSram : ¬isSram addr = true := by
    rw [sram]
    exact Bool.false_ne_true
  have shape : windowOf addr =
      if addr >>> 16 = 0x0d02#32 then some .aes
      else if addr >>> 16 = 0x0d03#32 then some .sha
      else if addr >>> 16 = 0x0d07#32 then some .sdhc
      else if addr >>> 16 = 0x0d8b#32 then some .dram
      else none := by
    rw [windowOf, if_neg notSram, if_neg shared]
  rw [starletIoWriteWord, if_neg notSram, if_neg shared]
  by_cases cipher : addr >>> 16 = 0x0d02#32
  · rw [if_pos cipher] at shape ⊢
    refine aesWrite_changes machine (mayChange_own shape rfl) fun first starts => ?_
    have command : IsCommand machine addr data := by
      rw [IsCommand, shape]
      exact ⟨first, starts⟩
    refine ⟨⟨mayChange_command shape (Or.inr command) (Or.inl rfl),
      mayChange_command shape (Or.inr command) (Or.inr (Or.inl rfl))⟩,
      mayChange_command shape (Or.inr command) (Or.inr (Or.inr rfl)), outside _ ?_⟩
    simp only [startedCopies, shape]
    rw [if_pos ⟨first, starts⟩]
    exact List.mem_singleton_self _
  · rw [if_neg cipher] at shape ⊢
    by_cases hash : addr >>> 16 = 0x0d03#32
    · rw [if_pos hash] at shape ⊢
      refine shaWrite_changes machine (mayChange_own shape rfl) fun first starts => ?_
      have command : IsCommand machine addr data := by
        rw [IsCommand, shape]
        exact ⟨first, starts⟩
      exact mayChange_command shape (Or.inr command) rfl
    · rw [if_neg hash] at shape ⊢
      by_cases card : addr >>> 16 = 0x0d07#32
      · rw [if_pos card] at shape ⊢
        refine sdhcWrite_changes machine (mayChange_own shape rfl) fun starts => ?_
        have command : IsCommand machine addr data := by
          rw [IsCommand, shape]
          exact starts
        refine ⟨⟨mayChange_command shape (Or.inr command) (Or.inl rfl),
          mayChange_command shape (Or.inr command) (Or.inr (Or.inl rfl))⟩,
          mayChange_command shape (Or.inr command) (Or.inr (Or.inr rfl)), fun copy member => ?_⟩
        apply outside
        rw [startedCopies, shape]
        exact member
      · rw [if_neg card] at shape ⊢
        by_cases dram : addr >>> 16 = 0x0d8b#32
        · rw [if_pos dram] at shape ⊢
          have plain (io : PlainIo Guest Hash) :
              (registersBoard images around board).plainWrite .word io addr data =
                starletDramWrite io addr data := by
            rw [plainWrite_word, if_neg notSram, if_neg fun both => shared both.1,
              if_neg fun both => shared both.1, if_pos (Or.inr dram)]
          rw [funext plain]
          exact changes_of_views (fun part other => dram_views machine addr data other)
            (mayChange_own shape rfl)
        · rw [if_neg dram, window] at shape
          exact absurd shape (Option.some_ne_none device)

theorem noWindow_write (window : windowOf addr = none) :
    starletIoWriteWord (registersBoard images around board)
        (copyStore images around board depth) machine addr data =
      if addr >>> 16 = 0x0d80#32 then machine.onOther fun io => starletDramWrite io addr data
      else machine := by
  have notSram : ¬isSram addr = true := by
    rw [sram]
    exact Bool.false_ne_true
  rw [windowOf, if_neg notSram] at window
  rw [starletIoWriteWord, if_neg notSram]
  by_cases shared : addr >>> 16 = 0x0d00#32 ∨ addr >>> 16 = 0x0d80#32
  · rw [if_pos shared] at window ⊢
    by_cases hollywood : addr &&& 0xfc00#32 = 0x0000#32
    · rw [if_pos hollywood] at window
      exact absurd window (Option.some_ne_none _)
    by_cases drive : addr &&& 0xfc00#32 = 0x6000#32
    · rw [if_neg hollywood, if_pos drive] at window
      exact absurd window (Option.some_ne_none _)
    by_cases exi : addr &&& 0xfc00#32 = 0x6800#32
    · rw [if_neg hollywood, if_neg drive, if_pos exi] at window
      exact absurd window (Option.some_ne_none _)
    rw [if_neg hollywood, if_neg drive, if_neg exi]
    obtain first | second := shared
    · have other : ¬addr >>> 16 = 0x0d80#32 := by
        rw [first]
        decide
      rw [if_pos first, if_neg other, aesWrite_none hollywood]
    · have other : ¬addr >>> 16 = 0x0d00#32 := by
        rw [second]
        decide
      have plain (io : PlainIo Guest Hash) :
          (registersBoard images around board).plainWrite .word io addr data =
            starletDramWrite io addr data := by
        rw [plainWrite_word, if_neg notSram, if_neg fun both => hollywood both.2,
          if_neg fun both => exi both.2, if_pos (Or.inl second)]
      rw [if_neg other, if_pos second, funext plain]
  · rw [if_neg shared] at window ⊢
    rw [if_neg fun page => shared (Or.inr page)]
    split_ifs at window ⊢
    rfl

end Pages

theorem address_eq_iff (addr : ARMword) (page : addr >>> 16 = 0x0d80#32) {low : ARMword}
    (high : low >>> 16 = 0x0d80#32) : addr = low ↔ portOffset addr = portOffset low := by
  have upper (word : ARMword) (here : word >>> 16 = 0x0d80#32) : word.toNat / 65536 = 0x0d80 := by
    have shifted := congrArg BitVec.toNat here
    rwa [BitVec.toNat_ushiftRight, Nat.shiftRight_eq_div_pow] at shifted
  have lower (word : ARMword) : portOffset word = word.toNat % 65536 :=
    and_mask_toNat word 16 (by decide)
  have first := upper addr page
  have second := upper low high
  rw [lower, lower]
  constructor
  · rintro rfl
    rfl
  · intro same
    apply BitVec.eq_of_toNat_eq
    omega

theorem dramWrite_eq_iff (io : PlainIo Guest Hash) (page : addr >>> 16 = 0x0d80#32) :
    starletDramWrite io addr data = io ↔ ¬Misrouted io addr data := by
  have first := address_eq_iff addr page (show 0x0d804074#32 >>> 16 = 0x0d80#32 by decide)
  have second := address_eq_iff addr page (show 0x0d804076#32 >>> 16 = 0x0d80#32 by decide)
  rw [show portOffset 0x0d804074#32 = 0x4074 by decide] at first
  rw [show portOffset 0x0d804076#32 = 0x4076 by decide] at second
  rw [Misrouted, first, second]
  unfold starletDramWrite
  split
  · rename_i register
    constructor
    · intro same
      have stored := congrArg PlainIo.dram4074 same
      rintro (⟨-, differs⟩ | ⟨other, -⟩)
      · exact differs stored.symm
      · omega
    · intro fine
      have stored : io.dram4074 = data := by
        by_contra differs
        exact fine (Or.inl ⟨register, differs⟩)
      rw [← stored]
  · rename_i register
    constructor
    · intro same
      have stored := congrArg PlainIo.dram4076 same
      rintro (⟨other, -⟩ | ⟨-, differs⟩)
      · omega
      · exact differs stored.symm
    · intro fine
      have stored : io.dram4076 = data := by
        by_contra differs
        exact fine (Or.inr ⟨register, differs⟩)
      rw [← stored]
  · rename_i notFirst notSecond
    refine iff_of_true rfl ?_
    rintro (⟨here, -⟩ | ⟨here, -⟩)
    · exact notFirst here
    · exact notSecond here

theorem onOther_eq_iff (change : PlainIo Guest Hash → PlainIo Guest Hash) :
    machine.onOther change = machine ↔ change machine.rest.other = machine.rest.other := by
  constructor
  · intro same
    exact congrArg (fun machine => machine.rest.other) same
  · intro same
    rw [Host.onOther, same]

theorem misrouted_noWindow {io : PlainIo Guest Hash} (misrouted : Misrouted io addr data) :
    windowOf addr = none ∧ addr >>> 16 = 0x0d80#32 := by
  obtain ⟨rfl, -⟩ | ⟨rfl, -⟩ := misrouted
  · decide
  · decide

/-- Unless a copy lands on registers, a write stays in its window exactly where it is not one
to the memory controller through page `0x0D80`. -/
theorem staysInWindow_iff (images : Images) (around : Surroundings Guest Hash)
    (board : Board (PlainIo Guest Hash)) (depth : Nat) (machine : Machine (PlainIo Guest Hash))
    (addr data : ARMword)
    (outside : ∀ copy ∈ startedCopies machine addr data, OffRegisters board copy) :
    StaysInWindow machine
        (starletIoWriteWord (registersBoard images around board)
          (copyStore images around board depth) machine addr data) addr data ↔
      ¬Misrouted machine.rest.other addr data := by
  cases window : windowOf addr with
  | some device =>
      have noMisroute : ¬Misrouted machine.rest.other addr data := by
        intro misrouted
        have nowhere := (misrouted_noWindow misrouted).1
        rw [window] at nowhere
        exact absurd nowhere (Option.some_ne_none device)
      refine iff_of_true ⟨?_, fun nowhere => ?_⟩ noMisroute
      · cases sram : isSram addr with
        | true => exact sramWrite_changes sram
        | false =>
            by_cases shared : addr >>> 16 = 0x0d00#32 ∨ addr >>> 16 = 0x0d80#32
            · exact sharedPage_changes sram shared window outside
            · exact ownPage_changes sram shared window outside
      · rw [window] at nowhere
        exact absurd nowhere (Option.some_ne_none device)
  | none =>
      have sram : isSram addr = false := by
        rw [← Bool.not_eq_true]
        intro inside
        rw [windowOf, if_pos inside] at window
        exact absurd window (Option.some_ne_none _)
      rw [noWindow_write sram window]
      have stays (after : Machine (PlainIo Guest Hash)) :
          StaysInWindow machine after addr data ↔ after = machine := by
        constructor
        · intro inside
          exact inside.2 window
        · rintro rfl
          exact ⟨Changes.refl _ _, fun _ => rfl⟩
      rw [stays]
      by_cases page : addr >>> 16 = 0x0d80#32
      · rw [if_pos page, onOther_eq_iff, dramWrite_eq_iff _ page]
      · rw [if_neg page]
        exact iff_of_true rfl fun misrouted => page (misrouted_noWindow misrouted).2

end Windows

section Inputs

def plainBoard : Board (PlainIo Unit Unit) :=
  { starletBoard with
    memWrite := fun _ io _ _ => io
    plainWrite := fun _ io _ _ => io
    arm2host := fun _ _ _ => 0#8
    sha1Input := fun io digest _ => (io, digest)
    nandSend := fun io _ _ => io
    nandData := fun _ _ => 0#8
    nandRead := fun io _ => io
    nandProgram := fun io _ => io }

def plainAround : Surroundings Unit Unit :=
  { hashInput := fun hash digest _ => (hash, digest)
    guestWrite := fun _ guest _ _ => guest }

def zeroImages : Images :=
  { otpFile := false, seepromFile := fun _ => 0#8 }

/-- A word for page `0x0D80` ends in the memory controller. -/
theorem dram_through_page :
    ¬StaysInWindow (plainMachine () ())
      (starletIoWriteWord (registersBoard zeroImages plainAround plainBoard)
        (copyStore zeroImages plainAround plainBoard 4) (plainMachine () ()) 0x0d804074#32 1#32)
      0x0d804074#32 1#32 := by
  intro stays
  have window : windowOf 0x0d804074#32 = none := by
    decide
  have written := congrArg (fun machine => machine.rest.other.dram4074) (stays.2 window)
  exact absurd written (by decide)

/-- A word for the timer, and a command of the cipher that copies to the start of memory. -/
theorem staysInWindow_cipher :
    StaysInWindow (plainMachine () ())
        (starletIoWriteWord (registersBoard zeroImages plainAround plainBoard)
          (copyStore zeroImages plainAround plainBoard 4) (plainMachine () ()) 0x0d800010#32 1#32)
        0x0d800010#32 1#32 ∧
      StaysInWindow (plainMachine () ())
        (starletIoWriteWord (registersBoard zeroImages plainAround plainBoard)
          (copyStore zeroImages plainAround plainBoard 4) (plainMachine () ()) 0x0d020000#32
          0x80000000#32)
        0x0d020000#32 0x80000000#32 := by
  have timer : startedCopies (plainMachine () ()) 0x0d800010#32 1#32 = [] := by
    decide
  have cipher : startedCopies (plainMachine () ()) 0x0d020000#32 0x80000000#32 = [(0#32, 16)] := by
    decide
  have memory : OffRegisters plainBoard (0#32, 16) := by
    have here : ∀ index < 16, plainBoard.region (0#32 + BitVec.ofNat 32 index) = .memory := by
      decide
    intro index bound region
    rw [here index bound] at region
    exact absurd region (by decide)
  refine ⟨(staysInWindow_iff _ _ _ _ _ _ _ ?_).mpr ?_, (staysInWindow_iff _ _ _ _ _ _ _ ?_).mpr ?_⟩
  · rw [timer]
    exact List.forall_mem_nil _
  · rintro (⟨here, -⟩ | ⟨here, -⟩)
    · exact absurd here (by decide)
    · exact absurd here (by decide)
  · rw [cipher, List.forall_mem_singleton]
    exact memory
  · rintro (⟨here, -⟩ | ⟨here, -⟩)
    · exact absurd here (by decide)
    · exact absurd here (by decide)

end Inputs

end SkyeyeStarlet
