import SkyeyeStarlet.InterruptLine

/-!
The command register of the SD host controller.  A write to it executes a command where it
changes the register, which holds no command between two of them once the controller has
executed one or was reset.
-/

namespace SkyeyeStarlet

open Runs

structure SdhcWrite where
  addr : ARMword
  data : ARMword

namespace SdhcWrite

variable (write : SdhcWrite)

/-- `SDHC_TRANSFER_MODE`, with the command in the upper half. -/
def IsCommand : Prop :=
  (write.addr &&& 0xffff#32).toNat = 0x0c

/-- `SDHC_CLOCK_CTL` with `SDHC_RESET_ALL`. -/
def ResetsAll : Prop :=
  (write.addr &&& 0xffff#32).toNat = 0x2c ∧ write.data.getLsbD 24 = true

instance : Decidable write.IsCommand :=
  inferInstanceAs (Decidable (_ = _))

instance : Decidable write.ResetsAll :=
  inferInstanceAs (Decidable (_ ∧ _))

/-- The writes that leave no command in the register that power-on clears. -/
def Arms : Prop :=
  (write.IsCommand ∧ write.data >>> 16 ≠ 0#32) ∨ write.ResetsAll

instance : Decidable write.Arms :=
  inferInstanceAs (Decidable (_ ∨ _))

end SdhcWrite

section Controller

variable {Other : Type} (board : Board Other) (store : Store Other)

def sdhcStep (machine : Machine Other) (write : SdhcWrite) : Machine Other :=
  starletSdhcWrite board store machine write.addr write.data

def SdhcWrite.loaded (write : SdhcWrite) (machine : Machine Other) : Machine Other :=
  machine.onSdhc fun sdhc =>
    { sdhc with mode := write.data &&& 0xffff#32, command := write.data >>> 16 }

/-- The write executes its command, and nothing else. -/
def ExecutesOnce (machine : Machine Other) (write : SdhcWrite) : Prop :=
  sdhcStep board store machine write = starletSdhcExec board store (write.loaded machine)

/-- `starlet_sdhc_init` in `starlet_mach_init`, and the `memset` of `starlet_io_reset` after
it. -/
def sdhcPowerOn (machine : Machine Other) : Machine Other :=
  (machine.onSdhc (starletSdhcReset true true true)).onSdhc fun _ => clearSdhc

theorem starletSdhcReset_command (cmd dat all : Bool) (sdhc : Sdhc) :
    (starletSdhcReset cmd dat all sdhc).command = if all then 0xffff0000#32 else sdhc.command := by
  cases all <;> rfl

theorem writeClock_command (sdhc : Sdhc) (data : ARMword) :
    (writeClock sdhc data).command =
      if data.getLsbD 24 then 0xffff0000#32 else sdhc.command := by
  have all : (data.extractLsb' 24 4).getLsbD 0 = data.getLsbD 24 := by
    simp
  have timed (clocked : Sdhc) (timeout : BitVec 4) :
      (if clocked.timeoutControl.extractLsb' 0 4 = timeout then clocked
        else { clocked with timeoutControl := timeout.setWidth 8 }).command =
        clocked.command := by
    split <;> rfl
  have clocked : (if sdhc.clockControl = data &&& 0xffff#32 then sdhc
      else
        { sdhc with
          clockControl :=
            if data &&& 0xffff#32 &&& 0x01#32 != 0#32 then data &&& 0xffff#32 ||| 0x02#32
            else data &&& 0xffff#32 }).command = sdhc.command := by
    split <;> rfl
  unfold writeClock
  dsimp only
  split
  · rename_i none
    have kept : data.getLsbD 24 = false := by
      rw [← all, none]
      rfl
    rw [kept, timed, clocked]
    rfl
  · rw [starletSdhcReset_command, all, timed, clocked]

theorem sdhcStep_of_command (machine : Machine Other) {write : SdhcWrite}
    (command : write.IsCommand) :
    sdhcStep board store machine write =
      if machine.rest.sdhc.command = write.data >>> 16 then
        machine.onSdhc fun sdhc => { sdhc with mode := write.data &&& 0xffff#32 }
      else starletSdhcExec board store (write.loaded machine) := by
  unfold SdhcWrite.IsCommand at command
  unfold sdhcStep starletSdhcWrite
  simp only [command]
  rfl

theorem sdhcStep_command (machine : Machine Other) {write : SdhcWrite}
    (other : ¬write.IsCommand) :
    (sdhcStep board store machine write).rest.sdhc.command =
      if write.ResetsAll then 0xffff0000#32 else machine.rest.sdhc.command := by
  by_cases clock : (write.addr &&& 0xffff#32).toNat = 0x2c
  · have resets : write.ResetsAll ↔ write.data.getLsbD 24 = true :=
      and_iff_right clock
    have written := writeClock_command machine.rest.sdhc write.data
    rw [if_congr resets rfl rfl, ← written]
    unfold sdhcStep starletSdhcWrite
    simp only [clock]
    rfl
  · rw [if_neg fun resets => clock resets.1]
    unfold SdhcWrite.IsCommand at other
    unfold sdhcStep starletSdhcWrite
    dsimp only
    generalize (write.addr &&& 0xffff#32).toNat = place at other clock
    split
    case h_4 => exact absurd rfl other
    case h_10 => exact absurd rfl clock
    all_goals rfl

theorem high_ne_idle (data : ARMword) : 0xffff0000#32 ≠ data >>> 16 := by
  intro same
  have bit := congrArg (·.getLsbD 31) same
  simp at bit

theorem executesOnce_iff (machine : Machine Other) {write : SdhcWrite}
    (command : write.IsCommand) :
    ExecutesOnce board store machine write ↔ machine.rest.sdhc.command ≠ write.data >>> 16 := by
  rw [ExecutesOnce, sdhcStep_of_command board store machine command]
  by_cases found : machine.rest.sdhc.command = write.data >>> 16
  · rw [if_pos found]
    refine iff_of_false (fun same => ?_) (fun differs => differs found)
    have idle := congrArg (fun machine => machine.rest.sdhc.command) same
    exact high_ne_idle write.data (idle.symm.trans found)
  · rw [if_neg found]
    exact iff_of_true rfl found

theorem run_command (machine : Machine Other) (writes : List SdhcWrite) :
    (run (sdhcStep board store) (sdhcPowerOn machine) writes).rest.sdhc.command =
      if ∃ write ∈ writes, write.Arms then 0xffff0000#32 else 0#32 := by
  induction writes using List.reverseRecOn with
  | nil => rfl
  | append_singleton before write ih =>
      have either : (∃ other ∈ before ++ [write], other.Arms) ↔
          (∃ other ∈ before, other.Arms) ∨ write.Arms := by
        simp only [List.mem_append, List.mem_singleton, or_and_right, exists_or, exists_eq_left]
      rw [run_append, run_cons, run_nil]
      by_cases command : write.IsCommand
      · have arms : write.Arms ↔ write.data >>> 16 ≠ 0#32 := by
          refine ⟨?_, fun other => .inl ⟨command, other⟩⟩
          rintro (⟨-, other⟩ | ⟨clock, -⟩)
          · exact other
          · exact absurd (command.symm.trans clock) (by decide)
        rw [sdhcStep_of_command board store _ command, ih,
          if_congr (either.trans (or_congr_right arms)) rfl rfl]
        by_cases armed : ∃ earlier ∈ before, earlier.Arms
        · rw [if_pos armed, if_neg (high_ne_idle write.data), if_pos (.inl armed)]
          rfl
        · rw [if_neg armed]
          by_cases zero : write.data >>> 16 = 0#32
          · rw [if_pos zero.symm, if_neg (not_or.mpr ⟨armed, not_not.mpr zero⟩)]
            exact ih.trans (if_neg armed)
          · rw [if_neg (Ne.symm zero), if_pos (.inr zero)]
            rfl
      · have arms : write.Arms ↔ write.ResetsAll :=
          or_iff_right fun other => command other.1
        rw [sdhcStep_command board store _ command, ih,
          if_congr (either.trans (or_congr_right arms)) rfl rfl]
        by_cases resets : write.ResetsAll
        · rw [if_pos resets, if_pos (.inr resets)]
        · rw [if_neg resets]
          exact if_congr (or_iff_left resets).symm rfl rfl

/-- From power-on, every command write executes its command once exactly where no write of
command 0 comes before the first other command and the first full reset. -/
theorem sdhc_commands_execute_iff (machine : Machine Other) (writes : List SdhcWrite) :
    (∀ before (write : SdhcWrite) after, writes = before ++ write :: after → write.IsCommand →
      ExecutesOnce board store (run (sdhcStep board store) (sdhcPowerOn machine) before) write) ↔
    ∀ before (write : SdhcWrite) after, writes = before ++ write :: after → write.IsCommand →
      write.data >>> 16 = 0#32 → ∃ earlier ∈ before, earlier.Arms := by
  refine forall₃_congr fun before write after => imp_congr_right fun split =>
    imp_congr_right fun command => ?_
  rw [executesOnce_iff board store _ command, run_command]
  by_cases armed : ∃ earlier ∈ before, earlier.Arms
  · rw [if_pos armed]
    exact iff_of_true (high_ne_idle write.data) fun _ => armed
  · rw [if_neg armed]
    exact ⟨fun differs zero => absurd zero.symm differs, fun none zero => armed (none zero.symm)⟩

end Controller

/-- `GO_IDLE_STATE` as the first command after power-on is not executed: its completion is not
noted. -/
theorem first_command_lost :
    ¬∀ (board : Board Unit) (store : Store Unit) (machine : Machine Unit)
      (before : List SdhcWrite) (write : SdhcWrite), write.IsCommand →
        ExecutesOnce board store (run (sdhcStep board store) (sdhcPowerOn machine) before)
          write := by
  intro claimed
  let enable : SdhcWrite := ⟨0x0d070034#32, 0x1#32⟩
  let goIdle : SdhcWrite := ⟨0x0d07000c#32, 0#32⟩
  have executed := claimed starletBoard (memWrite starletBoard 1) resetMachine [enable] goIdle
    (by decide)
  have noted := congrArg (fun machine => machine.rest.sdhc.irqStatus) executed
  exact absurd noted (by decide)

end SkyeyeStarlet
