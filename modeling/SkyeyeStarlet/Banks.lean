import SkyeyeStarlet.ArmCore
import SkyeyeStarlet.Library.BankedFile

/-!
The architectural register file behind `Reg` and `RegBank`.  Registers 8 to 12
have one copy for fast interrupts and one for all other modes, 13 and 14 have one
copy in each bank, and the rest are shared.  `armulSwitchMode` moves values
between the live file and the store and changes none of them.
-/

namespace SkyeyeStarlet

variable {Mem : Type}

inductive RegClass where
  | shared
  | fiqOnly
  | banked
  deriving DecidableEq, Repr

def regClass (number : RegNum) : RegClass :=
  if 8#4 ≤ number ∧ number ≤ 12#4 then .fiqOnly
  else if 13#4 ≤ number ∧ number ≤ 14#4 then .banked
  else .shared

def registerRow (bank : Bank) (number : RegNum) : Bank :=
  match regClass number with
  | .shared => .userbank
  | .fiqOnly => if bank = .fiqbank then .fiqbank else .userbank
  | .banked => bank

def bankedReg (file : Registers) (bank : Bank) (number : RegNum) : ARMword :=
  BankedFile.read registerRow file.reg file.regBank file.bank bank number

theorem bankedReg_current (file : Registers) (number : RegNum) :
    bankedReg file file.bank number = file.reg number := by
  exact BankedFile.read_current

theorem overlay_fiqOnly (target source : RegNum → ARMword) (number : RegNum) :
    overlay target source 8#4 12#4 number =
      if regClass number = .fiqOnly then source number else target number := by
  have range : (8#4 ≤ number ∧ number ≤ 12#4) ↔ regClass number = .fiqOnly := by
    revert number
    decide
  simp only [overlay, range]

theorem overlay_banked (target source : RegNum → ARMword) (number : RegNum) :
    overlay target source 13#4 14#4 number =
      if regClass number = .banked then source number else target number := by
  have range : (13#4 ≤ number ∧ number ≤ 14#4) ↔ regClass number = .banked := by
    revert number
    decide
  simp only [overlay, range]

theorem overlay_all (target source : RegNum → ARMword) (number : RegNum) :
    overlay target source 8#4 14#4 number =
      if regClass number = .shared then target number else source number := by
  have range : (8#4 ≤ number ∧ number ≤ 14#4) ↔ ¬regClass number = .shared := by
    revert number
    decide
  simp only [overlay, range, ite_not]

theorem saveBank_apply (file : Registers) {oldbank newbank row : Bank}
    (oldReal : oldbank ≠ .dummybank) (number : RegNum) :
    saveBank file oldbank newbank row number =
      match regClass number with
      | .shared => file.regBank row number
      | .fiqOnly =>
          if oldbank = .fiqbank then
            if row = .fiqbank then file.reg number else file.regBank row number
          else if newbank = .fiqbank ∧ row = .userbank then file.reg number
          else file.regBank row number
      | .banked => if row = oldbank then file.reg number else file.regBank row number := by
  cases kind : regClass number <;> cases oldbank <;> cases row <;>
    by_cases entering : newbank = .fiqbank <;>
    simp [saveBank, overlay_fiqOnly, overlay_banked, overlay_all, kind, entering] at oldReal ⊢

theorem restoreBank_apply (reg : RegNum → ARMword) (regBank : Bank → RegNum → ARMword)
    {oldbank newbank : Bank} (newReal : newbank ≠ .dummybank) (number : RegNum) :
    restoreBank reg regBank oldbank newbank number =
      match regClass number with
      | .shared => reg number
      | .fiqOnly =>
          if newbank = .fiqbank then regBank .fiqbank number
          else if oldbank = .fiqbank then regBank .userbank number
          else reg number
      | .banked => regBank newbank number := by
  cases kind : regClass number <;> cases newbank <;> by_cases leaving : oldbank = .fiqbank <;>
    simp [restoreBank, overlay_fiqOnly, overlay_banked, overlay_all, kind, leaving] at newReal ⊢

theorem restoreBank_read (file : Registers) {oldbank newbank : Bank}
    (oldReal : oldbank ≠ .dummybank) (newReal : newbank ≠ .dummybank)
    (different : oldbank ≠ newbank) (number : RegNum) :
    restoreBank file.reg (saveBank file oldbank newbank) oldbank newbank number =
      BankedFile.read registerRow file.reg file.regBank oldbank newbank number := by
  rw [restoreBank_apply _ _ newReal, saveBank_apply _ oldReal, saveBank_apply _ oldReal,
    saveBank_apply _ oldReal]
  cases kind : regClass number with
  | shared => simp [BankedFile.read, registerRow, kind]
  | fiqOnly =>
      by_cases leaving : oldbank = .fiqbank
      · have entering : newbank ≠ .fiqbank := fun same => different (leaving.trans same.symm)
        simp [BankedFile.read, registerRow, kind, leaving, entering]
      · by_cases entering : newbank = .fiqbank
        · simp [BankedFile.read, registerRow, kind, leaving, entering]
        · simp [BankedFile.read, registerRow, kind, leaving, entering]
  | banked => simp [BankedFile.read, registerRow, kind, different.symm]

theorem saveBank_kept (file : Registers) {oldbank newbank : Bank}
    (oldReal : oldbank ≠ .dummybank) (different : oldbank ≠ newbank) {number : RegNum}
    (own : regClass number ≠ .shared) :
    saveBank file oldbank newbank (registerRow newbank number) number =
      file.regBank (registerRow newbank number) number := by
  rw [saveBank_apply _ oldReal]
  cases kind : regClass number with
  | shared => exact absurd kind own
  | fiqOnly =>
      by_cases leaving : oldbank = .fiqbank
      · have entering : newbank ≠ .fiqbank := fun same => different (leaving.trans same.symm)
        simp [registerRow, kind, leaving, entering]
      · by_cases entering : newbank = .fiqbank
        · simp [registerRow, kind, leaving, entering]
        · simp [registerRow, kind, leaving, entering]
  | banked => simp [registerRow, kind, different.symm]

theorem read_switchBank (file : Registers) {oldbank newbank : Bank}
    (oldReal : oldbank ≠ .dummybank) (newReal : newbank ≠ .dummybank)
    (different : oldbank ≠ newbank) (bank : Bank) (number : RegNum) :
    BankedFile.read registerRow
        (restoreBank file.reg (saveBank file oldbank newbank) oldbank newbank)
        (saveBank file oldbank newbank) newbank bank number =
      BankedFile.read registerRow file.reg file.regBank oldbank bank number := by
  apply BankedFile.read_switch
  · exact restoreBank_read file oldReal newReal different number
  · intro notShared
    rw [saveBank_apply _ oldReal]
    cases kind : regClass number with
    | shared => simp [registerRow, kind] at notShared
    | fiqOnly =>
        simp only [registerRow, kind] at notShared
        by_cases leaving : oldbank = .fiqbank
        · have entering : newbank ≠ .fiqbank := fun same => different (leaving.trans same.symm)
          have own : bank = .fiqbank := by
            by_contra other
            simp [entering, other] at notShared
          simp [BankedFile.read, registerRow, kind, leaving, own]
        · by_cases entering : newbank = .fiqbank
          · have own : bank ≠ .fiqbank := by
              intro same
              simp [entering, same] at notShared
            simp [BankedFile.read, registerRow, kind, leaving, entering, own]
          · have own : bank = .fiqbank := by
              by_contra other
              simp [entering, other] at notShared
            simp [BankedFile.read, registerRow, kind, leaving, entering, own]
    | banked => simp [BankedFile.read, registerRow, kind]

@[simp] theorem armulSwitchMode_bank (file : Registers) (oldmode newmode : ModeNum) :
    (armulSwitchMode file oldmode newmode).bank = modeToBank newmode := by
  simp only [armulSwitchMode]
  split <;> rfl

theorem bankedReg_armulSwitchMode (file : Registers) {oldmode newmode : ModeNum}
    (live : file.bank = modeToBank oldmode) (oldReal : modeToBank oldmode ≠ .dummybank)
    (newReal : modeToBank newmode ≠ .dummybank) (bank : Bank) (number : RegNum) :
    bankedReg (armulSwitchMode file oldmode newmode) bank number = bankedReg file bank number := by
  rw [bankedReg, armulSwitchMode_bank, bankedReg, live]
  simp only [armulSwitchMode]
  by_cases same : modeToBank oldmode = modeToBank newmode
  · simp only [same, if_true]
  · simp only [same, if_false]
    exact read_switchBank file oldReal newReal same bank number

theorem bankedReg_set (file : Registers) (written : RegNum) (value : ARMword) (bank : Bank)
    (number : RegNum) :
    bankedReg (file.set written value) bank number =
      if number = written ∧ registerRow bank number = registerRow file.bank number then value
      else bankedReg file bank number := by
  exact BankedFile.read_update written value

theorem setReg_reg_of_ne {state : ARMulState Mem} {written number : RegNum} {value : ARMword}
    (other : number ≠ written) : (state.setReg written value).reg number = state.reg number := by
  exact Function.update_of_ne other _ _

end SkyeyeStarlet
