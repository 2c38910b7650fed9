import SkyeyeStarlet.BlockAbort

/-!
The block transfers that do not abort precisely.  `abortProbe` is a processor
whose memory holds one word everywhere but for a page that is not mapped; the base
is such that word `count` of the transfer is the first of that page.  Each transfer
outside `restartable` goes wrong on it.
-/

namespace SkyeyeStarlet

variable {Mem : Type}

def probeWord : ARMword := 0x7e571235#32

def probeAddress : ARMword := 0x8000#32

def probePage : ARMword := 0x10000#32

def holedMemory : FlatMemory :=
  { words := fun _ => probeWord
    unmapped := fun page => page == probePage
    readOnly := fun _ => false }

def probeStart (count : Nat) : ARMword :=
  probePage - BitVec.ofNat 32 (4 * count)

def probeBase (instr : ARMword) (count : Nat) : ARMword :=
  probeStart count - blockStart instr 0#32

def abortProbe (mode : ModeNum) (late : Bool) (instr : ARMword) (count : Nat) :
    ARMulState FlatMemory :=
  let core := coreAt mode false probeAddress holedMemory
  { core with
    file :=
      { core.file.set (lhsReg instr) (probeBase instr count) with
        regBank := fun bank _ => if bank = .userbank then 1#32 else 0#32 }
    lateabtSig := late }

theorem blockStart_probeBase (instr : ARMword) (count : Nat) :
    blockStart instr (probeBase instr count) = probeStart count := by
  unfold probeBase blockStart
  cases instr.getLsbD 24 <;> cases instr.getLsbD 23 <;> simp only <;> bv_omega

theorem probeStart_succ {count : Nat} (bound : count < 16) :
    pageOf (probeStart (count + 1)) ≠ probePage ∧
      probeStart (count + 1) + 4#32 = probeStart count := by
  revert count
  decide

theorem flatBus_read_word {mem : FlatMemory} {address : ARMword}
    (mapped : mem.unmapped (pageOf address) = false) (mode : ModeNum) :
    flatBus.read .word mode address mem =
      { mem, fault := .noFault, data := mem.words (address &&& ~~~3#32) } := by
  have whole (word : ARMword) : (word >>> 0) &&& 0xffffffff#32 = word := by
    rw [BitVec.ushiftRight_zero]
    exact BitVec.and_allOnes
  simp only [flatBus, flatRead, mapped, Bool.false_eq_true, if_false, laneShift, laneMask, whole]

theorem flatBus_write_word {mem : FlatMemory} {address : ARMword}
    (mapped : mem.unmapped (pageOf address) = false)
    (writable : mem.readOnly (pageOf address) = false) (mode : ModeNum) (data : ARMword) :
    ∃ words, flatBus.write .word mode address data mem =
      { mem := { mem with words }, fault := .noFault } := by
  simp only [flatBus, flatWrite, mapped, writable, Bool.false_eq_true, if_false]
  exact ⟨_, rfl⟩

theorem readBlock_hole (mode : ModeNum) {count total : Nat} (bound : count ≤ 16)
    (inside : count < total) :
    let run := readBlock flatBus mode total (probeStart count) holedMemory
    run.failed = true ∧ run.words.length = count ∧ ∀ word ∈ run.words, word = probeWord := by
  induction count generalizing total with
  | zero =>
      cases total with
      | zero => omega
      | succ rest =>
          have unmapped : holedMemory.unmapped (pageOf (probeStart 0)) = true := rfl
          simp [readBlock, flatBus, flatRead, unmapped]
  | succ count ih =>
      cases total with
      | zero => omega
      | succ rest =>
          obtain ⟨different, next⟩ := probeStart_succ (show count < 16 by omega)
          obtain ⟨failed, length, words⟩ := ih (by omega) (show count < rest by omega)
          have mapped : holedMemory.unmapped (pageOf (probeStart (count + 1))) = false := by
            simpa [holedMemory] using different
          simp only [readBlock, flatBus_read_word mapped, if_true, List.length_cons, next, length,
            List.forall_mem_cons]
          exact ⟨failed, trivial, rfl, words⟩

theorem writeBlock_hole (mode : ModeNum) {count : Nat} (bound : count ≤ 16)
    {words : List ARMword} (inside : count < words.length) {mem : FlatMemory}
    (hole : mem.unmapped = holedMemory.unmapped) (writable : mem.readOnly = holedMemory.readOnly) :
    let run := writeBlock flatBus mode words (probeStart count) mem
    run.failed = true ∧ run.count = count := by
  induction count generalizing words mem with
  | zero =>
      cases words with
      | nil => simp at inside
      | cons word rest =>
          have unmapped : mem.unmapped (pageOf (probeStart 0)) = true := by
            rw [hole]
            rfl
          simp [writeBlock, flatBus, flatWrite, unmapped]
  | succ count ih =>
      cases words with
      | nil => simp at inside
      | cons word rest =>
          obtain ⟨different, next⟩ := probeStart_succ (show count < 16 by omega)
          have mapped : mem.unmapped (pageOf (probeStart (count + 1))) = false := by
            rw [hole]
            simpa [holedMemory] using different
          have open_ : mem.readOnly (pageOf (probeStart (count + 1))) = false := by
            rw [writable]
            rfl
          obtain ⟨updated, written⟩ := flatBus_write_word mapped open_ mode word
          obtain ⟨failed, counted⟩ := ih (by omega)
            (show count < rest.length by simpa using inside)
            (show ({ mem with words := updated } : FlatMemory).unmapped = _ from hole) writable
          simp only [writeBlock, written, if_true, next, counted]
          exact ⟨failed, trivial⟩

theorem listedRegs_length_le (instr : ARMword) : (listedRegs instr).length ≤ 16 := by
  have all := List.length_filter_le (fun index => instr.getLsbD index) (List.range 16)
  rw [List.length_range] at all
  exact all

theorem lsmNumRegs_le (instr : ARMword) : (lsmNumRegs instr).toNat ≤ 64 := by
  have few := listedRegs_length_le instr
  show (BitVec.ofNat 32 (4 * (listedRegs instr).length)).toNat ≤ 64
  rw [BitVec.toNat_ofNat]
  omega

theorem near_sub_add {word amount : ARMword} (few : amount.toNat ≤ 64) {margin : Nat}
    (small : margin ≤ 0x80)
    (near : 0x10000 - margin ≤ word.toNat ∧ word.toNat ≤ 0x10000 + margin) :
    (0x10000 - margin - 64 ≤ (word - amount).toNat ∧
        (word - amount).toNat ≤ 0x10000 + margin) ∧
      0x10000 - margin ≤ (word + amount).toNat ∧
        (word + amount).toNat ≤ 0x10000 + margin + 64 := by
  rw [BitVec.toNat_sub, BitVec.toNat_add]
  omega

theorem probeBase_near (instr : ARMword) {count : Nat} (bound : count ≤ 16) {value : ARMword}
    (far : value.toNat < 0xff00 ∨ 0x10100 < value.toNat) :
    value ≠ probeBase instr count ∧
      (instr.getLsbD 21 = true → value ≠ blockBase instr (probeBase instr count)) := by
  have amount := lsmNumRegs_le instr
  have start : (probeStart count).toNat = 0x10000 - 4 * count := by
    rw [probeStart, probePage, BitVec.toNat_sub, BitVec.toNat_ofNat, BitVec.toNat_ofNat]
    omega
  have base : 0xff80 ≤ (probeBase instr count).toNat ∧ (probeBase instr count).toNat ≤ 0x10080 := by
    rw [probeBase, blockStart]
    generalize lsmNumRegs instr = total at amount
    generalize probeStart count = first at start
    cases instr.getLsbD 24 <;> cases instr.getLsbD 23
    · change 0xff80 ≤ (first - (0#32 - total + 4#32)).toNat ∧
        (first - (0#32 - total + 4#32)).toNat ≤ 0x10080
      rw [BitVec.toNat_sub, BitVec.toNat_add, BitVec.toNat_sub, BitVec.toNat_ofNat,
        BitVec.toNat_ofNat]
      omega
    · change 0xff80 ≤ (first - 0#32).toNat ∧ (first - 0#32).toNat ≤ 0x10080
      rw [BitVec.sub_zero]
      omega
    · change 0xff80 ≤ (first - (0#32 - total)).toNat ∧ (first - (0#32 - total)).toNat ≤ 0x10080
      rw [BitVec.toNat_sub, BitVec.toNat_sub, BitVec.toNat_ofNat]
      omega
    · change 0xff80 ≤ (first - (0#32 + 4#32)).toNat ∧ (first - (0#32 + 4#32)).toNat ≤ 0x10080
      rw [BitVec.toNat_sub, BitVec.toNat_add, BitVec.toNat_ofNat, BitVec.toNat_ofNat]
      omega
  constructor
  · intro same
    rw [same] at far
    omega
  · intro writeback same
    have near := near_sub_add amount (show 0x80 ≤ 0x80 by omega) base
    rw [same, blockBase, if_pos writeback] at far
    split at far
    · omega
    · omega

section Probe

variable {mode : ModeNum} {late : Bool} {instr : ARMword} {count : Nat}

theorem abortProbe_coherent (valid : validMode mode = true) :
    Coherent32 (abortProbe mode late instr count) := by
  exact ⟨rfl, valid, rfl⟩

theorem abortProbe_mode : (abortProbe mode late instr count).mode = mode := by
  rfl

theorem abortProbe_late : (abortProbe mode late instr count).lateabtSig = late := by
  rfl

theorem abortProbe_base :
    (abortProbe mode late instr count).reg (lhsReg instr) = probeBase instr count := by
  exact Function.update_self _ _ _

theorem abortProbe_pc (basePc : lhsReg instr ≠ 15#4) :
    (abortProbe mode late instr count).reg 15#4 = probeAddress + 8#32 := by
  exact Function.update_of_ne (Ne.symm basePc) _ _

theorem abortProbe_reg {number : RegNum} (notPc : number ≠ 15#4) (notBase : number ≠ lhsReg instr) :
    (abortProbe mode late instr count).reg number = 0#32 := by
  exact (Function.update_of_ne notBase _ _).trans
    (Function.update_of_ne notPc _ (fun _ => 0#32))

theorem abortProbe_faults (inside : count < (listedRegs instr).length) :
    FaultsAt flatBus (abortProbe mode late instr count) instr count := by
  have few := listedRegs_length_le instr
  simp only [FaultsAt, abortProbe_base, blockStart_probeBase]
  split
  · have run := readBlock_hole mode (show count ≤ 16 by omega) inside
    exact ⟨run.1, run.2.1⟩
  · exact writeBlock_hole mode (by omega) (by simpa using inside) rfl rfl

theorem probe_base_ne {final : ARMulState FlatMemory} {pc : ARMword} (bound : count ≤ 16)
    (precise : PreciseBlockAbort flatBus (abortProbe mode late instr count) final instr pc count)
    (value : ARMword) (far : value.toNat < 0xff00 ∨ 0x10100 < value.toNat) :
    bankedReg final.file (modeToBank mode) (lhsReg instr) ≠ value := by
  intro same
  obtain ⟨notBase, notWritten⟩ := probeBase_near instr bound far
  have base := precise.base
  simp only [abortProbe_base] at base
  rw [abortProbe_mode, same] at base
  obtain kept | ⟨writeback, _, written⟩ := base
  · exact notBase kept
  · exact notWritten writeback written

theorem link_base_imprecise (bound : count ≤ 16) {final : ARMulState FlatMemory}
    (link : lhsReg instr = 14#4) :
    ¬PreciseBlockAbort flatBus (abortProbe abort32mode late instr count) final instr probeAddress
      count := by
  intro precise
  refine probe_base_ne bound precise 0x8008#32 (by decide) ?_
  rw [link, show modeToBank abort32mode = final.file.bank from precise.entered.bank.symm,
    bankedReg_current]
  exact precise.entered.link

theorem probe_base_loaded (loaded : baseLoaded instr count = true) {words : List ARMword}
    (length : words.length = count) (constant : ∀ word ∈ words, word = probeWord) :
    bankedReg (setListed (abortProbe mode late instr count).file (listedRegs instr) words)
      (modeToBank mode) (lhsReg instr) = probeWord := by
  apply bankedReg_setListed_const (fun _ => mem_listedRegs_lt) constant
  · rw [length]
    simpa [baseLoaded] using loaded
  · rfl

theorem loadMult_imprecise (valid : validMode mode = true) (basePc : lhsReg instr ≠ 15#4)
    (inside : count < (listedRegs instr).length)
    (baseLink : ¬(mode = abort32mode ∧ lhsReg instr = 14#4))
    (load : instr.getLsbD 20 = true) (plain : instr.getLsbD 22 = false)
    (loaded : baseLoaded instr count = true) :
    ¬PreciseBlockAbort flatBus (abortProbe mode late instr count)
      (blockTransfer flatBus (abortProbe mode late instr count) instr) instr probeAddress count := by
  have few := listedRegs_length_le instr
  have nonempty := List.ne_nil_of_length_pos (Nat.zero_lt_of_lt inside)
  obtain ⟨failed, length, constant⟩ :=
    readBlock_hole mode (show count ≤ 16 by omega) inside
  obtain ⟨faulted, reaches, final⟩ := loadMult_faulted
    (show (abortProbe mode late instr count).isV4 = true from rfl) rfl nonempty
    (blockBase instr (probeBase instr count)) failed
  have coherent := reaches.coherent (abortProbe_coherent valid) (setListed_bank _ _ _)
  intro precise
  refine probe_base_ne (by omega) precise probeWord (by decide) ?_
  simp only [blockTransfer, plain, load, abortProbe_base, blockStart_probeBase, final]
  rw [bankedReg_takeAbort flatBus coherent _ basePc, reaches.file]
  · exact probe_base_loaded loaded length constant
  · rw [bank_abort_iff valid]
    exact baseLink

end Probe

theorem saveBank_banked (file : Registers) {oldbank : Bank} (oldReal : oldbank ≠ .dummybank)
    (newbank row : Bank) {number : RegNum} (banked : regClass number = .banked) :
    saveBank file oldbank newbank row number =
      if row = oldbank then file.reg number else file.regBank row number := by
  rw [saveBank_apply file oldReal, banked]

theorem bankedReg_row {file : Registers} {bank : Bank} {number : RegNum}
    (banked : regClass number = .banked) (other : file.bank ≠ bank) :
    bankedReg file bank number = file.regBank bank number := by
  simp [bankedReg, BankedFile.read, registerRow_banked banked, Ne.symm other]

theorem enterAbort_saves_live {file : Registers} {mode : ModeNum} (valid : validMode mode = true)
    (notAbort : mode ≠ abort32mode) {number : RegNum} (banked : regClass number = .banked) :
    (enterFile file mode abort32mode).regBank (modeToBank mode) number = file.reg number := by
  have different : ¬modeToBank mode = modeToBank abort32mode :=
    fun same => notAbort ((bank_abort_iff valid).mp same)
  rw [enterFile, if_neg notAbort]
  simp only [armulSwitchMode, different, if_false]
  rw [saveBank_banked file (validMode_real valid) _ _ banked, if_pos rfl]

theorem enterAbort_keeps_store {file : Registers} {mode : ModeNum} (valid : validMode mode = true)
    {number : RegNum} (banked : regClass number = .banked) :
    (enterFile file mode abort32mode).regBank .abortbank number =
      file.regBank .abortbank number := by
  by_cases inAbort : mode = abort32mode
  · rw [enterFile, if_pos inAbort]
  · have different : ¬modeToBank mode = modeToBank abort32mode :=
      fun same => inAbort ((bank_abort_iff valid).mp same)
    rw [enterFile, if_neg inAbort]
    simp only [armulSwitchMode, different, if_false]
    rw [saveBank_banked file (validMode_real valid) _ _ banked]
    exact if_neg (Ne.symm different)

theorem takeAbort_store (bus : Bus Mem) {faulted : ARMulState Mem}
    (prog32 : faulted.prog32Sig = true) (valid : validMode faulted.mode = true) :
    (takeAbort bus faulted).file.regBank =
        (enterFile faulted.file faulted.mode abort32mode).regBank ∧
      (takeAbort bus faulted).file.bank = (enterFile faulted.file faulted.mode abort32mode).bank ∧
      (takeAbort bus faulted).mode = abort32mode := by
  rw [takeAbort, armulAbort_eq bus.highVectors prog32 valid rfl]
  exact ⟨rfl, rfl, rfl⟩

theorem ownFile_abort_link (file : Registers) :
    (ownFile file abort32mode).reg 14#4 = file.regBank .abortbank 14#4 := by
  show restoreBank file.reg (saveBank file .userbank .abortbank) .userbank .abortbank 14#4 = _
  rw [restoreBank_apply _ _ (by decide), show regClass 14#4 = .banked from rfl]
  exact saveBank_banked file (by decide) _ _ rfl

section Probe

variable {mode : ModeNum} {late : Bool} {instr : ARMword} {count : Nat}

theorem abortProbe_user {number : RegNum} (banked : regClass number = .banked)
    (valid : validMode mode = true) (notUser : modeToBank mode ≠ .userbank) :
    (userFile (abortProbe mode late instr count)).reg number = 1#32 := by
  rw [← bankedReg_current, userFile_bank, bankedReg_userFile (abortProbe_coherent valid),
    bankedReg_row banked notUser]
  rfl

theorem storeSMult_imprecise (valid : validMode mode = true) (basePc : lhsReg instr ≠ 15#4)
    (inside : count < (listedRegs instr).length) (store : instr.getLsbD 20 = false)
    (sForm : instr.getLsbD 22 = true) (notUser : modeToBank mode ≠ .userbank) :
    ¬PreciseBlockAbort flatBus (abortProbe mode late instr count)
      (blockTransfer flatBus (abortProbe mode late instr count) instr) instr probeAddress count := by
  have few := listedRegs_length_le instr
  have nonempty := List.ne_nil_of_length_pos (Nat.zero_lt_of_lt inside)
  let words := (listedRegs instr).map (rawReg (userFile (abortProbe mode late instr count)))
  have run := writeBlock_hole mode (show count ≤ 16 by omega)
    (show count < words.length by simpa [words] using inside)
    (show (abortProbe mode late instr count).mem.unmapped = _ from rfl) rfl
  obtain ⟨faulted, reaches, final⟩ := storeSMult_faulted
    (show (abortProbe mode late instr count).isV4 = true from rfl) rfl nonempty basePc
    (blockBase instr (probeBase instr count)) run.1
  obtain ⟨rows, live, -⟩ := takeAbort_store flatBus (reaches.prog32.trans rfl)
    (show validMode faulted.mode = true by rw [reaches.mode]; exact valid)
  rw [reaches.mode, abortProbe_mode, reaches.file] at rows live
  intro precise
  simp only [blockTransfer, sForm, store, abortProbe_base, blockStart_probeBase, final] at precise
  have bank := precise.entered.bank
  by_cases inAbort : mode = abort32mode
  · -- No switch is made, and the user bank stays live in abort mode.
    rw [live, enterFile, if_pos inAbort, lateFile_bank, userFile_bank] at bank
    cases bank
  · -- The user stack pointer or link register replaces that of the mode.
    obtain ⟨number, banked, notBase⟩ : ∃ number, regClass number = .banked ∧
        number ≠ lhsReg instr := by
      by_cases link : lhsReg instr = 14#4
      · exact ⟨13#4, rfl, by rw [link]; decide⟩
      · exact ⟨14#4, rfl, Ne.symm link⟩
    have notPc : number ≠ 15#4 := by
      rintro rfl
      cases banked
    have other : .abortbank ≠ modeToBank mode :=
      fun same => inAbort ((bank_abort_iff valid).mp same.symm)
    have kept := precise.registers (modeToBank mode) number notPc (fun both => other both.1.symm)
      (fun loaded => Bool.false_ne_true (store.symm.trans loaded.1))
      (fun base => notBase base.1)
    rw [bankedReg_row banked (by rw [bank]; exact other), rows,
      enterAbort_saves_live valid inAbort banked] at kept
    rw [lateFile_reg notBase, abortProbe_user banked valid notUser,
      show bankedReg (abortProbe mode late instr count).file (modeToBank mode) number = _ from
        base_current (abortProbe_coherent valid) number, abortProbe_reg notPc notBase] at kept
    exact absurd kept (by decide)

/-- Without register 15 in the list, the switch back to the mode's bank after the abort
brings in the abort bank a second time, without the link register. -/
theorem loadSMult_user_imprecise (valid : validMode mode = true) (basePc : lhsReg instr ≠ 15#4)
    (inside : count < (listedRegs instr).length) (load : instr.getLsbD 20 = true)
    (sForm : instr.getLsbD 22 = true) (noPc : instr.getLsbD 15 = false)
    (baseLink : ¬(mode = abort32mode ∧ lhsReg instr = 14#4)) :
    ¬PreciseBlockAbort flatBus (abortProbe mode late instr count)
      (blockTransfer flatBus (abortProbe mode late instr count) instr) instr probeAddress count := by
  have few := listedRegs_length_le instr
  have nonempty := List.ne_nil_of_length_pos (Nat.zero_lt_of_lt inside)
  have run := readBlock_hole mode (show count ≤ 16 by omega) inside
  obtain ⟨faulted, reaches, final⟩ := loadSMult_faulted
    (show (abortProbe mode late instr count).prog32Sig = true from rfl) valid rfl rfl nonempty basePc
    (blockBase instr (probeBase instr count)) run.1
  rw [loadedFile, noPc, if_neg Bool.false_ne_true] at reaches
  rw [noPc, if_neg Bool.false_ne_true, toOwnBank_eq] at final
  obtain ⟨rows, -, entered⟩ := takeAbort_store flatBus (reaches.prog32.trans rfl)
    (show validMode faulted.mode = true by rw [reaches.mode]; exact valid)
  have userRow : ¬registerRow .abortbank 14#4 = registerRow .userbank 14#4 := by
    decide
  have stale : (takeAbort flatBus faulted).file.regBank .abortbank 14#4 =
      bankedReg (abortProbe mode late instr count).file .abortbank 14#4 := by
    rw [rows, enterAbort_keeps_store (by rw [reaches.mode]; exact valid) rfl, reaches.file,
      ← bankedReg_row rfl (by rw [lateFile_bank, setListed_bank, userFile_bank]; decide),
      bankedReg_lateFile, setListed_bank, userFile_bank, if_neg (fun both => userRow both.2.2),
      bankedReg_setListed (fun _ => mem_listedRegs_lt), bankedReg_userFile (abortProbe_coherent valid)]
    rw [userFile_bank]
    exact fun both => userRow both.2
  have zero : bankedReg (abortProbe mode late instr count).file .abortbank 14#4 = 0#32 := by
    by_cases inAbort : modeToBank mode = .abortbank
    · have notBase : 14#4 ≠ lhsReg instr :=
        fun link => baseLink ⟨(bank_abort_iff valid).mp inAbort, link.symm⟩
      rw [← inAbort]
      exact (base_current (abortProbe_coherent valid) 14#4).trans (abortProbe_reg (by decide) notBase)
    · rw [bankedReg_row rfl (show _ ≠ _ from inAbort)]
      rfl
  intro precise
  have link := precise.entered.link
  simp only [blockTransfer, sForm, load, abortProbe_base, blockStart_probeBase, final] at link
  have loaded : (ownFile (takeAbort flatBus faulted).file (takeAbort flatBus faulted).mode).reg 14#4 =
      probeAddress + 8#32 := link
  rw [entered, ownFile_abort_link, stale, zero] at loaded
  exact absurd loaded (by decide)

theorem loadSMult_pc_imprecise (valid : validMode mode = true) (basePc : lhsReg instr ≠ 15#4)
    (inside : count < (listedRegs instr).length) (load : instr.getLsbD 20 = true)
    (sForm : instr.getLsbD 22 = true) (listsPc : instr.getLsbD 15 = true)
    (baseLink : ¬(mode = abort32mode ∧ lhsReg instr = 14#4))
    (wrong : mode = abort32mode →
      baseLoaded instr count = true ∧ (instr.getLsbD 21 && late) = false) :
    ¬PreciseBlockAbort flatBus (abortProbe mode late instr count)
      (blockTransfer flatBus (abortProbe mode late instr count) instr) instr probeAddress count := by
  have few := listedRegs_length_le instr
  have nonempty := List.ne_nil_of_length_pos (Nat.zero_lt_of_lt inside)
  obtain ⟨failed, length, constant⟩ :=
    readBlock_hole mode (show count ≤ 16 by omega) inside
  obtain ⟨faulted, reaches, final⟩ := loadSMult_faulted
    (show (abortProbe mode late instr count).prog32Sig = true from rfl) valid rfl rfl nonempty basePc
    (blockBase instr (probeBase instr count)) failed
  rw [loadedFile, if_pos listsPc] at reaches
  rw [if_pos listsPc] at final
  have own : loadedBank mode instr = modeToBank mode := by
    rw [loadedBank, listsPc, Bool.not_true, Bool.and_false]
    rfl
  have probe32 : Coherent32 (abortProbe mode late instr count) := abortProbe_coherent valid
  have faulted32 := reaches.coherent probe32
    ((lateFile_bank _ _ _ _).trans (setListed_bank _ _ _))
  have kept := keptFile_setListed probe32 load own (lt_of_eq_of_lt length inside)
  have pcKept : faulted.reg 15#4 = probeAddress + 2#32 * insnSize faulted := by
    rw [insnSize, ARMulState.tFlag, reaches.flags, ARMulState.reg, reaches.file,
      lateFile_reg (Ne.symm basePc)]
    exact kept.pc.trans (abortProbe_pc basePc)
  have handler : AbortEntered flatBus.highVectors (abortProbe mode late instr count)
      (takeAbort flatBus faulted) probeAddress :=
    abortEntered_of_kept faulted32 reaches.flags reaches.mode reaches.spsr pcKept
  have entered32 : (takeAbort flatBus faulted).prog32Sig = true :=
    (armulAbort_coherent _ faulted32 rfl).prog32
  have returned := returnFromList_eq probe32.valid entered32 handler
  intro precise
  simp only [blockTransfer, sForm, load, abortProbe_base, blockStart_probeBase, final] at precise
  by_cases inAbort : mode = abort32mode
  · subst inAbort
    obtain ⟨loaded, unwritten⟩ := wrong rfl
    have notLink : ¬(modeToBank abort32mode = .abortbank ∧ lhsReg instr = 14#4) :=
      fun both => baseLink ⟨rfl, both.2⟩
    refine probe_base_ne (by omega) precise probeWord (by decide) ?_
    rw [returned, bankedReg_set, if_neg (fun both => basePc both.1), abortProbe_mode, enterFile,
      if_pos rfl, bankedReg_takeAbort flatBus faulted32 _ basePc notLink, reaches.file,
      bankedReg_lateFile, abortProbe_late,
      if_neg (fun both => Bool.false_ne_true (unwritten.symm.trans both.1))]
    exact probe_base_loaded loaded length constant
  · have enters := precise.entered.mode
    rw [returned] at enters
    exact inAbort enters

theorem restartable_of_precise (valid : validMode mode = true) (basePc : lhsReg instr ≠ 15#4)
    (inside : count < (listedRegs instr).length)
    (precise : PreciseBlockAbort flatBus (abortProbe mode late instr count)
      (blockTransfer flatBus (abortProbe mode late instr count) instr) instr probeAddress count) :
    restartable mode late instr count = true := by
  have few := listedRegs_length_le instr
  have baseLink : ¬(mode = abort32mode ∧ lhsReg instr = 14#4) := by
    rintro ⟨rfl, link⟩
    exact link_base_imprecise (by omega) link precise
  have linkBit : (!(mode == abort32mode && lhsReg instr == 14#4)) = true := by
    simpa [imp_iff_not_or] using baseLink
  rw [restartable, linkBit, Bool.true_and]
  cases load : instr.getLsbD 20 with
  | false =>
      cases sForm : instr.getLsbD 22 with
      | false => rfl
      | true =>
          by_contra notUser
          exact storeSMult_imprecise valid basePc inside load sForm (by simpa using notUser) precise
  | true =>
      cases sForm : instr.getLsbD 22 with
      | false =>
          by_contra notKept
          exact loadMult_imprecise valid basePc inside baseLink load sForm (by simpa using notKept)
            precise
      | true =>
          cases listsPc : instr.getLsbD 15 with
          | false =>
              exact absurd precise
                (loadSMult_user_imprecise valid basePc inside load sForm listsPc baseLink)
          | true =>
              by_contra wrong
              refine loadSMult_pc_imprecise valid basePc inside load sForm listsPc baseLink ?_ precise
              rintro rfl
              simpa [listsPc, imp_iff_or_not] using wrong

end Probe

/-- A data abort at word `count` of a block transfer is precise, whatever the state, exactly for
the instructions that `restartable` names. -/
theorem block_abort_precise_iff (mode : ModeNum) (valid : validMode mode = true) (late : Bool)
    (instr : ARMword) (basePc : lhsReg instr ≠ 15#4) (count : Nat)
    (inside : count < (listedRegs instr).length) :
    BlockAbortsPrecisely mode late instr count ↔ restartable mode late instr count = true := by
  constructor
  · intro precise
    exact restartable_of_precise valid basePc inside
      (precise FlatMemory flatBus (abortProbe mode late instr count) probeAddress
        (abortProbe_coherent valid) rfl rfl rfl rfl (abortProbe_pc basePc) (abortProbe_faults inside))
  · intro can
    exact blockAborts_of_restartable (List.ne_nil_of_length_pos (Nat.zero_lt_of_lt inside)) basePc can

/-- `stmdb sp!, {r4, lr}` in user mode, with the second store faulting. -/
theorem block_abort_precise_push :
    BlockAbortsPrecisely user32mode true 0xe92d4010#32 1 := by
  exact (block_abort_precise_iff user32mode rfl true 0xe92d4010#32 (by decide) 1 (by decide)).mpr
    (by decide)

/-- `ldmia r0, {sp, lr}^` in supervisor mode, with the first load faulting: the link
register of the handler is not set. -/
theorem block_abort_imprecise_ldm :
    let state := abortProbe svc32mode true 0xe8d06000#32 0
    FaultsAt flatBus state 0xe8d06000#32 0 ∧ state.reg 15#4 = 0x8008#32 ∧
      (blockTransfer flatBus state 0xe8d06000#32).mode = abort32mode ∧
      (blockTransfer flatBus state 0xe8d06000#32).reg 14#4 = 0#32 ∧
      ¬BlockAbortsPrecisely svc32mode true 0xe8d06000#32 0 := by
  intro state
  have faults : FaultsAt flatBus state 0xe8d06000#32 0 := abortProbe_faults (by decide)
  have link : (blockTransfer flatBus state 0xe8d06000#32).reg 14#4 = 0#32 := by
    decide +kernel
  refine ⟨faults, by decide, by decide +kernel, link, ?_⟩
  intro precise
  have handler := (precise FlatMemory flatBus state probeAddress (abortProbe_coherent (by decide)) rfl
    rfl rfl rfl rfl faults).entered
  rw [handler.link] at link
  exact absurd link (by decide)

end SkyeyeStarlet
