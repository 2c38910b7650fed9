import SkyeyeStarlet.BlockCore
import SkyeyeStarlet.Exceptions

/-!
Block transfers as one read or write of consecutive words.  `readBlock` and
`writeBlock` stop at the first word that faults; the transfer loops of the source
are shown to move exactly these words, in the order of the register list.
-/

namespace SkyeyeStarlet

variable {Mem : Type}

def listedRegs (instr : ARMword) : List Nat :=
  (List.range 16).filter fun index => instr.getLsbD index

theorem filter_eq_cons_of_find {p : Nat → Bool} {list : List Nat} {first : Nat}
    (sorted : list.Pairwise (· < ·)) (found : list.find? p = some first) :
    list.filter p = first :: list.filter fun index => first < index && p index := by
  induction list with
  | nil => simp at found
  | cons head rest ih =>
      have later := (List.pairwise_cons.mp sorted).1
      have tail := (List.pairwise_cons.mp sorted).2
      cases hit : p head with
      | true =>
          simp only [List.find?_cons, hit, Option.some.injEq] at found
          subst found
          have same : rest.filter p = rest.filter fun index => head < index && p index := by
            apply List.filter_congr
            intro index member
            simp [later index member]
          simp [hit, same]
      | false =>
          simp only [List.find?_cons, hit] at found
          simp [hit, ih tail found]

theorem listed_cons {instr : ARMword} (nonempty : listedRegs instr ≠ []) :
    firstListed instr :: laterListed instr = listedRegs instr := by
  obtain ⟨first, found⟩ : ∃ first, (List.range 16).find? (fun index => instr.getLsbD index) =
      some first := by
    apply Option.isSome_iff_exists.mp
    rw [List.find?_isSome]
    obtain ⟨index, member⟩ := List.exists_mem_of_ne_nil _ nonempty
    exact ⟨index, (List.mem_filter.mp member).1, (List.mem_filter.mp member).2⟩
  have firstEq : firstListed instr = first := by
    have split : List.range 32 = List.range 16 ++ (List.range 16).map (16 + ·) := by
      decide
    simp only [firstListed, split, List.find?_append, found, Option.some_or, Option.getD_some]
  rw [laterListed, firstEq, listedRegs]
  exact (filter_eq_cons_of_find List.pairwise_lt_range found).symm

theorem firstListed_first {instr : ARMword} {bit : Nat} (bound : bit < 32)
    (set : instr.getLsbD bit = true) :
    instr.getLsbD (firstListed instr) = true ∧
      ∀ earlier < firstListed instr, instr.getLsbD earlier = false := by
  cases found : (List.range 32).find? fun index => instr.getLsbD index with
  | none =>
      rw [List.find?_eq_none] at found
      exact absurd set (found bit (List.mem_range.mpr bound))
  | some index =>
      have first : firstListed instr = index := by
        rw [firstListed, found]
        rfl
      rw [first]
      refine ⟨List.find?_some found, ?_⟩
      intro earlier below
      rw [List.find?_range_eq_some] at found
      simpa using found.2.2 earlier below

theorem mem_listedRegs_lt {instr : ARMword} {index : Nat} (member : index ∈ listedRegs instr) :
    index < 16 := by
  exact List.mem_range.mp (List.mem_filter.mp member).1

structure BlockRead (Mem : Type) where
  words : List ARMword
  mem : Mem
  failed : Bool

def readBlock (bus : Bus Mem) (mode : ModeNum) : Nat → ARMword → Mem → BlockRead Mem
  | 0, _, mem => { words := [], mem, failed := false }
  | count + 1, address, mem =>
      let result := bus.read .word mode address mem
      if result.fault = .noFault then
        let rest := readBlock bus mode count (address + 4#32) result.mem
        { rest with words := result.data :: rest.words }
      else
        { words := [], mem := bus.recordFault result.fault address result.mem, failed := true }

structure BlockWrite (Mem : Type) where
  count : Nat
  mem : Mem
  failed : Bool

def writeBlock (bus : Bus Mem) (mode : ModeNum) : List ARMword → ARMword → Mem → BlockWrite Mem
  | [], _, mem => { count := 0, mem, failed := false }
  | word :: rest, address, mem =>
      let result := bus.write .word mode address word mem
      if result.fault = .noFault then
        let later := writeBlock bus mode rest (address + 4#32) result.mem
        { later with count := later.count + 1 }
      else
        { count := 0, mem := bus.recordFault result.fault address result.mem, failed := true }

def setListed (file : Registers) : List Nat → List ARMword → Registers
  | index :: rest, word :: words => setListed (setRawReg file index word) rest words
  | _, _ => file

def transferList (transfer : ARMulState Mem → Nat → ARMword → ARMulState Mem) :
    List Nat → ARMword → ARMulState Mem → ARMulState Mem
  | [], _, state => state
  | index :: rest, address, state =>
      let moved := transfer state index address
      if moved.aborted = 0#32 then transferList transfer rest (address + 4#32) moved else moved

theorem transferRest_eq (transfer : ARMulState Mem → Nat → ARMword → ARMulState Mem)
    (list : List Nat) (address : ARMword) (state : ARMulState Mem) :
    transferRest transfer list address state =
      transferList transfer list (address + 4#32) state := by
  induction list generalizing address state with
  | nil => rfl
  | cons index rest ih =>
      simp only [transferRest, transferList]
      split
      · exact ih _ _
      · rfl

theorem transferAll_eq {first transfer : ARMulState Mem → Nat → ARMword → ARMulState Mem}
    {instr : ARMword} (nonempty : listedRegs instr ≠ []) (address : ARMword)
    (state : ARMulState Mem)
    (alike : first state (firstListed instr) address = transfer state (firstListed instr) address) :
    transferAll first transfer instr address state =
      transferList transfer (listedRegs instr) address state := by
  rw [← listed_cons nonempty]
  simp only [transferAll, transferList, alike, transferRest_eq]

theorem loadListed_eq (bus : Bus Mem) (sticky : Bool) {state : ARMulState Mem}
    (clear : state.aborted = 0#32) (index : Nat) (address : ARMword) :
    loadListed bus sticky state index address =
      let result := bus.read .word state.mode address state.mem
      if result.fault = .noFault then
        { state with
          file := setRawReg state.file index result.data, mem := result.mem, abortSig := false }
      else dataAbort bus state result.mem result.fault address := by
  simp only [loadListed, armulRead]
  by_cases ok : (bus.read .word state.mode address state.mem).fault = .noFault
  · simp [ok, clear]
  · simp [ok, dataAbort]

theorem storeListed_eq (bus : Bus Mem) (state : ARMulState Mem) (index : Nat)
    (address : ARMword) :
    storeListed bus state index address =
      let result := bus.write .word state.mode address (rawReg state.file index) state.mem
      if result.fault = .noFault then { state with mem := result.mem, abortSig := false }
      else dataAbort bus state result.mem result.fault address := by
  simp only [storeListed, armulWrite]
  by_cases ok : (bus.write .word state.mode address (rawReg state.file index)
      state.mem).fault = .noFault
  · simp [ok]
  · simp [ok, dataAbort]

def abortCode (failed : Bool) : ARMword :=
  if failed then 16#32 else 0#32

theorem loadList_eq (bus : Bus Mem) (list : List Nat) (address : ARMword)
    (state : ARMulState Mem) (clear : state.aborted = 0#32) :
    transferList (loadListed bus true) list address state =
      let run := readBlock bus state.mode list.length address state.mem
      { state with
        file := setListed state.file list run.words
        mem := run.mem
        abortSig := if list.isEmpty then state.abortSig else run.failed
        aborted := abortCode run.failed } := by
  induction list generalizing address state with
  | nil =>
      simp only [transferList, readBlock, List.length_nil, setListed, List.isEmpty_nil, if_true,
        abortCode]
      rw [if_neg (by decide), ← clear]
  | cons index rest ih =>
      simp only [transferList, loadListed_eq bus true clear, List.length_cons, readBlock,
        List.isEmpty_cons, Bool.false_eq_true, if_false]
      by_cases ok : (bus.read .word state.mode address state.mem).fault = .noFault
      · simp only [ok, if_true, clear]
        rw [ih _ _ rfl]
        cases rest <;> rfl
      · simp only [ok, if_false, dataAbort]
        rfl

theorem storeList_eq (bus : Bus Mem) (list : List Nat) (address : ARMword)
    (state : ARMulState Mem) (clear : state.aborted = 0#32) :
    transferList (storeListed bus) list address state =
      let run := writeBlock bus state.mode (list.map (rawReg state.file)) address state.mem
      { state with
        mem := run.mem
        abortSig := if list.isEmpty then state.abortSig else run.failed
        aborted := abortCode run.failed } := by
  induction list generalizing address state with
  | nil =>
      simp only [transferList, writeBlock, List.map_nil, List.isEmpty_nil, if_true, abortCode]
      rw [if_neg (by decide), ← clear]
  | cons index rest ih =>
      simp only [transferList, storeListed_eq, List.map_cons, writeBlock,
        List.isEmpty_cons, Bool.false_eq_true, if_false]
      by_cases ok : (bus.write .word state.mode address (rawReg state.file index)
          state.mem).fault = .noFault
      · simp only [ok, if_true, clear]
        rw [ih _ _ rfl]
        cases rest <;> rfl
      · simp only [ok, if_false, dataAbort]
        rfl

theorem loadAll_eq (bus : Bus Mem) (sticky : Bool) {instr : ARMword}
    (nonempty : listedRegs instr ≠ []) (address : ARMword) (state : ARMulState Mem)
    (clear : state.aborted = 0#32) :
    transferAll (loadListed bus sticky) (loadListed bus true) instr address state =
      let run := readBlock bus state.mode (listedRegs instr).length address state.mem
      { state with
        file := setListed state.file (listedRegs instr) run.words
        mem := run.mem
        abortSig := run.failed
        aborted := abortCode run.failed } := by
  have alike : loadListed bus sticky state (firstListed instr) address =
      loadListed bus true state (firstListed instr) address := by
    rw [loadListed_eq bus sticky clear, loadListed_eq bus true clear]
  rw [transferAll_eq nonempty address state alike, loadList_eq bus _ address state clear]
  simp [nonempty]

theorem storeAll_eq (bus : Bus Mem) {instr : ARMword} (nonempty : listedRegs instr ≠ [])
    (address : ARMword) (state : ARMulState Mem) (clear : state.aborted = 0#32) :
    transferAll (storeListed bus) (storeListed bus) instr address state =
      let run := writeBlock bus state.mode ((listedRegs instr).map (rawReg state.file)) address
        state.mem
      { state with
        mem := run.mem
        abortSig := run.failed
        aborted := abortCode run.failed } := by
  rw [transferAll_eq nonempty address state rfl, storeList_eq bus _ address state clear]
  simp [nonempty]

theorem bususedincpcs_v4 {state : ARMulState Mem} (isV4 : state.isV4 = true) :
    bususedincpcs state = state := by
  rw [bususedincpcs, if_pos isV4]

theorem bususedincpcn_v4 {state : ARMulState Mem} (isV4 : state.isV4 = true) :
    bususedincpcn state = { state with nextInstr := state.nextInstr ||| 1#8 } := by
  rw [bususedincpcn, if_pos isV4]

theorem writeBack_none {instr : ARMword} (noWriteback : instr.getLsbD 21 = false)
    (wbBase : ARMword) (state : ARMulState Mem) : writeBack instr wbBase state = state := by
  rw [writeBack, noWriteback]
  rfl

theorem writeBack_aborted (instr wbBase : ARMword) (state : ARMulState Mem) :
    (writeBack instr wbBase state).aborted = state.aborted := by
  unfold writeBack
  split <;> rfl

theorem writeBackLate_none {instr : ARMword} (noWriteback : instr.getLsbD 21 = false)
    (wbBase : ARMword) (state : ARMulState Mem) : writeBackLate instr wbBase state = state := by
  unfold writeBackLate
  split
  · rfl
  · exact writeBack_none noWriteback wbBase state

def userFile (state : ARMulState Mem) : Registers :=
  if state.file.bank = .userbank then state.file
  else armulSwitchMode state.file state.mode user26mode

def ownFile (file : Registers) (mode : ModeNum) : Registers :=
  if inUserMode mode then file else armulSwitchMode file user26mode mode

theorem toUserBank_eq (state : ARMulState Mem) :
    toUserBank state = { state with file := userFile state } := by
  unfold toUserBank userFile
  by_cases user : state.file.bank = .userbank
  · simp [user]
  · simp [user]

theorem toOwnBank_eq (state : ARMulState Mem) :
    toOwnBank state = { state with file := ownFile state.file state.mode } := by
  unfold toOwnBank ownFile
  split <;> rfl

theorem userFile_bank (state : ARMulState Mem) : (userFile state).bank = .userbank := by
  unfold userFile
  split
  · assumption
  · exact armulSwitchMode_bank _ _ _

theorem bankedReg_userFile {state : ARMulState Mem} (coherent : Coherent32 state) (bank : Bank)
    (number : RegNum) :
    bankedReg (userFile state) bank number = bankedReg state.file bank number := by
  unfold userFile
  split
  · rfl
  · exact bankedReg_armulSwitchMode state.file coherent.live (validMode_real coherent.valid)
      (by decide) bank number

theorem ownFile_bank {file : Registers} (user : file.bank = .userbank) (mode : ModeNum) :
    (ownFile file mode).bank = modeToBank mode := by
  unfold ownFile
  split
  · rename_i userMode
    rw [user]
    revert mode
    decide
  · exact armulSwitchMode_bank _ _ _

theorem bankedReg_ownFile {file : Registers} (user : file.bank = .userbank) {mode : ModeNum}
    (valid : validMode mode = true) (bank : Bank) (number : RegNum) :
    bankedReg (ownFile file mode) bank number = bankedReg file bank number := by
  unfold ownFile
  split
  · rfl
  · exact bankedReg_armulSwitchMode file (show file.bank = modeToBank user26mode from user)
      (by decide) (validMode_real valid) bank number

theorem setRawReg_bank (file : Registers) (index : Nat) (value : ARMword) :
    (setRawReg file index value).bank = file.bank := by
  unfold setRawReg
  split <;> rfl

theorem setListed_bank (file : Registers) (list : List Nat) (words : List ARMword) :
    (setListed file list words).bank = file.bank := by
  induction list generalizing file words with
  | nil => rfl
  | cons index rest ih =>
      cases words with
      | nil => rfl
      | cons word later => exact (ih _ later).trans (setRawReg_bank file index word)

/-- A big endian memory of words, in pages some of which are not mapped or can only be
read. -/
structure FlatMemory where
  words : ARMword → ARMword
  unmapped : ARMword → Bool
  readOnly : ARMword → Bool

def flatMemory (words : ARMword → ARMword) : FlatMemory :=
  { words, unmapped := fun _ => false, readOnly := fun _ => false }

def pageOf (address : ARMword) : ARMword :=
  address &&& ~~~0x3ff#32

def laneShift (size : AccessSize) (address : ARMword) : Nat :=
  match size with
  | .byte => 8 * (3 - (address &&& 3#32).toNat)
  | .halfword => 8 * (2 - (address &&& 2#32).toNat)
  | .word => 0

def laneMask : AccessSize → ARMword
  | .byte => 0xff#32
  | .halfword => 0xffff#32
  | .word => 0xffffffff#32

def flatRead (size : AccessSize) (address : ARMword) (mem : FlatMemory) : ReadResult FlatMemory :=
  { mem
    fault := if mem.unmapped (pageOf address) then .pageTranslationFault else .noFault
    data := (mem.words (address &&& ~~~3#32) >>> laneShift size address) &&& laneMask size }

def flatWrite (size : AccessSize) (address data : ARMword) (mem : FlatMemory) :
    WriteResult FlatMemory :=
  if mem.unmapped (pageOf address) then { mem, fault := .pageTranslationFault }
  else if mem.readOnly (pageOf address) then { mem, fault := .subpagePermissionFault }
  else
    let old := mem.words (address &&& ~~~3#32)
    let mask := laneMask size <<< laneShift size address
    { mem :=
        { mem with
          words := Function.update mem.words (address &&& ~~~3#32)
            ((old &&& ~~~mask) ||| ((data <<< laneShift size address) &&& mask)) }
      fault := .noFault }

def flatBus : Bus FlatMemory :=
  { read := fun size _ address mem => flatRead size address mem
    write := fun size _ address data mem => flatWrite size address data mem
    fetch := fun _ address mem => flatRead .word address mem
    recordFault := fun _ _ mem => mem
    highVectors := fun _ => false }

end SkyeyeStarlet
