import SkyeyeStarlet.DevicesCore
import SkyeyeStarlet.EmulateCore
import SkyeyeStarlet.Exceptions
import SkyeyeStarlet.FetchPath
import SkyeyeStarlet.MmioBounds

/-!
Thumb fetches from RAM and SRAM.  `real_read_word` drops the low bits of an address, while
`starlet_sram_read_word` reads the four bytes from the address on; a line of the instruction
cache is always filled by aligned words.  Every address outside SRAM is taken as RAM.
-/

namespace SkyeyeStarlet

section Memory

/-- The words of RAM, and the host bytes of SRAM and the boot ROM. -/
structure PhysicalMemory where
  ram : Ram
  ports : Ports
  host : HostArray → Nat → BitVec 8
  /-- The emulator exits while the boot ROM shadows a mirrored SRAM. -/
  legal : ∀ addr, starletSramDecode ports false addr ≠ none
  /-- `dummy` is cleared before it is read. -/
  dummy : ∀ offset, host .dummy offset = 0#8

variable (memory : PhysicalMemory)

/-- `starlet_sram_decode`: an array and an offset in it. -/
def PhysicalMemory.decode (addr : ARMword) : HostArray × Nat :=
  (starletSramDecode memory.ports false addr).getD (.dummy, 0)

/-- `be16` at a number of bytes behind the decoded one. -/
def PhysicalMemory.sramHalf (addr : ARMword) (behind : Nat) : BitVec 16 :=
  let (array, offset) := memory.decode addr
  memory.host array (offset + behind) ++ memory.host array (offset + behind + 1)

def PhysicalMemory.memReadHalfword (addr : ARMword) : BitVec 16 :=
  if isSram addr then memory.sramHalf addr 0
  else (field32 (memory.ram (wordIndex addr)) (halfwordOffset true addr) 16).setWidth 16

/-- `be32` is two halfwords of the host. -/
def PhysicalMemory.memReadWord (addr : ARMword) : ARMword :=
  if isSram addr then memory.sramHalf addr 0 ++ memory.sramHalf addr 2
  else memory.ram (wordIndex addr)

def PhysicalMemory.view : Ram :=
  fun index => memory.memReadWord (byteAddress index 0#2)

theorem isSram_samePage {addr other : ARMword} (same : SamePage addr other) :
    isSram addr = isSram other := by
  rw [isSram, isSram, same.shift_eq (by decide)]

theorem samePage_byteAddress (index : BitVec 30) (place other : BitVec 2) :
    SamePage (byteAddress index place) (byteAddress index other) := by
  intro bit high
  rw [getLsbD_byteAddress, getLsbD_byteAddress, if_neg (by omega), if_neg (by omega)]

theorem sramHalf_second (index : BitVec 30) :
    memory.sramHalf (byteAddress index 2#2) 0 = memory.sramHalf (byteAddress index 0#2) 2 := by
  have second := starletSramDecode_place memory.ports false index 2#2
  unfold PhysicalMemory.sramHalf PhysicalMemory.decode
  rw [second]
  cases decoded : starletSramDecode memory.ports false (byteAddress index 0#2) with
  | none => exact absurd decoded (memory.legal _)
  | some slot =>
      obtain ⟨array, offset⟩ := slot
      simp only [Option.map_some, Option.getD_some]
      split
      · rename_i dummy
        subst dummy
        simp only [memory.dummy]
      · rfl

theorem view_halves (index : BitVec 30) :
    memory.view index = memory.memReadHalfword (byteAddress index 0#2) ++
      memory.memReadHalfword (byteAddress index 2#2) := by
  unfold PhysicalMemory.view PhysicalMemory.memReadWord PhysicalMemory.memReadHalfword
  rw [isSram_samePage (samePage_byteAddress index 2#2 0#2)]
  split
  · rw [sramHalf_second]
  · have high : placeOffset true 2#2 0#2 = 16 := by decide
    have low : placeOffset true 2#2 2#2 = 0 := by decide
    rw [wordIndex_byteAddress, wordIndex_byteAddress, halfwordOffset_byteAddress,
      halfwordOffset_byteAddress, high, low]
    apply BitVec.eq_of_getLsbD_eq
    intro bit bound
    rw [BitVec.getLsbD_append, BitVec.getLsbD_setWidth, BitVec.getLsbD_setWidth,
      getLsbD_field32 _ _ _ _ (by omega), getLsbD_field32 _ _ _ _ (by omega)]
    by_cases small : bit < 16
    · simp [small]
    · simp [small, show bit - 16 < 16 by omega, show 16 + (bit - 16) = bit by omega]

end Memory

section Fetch

variable (memory : PhysicalMemory)

/-- The fetch behind the permission check; the lines of the instruction cache are clean, so
that a line that makes room is not written back. -/
def physicalFetch (va pa : ARMword) (cacheable : Bool) (mmu : MmuState) : ReadResult MmuState :=
  match mmuCacheSearch mmu.iCache va with
  | some way =>
      { mem := mmu
        fault := .noFault
        data := (mmu.iCache.line (vaCacheSet 6 va) way).data (vaCacheIndex va) }
  | none =>
      if cacheable then
        let (cached, line) := mmuCacheAlloc ⟨mmu.iCache, memory.view⟩ va pa
        { mem := { mmu with iCache := cached.cache }
          fault := .noFault
          data := line.data (vaCacheIndex va) }
      else { mem := mmu, fault := .noFault, data := memory.memReadWord pa }

/-- `arm926ejs_mmu_load_instr` over this memory. -/
def physicalLoadInstr (signals : Signals) (mode : ModeNum) (address : ARMword) (mmu : MmuState) :
    ReadResult MmuState :=
  let va := mmuPidVaMap mmu address
  if mmuEnabled mmu then
    let found := mmuTranslate signals mode true va ⟨mmu, memory.view⟩
    match found.entry with
    | none => { mem := found.mem.mmu, fault := found.fault, data := 0#32 }
    | some entry =>
        physicalFetch memory va (tlbVaToPa entry va) (tlbCFlag entry) found.mem.mmu
  else physicalFetch memory va va true mmu

def fetchBus (base : Bus MmuState) (signals : Signals) : Bus MmuState :=
  { base with fetch := fun mode address mmu => physicalLoadInstr memory signals mode address mmu }

def fetchPlace (signals : Signals) (mode : ModeNum) (address : ARMword) (mmu : MmuState) :
    Option (ARMword × Bool) :=
  let va := mmuPidVaMap mmu address
  if mmuEnabled mmu then
    (mmuTranslate signals mode true va ⟨mmu, memory.view⟩).entry.map fun entry =>
      (tlbVaToPa entry va, tlbCFlag entry)
  else some (va, true)

/-- The word of a fetch, as the cache has it, as a line is filled or as memory is read. -/
def delivered (cache : Cache 6) (va pa : ARMword) (cacheable : Bool) : ARMword :=
  match mmuCacheSearch cache va with
  | some way => (cache.line (vaCacheSet 6 va) way).data (vaCacheIndex va)
  | none => if cacheable then memory.view (wordIndex pa) else memory.memReadWord pa

end Fetch

section Words

theorem eq_byteAddress {address : ARMword} {index : BitVec 30} {place : BitVec 2}
    (high : ∀ bit, 2 ≤ bit → address.getLsbD bit = index.getLsbD (bit - 2))
    (low : ∀ bit < 2, address.getLsbD bit = place.getLsbD bit) :
    address = byteAddress index place := by
  apply BitVec.eq_of_getLsbD_eq
  intro bit _
  rw [getLsbD_byteAddress]
  split
  · exact low bit ‹_›
  · exact high bit (by omega)

theorem getLsbD_wordIndex (address : ARMword) {bit : Nat} (high : 2 ≤ bit) :
    (wordIndex address).getLsbD (bit - 2) = address.getLsbD bit := by
  rw [wordIndex, BitVec.getLsbD_extractLsb', show 2 + (bit - 2) = bit by omega]
  by_cases bound : bit - 2 < 30
  · simp [bound]
  · simp [bound, BitVec.getLsbD_of_ge address bit (by omega)]

theorem mmuPidVaMap_byteAddress (mmu : MmuState) (index : BitVec 30) (place : BitVec 2) :
    mmuPidVaMap mmu (byteAddress index place) =
      byteAddress (wordIndex (mmuPidVaMap mmu (byteAddress index 0#2))) place := by
  have page : byteAddress index place &&& 0xfe000000#32 = byteAddress index 0#2 &&& 0xfe000000#32 :=
    (samePage_byteAddress index place 0#2).and_eq (by decide)
  have small : ∀ bit < 2, (0xfe000000#32).getLsbD bit = false := by decide
  unfold mmuPidVaMap
  rw [page]
  split
  · rw [wordIndex_byteAddress]
  · apply eq_byteAddress
    · intro bit high
      rw [getLsbD_wordIndex _ high, BitVec.getLsbD_or, BitVec.getLsbD_or, getLsbD_byteAddress,
        getLsbD_byteAddress, if_neg (by omega), if_neg (by omega)]
    · intro bit low
      rw [BitVec.getLsbD_or, BitVec.getLsbD_and, small bit low, getLsbD_byteAddress, if_pos low]
      simp

theorem tlbVaToPa_byteAddress (entry : TlbEntry) (index : BitVec 30) (place : BitVec 2) :
    tlbVaToPa entry (byteAddress index place) =
      byteAddress (wordIndex (tlbVaToPa entry (byteAddress index 0#2))) place := by
  apply eq_byteAddress
  · intro bit high
    rw [getLsbD_wordIndex _ high]
    by_cases bound : bit < 32
    · have small : ¬bit < 2 := by
        omega
      rw [getLsbD_tlbVaToPa _ _ _ bound, getLsbD_tlbVaToPa _ _ _ bound, getLsbD_byteAddress,
        getLsbD_byteAddress, if_neg small, if_neg small]
    · rw [BitVec.getLsbD_of_ge _ _ (by omega), BitVec.getLsbD_of_ge _ _ (by omega)]
  · intro bit low
    rw [getLsbD_tlbVaToPa _ _ _ (by omega), tlbMasks_bit _ (by omega), getLsbD_byteAddress,
      if_pos low]
    rfl

theorem delivered_place (memory : PhysicalMemory) (cache : Cache 6) (index : BitVec 30)
    (place other : BitVec 2) (pa : ARMword) (cacheable : Bool) :
    delivered memory cache (byteAddress index place) pa cacheable =
      delivered memory cache (byteAddress index other) pa cacheable := by
  have align : vaCacheAlign (byteAddress index place) = vaCacheAlign (byteAddress index other) := by
    have low : ∀ bit < 2, (~~~31#32).getLsbD bit = false := by decide
    apply BitVec.eq_of_getLsbD_eq
    intro bit _
    rw [vaCacheAlign, vaCacheAlign, BitVec.getLsbD_and, BitVec.getLsbD_and, getLsbD_byteAddress,
      getLsbD_byteAddress]
    by_cases small : bit < 2
    · rw [low bit small, Bool.and_false, Bool.and_false]
    · rw [if_neg small, if_neg small]
  have set := vaCacheSet_of_align (show 6 ≤ 27 by decide) align
  have slot : vaCacheIndex (byteAddress index place) =
      vaCacheIndex (byteAddress index other) := by
    apply BitVec.eq_of_getLsbD_eq
    intro bit bound
    rw [vaCacheIndex, vaCacheIndex, BitVec.getLsbD_extractLsb', BitVec.getLsbD_extractLsb',
      getLsbD_byteAddress, getLsbD_byteAddress, if_neg (by omega), if_neg (by omega)]
  have search : mmuCacheSearch cache (byteAddress index place) =
      mmuCacheSearch cache (byteAddress index other) := by
    unfold mmuCacheSearch lineHit
    rw [set, align]
  unfold delivered
  rw [search, set, slot]

end Words

section Places

variable {memory : PhysicalMemory} {signals : Signals} {mode : ModeNum} {mmu : MmuState}

theorem mmuTranslate_samePage {va other : ARMword} (same : SamePage va other) (mem : MmuMemory) :
    mmuTranslate signals mode true va mem = mmuTranslate signals mode true other mem := by
  unfold mmuTranslate
  simp only [translate_samePage _ _ _ same, checkAccess_samePage _ _ same]

theorem fetchPlace_byteAddress (index : BitVec 30) (place other : BitVec 2) :
    fetchPlace memory signals mode (byteAddress index other) mmu =
      (fetchPlace memory signals mode (byteAddress index place) mmu).map fun found =>
        (byteAddress (wordIndex found.1) other, found.2) := by
  unfold fetchPlace
  dsimp only
  rw [mmuPidVaMap_byteAddress mmu index other, mmuPidVaMap_byteAddress mmu index place]
  generalize wordIndex (mmuPidVaMap mmu (byteAddress index 0#2)) = mapped
  split
  · rw [mmuTranslate_samePage (samePage_byteAddress mapped other place), Option.map_map]
    congr 1
    funext entry
    rw [tlbVaToPa_byteAddress entry mapped other, Function.comp_apply,
      tlbVaToPa_byteAddress entry mapped place, wordIndex_byteAddress]
  · rw [Option.map_some, wordIndex_byteAddress]

theorem physicalFetch_spec (memory : PhysicalMemory) {mmu : MmuState}
    (sound : CacheSound mmu.iCache) {va pa : ARMword}
    (low : ∀ index < 10, pa.getLsbD index = va.getLsbD index) (cacheable : Bool) :
    let result := physicalFetch memory va pa cacheable mmu
    result.fault = .noFault ∧ result.data = delivered memory mmu.iCache va pa cacheable ∧
      ∃ iCache, CacheSound iCache ∧ result.mem = { mmu with iCache } := by
  unfold physicalFetch delivered
  dsimp only
  cases found : mmuCacheSearch mmu.iCache va with
  | some way => exact ⟨rfl, rfl, mmu.iCache, sound, rfl⟩
  | none =>
      cases cacheable with
      | false => exact ⟨rfl, rfl, mmu.iCache, sound, rfl⟩
      | true =>
          have kept := @alloc_sound 6 (by decide) ⟨mmu.iCache, memory.view⟩ sound va found pa
          have filled := (@alloc_ram 6 ⟨mmu.iCache, memory.view⟩ sound va pa).2
          rw [if_pos rfl, if_pos rfl, filled, vaCacheIndex_of_low low]
          exact ⟨rfl, lineWord_index true memory.view pa, _, kept, rfl⟩

theorem fetchPlace_low {address pa : ARMword} {cacheable : Bool}
    (found : fetchPlace memory signals mode address mmu = some (pa, cacheable)) {index : Nat}
    (low : index < 10) : pa.getLsbD index = (mmuPidVaMap mmu address).getLsbD index := by
  unfold fetchPlace at found
  dsimp only at found
  split at found
  · obtain ⟨entry, _, same⟩ := Option.map_eq_some_iff.mp found
    cases same
    rw [getLsbD_tlbVaToPa _ _ _ (by omega), tlbMasks_bit _ low]
    rfl
  · cases found
    rfl

structure FetchesWord (memory : PhysicalMemory) (signals : Signals) (mode : ModeNum)
    (address pa : ARMword) (cacheable : Bool) (mmu : MmuState) (result : ReadResult MmuState) :
    Prop where
  fault : result.fault = .noFault
  data : result.data = delivered memory mmu.iCache (mmuPidVaMap mmu address) pa cacheable
  sound : CacheSound result.mem.iCache
  processId : result.mem.processId = mmu.processId
  place : fetchPlace memory signals mode address result.mem = some (pa, cacheable)

theorem physicalLoadInstr_fetches (sound : CacheSound mmu.iCache) {address pa : ARMword}
    {cacheable : Bool}
    (found : fetchPlace memory signals mode address mmu = some (pa, cacheable)) :
    FetchesWord memory signals mode address pa cacheable mmu
      (physicalLoadInstr memory signals mode address mmu) := by
  have low : ∀ index < 10, pa.getLsbD index = (mmuPidVaMap mmu address).getLsbD index :=
    fun _ small => fetchPlace_low found small
  unfold fetchPlace at found
  unfold physicalLoadInstr
  dsimp only at found ⊢
  cases enabled : mmuEnabled mmu with
  | false =>
      rw [enabled, if_neg Bool.false_ne_true] at found
      rw [if_neg Bool.false_ne_true]
      cases found
      obtain ⟨fault, data, iCache, kept, mem⟩ := physicalFetch_spec memory sound low true
      refine ⟨fault, data, ?_, ?_, ?_⟩
      · rw [mem]
        exact kept
      · rw [mem]
      · rw [mem]
        unfold fetchPlace
        have off : mmuEnabled { mmu with iCache } = false := enabled
        rw [off, if_neg Bool.false_ne_true]
        rfl
  | true =>
      rw [enabled, if_pos rfl] at found
      rw [if_pos rfl]
      obtain ⟨entry, there, same⟩ := Option.map_eq_some_iff.mp found
      cases same
      obtain ⟨lastDomain, looked⟩ := mmuTranslate_buffer signals mode true
        (mmuPidVaMap mmu address) ⟨mmu, memory.view⟩
      obtain ⟨translated, allowed⟩ := (mmuTranslate_entry signals mode true _ _ entry).mp there
      rw [there, looked]
      dsimp only
      generalize tlb : (translate _ _ _ (mmuPidVaMap mmu address)).tlb = mainTlb
      have clean : CacheSound ({ mmu with mainTlb, lastDomain } : MmuState).iCache := sound
      obtain ⟨fault, data, iCache, kept, mem⟩ :=
        physicalFetch_spec memory clean low (tlbCFlag entry)
      refine ⟨fault, data, ?_, ?_, ?_⟩
      · rw [mem]
        exact kept
      · rw [mem]
      · rw [mem]
        have still : translation signals
            ⟨{ mmu with mainTlb, lastDomain, iCache }, memory.view⟩ (mmuPidVaMap mmu address) =
              translation signals ⟨mmu, memory.view⟩ (mmuPidVaMap mmu address) := by
          rw [← tlb]
          exact translation_kept signals ⟨mmu, memory.view⟩ _ lastDomain
        have again := (mmuTranslate_entry signals mode true (mmuPidVaMap mmu address)
          ⟨{ mmu with mainTlb, lastDomain, iCache }, memory.view⟩ entry).mpr
            ⟨still.trans translated, allowed⟩
        have on : mmuEnabled { mmu with mainTlb, lastDomain, iCache } = true := enabled
        unfold fetchPlace
        rw [on, if_pos rfl]
        exact congrArg (Option.map _) again

theorem physicalLoadInstr_aborts {address : ARMword}
    (missing : fetchPlace memory signals mode address mmu = none) :
    (physicalLoadInstr memory signals mode address mmu).fault ≠ .noFault := by
  unfold fetchPlace at missing
  unfold physicalLoadInstr
  dsimp only at missing ⊢
  split at missing
  · rename_i enabled
    rw [if_pos enabled]
    have absent := Option.map_eq_none_iff.mp missing
    rw [absent]
    intro allowed
    have there := (mmuTranslate_fault signals mode true _ _).mp allowed
    rw [absent] at there
    exact Bool.false_ne_true there
  · cases missing

theorem physicalLoadInstr_aligned (memory : PhysicalMemory) (signals : Signals) (mode : ModeNum)
    (index : BitVec 30) (mmu : MmuState) :
    let fetched := arm926ejsMmuLoadInstr signals mode (byteAddress index 0#2) ⟨mmu, memory.view⟩
    physicalLoadInstr memory signals mode (byteAddress index 0#2) mmu =
      { mem := fetched.mem.mmu, fault := fetched.fault, data := fetched.data.getD 0#32 } := by
  have same (virtual physical : BitVec 30) (cacheable : Bool) (mem : MmuMemory)
      (ram : mem.ram = memory.view) :
      physicalFetch memory (byteAddress virtual 0#2) (byteAddress physical 0#2) cacheable mem.mmu =
        let fetched := fetchTranslated signals (byteAddress virtual 0#2)
          (byteAddress physical 0#2) cacheable mem
        { mem := fetched.mem.mmu, fault := fetched.fault, data := fetched.data.getD 0#32 } := by
    unfold physicalFetch fetchTranslated
    rw [ram]
    cases mmuCacheSearch mem.mmu.iCache (byteAddress virtual 0#2) with
    | some way => rfl
    | none =>
        cases cacheable with
        | true => rfl
        | false =>
            simp [bankRead, PhysicalMemory.view]
  unfold physicalLoadInstr arm926ejsMmuLoadInstr
  dsimp only
  rw [mmuPidVaMap_byteAddress]
  split
  · obtain ⟨_, _, frame⟩ := mmuTranslate_frame signals mode true
      (byteAddress (wordIndex (mmuPidVaMap mmu (byteAddress index 0#2))) 0#2) ⟨mmu, memory.view⟩
    cases (mmuTranslate signals mode true
      (byteAddress (wordIndex (mmuPidVaMap mmu (byteAddress index 0#2))) 0#2)
        ⟨mmu, memory.view⟩).entry with
    | none => rfl
    | some entry =>
        dsimp only
        rw [tlbVaToPa_byteAddress]
        exact same _ _ _ _ (by rw [frame])
  · exact same _ _ _ ⟨mmu, memory.view⟩ rfl

end Places

section Halfwords

variable (memory : PhysicalMemory)

/-- A halfword is where the fetch of a word takes it from, the half of the word from bit `low`
on: a line that holds the word is current there.  An uncached word of SRAM is read two bytes
behind its start, so that the halfword after this one comes in its place. -/
structure Picks (cache : Cache 6) (va pa : ARMword) (cacheable : Bool) (low : Nat) : Prop where
  line : ∀ way, mmuCacheSearch cache va = some way →
    ((cache.line (vaCacheSet 6 va) way).data (vaCacheIndex va)).extractLsb' low 16 =
      memory.memReadHalfword pa
  sram : mmuCacheSearch cache va = none → cacheable = false → isSram pa = true →
    memory.sramHalf pa 2 = memory.sramHalf pa 0

theorem spliced_high (first second : ARMword) :
    ((first <<< 16) ||| (second >>> 16)).extractLsb' 16 16 = first.extractLsb' 0 16 := by
  apply BitVec.eq_of_getLsbD_eq
  intro bit bound
  rw [BitVec.getLsbD_extractLsb', BitVec.getLsbD_extractLsb', BitVec.getLsbD_or,
    BitVec.getLsbD_shiftLeft, BitVec.getLsbD_ushiftRight,
    BitVec.getLsbD_of_ge second (16 + (16 + bit)) (by omega)]
  simp [bound, show 16 + bit < 32 by omega]

theorem spliced_low (first second : ARMword) :
    ((first <<< 16) ||| (second >>> 16)).extractLsb' 0 16 = second.extractLsb' 16 16 := by
  apply BitVec.eq_of_getLsbD_eq
  intro bit bound
  rw [BitVec.getLsbD_extractLsb', BitVec.getLsbD_extractLsb', BitVec.getLsbD_or,
    BitVec.getLsbD_shiftLeft, BitVec.getLsbD_ushiftRight]
  simp [bound]

theorem delivered_iff_picks {memory : PhysicalMemory} {read pa : ARMword} {low : Nat}
    (filled : (memory.view (wordIndex read)).extractLsb' low 16 = memory.memReadHalfword pa)
    (uncached : (memory.memReadWord read).extractLsb' low 16 = memory.memReadHalfword pa ↔
      (isSram pa = true → memory.sramHalf pa 2 = memory.sramHalf pa 0))
    (cache : Cache 6) (va : ARMword) (cacheable : Bool) :
    (delivered memory cache va read cacheable).extractLsb' low 16 = memory.memReadHalfword pa ↔
      Picks memory cache va pa cacheable low := by
  unfold delivered
  cases found : mmuCacheSearch cache va with
  | some way =>
      constructor
      · intro current
        refine ⟨?_, fun missing => absurd (found.symm.trans missing) (Option.some_ne_none _)⟩
        intro other same
        cases found.symm.trans same
        exact current
      · exact fun picks => picks.line way found
  | none =>
      have line (picks : cacheable = false → isSram pa = true →
          memory.sramHalf pa 2 = memory.sramHalf pa 0) : Picks memory cache va pa cacheable low :=
        ⟨fun _ same => absurd (found.symm.trans same).symm (Option.some_ne_none _),
          fun _ => picks⟩
      cases cacheable with
      | true =>
          exact ⟨fun _ => line fun off => absurd off.symm Bool.false_ne_true, fun _ => filled⟩
      | false =>
          exact ⟨fun current => line fun _ => uncached.mp current,
            fun picks => uncached.mpr (picks.sram found rfl)⟩

theorem memReadWord_ram {physical : BitVec 30} {place : BitVec 2}
    (ram : isSram (byteAddress physical place) = false) :
    memory.memReadWord (byteAddress physical place) = memory.view physical := by
  have aligned : isSram (byteAddress physical 0#2) = false := by
    rw [isSram_samePage (samePage_byteAddress physical 0#2 place)]
    exact ram
  unfold PhysicalMemory.view PhysicalMemory.memReadWord
  rw [ram, aligned, if_neg Bool.false_ne_true, if_neg Bool.false_ne_true, wordIndex_byteAddress,
    wordIndex_byteAddress]

theorem delivered_low_iff (cache : Cache 6) (va : ARMword) (physical : BitVec 30)
    (cacheable : Bool) :
    (delivered memory cache va (byteAddress physical 2#2) cacheable).extractLsb' 0 16 =
        memory.memReadHalfword (byteAddress physical 2#2) ↔
      Picks memory cache va (byteAddress physical 2#2) cacheable 0 := by
  have aligned : (memory.view physical).extractLsb' 0 16 =
      memory.memReadHalfword (byteAddress physical 2#2) := by
    rw [view_halves]
    exact BitVec.extractLsb'_append_eq_right
  refine delivered_iff_picks ?_ ?_ cache va cacheable
  · rw [wordIndex_byteAddress]
    exact aligned
  · cases sram : isSram (byteAddress physical 2#2) with
    | false =>
        rw [memReadWord_ram memory sram]
        simp [aligned]
    | true =>
        unfold PhysicalMemory.memReadWord PhysicalMemory.memReadHalfword
        rw [sram, if_pos rfl, if_pos rfl, BitVec.extractLsb'_append_eq_right]
        simp

theorem delivered_high_iff (cache : Cache 6) (va : ARMword) (physical : BitVec 30)
    (cacheable : Bool) :
    (delivered memory cache va (byteAddress physical 2#2) cacheable).extractLsb' 16 16 =
        memory.memReadHalfword (byteAddress physical 0#2) ↔
      Picks memory cache va (byteAddress physical 0#2) cacheable 16 := by
  have aligned : (memory.view physical).extractLsb' 16 16 =
      memory.memReadHalfword (byteAddress physical 0#2) := by
    rw [view_halves]
    exact BitVec.extractLsb'_append_eq_left
  have page := isSram_samePage (samePage_byteAddress physical 0#2 2#2)
  refine delivered_iff_picks ?_ ?_ cache va cacheable
  · rw [wordIndex_byteAddress]
    exact aligned
  · rw [page]
    cases sram : isSram (byteAddress physical 2#2) with
    | false =>
        rw [memReadWord_ram memory sram]
        simp [aligned]
    | true =>
        unfold PhysicalMemory.memReadWord PhysicalMemory.memReadHalfword
        rw [page, sram, if_pos rfl, if_pos rfl, BitVec.extractLsb'_append_eq_left,
          sramHalf_second]
        simp

def LineCurrent (cache : Cache 6) (va pa : ARMword) : Prop :=
  ∀ way, mmuCacheSearch cache va = some way →
    (cache.line (vaCacheSet 6 va) way).data (vaCacheIndex va) = memory.view (wordIndex pa)

theorem delivered_word_iff (cache : Cache 6) (va : ARMword) (physical : BitVec 30)
    (cacheable : Bool) :
    delivered memory cache va (byteAddress physical 0#2) cacheable = memory.view physical ↔
      LineCurrent memory cache va (byteAddress physical 0#2) := by
  unfold delivered LineCurrent
  rw [wordIndex_byteAddress]
  cases found : mmuCacheSearch cache va with
  | some way => simp
  | none => cases cacheable <;> simp [PhysicalMemory.view]

variable (base : Bus MmuState) (signals : Signals)

/-- The halfwords of `ARMul_ReLoadInstr (address, 2)`.  The second one is at its place once the
first word has been fetched, as the fetch fills the TLB. -/
structure FetchesHalfwords (state : ARMulState MmuState) (address : ARMword) : Prop where
  aborts : (fetchWord (fetchBus memory base signals) state address 2#32).2 = none ↔
    fetchPlace memory signals state.mode address state.mem = none
  high : ∀ word pa cacheable,
    (fetchWord (fetchBus memory base signals) state address 2#32).2 = some word →
    fetchPlace memory signals state.mode address state.mem = some (pa, cacheable) →
    word.extractLsb' 16 16 = memory.memReadHalfword pa
  low : ∀ word pa cacheable,
    (fetchWord (fetchBus memory base signals) state address 2#32).2 = some word →
    fetchPlace memory signals state.mode (address + 2#32)
      (physicalLoadInstr memory signals state.mode address state.mem).mem = some (pa, cacheable) →
    word.extractLsb' 0 16 = memory.memReadHalfword pa

/-- A halfword at the start of a word needs a current line, if there is one.  One at the end
needs the next word to be accessible too, and each of the two where it is taken from. -/
def HalfwordsServed (mode : ModeNum) (address : ARMword) (mmu : MmuState) : Prop :=
  let next := (physicalLoadInstr memory signals mode address mmu).mem
  ∀ pa cacheable, fetchPlace memory signals mode address mmu = some (pa, cacheable) →
    if address.getLsbD 1 then
      Picks memory mmu.iCache (mmuPidVaMap mmu address) pa cacheable 0 ∧
        ∃ pa' cacheable',
          fetchPlace memory signals mode (address + 2#32) next = some (pa', cacheable') ∧
            Picks memory next.iCache (mmuPidVaMap next (address + 2#32)) pa' cacheable' 16
    else LineCurrent memory mmu.iCache (mmuPidVaMap mmu address) pa

theorem fetches_inaccessible {state : ARMulState MmuState} {address : ARMword}
    (missing : fetchPlace memory signals state.mode address state.mem = none) :
    FetchesHalfwords memory base signals state address ∧
      HalfwordsServed memory signals state.mode address state.mem := by
  have failed : (fetchWord (fetchBus memory base signals) state address 2#32).2 = none := by
    unfold fetchWord
    exact congrArg Prod.snd (if_neg (physicalLoadInstr_aborts missing))
  refine ⟨⟨⟨fun _ => missing, fun _ => failed⟩, ?_, ?_⟩, ?_⟩
  · intro word _ _ fetched _
    exact absurd (failed.symm.trans fetched).symm (Option.some_ne_none _)
  · intro word _ _ fetched _
    exact absurd (failed.symm.trans fetched).symm (Option.some_ne_none _)
  · intro pa cacheable found
    exact absurd (missing.symm.trans found).symm (Option.some_ne_none _)

theorem fetchPlace_place {memory : PhysicalMemory} {signals : Signals} {mode : ModeNum}
    {mmu : MmuState} {index : BitVec 30} {place : BitVec 2} {pa : ARMword} {cacheable : Bool}
    (found : fetchPlace memory signals mode (byteAddress index place) mmu = some (pa, cacheable)) :
    ∃ physical, pa = byteAddress physical place := by
  rw [fetchPlace_byteAddress index place place] at found
  obtain ⟨_, _, same⟩ := Option.map_eq_some_iff.mp found
  exact ⟨_, (Prod.mk.inj same).1.symm⟩

theorem fetchPlace_of_word {memory : PhysicalMemory} {signals : Signals} {mode : ModeNum}
    {mmu : MmuState} {index physical : BitVec 30} {place : BitVec 2} {cacheable : Bool}
    (found : fetchPlace memory signals mode (byteAddress index place) mmu =
      some (byteAddress physical place, cacheable)) (other : BitVec 2) :
    fetchPlace memory signals mode (byteAddress index other) mmu =
      some (byteAddress physical other, cacheable) := by
  rw [fetchPlace_byteAddress index place other, found, Option.map_some, wordIndex_byteAddress]

theorem byteAddress_add_two (index : BitVec 30) :
    byteAddress index 0#2 + 2#32 = byteAddress index 2#2 := by
  have bound := index.isLt
  apply BitVec.eq_of_toNat_eq
  rw [BitVec.toNat_add, toNat_byteAddress, toNat_byteAddress]
  simp only [BitVec.toNat_ofNat]
  omega

theorem byteAddress_next (index : BitVec 30) :
    byteAddress index 2#2 + 2#32 = byteAddress (index + 1#30) 0#2 := by
  apply BitVec.eq_of_toNat_eq
  rw [BitVec.toNat_add, toNat_byteAddress, toNat_byteAddress, BitVec.toNat_add]
  simp only [BitVec.toNat_ofNat]
  omega

theorem halves_append (word : ARMword) :
    word.extractLsb' 16 16 ++ word.extractLsb' 0 16 = word := by
  exact BitVec.extractLsb'_append_extractLsb'

theorem fetchWord_start {bus : Bus MmuState} {state : ARMulState MmuState} {index : BitVec 30}
    (fault : (bus.fetch state.mode (byteAddress index 0#2) state.mem).fault = .noFault) :
    (fetchWord bus state (byteAddress index 0#2) 2#32).2 =
      some (bus.fetch state.mode (byteAddress index 0#2) state.mem).data := by
  have start : (byteAddress index 0#2).getLsbD 1 = false := by
    rw [getLsbD_byteAddress]
    rfl
  unfold fetchWord
  dsimp only
  rw [if_pos fault, start, if_neg (fun both => Bool.false_ne_true both.2)]

theorem fetchWord_end {bus : Bus MmuState} {state : ARMulState MmuState} {index : BitVec 30}
    (big : state.bigendSig = true)
    (fault : (bus.fetch state.mode (byteAddress index 2#2) state.mem).fault = .noFault) :
    (fetchWord bus state (byteAddress index 2#2) 2#32).2 =
      let first := bus.fetch state.mode (byteAddress index 2#2) state.mem
      let second := bus.fetch state.mode (byteAddress (index + 1#30) 2#2) first.mem
      if second.fault = .noFault then some ((first.data <<< 16) ||| (second.data >>> 16))
      else none := by
  have finish : (byteAddress index 2#2).getLsbD 1 = true := by
    rw [getLsbD_byteAddress]
    rfl
  have next : byteAddress index 2#2 + 4#32 = byteAddress (index + 1#30) 2#2 := by
    rw [← byteAddress_add_two (index + 1#30), ← byteAddress_next, BitVec.add_assoc]
    rfl
  unfold fetchWord
  dsimp only
  rw [if_pos fault, if_pos ⟨rfl, finish⟩, next, big]
  split <;> rfl

theorem fetches_first_iff (state : ARMulState MmuState) (index : BitVec 30)
    (sound : CacheSound state.mem.iCache) :
    FetchesHalfwords memory base signals state (byteAddress index 0#2) ↔
      HalfwordsServed memory signals state.mode (byteAddress index 0#2) state.mem := by
  cases found : fetchPlace memory signals state.mode (byteAddress index 0#2) state.mem with
  | none =>
      have both := fetches_inaccessible memory base signals found
      exact ⟨fun _ => both.2, fun _ => both.1⟩
  | some place =>
      obtain ⟨pa, cacheable⟩ := place
      obtain ⟨physical, rfl⟩ := fetchPlace_place found
      have fetches := physicalLoadInstr_fetches sound found
      have bus : (fetchBus memory base signals).fetch state.mode (byteAddress index 0#2) state.mem =
        physicalLoadInstr memory signals state.mode (byteAddress index 0#2) state.mem := rfl
      have fetched := fetchWord_start (bus.symm ▸ fetches.fault)
      rw [bus, fetches.data] at fetched
      have start : (byteAddress index 0#2).getLsbD 1 = false := by
        rw [getLsbD_byteAddress]
        rfl
      have behind : fetchPlace memory signals state.mode (byteAddress index 0#2 + 2#32)
          (physicalLoadInstr memory signals state.mode (byteAddress index 0#2) state.mem).mem =
            some (byteAddress physical 2#2, cacheable) := by
        rw [byteAddress_add_two]
        exact fetchPlace_of_word fetches.place 2#2
      have current := delivered_word_iff memory state.mem.iCache
        (mmuPidVaMap state.mem (byteAddress index 0#2)) physical cacheable
      constructor
      · intro halfwords pa other place
        cases found.symm.trans place
        rw [start, if_neg Bool.false_ne_true]
        refine current.mp ?_
        rw [view_halves, ← halfwords.high _ _ _ fetched found, ← halfwords.low _ _ _ fetched behind]
        exact (halves_append _).symm
      · intro served
        have line := served _ _ found
        rw [start, if_neg Bool.false_ne_true] at line
        rw [current.mpr line, view_halves] at fetched
        refine ⟨?_, ?_, ?_⟩
        · rw [fetched, found]
          simp
        · intro word pa other got place
          cases fetched.symm.trans got
          cases found.symm.trans place
          exact BitVec.extractLsb'_append_eq_left
        · intro word pa other got place
          cases fetched.symm.trans got
          cases behind.symm.trans place
          exact BitVec.extractLsb'_append_eq_right

theorem fetches_second_iff (state : ARMulState MmuState) (index : BitVec 30)
    (big : state.bigendSig = true) (sound : CacheSound state.mem.iCache) :
    FetchesHalfwords memory base signals state (byteAddress index 2#2) ↔
      HalfwordsServed memory signals state.mode (byteAddress index 2#2) state.mem := by
  cases found : fetchPlace memory signals state.mode (byteAddress index 2#2) state.mem with
  | none =>
      have both := fetches_inaccessible memory base signals found
      exact ⟨fun _ => both.2, fun _ => both.1⟩
  | some place =>
      obtain ⟨pa, cacheable⟩ := place
      obtain ⟨physical, rfl⟩ := fetchPlace_place found
      have fetches := physicalLoadInstr_fetches sound found
      have bus (address : ARMword) (mmu : MmuState) :
        (fetchBus memory base signals).fetch state.mode address mmu =
          physicalLoadInstr memory signals state.mode address mmu := rfl
      have fetched := fetchWord_end big ((bus _ _).symm ▸ fetches.fault)
      have finish : (byteAddress index 2#2).getLsbD 1 = true := by
        rw [getLsbD_byteAddress]
        rfl
      simp only [bus, fetches.data] at fetched
      have kept := fetches.sound
      unfold HalfwordsServed
      dsimp only
      rw [finish, byteAddress_next]
      have first := delivered_low_iff memory state.mem.iCache
        (mmuPidVaMap state.mem (byteAddress index 2#2)) physical cacheable
      generalize after : (physicalLoadInstr memory signals state.mode (byteAddress index 2#2)
        state.mem).mem = next at fetched kept ⊢
      cases there : fetchPlace memory signals state.mode (byteAddress (index + 1#30) 0#2) next with
      | none =>
          -- the second word lies in a page that is not accessible
          have missing : fetchPlace memory signals state.mode
              (byteAddress (index + 1#30) 2#2) next = none := by
            rw [fetchPlace_byteAddress (index + 1#30) 0#2 2#2, there, Option.map_none]
          rw [if_neg (physicalLoadInstr_aborts missing)] at fetched
          constructor
          · intro halfwords
            exact absurd ((halfwords.aborts.mp fetched).symm.trans found).symm
              (Option.some_ne_none _)
          · intro served
            obtain ⟨_, _, _, place, _⟩ := served _ _ found
            exact absurd place.symm (Option.some_ne_none _)
      | some place =>
          obtain ⟨pa', cacheable'⟩ := place
          obtain ⟨physical', rfl⟩ := fetchPlace_place there
          have fetches' := physicalLoadInstr_fetches kept (fetchPlace_of_word there 2#2)
          have word : (physicalLoadInstr memory signals state.mode (byteAddress (index + 1#30) 2#2)
              next).data = delivered memory next.iCache
                (mmuPidVaMap next (byteAddress (index + 1#30) 0#2)) (byteAddress physical' 2#2)
                cacheable' := by
            rw [fetches'.data, mmuPidVaMap_byteAddress, delivered_place _ _ _ 2#2 0#2,
              ← mmuPidVaMap_byteAddress]
          rw [if_pos fetches'.fault, word] at fetched
          have second := delivered_high_iff memory next.iCache
            (mmuPidVaMap next (byteAddress (index + 1#30) 0#2)) physical' cacheable'
          have behind : fetchPlace memory signals state.mode (byteAddress index 2#2 + 2#32)
              (physicalLoadInstr memory signals state.mode (byteAddress index 2#2) state.mem).mem =
                some (byteAddress physical' 0#2, cacheable') := by
            rw [byteAddress_next, after]
            exact there
          constructor
          · intro halfwords pa other place
            cases found.symm.trans place
            have high := halfwords.high _ _ _ fetched found
            have low := halfwords.low _ _ _ fetched behind
            rw [spliced_high] at high
            rw [spliced_low] at low
            exact ⟨first.mp high, _, _, rfl, second.mp low⟩
          · intro served
            obtain ⟨picks, _, _, place, picks'⟩ := served _ _ found
            cases place
            refine ⟨?_, ?_, ?_⟩
            · rw [fetched, found]
              simp
            · intro word pa other got place
              cases fetched.symm.trans got
              cases found.symm.trans place
              rw [spliced_high]
              exact first.mpr picks
            · intro word pa other got place
              cases fetched.symm.trans got
              cases behind.symm.trans place
              rw [spliced_low]
              exact second.mpr picks'

theorem thumb_fetch_iff (state : ARMulState MmuState) (address : ARMword)
    (even : address.getLsbD 0 = false) (big : state.bigendSig = true)
    (sound : CacheSound state.mem.iCache) :
    FetchesHalfwords memory base signals state address ↔
      HalfwordsServed memory signals state.mode address state.mem := by
  obtain ⟨index, place, rfl⟩ := exists_byteAddress address
  have half : place = 0#2 ∨ place = 2#2 := by
    rw [getLsbD_byteAddress, if_pos (by decide)] at even
    revert place
    decide
  rcases half with rfl | rfl
  · exact fetches_first_iff memory base signals state index sound
  · exact fetches_second_iff memory base signals state index big sound

end Halfwords

section Examples

def memoryWith (index : BitVec 30) (word : ARMword) : PhysicalMemory :=
  { ram := fun other => if other = index then word else 0#32
    ports := resetPorts
    host := fun _ _ => 0#8
    legal := by
      intro addr
      have mirror : (resetPorts.mirrorFlags &&& 0x20#32 != 0#32) = false := by decide
      simp only [starletSramDecode, mirror, Bool.and_false, Bool.false_and]
      split_ifs <;> simp_all
    dummy := fun _ => rfl }

def idleBus : Bus MmuState :=
  { read := fun _ _ _ mmu => ⟨mmu, .noFault, 0#32⟩
    write := fun _ _ _ _ mmu => ⟨mmu, .noFault⟩
    fetch := fun _ _ mmu => ⟨mmu, .noFault, 0#32⟩
    recordFault := fun _ _ mmu => mmu
    highVectors := fun _ => false }

theorem resetCache_sound : CacheSound arm926ejsMmuInit.iCache := by
  exact (@coherent_initial ⟨true, false, 0#32⟩ fun _ => 0#32).sound

/-- The last halfword of a line, over the reset unit. -/
theorem thumb_fetch_iff_reset :
    FetchesHalfwords (memoryWith 7#30 0x12345678#32) idleBus ⟨true, false, 0x41069265#32⟩
      (coreAt svc32mode true 0#32 arm926ejsMmuInit) 0x1e#32 := by
  refine (thumb_fetch_iff _ idleBus _ _ 0x1e#32 (by decide) rfl resetCache_sound).mpr ?_
  intro pa cacheable found
  have place : fetchPlace (memoryWith 7#30 0x12345678#32) ⟨true, false, 0x41069265#32⟩ svc32mode
      0x1e#32 arm926ejsMmuInit = some (0x1e#32, true) := rfl
  cases place.symm.trans found
  have absent : mmuCacheSearch arm926ejsMmuInit.iCache 0x1e#32 = none := by decide +kernel
  have absent' : mmuCacheSearch (physicalLoadInstr (memoryWith 7#30 0x12345678#32)
      ⟨true, false, 0x41069265#32⟩ svc32mode 0x1e#32 arm926ejsMmuInit).mem.iCache 0x20#32 =
        none := by
    decide +kernel
  refine ⟨⟨?_, ?_⟩, 0x20#32, true, rfl, ⟨?_, ?_⟩⟩
  · exact fun _ there => absurd (absent.symm.trans there).symm (Option.some_ne_none _)
  · exact fun _ uncached => absurd uncached.symm Bool.false_ne_true
  · exact fun _ there => absurd (absent'.symm.trans there).symm (Option.some_ne_none _)
  · exact fun _ uncached => absurd uncached.symm Bool.false_ne_true

def oneSection : MmuState :=
  { arm926ejsMmuInit with
    control := 0x52079#32
    translationTableBase := 0x4000#32
    domainAccessControl := 1#32 }

/-- The fetch of its last halfword aborts. -/
theorem thumb_fetch_aborts_at_end :
    let memory := memoryWith 0x1000#30 0xc02#32
    let state := coreAt svc32mode true 0#32 oneSection
    CacheSound state.mem.iCache ∧ state.bigendSig = true ∧
      ¬FetchesHalfwords memory idleBus ⟨true, false, 0x41069265#32⟩ state 0xffffe#32 := by
  intro memory state
  refine ⟨resetCache_sound, rfl, ?_⟩
  have place : fetchPlace memory ⟨true, false, 0x41069265#32⟩ svc32mode 0xffffe#32 oneSection =
      some (0xffffe#32, false) := by
    decide +kernel
  have aborted : (fetchWord (fetchBus memory idleBus ⟨true, false, 0x41069265#32⟩) state
      0xffffe#32 2#32).2 = none := by
    decide +kernel
  intro halfwords
  exact absurd ((halfwords.aborts.mp aborted).symm.trans place).symm (Option.some_ne_none _)

end Examples

end SkyeyeStarlet
