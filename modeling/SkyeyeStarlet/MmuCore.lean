import Mathlib.Algebra.Group.Nat.Defs
import SkyeyeStarlet.BlockCore

/-!
The memory management unit of `mmu/arm926ejs_mmu.c` with its caches (`mmu/cache.c`)
and write buffer (`mmu/wb.c`), over the memory banks of `armmem.c`.  Memory is an array
of words, as `real_read_word` and its siblings see it.  The ring of the write buffer is
a queue, oldest entry first.
-/

namespace SkyeyeStarlet

abbrev Ram := BitVec 30 → ARMword

/-- The signals of the processor that the data path reads. -/
structure Signals where
  bigendSig : Bool
  isXScale : Bool
  cpuVal : ARMword

def wordIndex (address : ARMword) : BitVec 30 :=
  address.extractLsb' 2 30

/-- The bit offset of a byte in its word; `address & 3` is counted from the other end on
a big endian machine. -/
def byteOffset (bigend : Bool) (address : ARMword) : Nat :=
  8 * ((if bigend then 3#32 else 0#32) ^^^ (address &&& 3#32)).toNat

def halfwordOffset (bigend : Bool) (address : ARMword) : Nat :=
  8 * ((if bigend then 2#32 else 0#32) ^^^ (address &&& 2#32)).toNat

/-- A field of `width` bits of a word, and the word with it replaced. -/
def field32 (word : ARMword) (offset width : Nat) : ARMword :=
  (word >>> offset) &&& BitVec.ofNat 32 (2 ^ width - 1)

def setField32 (word : ARMword) (offset width : Nat) (data : ARMword) : ARMword :=
  (word &&& ~~~(BitVec.ofNat 32 (2 ^ width - 1) <<< offset)) |||
    ((data &&& BitVec.ofNat 32 (2 ^ width - 1)) <<< offset)

/-- `mem_read_byte`, `mem_read_halfword` and `mem_read_word`. -/
def bankRead (bigend : Bool) (ram : Ram) (size : AccessSize) (address : ARMword) : ARMword :=
  match size with
  | .byte => field32 (ram (wordIndex address)) (byteOffset bigend address) 8
  | .halfword => field32 (ram (wordIndex address)) (halfwordOffset bigend address) 16
  | .word => ram (wordIndex address)

def bankWrite (bigend : Bool) (ram : Ram) (size : AccessSize) (address data : ARMword) : Ram :=
  Function.update ram (wordIndex address)
    (match size with
      | .byte => setField32 (ram (wordIndex address)) (byteOffset bigend address) 8 data
      | .halfword => setField32 (ram (wordIndex address)) (halfwordOffset bigend address) 16 data
      | .word => data)

/-- A line of 32 bytes.  Bit 0 of the tag is set in a valid line, bits 1 and 2 where its
first or last half is dirty. -/
structure CacheLine where
  tag : ARMword
  pa : ARMword
  data : BitVec 3 → ARMword

structure CacheSet where
  lines : BitVec 2 → CacheLine
  cycle : BitVec 2

/-- Four ways and `2 ^ bits` sets, written back. -/
structure Cache (bits : Nat) where
  sets : BitVec bits → CacheSet

def vaCacheSet (bits : Nat) (va : ARMword) : BitVec bits :=
  va.extractLsb' 5 bits

def vaCacheAlign (va : ARMword) : ARMword :=
  va &&& ~~~31#32

def vaCacheIndex (va : ARMword) : BitVec 3 :=
  va.extractLsb' 2 3

def lineHit (va : ARMword) (line : CacheLine) : Bool :=
  line.tag.getLsbD 0 && vaCacheAlign va == vaCacheAlign line.tag

def ways : List (BitVec 2) :=
  [0#2, 1#2, 2#2, 3#2]

def mmuCacheSearch {bits : Nat} (cache : Cache bits) (va : ARMword) : Option (BitVec 2) :=
  ways.find? fun way => lineHit va ((cache.sets (vaCacheSet bits va)).lines way)

def Cache.line {bits : Nat} (cache : Cache bits) (set : BitVec bits) (way : BitVec 2) : CacheLine :=
  (cache.sets set).lines way

def Cache.setLine {bits : Nat} (cache : Cache bits) (set : BitVec bits) (way : BitVec 2)
    (line : CacheLine) : Cache bits :=
  { sets := Function.update cache.sets set
      { cache.sets set with lines := Function.update (cache.sets set).lines way line } }

/-- `words` words of a line from `first` on, written to memory at `address`. -/
def writeWords (ram : Ram) (data : BitVec 3 → ARMword) (first : BitVec 3) (address : ARMword) :
    Nat → Ram
  | 0 => ram
  | words + 1 =>
      writeWords (bankWrite false ram .word address (data first)) data (first + 1#3)
        (address + 4#32) words

/-- The memory after `mmu_cache_write_back`. -/
def writeBackRam (ram : Ram) (line : CacheLine) : Ram :=
  if !line.tag.getLsbD 0 then ram
  else
    match line.tag.getLsbD 1, line.tag.getLsbD 2 with
    | false, false => ram
    | true, false => writeWords ram line.data 0#3 line.pa 4
    | false, true => writeWords ram line.data 4#3 (line.pa + 16#32) 4
    | true, true => writeWords ram line.data 0#3 line.pa 8

def cleanLine (line : CacheLine) : CacheLine :=
  if !line.tag.getLsbD 0 then line else { line with tag := line.tag &&& ~~~6#32 }

structure Cached (bits : Nat) where
  cache : Cache bits
  ram : Ram

def mmuCacheWriteBack {bits : Nat} (cached : Cached bits) (set : BitVec bits) (way : BitVec 2) :
    Cached bits :=
  { cache := cached.cache.setLine set way (cleanLine (cached.cache.line set way))
    ram := writeBackRam cached.ram (cached.cache.line set way) }

def dropLine {bits : Nat} (cached : Cached bits) (set : BitVec bits) (way : BitVec 2) :
    Cached bits :=
  let cleaned := mmuCacheWriteBack cached set way
  { cleaned with
    cache := cleaned.cache.setLine set way { cleaned.cache.line set way with tag := 0#32 } }

def nextWay (cycle : BitVec 2) : BitVec 2 :=
  cycle + 1#2

def fillLine (ram : Ram) (va pa : ARMword) : CacheLine :=
  { tag := vaCacheAlign va ||| 1#32
    pa := vaCacheAlign pa
    data := fun index => bankRead false ram .word (vaCacheAlign pa + index.setWidth 32 * 4#32) }

/-- `mmu_cache_alloc`, and the line it returns. -/
def mmuCacheAlloc {bits : Nat} (cached : Cached bits) (va pa : ARMword) :
    Cached bits × CacheLine :=
  let set := vaCacheSet bits va
  let way := (cached.cache.sets set).cycle
  let ram := writeBackRam cached.ram (cached.cache.line set way)
  let line := fillLine ram va pa
  ({ cache :=
      { sets := Function.update cached.cache.sets set
          { lines := Function.update (cached.cache.sets set).lines way line
            cycle := nextWay way } }
     ram },
   line)

def mmuCacheClean {bits : Nat} (cached : Cached bits) (va : ARMword) : Cached bits :=
  match mmuCacheSearch cached.cache va with
  | some way => mmuCacheWriteBack cached (vaCacheSet bits va) way
  | none => cached

def indexWay (index : ARMword) : BitVec 2 :=
  index.extractLsb' 30 2

def mmuCacheCleanByIndex {bits : Nat} (cached : Cached bits) (index : ARMword) : Cached bits :=
  mmuCacheWriteBack cached (vaCacheSet bits index) (indexWay index)

def mmuCacheInvalidate {bits : Nat} (cached : Cached bits) (va : ARMword) : Cached bits :=
  match mmuCacheSearch cached.cache va with
  | some way => dropLine cached (vaCacheSet bits va) way
  | none => cached

def mmuCacheInvalidateByIndex {bits : Nat} (cached : Cached bits) (index : ARMword) :
    Cached bits :=
  dropLine cached (vaCacheSet bits index) (indexWay index)

def allLines (bits : Nat) : List (BitVec bits × BitVec 2) :=
  (List.range (2 ^ bits)).flatMap fun set => ways.map fun way => (BitVec.ofNat bits set, way)

def mmuCacheInvalidateAll {bits : Nat} (cached : Cached bits) : Cached bits :=
  (allLines bits).foldl (fun cached line => dropLine cached line.1 line.2) cached

/-- `mmu_cache_soft_flush`, which takes set and way from a physical address. -/
def mmuCacheSoftFlush {bits : Nat} (cached : Cached bits) (pa : ARMword) : Cached bits :=
  dropLine cached (pa.extractLsb' 7 bits) (pa.extractLsb' 5 2)

structure WbEntry where
  pa : ARMword
  data : List (BitVec 8)

def drainEntry (bigend : Bool) (ram : Ram) (entry : WbEntry) : Ram :=
  (entry.data.foldl
    (fun (state : Ram × ARMword) byte =>
      (bankWrite bigend state.1 .byte state.2 (byte.setWidth 32), state.2 + 1#32))
    (ram, entry.pa)).1

/-- `mmu_wb_drain_all`; the buffer is empty afterwards. -/
def mmuWbDrainAll (bigend : Bool) (ram : Ram) (entries : List WbEntry) : Ram :=
  entries.foldl (drainEntry bigend) ram

/-- `mmu_wb_write_bytes` for at most eight bytes, which take one entry; a full buffer
drains its oldest entry first. -/
def mmuWbWriteBytes (bigend : Bool) (ram : Ram) (entries : List WbEntry) (entry : WbEntry) :
    Ram × List WbEntry :=
  match entries with
  | oldest :: rest =>
      if entries.length = 8 then (drainEntry bigend ram oldest, rest ++ [entry])
      else (ram, entries ++ [entry])
  | [] => (ram, [entry])

structure MmuState where
  control : ARMword
  translationTableBase : ARMword
  domainAccessControl : ARMword
  faultStatus : ARMword
  faultAddress : ARMword
  lastDomain : ARMword
  processId : ARMword
  tlbLockedDown : ARMword
  mainTlb : Tlb 64
  iCache : Cache 6
  dCache : Cache 5
  wb : List WbEntry

/-- Memory with the unit in front of it. -/
structure MmuMemory where
  mmu : MmuState
  ram : Ram

def mmuEnabled (mmu : MmuState) : Bool :=
  mmu.control.getLsbD 0

def mmuAligned (mmu : MmuState) : Bool :=
  mmu.control.getLsbD 1

/-- The macros are constants: neither the data cache nor the write buffer is used. -/
def mmuDCacheEnabled : Bool :=
  false

def mmuWBEnabled : Bool :=
  false

/-- `mmu_pid_va_map`. -/
def mmuPidVaMap (mmu : MmuState) (va : ARMword) : ARMword :=
  if va &&& 0xfe000000#32 ≠ 0#32 then va else va ||| (mmu.processId &&& 0xfe000000#32)

def tlbCFlag (entry : TlbEntry) : Bool :=
  entry.perms.getLsbD 3

def tlbBFlag (entry : TlbEntry) : Bool :=
  entry.perms.getLsbD 2

def checkPerms (mmu : MmuState) (mode : ModeNum) (ap : BitVec 2) (read : Bool) : Bool :=
  let s := mmu.control.getLsbD 8
  let r := mmu.control.getLsbD 9
  let user := inUserMode mode
  match ap with
  | 0#2 => read && ((s && !user) || r)
  | 1#2 => !user
  | 2#2 => read || !user
  | _ => true

def subpage (va : ARMword) : TlbMapping → Nat
  | .tlbSmallpage => ((va >>> 10) &&& 3#32).toNat
  | .tlbLargepage => ((va >>> 14) &&& 3#32).toNat
  | .tlbSection => 3
  | _ => 0

/-- `check_access`, which also leaves the domain of the entry in `last_domain`. -/
def checkAccess (mmu : MmuState) (mode : ModeNum) (va : ARMword) (entry : TlbEntry)
    (read : Bool) : FaultT :=
  let access := mmu.domainAccessControl >>> (2 * entry.domain.toNat) &&& 3#32
  if access = 0#32 ∨ access = 2#32 then .sectionDomainFault
  else if access = 1#32 then
    let ap := (entry.perms >>> (2 * subpage va entry.mapping + 4)).setWidth 2
    if checkPerms mmu mode ap read then .noFault
    else if entry.mapping = .tlbSection then .sectionPermissionFault
    else .subpagePermissionFault
  else .noFault

def walkConfig (signals : Signals) (mem : MmuMemory) : WalkConfig :=
  { memReadWord := bankRead signals.bigendSig mem.ram .word
    translationTableBase := mem.mmu.translationTableBase
    isXScale := signals.isXScale }

/-- The common start of the accesses: `translate` and `check_access`.  The entry is
there when both allow the access. -/
structure Lookup where
  mem : MmuMemory
  fault : FaultT
  entry : Option TlbEntry

def mmuTranslate (signals : Signals) (mode : ModeNum) (read : Bool) (va : ARMword)
    (mem : MmuMemory) : Lookup :=
  let result := translate (walkConfig signals mem) mem.mmu.mainTlb mem.mmu.lastDomain va
  let translated :=
    { mem with mmu := { mem.mmu with mainTlb := result.tlb, lastDomain := result.lastDomain } }
  match result.slot with
  | none => { mem := translated, fault := result.fault, entry := none }
  | some slot =>
      let entry := result.tlb.entrys slot
      let checked :=
        { translated with mmu := { translated.mmu with lastDomain := entry.domain } }
      match checkAccess mem.mmu mode va entry read with
      | .noFault => { mem := checked, fault := .noFault, entry := some entry }
      | fault => { mem := checked, fault, entry := none }

/-- `data` is missing where the access does not write it. -/
structure MmuRead where
  mem : MmuMemory
  fault : FaultT
  data : Option ARMword

def alignmentFails (mmu : MmuState) (size : AccessSize) (va : ARMword) : Bool :=
  mmuAligned mmu &&
    match size with
    | .word => va &&& 3#32 != 0#32
    | .halfword => va &&& 1#32 != 0#32
    | .byte => false

def lowBits (size : AccessSize) (va : ARMword) : ARMword :=
  match size with
  | .byte => va &&& 3#32
  | .halfword => va &&& 2#32
  | .word => 0#32

/-- The addresses that `arm926ejs_mmu_read` special cases. -/
def flushWindow (pa : ARMword) : Bool :=
  0xe0000000#32 ≤ pa && pa < 0xe8000000#32

def drained (signals : Signals) (mem : MmuMemory) : MmuMemory :=
  { mmu := { mem.mmu with wb := [] }
    ram := mmuWbDrainAll signals.bigendSig mem.ram mem.mmu.wb }

/-- A word of a line cut to the width of the access. -/
def extractData (bigend : Bool) (size : AccessSize) (va word : ARMword) : ARMword :=
  match size with
  | .byte => field32 word (byteOffset bigend va) 8
  | .halfword => field32 word (halfwordOffset bigend va) 16
  | .word => word

def readTranslated (signals : Signals) (size : AccessSize) (realVa : ARMword) (entry : TlbEntry)
    (mem : MmuMemory) : MmuRead :=
  let va := realVa &&& ~~~3#32
  let pa := tlbVaToPa entry va
  if flushWindow pa then
    if tlbCFlag entry then
      let flushed := mmuCacheSoftFlush ⟨mem.mmu.dCache, mem.ram⟩ pa
      { mem := { mmu := { mem.mmu with dCache := flushed.cache }, ram := flushed.ram }
        fault := .noFault
        data := none }
    else { mem, fault := .noFault, data := none }
  else
    let buffered := if tlbBFlag entry then drained signals mem else mem
    if tlbCFlag entry && mmuDCacheEnabled then
      let (cached, line) := mmuCacheAlloc ⟨buffered.mmu.dCache, buffered.ram⟩ va pa
      { mem := { mmu := { buffered.mmu with dCache := cached.cache }, ram := cached.ram }
        fault := .noFault
        data := some (extractData signals.bigendSig size realVa (line.data (vaCacheIndex va))) }
    else
      { mem := buffered
        fault := .noFault
        data := some (bankRead signals.bigendSig buffered.ram size (pa ||| lowBits size realVa)) }

def arm926ejsMmuRead (signals : Signals) (size : AccessSize) (mode : ModeNum) (address : ARMword)
    (mem : MmuMemory) : MmuRead :=
  let va := mmuPidVaMap mem.mmu address
  if !mmuEnabled mem.mmu then
    { mem, fault := .noFault, data := some (bankRead signals.bigendSig mem.ram size va) }
  else if alignmentFails mem.mmu size va then { mem, fault := .alignmentFault, data := none }
  else
    let found := mmuTranslate signals mode true (va &&& ~~~3#32) mem
    match found.entry with
    | none => { mem := found.mem, fault := found.fault, data := none }
    | some entry => readTranslated signals size va entry found.mem

/-- `update_cache`. -/
def updateCache (bigend : Bool) (size : AccessSize) (realVa data : ARMword) (line : CacheLine) :
    CacheLine :=
  let index := vaCacheIndex realVa
  let word := line.data index
  let updated :=
    match size with
    | .word => data
    | .halfword => setField32 word (halfwordOffset bigend realVa) 16 data
    | .byte => setField32 word (byteOffset bigend realVa) 8 data
  { line with
    data := Function.update line.data index updated
    tag := line.tag ||| if index < 4#3 then 2#32 else 4#32 }

/-- The bytes of the data in the order of the host, which is little endian. -/
def dataBytes (size : AccessSize) (data : ARMword) : List (BitVec 8) :=
  match size with
  | .byte => [data.extractLsb' 0 8]
  | .halfword => [data.extractLsb' 0 8, data.extractLsb' 8 8]
  | .word => [data.extractLsb' 0 8, data.extractLsb' 8 8, data.extractLsb' 16 8,
      data.extractLsb' 24 8]

def bankWritten (signals : Signals) (size : AccessSize) (pa data : ARMword) (mem : MmuMemory) :
    MmuMemory :=
  { mem with ram := bankWrite signals.bigendSig mem.ram size pa data }

def writeTranslated (signals : Signals) (size : AccessSize) (realVa data : ARMword)
    (entry : TlbEntry) (mem : MmuMemory) : MmuMemory :=
  let va := realVa &&& ~~~3#32
  match mmuCacheSearch mem.mmu.dCache va with
  | some way =>
      let line := mem.mmu.dCache.line (vaCacheSet 5 va) way
      { mem with
        mmu :=
          { mem.mmu with
            dCache := mem.mmu.dCache.setLine (vaCacheSet 5 va) way
              (updateCache signals.bigendSig size realVa data line) } }
  | none =>
      let pa := tlbVaToPa entry va ||| lowBits size realVa
      if tlbBFlag entry then
        if mmuWBEnabled then
          let (ram, wb) := mmuWbWriteBytes signals.bigendSig mem.ram mem.mmu.wb
            ⟨pa, dataBytes size data⟩
          { mmu := { mem.mmu with wb }, ram }
        else bankWritten signals size pa data mem
      else bankWritten signals size pa data (drained signals mem)

structure MmuWrite where
  mem : MmuMemory
  fault : FaultT

def arm926ejsMmuWrite (signals : Signals) (size : AccessSize) (mode : ModeNum)
    (address data : ARMword) (mem : MmuMemory) : MmuWrite :=
  let va := mmuPidVaMap mem.mmu address
  if !mmuEnabled mem.mmu then
    { mem := bankWritten signals size va data mem, fault := .noFault }
  else if alignmentFails mem.mmu size va then { mem, fault := .alignmentFault }
  else
    let found := mmuTranslate signals mode false (va &&& ~~~3#32) mem
    match found.entry with
    | none => { mem := found.mem, fault := found.fault }
    | some entry =>
        { mem := writeTranslated signals size va data entry found.mem, fault := .noFault }

/-- The fetch behind the permission check; `pa` and the cacheable bit come from the
entry, or from the address itself while the unit is off. -/
def fetchTranslated (signals : Signals) (va pa : ARMword) (cacheable : Bool) (mem : MmuMemory) :
    MmuRead :=
  match mmuCacheSearch mem.mmu.iCache va with
  | some way =>
      { mem
        fault := .noFault
        data := some ((mem.mmu.iCache.line (vaCacheSet 6 va) way).data (vaCacheIndex va)) }
  | none =>
      if cacheable then
        let (cached, line) := mmuCacheAlloc ⟨mem.mmu.iCache, mem.ram⟩ va pa
        { mem := { mmu := { mem.mmu with iCache := cached.cache }, ram := cached.ram }
          fault := .noFault
          data := some (line.data (vaCacheIndex va)) }
      else
        { mem
          fault := .noFault
          data := some (bankRead signals.bigendSig mem.ram .word pa) }

def arm926ejsMmuLoadInstr (signals : Signals) (mode : ModeNum) (address : ARMword)
    (mem : MmuMemory) : MmuRead :=
  let va := mmuPidVaMap mem.mmu address
  if mmuEnabled mem.mmu then
    let found := mmuTranslate signals mode true va mem
    match found.entry with
    | none => { mem := found.mem, fault := found.fault, data := none }
    | some entry =>
        fetchTranslated signals va (tlbVaToPa entry va) (tlbCFlag entry) found.mem
  else fetchTranslated signals va va true mem

def withICache (mem : MmuMemory) (operation : Cached 6 → Cached 6) : MmuMemory :=
  let cached := operation ⟨mem.mmu.iCache, mem.ram⟩
  { mmu := { mem.mmu with iCache := cached.cache }, ram := cached.ram }

def withDCache (mem : MmuMemory) (operation : Cached 5 → Cached 5) : MmuMemory :=
  let cached := operation ⟨mem.mmu.dCache, mem.ram⟩
  { mmu := { mem.mmu with dCache := cached.cache }, ram := cached.ram }

/-- `CRm` and `OPC_2`. -/
def crm (instr : ARMword) : BitVec 4 :=
  instr.extractLsb' 0 4

def opc2 (instr : ARMword) : BitVec 3 :=
  instr.extractLsb' 5 3

/-- `arm926ejs_mmu_cache_ops`, with the value it returns. -/
def arm926ejsMmuCacheOps (signals : Signals) (instr value : ARMword) (mem : MmuMemory) :
    MmuMemory × ARMword :=
  match opc2 instr, crm instr with
  | 0#3, 7#4 =>
      (withDCache (withICache mem mmuCacheInvalidateAll) mmuCacheInvalidateAll, 0#32)
  | 0#3, 5#4 => (withICache mem mmuCacheInvalidateAll, 0#32)
  | 1#3, 5#4 => (withICache mem (mmuCacheInvalidate · value), 0#32)
  | 2#3, 5#4 => (withICache mem (mmuCacheInvalidateByIndex · value), 0#32)
  | 0#3, 6#4 => (withDCache mem mmuCacheInvalidateAll, 0#32)
  | 1#3, 6#4 => (withDCache mem (mmuCacheInvalidate · value), 0#32)
  | 2#3, 6#4 => (withDCache mem (mmuCacheInvalidateByIndex · value), 0#32)
  | 1#3, 10#4 => (withDCache mem (mmuCacheClean · value), 0#32)
  | 1#3, 14#4 =>
      (withDCache (withDCache mem (mmuCacheClean · value)) (mmuCacheInvalidate · value), 0#32)
  | 2#3, 10#4 => (withDCache mem (mmuCacheCleanByIndex · value), 0#32)
  | 2#3, 14#4 =>
      (withDCache (withDCache mem (mmuCacheCleanByIndex · value))
        (mmuCacheInvalidateByIndex · value), 0#32)
  | 3#3, 14#4 | 3#3, 10#4 => (mem, 0x40000000#32)
  | 4#3, 10#4 => (drained signals mem, 0#32)
  | _, _ => (mem, 0#32)

def arm926ejsMmuTlbOps (instr value : ARMword) (mmu : MmuState) : MmuState :=
  if crm instr = 5#4 ∨ crm instr = 6#4 ∨ crm instr = 7#4 then
    if opc2 instr = 0#3 then { mmu with mainTlb := mmuTlbInvalidateAll mmu.mainTlb }
    else if opc2 instr = 1#3 then
      { mmu with mainTlb := mmuTlbInvalidateEntry mmu.mainTlb value }
    else mmu
  else mmu

def cregOf (instr : ARMword) : BitVec 4 :=
  instr.extractLsb' 16 4

def arm926ejsMmuMcr (signals : Signals) (instr value : ARMword) (mem : MmuMemory) : MmuMemory :=
  let mmu := mem.mmu
  match cregOf instr with
  | 1#4 => { mem with mmu := { mmu with control := (value ||| 0x50078#32) &&& 0x5f3ff#32 } }
  | 2#4 => { mem with mmu := { mmu with translationTableBase := value &&& 0xffffc000#32 } }
  | 3#4 => { mem with mmu := { mmu with domainAccessControl := value } }
  | 5#4 =>
      if opc2 instr = 0#3 then { mem with mmu := { mmu with faultStatus := value &&& 0xff#32 } }
      else mem
  | 6#4 => { mem with mmu := { mmu with faultAddress := value } }
  | 7#4 => (arm926ejsMmuCacheOps signals instr value mem).1
  | 8#4 => { mem with mmu := arm926ejsMmuTlbOps instr value mmu }
  | 10#4 => { mem with mmu := { mmu with tlbLockedDown := value } }
  | 13#4 => { mem with mmu := { mmu with processId := value &&& 0xfe000000#32 } }
  | _ => mem

/-- `arm926ejs_mmu_mrc`.  The case of the process identifier runs on into the default. -/
def arm926ejsMmuMrc (signals : Signals) (instr : ARMword) (mem : MmuMemory) :
    MmuMemory × ARMword :=
  let mmu := mem.mmu
  match cregOf instr with
  | 0#4 =>
      (mem, match opc2 instr with
        | 0#3 => signals.cpuVal
        | 1#3 => 0x1d0d2112#32
        | _ => 0#32)
  | 1#4 => (mem, (mmu.control ||| 0x50078#32) &&& 0x5f3ff#32)
  | 2#4 => (mem, mmu.translationTableBase &&& 0xffffc000#32)
  | 3#4 => (mem, mmu.domainAccessControl)
  | 5#4 => (mem, if opc2 instr = 0#3 then mmu.faultStatus &&& 0xff#32 else 0#32)
  | 6#4 => (mem, mmu.faultAddress)
  | 7#4 => arm926ejsMmuCacheOps signals instr 0#32 mem
  | 10#4 => (mem, mmu.tlbLockedDown)
  | _ => (mem, 0#32)

def invalidLine : CacheLine :=
  { tag := 0#32, pa := 0#32, data := fun _ => 0#32 }

def emptyCache (bits : Nat) : Cache bits :=
  { sets := fun _ => { lines := fun _ => invalidLine, cycle := 0#2 } }

/-- `arm926ejs_mmu_init`. -/
def arm926ejsMmuInit : MmuState :=
  { control := 0x52078#32
    translationTableBase := 0#32
    domainAccessControl := 0xdeadc0de#32
    faultStatus := 0#32
    faultAddress := 0#32
    lastDomain := 0#32
    processId := 0#32
    tlbLockedDown := 0#32
    mainTlb :=
      { cycle := 0
        entrys := fun _ =>
          { virtAddr := 0#32, physAddr := 0#32, perms := 0#32, domain := 0#32
            mapping := .tlbInvalid } }
    iCache := emptyCache 6
    dCache := emptyCache 5
    wb := [] }

end SkyeyeStarlet
