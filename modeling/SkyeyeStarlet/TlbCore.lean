import Mathlib.Data.List.FinRange
import SkyeyeStarlet.Library.Runs

/-!
The translation lookaside buffer of `mmu/tlb.c` and the two-level walk that
fills it.  Page tables are read through `memReadWord`, so a fixed function stands
for tables that do not change.  A C pointer into the buffer is the index of its
slot, and `none` is the null pointer.
-/

namespace SkyeyeStarlet

abbrev ARMword := BitVec 32

inductive FaultT where
  | noFault
  | alignmentFault
  | sectionTranslationFault
  | pageTranslationFault
  | sectionDomainFault
  | pageDomainFault
  | sectionPermissionFault
  | subpagePermissionFault
  deriving DecidableEq, Repr

inductive TlbMapping where
  | tlbInvalid
  | tlbSmallpage
  | tlbLargepage
  | tlbSection
  | tlbEsmallpage
  | tlbTinypage
  deriving DecidableEq, Repr

def tlbMasks : TlbMapping → ARMword
  | .tlbInvalid => 0x00000000#32
  | .tlbSmallpage => 0xFFFFF000#32
  | .tlbLargepage => 0xFFFF0000#32
  | .tlbSection => 0xFFF00000#32
  | .tlbEsmallpage => 0xFFFFF000#32
  | .tlbTinypage => 0xFFFFFC00#32

structure TlbEntry where
  virtAddr : ARMword
  physAddr : ARMword
  perms : ARMword
  domain : ARMword
  mapping : TlbMapping
  deriving DecidableEq, Repr

structure Tlb (num : Nat) where
  cycle : Fin num
  entrys : Fin num → TlbEntry

def tlbVaToPa (entry : TlbEntry) (va : ARMword) : ARMword :=
  (entry.physAddr &&& tlbMasks entry.mapping) ||| (va &&& ~~~(tlbMasks entry.mapping))

structure WalkConfig where
  memReadWord : ARMword → ARMword
  translationTableBase : ARMword
  isXScale : Bool

/-- A walk that finds no entry: the fault code, and the domain that a second
level failure leaves in `last_domain`. -/
structure WalkFault where
  code : FaultT
  lastDomain : Option ARMword
  deriving DecidableEq, Repr

def l1Addr (config : WalkConfig) (va : ARMword) : ARMword :=
  ((config.translationTableBase &&& 0xFFFFC000#32) ||| (va >>> 18)) &&& ~~~3#32

def fineL2Addr (l1desc va : ARMword) : ARMword :=
  ((l1desc &&& 0xFFFFF000#32) ||| ((va &&& 0x000FFC00#32) >>> 8)) &&& ~~~3#32

def coarseL2Addr (l1desc va : ARMword) : ARMword :=
  ((l1desc &&& 0xFFFFFC00#32) ||| ((va &&& 0x000FF000#32) >>> 10)) &&& ~~~3#32

def l1Domain (l1desc : ARMword) : ARMword :=
  (l1desc >>> 5) &&& 0x0000000F#32

/-- The entry a walk stores, after both addresses are cut to the page. -/
def maskedEntry (va desc perms domain : ARMword) (mapping : TlbMapping) : TlbEntry :=
  { virtAddr := va &&& tlbMasks mapping
    physAddr := desc &&& tlbMasks mapping
    perms
    domain
    mapping }

def fineMapping (l2desc : ARMword) : Option TlbMapping :=
  if l2desc &&& 3#32 = 0#32 then none
  else if l2desc &&& 3#32 = 3#32 then some .tlbTinypage
  else if l2desc &&& 3#32 = 1#32 then some .tlbLargepage
  else some .tlbSmallpage

def coarseMapping (isXScale : Bool) (l2desc : ARMword) : Option TlbMapping :=
  if l2desc &&& 3#32 = 0#32 then none
  else if l2desc &&& 3#32 = 3#32 then if isXScale then some .tlbEsmallpage else none
  else if l2desc &&& 3#32 = 1#32 then some .tlbLargepage
  else some .tlbSmallpage

def pageEntry (l1desc l2desc va : ARMword) : Option TlbMapping → Except WalkFault TlbEntry
  | none => .error { code := .pageTranslationFault, lastDomain := some (l1Domain l1desc) }
  | some mapping =>
      .ok (maskedEntry va l2desc (l2desc &&& 0x00000FFC#32) (l1Domain l1desc) mapping)

/-- The part of `translate` that runs when the search finds nothing. -/
def walk (config : WalkConfig) (va : ARMword) : Except WalkFault TlbEntry :=
  let l1desc := config.memReadWord (l1Addr config va)
  if l1desc &&& 3#32 = 0#32 then
    .error { code := .pageTranslationFault, lastDomain := none }
  else if l1desc &&& 3#32 = 3#32 then
    let l2desc := config.memReadWord (fineL2Addr l1desc va)
    pageEntry l1desc l2desc va (fineMapping l2desc)
  else if l1desc &&& 3#32 = 1#32 then
    let l2desc := config.memReadWord (coarseL2Addr l1desc va)
    pageEntry l1desc l2desc va (coarseMapping config.isXScale l2desc)
  else
    .ok (maskedEntry va l1desc (l1desc &&& 0x00000C0C#32) (l1Domain l1desc) .tlbSection)

def tlbHit (va : ARMword) (entry : TlbEntry) : Bool :=
  entry.mapping != .tlbInvalid &&
    (va &&& tlbMasks entry.mapping == entry.virtAddr &&& tlbMasks entry.mapping)

def mmuTlbSearch {num : Nat} (tlb : Tlb num) (va : ARMword) : Option (Fin num) :=
  (List.finRange num).find? fun slot => tlbHit va (tlb.entrys slot)

def invalidEntry (entry : TlbEntry) : TlbEntry :=
  { entry with mapping := .tlbInvalid }

def mmuTlbInvalidateAll {num : Nat} (tlb : Tlb num) : Tlb num :=
  { cycle := ⟨0, Nat.lt_of_le_of_lt (Nat.zero_le _) tlb.cycle.isLt⟩
    entrys := fun slot => invalidEntry (tlb.entrys slot) }

def mmuTlbInvalidateEntry {num : Nat} (tlb : Tlb num) (va : ARMword) : Tlb num :=
  match mmuTlbSearch tlb va with
  | some slot =>
      { tlb with entrys := Function.update tlb.entrys slot (invalidEntry (tlb.entrys slot)) }
  | none => tlb

def nextCycle {num : Nat} (cycle : Fin num) : Fin num :=
  ⟨(cycle.val + 1) % num, Nat.mod_lt _ (Nat.lt_of_le_of_lt (Nat.zero_le _) cycle.isLt)⟩

structure TranslateResult (num : Nat) where
  tlb : Tlb num
  lastDomain : ARMword
  fault : FaultT
  slot : Option (Fin num)

def translate {num : Nat} (config : WalkConfig) (tlb : Tlb num) (lastDomain va : ARMword) :
    TranslateResult num :=
  match mmuTlbSearch tlb va with
  | some slot =>
      { tlb
        lastDomain := (tlb.entrys slot).domain
        fault := .noFault
        slot := some slot }
  | none =>
      match walk config va with
      | .error failure =>
          { tlb
            lastDomain := failure.lastDomain.getD lastDomain
            fault := failure.code
            slot := none }
      | .ok entry =>
          { tlb :=
              { cycle := nextCycle tlb.cycle
                entrys := Function.update tlb.entrys tlb.cycle entry }
            lastDomain := entry.domain
            fault := .noFault
            slot := some tlb.cycle }

inductive TlbOp where
  | translate (va : ARMword)
  | invalidateEntry (va : ARMword)

structure TlbState (num : Nat) where
  tlb : Tlb num
  lastDomain : ARMword

def tlbStep {num : Nat} (config : WalkConfig) (state : TlbState num) : TlbOp → TlbState num
  | .translate va =>
      let result := translate config state.tlb state.lastDomain va
      { tlb := result.tlb, lastDomain := result.lastDomain }
  | .invalidateEntry va =>
      { state with tlb := mmuTlbInvalidateEntry state.tlb va }

end SkyeyeStarlet
