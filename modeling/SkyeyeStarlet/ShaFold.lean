import SkyeyeStarlet.Library.Runs
import SkyeyeStarlet.ShaCore
import Mathlib.Data.Fin.VecNotation

/-!
The SHA engine as a fold of the compression function.  A command is a whole number of blocks,
so that the context is back at the start of a block behind every command, and the flags stay
clear as long as the counters have not run over.
-/

namespace SkyeyeStarlet

section Blocks

theorem sha1Compress_congr (digest : Digest) {block other : Nat → BitVec 8}
    (same : ∀ index < 64, block index = other index) :
    sha1Compress digest block = sha1Compress digest other := by
  have first : (List.range 16).map (blockWord block) = (List.range 16).map (blockWord other) := by
    refine List.map_congr_left ?_
    intro t member
    have bound := List.mem_range.mp member
    rw [blockWord, blockWord, same _ (by omega), same _ (by omega), same _ (by omega),
      same _ (by omega)]
  have words : sha1Words block = sha1Words other := by
    rw [sha1Words, sha1Words, first]
  unfold sha1Compress
  rw [words]

def Sha1Rest.hashed (rest : Sha1Rest) : Nat :=
  rest.lengthHigh.toNat * 2 ^ 32 + rest.lengthLow.toNat

structure CountsBits (rest : Sha1Rest) (bits : Nat) : Prop where
  computed : rest.computed = false
  corrupted : rest.corrupted = false
  hashed : rest.hashed = bits
  bytes : bits % 8 = 0

theorem countByte_counting {rest : Sha1Rest} {bits : Nat} (counting : CountsBits rest bits)
    (short : bits + 8 < 2 ^ 64) : CountsBits (countByte rest) (bits + 8) := by
  have hashed := counting.hashed
  have bytes := counting.bytes
  have low := rest.lengthLow.isLt
  have high := rest.lengthHigh.isLt
  unfold Sha1Rest.hashed at hashed
  unfold countByte
  dsimp only
  split
  · rename_i wraps
    have full := congrArg BitVec.toNat wraps
    rw [BitVec.toNat_add] at full
    simp only [BitVec.toNat_ofNat] at full
    have lowest : rest.lengthLow.toNat + 8 = 2 ^ 32 := by
      omega
    have next : (rest.lengthHigh + 1#32).toNat = rest.lengthHigh.toNat + 1 := by
      rw [BitVec.toNat_add]
      simp only [BitVec.toNat_ofNat]
      omega
    have more : rest.lengthHigh + 1#32 ≠ 0#32 := by
      intro overrun
      have last := congrArg BitVec.toNat overrun
      rw [next] at last
      exact absurd last (Nat.succ_ne_zero _)
    refine ⟨counting.computed, ?_, ?_, by omega⟩
    · dsimp only
      rw [if_neg more]
      exact counting.corrupted
    · show (rest.lengthHigh + 1#32).toNat * 2 ^ 32 + (rest.lengthLow + 8#32).toNat = bits + 8
      have empty : (rest.lengthLow + 8#32).toNat = 0 := congrArg BitVec.toNat wraps
      rw [next, empty, Nat.succ_mul, ← hashed, Nat.add_zero, Nat.add_assoc, lowest]
  · rename_i stays
    have room : rest.lengthLow.toNat + 8 ≠ 2 ^ 32 := by
      intro overrun
      apply stays
      apply BitVec.eq_of_toNat_eq
      rw [BitVec.toNat_add]
      simp only [BitVec.toNat_ofNat]
      omega
    refine ⟨counting.computed, counting.corrupted, ?_, ?_⟩
    · unfold Sha1Rest.hashed
      dsimp only
      rw [BitVec.toNat_add]
      simp only [BitVec.toNat_ofNat]
      omega
    · omega

theorem bytesFrom_succ (source : Nat → BitVec 8) (first count : Nat) :
    bytesFrom source first (count + 1) = source first :: bytesFrom source (first + 1) count := by
  rw [bytesFrom, List.range_succ_eq_map, List.map_cons, List.map_map, Nat.add_zero, bytesFrom]
  congr 1
  refine List.map_congr_left ?_
  intro index _
  rw [Function.comp_apply, Nat.succ_eq_add_one, Nat.add_comm index, ← Nat.add_assoc]

structure AtBlock (context : Sha1Context) (bits : Nat) : Prop where
  index : context.rest.messageBlockIndex = 0
  counting : CountsBits context.rest bits

theorem keepByte_block (rest : Sha1Rest) (byte : BitVec 8) :
    (keepByte rest byte).messageBlockIndex = rest.messageBlockIndex + 1 ∧
      (keepByte rest byte).messageBlock =
        Function.update rest.messageBlock rest.messageBlockIndex byte := by
  unfold keepByte countByte
  dsimp only
  split
  · exact ⟨rfl, rfl⟩
  · exact ⟨rfl, rfl⟩

theorem keepByte_counting {rest : Sha1Rest} {bits : Nat} (byte : BitVec 8)
    (counting : CountsBits rest bits) (short : bits + 8 < 2 ^ 64) :
    CountsBits (keepByte rest byte) (bits + 8) := by
  refine countByte_counting ?_ short
  exact ⟨counting.computed, counting.corrupted, counting.hashed, counting.bytes⟩

def StoredFrom (block : Nat → BitVec 8) (rest : Sha1Rest) : Prop :=
  ∀ index < rest.messageBlockIndex, rest.messageBlock index = block index

theorem keepByte_from {block : Nat → BitVec 8} {rest : Sha1Rest} (stored : StoredFrom block rest) :
    StoredFrom block (keepByte rest (block rest.messageBlockIndex)) := by
  obtain ⟨last, bytes⟩ := keepByte_block rest (block rest.messageBlockIndex)
  intro index bound
  rw [last] at bound
  rw [bytes]
  by_cases here : index = rest.messageBlockIndex
  · rw [here, Function.update_self]
  · rw [Function.update_of_ne here]
    exact stored index (by omega)

theorem inputBytes_block (block : Nat → BitVec 8) (more : Bytes) (count : Nat)
    {context : Sha1Context} {bits : Nat}
    (fits : context.rest.messageBlockIndex + (count + 1) = 64)
    (stored : StoredFrom block context.rest) (counting : CountsBits context.rest bits)
    (short : bits + 8 * (count + 1) < 2 ^ 64) :
    ∃ next,
      inputBytes (bytesFrom block context.rest.messageBlockIndex (count + 1) ++ more) context =
        inputBytes more next ∧
      next.digest = sha1Compress context.digest block ∧ AtBlock next (bits + 8 * (count + 1)) := by
  induction count generalizing context bits with
  | zero =>
      obtain ⟨last, _⟩ := keepByte_block context.rest (block context.rest.messageBlockIndex)
      have counted := keepByte_counting (block context.rest.messageBlockIndex) counting short
      have filled := keepByte_from stored
      rw [bytesFrom_succ, List.cons_append, inputBytes, counting.corrupted,
        if_neg Bool.false_ne_true]
      unfold inputByte
      rw [if_pos (last.trans fits)]
      refine ⟨_, rfl, ?_, rfl, counted.computed, counted.corrupted, counted.hashed, counted.bytes⟩
      refine sha1Compress_congr _ ?_
      intro index bound
      exact filled index (by rw [last]; omega)
  | succ count ih =>
      obtain ⟨last, _⟩ := keepByte_block context.rest (block context.rest.messageBlockIndex)
      have counted := keepByte_counting (block context.rest.messageBlockIndex) counting (by omega)
      obtain ⟨next, input, digest, start⟩ := @ih
        { context with rest := keepByte context.rest (block context.rest.messageBlockIndex) }
        (bits + 8) (by dsimp only; rw [last]; omega) (keepByte_from stored) counted (by omega)
      refine ⟨next, ?_, digest, ?_⟩
      · rw [bytesFrom_succ, List.cons_append, inputBytes, counting.corrupted,
          if_neg Bool.false_ne_true]
        unfold inputByte
        rw [if_neg (by dsimp only; rw [last]; omega)]
        dsimp only at input
        rw [last] at input
        exact input
      · rwa [show bits + 8 * (count + 1 + 1) = bits + 8 + 8 * (count + 1) by omega]

def hashBlocks (source : Nat → BitVec 8) (count : Nat) : List (Nat → BitVec 8) :=
  (List.range count).map fun block index => source (64 * block + index)

theorem hashBlocks_add (source : Nat → BitVec 8) (first second : Nat) :
    hashBlocks source (first + second) =
      hashBlocks source first ++ hashBlocks (fun index => source (64 * first + index)) second := by
  rw [hashBlocks, List.range_add, List.map_append, List.map_map, hashBlocks, hashBlocks]
  congr 1
  refine List.map_congr_left ?_
  intro block _
  funext index
  rw [Function.comp_apply, Nat.mul_add, Nat.add_assoc]

theorem bytesFrom_add (source : Nat → BitVec 8) (first second : Nat) :
    bytesFrom source 0 (first + second) =
      bytesFrom source 0 first ++ bytesFrom (fun index => source (first + index)) 0 second := by
  rw [bytesFrom, List.range_add, List.map_append, List.map_map, bytesFrom, bytesFrom]
  congr 1
  refine List.map_congr_left ?_
  intro index _
  rw [Function.comp_apply, Nat.zero_add, Nat.zero_add]

theorem inputBytes_blocks (source : Nat → BitVec 8) (count : Nat) {context : Sha1Context}
    {bits : Nat} (start : AtBlock context bits) (short : bits + 512 * count < 2 ^ 64) :
    (inputBytes (bytesFrom source 0 (64 * count)) context).digest =
        (hashBlocks source count).foldl sha1Compress context.digest ∧
      AtBlock (inputBytes (bytesFrom source 0 (64 * count)) context) (bits + 512 * count) := by
  induction count generalizing source context bits with
  | zero => exact ⟨rfl, start⟩
  | succ count ih =>
      have nothing : StoredFrom source context.rest := by
        intro index bound
        rw [start.index] at bound
        exact absurd bound (Nat.not_lt_zero _)
      have bytes : bytesFrom source 0 (64 * (count + 1)) = bytesFrom source 0 64 ++
          bytesFrom (fun index => source (64 + index)) 0 (64 * count) := by
        rw [Nat.mul_succ, Nat.add_comm, bytesFrom_add]
      have blocks : hashBlocks source (count + 1) =
          source :: hashBlocks (fun index => source (64 + index)) count := by
        rw [Nat.add_comm, hashBlocks_add]
        simp [hashBlocks]
      have room : bits + 8 * (63 + 1) ≤ bits + 512 * (count + 1) := by
        omega
      obtain ⟨next, input, digest, again⟩ := inputBytes_block source
        (bytesFrom (fun index => source (64 + index)) 0 (64 * count)) 63
        (by rw [start.index]) nothing start.counting (Nat.lt_of_le_of_lt room short)
      rw [start.index] at input
      obtain ⟨folded, last⟩ := ih (fun index => source (64 + index)) again (by omega)
      rw [bytes, input, blocks, List.foldl_cons, folded, digest]
      refine ⟨rfl, ?_⟩
      rwa [show bits + 512 * (count + 1) = bits + 8 * (63 + 1) + 512 * count by omega]

theorem sha1Input_blocks (source : Nat → BitVec 8) (count : Nat) {context : Sha1Context}
    {bits : Nat} (start : AtBlock context bits) (short : bits + 512 * count < 2 ^ 64) :
    (sha1Input context (bytesFrom source 0 (64 * count))).digest =
        (hashBlocks source count).foldl sha1Compress context.digest ∧
      AtBlock (sha1Input context (bytesFrom source 0 (64 * count))) (bits + 512 * count) := by
  have blocks := inputBytes_blocks source count start short
  unfold sha1Input
  rw [start.counting.computed, start.counting.corrupted, Bool.or_false, if_neg Bool.false_ne_true]
  split
  · rename_i empty
    rw [empty] at blocks
    exact blocks
  · exact blocks

end Blocks

section Commands

variable {World : Type} (base : Board (Sha1Rest × World))
  (memReadByte : World → ARMword → BitVec 8)

def shaContext (machine : Machine (Sha1Rest × World)) : Sha1Context :=
  { digest := machine.rest.sha.messageDigest, rest := machine.rest.other.1 }

def shaBlocks (data : ARMword) : Nat :=
  (data &&& 0xfff#32).toNat + 1

def guestBlocks (memory : ARMword → BitVec 8) (src : ARMword) (count : Nat) :
    List (Nat → BitVec 8) :=
  hashBlocks (fun index => memory (src + BitVec.ofNat 32 index)) count

theorem guestBlocks_add (memory : ARMword → BitVec 8) (src : ARMword) (first second : Nat) :
    guestBlocks memory src (first + second) =
      guestBlocks memory src first ++
        guestBlocks memory (src + BitVec.ofNat 32 (64 * first)) second := by
  rw [guestBlocks, hashBlocks_add, guestBlocks, guestBlocks]
  congr 2
  funext index
  rw [BitVec.ofNat_add, BitVec.add_assoc]

structure Hashed (machine after : Machine (Sha1Rest × World)) (count bits : Nat) : Prop where
  digest : after.rest.sha.messageDigest =
    (guestBlocks (memReadByte machine.rest.other.2) machine.rest.sha.srcPtr count).foldl
      sha1Compress machine.rest.sha.messageDigest
  srcPtr : after.rest.sha.srcPtr = machine.rest.sha.srcPtr + BitVec.ofNat 32 (64 * count)
  ready : AtBlock (shaContext after) (bits + 512 * count)
  world : after.rest.other.2 = machine.rest.other.2

theorem starletShaCommand_hashed {machine : Machine (Sha1Rest × World)} {data : ARMword}
    {bits : Nat} (starts : (data &&& 0x80000000#32 != 0#32) = true)
    (ready : AtBlock (shaContext machine) bits)
    (short : bits + 512 * shaBlocks data < 2 ^ 64) :
    Hashed memReadByte machine
      (starletShaCommand (shaBoard base memReadByte) machine data) (shaBlocks data) bits := by
  have bytes : ((data &&& 0xfff#32).toNat + 1) * 0x40 = 64 * shaBlocks data := Nat.mul_comm _ _
  obtain ⟨digest, again⟩ := sha1Input_blocks
    (fun index => memReadByte machine.rest.other.2
      (machine.rest.sha.srcPtr + BitVec.ofNat 32 index)) (shaBlocks data) ready short
  unfold starletShaCommand
  rw [starts, if_pos rfl, bytes]
  dsimp only
  split
  · exact ⟨digest, rfl, again, rfl⟩
  · exact ⟨digest, rfl, again, rfl⟩

end Commands

section Messages

variable {World : Type} (base : Board (Sha1Rest × World))
  (memReadByte : World → ARMword → BitVec 8)

def startsHash (addr data : ARMword) : Bool :=
  (addr &&& 0xffff#32).toNat == 0 && data &&& 0x80000000#32 != 0#32

/-- A write to a register of the engine, whose command fits `SHA_buf`, or anything else that
happens to the machine. -/
inductive ShaEvent (World : Type) where
  | write (addr data : ARMword) (fits : startsHash addr data = true → shaBlocks data ≤ 0x400)
  | elsewhere (change : Machine (Sha1Rest × World) → Machine (Sha1Rest × World))
      (kept : ∀ machine, (change machine).rest.sha = machine.rest.sha ∧
        (change machine).rest.other.1 = machine.rest.other.1)

def shaStep (machine : Machine (Sha1Rest × World)) : ShaEvent World → Machine (Sha1Rest × World)
  | .write addr data _ => starletShaWrite (shaBoard base memReadByte) machine addr data
  | .elsewhere change _ => change machine

def ShaEvent.bits : ShaEvent World → Nat
  | .write addr data _ => if startsHash addr data then 512 * shaBlocks data else 0
  | .elsewhere _ _ => 0

def hashedBits (events : List (ShaEvent World)) : Nat :=
  (events.map ShaEvent.bits).sum

theorem starletShaWrite_ready {machine : Machine (Sha1Rest × World)} {bits : Nat}
    (ready : AtBlock (shaContext machine) bits) (addr data : ARMword)
    (short : bits + (if startsHash addr data then 512 * shaBlocks data else 0) < 2 ^ 64) :
    AtBlock (shaContext (starletShaWrite (shaBoard base memReadByte) machine addr data))
      (bits + if startsHash addr data then 512 * shaBlocks data else 0) := by
  have elsewhere (register : (addr &&& 0xffff#32).toNat ≠ 0) : startsHash addr data = false := by
    rw [startsHash, beq_false_of_ne register, Bool.false_and]
  unfold starletShaWrite
  split
  case h_1 control =>
    cases starts : data &&& 0x80000000#32 != 0#32 with
    | true =>
        have hashes : startsHash addr data = true := by
          rw [startsHash, control, starts]
          rfl
        rw [hashes, if_pos rfl] at short ⊢
        exact (starletShaCommand_hashed base memReadByte starts ready short).ready
    | false =>
        have idle : startsHash addr data = false := by
          rw [startsHash, starts, Bool.and_false]
        unfold starletShaCommand
        rw [idle, starts, if_neg Bool.false_ne_true, if_neg Bool.false_ne_true]
        exact ready
  all_goals
    rename_i register
    rw [elsewhere (by omega), if_neg Bool.false_ne_true]
    exact ⟨ready.index, ready.counting⟩

theorem shaRun_ready (events : List (ShaEvent World)) {machine : Machine (Sha1Rest × World)}
    {bits : Nat} (ready : AtBlock (shaContext machine) bits)
    (short : bits + hashedBits events < 2 ^ 64) :
    AtBlock (shaContext (Runs.run (shaStep base memReadByte) machine events))
      (bits + hashedBits events) := by
  induction events generalizing machine bits with
  | nil => exact ready
  | cons event rest ih =>
      have total : bits + hashedBits (event :: rest) = bits + event.bits + hashedBits rest := by
        rw [hashedBits, List.map_cons, List.sum_cons, ← hashedBits, Nat.add_assoc]
      rw [total] at short ⊢
      have now : bits + event.bits < 2 ^ 64 := Nat.lt_of_le_of_lt (Nat.le_add_right _ _) short
      rw [Runs.run_cons]
      refine ih ?_ short
      cases event with
      | write addr data fits => exact starletShaWrite_ready base memReadByte ready addr data now
      | elsewhere change kept =>
          have same : (change machine).rest.other.1 = machine.rest.other.1 := (kept machine).2
          refine ⟨?_, ?_⟩
          · show (change machine).rest.other.1.messageBlockIndex = 0
            rw [same]
            exact ready.index
          · show CountsBits (change machine).rest.other.1 bits
            rw [same]
            exact ready.counting

structure ShaCommand where
  data : ARMword
  starts : (data &&& 0x80000000#32 != 0#32) = true
  fits : shaBlocks data ≤ 0x400

def commandBlocks (commands : List ShaCommand) : Nat :=
  (commands.map fun command => shaBlocks command.data).sum

def runCommands (machine : Machine (Sha1Rest × World)) (commands : List ShaCommand) :
    Machine (Sha1Rest × World) :=
  Runs.run (fun machine command =>
    starletShaWrite (shaBoard base memReadByte) machine 0x0d030000#32 command.data) machine commands

theorem runCommands_hashed (commands : List ShaCommand) {machine : Machine (Sha1Rest × World)}
    {bits : Nat} (ready : AtBlock (shaContext machine) bits)
    (short : bits + 512 * commandBlocks commands < 2 ^ 64) :
    Hashed memReadByte machine (runCommands base memReadByte machine commands)
      (commandBlocks commands) bits := by
  induction commands generalizing machine bits with
  | nil => exact ⟨rfl, (BitVec.add_zero _).symm, ready, rfl⟩
  | cons command rest ih =>
      have total : commandBlocks (command :: rest) =
          shaBlocks command.data + commandBlocks rest := by
        rw [commandBlocks, List.map_cons, List.sum_cons, ← commandBlocks]
      have bits_eq : bits + 512 * commandBlocks (command :: rest) =
          bits + 512 * shaBlocks command.data + 512 * commandBlocks rest := by
        rw [total, Nat.mul_add, Nat.add_assoc]
      rw [bits_eq] at short
      have first := starletShaCommand_hashed base memReadByte command.starts ready
        (Nat.lt_of_le_of_lt (Nat.le_add_right _ _) short)
      have later := ih first.ready short
      refine ⟨?_, ?_, ?_, ?_⟩
      · refine later.digest.trans ?_
        rw [first.digest, first.srcPtr, first.world, total, guestBlocks_add, List.foldl_append]
      · refine later.srcPtr.trans ?_
        rw [first.srcPtr, total, Nat.mul_add, BitVec.ofNat_add, BitVec.add_assoc]
      · rw [bits_eq]
        exact later.ready
      · exact later.world.trans first.world

def startHash (machine : Machine (Sha1Rest × World)) (digest : Digest) (src : ARMword) :
    Machine (Sha1Rest × World) :=
  let write := starletShaWrite (shaBoard base memReadByte)
  let loaded := (List.range 5).foldl
    (fun machine index => write machine (0x0d030008#32 + BitVec.ofNat 32 (4 * index))
      (digestWord digest index)) machine
  write loaded 0x0d030004#32 src

theorem fin_five_cases (index : Fin 5) :
    index = 0 ∨ index = 1 ∨ index = 2 ∨ index = 3 ∨ index = 4 := by
  revert index
  decide

theorem startHash_registers (machine : Machine (Sha1Rest × World)) (digest : Digest)
    (src : ARMword) :
    (startHash base memReadByte machine digest src).rest.sha =
        { messageDigest := digest, srcPtr := src } ∧
      (startHash base memReadByte machine digest src).rest.other = machine.rest.other := by
  refine ⟨?_, rfl⟩
  have same : (startHash base memReadByte machine digest src).rest.sha.messageDigest = digest := by
    funext index
    rcases fin_five_cases index with rfl | rfl | rfl | rfl | rfl <;> rfl
  rw [← same]
  rfl

theorem starletShaRead_digest (machine : Machine (Sha1Rest × World)) (index : Fin 5) :
    starletShaRead machine (0x0d030008#32 + BitVec.ofNat 32 (4 * index.val)) =
      machine.rest.sha.messageDigest index := by
  rcases fin_five_cases index with rfl | rfl | rfl | rfl | rfl
  · exact WordBits.bytes_append _
  · exact WordBits.bytes_append _
  · exact WordBits.bytes_append _
  · exact WordBits.bytes_append _
  · exact WordBits.bytes_append _

/-- `SHA_ctx` as a variable of the program starts. -/
def powerOnRest : Sha1Rest :=
  { lengthLow := 0#32
    lengthHigh := 0#32
    messageBlock := fun _ => 0#8
    messageBlockIndex := 0
    computed := false
    corrupted := false }

/-- After any history, a message is hashed as the fold of its blocks however it is cut into
commands, and the engine is at the start of a block again, with its flags clear. -/
theorem sha_fold (base : Board (Sha1Rest × World)) (memReadByte : World → ARMword → BitVec 8)
    (machine : Machine (Sha1Rest × World)) (powerOn : machine.rest.other.1 = powerOnRest)
    (history : List (ShaEvent World)) (digest : Digest) (src : ARMword)
    (commands : List ShaCommand)
    (short : hashedBits history + 512 * commandBlocks commands < 2 ^ 64) :
    let before := Runs.run (shaStep base memReadByte) machine history
    let started := startHash base memReadByte before digest src
    let after := runCommands base memReadByte started commands
    (∀ index : Fin 5, starletShaRead after (0x0d030008#32 + BitVec.ofNat 32 (4 * index.val)) =
        (guestBlocks (memReadByte before.rest.other.2) src (commandBlocks commands)).foldl
          sha1Compress digest index) ∧
      after.rest.sha.srcPtr = src + BitVec.ofNat 32 (64 * commandBlocks commands) ∧
      AtBlock (shaContext after) (hashedBits history + 512 * commandBlocks commands) := by
  intro before started after
  have start : AtBlock (shaContext machine) 0 := by
    refine ⟨?_, ?_, ?_, ?_, rfl⟩ <;> simp only [shaContext, powerOn] <;> rfl
  have bound : 0 + hashedBits history < 2 ^ 64 := by
    rw [Nat.zero_add]
    exact Nat.lt_of_le_of_lt (Nat.le_add_right _ _) short
  have ready := shaRun_ready base memReadByte history start bound
  rw [Nat.zero_add] at ready
  obtain ⟨registers, kept⟩ := startHash_registers base memReadByte before digest src
  have begun : AtBlock (shaContext (startHash base memReadByte before digest src))
      (hashedBits history) := by
    refine ⟨?_, ?_⟩
    · show (startHash base memReadByte before digest src).rest.other.1.messageBlockIndex = 0
      rw [kept]
      exact ready.index
    · show CountsBits (startHash base memReadByte before digest src).rest.other.1 _
      rw [kept]
      exact ready.counting
  have hashed := runCommands_hashed base memReadByte commands begun short
  have digests := hashed.digest
  have pointer := hashed.srcPtr
  rw [registers] at pointer
  rw [registers, kept] at digests
  refine ⟨?_, pointer, hashed.ready⟩
  intro index
  rw [starletShaRead_digest]
  exact congrFun digests index

end Messages

section Examples

def hashBoard : Board (Sha1Rest × Unit) :=
  { region := starletBoard.region
    memWrite := fun _ other _ _ => other
    plainWrite := fun _ other _ _ => other
    arm2host := fun _ _ _ => 0#8
    aesCbcEncrypt := starletBoard.aesCbcEncrypt
    sha1Input := fun other digest _ => (other, digest)
    disc := none
    card := starletBoard.card
    cardSize := starletBoard.cardSize
    nandSend := fun other _ _ => other
    nandData := fun _ _ => 0#8
    nandRead := fun other _ => other
    nandProgram := fun other _ => other
    calcEcc := starletBoard.calcEcc
    nandInterrupt := starletBoard.nandInterrupt }

def hashMachine : Machine (Sha1Rest × Unit) :=
  { irq := resetMachine.irq
    ipc := resetMachine.ipc
    timer := resetMachine.timer
    alarm := resetMachine.alarm
    ppcRunning := resetMachine.ppcRunning
    ipcs := resetMachine.ipcs
    lastPpcState := resetMachine.lastPpcState
    exited := resetMachine.exited
    rest :=
      { di := resetMachine.rest.di
        aes := resetMachine.rest.aes
        sha := resetMachine.rest.sha
        sdhc := resetMachine.rest.sdhc
        sdAppCmd := resetMachine.rest.sdAppCmd
        nand := resetMachine.rest.nand
        resetFlags := resetMachine.rest.resetFlags
        other := (powerOnRest, ()) } }

/-- Two commands of one block and of two. -/
theorem sha_fold_three :
    let memory : Unit → ARMword → BitVec 8 := fun _ addr => addr.setWidth 8
    let digest : Digest := ![0x67452301#32, 0xefcdab89#32, 0x98badcfe#32, 0x10325476#32,
      0xc3d2e1f0#32]
    let started := startHash hashBoard memory hashMachine digest 0x1000#32
    let after := runCommands hashBoard memory started
      [⟨0x80000000#32, by decide, by decide⟩, ⟨0x80000001#32, by decide, by decide⟩]
    (∀ index : Fin 5, starletShaRead after (0x0d030008#32 + BitVec.ofNat 32 (4 * index.val)) =
        (guestBlocks (memory ()) 0x1000#32 3).foldl sha1Compress digest index) ∧
      after.rest.sha.srcPtr = 0x10c0#32 := by
  intro memory digest started after
  have hashed := sha_fold hashBoard memory hashMachine rfl [] digest 0x1000#32
    [⟨0x80000000#32, by decide, by decide⟩, ⟨0x80000001#32, by decide, by decide⟩] (by decide)
  exact ⟨hashed.1, hashed.2.1⟩

end Examples

end SkyeyeStarlet
