import SkyeyeStarlet.InterruptLine

/-!
`mach/sha1.c` behind the SHA engine.  The digest words are the registers of the engine; the
rest of the context (counters, block buffer and flags) is not reset between messages.
-/

namespace SkyeyeStarlet

def sha1CircularShift (bits : Nat) (word : ARMword) : ARMword :=
  (word <<< bits) ||| (word >>> (32 - bits))

section Block

abbrev Digest := Fin 5 → ARMword

def digestWord (digest : Digest) (index : Nat) : ARMword :=
  (List.ofFn digest).getD index 0#32

/-- The first sixteen words of `W`. -/
def blockWord (block : Nat → BitVec 8) (t : Nat) : ARMword :=
  block (t * 4) ++ block (t * 4 + 1) ++ block (t * 4 + 2) ++ block (t * 4 + 3)

/-- `W[t]`, for `t` from 16 on, from the words before it. -/
def nextWord (words : List ARMword) (t : Nat) : ARMword :=
  sha1CircularShift 1 (words.getD (t - 3) 0#32 ^^^ words.getD (t - 8) 0#32 ^^^
    words.getD (t - 14) 0#32 ^^^ words.getD (t - 16) 0#32)

def sha1Words (block : Nat → BitVec 8) : List ARMword :=
  (List.range' 16 64).foldl (fun words t => words ++ [nextWord words t])
    ((List.range 16).map (blockWord block))

structure WordBuffers where
  a : ARMword
  b : ARMword
  c : ARMword
  d : ARMword
  e : ARMword

def sha1Round (mixed : WordBuffers → ARMword) (k : ARMword) (buffers : WordBuffers) (w : ARMword) :
    WordBuffers :=
  { a := sha1CircularShift 5 buffers.a + mixed buffers + buffers.e + w + k
    b := buffers.a
    c := sha1CircularShift 30 buffers.b
    d := buffers.c
    e := buffers.d }

/-- Twenty rounds from `t` on. -/
def sha1Rounds (words : List ARMword) (mixed : WordBuffers → ARMword) (k : ARMword) (t : Nat)
    (buffers : WordBuffers) : WordBuffers :=
  (List.range' t 20).foldl (fun buffers t => sha1Round mixed k buffers (words.getD t 0#32)) buffers

def sha1Choose (buffers : WordBuffers) : ARMword :=
  (buffers.b &&& buffers.c) ||| (~~~buffers.b &&& buffers.d)

def sha1Parity (buffers : WordBuffers) : ARMword :=
  buffers.b ^^^ buffers.c ^^^ buffers.d

def sha1Majority (buffers : WordBuffers) : ARMword :=
  (buffers.b &&& buffers.c) ||| (buffers.b &&& buffers.d) ||| (buffers.c &&& buffers.d)

/-- The digest after `SHA1ProcessMessageBlock`. -/
def sha1Compress (digest : Digest) (block : Nat → BitVec 8) : Digest :=
  let words := sha1Words block
  let buffers : WordBuffers :=
    { a := digestWord digest 0
      b := digestWord digest 1
      c := digestWord digest 2
      d := digestWord digest 3
      e := digestWord digest 4 }
  let buffers := sha1Rounds words sha1Choose 0x5a827999#32 0 buffers
  let buffers := sha1Rounds words sha1Parity 0x6ed9eba1#32 20 buffers
  let buffers := sha1Rounds words sha1Majority 0x8f1bbcdc#32 40 buffers
  let buffers := sha1Rounds words sha1Parity 0xca62c1d6#32 60 buffers
  fun index =>
    digest index + [buffers.a, buffers.b, buffers.c, buffers.d, buffers.e].getD index.val 0#32

end Block

section Context

/-- `SHA1Context` without the digest. -/
structure Sha1Rest where
  lengthLow : ARMword
  lengthHigh : ARMword
  messageBlock : Nat → BitVec 8
  messageBlockIndex : Nat
  computed : Bool
  corrupted : Bool

structure Sha1Context where
  digest : Digest
  rest : Sha1Rest

/-- The counters after another byte; the message is too long when both have run over. -/
def countByte (rest : Sha1Rest) : Sha1Rest :=
  let lengthLow := rest.lengthLow + 8#32
  if lengthLow = 0#32 then
    let lengthHigh := rest.lengthHigh + 1#32
    { rest with
      lengthLow
      lengthHigh
      corrupted := if lengthHigh = 0#32 then true else rest.corrupted }
  else { rest with lengthLow }

def sha1ProcessMessageBlock (context : Sha1Context) : Sha1Context :=
  { digest := sha1Compress context.digest context.rest.messageBlock
    rest := { context.rest with messageBlockIndex := 0 } }

/-- The body of the loop of `SHA1Input`: a byte is stored and counted, and a full block
processed. -/
def keepByte (rest : Sha1Rest) (byte : BitVec 8) : Sha1Rest :=
  countByte
    { rest with
      messageBlock := Function.update rest.messageBlock rest.messageBlockIndex byte
      messageBlockIndex := rest.messageBlockIndex + 1 }

def inputByte (context : Sha1Context) (byte : BitVec 8) : Sha1Context :=
  let stored := { context with rest := keepByte context.rest byte }
  if stored.rest.messageBlockIndex = 64 then sha1ProcessMessageBlock stored else stored

def inputBytes : Bytes → Sha1Context → Sha1Context
  | [], context => context
  | byte :: rest, context =>
      if context.rest.corrupted then context else inputBytes rest (inputByte context byte)

def sha1Input (context : Sha1Context) (message : Bytes) : Sha1Context :=
  if message = [] then context
  else if context.rest.computed || context.rest.corrupted then
    { context with rest := { context.rest with corrupted := true } }
  else inputBytes message context

end Context

section Engine

variable {World : Type}

/-- A board whose hash library is `sha1.c` and whose copies from memory read bytes. -/
def shaBoard (base : Board (Sha1Rest × World)) (memReadByte : World → ARMword → BitVec 8) :
    Board (Sha1Rest × World) :=
  { base with
    arm2host := fun machine src index =>
      memReadByte machine.rest.other.2 (src + BitVec.ofNat 32 index)
    sha1Input := fun other digest message =>
      let context := sha1Input { digest, rest := other.1 } message
      ((context.rest, other.2), context.digest) }

/-- `SHA_result`: the digest as bytes. -/
def shaResult (digest : Digest) : Bytes :=
  (List.ofFn digest).flatMap fun word =>
    [word.extractLsb' 24 8, word.extractLsb' 16 8, word.extractLsb' 8 8, word.extractLsb' 0 8]

def starletShaRead (machine : Machine (Sha1Rest × World)) (addr : ARMword) : ARMword :=
  let offset := (addr &&& 0xffff#32).toNat
  if offset ∈ [0x08, 0x0c, 0x10, 0x14, 0x18] then
    let result := shaResult machine.rest.sha.messageDigest
    result.getD (offset - 8) 0#8 ++ result.getD (offset - 7) 0#8 ++
      result.getD (offset - 6) 0#8 ++ result.getD (offset - 5) 0#8
  else 0#32

end Engine

end SkyeyeStarlet
