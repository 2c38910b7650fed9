import Mathlib.Logic.Equiv.Basic

/-!
Block ciphers in a chaining mode.  A mode turns blocks into blocks under a chain value that
moves on with every block.  An engine that is given a message in chunks carries a value from
one chunk to the next, and starts a message with the vector that the last one left.
-/

namespace Chaining

universe u

variable {Block : Type u}

structure Mode (Block : Type u) where
  emit : Block → Block → Block
  next : Block → Block → Block
  /-- An output block tells the chain value that it was made under. -/
  emit_injective : ∀ block, Function.Injective fun chain => emit chain block

def Mode.output (mode : Mode Block) : Block → List Block → List Block
  | _, [] => []
  | chain, block :: rest => mode.emit chain block :: mode.output (mode.next chain block) rest

def Mode.last (mode : Mode Block) (chain : Block) (blocks : List Block) : Block :=
  blocks.foldl mode.next chain

section Modes

variable (mode : Mode Block)

end Modes

section Chunks

variable (carry : Block → List Block → Block) (mode : Mode Block)

/-- The output of an engine that carries a value of its own from a chunk to the next one. -/
def Mode.chunked (carry : Block → List Block → Block) (mode : Mode Block) :
    Block → List (List Block) → List Block
  | _, [] => []
  | chain, chunk :: rest => mode.output chain chunk ++ mode.chunked carry (carry chain chunk) rest

/-- A message in its mode: the chunk that starts it and those that go on. -/
structure Message (Block : Type u) where
  mode : Mode Block
  first : List Block
  rest : List (List Block)
  nonempty : ∀ chunk ∈ first :: rest, chunk ≠ []

def Message.chunks (message : Message Block) : List (List Block) :=
  message.first :: message.rest

/-- The output of an engine that takes the chain value behind the first chunk of a message for
the vector of the next message. -/
def session (carry : Block → List Block → Block) : Block → List (Message Block) →
    List (List Block)
  | _, [] => []
  | vector, message :: more =>
      message.mode.chunked carry vector message.chunks ::
        session carry (message.mode.last vector message.first) more

end Chunks

end Chaining
