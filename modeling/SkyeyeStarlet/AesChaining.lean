import SkyeyeStarlet.InterruptLine
import SkyeyeStarlet.Library.Chaining
import Mathlib.Data.Fin.VecNotation
import Mathlib.Data.Fintype.Basic
import Mathlib.Data.List.OfFn

/-!
Messages through the AES engine in several commands.  The engine hands the IV register to the
cipher, which leaves the chain value in it, and keeps the last source block as the vector of a
command that goes on.
-/

namespace SkyeyeStarlet

section Blocks

end Blocks

section Commands

variable {Other : Type} (board : Board Other)

/-- A command that starts the cipher, in its direction, with the IV register or chained. -/
structure CipherCommand (command : ARMword) (chained encrypts : Bool) : Prop where
  starts : (command &&& 0x80000000#32 != 0#32) = true
  ciphers : (command &&& 0x10000000#32 != 0#32) = true
  direction : (command &&& 0x08000000#32 == 0#32) = encrypts
  vector : (command &&& 0x1000#32 != 0#32) = chained

variable {board}

variable {cipher : Bytes → Equiv.Perm AesBlock}

end Commands

section Sessions

variable {Other : Type}

/-- A command, and what happens elsewhere before it: new pointers, new data, other devices. -/
structure AesStep (Other : Type) where
  between : Machine Other → Machine Other
  kept : ∀ machine, (between machine).rest.aes.key = machine.rest.aes.key ∧
    (between machine).rest.aes.iv = machine.rest.aes.iv ∧
    (between machine).rest.aes.tempIv = machine.rest.aes.tempIv
  command : ARMword

/-- A message in one direction: a command that starts from the IV register, then chained ones. -/
structure AesMessage (Other : Type) where
  encrypts : Bool
  first : AesStep Other
  rest : List (AesStep Other)
  starts : CipherCommand first.command false encrypts
  continues : ∀ step ∈ rest, CipherCommand step.command true encrypts

def AesMessage.steps (message : AesMessage Other) : List (AesStep Other) :=
  message.first :: message.rest

variable {board : Board Other} {cipher : Bytes → Equiv.Perm AesBlock}

end Sessions

section Examples

end Examples

end SkyeyeStarlet
