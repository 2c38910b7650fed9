import SkyeyeStarlet.Library.Runs
import SkyeyeStarlet.TlbCore

/-!
Interrupt controller, mailbox and host side of the mailbox, from
`mach/skyeye_mach_starlet.c`.  `Host` holds the fields of `starlet_io_t` that
these functions touch, the static variables of `starlet_do_ipc` and the two
interrupt pins of the core; `rest` is everything else of the machine, which only
the memory services of the client protocol reach.
-/

namespace SkyeyeStarlet

/-- The pins are `true` for `HIGH`. -/
structure Irq where
  irqActive : ARMword
  irqEnabled : ARMword
  irqActivePpc : ARMword
  irqEnabledPpc : ARMword
  nirqSig : Bool
  nfiqSig : Bool
  deriving DecidableEq, Repr

def starletUpdateInt (irq : Irq) : Irq :=
  { irq with
    nfiqSig := true
    nirqSig := irq.irqActive &&& irq.irqEnabled == 0#32 }

def starletUpdateIntr (irq : Irq) : Irq :=
  { irq with nirqSig := irq.irqActive &&& irq.irqEnabled == 0#32 }

def intrBit (interrupt : Nat) : ARMword :=
  1#32 <<< interrupt

def starletSetIntr (irq : Irq) (interrupt : Nat) : Irq :=
  { irq with
    irqActive := irq.irqActive ||| intrBit interrupt
    irqActivePpc := irq.irqActivePpc ||| intrBit interrupt }

def starletPendingIntr (irq : Irq) (interrupt : Nat) : Bool :=
  irq.irqActive &&& intrBit interrupt != 0#32

def starletPendingIntrPpc (irq : Irq) (interrupt : Nat) : Bool :=
  irq.irqActivePpc &&& intrBit interrupt != 0#32

structure Ipc where
  ppcmsg : ARMword
  ppcctrl : ARMword
  armmsg : ARMword
  armctrl : ARMword
  deriving DecidableEq, Repr

def setIf (condition : Bool) (word bits : ARMword) : ARMword :=
  if condition then word ||| bits else word

def clearIf (condition : Bool) (word bits : ARMword) : ARMword :=
  if condition then word &&& ~~~bits else word

/-- A control word after its owner writes `data`: plain bits are taken from the
data, the two flags raised by the other side are cleared where it is one. -/
def ownControl (control data : ARMword) : ARMword :=
  ((control &&& 0x06#32) ||| (data &&& 0x39#32)) &&& ~~~(data &&& 0x06#32)

def peerControl (control data : ARMword) : ARMword :=
  let raised := setIf (data &&& 0x08#32 != 0#32)
    (setIf (data &&& 0x01#32 != 0#32) (control &&& 0x39#32) 0x04#32) 0x02#32
  clearIf (data &&& 0x04#32 != 0#32) (clearIf (data &&& 0x02#32 != 0#32) raised 0x08#32) 0x01#32

def starletIpcWrite (ipc : Ipc) (addr data : ARMword) : Ipc :=
  if addr = 0#32 then { ipc with ppcmsg := data }
  else if addr = 4#32 then
    { ipc with ppcctrl := ownControl ipc.ppcctrl data, armctrl := peerControl ipc.armctrl data }
  else if addr = 8#32 then { ipc with armmsg := data }
  else if addr = 12#32 then
    { ipc with armctrl := ownControl ipc.armctrl data, ppcctrl := peerControl ipc.ppcctrl data }
  else ipc

def ipcSet (ipc : Ipc) (bits : ARMword) : Ipc :=
  starletIpcWrite ipc 4#32 ((ipc.ppcctrl &&& 0x3C#32) ||| bits)

def ipcRequests (control : ARMword) : Bool :=
  control &&& 0x14#32 == 0x14#32 || control &&& 0x22#32 == 0x22#32

def ipcUpdateInt (ipc : Ipc) (irq : Irq) : Irq :=
  let ppc :=
    if ipcRequests ipc.ppcctrl then
      starletUpdateInt (if starletPendingIntrPpc irq 30 then irq else starletSetIntr irq 30)
    else irq
  if ipcRequests ipc.armctrl then
    starletUpdateInt (if starletPendingIntr ppc 31 then ppc else starletSetIntr ppc 31)
  else ppc

inductive IpcState where
  | ipcInit
  | ipcAccept
  | ipcIdle
  | ipcSndack
  deriving DecidableEq, Repr

structure Host (Rest : Type) where
  irq : Irq
  ipc : Ipc
  timer : ARMword
  alarm : ARMword
  ppcRunning : ARMword
  ipcs : IpcState
  lastPpcState : ARMword
  exited : Bool
  rest : Rest

abbrev Bytes := List (BitVec 8)

inductive Sent where
  | message (arg : ARMword)
  | ack
  | status (running : ARMword)
  | read (arg : ARMword) (payload : Bytes)
  | state (payload : Bytes)
  deriving DecidableEq, Repr

inductive Received where
  | nothing
  | broken
  | message (arg : ARMword)
  | ack
  | read (arg len : ARMword)
  | write (arg : ARMword) (payload : Bytes)
  | state
  | exit
  | unknown (msg : ARMword)
  deriving DecidableEq, Repr

structure CycleInput where
  accepts : Bool
  received : Received
  delivers : Sent → Bool

inductive CopyWidth where
  | byte
  | halfword
  | word
  deriving DecidableEq, Repr

def copyWidth (arg len : ARMword) : CopyWidth :=
  if arg &&& 3#32 = 0#32 ∧ len &&& 3#32 = 0#32 then .word
  else if arg &&& 1#32 = 0#32 ∧ len &&& 1#32 = 0#32 then .halfword
  else .byte

structure Services (Rest : Type) where
  arm2host : CopyWidth → Host Rest → ARMword → ARMword → Bytes
  host2arm : CopyWidth → Host Rest → ARMword → Bytes → Host Rest
  cookedState : Host Rest → Bytes

variable {Rest : Type}

structure IpcStep (Rest : Type) where
  host : Host Rest
  sent : List Sent

/-- A failed send closes the client's socket and waits for the next one. -/
def dropClient (host : Host Rest) : Host Rest :=
  { host with ipcs := .ipcAccept }

/-- The error value is the state in which a `break` leaves the switch. -/
def sendipcmsg (input : CycleInput) (step : IpcStep Rest) (msg : Sent) :
    Except (IpcStep Rest) (IpcStep Rest) :=
  if input.delivers msg then .ok { step with sent := step.sent ++ [msg] }
  else .error { step with host := dropClient step.host }

def leave : Except (IpcStep Rest) (IpcStep Rest) → IpcStep Rest
  | .ok step => step
  | .error step => step

def IpcStep.set (step : IpcStep Rest) (bits : ARMword) : IpcStep Rest :=
  { step with host := { step.host with ipc := ipcSet step.host.ipc bits } }

def IpcStep.clearPpc (step : IpcStep Rest) : IpcStep Rest :=
  { step with
    host :=
      { step.host with
        irq := { step.host.irq with irqActivePpc := step.host.irq.irqActivePpc &&& ~~~(intrBit 30) } } }

def idleAck (input : CycleInput) (step : IpcStep Rest) : Except (IpcStep Rest) (IpcStep Rest) :=
  if step.host.ipc.ppcctrl &&& 0x02#32 != 0#32 then sendipcmsg input (step.set 0x02#32) .ack
  else .ok step

def idleMessage (input : CycleInput) (step : IpcStep Rest) :
    Except (IpcStep Rest) (IpcStep Rest) :=
  if step.host.ipc.ppcctrl &&& 0x04#32 != 0#32 then
    sendipcmsg input (step.set 0x0c#32) (.message step.host.ipc.armmsg)
  else .ok step

def idlePending (input : CycleInput) (step : IpcStep Rest) :
    Except (IpcStep Rest) (IpcStep Rest) :=
  if starletPendingIntrPpc step.host.irq 30 then do
    let acked ← idleAck input step
    let served ← idleMessage input acked
    .ok served.clearPpc
  else .ok step

def idleReceive (services : Services Rest) (input : CycleInput) (step : IpcStep Rest) :
    Except (IpcStep Rest) (IpcStep Rest) :=
  match input.received with
  | .nothing => .ok step
  | .broken => .error { step with host := dropClient step.host }
  | .message arg =>
      let written := { step with
        host := { step.host with ipc := { step.host.ipc with ppcmsg := arg } } }
      let raised := written.set 0x01#32
      .ok { raised with host := { raised.host with ipcs := .ipcSndack } }
  | .ack => .ok (step.set 0x08#32)
  | .read arg len =>
      let payload := services.arm2host (copyWidth arg len) step.host arg len
      -- A failed send here leaves only the inner switch.
      .ok (leave (sendipcmsg input step (.read arg payload)))
  | .write arg payload =>
      let width := copyWidth arg (BitVec.ofNat 32 payload.length)
      .ok { step with host := services.host2arm width step.host arg payload }
  | .state => .ok (leave (sendipcmsg input step (.state (services.cookedState step.host))))
  | .exit => .error { step with host := { step.host with exited := true } }
  | .unknown _ => .ok step

def idleStatus (input : CycleInput) (step : IpcStep Rest) :
    Except (IpcStep Rest) (IpcStep Rest) :=
  if step.host.ppcRunning != step.host.lastPpcState then do
    let told ← sendipcmsg input step (.status step.host.ppcRunning)
    .ok { told with host := { told.host with lastPpcState := told.host.ppcRunning } }
  else .ok step

def starletDoIpc (services : Services Rest) (input : CycleInput) (host : Host Rest) :
    IpcStep Rest :=
  let step : IpcStep Rest := { host, sent := [] }
  match host.ipcs with
  | .ipcInit =>
      { step with
        host := { host with ipc := starletIpcWrite host.ipc 4#32 0x36#32, ipcs := .ipcAccept } }
  | .ipcAccept =>
      if input.accepts then
        leave do
          let told ← sendipcmsg input step (.status host.ppcRunning)
          .ok { told with
            host := { told.host with lastPpcState := host.ppcRunning, ipcs := .ipcIdle } }
      else step
  | .ipcIdle =>
      leave do
        let served ← idlePending input step
        let answered ← idleReceive services input served
        idleStatus input answered
  | .ipcSndack =>
      if starletPendingIntrPpc host.irq 30 then
        if host.ipc.ppcctrl &&& 0x02#32 != 0#32 then
          let acked := step.set 0x02#32
          IpcStep.clearPpc { acked with host := { acked.host with ipcs := .ipcIdle } }
        else step.clearPpc
      else step

def tickTimer (host : Host Rest) : Host Rest :=
  let timer := host.timer + 1#32
  { host with
    timer
    irq := if timer = host.alarm then starletUpdateInt (starletSetIntr host.irq 0) else host.irq }

def refreshInt (host : Host Rest) : Host Rest :=
  { host with irq := ipcUpdateInt host.ipc host.irq }

def starletIoDoCycle (services : Services Rest) (input : CycleInput) (host : Host Rest) :
    IpcStep Rest :=
  let served := starletDoIpc services input (refreshInt (tickTimer host))
  { served with host := refreshInt served.host }

end SkyeyeStarlet
