import Mathlib.Algebra.Group.Int.Defs
import SkyeyeStarlet.DevicesCore
import SkyeyeStarlet.HeapCore
import SkyeyeStarlet.Library.BigEndian

/-!
The requests that a client makes of IOS, from `ipc/ipc.py`: `IPCRequest` with its seven
subclasses, the methods of `SkyeyeIPC` that build and post them, and the reply.  The guest's
memory is as the client's writes leave it; an argument that goes into a field of 32 bits as it
is has that width.  The buffers of a request that raises are freed when Python collects the
object, which is not modelled.
-/

namespace SkyeyeStarlet

open BigEndian

/-- What a caller passes for a buffer or for an argument of `IOSIoctlv`.  An `IPCBuffer` and
a tuple are an address and a size. -/
inductive PyArg where
  | none
  | buffer (addr size : ARMword)
  | str (bytes : Bytes)
  | tuple (addr size : ARMword)
  | int (value : Int)
  deriving DecidableEq, Repr

structure IpcBuffer where
  addr : Nat
  size : Nat
  deriving DecidableEq, Repr

/-- The heap and the guest's memory while a request is prepared, and its `freebufs`. -/
structure Preparing where
  mem : MemMgr
  memory : Nat → BitVec 8
  freebufs : List IpcBuffer

abbrev Prepare := EStateM PyError Preparing

def writeBytes (memory : Nat → BitVec 8) (addr : Nat) (bytes : Bytes) : Nat → BitVec 8 :=
  fun cell => if addr ≤ cell then bytes.getD (cell - addr) (memory cell) else memory cell

def malloc (size : Nat) : Prepare Nat := fun state =>
  match state.mem.malloc size with
  | (.ok addr, mem) => .ok addr { state with mem }
  | (.error error, mem) => .error error { state with mem }

/-- `sendmsg` packs the address and the length into 32 bits each. -/
def writemem (addr : Nat) (buf : Bytes) : Prepare Unit := fun state =>
  if addr < 2 ^ 32 ∧ buf.length < 2 ^ 32 then
    .ok () { state with memory := writeBytes state.memory addr buf }
  else .error .structError state

def mallwrite (buf : Bytes) : Prepare Nat := do
  let addr ← malloc buf.length
  writemem addr buf
  pure addr

/-- `makebuf` of a string. -/
def makebuf (arg : Bytes) : Prepare IpcBuffer := do
  let addr ← mallwrite arg
  pure { addr, size := arg.length }

def appendFreebuf (buf : IpcBuffer) : Prepare Unit := fun state =>
  .ok () { state with freebufs := state.freebufs ++ [buf] }

def getbuf : PyArg → Prepare (Nat × Nat)
  | .none => pure (0, 0)
  | .buffer addr size => pure (addr.toNat, size.toNat)
  | .str bytes => do
      let ibuf ← makebuf bytes
      appendFreebuf ibuf
      pure (ibuf.addr, ibuf.size)
  | .tuple addr size => pure (addr.toNat, size.toNat)
  | .int _ => throw (.valueError "invalid buffer type")

/-- `struct.pack` of unsigned words in big-endian order. -/
def packWords (words : List Nat) : Prepare Bytes :=
  if ∀ word ∈ words, word < 2 ^ 32 then pure (encodeAll 4 words) else throw .structError

/-- `IPCRequest.prepare`. -/
def prepareRequest (cmd : Nat) (fd : ARMword) (args : List Nat) : Prepare Nat := do
  let args := args ++ List.replicate (5 - args.length) 0
  let req ← packWords (cmd :: 0 :: fd.toNat :: args)
  mallwrite req

section Ioctlv

def letterWidth : Char → Option Nat
  | 'b' => some 1
  | 'h' => some 2
  | 'i' => some 4
  | 'q' => some 8
  | _ => none

/-- The buffer of the number `left[0]`, masked to a width. -/
def getPacked (width : Nat) : List PyArg → Prepare (Nat × Nat)
  | [] => throw .indexError
  | .int value :: _ => getbuf (.str (encode width (value % 256 ^ width).toNat))
  | _ :: _ => throw .typeError

def parseLetter (c : Char) (left : List PyArg) : Prepare (Nat × Nat) :=
  match letterWidth c with
  | some width => getPacked width left
  | none =>
      if c = 'd' then
        match left with
        | [] => throw .indexError
        | arg :: _ => getbuf arg
      else throw (.valueError "bad ioctlv format")

/-- `IOSIoctlv.parse`: the buffers of a format, and the arguments that it leaves. -/
def parse : List Char → List PyArg → Prepare (List (Nat × Nat) × List PyArg)
  | [], left => pure ([], left)
  | c :: fmt, left => do
      let buf ← parseLetter c left
      let (bufs, left) ← parse fmt (left.drop 1)
      pure (buf :: bufs, left)

def splitFormat (format : List Char) : Prepare (List Char × List Char) :=
  match format.splitOn ':' with
  | [ifmt] => pure (ifmt, [])
  | [ifmt, ofmt] => pure (ifmt, ofmt)
  | _ => throw (.valueError "too many values to unpack")

def vectorWords (bufs : List (Nat × Nat)) : List Nat :=
  bufs.flatMap fun buf => [buf.1, buf.2]

/-- `IOSIoctlv.prepare` up to its arguments. -/
def ioctlvArgs (ioctl : ARMword) (format : List Char) (ioargs : List PyArg) :
    Prepare (List Nat) := do
  let (ifmt, ofmt) ← splitFormat format
  let (ibufs, left) ← parse ifmt ioargs
  let (obufs, left) ← parse ofmt left
  if left ≠ [] then throw (.valueError "Too many ioctlv arguments")
  let blist ← packWords (vectorWords (ibufs ++ obufs))
  let blbuf ← makebuf blist
  appendFreebuf blbuf
  pure [ioctl.toNat, ibufs.length, obufs.length, blbuf.addr]

end Ioctlv

/-- An operation with its arguments: an object of the class of its name, or a call of the
method of `SkyeyeIPC` of its name. -/
inductive IosRequest where
  | iosOpen (path : Bytes) (mode : ARMword)
  | iosClose (fd : ARMword)
  | iosRead (fd : ARMword) (buf : PyArg) (size : Option ARMword)
  | iosWrite (fd : ARMword) (buf : PyArg) (size : Option ARMword)
  | iosSeek (fd : ARMword) (position : Int) (whence : ARMword)
  | iosIoctl (fd ioctl : ARMword) (bufi bufo : PyArg)
  | iosIoctlv (fd ioctl : ARMword) (format : List Char) (ioargs : List PyArg)
  deriving DecidableEq, Repr

namespace IosRequest

def cmd : IosRequest → Nat
  | iosOpen .. => 1
  | iosClose .. => 2
  | iosRead .. => 3
  | iosWrite .. => 4
  | iosSeek .. => 5
  | iosIoctl .. => 6
  | iosIoctlv .. => 7

def fd : IosRequest → ARMword
  | iosOpen .. => 0#32
  | iosClose fd => fd
  | iosRead fd .. => fd
  | iosWrite fd .. => fd
  | iosSeek fd .. => fd
  | iosIoctl fd .. => fd
  | iosIoctlv fd .. => fd

/-- `IOSReadWrite.prepare` up to its arguments. -/
def readWriteArgs (buf : PyArg) (size : Option ARMword) : Prepare (List Nat) := do
  let (bufaddr, bufsize) ← getbuf buf
  match size with
  | none => pure [bufaddr, bufsize]
  | some size => pure [bufaddr, size.toNat]

/-- The `prepare` of each class up to its arguments. -/
def args : IosRequest → Prepare (List Nat)
  | iosOpen path mode => do
      let pathbuf ← makebuf (path ++ [0#8])
      appendFreebuf pathbuf
      pure [pathbuf.addr, mode.toNat]
  | iosClose _ => pure []
  | iosRead _ buf size => readWriteArgs buf size
  | iosWrite _ buf size => readWriteArgs buf size
  | iosSeek _ position whence => pure [(position % 2 ^ 32).toNat, whence.toNat]
  | iosIoctl _ ioctl bufi bufo => do
      let (bufiaddr, bufisize) ← getbuf bufi
      let (bufoaddr, bufosize) ← getbuf bufo
      pure [ioctl.toNat, bufiaddr, bufisize, bufoaddr, bufosize]
  | iosIoctlv _ ioctl format ioargs => ioctlvArgs ioctl format ioargs

def prepare (request : IosRequest) : Prepare Nat := do
  let args ← request.args
  prepareRequest request.cmd request.fd args

/-- The request that the method of `SkyeyeIPC` builds.  `IOSSeek` calls its class without the
descriptor. -/
def built : IosRequest → Except PyError IosRequest
  | iosOpen path mode => .ok (iosOpen path mode)
  | iosClose fd => .ok (iosClose fd)
  | iosRead fd buf size => .ok (iosRead fd buf size)
  | iosWrite fd buf size => .ok (iosRead fd buf size)
  | iosSeek .. => .error .typeError
  | iosIoctl fd ioctl bufi bufo => .ok (iosIoctl fd ioctl bufi bufo)
  | iosIoctlv fd ioctl format ioargs => .ok (iosIoctlv fd ioctl format ioargs)

end IosRequest

structure PostedRequest where
  addr : Nat
  freebufs : List IpcBuffer
  deriving DecidableEq, Repr

/-- What `SkyeyeIPC` holds of its requests, and the guest's memory. -/
structure IpcDevice where
  mem : MemMgr
  memory : Nat → BitVec 8
  requests : Nat → Option PostedRequest

/-- `async`: the address that it posts. -/
def IpcDevice.async (device : IpcDevice) (request : IosRequest) : Except PyError Nat × IpcDevice :=
  match request.prepare { mem := device.mem, memory := device.memory, freebufs := [] } with
  | .ok addr prepared =>
      (.ok addr,
        { mem := prepared.mem
          memory := prepared.memory
          requests :=
            Function.update device.requests addr (some { addr, freebufs := prepared.freebufs }) })
  | .error error prepared =>
      (.error error, { device with mem := prepared.mem, memory := prepared.memory })

/-- A method of `SkyeyeIPC`, up to its wait for the reply. -/
def IpcDevice.post (device : IpcDevice) (call : IosRequest) : Except PyError Nat × IpcDevice :=
  match call.built with
  | .ok request => device.async request
  | .error error => (.error error, device)

/-- The loop of `IPCRequest.free`, with the buffers that it has not freed when it raises. -/
def freeBuffers : List IpcBuffer → MemMgr → Except PyError Unit × List IpcBuffer × MemMgr
  | [], mem => (.ok (), [], mem)
  | buf :: rest, mem =>
      match mem.free buf.addr with
      | (.ok (), mem) => freeBuffers rest mem
      | (.error error, mem) => (.error error, buf :: rest, mem)

/-- `ipcreply` with `IPCRequest.reply`: the result of the request at an address, if there is
one. -/
def IpcDevice.ipcreply (device : IpcDevice) (addr : Nat) :
    Except PyError (Option Nat) × IpcDevice :=
  match device.requests addr with
  | none => (.ok none, device)
  | some request =>
      let result := decode (bytesFrom device.memory (request.addr + 4) 4)
      match freeBuffers request.freebufs device.mem with
      | (.error error, freebufs, mem) =>
          (.error error,
            { device with
              mem
              requests := Function.update device.requests addr (some { request with freebufs }) })
      | (.ok (), _, mem) =>
          match mem.free request.addr with
          | (.error error, mem) =>
              (.error error,
                { device with
                  mem
                  requests :=
                    Function.update device.requests addr (some { request with freebufs := [] }) })
          | (.ok (), mem) =>
              (.ok (some result),
                { device with mem, requests := Function.update device.requests request.addr none })

end SkyeyeStarlet
