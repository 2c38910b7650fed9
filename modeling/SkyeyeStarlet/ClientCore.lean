import SkyeyeStarlet.DevicesCore

/-!
The client of `ipc/ipc.py` over the two streams between it and the emulator: `SkyeyeIPC`
with its receive loops and the `IPCRequest` objects.  A loop that handles a completion
message starts another one inside, so the loops that wait form a stack, the innermost first.
The address that `MemMgr` allots to a request block, and what `prepare` writes before it sends
the message, are inputs.
-/

namespace SkyeyeStarlet

/-- The attributes of an `IPCRequest`. -/
structure IpcRequest where
  addr : Option ARMword
  done : Bool
  result : Option ARMword
  deriving DecidableEq, Repr

/-- A receive loop that waits.  The last argument of the first two is the position of their
`MSG_READ` among all that the client has sent. -/
inductive ReceiveLoop where
  | readmem (addr size : ARMword) (read : Nat)
  | reply (request : Nat) (block : ARMword) (read : Nat)
  | wait (request : Nat)
  deriving DecidableEq, Repr

structure SkyeyeIpc where
  readbuf : Option Bytes
  ppcstat : Option ARMword
  acks : Nat
  requests : ARMword → Option Nat
  objects : Nat → IpcRequest
  stack : List ReceiveLoop

/-- What a `readmem` has returned, or a `reply` has stored. -/
inductive Returned where
  | readmem (addr size : ARMword) (read : Nat) (payload : Bytes)
  | reply (request : Nat) (block : ARMword) (read : Nat) (result : ARMword)
  deriving DecidableEq, Repr

/-- The client, the packets on their way, and three records: the reads that the client has
asked for, the payloads that the emulator has answered them with, and what came of them. -/
structure Session where
  client : SkyeyeIpc
  toEmulator : List Received
  toClient : List Sent
  asked : List (ARMword × ARMword)
  answers : List Bytes
  returned : List Returned

/-- `struct.unpack(">i", payload)`. -/
def unpackWord : Bytes → Option ARMword
  | [first, second, third, fourth] => some (first ++ second ++ third ++ fourth)
  | _ => none

def SkyeyeIpc.setObject (client : SkyeyeIpc) (request : Nat) (change : IpcRequest → IpcRequest) :
    SkyeyeIpc :=
  { client with
    objects := Function.update client.objects request (change (client.objects request)) }

/-- `IPCRequest.free`; no value when `delreq` does not find the block. -/
def SkyeyeIpc.free (client : SkyeyeIpc) (request : Nat) : Option SkyeyeIpc :=
  match (client.objects request).addr with
  | none => some client
  | some addr =>
      if (client.requests addr).isSome then
        some
          { client.setObject request (fun object => { object with addr := none }) with
            requests := Function.update client.requests addr none }
      else none

def Session.onClient (session : Session) (change : SkyeyeIpc → SkyeyeIpc) : Session :=
  { session with client := change session.client }

def Session.waitIn (session : Session) (stack : List ReceiveLoop) : Session :=
  session.onClient fun client => { client with stack }

/-- The start of `readmem`. -/
def Session.sendRead (session : Session) (addr size : ARMword) : Session :=
  { session with
    client := { session.client with readbuf := none }
    toEmulator := session.toEmulator ++ [.read addr size]
    asked := session.asked ++ [(addr, size)] }

/-- Leave the loops whose condition is met, from the innermost.  An exception leaves them all:
a payload that is no word, or a block that is not in `requests`. -/
def Session.unwind : List ReceiveLoop → Session → Session
  | [], session => session.waitIn []
  | .wait request :: outer, session =>
      if (session.client.objects request).done then Session.unwind outer session
      else session.waitIn (.wait request :: outer)
  | .readmem addr size read :: outer, session =>
      match session.client.readbuf with
      | none => session.waitIn (.readmem addr size read :: outer)
      | some payload =>
          Session.unwind outer
            { session with returned := session.returned ++ [.readmem addr size read payload] }
  | .reply request block read :: outer, session =>
      match session.client.readbuf with
      | none => session.waitIn (.reply request block read :: outer)
      | some payload =>
          match unpackWord payload with
          | none => session.waitIn []
          | some result =>
              let stored : Session :=
                { session with
                  client := session.client.setObject request fun object =>
                    { object with result := some result }
                  returned := session.returned ++ [.reply request block read result] }
              match stored.client.free request with
              | none => stored.waitIn []
              | some freed =>
                  Session.unwind outer
                    { stored with
                      client := freed.setObject request fun object => { object with done := true } }

/-- `ipcreply`: a request without a block raises an exception. -/
def Session.ipcreply (session : Session) (addr : ARMword) : Session :=
  match session.client.requests addr with
  | none => Session.unwind session.client.stack session
  | some request =>
      match (session.client.objects request).addr with
      | none => session.waitIn []
      | some block =>
          Session.unwind (.reply request block session.asked.length :: session.client.stack)
            (session.sendRead (block + 4#32) 4#32)

/-- `processmsg`, up to the next message that a loop waits for.  An empty payload is `None`. -/
def Session.processmsg (session : Session) (msg : Sent) : Session :=
  match msg with
  | .status running =>
      Session.unwind session.client.stack
        (session.onClient fun client => { client with ppcstat := some running })
  | .read _ payload =>
      Session.unwind session.client.stack
        (session.onClient fun client =>
          { client with readbuf := if payload = [] then none else some payload })
  | .ack =>
      Session.unwind session.client.stack
        (session.onClient fun client => { client with acks := client.acks + 1 })
  | .message addr => session.ipcreply addr
  | .state _ => Session.unwind session.client.stack session

inductive ClientCall where
  | async (request : Nat) (addr : ARMword) (writes : List (ARMword × Bytes))
  | wait (request : Nat)
  | sync (request : Nat) (addr : ARMword) (writes : List (ARMword × Bytes))
  | readmem (addr size : ARMword)
  | writemem (addr : ARMword) (buf : Bytes)

def Session.async (session : Session) (request : Nat) (addr : ARMword)
    (writes : List (ARMword × Bytes)) : Session :=
  { session with
    client :=
      { session.client.setObject request (fun object => { object with addr := some addr }) with
        requests := Function.update session.client.requests addr (some request) }
    toEmulator := session.toEmulator ++ writes.map (fun write => .write write.1 write.2) ++
      [.message addr] }

def Session.call (session : Session) : ClientCall → Session
  | .async request addr writes => session.async request addr writes
  | .wait request => Session.unwind [.wait request] session
  | .sync request addr writes => Session.unwind [.wait request] (session.async request addr writes)
  | .readmem addr size =>
      Session.unwind [.readmem addr size session.asked.length] (session.sendRead addr size)
  | .writemem addr buf => { session with toEmulator := session.toEmulator ++ [.write addr buf] }

inductive SessionEvent where
  | call (call : ClientCall)
  | receive
  | serve (content : Nat → BitVec 8)
  | emitMessage (addr : ARMword)
  | emitAck
  | emitStatus (running : ARMword)

def Session.emit (session : Session) (msg : Sent) : Session :=
  { session with toClient := session.toClient ++ [msg] }

/-- The emulator takes the next packet; a read is answered with as many bytes as it asks for. -/
def Session.serve (session : Session) (content : Nat → BitVec 8) : Session :=
  match session.toEmulator with
  | [] => session
  | .read addr size :: rest =>
      let payload := bytesFrom content 0 size.toNat
      { session with
        toEmulator := rest
        toClient := session.toClient ++ [.read addr payload]
        answers := session.answers ++ [payload] }
  | _ :: rest => { session with toEmulator := rest }

/-- The program goes on while no loop waits, and a loop takes the next message. -/
def sessionStep (session : Session) : SessionEvent → Session
  | .call call => if session.client.stack = [] then session.call call else session
  | .receive =>
      match session.toClient with
      | [] => session
      | msg :: rest =>
          if session.client.stack = [] then session
          else Session.processmsg { session with toClient := rest } msg
  | .serve content => session.serve content
  | .emitMessage addr => session.emit (.message addr)
  | .emitAck => session.emit .ack
  | .emitStatus running => session.emit (.status running)

def startSession : Session :=
  { client :=
      { readbuf := none
        ppcstat := none
        acks := 0
        requests := fun _ => none
        objects := fun _ => { addr := none, done := false, result := none }
        stack := [] }
    toEmulator := []
    toClient := []
    asked := []
    answers := []
    returned := [] }

end SkyeyeStarlet
