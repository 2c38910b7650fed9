import SkyeyeStarlet.DevicesCore
import SkyeyeStarlet.Library.Streams
import SkyeyeStarlet.Library.WordBits

/-!
The framing of the socket between the emulator and `ipc.py`.  A receiver is given a whole
stream and any way of cutting its calls; a call that finds fewer bytes because the other end
is still sending is a smaller piece.
-/

namespace SkyeyeStarlet.Wire

open Streams

section Model

abbrev Socket := Pipe (BitVec 8)

inductive ByteOrder where
  | little
  | big
  deriving DecidableEq, Repr

def wordBytes (order : ByteOrder) (word : BitVec 32) : Bytes :=
  let bytes := [word.extractLsb' 0 8, word.extractLsb' 8 8, word.extractLsb' 16 8,
    word.extractLsb' 24 8]
  match order with
  | .little => bytes
  | .big => bytes.reverse

def bytesWord (order : ByteOrder) (bytes : Bytes) : BitVec 32 :=
  let ordered :=
    match order with
    | .little => bytes
    | .big => bytes.reverse
  ordered.getD 3 0#8 ++ ordered.getD 2 0#8 ++ ordered.getD 1 0#8 ++ ordered.getD 0 0#8

structure Frame where
  msg : BitVec 32
  arg : BitVec 32
  payload : Bytes

abbrev Message := { frame : Frame // frame.payload.length < 2 ^ 32 }

variable (order : ByteOrder) (cut : Nat → Nat)

/-- A receiver reports a broken connection, or stops at a `free` of what was not allocated. -/
inductive Failure where
  | broken
  | invalidFree
  deriving DecidableEq, Repr

/-- `sendall` and `recvall` take their length as an `int`. -/
def sendall (socket : Socket) (buf : Bytes) (len : BitVec 32) : Socket :=
  sendLoop cut socket (buf.take len.toInt.toNat)

def recvall (socket : Socket) (len : BitVec 32) : Except Failure (Socket × Bytes) :=
  (recvLoop cut socket len.toInt.toNat []).elim (.error .broken) .ok

def sendipcmsg (socket : Socket) (message : Message) : Socket :=
  let len := BitVec.ofNat 32 message.val.payload.length
  let typed := sendall cut socket (wordBytes order message.val.msg) 4#32
  let argued := sendall cut typed (wordBytes order message.val.arg) 4#32
  let sized := sendall cut argued (wordBytes order len) 4#32
  if len = 0#32 then sized else sendall cut sized message.val.payload len

/-- The end of `recvipcmsg`.  Where nothing is received, the buffer holds what `malloc` left. -/
def recvbuf (fresh : Nat → BitVec 8) (socket : Socket) (msg arg len : BitVec 32) :
    Except Failure (Socket × Frame) := do
  -- `free(buf)` is given the address of the caller's variable, not what it holds.
  let (socket, received) ← (recvall cut socket len).mapError fun _ => .invalidFree
  let buf := received ++ bytesFrom fresh received.length (len.toNat - received.length)
  .ok (socket, { msg, arg, payload := buf })

def recvipcmsg (fresh : Nat → BitVec 8) (socket : Socket) : Except Failure (Socket × Frame) := do
  let (socket, msg) ← recvall cut socket 4#32
  let (socket, arg) ← recvall cut socket 4#32
  let (socket, len) ← recvall cut socket 4#32
  recvbuf cut fresh socket (bytesWord order msg) (bytesWord order arg) (bytesWord order len)

/-- `SkyeyeSocket.send` and `SkyeyeSocket.recv`. -/
def send (socket : Socket) (msg : Bytes) : Socket :=
  sendLoop cut socket msg

def recv (socket : Socket) (size : Nat) : Except Failure (Socket × Bytes) :=
  (recvLoop cut socket size []).elim (.error .broken) .ok

def sendmsg (socket : Socket) (message : Message) : Socket :=
  send cut socket (wordBytes order message.val.msg ++ wordBytes order message.val.arg ++
    wordBytes order (BitVec.ofNat 32 message.val.payload.length) ++ message.val.payload)

def recvmsg (socket : Socket) : Except Failure (Socket × Frame) := do
  let (socket, header) ← recv cut socket 12
  let msg := bytesWord order (header.take 4)
  let arg := bytesWord order ((header.drop 4).take 4)
  let size := bytesWord order (header.drop 8)
  if size ≠ 0#32 then
    let (socket, buf) ← recv cut socket size.toNat
    .ok (socket, { msg, arg, payload := buf })
  else .ok (socket, { msg, arg, payload := [] })

end Model

section Words

theorem wordBytes_length (order : ByteOrder) (word : BitVec 32) :
    (wordBytes order word).length = 4 := by
  cases order <;> rfl

theorem bytesWord_wordBytes (order : ByteOrder) (word : BitVec 32) :
    bytesWord order (wordBytes order word) = word := by
  cases order
  · exact WordBits.bytes_append word
  · exact WordBits.bytes_append word

def frameBytes (order : ByteOrder) (frame : Frame) : Bytes :=
  wordBytes order frame.msg ++ (wordBytes order frame.arg ++
    (wordBytes order (BitVec.ofNat 32 frame.payload.length) ++ frame.payload))

theorem frameBytes_length (order : ByteOrder) (frame : Frame) :
    (frameBytes order frame).length = 12 + frame.payload.length := by
  simp only [frameBytes, List.length_append, wordBytes_length]
  omega

theorem toInt_toNat_of_lt {length : Nat} (short : length < 2 ^ 31) :
    (BitVec.ofNat 32 length).toInt.toNat = length := by
  have small : length < 2 ^ 32 := by
    omega
  rw [BitVec.toInt_eq_toNat_cond, BitVec.toNat_ofNat, Nat.mod_eq_of_lt small, if_pos (by omega)]
  omega

theorem toInt_toNat_of_le {length : Nat} (long : 2 ^ 31 ≤ length) (fits : length < 2 ^ 32) :
    (BitVec.ofNat 32 length).toInt.toNat = 0 := by
  rw [BitVec.toInt_eq_toNat_cond, BitVec.toNat_ofNat, Nat.mod_eq_of_lt fits, if_neg (by omega)]
  omega

end Words

section Sending

variable (order : ByteOrder) (cut : Nat → Nat)

theorem sendall_bytes (socket : Socket) (buf : Bytes) (len : BitVec 32) :
    (sendall cut socket buf len).bytes = socket.bytes ++ buf.take len.toInt.toNat := by
  exact sendLoop_bytes cut socket _

theorem sendall_word (socket : Socket) (word : BitVec 32) :
    (sendall cut socket (wordBytes order word) 4#32).bytes =
      socket.bytes ++ wordBytes order word := by
  rw [sendall_bytes, List.take_of_length_le]
  rw [wordBytes_length]
  decide

theorem sendipcmsg_bytes (socket : Socket) (message : Message)
    (short : message.val.payload.length < 2 ^ 31) :
    (sendipcmsg order cut socket message).bytes = socket.bytes ++ frameBytes order message.val := by
  rw [sendipcmsg, frameBytes]
  split
  · rename_i absent
    have empty : message.val.payload.length = 0 := by
      have zero := congrArg BitVec.toNat absent
      rw [BitVec.toNat_ofNat, Nat.mod_eq_of_lt message.property] at zero
      exact zero
    rw [sendall_word, sendall_word, sendall_word, List.eq_nil_of_length_eq_zero empty]
    simp only [List.append_assoc, List.append_nil]
  · rw [sendall_bytes, sendall_word, sendall_word, sendall_word, toInt_toNat_of_lt short,
      List.take_of_length_le (Nat.le_refl _)]
    simp only [List.append_assoc]

theorem sendmsg_bytes (socket : Socket) (message : Message) :
    (sendmsg order cut socket message).bytes = socket.bytes ++ frameBytes order message.val := by
  rw [sendmsg, send, sendLoop_bytes, frameBytes]
  simp only [List.append_assoc]

def written (sender : Socket → Message → Socket) (messages : List Message) : Bytes :=
  (messages.foldl sender ⟨[], 0⟩).bytes

theorem foldl_bytes {sender : Socket → Message → Socket} (messages : List Message)
    (sends : ∀ message ∈ messages, ∀ socket : Socket,
      (sender socket message).bytes = socket.bytes ++ frameBytes order message.val)
    (socket : Socket) :
    (messages.foldl sender socket).bytes =
      socket.bytes ++ (messages.map Subtype.val).flatMap (frameBytes order) := by
  induction messages generalizing socket with
  | nil => simp
  | cons message messages ih =>
      rw [List.foldl_cons, List.map_cons, List.flatMap_cons,
        ih (fun other member => sends other (List.mem_cons_of_mem message member)),
        sends message List.mem_cons_self, List.append_assoc]

theorem written_sendipcmsg (messages : List Message)
    (short : ∀ message ∈ messages, message.val.payload.length < 2 ^ 31) :
    written (sendipcmsg order cut) messages =
      (messages.map Subtype.val).flatMap (frameBytes order) := by
  exact foldl_bytes order messages
    (fun message member socket => sendipcmsg_bytes order cut socket message (short message member))
    ⟨[], 0⟩

theorem written_sendmsg (messages : List Message) :
    written (sendmsg order cut) messages =
      (messages.map Subtype.val).flatMap (frameBytes order) := by
  exact foldl_bytes order messages
    (fun message _ socket => sendmsg_bytes order cut socket message) ⟨[], 0⟩

end Sending

section Receiving

variable (order : ByteOrder) (cut : Nat → Nat)

theorem recvall_append (first rest : Bytes) (calls : Nat) {len : BitVec 32}
    (sized : len.toInt.toNat = first.length) :
    ∃ later, recvall cut ⟨first ++ rest, calls⟩ len = .ok (⟨rest, later⟩, first) := by
  obtain ⟨later, received⟩ := recvLoop_append cut first rest calls
  exact ⟨later, by rw [recvall, sized, received, Option.elim_some]⟩

theorem recvall_short (socket : Socket) {len : BitVec 32}
    (short : socket.bytes.length < len.toInt.toNat) :
    recvall cut socket len = .error .broken := by
  rw [recvall, recvLoop_short cut socket _ [] short, Option.elim_none]

theorem recv_append (first rest : Bytes) (calls : Nat) :
    ∃ later, recv cut ⟨first ++ rest, calls⟩ first.length = .ok (⟨rest, later⟩, first) := by
  obtain ⟨later, received⟩ := recvLoop_append cut first rest calls
  exact ⟨later, by rw [recv, received, Option.elim_some]⟩

theorem recv_short (socket : Socket) {size : Nat} (short : socket.bytes.length < size) :
    recv cut socket size = .error .broken := by
  rw [recv, recvLoop_short cut socket _ [] short, Option.elim_none]

theorem recvall_word (bytes : Bytes) (calls : Nat) :
    (4 ≤ bytes.length ∧ ∃ later, recvall cut ⟨bytes, calls⟩ 4#32 =
      .ok (⟨bytes.drop 4, later⟩, bytes.take 4)) ∨
    (bytes.length < 4 ∧ recvall cut ⟨bytes, calls⟩ 4#32 = .error .broken) := by
  have four : (4#32).toInt.toNat = 4 := by
    decide
  by_cases enough : 4 ≤ bytes.length
  · have sized : (4#32).toInt.toNat = (bytes.take 4).length := by
      rw [four, List.length_take, Nat.min_eq_left enough]
    have received := recvall_append cut (bytes.take 4) (bytes.drop 4) calls sized
    rw [List.take_append_drop] at received
    exact .inl ⟨enough, received⟩
  · have short : bytes.length < 4 := by
      omega
    exact .inr ⟨short, recvall_short cut ⟨bytes, calls⟩ (by rw [four]; exact short)⟩

theorem recvipcmsg_short (fresh : Nat → BitVec 8) (bytes : Bytes) (calls : Nat)
    (short : bytes.length < 12) :
    recvipcmsg order cut fresh ⟨bytes, calls⟩ = .error .broken := by
  rw [recvipcmsg]
  rcases recvall_word cut bytes calls with ⟨_, later, first⟩ | ⟨_, failed⟩
  · rw [first]
    change (recvall cut ⟨bytes.drop 4, later⟩ 4#32 >>= _) = _
    rcases recvall_word cut (bytes.drop 4) later with ⟨_, last, second⟩ | ⟨_, failed⟩
    · rw [second]
      change (recvall cut ⟨(bytes.drop 4).drop 4, last⟩ 4#32 >>= _) = _
      have ended : ((bytes.drop 4).drop 4).length < (4#32).toInt.toNat := by
        rw [List.length_drop, List.length_drop]
        change _ < 4
        omega
      rw [recvall_short cut _ ended]
      rfl
    · rw [failed]
      rfl
  · rw [failed]
    rfl

theorem recvipcmsg_header (msg arg len : BitVec 32) (rest : Bytes) (calls : Nat) :
    ∃ later, ∀ fresh, recvipcmsg order cut fresh
        ⟨wordBytes order msg ++ (wordBytes order arg ++ (wordBytes order len ++ rest)), calls⟩ =
      recvbuf cut fresh ⟨rest, later⟩ msg arg len := by
  have sized : ∀ word, (4#32).toInt.toNat = (wordBytes order word).length := by
    intro word
    rw [wordBytes_length]
    decide
  obtain ⟨first, typed⟩ := recvall_append cut (wordBytes order msg)
    (wordBytes order arg ++ (wordBytes order len ++ rest)) calls (sized msg)
  obtain ⟨second, argued⟩ := recvall_append cut (wordBytes order arg)
    (wordBytes order len ++ rest) first (sized arg)
  obtain ⟨later, counted⟩ := recvall_append cut (wordBytes order len) rest second (sized len)
  refine ⟨later, fun fresh => ?_⟩
  rw [recvipcmsg, typed]
  change (recvall cut ⟨wordBytes order arg ++ (wordBytes order len ++ rest), first⟩ 4#32 >>= _) = _
  rw [argued]
  change (recvall cut ⟨wordBytes order len ++ rest, second⟩ 4#32 >>= _) = _
  rw [counted]
  change recvbuf cut fresh ⟨rest, later⟩ (bytesWord order (wordBytes order msg))
    (bytesWord order (wordBytes order arg)) (bytesWord order (wordBytes order len)) = _
  rw [bytesWord_wordBytes, bytesWord_wordBytes, bytesWord_wordBytes]

def emulatorFailure (_ : Frame) (offset : Nat) : Failure :=
  if offset < 12 then .broken else .invalidFree

theorem recvbuf_whole (rest : Bytes) (calls : Nat) (frame : Frame)
    (short : frame.payload.length < 2 ^ 31) :
    ∃ later, ∀ fresh, recvbuf cut fresh ⟨frame.payload ++ rest, calls⟩ frame.msg frame.arg
      (BitVec.ofNat 32 frame.payload.length) = .ok (⟨rest, later⟩, frame) := by
  obtain ⟨later, received⟩ := recvall_append cut frame.payload rest calls (toInt_toNat_of_lt short)
  refine ⟨later, fun fresh => ?_⟩
  have counted : (BitVec.ofNat 32 frame.payload.length).toNat - frame.payload.length = 0 := by
    rw [BitVec.toNat_ofNat]
    omega
  rw [recvbuf, received]
  change Except.ok (_, Frame.mk _ _ (frame.payload ++ bytesFrom fresh frame.payload.length _)) = _
  rw [counted, bytesFrom, List.range_zero, List.map_nil, List.append_nil]

theorem recvipcmsg_whole (frame : Frame) (short : frame.payload.length < 2 ^ 31) (rest : Bytes)
    (calls : Nat) :
    ∃ later, ∀ fresh, recvipcmsg order cut fresh ⟨frameBytes order frame ++ rest, calls⟩ =
      .ok (⟨rest, later⟩, frame) := by
  obtain ⟨after, header⟩ := recvipcmsg_header order cut frame.msg frame.arg
    (BitVec.ofNat 32 frame.payload.length) (frame.payload ++ rest) calls
  obtain ⟨later, received⟩ := recvbuf_whole cut rest after frame short
  refine ⟨later, fun fresh => ?_⟩
  rw [frameBytes, List.append_assoc, List.append_assoc, List.append_assoc, header, received]

theorem recvbuf_long (socket : Socket) (frame : Frame) (long : 2 ^ 31 ≤ frame.payload.length)
    (fits : frame.payload.length < 2 ^ 32) (fresh : Nat → BitVec 8) :
    recvbuf cut fresh socket frame.msg frame.arg (BitVec.ofNat 32 frame.payload.length) =
      .ok (socket, { frame with payload := bytesFrom fresh 0 frame.payload.length }) := by
  have none_needed : recvall cut socket (BitVec.ofNat 32 frame.payload.length) =
      .ok (socket, []) := by
    rw [recvall, toInt_toNat_of_le long fits, recvLoop, if_pos rfl, Option.elim_some]
  rw [recvbuf, none_needed]
  change Except.ok (_, Frame.mk _ _ ([] ++ bytesFrom fresh 0 _)) = _
  rw [BitVec.toNat_ofNat, Nat.mod_eq_of_lt fits, List.nil_append, List.length_nil, Nat.sub_zero]

theorem recvbuf_short (fresh : Nat → BitVec 8) (bytes : Bytes) (calls : Nat) (msg arg : BitVec 32)
    {length : Nat} (short : length < 2 ^ 31) (missing : bytes.length < length) :
    recvbuf cut fresh ⟨bytes, calls⟩ msg arg (BitVec.ofNat 32 length) = .error .invalidFree := by
  have broken : recvall cut ⟨bytes, calls⟩ (BitVec.ofNat 32 length) = .error .broken := by
    apply recvall_short
    rw [toInt_toNat_of_lt short]
    exact missing
  rw [recvbuf, broken]
  rfl

theorem frameBytes_take (frame : Frame) {stop : Nat} (header : 12 ≤ stop) :
    (frameBytes order frame).take stop = wordBytes order frame.msg ++ (wordBytes order frame.arg ++
      (wordBytes order (BitVec.ofNat 32 frame.payload.length) ++
        frame.payload.take (stop - 12))) := by
  have lengths : ∀ word, (wordBytes order word).length = 4 := wordBytes_length order
  rw [frameBytes, List.take_append, List.take_append, List.take_append, lengths, lengths, lengths,
    List.take_of_length_le (by rw [lengths]; omega),
    List.take_of_length_le (by rw [lengths]; omega),
    List.take_of_length_le (by rw [lengths]; omega)]
  have behind : stop - 4 - 4 - 4 = stop - 12 := by
    omega
  rw [behind]

theorem recvipcmsg_torn (fresh : Nat → BitVec 8) (frame : Frame)
    (short : frame.payload.length < 2 ^ 31) {stop : Nat}
    (ends : stop < (frameBytes order frame).length) (calls : Nat) :
    recvipcmsg order cut fresh ⟨(frameBytes order frame).take stop, calls⟩ =
      .error (emulatorFailure frame stop) := by
  rw [frameBytes_length] at ends
  rw [emulatorFailure]
  split
  · rename_i header
    apply recvipcmsg_short
    rw [List.length_take]
    omega
  · rename_i header
    obtain ⟨later, received⟩ := recvipcmsg_header order cut frame.msg frame.arg
      (BitVec.ofNat 32 frame.payload.length) (frame.payload.take (stop - 12)) calls
    rw [frameBytes_take order frame (by omega), received]
    apply recvbuf_short cut fresh _ later frame.msg frame.arg short
    rw [List.length_take]
    omega

theorem recvipcmsg_decodes (fresh : Nat → BitVec 8) (frame : Frame)
    (short : frame.payload.length < 2 ^ 31) :
    Decodes (frameBytes order) emulatorFailure (recvipcmsg order cut fresh) frame where
  whole rest calls := by
    obtain ⟨later, received⟩ := recvipcmsg_whole order cut frame short rest calls
    exact ⟨later, received fresh⟩
  torn _ ends calls := recvipcmsg_torn order cut fresh frame short ends calls

theorem recvmsg_header (msg arg size : BitVec 32) (rest : Bytes) (calls : Nat) :
    ∃ later, recvmsg order cut
        ⟨wordBytes order msg ++ (wordBytes order arg ++ (wordBytes order size ++ rest)), calls⟩ =
      if size ≠ 0#32 then
        (recv cut ⟨rest, later⟩ size.toNat).map fun read => (read.1, ⟨msg, arg, read.2⟩)
      else .ok (⟨rest, later⟩, ⟨msg, arg, []⟩) := by
  have lengths : ∀ word, (wordBytes order word).length = 4 := wordBytes_length order
  obtain ⟨later, received⟩ := recv_append cut
    (wordBytes order msg ++ (wordBytes order arg ++ wordBytes order size)) rest calls
  simp only [List.length_append, lengths, List.append_assoc] at received
  have typed : (wordBytes order msg ++ (wordBytes order arg ++ wordBytes order size)).take 4 =
      wordBytes order msg := by
    exact List.take_left' (lengths msg)
  have argued : ((wordBytes order msg ++ (wordBytes order arg ++ wordBytes order size)).drop 4).take
      4 = wordBytes order arg := by
    rw [List.drop_left' (lengths msg), List.take_left' (lengths arg)]
  have sized : (wordBytes order msg ++ (wordBytes order arg ++ wordBytes order size)).drop 8 =
      wordBytes order size := by
    rw [← List.append_assoc]
    exact List.drop_left' (by rw [List.length_append, lengths, lengths])
  refine ⟨later, ?_⟩
  rw [recvmsg, received]
  change (if bytesWord order _ ≠ 0#32 then _ else Except.ok (_, Frame.mk (bytesWord order _)
    (bytesWord order _) [])) = _
  rw [typed, argued, sized, bytesWord_wordBytes, bytesWord_wordBytes, bytesWord_wordBytes]
  split
  · cases recv cut ⟨rest, later⟩ size.toNat <;> rfl
  · rfl

def clientFailure (_ : Frame) (_ : Nat) : Failure :=
  .broken

theorem recvmsg_decodes (frame : Frame) (fits : frame.payload.length < 2 ^ 32) :
    Decodes (frameBytes order) clientFailure (recvmsg order cut) frame where
  whole rest calls := by
    obtain ⟨after, header⟩ := recvmsg_header order cut frame.msg frame.arg
      (BitVec.ofNat 32 frame.payload.length) (frame.payload ++ rest) calls
    rw [frameBytes, List.append_assoc, List.append_assoc, List.append_assoc, header,
      BitVec.toNat_ofNat, Nat.mod_eq_of_lt fits]
    split
    · obtain ⟨later, received⟩ := recv_append cut frame.payload rest after
      exact ⟨later, by rw [received]; rfl⟩
    · rename_i absent
      have zero := congrArg BitVec.toNat (Decidable.not_not.mp absent)
      rw [BitVec.toNat_ofNat, Nat.mod_eq_of_lt fits] at zero
      have empty : frame.payload = [] := List.eq_nil_of_length_eq_zero zero
      exact ⟨after, by rw [empty, List.nil_append, ← empty]⟩
  torn stop ends calls := by
    rw [frameBytes_length] at ends
    by_cases header : 12 ≤ stop
    · obtain ⟨later, received⟩ := recvmsg_header order cut frame.msg frame.arg
        (BitVec.ofNat 32 frame.payload.length) (frame.payload.take (stop - 12)) calls
      have sized : (BitVec.ofNat 32 frame.payload.length).toNat = frame.payload.length := by
        rw [BitVec.toNat_ofNat, Nat.mod_eq_of_lt fits]
      have present : BitVec.ofNat 32 frame.payload.length ≠ 0#32 := by
        intro absent
        rw [absent] at sized
        change 0 = _ at sized
        omega
      rw [frameBytes_take order frame header, received, if_pos present, sized,
        recv_short cut _ (by rw [List.length_take]; omega)]
      rfl
    · rw [recvmsg, recv_short cut _ (by rw [List.length_take]; omega)]
      rfl

end Receiving

section Agreement

/-- Each end reads the messages that the other one wrote, and a stream that stops early gives
the messages that are wholly in it and then a broken connection. -/
structure FramesAgree (order : ByteOrder) (messages : List Message) (stop : Nat) : Prop where
  toClient : ∀ cut cut', receive (recvmsg order cut') messages.length
    ⟨written (sendipcmsg order cut) messages, 0⟩ = .ok (messages.map Subtype.val)
  toEmulator : ∀ cut cut' fresh, receive (recvipcmsg order cut' fresh) messages.length
    ⟨written (sendmsg order cut) messages, 0⟩ = .ok (messages.map Subtype.val)
  clientEnds : ∀ cut cut' count, stop < (written (sendipcmsg order cut) messages).length →
    receive (recvmsg order cut') count ⟨(written (sendipcmsg order cut) messages).take stop, 0⟩ =
      if (written (sendipcmsg order cut) (messages.take count)).length ≤ stop
      then .ok ((messages.map Subtype.val).take count) else .error .broken
  emulatorEnds : ∀ cut cut' fresh count, stop < (written (sendmsg order cut) messages).length →
    receive (recvipcmsg order cut' fresh) count
        ⟨(written (sendmsg order cut) messages).take stop, 0⟩ =
      if (written (sendmsg order cut) (messages.take count)).length ≤ stop
      then .ok ((messages.map Subtype.val).take count) else .error .broken

variable (order : ByteOrder)

theorem bytesFrom_ne (payload : Bytes) (present : payload ≠ []) :
    ∃ fresh, bytesFrom fresh 0 payload.length ≠ payload := by
  cases payload with
  | nil => exact absurd rfl present
  | cons byte payload =>
      refine ⟨fun _ => ~~~byte, fun same => ?_⟩
      have first := congrArg (fun bytes => bytes.getD 0 0#8) same
      rw [bytesFrom, List.length_cons, List.range_succ_eq_map, List.map_cons] at first
      change ~~~byte = byte at first
      have bit := congrArg (fun word => word.getLsbD 0) first
      simp at bit

theorem counted_of_received (cut : Nat → Nat) (messages : List Message) (calls : Nat)
    (received : ∀ fresh, receive (recvipcmsg order cut fresh) messages.length
      ⟨(messages.map Subtype.val).flatMap (frameBytes order), calls⟩ =
        .ok (messages.map Subtype.val)) :
    ∀ message ∈ messages, message.val.payload.length < 2 ^ 31 := by
  induction messages generalizing calls with
  | nil =>
      intro message member
      cases member
  | cons message messages ih =>
      rw [List.map_cons, List.flatMap_cons, List.length_cons] at received
      by_cases short : message.val.payload.length < 2 ^ 31
      · obtain ⟨later, first⟩ := recvipcmsg_whole order cut message.val short
          ((messages.map Subtype.val).flatMap (frameBytes order)) calls
        have others := ih later fun fresh => (receive_cons (first fresh) (received fresh)).2
        intro other member
        rcases List.mem_cons.mp member with rfl | member
        · exact short
        · exact others other member
      · -- The payload stays in the stream, and the buffer keeps what `malloc` left in it.
        exfalso
        have long : 2 ^ 31 ≤ message.val.payload.length := Nat.le_of_not_lt short
        have present : message.val.payload ≠ [] := by
          intro empty
          rw [empty] at long
          exact absurd long (by decide)
        obtain ⟨fresh, differs⟩ := bytesFrom_ne message.val.payload present
        obtain ⟨later, header⟩ := recvipcmsg_header order cut message.val.msg message.val.arg
          (BitVec.ofNat 32 message.val.payload.length)
          (message.val.payload ++ (messages.map Subtype.val).flatMap (frameBytes order)) calls
        have first := header fresh
        rw [recvbuf_long cut _ message.val long message.property fresh] at first
        have both := received fresh
        rw [frameBytes, List.append_assoc, List.append_assoc, List.append_assoc] at both
        exact differs (congrArg Frame.payload (receive_cons first both).1)

variable {order} {messages : List Message} {stop : Nat}

theorem FramesAgree.counted (agree : FramesAgree order messages stop) :
    ∀ message ∈ messages, message.val.payload.length < 2 ^ 31 := by
  apply counted_of_received order id messages 0
  intro fresh
  rw [← written_sendmsg order id]
  exact agree.toEmulator id id fresh

theorem emulator_decodes
    (short : ∀ message ∈ messages, message.val.payload.length < 2 ^ 31) (cut : Nat → Nat)
    (fresh : Nat → BitVec 8) : ∀ frame ∈ messages.map Subtype.val,
      Decodes (frameBytes order) emulatorFailure (recvipcmsg order cut fresh) frame := by
  intro frame member
  obtain ⟨message, sent, rfl⟩ := List.mem_map.mp member
  exact recvipcmsg_decodes order cut fresh message.val (short message sent)

theorem client_decodes (cut : Nat → Nat) : ∀ frame ∈ messages.map Subtype.val,
    Decodes (frameBytes order) clientFailure (recvmsg order cut) frame := by
  intro frame member
  obtain ⟨message, _, rfl⟩ := List.mem_map.mp member
  exact recvmsg_decodes order cut message.val message.property

theorem locate_of_early
    (early : stop < ((messages.map Subtype.val).flatMap (frameBytes order)).length) :
    ∃ frame offset, locate (frameBytes order) (messages.map Subtype.val) stop =
      some (frame, offset) := by
  rw [← locate_isSome] at early
  obtain ⟨⟨frame, offset⟩, place⟩ := Option.isSome_iff_exists.mp early
  exact ⟨frame, offset, place⟩

theorem FramesAgree.outside (agree : FramesAgree order messages stop) {frame : Frame}
    {offset : Nat}
    (located : locate (frameBytes order) (messages.map Subtype.val) stop = some (frame, offset)) :
    offset < 12 := by
  have early : stop < ((messages.map Subtype.val).flatMap (frameBytes order)).length := by
    rw [← locate_isSome, located]
    rfl
  have torn := receive_torn _ (emulator_decodes agree.counted id fun _ => 0#8) located
    messages.length 0
  have ends := agree.emulatorEnds id id (fun _ => 0#8) messages.length
  rw [List.take_length, written_sendmsg] at ends
  have all : (messages.map Subtype.val).take messages.length = messages.map Subtype.val := by
    exact List.take_of_length_le (by rw [List.length_map])
  rw [all, ends early, if_neg (by omega), if_neg (by omega), emulatorFailure] at torn
  by_contra inside
  rw [if_neg inside] at torn
  cases torn

/-- The two ends agree exactly when an `int` counts every payload and the stream to the emulator
does not end inside one. -/
theorem framing_iff (order : ByteOrder) (messages : List Message) (stop : Nat) :
    FramesAgree order messages stop ↔
      (∀ message ∈ messages, message.val.payload.length < 2 ^ 31) ∧
      ∀ frame offset, locate (frameBytes order) (messages.map Subtype.val) stop =
        some (frame, offset) → offset < 12 := by
  constructor
  · intro agree
    exact ⟨agree.counted, fun frame offset located => agree.outside located⟩
  · rintro ⟨short, located⟩
    have part : ∀ count, ∀ message ∈ messages.take count, message.val.payload.length < 2 ^ 31 :=
      fun count message member => short message (List.mem_of_mem_take member)
    constructor
    · intro cut cut'
      rw [written_sendipcmsg order cut messages short, ← List.length_map Subtype.val]
      exact receive_whole _ (client_decodes cut') 0
    · intro cut cut' fresh
      rw [written_sendmsg, ← List.length_map Subtype.val]
      exact receive_whole _ (emulator_decodes short cut' fresh) 0
    · intro cut cut' count early
      rw [written_sendipcmsg order cut messages short] at early ⊢
      rw [written_sendipcmsg order cut _ (part count), List.map_take]
      obtain ⟨frame, offset, place⟩ := locate_of_early early
      exact receive_torn _ (client_decodes cut') place count 0
    · intro cut cut' fresh count early
      rw [written_sendmsg] at early ⊢
      rw [written_sendmsg, List.map_take]
      obtain ⟨frame, offset, place⟩ := locate_of_early early
      rw [receive_torn _ (emulator_decodes short cut' fresh) place count 0, emulatorFailure,
        if_pos (located frame offset place)]

def longMessage : Message :=
  ⟨{ msg := 5#32, arg := 0#32, payload := List.replicate (2 ^ 31) 0#8 }, by
    rw [List.length_replicate]
    decide⟩

def shortMessage : Message :=
  ⟨{ msg := 5#32, arg := 0#32, payload := [0#8] }, by decide⟩

/-- A `MSG_WRITE` of 2 GiB, and one byte of which only the header arrives. -/
theorem frames_disagree :
    (¬ FramesAgree .little [longMessage] (12 + 2 ^ 31)) ∧ ¬ FramesAgree .little [shortMessage] 12 :=
  ⟨fun agree => by
    have counted := agree.counted longMessage List.mem_cons_self
    rw [longMessage, List.length_replicate] at counted
    exact Nat.lt_irrefl _ counted,
  fun agree => by
    have located : locate (frameBytes .little) ([shortMessage].map Subtype.val) 12 =
        some (shortMessage.val, 12) := rfl
    exact Nat.lt_irrefl 12 (agree.outside located)⟩

end Agreement

end SkyeyeStarlet.Wire
