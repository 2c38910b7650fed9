import SkyeyeStarlet.ClientCore
import SkyeyeStarlet.Library.Runs

/-!
Which response a read of the client takes.  A completion that is handled while another read
waits starts a second read on the one buffer, and then each takes the other's response; as
long as that does not happen, every read gets its own and none is left over.
-/

namespace SkyeyeStarlet

section Streams

def readOf : Received → Option (ARMword × ARMword)
  | .read addr size => some (addr, size)
  | _ => none

def payloadOf : Sent → Option Bytes
  | .read _ payload => some payload
  | _ => none

def readsIn (packets : List Received) : List (ARMword × ARMword) :=
  packets.filterMap readOf

def payloadsIn (messages : List Sent) : List Bytes :=
  messages.filterMap payloadOf

theorem readsIn_append (first second : List Received) :
    readsIn (first ++ second) = readsIn first ++ readsIn second := by
  exact List.filterMap_append

theorem payloadsIn_append (first second : List Sent) :
    payloadsIn (first ++ second) = payloadsIn first ++ payloadsIn second := by
  exact List.filterMap_append

theorem readsIn_writes (writes : List (ARMword × Bytes)) :
    readsIn (writes.map fun write => .write write.1 write.2) = [] := by
  induction writes with
  | nil => rfl
  | cons write rest ih => exact ih

theorem payloadsIn_cons_none {msg : Sent} {rest : List Sent} (other : payloadOf msg = none) :
    payloadsIn (msg :: rest) = payloadsIn rest := by
  exact List.filterMap_cons_none other

end Streams

def Returned.Matches (session : Session) : Returned → Prop
  | .readmem addr size read payload =>
      session.asked[read]? = some (addr, size) ∧ session.answers[read]? = some payload
  | .reply _ block read result =>
      session.asked[read]? = some (block + 4#32, 4#32) ∧
        ∃ payload, session.answers[read]? = some payload ∧ unpackWord payload = some result

theorem Returned.Matches.mono {entry : Returned} {before after : Session}
    (asked : before.asked <+: after.asked) (answers : before.answers <+: after.answers)
    (holds : entry.Matches before) : entry.Matches after := by
  have later {Item : Type} {first second : List Item} (grows : first <+: second) {index : Nat}
      {item : Item} (found : first[index]? = some item) : second[index]? = some item := by
    obtain ⟨tail, rfl⟩ := grows
    obtain ⟨bound, _⟩ := List.getElem?_eq_some_iff.mp found
    rw [List.getElem?_append_left bound, found]
  cases entry with
  | readmem addr size read payload => exact ⟨later asked holds.1, later answers holds.2⟩
  | reply request block read result =>
      obtain ⟨ask, payload, answer, word⟩ := holds
      exact ⟨later asked ask, payload, later answers answer, word⟩

def Quiet (stack : List ReceiveLoop) : Prop :=
  stack = [] ∨ ∃ request, stack = [.wait request]

inductive Reading (session : Session) (stack : List ReceiveLoop) : Prop
  | readmem (addr size : ARMword) (read : Nat) : stack = [.readmem addr size read] →
      session.asked[read]? = some (addr, size) → size ≠ 0#32 →
      session.asked.length = read + 1 → Reading session stack
  | reply (request : Nat) (block : ARMword) (read waited : Nat) :
      stack = [.reply request block read, .wait waited] →
      session.asked[read]? = some (block + 4#32, 4#32) →
      session.asked.length = read + 1 → Reading session stack

/-- Where the last read is: nowhere, on its way to the emulator, or on its way back. -/
inductive Phase (session : Session) : Prop
  | quiet : Quiet session.client.stack → session.answers.length = session.asked.length →
      readsIn session.toEmulator = [] → payloadsIn session.toClient = [] → Phase session
  | asking (ask : ARMword × ARMword) : Reading session session.client.stack →
      session.client.readbuf = none → session.answers.length + 1 = session.asked.length →
      session.asked[session.answers.length]? = some ask →
      readsIn session.toEmulator = [ask] → payloadsIn session.toClient = [] → Phase session
  | answered (payload : Bytes) : Reading session session.client.stack →
      session.client.readbuf = none → session.answers.length = session.asked.length →
      session.answers[session.asked.length - 1]? = some payload →
      readsIn session.toEmulator = [] → payloadsIn session.toClient = [payload] → Phase session

def Sized (session : Session) : Prop :=
  ∀ (read : Nat) (payload : Bytes), session.answers[read]? = some payload →
    ∃ ask, session.asked[read]? = some ask ∧ payload.length = ask.2.toNat

structure Matched (session : Session) : Prop where
  phase : Phase session
  sized : Sized session
  returned : ∀ entry ∈ session.returned, entry.Matches session

theorem matched_start : Matched startSession := by
  refine ⟨.quiet (Or.inl rfl) rfl rfl rfl, ?_, ?_⟩
  · intro read payload found
    cases found
  · intro entry member
    cases member

section Emulator

variable {session : Session}

theorem Reading.grow {before after : Session} {stack : List ReceiveLoop} (reading : Reading before stack)
    (asked : after.asked = before.asked) : Reading after stack := by
  cases reading with
  | readmem addr size read shape ask sized last =>
      rw [← asked] at ask last
      exact .readmem addr size read shape ask sized last
  | reply request block read waited shape ask last =>
      rw [← asked] at ask last
      exact .reply request block read waited shape ask last

theorem Matched.withQueues (matched : Matched session) {toEmulator : List Received}
    {toClient : List Sent} (sameReads : readsIn toEmulator = readsIn session.toEmulator)
    (samePayloads : payloadsIn toClient = payloadsIn session.toClient) :
    Matched { session with toEmulator, toClient } := by
  refine ⟨?_, matched.sized, matched.returned⟩
  cases matched.phase with
  | quiet stack lengths reads payloads =>
      exact .quiet stack lengths (sameReads.trans reads) (samePayloads.trans payloads)
  | asking ask reading empty lengths asked reads payloads =>
      exact .asking ask (reading.grow rfl) empty lengths asked (sameReads.trans reads)
        (samePayloads.trans payloads)
  | answered payload reading empty lengths answer reads payloads =>
      exact .answered payload (reading.grow rfl) empty lengths answer (sameReads.trans reads)
        (samePayloads.trans payloads)

theorem matched_emit (matched : Matched session) {msg : Sent} (other : payloadOf msg = none) :
    Matched (session.emit msg) := by
  have none' : payloadsIn [msg] = [] := payloadsIn_cons_none other
  have same : payloadsIn (session.emit msg).toClient = payloadsIn session.toClient := by
    rw [Session.emit, payloadsIn_append, none', List.append_nil]
  exact matched.withQueues rfl same

theorem matched_skip (matched : Matched session) {packet : Received} {rest : List Received}
    (head : session.toEmulator = packet :: rest) (other : readOf packet = none) :
    Matched { session with toEmulator := rest } := by
  have same : readsIn rest = readsIn session.toEmulator := by
    rw [head]
    exact (List.filterMap_cons_none other).symm
  exact matched.withQueues same rfl

theorem matched_answer (matched : Matched session) {addr size : ARMword} {rest : List Received}
    (head : session.toEmulator = .read addr size :: rest) (content : Nat → BitVec 8) :
    Matched
      { session with
        toEmulator := rest
        toClient := session.toClient ++ [.read addr (bytesFrom content 0 size.toNat)]
        answers := session.answers ++ [bytesFrom content 0 size.toNat] } := by
  have reads : readsIn session.toEmulator = (addr, size) :: readsIn rest := by
    rw [head]
    rfl
  obtain ⟨phase, sized, returned⟩ := matched
  cases phase with
  | quiet _ _ none' _ =>
      rw [none'] at reads
      exact nomatch reads
  | answered _ _ _ _ _ none' _ =>
      rw [none'] at reads
      exact nomatch reads
  | asking ask reading empty lengths asked one payloads =>
      rw [one] at reads
      obtain ⟨rfl, done⟩ := List.cons.inj reads
      refine ⟨?_, ?_, ?_⟩
      · refine .answered (bytesFrom content 0 size.toNat) (reading.grow rfl) empty ?_ ?_ done.symm ?_
        · rw [List.length_append]
          exact lengths
        · show (session.answers ++ [bytesFrom content 0 size.toNat])[session.asked.length - 1]? = _
          rw [← lengths, Nat.add_sub_cancel, List.getElem?_append_right le_rfl, Nat.sub_self]
          rfl
        · show payloadsIn (session.toClient ++ _) = _
          rw [payloadsIn_append, payloads]
          rfl
      · intro read payload found
        rcases Nat.lt_or_ge read session.answers.length with old | new
        · rw [List.getElem?_append_left old] at found
          exact sized read payload found
        · rw [List.getElem?_append_right new] at found
          obtain ⟨bound, value⟩ := List.getElem?_eq_some_iff.mp found
          have first : read = session.answers.length := by
            rw [List.length_singleton] at bound
            omega
          subst first
          refine ⟨(addr, size), asked, ?_⟩
          rw [← value]
          simp [bytesFrom_length]
      · intro entry member
        refine Returned.Matches.mono ?_ ?_ (returned entry member)
        · exact List.prefix_refl session.asked
        · exact List.prefix_append session.answers _

theorem matched_serve (matched : Matched session) (content : Nat → BitVec 8) :
    Matched (session.serve content) := by
  unfold Session.serve
  split
  · exact matched
  · rename_i addr size rest head
    exact matched_answer matched head content
  · rename_i packet rest other head
    refine matched_skip matched head ?_
    cases packet with
    | read addr size => exact absurd rfl (other addr size)
    | _ => rfl

end Emulator

section Loops

variable {session : Session} {stack : List ReceiveLoop}

theorem unwind_quiet (session : Session) (quiet : Quiet stack) :
    ∃ left, Quiet left ∧ Session.unwind stack session = session.waitIn left := by
  rcases quiet with rfl | ⟨request, rfl⟩
  · exact ⟨[], Or.inl rfl, rfl⟩
  · simp only [Session.unwind]
    split
    · exact ⟨[], Or.inl rfl, rfl⟩
    · exact ⟨[.wait request], Or.inr ⟨request, rfl⟩, rfl⟩

theorem unwind_blocked (reading : Reading session stack) (empty : session.client.readbuf = none) :
    Session.unwind stack session = session.waitIn stack := by
  cases reading with
  | readmem addr size read shape _ _ _ => rw [shape, Session.unwind, empty]
  | reply request block read waited shape _ _ => rw [shape, Session.unwind, empty]

theorem unpackWord_of_length {payload : Bytes} (word : payload.length = 4) :
    ∃ result, unpackWord payload = some result := by
  obtain ⟨first, second, third, fourth, rfl⟩ := List.length_eq_four.mp word
  exact ⟨_, rfl⟩

theorem unwind_returns (reading : Reading session stack) {payload : Bytes}
    (filled : session.client.readbuf = some payload)
    (answer : session.answers[session.asked.length - 1]? = some payload) (sized : Sized session) :
    ∃ client entry, Quiet client.stack ∧ entry.Matches session ∧
      Session.unwind stack session =
        { session with client, returned := session.returned ++ [entry] } := by
  cases reading with
  | readmem addr size read shape ask _ last =>
      rw [last, Nat.add_sub_cancel] at answer
      refine ⟨{ session.client with stack := [] }, .readmem addr size read payload, Or.inl rfl,
        ⟨ask, answer⟩, ?_⟩
      rw [shape, Session.unwind, filled]
      rfl
  | reply request block read waited shape ask last =>
      rw [last, Nat.add_sub_cancel] at answer
      obtain ⟨ask', same, length⟩ := sized read payload answer
      obtain rfl : (block + 4#32, 4#32) = ask' := Option.some.inj (ask.symm.trans same)
      obtain ⟨result, word⟩ := unpackWord_of_length length
      have holds : (Returned.reply request block read result).Matches session :=
        ⟨ask, payload, answer, word⟩
      rw [shape, Session.unwind, filled]
      simp only [word]
      split
      · exact ⟨_, _, Or.inl rfl, holds, rfl⟩
      · rename_i freed _
        obtain ⟨left, quiet, result'⟩ := unwind_quiet
          { session with
            client := freed.setObject request fun object => { object with done := true }
            returned := session.returned ++ [.reply request block read result] }
          (Or.inr ⟨waited, rfl⟩)
        rw [result']
        exact ⟨_, _, quiet, holds, rfl⟩

end Loops

section Client

variable {session : Session} {stack : List ReceiveLoop}

theorem Reading.not_quiet (reading : Reading session stack) : ¬Quiet stack := by
  intro quiet
  cases reading with
  | readmem addr size read shape _ _ _ =>
      subst shape
      rcases quiet with none' | ⟨request, wait⟩
      · exact nomatch none'
      · exact nomatch wait
  | reply request block read waited shape _ _ =>
      subst shape
      rcases quiet with none' | ⟨request', wait⟩
      · exact nomatch none'
      · exact nomatch wait

structure Idle (session : Session) : Prop where
  lengths : session.answers.length = session.asked.length
  reads : readsIn session.toEmulator = []
  payloads : payloadsIn session.toClient = []
  sized : Sized session
  returned : ∀ entry ∈ session.returned, entry.Matches session

theorem Matched.idle (matched : Matched session) (quiet : Quiet session.client.stack) :
    Idle session := by
  cases matched.phase with
  | quiet _ lengths reads payloads =>
      exact ⟨lengths, reads, payloads, matched.sized, matched.returned⟩
  | asking _ reading => exact absurd quiet reading.not_quiet
  | answered _ reading => exact absurd quiet reading.not_quiet

theorem Idle.matched (idle : Idle session) (quiet : Quiet session.client.stack) :
    Matched session := by
  exact ⟨.quiet quiet idle.lengths idle.reads idle.payloads, idle.sized, idle.returned⟩

theorem Idle.onClient (idle : Idle session) (change : SkyeyeIpc → SkyeyeIpc) :
    Idle (session.onClient change) := by
  exact ⟨idle.lengths, idle.reads, idle.payloads, idle.sized, idle.returned⟩

theorem Idle.unwind (idle : Idle session) (quiet : Quiet stack) :
    Matched (Session.unwind stack session) := by
  obtain ⟨left, still, result⟩ := unwind_quiet session quiet
  rw [result]
  exact (idle.onClient _).matched still

theorem Idle.send (idle : Idle session) {packets : List Received} (none' : readsIn packets = []) :
    Idle { session with toEmulator := session.toEmulator ++ packets } := by
  refine ⟨idle.lengths, ?_, idle.payloads, idle.sized, idle.returned⟩
  show readsIn (session.toEmulator ++ packets) = []
  rw [readsIn_append, idle.reads, none']
  rfl

theorem Idle.async (idle : Idle session) (request : Nat) (addr : ARMword)
    (writes : List (ARMword × Bytes)) : Idle (session.async request addr writes) := by
  have none' : readsIn (writes.map (fun write => .write write.1 write.2) ++ [.message addr]) = [] := by
    rw [readsIn_append, readsIn_writes]
    rfl
  have sent := (idle.send none').onClient fun client =>
    { client.setObject request (fun object => { object with addr := some addr }) with
      requests := Function.update client.requests addr (some request) }
  rw [Session.async, List.append_assoc]
  exact sent

theorem Idle.sendRead (idle : Idle session) {addr size : ARMword}
    (reading : Reading (session.sendRead addr size) stack) :
    Matched (Session.unwind stack (session.sendRead addr size)) := by
  have blocked := unwind_blocked reading rfl
  have ask : (session.asked ++ [(addr, size)])[session.answers.length]? = some (addr, size) := by
    rw [idle.lengths, List.getElem?_append_right le_rfl, Nat.sub_self]
    rfl
  have grown : session.asked <+: session.asked ++ [(addr, size)] := List.prefix_append _ _
  rw [blocked]
  refine ⟨?_, ?_, ?_⟩
  · refine .asking (addr, size) (reading.grow rfl) rfl ?_ ask ?_ idle.payloads
    · show session.answers.length + 1 = (session.asked ++ [(addr, size)]).length
      rw [idle.lengths, List.length_append]
      rfl
    · show readsIn (session.toEmulator ++ [.read addr size]) = _
      rw [readsIn_append, idle.reads]
      rfl
  · intro read payload found
    obtain ⟨ask, asked, length⟩ := idle.sized read payload found
    obtain ⟨bound, _⟩ := List.getElem?_eq_some_iff.mp asked
    refine ⟨ask, ?_, length⟩
    show (session.asked ++ [(addr, size)])[read]? = some ask
    rw [List.getElem?_append_left bound, asked]
  · intro entry member
    exact Returned.Matches.mono grown (List.prefix_refl session.answers)
      (idle.returned entry member)

theorem sendRead_asked (session : Session) (addr size : ARMword) :
    (session.sendRead addr size).asked[session.asked.length]? = some (addr, size) ∧
      (session.sendRead addr size).asked.length = session.asked.length + 1 := by
  constructor
  · show (session.asked ++ [(addr, size)])[session.asked.length]? = _
    rw [List.getElem?_append_right le_rfl, Nat.sub_self]
    rfl
  · exact List.length_append

def ReceiveLoop.reads : ReceiveLoop → Bool
  | .readmem _ _ _ => true
  | .reply _ _ _ => true
  | .wait _ => false

/-- No completion of a request is handled while a read waits; `readmem` asks for something. -/
def OrderlyEvent (session : Session) : SessionEvent → Prop
  | .call (.readmem _ size) => size ≠ 0#32
  | .receive =>
      ∀ addr rest, session.toClient = .message addr :: rest →
        session.client.requests addr ≠ none → ∀ frame ∈ session.client.stack, frame.reads = false
  | _ => True

theorem Reading.reads (reading : Reading session stack) :
    ∃ frame ∈ stack, frame.reads = true := by
  cases reading with
  | readmem addr size read shape _ _ _ =>
      rw [shape]
      exact ⟨_, List.mem_cons_self, rfl⟩
  | reply request block read waited shape _ _ =>
      rw [shape]
      exact ⟨_, List.mem_cons_self, rfl⟩

theorem matched_call (matched : Matched session) (free : session.client.stack = [])
    {call : ClientCall} (orderly : OrderlyEvent session (.call call)) :
    Matched (session.call call) := by
  have quiet : Quiet session.client.stack := Or.inl free
  have idle := matched.idle quiet
  cases call with
  | async request addr writes => exact (idle.async request addr writes).matched quiet
  | wait request => exact idle.unwind (Or.inr ⟨request, rfl⟩)
  | sync request addr writes =>
      exact (idle.async request addr writes).unwind (Or.inr ⟨request, rfl⟩)
  | readmem addr size =>
      obtain ⟨asked, last⟩ := sendRead_asked session addr size
      exact idle.sendRead (.readmem addr size session.asked.length rfl asked orderly last)
  | writemem addr buf => exact (idle.send rfl).matched quiet

theorem Phase.skip {msg : Sent} {rest : List Sent} (matched : Matched session)
    (head : session.toClient = msg :: rest) (other : payloadOf msg = none) :
    Matched { session with toClient := rest } := by
  have same : payloadsIn rest = payloadsIn session.toClient := by
    rw [head, payloadsIn_cons_none other]
  exact matched.withQueues rfl same

theorem Matched.unwind (matched : Matched session) (change : SkyeyeIpc → SkyeyeIpc)
    (readbuf : ∀ client, (change client).readbuf = client.readbuf) :
    Matched (Session.unwind session.client.stack (session.onClient change)) := by
  have blocked (reading : Reading session session.client.stack)
      (empty : session.client.readbuf = none) :
      Session.unwind session.client.stack (session.onClient change) =
        (session.onClient change).waitIn session.client.stack :=
    unwind_blocked (reading.grow rfl) ((readbuf session.client).trans empty)
  cases matched.phase with
  | quiet quiet _ _ _ => exact ((matched.idle quiet).onClient change).unwind quiet
  | asking ask reading empty lengths asked reads payloads =>
      rw [blocked reading empty]
      refine ⟨?_, matched.sized, matched.returned⟩
      exact .asking ask (reading.grow rfl) ((readbuf session.client).trans empty) lengths asked
        reads payloads
  | answered payload reading empty lengths answer reads payloads =>
      rw [blocked reading empty]
      refine ⟨?_, matched.sized, matched.returned⟩
      exact .answered payload (reading.grow rfl) ((readbuf session.client).trans empty) lengths
        answer reads payloads

theorem matched_response (matched : Matched session) {addr : ARMword} {payload : Bytes}
    {rest : List Sent} (head : session.toClient = .read addr payload :: rest) :
    Matched (Session.processmsg { session with toClient := rest } (.read addr payload)) := by
  have payloads : payloadsIn session.toClient = payload :: payloadsIn rest := by
    rw [head]
    rfl
  cases matched.phase with
  | quiet _ _ _ none' =>
      rw [none'] at payloads
      exact nomatch payloads
  | asking _ _ _ _ _ _ none' =>
      rw [none'] at payloads
      exact nomatch payloads
  | answered sent reading empty lengths answer reads one =>
      rw [one] at payloads
      obtain ⟨rfl, done⟩ := List.cons.inj payloads
      obtain ⟨ask, asked, length⟩ := matched.sized _ sent answer
      have something : sent ≠ [] := by
        rintro rfl
        have zero : ask.2.toNat = 0 := length.symm
        cases reading with
        | readmem addr' size read _ found positive last =>
            rw [last, Nat.add_sub_cancel, found] at asked
            obtain rfl := Option.some.inj asked
            exact positive (BitVec.eq_of_toNat_eq zero)
        | reply request block read waited _ found last =>
            rw [last, Nat.add_sub_cancel, found] at asked
            obtain rfl := Option.some.inj asked
            exact absurd zero (by decide : (4#32).toNat ≠ 0)
      let filled : Session :=
        { session with
          client := { session.client with readbuf := some sent }
          toClient := rest }
      have taken : Session.processmsg { session with toClient := rest } (.read addr sent) =
          Session.unwind session.client.stack filled := by
        simp only [Session.processmsg, Session.onClient, something, if_false, filled]
      have ready : Reading filled session.client.stack := reading.grow rfl
      obtain ⟨client, entry, quiet, holds, result⟩ :=
        unwind_returns ready rfl answer matched.sized
      rw [taken, result]
      refine ⟨.quiet quiet lengths reads done.symm, matched.sized, ?_⟩
      intro other member
      rcases List.mem_append.mp member with old | new
      · exact matched.returned other old
      · rw [List.mem_singleton.mp new]
        exact holds

theorem matched_message (matched : Matched session) (waits : session.client.stack ≠ [])
    {addr : ARMword}
    (orderly : session.client.requests addr ≠ none →
      ∀ frame ∈ session.client.stack, frame.reads = false) :
    Matched (session.ipcreply addr) := by
  unfold Session.ipcreply
  split
  · exact matched.unwind id fun _ => rfl
  · rename_i request known
    have silent := orderly (known ▸ Option.some_ne_none request)
    have quiet : Quiet session.client.stack := by
      cases matched.phase with
      | quiet quiet _ _ _ => exact quiet
      | asking _ reading =>
          obtain ⟨frame, member, reads⟩ := reading.reads
          exact absurd (reads.symm.trans (silent frame member)) (by decide)
      | answered _ reading =>
          obtain ⟨frame, member, reads⟩ := reading.reads
          exact absurd (reads.symm.trans (silent frame member)) (by decide)
    have idle := matched.idle quiet
    split
    · exact (idle.onClient _).matched (Or.inl rfl)
    · rename_i block _
      obtain ⟨asked, last⟩ := sendRead_asked session (block + 4#32) 4#32
      obtain none' | ⟨waited, shape⟩ := quiet
      · exact absurd none' waits
      · rw [shape]
        exact idle.sendRead (.reply request block session.asked.length waited rfl asked last)

theorem matched_receive (matched : Matched session)
    (orderly : OrderlyEvent session .receive) : Matched (sessionStep session .receive) := by
  unfold sessionStep
  cases head : session.toClient with
  | nil => exact matched
  | cons msg rest =>
      dsimp only
      split
      · exact matched
      · rename_i waits
        have skipped (other : payloadOf msg = none) : Matched { session with toClient := rest } :=
          Phase.skip matched head other
        cases msg with
        | message addr =>
            exact matched_message (skipped rfl) waits (orderly addr rest head)
        | ack => exact (skipped rfl).unwind _ fun _ => rfl
        | status running => exact (skipped rfl).unwind _ fun _ => rfl
        | read addr payload => exact matched_response matched head
        | state payload => exact (skipped rfl).unwind id fun _ => rfl

theorem matched_step (session : Session) (event : SessionEvent) (matched : Matched session)
    (orderly : OrderlyEvent session event) : Matched (sessionStep session event) := by
  cases event with
  | call call =>
      show Matched (if session.client.stack = [] then session.call call else session)
      split
      · rename_i free
        exact matched_call matched free orderly
      · exact matched
  | receive => exact matched_receive matched orderly
  | serve content => exact matched_serve matched content
  | emitMessage addr => exact matched_emit matched rfl
  | emitAck => exact matched_emit matched rfl
  | emitStatus running => exact matched_emit matched rfl

end Client

/-- As long as no completion is handled while a read waits, every `readmem` returns the payload
of its own response, every `reply` stores the word of its own request block, and no response is
left when the program goes on. -/
theorem reads_match_responses (events : List SessionEvent)
    (orderly : Runs.AllSteps sessionStep OrderlyEvent startSession events) :
    let reached := Runs.run sessionStep startSession events
    (∀ entry ∈ reached.returned, entry.Matches reached) ∧
      (reached.client.stack = [] →
        readsIn reached.toEmulator = [] ∧ payloadsIn reached.toClient = []) := by
  have matched := Runs.run_invariant_of_allowed sessionStep Matched OrderlyEvent matched_step
    startSession matched_start events orderly
  refine ⟨matched.returned, fun free => ?_⟩
  have idle := matched.idle (Or.inl free)
  exact ⟨idle.reads, idle.payloads⟩

def completedRead : List SessionEvent :=
  [.call (.sync 0 0x11000000#32 []), .serve fun _ => 0#8, .emitMessage 0x11000000#32, .receive,
    .serve fun _ => 1#8, .receive, .call (.readmem 0x100#32 2#32), .serve fun _ => 2#8, .receive]

theorem reads_match_responses_completed :
    let reached := Runs.run sessionStep startSession completedRead
    reached.returned =
        [.reply 0 0x11000000#32 0 0x01010101#32, .readmem 0x100#32 2#32 1 [2#8, 2#8]] ∧
      ∀ entry ∈ reached.returned, entry.Matches reached := by
  refine ⟨by decide +kernel, (reads_match_responses completedRead ?_).1⟩
  have positive : (2#32 : ARMword) ≠ 0#32 := by decide
  refine ⟨trivial, trivial, trivial, ?_, trivial, ?_, positive, trivial, ?_, trivial⟩
  · intro addr rest head known
    decide +kernel
  · intro addr rest head
    cases head
  · intro addr rest head
    cases head

def crossedRead : List SessionEvent :=
  [.call (.async 0 0x11000000#32 []), .call (.readmem 0x100#32 4#32), .emitMessage 0x11000000#32,
    .receive, .serve fun _ => 0#8, .serve fun _ => 1#8, .serve fun _ => 2#8, .receive]

theorem crossedRead_exchanges :
    let reached := Runs.run sessionStep startSession crossedRead
    (∃ entry ∈ reached.returned, ¬entry.Matches reached) ∧ reached.client.stack = [] ∧
      payloadsIn reached.toClient = [[2#8, 2#8, 2#8, 2#8]] := by
  refine ⟨⟨.reply 0 0x11000000#32 1 0x01010101#32, by decide +kernel, ?_⟩, by decide +kernel,
    by decide +kernel⟩
  rintro ⟨_, payload, answer, word⟩
  have own : (Runs.run sessionStep startSession crossedRead).answers[1]? =
      some [2#8, 2#8, 2#8, 2#8] := by
    decide +kernel
  obtain rfl := Option.some.inj (own.symm.trans answer)
  exact absurd word (by decide)

end SkyeyeStarlet
