import SkyeyeStarlet.Library.WordBits
import SkyeyeStarlet.MailboxCore

/-!
What becomes of a message that the ARM posts.  In the PPC control word bit 2 says
that a message waits (the ARM reads it back as its X1, bit 0), bit 1 that an
acknowledgement waits, and bits 4 and 5 enable the two interrupts.  Every
`ipcSet` clears a waiting message, so a message is delivered exactly when no
acknowledgement is handled before it.
-/

namespace SkyeyeStarlet

theorem and_one_bne (word : ARMword) : (word &&& 0x01#32 != 0#32) = word.getLsbD 0 := by
  exact WordBits.and_bit_bne_zero word 0

theorem and_two_bne (word : ARMword) : (word &&& 0x02#32 != 0#32) = word.getLsbD 1 := by
  exact WordBits.and_bit_bne_zero word 1

theorem and_four_bne (word : ARMword) : (word &&& 0x04#32 != 0#32) = word.getLsbD 2 := by
  exact WordBits.and_bit_bne_zero word 2

theorem and_eight_bne (word : ARMword) : (word &&& 0x08#32 != 0#32) = word.getLsbD 3 := by
  exact WordBits.and_bit_bne_zero word 3

theorem pendingIntrPpc_eq (irq : Irq) (interrupt : Nat) :
    starletPendingIntrPpc irq interrupt = irq.irqActivePpc.getLsbD interrupt := by
  have shifted : intrBit interrupt = BitVec.twoPow 32 interrupt := by
    simp [intrBit, BitVec.twoPow]
  rw [starletPendingIntrPpc, shifted, WordBits.and_bit_bne_zero]

theorem ownControl_bits (control data : ARMword) :
    (ownControl control data).getLsbD 0 = data.getLsbD 0 ∧
    (ownControl control data).getLsbD 1 = (control.getLsbD 1 && !data.getLsbD 1) ∧
    (ownControl control data).getLsbD 2 = (control.getLsbD 2 && !data.getLsbD 2) ∧
    (ownControl control data).getLsbD 4 = data.getLsbD 4 := by
  simp [ownControl]

theorem peerControl_bits (control data : ARMword) :
    (peerControl control data).getLsbD 0 = (control.getLsbD 0 && !data.getLsbD 2) ∧
    (peerControl control data).getLsbD 1 = data.getLsbD 3 ∧
    (peerControl control data).getLsbD 2 = data.getLsbD 0 ∧
    (peerControl control data).getLsbD 4 = control.getLsbD 4 := by
  simp only [peerControl, setIf, clearIf, and_one_bne, and_two_bne, and_four_bne, and_eight_bne]
  cases data.getLsbD 0 <;> cases data.getLsbD 1 <;> cases data.getLsbD 2 <;>
    cases data.getLsbD 3 <;> simp

def Ipc.posted (ipc : Ipc) : Bool :=
  ipc.ppcctrl.getLsbD 2

def Ipc.acked (ipc : Ipc) : Bool :=
  ipc.ppcctrl.getLsbD 1

/-- The host takes message interrupts and the ARM's X1 mirrors the waiting message. -/
structure Mirrored (ipc : Ipc) : Prop where
  enabled : ipc.ppcctrl.getLsbD 4 = true
  mirror : ipc.armctrl.getLsbD 0 = ipc.posted

theorem ipcSet_ppcctrl (ipc : Ipc) (bits : ARMword) :
    (ipcSet ipc bits).ppcctrl = ownControl ipc.ppcctrl ((ipc.ppcctrl &&& 0x3C#32) ||| bits) := by
  rfl

theorem ipcSet_armctrl (ipc : Ipc) (bits : ARMword) :
    (ipcSet ipc bits).armctrl = peerControl ipc.armctrl ((ipc.ppcctrl &&& 0x3C#32) ||| bits) := by
  rfl

@[simp] theorem ipcSet_armmsg (ipc : Ipc) (bits : ARMword) :
    (ipcSet ipc bits).armmsg = ipc.armmsg := by
  rfl

@[simp] theorem ipcSet_posted (ipc : Ipc) (bits : ARMword) : (ipcSet ipc bits).posted = false := by
  rw [Ipc.posted, ipcSet_ppcctrl, (ownControl_bits _ _).2.2.1]
  cases waiting : ipc.ppcctrl.getLsbD 2 with
  | false => simp
  | true => simp [waiting]

@[simp] theorem ipcSet_acked (ipc : Ipc) (bits : ARMword) :
    (ipcSet ipc bits).acked = (ipc.acked && !bits.getLsbD 1) := by
  rw [Ipc.acked, Ipc.acked, ipcSet_ppcctrl, (ownControl_bits _ _).2.1]
  simp

theorem ipcSet_mirrored {ipc : Ipc} (mirrored : Mirrored ipc) (bits : ARMword) :
    Mirrored (ipcSet ipc bits) := by
  constructor
  · rw [ipcSet_ppcctrl, (ownControl_bits _ _).2.2.2, BitVec.getLsbD_or, BitVec.getLsbD_and,
      mirrored.enabled]
    simp
  · rw [ipcSet_posted, ipcSet_armctrl, (peerControl_bits _ _).1, mirrored.mirror, Ipc.posted]
    cases waiting : ipc.ppcctrl.getLsbD 2 with
    | false => simp
    | true => simp [waiting]

theorem armControl_mirrored {ipc : Ipc} (mirrored : Mirrored ipc) (data : ARMword) :
    Mirrored (starletIpcWrite ipc 12#32 data) := by
  constructor
  · exact (peerControl_bits ipc.ppcctrl data).2.2.2.trans mirrored.enabled
  · exact (ownControl_bits ipc.armctrl data).1.trans (peerControl_bits ipc.ppcctrl data).2.2.1.symm

theorem armControl_posted (ipc : Ipc) (data : ARMword) :
    (starletIpcWrite ipc 12#32 data).posted = data.getLsbD 0 := by
  exact (peerControl_bits ipc.ppcctrl data).2.2.1

theorem armControl_acked (ipc : Ipc) (data : ARMword) :
    (starletIpcWrite ipc 12#32 data).acked = data.getLsbD 3 := by
  exact (peerControl_bits ipc.ppcctrl data).2.1

theorem initControl_mirrored (ipc : Ipc) : Mirrored (starletIpcWrite ipc 4#32 0x36#32) := by
  constructor
  · exact (ownControl_bits ipc.ppcctrl 0x36#32).2.2.2
  · have own : (starletIpcWrite ipc 4#32 0x36#32).posted = false := by
      exact (ownControl_bits ipc.ppcctrl 0x36#32).2.2.1.trans (Bool.and_false _)
    rw [own]
    exact (peerControl_bits ipc.armctrl 0x36#32).1.trans (Bool.and_false _)

theorem ipcRequests_of_posted {ipc : Ipc} (mirrored : Mirrored ipc) (posted : ipc.posted = true) :
    ipcRequests ipc.ppcctrl = true := by
  have both : ipc.ppcctrl &&& 0x14#32 = 0x14#32 := by
    apply BitVec.eq_of_getLsbD_eq
    intro index bound
    have enabled := mirrored.enabled
    rw [Ipc.posted] at posted
    interval_cases index <;> simp_all
  simp [ipcRequests, both]

theorem setIntr_pendingPpc (irq : Irq) (interrupt : Nat) (bound : interrupt < 32) :
    starletPendingIntrPpc (starletSetIntr irq interrupt) interrupt = true := by
  rw [pendingIntrPpc_eq]
  simp [starletSetIntr, intrBit, bound]

theorem setIntr_keeps_pendingPpc {irq : Irq} {pending : Nat}
    (raised : starletPendingIntrPpc irq pending = true) (interrupt : Nat) :
    starletPendingIntrPpc (starletSetIntr irq interrupt) pending = true := by
  rw [pendingIntrPpc_eq] at raised ⊢
  simp [starletSetIntr, raised]

theorem ipcUpdateInt_pending {ipc : Ipc} (mirrored : Mirrored ipc) (posted : ipc.posted = true)
    (irq : Irq) : starletPendingIntrPpc (ipcUpdateInt ipc irq) 30 = true := by
  have ppc : starletPendingIntrPpc
      (if starletPendingIntrPpc irq 30 then irq else starletSetIntr irq 30) 30 = true := by
    split
    · assumption
    · exact setIntr_pendingPpc irq 30 (by omega)
  simp only [ipcUpdateInt, ipcRequests_of_posted mirrored posted, if_true]
  generalize (if starletPendingIntrPpc irq 30 then irq else starletSetIntr irq 30) = raised at ppc ⊢
  split
  · split
    · exact ppc
    · exact setIntr_keeps_pendingPpc ppc 31
  · exact ppc

inductive ClientWord where
  | nothing
  | message (arg : ARMword)
  | ack

structure ClientTurn where
  accepts : Bool
  word : ClientWord

def ClientWord.received : ClientWord → Received
  | .nothing => .nothing
  | .message arg => .message arg
  | .ack => .ack

def ClientTurn.input (turn : ClientTurn) : CycleInput :=
  { accepts := turn.accepts
    received := turn.word.received
    delivers := fun _ => true }

variable {Rest : Type}

theorem sendipcmsg_turn (turn : ClientTurn) (step : IpcStep Rest) (msg : Sent) :
    sendipcmsg turn.input step msg = .ok { step with sent := step.sent ++ [msg] } := by
  rfl

def messageWords (sent : List Sent) : List ARMword :=
  sent.filterMap fun
    | .message arg => some arg
    | _ => none

structure Emptied (host : Host Rest) (step : IpcStep Rest) : Prop where
  mirrored : Mirrored step.host.ipc
  posted : step.host.ipc.posted = false
  armmsg : step.host.ipc.armmsg = host.ipc.armmsg
  ipcs : step.host.ipcs ≠ .ipcInit
  words : messageWords step.sent =
    if host.ipc.posted && !host.ipc.acked then [host.ipc.armmsg] else []

def takeAck (step : IpcStep Rest) : IpcStep Rest :=
  if step.host.ipc.acked then { step.set 0x02#32 with sent := step.sent ++ [.ack] } else step

def takeMessage (step : IpcStep Rest) : IpcStep Rest :=
  if step.host.ipc.posted then
    { step.set 0x0c#32 with sent := step.sent ++ [.message step.host.ipc.armmsg] }
  else step

theorem idlePending_turn_eq (turn : ClientTurn) (step : IpcStep Rest) :
    idlePending turn.input step =
      .ok (if starletPendingIntrPpc step.host.irq 30 then (takeMessage (takeAck step)).clearPpc
        else step) := by
  have ack (step : IpcStep Rest) : idleAck turn.input step = .ok (takeAck step) := by
    rw [idleAck, and_two_bne, ← Ipc.acked, takeAck]
    split <;> rfl
  have message (step : IpcStep Rest) : idleMessage turn.input step = .ok (takeMessage step) := by
    rw [idleMessage, and_four_bne, ← Ipc.posted, takeMessage]
    split <;> rfl
  rw [idlePending, ack]
  split
  · change (idleMessage turn.input (takeAck step) >>= _) = _
    rw [message]
    rfl
  · rfl

theorem takeAck_spec {step : IpcStep Rest} (mirrored : Mirrored step.host.ipc) :
    Mirrored (takeAck step).host.ipc ∧
    (takeAck step).host.ipc.posted = (step.host.ipc.posted && !step.host.ipc.acked) ∧
    (takeAck step).host.ipc.armmsg = step.host.ipc.armmsg ∧
    (takeAck step).host.ipcs = step.host.ipcs ∧
    messageWords (takeAck step).sent = messageWords step.sent := by
  unfold takeAck
  split
  · rename_i acked
    exact ⟨ipcSet_mirrored mirrored _, by simp [IpcStep.set, acked], rfl, rfl, by
      simp [messageWords]⟩
  · rename_i notAcked
    exact ⟨mirrored, by simp [notAcked], rfl, rfl, rfl⟩

theorem takeMessage_spec {step : IpcStep Rest} (mirrored : Mirrored step.host.ipc) :
    Mirrored (takeMessage step).host.ipc ∧
    (takeMessage step).host.ipc.posted = false ∧
    (takeMessage step).host.ipc.armmsg = step.host.ipc.armmsg ∧
    (takeMessage step).host.ipcs = step.host.ipcs ∧
    messageWords (takeMessage step).sent =
      messageWords step.sent ++ if step.host.ipc.posted then [step.host.ipc.armmsg] else [] := by
  unfold takeMessage
  split
  · exact ⟨ipcSet_mirrored mirrored _, ipcSet_posted _ _, rfl, rfl, by simp [messageWords]⟩
  · rename_i notPosted
    exact ⟨mirrored, by simpa using notPosted, rfl, rfl, by simp⟩

theorem idlePending_turn (turn : ClientTurn) {host : Host Rest} (started : host.ipcs ≠ .ipcInit)
    (mirrored : Mirrored host.ipc)
    (raised : host.ipc.posted = true → starletPendingIntrPpc host.irq 30 = true) :
    ∃ step, idlePending turn.input { host, sent := [] } = .ok step ∧ Emptied host step := by
  refine ⟨_, idlePending_turn_eq turn _, ?_⟩
  let start : IpcStep Rest := { host, sent := [] }
  have ack := takeAck_spec (show Mirrored start.host.ipc from mirrored)
  have message := takeMessage_spec ack.1
  cases pending : starletPendingIntrPpc host.irq 30 with
  | false =>
      have empty : host.ipc.posted = false := by
        cases posted : host.ipc.posted with
        | false => rfl
        | true => simp [raised posted] at pending
      simp only [Bool.false_eq_true, if_false]
      exact ⟨mirrored, empty, rfl, started, by simp [messageWords, empty]⟩
  | true =>
      simp only [if_true]
      have phase := message.2.2.2.1.trans ack.2.2.2.1
      have words := message.2.2.2.2
      rw [ack.2.2.2.2, ack.2.1, ack.2.2.1] at words
      refine ⟨message.1, message.2.1, message.2.2.1.trans ack.2.2.1, ?_, words⟩
      intro initial
      exact started (phase.symm.trans initial)

theorem idleReceive_turn (services : Services Rest) (turn : ClientTurn) {host : Host Rest}
    {step : IpcStep Rest} (emptied : Emptied host step) :
    ∃ next, idleReceive services turn.input step = .ok next ∧ Emptied host next := by
  cases turn with
  | mk accepts word =>
      cases word with
      | nothing => exact ⟨step, rfl, emptied⟩
      | message arg =>
          refine ⟨_, rfl, ipcSet_mirrored ?_ _, ipcSet_posted _ _, emptied.armmsg, ?_, emptied.words⟩
          · exact ⟨emptied.mirrored.enabled, emptied.mirrored.mirror⟩
          · simp
      | ack =>
          exact ⟨_, rfl, ipcSet_mirrored emptied.mirrored _, ipcSet_posted _ _, emptied.armmsg,
            emptied.ipcs, emptied.words⟩

theorem idleStatus_turn (turn : ClientTurn) {host : Host Rest} {step : IpcStep Rest}
    (emptied : Emptied host step) :
    ∃ next, idleStatus turn.input step = .ok next ∧ Emptied host next := by
  unfold idleStatus
  split
  · refine ⟨_, rfl, emptied.mirrored, emptied.posted, emptied.armmsg, emptied.ipcs, ?_⟩
    simpa [messageWords] using emptied.words
  · exact ⟨step, rfl, emptied⟩

/-- A step that leaves the mailbox as it was and sends no message. -/
structure Untouched (host : Host Rest) (step : IpcStep Rest) : Prop where
  ipc : step.host.ipc = host.ipc
  ipcs : step.host.ipcs ≠ .ipcInit
  words : messageWords step.sent = []

theorem starletDoIpc_turn (services : Services Rest) (turn : ClientTurn) {host : Host Rest}
    (started : host.ipcs ≠ .ipcInit) (mirrored : Mirrored host.ipc)
    (raised : host.ipc.posted = true → starletPendingIntrPpc host.irq 30 = true) :
    Untouched host (starletDoIpc services turn.input host) ∨
      Emptied host (starletDoIpc services turn.input host) := by
  cases phase : host.ipcs with
  | ipcInit => exact absurd phase started
  | ipcAccept =>
      left
      simp only [starletDoIpc, phase]
      split
      · exact ⟨rfl, by simp [sendipcmsg_turn, leave, bind, Except.bind], rfl⟩
      · exact ⟨rfl, started, rfl⟩
  | ipcIdle =>
      right
      obtain ⟨served, pendingEq, afterPending⟩ := idlePending_turn turn started mirrored raised
      obtain ⟨answered, receiveEq, afterReceive⟩ := idleReceive_turn services turn afterPending
      obtain ⟨told, statusEq, afterStatus⟩ := idleStatus_turn turn afterReceive
      have result : starletDoIpc services turn.input host = told := by
        simp [starletDoIpc, phase, pendingEq, receiveEq, statusEq, leave, bind, Except.bind]
      rw [result]
      exact afterStatus
  | ipcSndack =>
      have ackBit : (host.ipc.ppcctrl &&& 0x02#32 != 0#32) = host.ipc.acked :=
        and_two_bne host.ipc.ppcctrl
      simp only [starletDoIpc, phase, ackBit]
      split
      · split
        · rename_i acked
          right
          exact ⟨ipcSet_mirrored mirrored _, ipcSet_posted _ _, rfl, by simp [IpcStep.clearPpc], by
            simp [messageWords, acked, IpcStep.clearPpc, IpcStep.set]⟩
        · left
          exact ⟨rfl, by simp [IpcStep.clearPpc, phase], rfl⟩
      · left
        exact ⟨rfl, started, rfl⟩

theorem starletIoDoCycle_turn (services : Services Rest) (turn : ClientTurn) {host : Host Rest}
    (started : host.ipcs ≠ .ipcInit) (mirrored : Mirrored host.ipc) :
    Untouched host (starletIoDoCycle services turn.input host) ∨
      Emptied host (starletIoDoCycle services turn.input host) := by
  have raised : (refreshInt (tickTimer host)).ipc.posted = true →
      starletPendingIntrPpc (refreshInt (tickTimer host)).irq 30 = true := by
    intro posted
    exact ipcUpdateInt_pending mirrored posted _
  have served := starletDoIpc_turn services turn
    (show (refreshInt (tickTimer host)).ipcs ≠ .ipcInit from started) mirrored raised
  rcases served with untouched | emptied
  · left
    exact ⟨untouched.ipc, untouched.ipcs, untouched.words⟩
  · right
    exact ⟨emptied.mirrored, emptied.posted, emptied.armmsg, emptied.ipcs, emptied.words⟩

/-- Steps of the mailbox: the ARM writes one of its registers, or a cycle runs. -/
inductive MailboxEvent where
  | armMessage (data : ARMword)
  | armControl (data : ARMword)
  | cycle (turn : ClientTurn)

def armWrite (host : Host Rest) (addr data : ARMword) : Host Rest :=
  { host with ipc := starletIpcWrite host.ipc addr data }

def mailboxStep (services : Services Rest) (host : Host Rest) : MailboxEvent → Host Rest
  | .armMessage data => armWrite host 8#32 data
  | .armControl data => armWrite host 12#32 data
  | .cycle turn => (starletIoDoCycle services turn.input host).host

def afterInit (services : Services Rest) (turn : ClientTurn) (host : Host Rest) : Host Rest :=
  (starletIoDoCycle services turn.input { host with ipcs := .ipcInit }).host

def Started (host : Host Rest) : Prop :=
  host.ipcs ≠ .ipcInit ∧ Mirrored host.ipc

theorem afterInit_started (services : Services Rest) (turn : ClientTurn) (host : Host Rest) :
    Started (afterInit services turn host) := by
  refine ⟨?_, initControl_mirrored host.ipc⟩
  simp [afterInit, starletIoDoCycle, starletDoIpc, refreshInt, tickTimer]

theorem mailboxStep_started (services : Services Rest) (host : Host Rest) (event : MailboxEvent)
    (started : Started host) : Started (mailboxStep services host event) := by
  cases event with
  | armMessage data => exact ⟨started.1, started.2.enabled, started.2.mirror⟩
  | armControl data => exact ⟨started.1, armControl_mirrored started.2 data⟩
  | cycle turn =>
      rcases starletIoDoCycle_turn services turn started.1 started.2 with untouched | emptied
      · refine ⟨untouched.ipcs, ?_⟩
        rw [mailboxStep, untouched.ipc]
        exact started.2
      · exact ⟨emptied.ipcs, emptied.mirrored⟩

theorem mailboxRun_started (services : Services Rest) (turn : ClientTurn) (host : Host Rest)
    (events : List MailboxEvent) :
    Started (Runs.run (mailboxStep services) (afterInit services turn host) events) := by
  exact Runs.run_invariant (mailboxStep services) Started (mailboxStep_started services) _
    (afterInit_started services turn host) events

def waitStep (services : Services Rest) (step : IpcStep Rest) (turn : ClientTurn) : IpcStep Rest :=
  let next := starletIoDoCycle services turn.input step.host
  { host := next.host, sent := step.sent ++ next.sent }

def waitCycles (services : Services Rest) (host : Host Rest) (turns : List ClientTurn) :
    IpcStep Rest :=
  Runs.run (waitStep services) { host, sent := [] } turns

/-- During the wait the message is either still posted and unsent, or taken, and
sent once if no acknowledgement was posted beside it. -/
structure Waiting (word : ARMword) (acked : Bool) (step : IpcStep Rest) : Prop where
  started : Started step.host
  armmsg : step.host.ipc.armmsg = word
  progress :
    (step.host.ipc.posted = true ∧ step.host.ipc.acked = acked ∧ messageWords step.sent = []) ∨
    (step.host.ipc.posted = false ∧ messageWords step.sent = if acked then [] else [word])

theorem messageWords_append (first second : List Sent) :
    messageWords (first ++ second) = messageWords first ++ messageWords second := by
  simp [messageWords]

theorem waitStep_waiting (services : Services Rest) (word : ARMword) (acked : Bool)
    (step : IpcStep Rest) (turn : ClientTurn) (waiting : Waiting word acked step) :
    Waiting word acked (waitStep services step turn) := by
  have started := mailboxStep_started services step.host (.cycle turn) waiting.started
  rcases starletIoDoCycle_turn services turn waiting.started.1 waiting.started.2 with
    untouched | emptied
  · refine ⟨started, by rw [waitStep, untouched.ipc, waiting.armmsg], ?_⟩
    rw [waitStep, untouched.ipc, messageWords_append, untouched.words, List.append_nil]
    exact waiting.progress
  · refine ⟨started, emptied.armmsg.trans waiting.armmsg, Or.inr ⟨emptied.posted, ?_⟩⟩
    rw [waitStep, messageWords_append, emptied.words, waiting.armmsg]
    rcases waiting.progress with ⟨posted, ackEq, none⟩ | ⟨taken, sent⟩
    · cases acked <;> simp [posted, ackEq, none]
    · simp [taken, sent]

/-- The client receives the posted word exactly once by the time the ARM reads X1
back as clear, if and only if the write that posted it carried no acknowledgement. -/
theorem message_delivered_iff (services : Services Rest) (host : Host Rest) (first : ClientTurn)
    (events : List MailboxEvent) (data : ARMword) (turns : List ClientTurn)
    (posts : data &&& 0x01#32 ≠ 0#32)
    (readBack : (waitCycles services (mailboxStep services
      (Runs.run (mailboxStep services) (afterInit services first host) events)
      (.armControl data)) turns).host.ipc.armctrl &&& 0x01#32 = 0#32) :
    let before := Runs.run (mailboxStep services) (afterInit services first host) events
    let after := waitCycles services (mailboxStep services before (.armControl data)) turns
    messageWords after.sent = [before.ipc.armmsg] ↔ data &&& 0x08#32 = 0#32 := by
  intro before after
  have bit (word : ARMword) := WordBits.and_bit_eq_zero word 0
  have ackBit := WordBits.and_bit_eq_zero data 3
  have posted : data.getLsbD 0 = true := by
    simpa using (not_congr (bit data)).mp posts
  have started : Started before := mailboxRun_started services first host events
  have begins : Waiting before.ipc.armmsg (data.getLsbD 3)
      { host := mailboxStep services before (.armControl data), sent := [] } := by
    refine ⟨mailboxStep_started services before (.armControl data) started, rfl, Or.inl ⟨?_, ?_, rfl⟩⟩
    · exact (armControl_posted before.ipc data).trans posted
    · exact armControl_acked before.ipc data
  have ends : Waiting before.ipc.armmsg (data.getLsbD 3) after :=
    Runs.run_invariant (waitStep services) _ (waitStep_waiting services _ _) _ begins turns
  have clear : after.host.ipc.posted = false := by
    rw [← ends.started.2.mirror]
    exact (bit after.host.ipc.armctrl).mp readBack
  rcases ends.progress with ⟨stillPosted, _⟩ | ⟨_, sent⟩
  · simp [clear] at stillPosted
  · rw [sent]
    refine Iff.trans ?_ ackBit.symm
    cases data.getLsbD 3 <;> simp

def quietServices : Services Unit :=
  { arm2host := fun _ _ _ _ => []
    host2arm := fun _ host _ _ => host
    cookedState := fun _ => [] }

def quietHost : Host Unit :=
  { irq :=
      { irqActive := 0#32, irqEnabled := 0#32, irqActivePpc := 0#32, irqEnabledPpc := 0#32
        nirqSig := true, nfiqSig := true }
    ipc := { ppcmsg := 0#32, ppcctrl := 0#32, armmsg := 0#32, armctrl := 0#32 }
    timer := 0#32
    alarm := 0#32
    ppcRunning := 0#32
    ipcs := .ipcInit
    lastPpcState := 0#32
    exited := false
    rest := () }

def idleTurn : ClientTurn :=
  { accepts := true, word := .nothing }

def connectedEvents : List MailboxEvent :=
  [.cycle idleTurn, .armMessage 0xCAFE#32]

theorem message_delivered_once :
    let before := Runs.run (mailboxStep quietServices)
      (afterInit quietServices idleTurn quietHost) connectedEvents
    let after := waitCycles quietServices
      (mailboxStep quietServices before (.armControl 0x01#32)) [idleTurn]
    messageWords after.sent = [before.ipc.armmsg] := by
  exact (message_delivered_iff quietServices quietHost idleTurn connectedEvents 0x01#32 [idleTurn]
    (by decide) (by decide)).mpr (by decide)

/-- Posting a message and an acknowledgement in one write loses the message. -/
theorem message_lost_beside_ack :
    let before := Runs.run (mailboxStep quietServices)
      (afterInit quietServices idleTurn quietHost) connectedEvents
    let after := waitCycles quietServices
      (mailboxStep quietServices before (.armControl 0x09#32)) [idleTurn]
    after.host.ipc.armctrl &&& 0x01#32 = 0#32 ∧ before.ipc.armmsg = 0xCAFE#32 ∧
      messageWords after.sent = [] := by
  decide

end SkyeyeStarlet
