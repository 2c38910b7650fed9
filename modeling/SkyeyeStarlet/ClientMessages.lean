import SkyeyeStarlet.InterruptLine
import SkyeyeStarlet.Mailbox

/-!
The way of a client's message to the ARM.  The host posts a message only when none is
outstanding, by setting the Y1 flag of the ARM (bit 2 of its control word), and then waits
for the acknowledgement; so the words that the ARM acknowledges are the first of those that
the client sent, in order.
-/

namespace SkyeyeStarlet

def Ipc.waiting (ipc : Ipc) : Bool :=
  ipc.armctrl.getLsbD 2

theorem ipcSet_waiting (ipc : Ipc) (bits : ARMword) :
    (ipcSet ipc bits).waiting = bits.getLsbD 0 := by
  rw [Ipc.waiting, ipcSet_armctrl, (peerControl_bits _ _).2.2.1, BitVec.getLsbD_or,
    BitVec.getLsbD_and]
  simp

theorem armControl_waiting (ipc : Ipc) (data : ARMword) :
    (starletIpcWrite ipc 12#32 data).waiting = (ipc.waiting && !data.getLsbD 2) := by
  exact (ownControl_bits ipc.armctrl data).2.2.1

section Cycles

variable {Rest : Type} {services : Services Rest} {input : CycleInput}

/-- No message is outstanding: nothing waits for the ARM and no acknowledgement comes. -/
structure Open (host : Host Rest) : Prop where
  ipcs : host.ipcs = .ipcAccept ∨ host.ipcs = .ipcIdle
  waiting : host.ipc.waiting = false
  acked : host.ipc.acked = false
  told : host.ipcs = .ipcIdle → host.ppcRunning = host.lastPpcState

structure Outstanding (word : ARMword) (host : Host Rest) : Prop where
  ipcs : host.ipcs = .ipcSndack
  acked : host.ipc.acked = false
  ppcmsg : host.ipc.ppcmsg = word
  told : host.ppcRunning = host.lastPpcState

def takenMessage (input : CycleInput) (host : Host Rest) : Option ARMword :=
  let ready := refreshInt (tickTimer host)
  if ready.ipcs = .ipcIdle then
    match idlePending input { host := ready, sent := [] }, input.received with
    | .ok _, .message arg => some arg
    | _, _ => none
  else none

structure Settled (host : Host Rest) : Prop where
  ipcs : host.ipcs = .ipcAccept ∨ host.ipcs = .ipcIdle
  waiting : host.ipc.waiting = false
  acked : host.ipc.acked = false
  told : host.ppcRunning = host.lastPpcState

/-- A `break` leaves the loop with no message outstanding; otherwise the client is there. -/
def SettledStep (outcome : Except (IpcStep Rest) (IpcStep Rest)) : Prop :=
  match outcome with
  | .ok step => Settled step.host ∧ step.host.ipcs = .ipcIdle
  | .error step => Settled step.host

theorem Settled.drop {host : Host Rest} (settled : Settled host) : Settled (dropClient host) := by
  exact ⟨Or.inl rfl, settled.waiting, settled.acked, settled.told⟩

theorem sendipcmsg_settled {step : IpcStep Rest} (settled : Settled step.host)
    (idle : step.host.ipcs = .ipcIdle) (msg : Sent) : SettledStep (sendipcmsg input step msg) := by
  unfold sendipcmsg
  split
  · exact ⟨settled, idle⟩
  · exact settled.drop

theorem leave_settled {outcome : Except (IpcStep Rest) (IpcStep Rest)}
    (settled : SettledStep outcome) : Settled (leave outcome).host := by
  cases outcome with
  | ok step => exact settled.1
  | error step => exact settled

theorem Settled.set {step : IpcStep Rest} (settled : Settled step.host) {bits : ARMword}
    (noMessage : bits.getLsbD 0 = false) : Settled (step.set bits).host := by
  refine ⟨settled.ipcs, (ipcSet_waiting _ _).trans noMessage, ?_, settled.told⟩
  show (ipcSet step.host.ipc bits).acked = false
  rw [ipcSet_acked, settled.acked, Bool.false_and]

theorem idlePending_settled {step : IpcStep Rest} (settled : Settled step.host)
    (idle : step.host.ipcs = .ipcIdle) : SettledStep (idlePending input step) := by
  have noAck : idleAck input step = .ok step := by
    rw [idleAck, and_two_bne]
    exact if_neg (by rw [← Ipc.acked, settled.acked]; exact Bool.false_ne_true)
  unfold idlePending
  split
  · rw [noAck]
    change SettledStep (idleMessage input step >>= fun served => .ok served.clearPpc)
    unfold idleMessage
    split
    · have set : Settled (step.set 0x0c#32).host := settled.set (by decide)
      have sent : SettledStep (sendipcmsg input (step.set 0x0c#32)
          (.message step.host.ipc.armmsg)) := sendipcmsg_settled set idle _
      cases outcome : sendipcmsg input (step.set 0x0c#32) (.message step.host.ipc.armmsg) with
      | ok served =>
          rw [outcome] at sent
          exact ⟨⟨sent.1.ipcs, sent.1.waiting, sent.1.acked, sent.1.told⟩, sent.2⟩
      | error served =>
          rw [outcome] at sent
          exact sent
    · exact ⟨⟨settled.ipcs, settled.waiting, settled.acked, settled.told⟩, idle⟩
  · exact ⟨settled, idle⟩

structure MailboxKept (before after : Host Rest) : Prop where
  ipc : after.ipc = before.ipc
  ipcs : after.ipcs = before.ipcs
  running : after.ppcRunning = before.ppcRunning
  last : after.lastPpcState = before.lastPpcState

theorem Settled.kept {before after : Host Rest} (settled : Settled before)
    (kept : MailboxKept before after) : Settled after := by
  refine ⟨?_, ?_, ?_, ?_⟩
  · rw [kept.ipcs]
    exact settled.ipcs
  · rw [kept.ipc]
    exact settled.waiting
  · rw [kept.ipc]
    exact settled.acked
  · rw [kept.running, kept.last]
    exact settled.told

def ClientKept (services : Services Rest) (input : CycleInput) : Prop :=
  ∀ arg payload, input.received = .write arg payload → ∀ host,
    MailboxKept host
      (services.host2arm (copyWidth arg (BitVec.ofNat 32 payload.length)) host arg payload)

def Received.posts : Received → Option ARMword
  | .message arg => some arg
  | _ => none

theorem idleStatus_told {step : IpcStep Rest}
    (told : step.host.ppcRunning = step.host.lastPpcState) :
    idleStatus input step = .ok step := by
  rw [idleStatus, told, bne_self_eq_false, if_neg Bool.false_ne_true]

theorem idleReceive_settled {step : IpcStep Rest} (settled : Settled step.host)
    (idle : step.host.ipcs = .ipcIdle) (kept : ClientKept services input)
    (noMessage : input.received.posts = none) :
    Settled (leave (idleReceive services input step >>= idleStatus input)).host := by
  have finished {next : IpcStep Rest} (settled : Settled next.host) :
      Settled (leave (idleStatus input next)).host := by
    rw [idleStatus_told settled.told]
    exact settled
  unfold idleReceive
  cases received : input.received with
  | nothing => exact finished settled
  | broken => exact settled.drop
  | message arg =>
      rw [received] at noMessage
      exact nomatch noMessage
  | ack => exact finished (settled.set (by decide))
  | read arg len => exact finished (leave_settled (sendipcmsg_settled settled idle _))
  | write arg payload => exact finished (settled.kept (kept arg payload received step.host))
  | state => exact finished (leave_settled (sendipcmsg_settled settled idle _))
  | exit => exact ⟨settled.ipcs, settled.waiting, settled.acked, settled.told⟩
  | unknown msg => exact finished settled

theorem idleReceive_message {step : IpcStep Rest} (settled : Settled step.host) {arg : ARMword}
    (received : input.received = .message arg) :
    Outstanding arg (leave (idleReceive services input step >>= idleStatus input)).host ∧
      (leave (idleReceive services input step >>= idleStatus input)).host.ipc.waiting = true := by
  let posted : IpcStep Rest :=
    { step with
      host :=
        { step.host with
          ipc := ipcSet { step.host.ipc with ppcmsg := arg } 0x01#32
          ipcs := .ipcSndack } }
  have result : (idleReceive services input step >>= idleStatus input) = .ok posted := by
    have told : posted.host.ppcRunning = posted.host.lastPpcState := settled.told
    unfold idleReceive
    rw [received]
    exact idleStatus_told told
  have acked : ({ step.host.ipc with ppcmsg := arg } : Ipc).acked = false := settled.acked
  rw [result]
  refine ⟨⟨rfl, ?_, rfl, settled.told⟩, ipcSet_waiting _ _⟩
  show (ipcSet { step.host.ipc with ppcmsg := arg } 0x01#32).acked = false
  rw [ipcSet_acked, acked, Bool.false_and]

theorem cycle_idle {host : Host Rest} (settled : Settled host) (idle : host.ipcs = .ipcIdle)
    (kept : ClientKept services input) :
    (takenMessage input host = none ∧ Settled (starletIoDoCycle services input host).host) ∨
      ∃ arg, takenMessage input host = some arg ∧
        Outstanding arg (starletIoDoCycle services input host).host ∧
        (starletIoDoCycle services input host).host.ipc.waiting = true := by
  let ready : IpcStep Rest := { host := refreshInt (tickTimer host), sent := [] }
  have readySettled : Settled ready.host :=
    ⟨settled.ipcs, settled.waiting, settled.acked, settled.told⟩
  have readyIdle : ready.host.ipcs = .ipcIdle := idle
  have pending : SettledStep (idlePending input ready) := idlePending_settled readySettled readyIdle
  have taken : takenMessage input host =
      match idlePending input ready, input.received with
      | .ok _, .message arg => some arg
      | _, _ => none := by
    rw [takenMessage, if_pos readyIdle]
  have served : (starletIoDoCycle services input host).host =
      refreshInt (leave (do
        let served ← idlePending input ready
        let answered ← idleReceive services input served
        idleStatus input answered)).host := by
    have phase : (refreshInt (tickTimer host)).ipcs = .ipcIdle := idle
    simp only [starletIoDoCycle, starletDoIpc, phase, ready]
  rw [served, taken]
  cases outcome : idlePending input ready with
  | error step =>
      rw [outcome] at pending
      exact Or.inl ⟨rfl, pending.ipcs, pending.waiting, pending.acked, pending.told⟩
  | ok step =>
      rw [outcome] at pending
      cases posts : input.received.posts with
      | none =>
          have after := idleReceive_settled pending.1 pending.2 kept posts
          refine Or.inl ⟨?_, after.ipcs, after.waiting, after.acked, after.told⟩
          cases received : input.received with
          | message arg =>
              rw [received] at posts
              cases posts
          | _ => rfl
      | some arg =>
          have received : input.received = .message arg := by
            unfold Received.posts at posts
            split at posts
            · rename_i packet
              rw [packet, Option.some.inj posts]
            · cases posts
          have after : Outstanding arg
              (leave (idleReceive services input step >>= idleStatus input)).host ∧ _ :=
            idleReceive_message pending.1 received
          refine Or.inr ⟨arg, ?_, ?_, after.2⟩
          · rw [received]
          · exact ⟨after.1.ipcs, after.1.acked, after.1.ppcmsg, after.1.told⟩

theorem cycle_accept (services : Services Rest) (input : CycleInput) {host : Host Rest}
    (isOpen : Open host) (waits : host.ipcs = .ipcAccept) :
    takenMessage input host = none ∧ Open (starletIoDoCycle services input host).host := by
  have phase : (refreshInt (tickTimer host)).ipcs = .ipcAccept := waits
  constructor
  · rw [takenMessage, phase]
    rfl
  · simp only [starletIoDoCycle, starletDoIpc, phase]
    split
    · unfold sendipcmsg
      split
      · exact ⟨Or.inr rfl, isOpen.waiting, isOpen.acked, fun _ => rfl⟩
      · refine ⟨Or.inl rfl, isOpen.waiting, isOpen.acked, fun idle => ?_⟩
        exact absurd (show IpcState.ipcAccept = .ipcIdle from idle) (by decide)
    · exact ⟨isOpen.ipcs, isOpen.waiting, isOpen.acked, isOpen.told⟩

theorem cycle_sndack (services : Services Rest) (input : CycleInput) {host : Host Rest}
    (waits : host.ipcs = .ipcSndack)
    (told : host.ppcRunning = host.lastPpcState) :
    takenMessage input host = none ∧
      ((MailboxKept host (starletIoDoCycle services input host).host) ∨
        host.ipc.acked = true ∧ Settled (starletIoDoCycle services input host).host) := by
  have phase : (refreshInt (tickTimer host)).ipcs = .ipcSndack := waits
  constructor
  · rw [takenMessage, phase]
    rfl
  · simp only [starletIoDoCycle, starletDoIpc, phase]
    split
    · split
      · rename_i acked
        rw [and_two_bne] at acked
        refine Or.inr ⟨acked, Or.inr rfl, ipcSet_waiting _ _, ?_, told⟩
        show (ipcSet host.ipc 0x02#32).acked = false
        rw [ipcSet_acked]
        exact Bool.and_false _
      · exact Or.inl ⟨rfl, rfl, rfl, rfl⟩
    · exact Or.inl ⟨rfl, rfl, rfl, rfl⟩

end Cycles

section Order

variable {Rest : Type} {services : Services Rest}

/-- The machine with the words that the host has taken from the client and those that the
ARM has acknowledged. -/
structure Exchange (Rest : Type) where
  host : Host Rest
  taken : List ARMword
  acknowledged : List ARMword

inductive ExchangeEvent where
  | armMessage (data : ARMword)
  | armControl (data : ARMword)
  | cycle (input : CycleInput)

def exchangeStep (services : Services Rest) (exchange : Exchange Rest) :
    ExchangeEvent → Exchange Rest
  | .armMessage data => { exchange with host := armWrite exchange.host 8#32 data }
  | .armControl data =>
      { exchange with
        host := armWrite exchange.host 12#32 data
        acknowledged :=
          if data.getLsbD 3 then exchange.acknowledged ++ [exchange.host.ipc.ppcmsg]
          else exchange.acknowledged }
  | .cycle input =>
      { exchange with
        host := (starletIoDoCycle services input exchange.host).host
        taken := exchange.taken ++ (takenMessage input exchange.host).toList }

/-- The ARM acknowledges only while Y1 is set and clears it in the same write; the client
writes memory and not registers. -/
def PoliteStep (services : Services Rest) (exchange : Exchange Rest) : ExchangeEvent → Prop
  | .armMessage _ => True
  | .armControl data =>
      data.getLsbD 3 = true → data.getLsbD 2 = true ∧ exchange.host.ipc.waiting = true
  | .cycle input => ClientKept services input

/-- Every word taken is acknowledged, but for the last while it is outstanding. -/
inductive InOrder (exchange : Exchange Rest) : Prop
  | settled : Open exchange.host → exchange.acknowledged = exchange.taken → InOrder exchange
  | outstanding (word : ARMword) : Outstanding word exchange.host →
      exchange.taken = exchange.acknowledged ++ [word] → InOrder exchange
  | acknowledged : exchange.host.ipcs = .ipcSndack →
      exchange.host.ppcRunning = exchange.host.lastPpcState →
      exchange.host.ipc.waiting = false → exchange.acknowledged = exchange.taken → InOrder exchange

theorem Settled.toOpen {host : Host Rest} (settled : Settled host) : Open host := by
  exact ⟨settled.ipcs, settled.waiting, settled.acked, fun _ => settled.told⟩

theorem inOrder_control {exchange : Exchange Rest} (inOrder : InOrder exchange) {data : ARMword}
    (polite : PoliteStep services exchange (.armControl data)) :
    InOrder (exchangeStep services exchange (.armControl data)) := by
  have silent (idle : exchange.host.ipc.waiting = false) : data.getLsbD 3 = false := by
    cases acks : data.getLsbD 3 with
    | false => rfl
    | true => exact absurd (idle.symm.trans (polite acks).2) Bool.false_ne_true
  have waiting := armControl_waiting exchange.host.ipc data
  have acked := armControl_acked exchange.host.ipc data
  cases inOrder with
  | settled isOpen all =>
      have none := silent isOpen.waiting
      refine .settled ⟨isOpen.ipcs, ?_, acked.trans none, isOpen.told⟩ ?_
      · rw [isOpen.waiting, Bool.false_and] at waiting
        exact waiting
      · show (if data.getLsbD 3 then _ else exchange.acknowledged) = _
        rw [none, if_neg Bool.false_ne_true]
        exact all
  | outstanding word posted last =>
      cases acks : data.getLsbD 3 with
      | false =>
          refine .outstanding word ⟨posted.ipcs, acked.trans acks, posted.ppcmsg, posted.told⟩ ?_
          show exchange.taken = (if data.getLsbD 3 then _ else exchange.acknowledged) ++ [word]
          rw [acks, if_neg Bool.false_ne_true]
          exact last
      | true =>
          refine .acknowledged posted.ipcs posted.told ?_ ?_
          · rw [(polite acks).1] at waiting
            exact waiting.trans (Bool.and_false _)
          · show (if data.getLsbD 3 then exchange.acknowledged ++ [exchange.host.ipc.ppcmsg]
              else _) = exchange.taken
            rw [acks, if_pos rfl, posted.ppcmsg]
            exact last.symm
  | acknowledged sent told idle all =>
      have none := silent idle
      refine .acknowledged sent told ?_ ?_
      · rw [idle, Bool.false_and] at waiting
        exact waiting
      · show (if data.getLsbD 3 then _ else exchange.acknowledged) = _
        rw [none, if_neg Bool.false_ne_true]
        exact all

theorem Outstanding.kept {before after : Host Rest} {word : ARMword}
    (outstanding : Outstanding word before) (kept : MailboxKept before after) :
    Outstanding word after := by
  refine ⟨kept.ipcs.trans outstanding.ipcs, ?_, ?_, ?_⟩
  · rw [kept.ipc]
    exact outstanding.acked
  · rw [kept.ipc]
    exact outstanding.ppcmsg
  · rw [kept.running, kept.last]
    exact outstanding.told

theorem Outstanding.cycle {host : Host Rest} {word : ARMword} (outstanding : Outstanding word host)
    (services : Services Rest) (input : CycleInput) :
    takenMessage input host = none ∧
      MailboxKept host (starletIoDoCycle services input host).host := by
  obtain ⟨none, kept | ⟨acked, _⟩⟩ := cycle_sndack services input
    outstanding.ipcs outstanding.told
  · exact ⟨none, kept⟩
  · exact absurd (outstanding.acked.symm.trans acked) Bool.false_ne_true

theorem inOrder_cycle {exchange : Exchange Rest} (inOrder : InOrder exchange) {input : CycleInput}
    (kept : ClientKept services input) :
    InOrder (exchangeStep services exchange (.cycle input)) := by
  have nothing (none : takenMessage input exchange.host = none) :
      exchange.taken ++ (takenMessage input exchange.host).toList = exchange.taken := by
    rw [none, Option.toList_none, List.append_nil]
  cases inOrder with
  | settled isOpen all =>
      rcases isOpen.ipcs with waits | idle
      · obtain ⟨none, after⟩ := cycle_accept services input isOpen waits
        exact .settled after (all.trans (nothing none).symm)
      · have settled : Settled exchange.host :=
          ⟨isOpen.ipcs, isOpen.waiting, isOpen.acked, isOpen.told idle⟩
        rcases cycle_idle settled idle kept with ⟨none, after⟩ | ⟨arg, some, after, _⟩
        · exact .settled after.toOpen (all.trans (nothing none).symm)
        · refine .outstanding arg after ?_
          show exchange.taken ++ (takenMessage input exchange.host).toList =
            exchange.acknowledged ++ [arg]
          rw [some, all, Option.toList_some]
  | outstanding word posted last =>
      obtain ⟨none, same⟩ := posted.cycle services input
      exact .outstanding word (posted.kept same) ((nothing none).trans last)
  | acknowledged sent told idle all =>
      obtain ⟨none, same | ⟨_, after⟩⟩ := cycle_sndack services input sent told
      · refine .acknowledged (same.ipcs.trans sent) ?_ ?_ (all.trans (nothing none).symm)
        · exact same.running.trans (told.trans same.last.symm)
        · show (starletIoDoCycle services input exchange.host).host.ipc.waiting = false
          rw [same.ipc]
          exact idle
      · exact .settled after.toOpen (all.trans (nothing none).symm)

theorem inOrder_step (exchange : Exchange Rest) (event : ExchangeEvent)
    (inOrder : InOrder exchange) (polite : PoliteStep services exchange event) :
    InOrder (exchangeStep services exchange event) := by
  cases event with
  | armMessage data =>
      cases inOrder with
      | settled isOpen all =>
          exact .settled ⟨isOpen.ipcs, isOpen.waiting, isOpen.acked, isOpen.told⟩ all
      | outstanding word posted last =>
          exact .outstanding word ⟨posted.ipcs, posted.acked, posted.ppcmsg, posted.told⟩ last
      | acknowledged sent told idle all => exact .acknowledged sent told idle all
  | armControl data => exact inOrder_control inOrder polite
  | cycle input => exact inOrder_cycle inOrder polite

theorem InOrder.acknowledges {exchange : Exchange Rest} (inOrder : InOrder exchange) :
    exchange.acknowledged <+: exchange.taken := by
  cases inOrder with
  | settled _ all =>
      rewrite [all]
      exact List.prefix_refl _
  | outstanding word _ last =>
      rw [last]
      exact List.prefix_append _ _
  | acknowledged _ _ _ all =>
      rewrite [all]
      exact List.prefix_refl _

theorem InOrder.quiet {exchange : Exchange Rest} (inOrder : InOrder exchange)
    (free : exchange.host.ipcs ≠ .ipcSndack) : exchange.host.ipc.waiting = false := by
  cases inOrder with
  | settled isOpen _ => exact isOpen.waiting
  | outstanding _ posted _ => exact absurd posted.ipcs free
  | acknowledged sent _ _ _ => exact absurd sent free

theorem InOrder.takes {exchange : Exchange Rest} (inOrder : InOrder exchange) {input : CycleInput}
    (kept : ClientKept services input) {arg : ARMword}
    (taken : takenMessage input exchange.host = some arg) :
    Outstanding arg (starletIoDoCycle services input exchange.host).host ∧
      (starletIoDoCycle services input exchange.host).host.ipc.waiting = true := by
  cases inOrder with
  | settled isOpen all =>
      rcases isOpen.ipcs with waits | idle
      · rw [(cycle_accept services input isOpen waits).1] at taken
        exact nomatch taken
      · have settled : Settled exchange.host :=
          ⟨isOpen.ipcs, isOpen.waiting, isOpen.acked, isOpen.told idle⟩
        rcases cycle_idle settled idle kept with ⟨none, _⟩ | ⟨arg', some, after, waiting⟩
        · rw [none] at taken
          exact nomatch taken
        · rw [some] at taken
          cases taken
          exact ⟨after, waiting⟩
  | outstanding word posted _ =>
      rw [(posted.cycle services input).1] at taken
      exact nomatch taken
  | acknowledged sent told _ _ =>
      rw [(cycle_sndack services input sent told).1] at taken
      exact nomatch taken

theorem outstanding_run {word : ARMword} (exchange : Exchange Rest)
    (outstanding : Outstanding word exchange.host) (later : List ExchangeEvent)
    (silent : ∀ data, .armControl data ∈ later → data.getLsbD 3 = false) :
    let now := Runs.run (exchangeStep services) exchange later
    Outstanding word now.host ∧ now.taken = exchange.taken := by
  induction later generalizing exchange with
  | nil => exact ⟨outstanding, rfl⟩
  | cons event rest ih =>
      have after : Outstanding word (exchangeStep services exchange event).host ∧
          (exchangeStep services exchange event).taken = exchange.taken := by
        cases event with
        | armMessage data =>
            exact ⟨⟨outstanding.ipcs, outstanding.acked, outstanding.ppcmsg, outstanding.told⟩, rfl⟩
        | armControl data =>
            have acked := (armControl_acked exchange.host.ipc data).trans
              (silent data List.mem_cons_self)
            exact ⟨⟨outstanding.ipcs, acked, outstanding.ppcmsg, outstanding.told⟩, rfl⟩
        | cycle input =>
            obtain ⟨none, same⟩ := outstanding.cycle services input
            refine ⟨outstanding.kept same, ?_⟩
            show exchange.taken ++ (takenMessage input exchange.host).toList = _
            rw [none, Option.toList_none, List.append_nil]
      obtain ⟨posted, taken⟩ := ih (exchangeStep services exchange event) after.1
        (fun data member => silent data (List.mem_cons_of_mem event member))
      exact ⟨posted, taken.trans after.2⟩

theorem free_step {exchange : Exchange Rest} {event : ExchangeEvent} {count : Nat}
    (inOrder : InOrder exchange) (polite : PoliteStep services exchange event)
    (free : exchange.host.ipcs ≠ .ipcSndack ∨ count < exchange.taken.length)
    (counted : count ≤ exchange.taken.length) :
    (exchangeStep services exchange event).host.ipcs ≠ .ipcSndack ∨
      count < (exchangeStep services exchange event).taken.length := by
  cases event with
  | armMessage data => exact free
  | armControl data => exact free
  | cycle input =>
      have longer : (exchangeStep services exchange (.cycle input)).taken.length =
          exchange.taken.length + (takenMessage input exchange.host).toList.length :=
        List.length_append
      rcases free with free | more
      · cases taken : takenMessage input exchange.host with
        | some arg =>
            right
            rw [longer, taken, Option.toList_some, List.length_singleton]
            omega
        | none =>
            left
            cases inOrder with
            | settled isOpen _ =>
                rcases isOpen.ipcs with waits | idle
                · rcases (cycle_accept services input isOpen waits).2.ipcs with phase | phase
                  all_goals
                    intro sent
                    exact nomatch phase.symm.trans sent
                · have settled : Settled exchange.host :=
                    ⟨isOpen.ipcs, isOpen.waiting, isOpen.acked, isOpen.told idle⟩
                  rcases cycle_idle settled idle polite with ⟨_, after⟩ | ⟨arg, posted, _⟩
                  · rcases after.ipcs with phase | phase
                    all_goals
                      intro sent
                      exact nomatch phase.symm.trans sent
                  · rw [taken] at posted
                    exact nomatch posted
            | outstanding _ posted _ => exact absurd posted.ipcs free
            | acknowledged sent _ _ _ => exact absurd sent free
      · right
        omega

theorem free_run {exchange : Exchange Rest} (inOrder : InOrder exchange)
    (free : exchange.host.ipcs ≠ .ipcSndack) (later : List ExchangeEvent)
    (polite : Runs.AllSteps (exchangeStep services) (PoliteStep services) exchange later) :
    let now := Runs.run (exchangeStep services) exchange later
    now.taken = exchange.taken → now.host.ipc.waiting = false := by
  let Inv (now : Exchange Rest) : Prop :=
    InOrder now ∧ exchange.taken.length ≤ now.taken.length ∧
      (now.host.ipcs ≠ .ipcSndack ∨ exchange.taken.length < now.taken.length)
  have keeps (now : Exchange Rest) (event : ExchangeEvent) (inv : Inv now)
      (polite : PoliteStep services now event) : Inv (exchangeStep services now event) := by
    obtain ⟨inOrder, counted, free⟩ := inv
    refine ⟨inOrder_step now event inOrder polite, ?_, free_step inOrder polite free counted⟩
    cases event with
    | armMessage data => exact counted
    | armControl data => exact counted
    | cycle input =>
        show _ ≤ (now.taken ++ (takenMessage input now.host).toList).length
        rw [List.length_append]
        omega
  have inv := Runs.run_invariant_of_allowed (exchangeStep services) Inv (PoliteStep services)
    keeps exchange ⟨inOrder, le_rfl, Or.inl free⟩ later polite
  intro now same
  rcases inv.2.2 with idle | more
  · exact inv.1.quiet idle
  · have fewer := congrArg List.length same
    exact absurd fewer (Nat.ne_of_gt more)

end Order

section Client

variable {Other : Type}

/-- The ARM acknowledges only while Y1 is set and clears it in the same write; the client
writes memory and not registers. -/
def OrderlyStep (board : Board Other) (exchange : Exchange (Devices Other)) :
    ExchangeEvent → Prop
  | .armMessage _ => True
  | .armControl data =>
      data.getLsbD 3 = true → data.getLsbD 2 = true ∧ exchange.host.ipc.waiting = true
  | .cycle input =>
      ∀ arg payload, input.received = .write arg payload → OffRegisters board (arg, payload.length)

def startExchange (services : Services (Devices Other)) (first : CycleInput)
    (machine : Machine Other) : Exchange (Devices Other) :=
  { host := (starletIoDoCycle services first { machine with ipcs := .ipcInit }).host
    taken := []
    acknowledged := [] }

theorem inOrder_start (services : Services (Devices Other)) (first : CycleInput)
    (machine : Machine Other) : InOrder (startExchange services first machine) := by
  refine .settled ⟨Or.inl rfl, ?_, ?_, fun idle => nomatch idle⟩ rfl
  · show (peerControl machine.ipc.armctrl 0x36#32).getLsbD 2 = false
    rw [(peerControl_bits _ _).2.2.1]
    rfl
  · show (ownControl machine.ipc.ppcctrl 0x36#32).getLsbD 1 = false
    rw [(ownControl_bits _ _).2.1]
    exact Bool.and_false _

variable {board : Board Other} {depth : Nat} {cookedState : Machine Other → Bytes}

theorem clientKept_of_offRegisters {input : CycleInput}
    (outside : ∀ arg payload, input.received = .write arg payload →
      OffRegisters board (arg, payload.length)) :
    ClientKept (clientServices board depth cookedState) input := by
  intro arg payload received host
  let width := copyWidth arg (BitVec.ofNat 32 payload.length)
  obtain ⟨other, exited, frame⟩ : ∃ other exited,
      (clientServices board depth cookedState).host2arm width host arg payload =
        { host with exited, rest := { host.rest with other } } :=
    host2arm_frame (unitsOf_fits width payload) (outside arg payload received)
  rw [frame]
  exact ⟨rfl, rfl, rfl, rfl⟩

theorem polite_of_orderly {exchange : Exchange (Devices Other)} {event : ExchangeEvent}
    (orderly : OrderlyStep board exchange event) :
    PoliteStep (clientServices board depth cookedState) exchange event := by
  cases event with
  | armMessage data => trivial
  | armControl data => exact orderly
  | cycle input => exact clientKept_of_offRegisters orderly

/-- In every orderly run a message that the host has taken stays posted, and no other is
taken, until the ARM acknowledges it; outside the wait for an acknowledgement Y1 stays clear
until the next message; and the words that the ARM acknowledges are the first of those taken. -/
theorem client_messages_in_order (board : Board Other) (depth : Nat)
    (cookedState : Machine Other → Bytes) (machine : Machine Other) (first : CycleInput)
    (events : List ExchangeEvent)
    (orderly : Runs.AllSteps (exchangeStep (clientServices board depth cookedState))
      (OrderlyStep board) (startExchange (clientServices board depth cookedState) first machine)
      events) :
    let step := exchangeStep (clientServices board depth cookedState)
    let reached := Runs.run step
      (startExchange (clientServices board depth cookedState) first machine) events
    (∀ input arg, OrderlyStep board reached (.cycle input) →
      takenMessage input reached.host = some arg →
        let posted := step reached (.cycle input)
        posted.host.ipc.waiting = true ∧
          ∀ later, (∀ data, .armControl data ∈ later → data.getLsbD 3 = false) →
            let now := Runs.run step posted later
            now.host.ipc.ppcmsg = arg ∧ now.taken = reached.taken ++ [arg] ∧
              ∀ next, takenMessage next now.host = none ∧
                (step now (.cycle next)).host.ipc.waiting = now.host.ipc.waiting) ∧
      (reached.host.ipcs ≠ .ipcSndack → ∀ later,
        Runs.AllSteps step (OrderlyStep board) reached later →
        (Runs.run step reached later).taken = reached.taken →
          (Runs.run step reached later).host.ipc.waiting = false) ∧
      reached.acknowledged <+: reached.taken := by
  intro step reached
  have inOrder : InOrder reached :=
    Runs.run_invariant_of_allowed step InOrder (OrderlyStep board)
      (fun exchange event inOrder orderly =>
        inOrder_step exchange event inOrder (polite_of_orderly orderly))
      _ (inOrder_start _ first machine) events orderly
  refine ⟨?_, ?_, inOrder.acknowledges⟩
  · intro input arg orderly taken posted
    have kept : ClientKept (clientServices board depth cookedState) input :=
      clientKept_of_offRegisters orderly
    have after := inOrder.takes kept taken
    refine ⟨after.2, fun later silent => ?_⟩
    have message : posted.taken = reached.taken ++ [arg] := by
      show reached.taken ++ (takenMessage input reached.host).toList = _
      rw [taken, Option.toList_some]
    intro now
    obtain ⟨outstanding, same⟩ := outstanding_run posted after.1 later silent
    refine ⟨outstanding.ppcmsg, same.trans message, fun next => ?_⟩
    obtain ⟨none, kept⟩ := outstanding.cycle (clientServices board depth cookedState) next
    exact ⟨none, congrArg Ipc.waiting kept.ipc⟩
  · intro free later orderly
    exact free_run inOrder free later
      (Runs.allSteps_mono step (fun _ _ => polite_of_orderly) reached later orderly)

def clientInput (received : Received) : CycleInput :=
  { accepts := true, received, delivers := fun _ => true }

def twoMessageEvents : List ExchangeEvent :=
  [.cycle (clientInput .nothing), .cycle (clientInput (.message 5#32)), .armControl 0x0c#32,
    .cycle (clientInput .nothing), .cycle (clientInput (.message 6#32))]

theorem client_messages_in_order_two :
    let services := clientServices starletBoard 4 fun _ => []
    let reached := Runs.run (exchangeStep services)
      (startExchange services (clientInput .nothing) resetMachine) twoMessageEvents
    reached.acknowledged = [5#32] ∧ reached.taken = [5#32, 6#32] ∧
      reached.acknowledged <+: reached.taken := by
  refine ⟨by decide +kernel, by decide +kernel, ?_⟩
  refine (client_messages_in_order starletBoard 4 (fun _ => []) resetMachine (clientInput .nothing)
    twoMessageEvents ?_).2.2
  refine ⟨?_, ?_, fun _ => ⟨by decide, by decide +kernel⟩, ?_, ?_, trivial⟩
  all_goals
    intro arg payload packet
    exact nomatch packet

/-- The client may also write the control register of the mailbox, and then the ARM finds a
message that was not sent. -/
def registerWriteEvents : List ExchangeEvent :=
  [.cycle (clientInput .nothing),
    .cycle (clientInput (.write 0x0d000004#32 [0#8, 0#8, 0#8, 1#8]))]

theorem client_write_posts_unsent :
    let services := clientServices starletBoard 4 fun _ => []
    let reached := Runs.run (exchangeStep services)
      (startExchange services (clientInput .nothing) resetMachine) registerWriteEvents
    let acked := exchangeStep services reached (.armControl 0x0c#32)
    reached.host.ipc.waiting = true ∧ acked.acknowledged = [0#32] ∧ acked.taken = [] ∧
      ¬acked.acknowledged <+: acked.taken := by
  decide +kernel

end Client

end SkyeyeStarlet
