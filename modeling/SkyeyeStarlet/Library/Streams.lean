import Mathlib.Data.List.Basic

/-!
A byte stream whose ends move the bytes of a call in pieces.  How large each piece is depends
on the number of the call only, so that a statement for every such choice holds however the
stream is cut; a piece is never empty.
-/

namespace Streams

universe u

variable {Byte : Type u}

structure Pipe (Byte : Type u) where
  bytes : List Byte
  calls : Nat

variable (cut : Nat → Nat)

def piece (calls limit : Nat) : Nat :=
  min (cut calls + 1) limit

theorem piece_pos (calls : Nat) {limit : Nat} (some : 0 < limit) : 0 < piece cut calls limit := by
  unfold piece
  omega

theorem piece_le (calls limit : Nat) : piece cut calls limit ≤ limit := by
  exact Nat.min_le_right _ _

/-- A loop that sends what is left of a message until nothing is left. -/
def sendLoop (stream : Pipe Byte) (message : List Byte) : Pipe Byte :=
  if message.length = 0 then stream
  else
    let count := piece cut stream.calls message.length
    sendLoop { bytes := stream.bytes ++ message.take count, calls := stream.calls + 1 }
      (message.drop count)
termination_by message.length
decreasing_by
  have moved := piece_pos cut stream.calls (Nat.pos_of_ne_zero ‹_›)
  rw [List.length_drop]
  omega

/-- A loop that receives what is missing until nothing is, or the stream has ended. -/
def recvLoop (stream : Pipe Byte) (need : Nat) (got : List Byte) :
    Option (Pipe Byte × List Byte) :=
  if need = 0 then some (stream, got)
  else if stream.bytes.length = 0 then none
  else
    let count := piece cut stream.calls (min need stream.bytes.length)
    recvLoop { bytes := stream.bytes.drop count, calls := stream.calls + 1 } (need - count)
      (got ++ stream.bytes.take count)
termination_by need
decreasing_by
  have moved := piece_pos cut stream.calls (show 0 < min need stream.bytes.length by omega)
  omega

theorem sendLoop_bytes (stream : Pipe Byte) (message : List Byte) :
    (sendLoop cut stream message).bytes = stream.bytes ++ message := by
  fun_induction sendLoop cut stream message with
  | case1 stream message empty =>
      rw [List.eq_nil_of_length_eq_zero empty, List.append_nil]
  | case2 stream message more count ih =>
      rw [ih, List.append_assoc, List.take_append_drop]

theorem recvLoop_enough (stream : Pipe Byte) (need : Nat) (got : List Byte)
    (enough : need ≤ stream.bytes.length) :
    ∃ calls, recvLoop cut stream need got =
      some (⟨stream.bytes.drop need, calls⟩, got ++ stream.bytes.take need) := by
  fun_induction recvLoop cut stream need got with
  | case1 stream got => exact ⟨stream.calls, by simp⟩
  | case2 stream need got more ended => omega
  | case3 stream need got more available count ih =>
      have bound : count ≤ min need stream.bytes.length := piece_le cut _ _
      obtain ⟨calls, received⟩ := ih (by rw [List.length_drop]; omega)
      refine ⟨calls, received.trans ?_⟩
      have rest : count + (need - count) = need := by
        omega
      rw [List.drop_drop, rest, List.append_assoc, ← List.take_add, rest]

theorem recvLoop_append (first rest : List Byte) (calls : Nat) :
    ∃ later, recvLoop cut ⟨first ++ rest, calls⟩ first.length [] = some (⟨rest, later⟩, first) := by
  have enough : first.length ≤ (first ++ rest).length := by
    simp
  obtain ⟨later, received⟩ := recvLoop_enough cut ⟨first ++ rest, calls⟩ first.length [] enough
  exact ⟨later, by rw [received, List.drop_left, List.take_left, List.nil_append]⟩

theorem recvLoop_short (stream : Pipe Byte) (need : Nat) (got : List Byte)
    (short : stream.bytes.length < need) : recvLoop cut stream need got = none := by
  fun_induction recvLoop cut stream need got with
  | case1 stream got => omega
  | case2 stream need got more ended => rfl
  | case3 stream need got more available count ih =>
      have bound : count ≤ min need stream.bytes.length := piece_le cut _ _
      exact ih (by rw [List.length_drop]; omega)

section Items

universe v

variable {Item : Type u} {Failure : Type v} {encode : Item → List Byte}
  {ending : Item → Nat → Failure} {receiver : Pipe Byte → Except Failure (Pipe Byte × Item)}

def receive (receiver : Pipe Byte → Except Failure (Pipe Byte × Item)) :
    Nat → Pipe Byte → Except Failure (List Item)
  | 0, _ => .ok []
  | count + 1, stream => do
      let (stream, item) ← receiver stream
      let items ← receive receiver count stream
      .ok (item :: items)

/-- The item in which a stream of items ends early, and how much of it is there. -/
def locate (encode : Item → List Byte) : List Item → Nat → Option (Item × Nat)
  | [], _ => none
  | item :: items, stop =>
      if stop < (encode item).length then some (item, stop)
      else locate encode items (stop - (encode item).length)

/-- What one call of a receiver does on an item that is there, wholly or in part. -/
structure Decodes (encode : Item → List Byte) (ending : Item → Nat → Failure)
    (receiver : Pipe Byte → Except Failure (Pipe Byte × Item)) (item : Item) : Prop where
  whole : ∀ rest calls, ∃ later, receiver ⟨encode item ++ rest, calls⟩ = .ok (⟨rest, later⟩, item)
  torn : ∀ stop < (encode item).length, ∀ calls,
    receiver ⟨(encode item).take stop, calls⟩ = .error (ending item stop)

theorem receive_error {stream : Pipe Byte} {failure : Failure}
    (failed : receiver stream = .error failure) (count : Nat) :
    receive receiver (count + 1) stream = .error failure := by
  rw [receive, failed]
  rfl

theorem receive_ok {stream later : Pipe Byte} {item : Item}
    (received : receiver stream = .ok (later, item)) (count : Nat) :
    receive receiver (count + 1) stream = (receive receiver count later).map (item :: ·) := by
  rw [receive, received]
  change (receive receiver count later >>= fun items => .ok (item :: items)) = _
  cases receive receiver count later <;> rfl

theorem receive_cons {stream later : Pipe Byte} {first item : Item} {items : List Item}
    (received : receiver stream = .ok (later, first)) {count : Nat}
    (all : receive receiver (count + 1) stream = .ok (item :: items)) :
    first = item ∧ receive receiver count later = .ok items := by
  rw [receive_ok received] at all
  cases rest : receive receiver count later with
  | error failure =>
      rw [rest] at all
      cases all
  | ok others =>
      rw [rest] at all
      injection all with same
      injection same with head tail
      exact ⟨head, by rw [tail]⟩

theorem receive_whole (items : List Item)
    (decodes : ∀ item ∈ items, Decodes encode ending receiver item) (calls : Nat) :
    receive receiver items.length ⟨items.flatMap encode, calls⟩ = .ok items := by
  induction items generalizing calls with
  | nil => rfl
  | cons item items ih =>
      obtain ⟨later, received⟩ :=
        (decodes item List.mem_cons_self).whole (items.flatMap encode) calls
      rw [List.flatMap_cons, List.length_cons, receive_ok received,
        ih (fun other member => decodes other (List.mem_cons_of_mem item member))]
      rfl

theorem receive_torn (items : List Item)
    (decodes : ∀ item ∈ items, Decodes encode ending receiver item) {stop : Nat} {last : Item}
    {offset : Nat} (located : locate encode items stop = some (last, offset)) (count calls : Nat) :
    receive receiver count ⟨(items.flatMap encode).take stop, calls⟩ =
      if ((items.take count).flatMap encode).length ≤ stop then .ok (items.take count)
      else .error (ending last offset) := by
  induction items generalizing stop count calls with
  | nil => cases located
  | cons item items ih =>
      cases count with
      | zero => simp [receive]
      | succ count =>
          rw [locate] at located
          rw [List.flatMap_cons, List.take_succ_cons, List.flatMap_cons, List.length_append]
          split at located
          · rename_i inside
            cases located
            rw [List.take_append_of_le_length (Nat.le_of_lt inside), if_neg (by omega)]
            exact receive_error ((decodes last List.mem_cons_self).torn offset inside calls) count
          · rename_i outside
            obtain ⟨later, received⟩ := (decodes item List.mem_cons_self).whole
              ((items.flatMap encode).take (stop - (encode item).length)) calls
            rw [List.take_append, List.take_of_length_le (Nat.le_of_not_lt outside),
              receive_ok received, ih
                (fun other member => decodes other (List.mem_cons_of_mem item member)) located]
            have fits : (encode item).length + ((items.take count).flatMap encode).length ≤ stop ↔
                ((items.take count).flatMap encode).length ≤ stop - (encode item).length := by
              omega
            simp only [fits]
            split <;> rfl

theorem locate_isSome (items : List Item) (stop : Nat) :
    (locate encode items stop).isSome ↔ stop < (items.flatMap encode).length := by
  induction items generalizing stop with
  | nil => simp [locate]
  | cons item items ih =>
      rw [locate, List.flatMap_cons, List.length_append]
      split
      · simp only [Option.isSome_some, true_iff]
        omega
      · rw [ih]
        omega

end Items

end Streams
