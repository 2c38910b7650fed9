import Mathlib.Data.List.TakeWhile
import SkyeyeStarlet.HeapServes
import SkyeyeStarlet.RequestsCore

/-!
What the arguments of a request stand for, and the buffers that are made for them.  Preparing a
request is a sequence of allocations of known sizes, and each of them is filled once; so what
the arguments point to is stated over the strings that have been written.
-/

namespace SkyeyeStarlet

open BigEndian

section Meaning

variable (Holds : Nat → Bytes → Prop)

/-- An address and a size for what a caller passes as a buffer, where `Holds` says which
strings are in memory. -/
def PyArg.PassedAs : PyArg → Nat × Nat → Prop
  | .none, buf => buf = (0, 0)
  | .buffer addr size, buf => buf = (addr.toNat, size.toNat)
  | .str bytes, buf => Holds buf.1 bytes ∧ buf.2 = bytes.length
  | .tuple addr size, buf => buf = (addr.toNat, size.toNat)
  | .int _, _ => False

def LetterPassedAs (letter : Char) (arg : PyArg) (buf : Nat × Nat) : Prop :=
  match letterWidth letter, arg with
  | some width, .int value =>
      Holds buf.1 (encode width (value % 256 ^ width).toNat) ∧ buf.2 = width
  | some _, _ => False
  | none, arg => letter = 'd' ∧ arg.PassedAs Holds buf

def inputLetters (format : List Char) : List Char :=
  format.takeWhile fun letter => letter ≠ ':'

def outputLetters (format : List Char) : List Char :=
  (format.dropWhile fun letter => letter ≠ ':').drop 1

def lettersWith (format : List Char) (ioargs : List PyArg) : List (Char × PyArg) :=
  (inputLetters format ++ outputLetters format).zip ioargs

def IosRequest.Arguments : IosRequest → List Nat → Prop
  | iosOpen path mode, args =>
      ∃ addr, args = [addr, mode.toNat, 0, 0, 0] ∧ Holds addr (path ++ [0#8])
  | iosClose _, args => args = [0, 0, 0, 0, 0]
  | iosRead _ buf size, args | iosWrite _ buf size, args =>
      ∃ passed, args = [passed.1, (size.map BitVec.toNat).getD passed.2, 0, 0, 0] ∧
        buf.PassedAs Holds passed
  | iosSeek _ position whence, args =>
      args = [(position % 2 ^ 32).toNat, whence.toNat, 0, 0, 0]
  | iosIoctl _ ioctl bufi bufo, args =>
      ∃ input output, args = [ioctl.toNat, input.1, input.2, output.1, output.2] ∧
        bufi.PassedAs Holds input ∧ bufo.PassedAs Holds output
  | iosIoctlv _ ioctl format ioargs, args =>
      ∃ table bufs,
        args = [ioctl.toNat, (inputLetters format).length, (outputLetters format).length, table,
          0] ∧
        Holds table (encodeAll 4 (vectorWords bufs)) ∧
        List.Forall₂ (fun letter buf => LetterPassedAs Holds letter.1 letter.2 buf)
          (lettersWith format ioargs) bufs

def PyArg.IsBuffer : PyArg → Prop
  | .int _ => False
  | _ => True

def FitsLetter (letter : Char) (arg : PyArg) : Prop :=
  match letterWidth letter, arg with
  | some _, .int _ => True
  | some _, _ => False
  | none, arg => letter = 'd' ∧ arg.IsBuffer

def IosRequest.WellTyped : IosRequest → Prop
  | iosRead _ buf _ | iosWrite _ buf _ => buf.IsBuffer
  | iosIoctl _ _ bufi bufo => bufi.IsBuffer ∧ bufo.IsBuffer
  | iosIoctlv _ _ format ioargs =>
      List.Forall₂ FitsLetter (inputLetters format ++ outputLetters format) ioargs
  | _ => True

variable {Holds} {Held : Nat → Bytes → Prop}

theorem PyArg.PassedAs.mono {arg : PyArg} {buf : Nat × Nat} (passed : arg.PassedAs Holds buf)
    (weaker : ∀ addr bytes, Holds addr bytes → Held addr bytes) : arg.PassedAs Held buf := by
  cases arg with
  | str bytes => exact ⟨weaker _ _ passed.1, passed.2⟩
  | int value => exact passed
  | none => exact passed
  | buffer addr size => exact passed
  | tuple addr size => exact passed

theorem LetterPassedAs.mono {letter : Char} {arg : PyArg} {buf : Nat × Nat}
    (passed : LetterPassedAs Holds letter arg buf)
    (weaker : ∀ addr bytes, Holds addr bytes → Held addr bytes) :
    LetterPassedAs Held letter arg buf := by
  unfold LetterPassedAs at passed ⊢
  split at passed
  · exact ⟨weaker _ _ passed.1, passed.2⟩
  · exact passed.elim
  · exact ⟨passed.1, passed.2.mono weaker⟩

theorem IosRequest.Arguments.mono {request : IosRequest} {args : List Nat}
    (meant : request.Arguments Holds args)
    (weaker : ∀ addr bytes, Holds addr bytes → Held addr bytes) : request.Arguments Held args := by
  cases request with
  | iosOpen path mode =>
      obtain ⟨addr, shape, held⟩ := meant
      exact ⟨addr, shape, weaker _ _ held⟩
  | iosClose fd => exact meant
  | iosRead fd buf size =>
      obtain ⟨passed, shape, held⟩ := meant
      exact ⟨passed, shape, held.mono weaker⟩
  | iosWrite fd buf size =>
      obtain ⟨passed, shape, held⟩ := meant
      exact ⟨passed, shape, held.mono weaker⟩
  | iosSeek fd position whence => exact meant
  | iosIoctl fd ioctl bufi bufo =>
      obtain ⟨input, output, shape, first, second⟩ := meant
      exact ⟨input, output, shape, first.mono weaker, second.mono weaker⟩
  | iosIoctlv fd ioctl format ioargs =>
      obtain ⟨table, bufs, shape, held, passed⟩ := meant
      exact ⟨table, bufs, shape, weaker _ _ held, passed.imp fun _ _ each => each.mono weaker⟩

end Meaning

section Sizes

def PyArg.sizes : PyArg → List Nat
  | .str bytes => [bytes.length]
  | _ => []

def letterSizes (letter : Char × PyArg) : List Nat :=
  match letterWidth letter.1 with
  | some width => [width]
  | none => letter.2.sizes

def IosRequest.bufferSizes : IosRequest → List Nat
  | iosOpen path _ => [path.length + 1]
  | iosClose _ => []
  | iosRead _ buf _ | iosWrite _ buf _ => buf.sizes
  | iosSeek .. => []
  | iosIoctl _ _ bufi bufo => bufi.sizes ++ bufo.sizes
  | iosIoctlv _ _ format ioargs =>
      (lettersWith format ioargs).flatMap letterSizes ++ [8 * ioargs.length]

def IosRequest.sizes (request : IosRequest) : List Nat :=
  request.bufferSizes ++ [32]

end Sizes

section Actions

structure Written where
  addr : Nat
  bytes : Bytes

def Written.allocation (written : Written) : Allocation :=
  { addr := written.addr, size := written.bytes.length }

def Written.buffer (written : Written) : IpcBuffer :=
  { addr := written.addr, size := written.bytes.length }

def writeAll (memory : Nat → BitVec 8) (created : List Written) : Nat → BitVec 8 :=
  created.foldr (fun written memory => writeBytes memory written.addr written.bytes) memory

def writtenSizes (created : List Written) : List Nat :=
  ((created.map Written.allocation).map Allocation.size).reverse

structure Wrote (state : Preparing) (created : List Written) (next : Preparing) : Prop where
  served : GivenOut state.mem (created.map Written.allocation) next.mem
  memory : next.memory = writeAll state.memory created
  freebufs : next.freebufs = state.freebufs ++ (created.map Written.buffer).reverse

variable {α β : Type}

/-- An action makes buffers of the given sizes and then `post` holds of its value and them,
or the heap has no room for all of the sizes. -/
def Makes (action : Prepare α) (sizes : List Nat) (post : α → List Written → Prop) : Prop :=
  ∀ state, WordHeap state.mem →
    (∃ value created next, action state = .ok value next ∧ Wrote state created next ∧
      writtenSizes created = sizes ∧ post value created) ∨
    ∃ next, action state = .error (.exception "Out of memory") next ∧ ¬state.mem.Serves sizes

theorem GivenOut.append {heap middle after : MemMgr} {first second : List Allocation}
    (served : GivenOut heap first middle) (more : GivenOut middle second after) :
    GivenOut heap (second ++ first) after := by
  induction more with
  | none => exact served
  | malloc _ result ih => exact ih.malloc result

theorem MemMgr.Serves.left {heap : MemMgr} {first second : List Nat}
    (room : heap.Serves (first ++ second)) : heap.Serves first := by
  induction first generalizing heap with
  | nil => trivial
  | cons size rest ih =>
      rw [List.cons_append, MemMgr.Serves] at room
      rw [MemMgr.Serves]
      split at room
      · exact ih room
      · exact room.elim

theorem Wrote.trans {state middle next : Preparing} {first second : List Written}
    (wrote : Wrote state first middle) (more : Wrote middle second next) :
    Wrote state (second ++ first) next := by
  constructor
  · rw [List.map_append]
    exact wrote.served.append more.served
  · rw [more.memory, wrote.memory, writeAll, writeAll, writeAll, List.foldr_append]
  · rw [more.freebufs, wrote.freebufs, List.map_append, List.reverse_append, List.append_assoc]

theorem writtenSizes_append (first second : List Written) :
    writtenSizes (second ++ first) = writtenSizes first ++ writtenSizes second := by
  simp [writtenSizes]

theorem bind_of_ok {action : Prepare α} {rest : α → Prepare β} {state next : Preparing} {value : α}
    (result : action state = .ok value next) : (action >>= rest) state = rest value next := by
  simp only [bind, EStateM.bind, result]

theorem bind_of_error {action : Prepare α} {rest : α → Prepare β} {state next : Preparing}
    {error : PyError} (result : action state = .error error next) :
    (action >>= rest) state = .error error next := by
  simp only [bind, EStateM.bind, result]

theorem Makes.value {value : α} {post : α → List Written → Prop} (holds : post value []) :
    Makes (pure value) [] post := by
  intro state _
  refine Or.inl ⟨value, [], state, rfl, ⟨GivenOut.none, rfl, ?_⟩, rfl, holds⟩
  simp

theorem Makes.bind {action : Prepare α} {rest : α → Prepare β} {first second : List Nat}
    {post : α → List Written → Prop} {goal : β → List Written → Prop}
    (made : Makes action first post)
    (more : ∀ value created, post value created →
      Makes (rest value) second fun result after => goal result (after ++ created)) :
    Makes (action >>= rest) (first ++ second) goal := by
  intro state sized
  rcases made state sized with ⟨value, created, middle, result, wrote, rfl, holds⟩ | ⟨next, failed,
    full⟩
  · rw [bind_of_ok result]
    have room := wrote.served.serves second
    rcases more value created holds middle (wrote.served.sized sized) with
      ⟨value, after, next, result, again, rfl, holds⟩ | ⟨next, failed, full⟩
    · exact Or.inl ⟨value, after ++ created, next, result, wrote.trans again,
        writtenSizes_append _ _, holds⟩
    · exact Or.inr ⟨next, failed, fun serves => full (room.mp serves)⟩
  · rw [bind_of_error failed]
    exact Or.inr ⟨next, rfl, fun serves => full serves.left⟩

theorem Makes.weaken {action : Prepare α} {sizes : List Nat} {post goal : α → List Written → Prop}
    (made : Makes action sizes post) (weaker : ∀ value created, post value created →
      goal value created) : Makes action sizes goal := by
  intro state sized
  rcases made state sized with ⟨value, created, next, result, wrote, same, holds⟩ | failed
  · exact Or.inl ⟨value, created, next, result, wrote, same, weaker _ _ holds⟩
  · exact Or.inr failed

theorem writemem_eq {addr : Nat} {buf : Bytes} (addrBound : addr < 2 ^ 32)
    (sizeBound : buf.length < 2 ^ 32) (state : Preparing) :
    writemem addr buf state = .ok () { state with memory := writeBytes state.memory addr buf } := by
  rw [writemem, if_pos ⟨addrBound, sizeBound⟩]

theorem mallwrite_cases {state : Preparing} (sized : WordHeap state.mem) (buf : Bytes) :
    (∃ addr mem, state.mem.malloc buf.length = (.ok addr, mem) ∧ addr < 2 ^ 32 ∧
      buf.length < 2 ^ 32 ∧ mallwrite buf state =
        .ok addr { state with mem, memory := writeBytes state.memory addr buf }) ∨
    mallwrite buf state = .error (.exception "Out of memory") state ∧
      ¬state.mem.Serves [buf.length] := by
  rcases malloc_cases state.mem buf.length with ⟨pos, blocks, taken, -⟩ | ⟨failed, -⟩
  · obtain ⟨-, addrBound, sizeBound⟩ := sized.malloc taken
    refine Or.inl ⟨_, _, taken, addrBound, sizeBound, ?_⟩
    have allocated : malloc buf.length state =
        .ok (state.mem.offset + state.mem.block * pos)
          { state with mem := { state.mem with blocks } } := by
      rw [malloc, taken]
    rw [mallwrite, bind_of_ok allocated]
    exact bind_of_ok (writemem_eq addrBound sizeBound _)
  · refine Or.inr ⟨?_, ?_⟩
    · have refused : malloc buf.length state = .error (.exception "Out of memory") state := by
        rw [malloc, failed]
      rw [mallwrite, bind_of_error refused]
    · rw [MemMgr.Serves, failed]
      exact not_false

theorem Makes.keep {bytes : Bytes} {rest : IpcBuffer → Prepare α} {sizes : List Nat}
    {goal : α → List Written → Prop}
    (more : ∀ addr, addr < 2 ^ 32 → bytes.length < 2 ^ 32 →
      Makes (rest ⟨addr, bytes.length⟩) sizes fun result after =>
        goal result (after ++ [⟨addr, bytes⟩])) :
    Makes (do let buf ← makebuf bytes; appendFreebuf buf; rest buf) (bytes.length :: sizes)
      goal := by
  intro state sized
  rcases mallwrite_cases sized bytes with ⟨addr, mem, taken, addrBound, sizeBound, result⟩ |
    ⟨failed, full⟩
  · have made : makebuf bytes state = .ok ⟨addr, bytes.length⟩ _ := bind_of_ok result
    rw [bind_of_ok made]
    have wrote : Wrote state [⟨addr, bytes⟩]
        { mem, memory := writeBytes state.memory addr bytes
          freebufs := state.freebufs ++ [⟨addr, bytes.length⟩] } :=
      ⟨GivenOut.none.malloc taken, rfl, rfl⟩
    have room := wrote.served.serves sizes
    rcases more addr addrBound sizeBound _ (wrote.served.sized sized) with
      ⟨value, after, next, result, again, rfl, holds⟩ | ⟨next, refused, none⟩
    · exact Or.inl ⟨value, after ++ [⟨addr, bytes⟩], next, result, wrote.trans again,
        writtenSizes_append _ _, holds⟩
    · exact Or.inr ⟨next, refused, fun serves => none (room.mp serves)⟩
  · have refused : makebuf bytes state = .error _ state := bind_of_error failed
    rw [bind_of_error refused]
    exact Or.inr ⟨state, rfl, fun serves => full (@MemMgr.Serves.left _ [_] sizes serves)⟩

theorem Makes.map {action : Prepare α} {sizes : List Nat} {post : α → List Written → Prop}
    {goal : β → List Written → Prop} {change : α → β} (made : Makes action sizes post)
    (holds : ∀ value created, post value created → goal (change value) created) :
    Makes (action >>= fun value => pure (change value)) sizes goal := by
  rw [← List.append_nil sizes]
  exact made.bind fun value created known => Makes.value (holds value created known)

end Actions

section Requests

def WrittenIn (created : List Written) (addr : Nat) (bytes : Bytes) : Prop :=
  ⟨addr, bytes⟩ ∈ created

def Packable (buf : Nat × Nat) : Prop :=
  buf.1 < 2 ^ 32 ∧ buf.2 < 2 ^ 32

theorem makes_getbuf {arg : PyArg} (typed : arg.IsBuffer) :
    Makes (getbuf arg) arg.sizes fun buf created =>
      arg.PassedAs (WrittenIn created) buf ∧ Packable buf := by
  cases arg with
  | none => exact Makes.value ⟨rfl, by decide, by decide⟩
  | buffer addr size => exact Makes.value ⟨rfl, addr.isLt, size.isLt⟩
  | tuple addr size => exact Makes.value ⟨rfl, addr.isLt, size.isLt⟩
  | int value => exact typed.elim
  | str bytes =>
      refine Makes.keep fun addr addrBound sizeBound => Makes.value ?_
      exact ⟨⟨List.mem_singleton_self _, rfl⟩, addrBound, sizeBound⟩

theorem makes_parseLetter {letter : Char} {arg : PyArg} (fits : FitsLetter letter arg)
    (left : List PyArg) :
    Makes (parseLetter letter (arg :: left)) (letterSizes (letter, arg)) fun buf created =>
      LetterPassedAs (WrittenIn created) letter arg buf ∧ Packable buf := by
  unfold FitsLetter at fits
  unfold parseLetter letterSizes LetterPassedAs
  cases kind : letterWidth letter with
  | none =>
      rw [kind] at fits
      dsimp only
      rw [if_pos fits.1]
      exact (makes_getbuf fits.2).weaken fun buf created known => ⟨⟨fits.1, known.1⟩, known.2⟩
  | some width =>
      cases arg with
      | int value =>
          have made := @makes_getbuf (.str (encode width (value % 256 ^ width).toNat)) trivial
          rw [PyArg.sizes, length_encode] at made
          refine made.weaken fun buf created known => ⟨⟨known.1.1, ?_⟩, known.2⟩
          rw [known.1.2, length_encode]
      | none => rw [kind] at fits; exact fits.elim
      | buffer addr size => rw [kind] at fits; exact fits.elim
      | tuple addr size => rw [kind] at fits; exact fits.elim
      | str bytes => rw [kind] at fits; exact fits.elim

def Passed (created : List Written) (letters : List (Char × PyArg)) (bufs : List (Nat × Nat)) :
    Prop :=
  List.Forall₂ (fun letter buf => LetterPassedAs (WrittenIn created) letter.1 letter.2 buf)
    letters bufs

theorem Passed.more {created : List Written} {letters : List (Char × PyArg)}
    {bufs : List (Nat × Nat)} (passed : Passed created letters bufs) {larger : List Written}
    (more : created ⊆ larger) : Passed larger letters bufs := by
  exact List.Forall₂.imp (fun _ _ each => each.mono fun _ _ member => more member) passed

theorem makes_parse {fmt : List Char} {args : List PyArg} (fits : List.Forall₂ FitsLetter fmt args)
    (extra : List PyArg) :
    Makes (parse fmt (args ++ extra)) ((fmt.zip args).flatMap letterSizes) fun parsed created =>
      parsed.2 = extra ∧ Passed created (fmt.zip args) parsed.1 ∧
        ∀ buf ∈ parsed.1, Packable buf := by
  induction fits with
  | nil => exact Makes.value ⟨rfl, List.Forall₂.nil, by simp⟩
  | @cons letter arg fmt args here rest ih =>
      rw [List.zip_cons_cons, List.flatMap_cons]
      refine (makes_parseLetter here (args ++ extra)).bind fun buf created known => ?_
      refine ih.map fun parsed after later => ⟨later.1, ?_, ?_⟩
      · refine List.Forall₂.cons ?_ (later.2.1.more (List.subset_append_left _ _))
        exact known.1.mono fun _ _ member => List.mem_append_right _ member
      · intro other member
        rcases List.mem_cons.mp member with rfl | member
        · exact known.2
        · exact later.2.2 other member

theorem splitFormat_eq {format : List Char} (single : ':' ∉ outputLetters format) :
    splitFormat format = pure (inputLetters format, outputLetters format) := by
  have before : ':' ∉ inputLetters format := by
    intro member
    simpa using List.mem_takeWhile_imp member
  have whole : inputLetters format ++ format.dropWhile (fun letter => letter ≠ ':') = format :=
    List.takeWhile_append_dropWhile
  cases rest : format.dropWhile fun letter => letter ≠ ':' with
  | nil =>
      have output : outputLetters format = [] := by
        rw [outputLetters, rest]
        rfl
      have pieces : format.splitOn ':' = [inputLetters format] := by
        rw [rest, List.append_nil] at whole
        rw [whole] at before ⊢
        exact List.splitOn_eq_singleton before
      rw [splitFormat, pieces, output]
  | cons colon output =>
      have first : colon = ':' := by
        have stopped := List.head?_dropWhile_not (fun letter => decide (letter ≠ ':')) format
        rw [rest] at stopped
        simpa using stopped
      have after : outputLetters format = output := by
        rw [outputLetters, rest]
        rfl
      rw [after] at single
      have pieces : format.splitOn ':' = [inputLetters format, output] := by
        rw [rest, first] at whole
        conv_lhs => rw [← whole]
        rw [List.splitOn_append_cons_self_of_not_mem before, List.splitOn_eq_singleton single]
      rw [splitFormat, pieces, after]

theorem packWords_eq {words : List Nat} (small : ∀ word ∈ words, word < 2 ^ 32) :
    packWords words = pure (encodeAll 4 words) := by
  rw [packWords, if_pos small]

theorem vectorWords_small {bufs : List (Nat × Nat)} (small : ∀ buf ∈ bufs, Packable buf) :
    ∀ word ∈ vectorWords bufs, word < 2 ^ 32 := by
  intro word member
  obtain ⟨buf, listed, here⟩ := List.mem_flatMap.mp member
  rcases List.mem_cons.mp here with rfl | here
  · exact (small buf listed).1
  · rw [List.mem_singleton.mp here]
    exact (small buf listed).2

theorem vectorWords_length (bufs : List (Nat × Nat)) :
    (vectorWords bufs).length = 2 * bufs.length := by
  induction bufs with
  | nil => rfl
  | cons buf rest ih =>
      rw [vectorWords, List.flatMap_cons, List.length_append, ← vectorWords, ih]
      simp only [List.length_cons, List.length_nil]
      omega

def ArgsFor (request : IosRequest) (args : List Nat) (created : List Written) : Prop :=
  (∀ word ∈ args, word < 2 ^ 32) ∧
    request.Arguments (WrittenIn created) (args ++ List.replicate (5 - args.length) 0)

theorem fitsLetter_ne_colon {letter : Char} {arg : PyArg} (fits : FitsLetter letter arg) :
    letter ≠ ':' := by
  rintro rfl
  exact absurd fits.1 (by decide)

theorem fits_split {front back : List Char} {args : List PyArg}
    (fits : List.Forall₂ FitsLetter (front ++ back) args) :
    ∃ first second, args = first ++ second ∧ List.Forall₂ FitsLetter front first ∧
      List.Forall₂ FitsLetter back second := by
  have inputs := List.forall₂_take front.length fits
  have outputs := List.forall₂_drop front.length fits
  rw [List.take_left] at inputs
  rw [List.drop_left] at outputs
  exact ⟨_, _, (List.take_append_drop _ _).symm, inputs, outputs⟩

theorem makes_ioctlvArgs {fd ioctl : ARMword} {format : List Char} {ioargs : List PyArg}
    (typed : (IosRequest.iosIoctlv fd ioctl format ioargs).WellTyped) :
    Makes (ioctlvArgs ioctl format ioargs) (IosRequest.iosIoctlv fd ioctl format ioargs).bufferSizes
      (ArgsFor (.iosIoctlv fd ioctl format ioargs)) := by
  have fits : List.Forall₂ FitsLetter (inputLetters format ++ outputLetters format) ioargs := typed
  have single : ':' ∉ outputLetters format := by
    have letters := ((List.forall₂_and_left _ _).mp
      (fits.imp fun letter arg here => And.intro (fitsLetter_ne_colon here) here)).1
    exact fun member => letters ':' (List.mem_append_right _ member) rfl
  obtain ⟨first, second, rfl, inputs, outputs⟩ := fits_split fits
  have letters : lettersWith format (first ++ second) =
      (inputLetters format).zip first ++ (outputLetters format).zip second :=
    List.zip_append inputs.length_eq
  rw [ioctlvArgs, splitFormat_eq single, pure_bind, IosRequest.bufferSizes, letters,
    List.flatMap_append, List.append_assoc]
  refine (makes_parse inputs second).bind fun parsed created known => ?_
  obtain ⟨ibufs, left⟩ := parsed
  obtain ⟨rfl, passedIn, smallIn⟩ := known
  have made := makes_parse outputs []
  rw [List.append_nil] at made
  refine made.bind fun parsed after known => ?_
  obtain ⟨obufs, nothing⟩ := parsed
  obtain ⟨rfl, passedOut, smallOut⟩ := known
  dsimp only at passedIn passedOut smallIn smallOut ⊢
  have small : ∀ buf ∈ ibufs ++ obufs, Packable buf := by
    intro buf member
    rcases List.mem_append.mp member with member | member
    · exact smallIn buf member
    · exact smallOut buf member
  have inputCount := passedIn.length_eq
  have outputCount := passedOut.length_eq
  rw [List.length_zip, ← inputs.length_eq, Nat.min_self] at inputCount
  rw [List.length_zip, ← outputs.length_eq, Nat.min_self] at outputCount
  have bytes :
      (encodeAll 4 (vectorWords (ibufs ++ obufs))).length = 8 * (first ++ left).length := by
    rw [length_encodeAll, vectorWords_length, List.length_append, List.length_append,
      ← inputs.length_eq, ← outputs.length_eq]
    omega
  rw [if_neg (by simp), packWords_eq (vectorWords_small small), pure_bind, ← bytes]
  refine Makes.keep fun table tableBound sizeBound => Makes.value ⟨?_, table, ibufs ++ obufs, ?_⟩
  · rw [bytes, List.length_append, ← inputs.length_eq, ← outputs.length_eq] at sizeBound
    simp only [List.mem_cons, List.not_mem_nil, or_false, forall_eq_or_imp, forall_eq]
    exact ⟨ioctl.isLt, by omega, by omega, tableBound⟩
  · rw [inputCount, outputCount, letters]
    refine ⟨rfl, by simp [WrittenIn], ?_⟩
    refine List.rel_append (passedIn.more ?_) (passedOut.more ?_)
    · simp
    · simp

theorem makes_readWriteArgs {buf : PyArg} (typed : buf.IsBuffer) (size : Option ARMword) :
    Makes (IosRequest.readWriteArgs buf size) buf.sizes fun args created =>
      (∀ word ∈ args, word < 2 ^ 32) ∧
        ∃ passed, args = [passed.1, (size.map BitVec.toNat).getD passed.2] ∧
          buf.PassedAs (WrittenIn created) passed := by
  cases size with
  | none =>
      refine (makes_getbuf typed).map fun passed created known => ⟨?_, passed, rfl, known.1⟩
      simp only [List.mem_cons, List.not_mem_nil, or_false, forall_eq_or_imp, forall_eq]
      exact known.2
  | some size =>
      refine (makes_getbuf typed).map fun passed created known => ⟨?_, passed, rfl, known.1⟩
      simp only [List.mem_cons, List.not_mem_nil, or_false, forall_eq_or_imp, forall_eq]
      exact ⟨known.2.1, size.isLt⟩

theorem makes_args {request : IosRequest} (typed : request.WellTyped) :
    Makes request.args request.bufferSizes (ArgsFor request) := by
  cases request with
  | iosOpen path mode =>
      have length : path.length + 1 = (path ++ [0#8]).length := by simp
      rw [IosRequest.bufferSizes, length]
      refine Makes.keep fun addr addrBound _ => Makes.value ⟨?_, addr, rfl, ?_⟩
      · simp only [List.mem_cons, List.not_mem_nil, or_false, forall_eq_or_imp, forall_eq]
        exact ⟨addrBound, mode.isLt⟩
      · exact List.mem_singleton_self _
  | iosClose fd => exact Makes.value ⟨by simp, rfl⟩
  | iosRead fd buf size =>
      refine (makes_readWriteArgs typed size).weaken fun args created known => ⟨known.1, ?_⟩
      obtain ⟨-, passed, rfl, held⟩ := known
      exact ⟨passed, rfl, held⟩
  | iosWrite fd buf size =>
      refine (makes_readWriteArgs typed size).weaken fun args created known => ⟨known.1, ?_⟩
      obtain ⟨-, passed, rfl, held⟩ := known
      exact ⟨passed, rfl, held⟩
  | iosSeek fd position whence =>
      refine Makes.value ⟨?_, rfl⟩
      simp only [List.mem_cons, List.not_mem_nil, or_false, forall_eq_or_imp, forall_eq]
      exact ⟨by omega, whence.isLt⟩
  | iosIoctl fd ioctl bufi bufo =>
      refine (makes_getbuf typed.1).bind fun input created first => ?_
      refine (makes_getbuf typed.2).map fun output after second => ⟨?_, input, output, rfl, ?_, ?_⟩
      · simp only [List.mem_cons, List.not_mem_nil, or_false, forall_eq_or_imp, forall_eq]
        exact ⟨ioctl.isLt, first.2.1, first.2.2, second.2⟩
      · exact first.1.mono fun _ _ member => List.mem_append_right _ member
      · exact second.1.mono fun _ _ member => List.mem_append_left _ member
  | iosIoctlv fd ioctl format ioargs => exact makes_ioctlvArgs typed

def IosRequest.block (request : IosRequest) (args : List Nat) : Bytes :=
  encodeAll 4 (request.cmd :: 0 :: request.fd.toNat :: args)

theorem IosRequest.Arguments.length {Holds : Nat → Bytes → Prop} {request : IosRequest}
    {args : List Nat} (meant : request.Arguments Holds args) : args.length = 5 := by
  cases request with
  | iosOpen path mode =>
      obtain ⟨addr, rfl, -⟩ := meant
      rfl
  | iosClose fd => rw [meant]; rfl
  | iosRead fd buf size =>
      obtain ⟨passed, rfl, -⟩ := meant
      rfl
  | iosWrite fd buf size =>
      obtain ⟨passed, rfl, -⟩ := meant
      rfl
  | iosSeek fd position whence => rw [meant]; rfl
  | iosIoctl fd ioctl bufi bufo =>
      obtain ⟨input, output, rfl, -⟩ := meant
      rfl
  | iosIoctlv fd ioctl format ioargs =>
      obtain ⟨table, bufs, rfl, -⟩ := meant
      rfl

structure Prepared (request : IosRequest) (state : Preparing) (args : List Nat)
    (created : List Written) (addr : Nat) (next : Preparing) : Prop where
  meant : request.Arguments (WrittenIn created) args
  small : ∀ word ∈ request.cmd :: 0 :: request.fd.toNat :: args, word < 2 ^ 32
  served : GivenOut state.mem ((⟨addr, request.block args⟩ :: created).map Written.allocation)
    next.mem
  memory : next.memory = writeAll state.memory (⟨addr, request.block args⟩ :: created)
  freebufs : next.freebufs = state.freebufs ++ (created.map Written.buffer).reverse
  sizes : writtenSizes created = request.bufferSizes

theorem prepare_cases {request : IosRequest} (typed : request.WellTyped) {state : Preparing}
    (sized : WordHeap state.mem) :
    (∃ args created addr next, request.prepare state = .ok addr next ∧
      Prepared request state args created addr next) ∨
    ∃ next, request.prepare state = .error (.exception "Out of memory") next ∧
      ¬state.mem.Serves request.sizes := by
  rcases makes_args typed state sized with ⟨args, created, middle, result, wrote, sizes, small,
    meant⟩ | ⟨next, failed, full⟩
  · rw [IosRequest.prepare, bind_of_ok result]
    have fits : ∀ word ∈ request.cmd :: 0 :: request.fd.toNat ::
        (args ++ List.replicate (5 - args.length) 0), word < 2 ^ 32 := by
      intro word member
      simp only [List.mem_cons, List.mem_append, List.mem_replicate] at member
      rcases member with rfl | rfl | rfl | listed | ⟨-, rfl⟩
      · cases request <;> simp [IosRequest.cmd]
      · decide
      · exact request.fd.isLt
      · exact small word listed
      · decide
    have length : (request.block (args ++ List.replicate (5 - args.length) 0)).length = 32 := by
      rw [IosRequest.block, length_encodeAll]
      simp only [List.length_cons, meant.length]
    rw [prepareRequest, packWords_eq fits, pure_bind]
    rcases mallwrite_cases (wrote.served.sized sized)
        (request.block (args ++ List.replicate (5 - args.length) 0)) with
      ⟨addr, mem, taken, -, -, written⟩ | ⟨failed, full⟩
    · refine Or.inl ⟨_, created, addr, _, written, meant, fits, wrote.served.malloc taken, ?_,
        wrote.freebufs, sizes⟩
      dsimp only
      rw [wrote.memory]
      rfl
    · refine Or.inr ⟨middle, failed, fun serves => full ?_⟩
      rw [length]
      rw [IosRequest.sizes, ← sizes] at serves
      exact (wrote.served.serves [32]).mp serves
  · rw [IosRequest.prepare, bind_of_error failed]
    exact Or.inr ⟨next, rfl, fun serves => full serves.left⟩

end Requests

end SkyeyeStarlet
