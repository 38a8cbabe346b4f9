import Raster.Backend.Jpeg.Supply
import Raster.Proofs.Reading

/-!
What the buffered input hands on. Whatever blocks the stream comes in, whatever is asked for and
however often a read fails on the way, the bytes handed on are the data of the stream in order, and
behind them end-of-image markers; a stream without data gives nothing but errors.
-/

namespace Raster

namespace Stream

variable {stream : Stream} {size : Nat} (positive : 0 < size) (quiet : stream.Quiet)

include positive quiet

theorem drain_read_eq (blocks : Array (Array UInt8)) (fuel : Nat)
    (enough : stream.remaining < fuel) :
    (drain read size fuel stream blocks).1.failed = false ∧
      (drain read size fuel stream blocks).1.bytes =
        blocks.foldl (· ++ ·) #[] ++ stream.bytes.extract stream.position stream.bytes.size := by
  induction fuel generalizing stream blocks with
  | zero => omega
  | succ fuel ih =>
      obtain ⟨count, rest, served, moved, -, inside, some⟩ := quiet.read_eq size
      rw [remaining] at enough inside some
      rw [drain, served]
      simp only
      split
      · rename_i empty
        have none : stream.bytes.size ≤ stream.position := by
          rw [Array.isEmpty_iff_size_eq_zero, Array.size_extract] at empty
          omega
        rw [Array.extract_empty_of_stop_le_start none, Array.append_empty]
        exact ⟨rfl, rfl⟩
      · rename_i filled
        have progress : 0 < count := by
          rw [Array.isEmpty_iff_size_eq_zero, Array.size_extract] at filled
          omega
        obtain ⟨unfailed, delivered⟩ := ih (moved.quiet quiet)
          (blocks.push (stream.bytes.extract stream.position (stream.position + count)))
          (by rw [remaining, moved.position, moved.bytes]; omega)
        refine ⟨unfailed, ?_⟩
        rw [delivered, moved.position, moved.bytes, Array.foldl_push, Array.append_assoc,
          Array.extract_append_extract, Nat.min_eq_left (by omega), Nat.max_eq_right (by omega)]

theorem deliver_eq : (stream.deliver size).1.failed = false ∧
    (stream.deliver size).1.bytes = stream.bytes.extract stream.position stream.bytes.size := by
  obtain ⟨unfailed, delivered⟩ :=
    drain_read_eq positive quiet #[] (stream.remaining + 1) (Nat.lt_succ_self _)
  exact ⟨unfailed, delivered.trans Array.empty_append⟩

end Stream

namespace Jpeg

open Backend.Jpeg (Supply)

/-- The bytes of a stream from its position on, and end-of-image markers without end. -/
def padded (stream : Stream) (index : Nat) : UInt8 :=
  if index < stream.remaining then stream.bytes.getD (stream.position + index) 0
  else if (index - stream.remaining) % 2 = 0 then 0xff
  else 0xd9

def Shows (source : Stream) (first : Nat) (bytes : Array UInt8) : Prop :=
  ∀ index, ∀ inside : index < bytes.size, bytes[index] = padded source (first + index)

section Shows

variable {source : Stream} {first : Nat} {bytes more : Array UInt8}

theorem shows_empty : Shows source first #[] := by
  intro index inside
  cases inside

theorem Shows.append (shows : Shows source first bytes)
    (further : Shows source (first + bytes.size) more) : Shows source first (bytes ++ more) := by
  intro index inside
  by_cases early : index < bytes.size
  · rw [Array.getElem_append_left early]
    exact shows index early
  · have late : bytes.size ≤ index := Nat.le_of_not_lt early
    rw [Array.getElem_append_right late, further, Nat.add_assoc, Nat.add_sub_cancel' late]

theorem Shows.extract (shows : Shows source first bytes) (start stop : Nat) :
    Shows source (first + start) (bytes.extract start stop) := by
  intro index inside
  rw [Array.getElem_extract, shows, Nat.add_assoc]

theorem Shows.unique (shows : Shows source first bytes) (further : Shows source first more)
    (size : bytes.size = more.size) : bytes = more := by
  apply Array.ext size
  intro index inside within
  rw [shows index inside, further index within]

theorem shows_data {size : Nat} (inside : first + size ≤ source.remaining) :
    Shows source first (source.bytes.extract (source.position + first)
      (source.position + first + size)) := by
  intro index within
  have bound : first + index < source.remaining := by
    rw [Array.size_extract] at within
    omega
  have present : source.position + (first + index) < source.bytes.size := by
    rw [Stream.remaining] at bound
    omega
  rw [Array.getElem_extract, padded, if_pos bound, Array.getElem_eq_getD 0, Nat.add_assoc]

theorem shows_endOfImage (passed : source.remaining ≤ first)
    (pairs : (first - source.remaining) % 2 = 0) : Shows source first Input.endOfImage := by
  intro index inside
  have behind : ¬first + index < source.remaining := by omega
  rw [padded, if_neg behind]
  match index, inside with
  | 0, _ =>
      rw [if_pos (by omega)]
      rfl
  | 1, _ =>
      rw [if_neg (by omega)]
      rfl

end Shows

namespace Input

def unread (input : Input) : Nat := input.buffer.size - input.consumed

def retried (input : Input) : Input :=
  { input with stream := { input.stream with reads := input.stream.reads + 1, interrupted := 0 } }

def Denied (input : Input) : Prop :=
  input.consumed = input.buffer.size ∧
    (input.stream.faults.read input.stream.reads input.stream.position).outcome = .fails

/-- An input of the stream `source` that has handed on its first `count` padded bytes, and goes on
with the next. -/
structure Follows (source : Stream) (count : Nat) (input : Input) : Prop where
  bytes : input.stream.bytes = source.bytes
  faults : input.stream.faults = source.faults
  consumed : input.consumed ≤ input.buffer.size
  size : input.buffer.size ≤ blockSize
  pending : Shows source count (input.buffer.extract input.consumed input.buffer.size)
  position : input.stream.position =
    source.position + min (count + input.unread) source.remaining
  /-- End-of-image markers are put in whole. -/
  pairs : (count + input.unread - source.remaining) % 2 = 0
  started : input.started = true ↔ 0 < count + input.unread
  data : 0 < count + input.unread → 0 < source.remaining

theorem follows_ofStream (stream : Stream) : Follows stream 0 (ofStream stream) where
  bytes := rfl
  faults := rfl
  consumed := Nat.le_refl 0
  size := Nat.zero_le blockSize
  pending := shows_empty
  position := by simp [ofStream, unread]
  pairs := by simp [ofStream, unread]
  started := by simp [ofStream, unread]
  data := by simp [ofStream, unread]

variable {source : Stream} {count : Nat} {input : Input}

theorem Follows.retried (follows : Follows source count input) :
    Follows source count input.retried :=
  ⟨follows.bytes, follows.faults, follows.consumed, follows.size, follows.pending,
    follows.position, follows.pairs, follows.started, follows.data⟩

theorem Follows.remaining (follows : Follows source count input) :
    input.stream.remaining = source.remaining - (count + input.unread) := by
  have position := follows.position
  rw [Stream.remaining] at position ⊢
  rw [Stream.remaining, follows.bytes]
  omega

theorem Follows.skip (follows : Follows source count input) {size : Nat}
    (within : size ≤ input.unread) :
    Follows source (count + size) { input with consumed := input.consumed + size } := by
  have consumed := follows.consumed
  have whole : input.consumed + input.unread = input.buffer.size := Nat.add_sub_cancel' consumed
  have ahead : count + size + (input.buffer.size - (input.consumed + size)) =
      count + input.unread := by
    omega
  have pending := follows.pending.extract size input.unread
  rw [Array.extract_extract, whole, Nat.min_self] at pending
  exact {
    bytes := follows.bytes
    faults := follows.faults
    consumed := show input.consumed + size ≤ input.buffer.size by omega
    size := follows.size
    pending := pending
    position := by rw [unread, ahead]; exact follows.position
    pairs := by rw [unread, ahead]; exact follows.pairs
    started := by rw [unread, ahead]; exact follows.started
    data := by rw [unread, ahead]; exact follows.data }

theorem Follows.take (follows : Follows source count input) (wanted : Nat) :
    ∃ bytes rest, input.take wanted = (bytes, rest) ∧ bytes.size = min wanted input.unread ∧
      Shows source count bytes ∧ Follows source (count + bytes.size) rest := by
  have within : min wanted input.unread ≤ input.unread := Nat.min_le_right ..
  have whole : input.consumed + input.unread = input.buffer.size :=
    Nat.add_sub_cancel' follows.consumed
  have length : (input.buffer.extract input.consumed
      (input.consumed + min wanted input.unread)).size = min wanted input.unread := by
    rw [Array.size_extract]
    omega
  have shows := follows.pending.extract 0 (min wanted input.unread)
  rw [Array.extract_extract, Nat.add_zero, Nat.add_zero, Nat.min_eq_left (by omega)] at shows
  refine ⟨_, _, rfl, length, shows, ?_⟩
  change Follows source (count + (input.buffer.extract input.consumed
    (input.consumed + min wanted input.unread)).size) _
  rw [length]
  exact follows.skip within

section Filling

variable (follows : Follows source count input) (used : input.unread = 0)

include follows used

theorem Follows.refill {size : Nat} (some : 0 < size) (fits : size ≤ blockSize)
    (inside : size ≤ input.stream.remaining) :
    Follows source count ⟨{ input.stream with
        position := input.stream.position + size
        reads := input.stream.reads + 1
        interrupted := 0 },
      input.stream.bytes.extract input.stream.position (input.stream.position + size), 0, true,
      input.markersInserted⟩ := by
  have remaining := follows.remaining
  have position := follows.position
  rw [used, Nat.add_zero] at remaining position
  have handed : min count source.remaining = count := by omega
  rw [handed] at position
  have length : (input.stream.bytes.extract input.stream.position
      (input.stream.position + size)).size = size := by
    rw [Stream.remaining] at inside
    rw [Array.size_extract]
    omega
  have shows := shows_data (show count + size ≤ source.remaining by omega)
  rw [← position, ← follows.bytes] at shows
  exact {
    bytes := follows.bytes
    faults := follows.faults
    consumed := Nat.zero_le _
    size := Nat.le_trans (Nat.le_of_eq length) fits
    pending := by
      rw [Array.extract_size]
      exact shows
    position := by
      change input.stream.position + size = _
      rw [unread, length, Nat.sub_zero]
      omega
    pairs := by
      simp only [unread, length]
      omega
    started := iff_of_true rfl (by simp only [unread, length]; omega)
    data := fun _ => by omega }

theorem Follows.mark (begun : 0 < count) (ended : input.stream.remaining = 0) :
    Follows source count ⟨{ input.stream with reads := input.stream.reads + 1, interrupted := 0 },
      endOfImage, 0, true, input.markersInserted + 1⟩ := by
  have remaining := follows.remaining
  have position := follows.position
  have pairs := follows.pairs
  rw [used, Nat.add_zero] at remaining position pairs
  have length : endOfImage.size = 2 := rfl
  exact {
    bytes := follows.bytes
    faults := follows.faults
    consumed := Nat.zero_le _
    size := show endOfImage.size ≤ blockSize by decide
    pending := shows_endOfImage (by omega) pairs
    position := by
      change input.stream.position = _
      rw [unread, length]
      omega
    pairs := by
      simp only [unread, length]
      omega
    started := iff_of_true rfl (Nat.lt_add_right _ begun)
    data := fun _ => follows.data (Nat.lt_add_right _ begun) }

end Filling

theorem Follows.fill (follows : Follows source count input)
    (used : input.consumed = input.buffer.size) :
    input.Denied ∧ input.fill = (.error .failed, input.retried) ∨
    ¬input.Denied ∧ source.remaining = 0 ∧ input.fill = (.error .empty, input.retried) ∨
    ¬input.Denied ∧ 0 < source.remaining ∧ ∃ rest, input.fill = (.ok (), rest) ∧
      0 < rest.unread ∧ Follows source count rest := by
  have unread : input.unread = 0 := by
    rw [Input.unread, used, Nat.sub_self]
  have started := follows.started
  have data := follows.data
  have remaining := follows.remaining
  rw [unread, Nat.add_zero] at started data remaining
  rcases input.stream.read_cases blockSize with
    ⟨failing, refused⟩ | ⟨outcome, size, served, fits, inside, progress⟩
  · refine .inl ⟨⟨used, failing⟩, ?_⟩
    rw [Input.fill, refused]
    rfl
  · have granted : ¬input.Denied := fun denied => outcome denied.2
    have length : (input.stream.bytes.extract input.stream.position
        (input.stream.position + size)).size = size := by
      rw [Stream.remaining] at inside
      rw [Array.size_extract]
      omega
    rw [Input.fill, served]
    rcases Nat.eq_zero_or_pos size with rfl | some
    · have ended : input.stream.remaining = 0 := by
        have block : 0 < blockSize := by decide
        omega
      have empty := Array.isEmpty_iff_size_eq_zero.2 length
      simp only [empty, if_true]
      cases begun : input.started with
      | false =>
          have none : count = 0 := by simpa [begun] using started
          refine .inr (.inl ⟨granted, by omega, ?_⟩)
          simp only [Bool.false_eq_true, if_false]
          rw [← begun]
          rfl
      | true =>
          have some := started.1 begun
          refine .inr (.inr ⟨granted, data some, _, rfl, ?_, follows.mark unread some ended⟩)
          exact (by decide : 0 < endOfImage.size)
    · have filled : (input.stream.bytes.extract input.stream.position
          (input.stream.position + size)).isEmpty = false := by
        rw [Array.isEmpty_eq_false_iff, ← Array.size_pos_iff, length]
        exact some
      simp only [filled]
      refine .inr (.inr ⟨granted, by omega, _, rfl, ?_, follows.refill unread some fits inside⟩)
      rw [Input.unread, length]
      exact some

theorem Follows.read (follows : Follows source count input) {wanted : Nat} (some : 0 < wanted) :
    input.Denied ∧ input.read wanted = (.error .failed, input.retried) ∨
    ¬input.Denied ∧ source.remaining = 0 ∧ input.read wanted = (.error .empty, input.retried) ∨
    ¬input.Denied ∧ 0 < source.remaining ∧ ∃ bytes rest, input.read wanted = (.ok bytes, rest) ∧
      0 < bytes.size ∧ bytes.size ≤ wanted ∧ Shows source count bytes ∧
      Follows source (count + bytes.size) rest := by
  rw [Input.read, if_neg (Nat.ne_of_gt some)]
  by_cases used : input.consumed = input.buffer.size
  · rw [if_pos used]
    rcases follows.fill used with ⟨denied, failing⟩ | ⟨granted, none, failing⟩ |
      ⟨granted, data, filled, filling, unread, further⟩
    · exact .inl ⟨denied, by rw [failing]⟩
    · exact .inr (.inl ⟨granted, none, by rw [failing]⟩)
    · obtain ⟨bytes, rest, taken, size, shows, next⟩ := further.take wanted
      refine .inr (.inr ⟨granted, data, bytes, rest, ?_, by omega, by omega, shows, next⟩)
      rw [filling]
      simp only [taken]
  · rw [if_neg used]
    have unread : 0 < input.unread :=
      Nat.sub_pos_of_lt (Nat.lt_of_le_of_ne follows.consumed used)
    have data := follows.data (Nat.lt_add_left _ unread)
    obtain ⟨bytes, rest, taken, size, shows, next⟩ := follows.take wanted
    refine .inr (.inr ⟨fun denied => used denied.1, data, bytes, rest, ?_, ?_, ?_, shows, next⟩)
    · simp only [taken]
    · omega
    · omega

/-- One read after the other. What they hand on comes together; those that fail hand on nothing. -/
def run (input : Input) : List Nat → Array UInt8 × Input
  | [] => (#[], input)
  | wanted :: later =>
      match input.read wanted with
      | (.error _, rest) => rest.run later
      | (.ok bytes, rest) => (bytes ++ (rest.run later).1, (rest.run later).2)

theorem Follows.run (follows : Follows source count input) (requests : List Nat) :
    Shows source count (input.run requests).1 ∧
      Follows source (count + (input.run requests).1.size) (input.run requests).2 := by
  induction requests generalizing count input with
  | nil => exact ⟨shows_empty, follows⟩
  | cons wanted later ih =>
      rw [Input.run]
      rcases Nat.eq_zero_or_pos wanted with rfl | some
      · rw [Input.read, if_pos rfl]
        simp only [Array.empty_append]
        exact ih follows
      · rcases follows.read some with ⟨-, refused⟩ | ⟨-, -, refused⟩ |
          ⟨-, -, bytes, rest, given, -, -, shows, next⟩
        · rw [refused]
          exact ih follows.retried
        · rw [refused]
          exact ih follows.retried
        · rw [given]
          obtain ⟨further, last⟩ := ih next
          refine ⟨shows.append further, ?_⟩
          rw [Array.size_append, ← Nat.add_assoc]
          exact last

theorem Follows.granted (follows : Follows source count input) (quiet : source.Quiet) :
    ¬input.Denied := by
  rintro ⟨-, failing⟩
  rw [follows.faults] at failing
  exact quiet.reads _ _ failing

theorem Follows.readExactly (follows : Follows source count input) (quiet : source.Quiet)
    (data : 0 < source.remaining) (wanted : Nat) (before : Array UInt8) :
    ∃ bytes rest, input.readExactly wanted before = (some (before ++ bytes), rest) ∧
      bytes.size = wanted ∧ Shows source count bytes := by
  induction wanted using Nat.strongRecOn generalizing count input before with
  | ind wanted ih =>
      rw [Input.readExactly]
      split
      · rename_i none
        exact ⟨#[], input, by rw [Array.append_empty], none.symm, shows_empty⟩
      · rename_i some
        rcases follows.read (Nat.pos_of_ne_zero some) with ⟨denied, -⟩ | ⟨-, empty, -⟩ |
          ⟨-, -, first, between, given, filled, fits, shows, next⟩
        · exact absurd denied (follows.granted quiet)
        · exact absurd empty (Nat.ne_of_gt data)
        · obtain ⟨later, rest, read, size, further⟩ :=
            ih (wanted - first.size) (by omega) next (before ++ first)
          refine ⟨first ++ later, rest, ?_, by rw [Array.size_append]; omega,
            shows.append further⟩
          simp only [given, if_neg (Nat.ne_of_gt filled)]
          rw [read, Array.append_assoc]

theorem Follows.handed (follows : Follows source count input) (none : source.remaining = 0) :
    count = 0 := by
  have data := follows.data
  omega

section First

variable {stream : Stream} (quiet : stream.Quiet) (wanted : Nat)

include quiet

theorem first?_eq_some (data : 0 < stream.remaining) : ∃ bytes,
    (ofStream stream).first? wanted = some bytes ∧ bytes.size = wanted ∧ Shows stream 0 bytes := by
  obtain ⟨bytes, rest, read, size, shows⟩ :=
    (follows_ofStream stream).readExactly quiet data wanted #[]
  refine ⟨bytes, ?_, size, shows⟩
  rw [first?, read, Array.empty_append]

theorem first?_eq_none (some : 0 < wanted) (none : stream.remaining = 0) :
    (ofStream stream).first? wanted = .none := by
  have follows := follows_ofStream stream
  rw [first?, readExactly, if_neg (Nat.ne_of_gt some)]
  rcases follows.read some with ⟨denied, -⟩ | ⟨-, -, refused⟩ | ⟨-, data, -⟩
  · exact absurd denied (follows.granted quiet)
  · rw [refused]
  · exact absurd none (Nat.ne_of_gt data)

end First

end Input

theorem supply_eq {stream : Stream} (quiet : stream.Quiet) : Supply.ofStream stream =
    ⟨stream.bytes.extract stream.position stream.bytes.size, false⟩ := by
  obtain ⟨unfailed, delivered⟩ := Stream.deliver_eq (show 0 < Input.blockSize by decide) quiet
  rw [Supply.ofStream, delivered, unfailed]

theorem supply_byte? {stream : Stream} (quiet : stream.Quiet) (data : 0 < stream.remaining)
    (index : Nat) : (Supply.ofStream stream).byte? index = some (padded stream index) := by
  have size : (stream.bytes.extract stream.position stream.bytes.size).size =
      stream.remaining := by
    rw [Array.size_extract, Nat.min_self, Stream.remaining]
  rw [supply_eq quiet, Supply.byte?, padded]
  simp only [size]
  by_cases inside : index < stream.remaining
  · have present : index < (stream.bytes.extract stream.position stream.bytes.size).size := by
      rwa [size]
    rw [if_pos inside, if_pos inside, Array.getElem?_eq_getElem present, Array.getElem_extract,
      Array.getElem_eq_getD 0]
  · have filled : (stream.bytes.extract stream.position stream.bytes.size).isEmpty = false := by
      rw [Array.isEmpty_eq_false_iff, ← Array.size_pos_iff, size]
      exact data
    rw [if_neg inside, if_neg inside, filled]
    rfl

end Jpeg

/-- Whatever has been asked of a buffered input, the bytes that it has handed on are the first of
the data with end-of-image markers behind, and none is left out, doubled or moved. A further request
gives some of the next bytes, unless the read that would fill the buffer fails, which changes
nothing else, or there is no data at all. A parser that asks for bytes by their number sees the same
ones. -/
theorem input_faithful (stream : Stream) (requests : List Nat) :
    let handed := (Jpeg.Input.run (.ofStream stream) requests).1
    let input := (Jpeg.Input.run (.ofStream stream) requests).2
    (∀ index, ∀ inside : index < handed.size, handed[index] = Jpeg.padded stream index) ∧
    (input.consumed ≤ input.buffer.size ∧ input.buffer.size ≤ 4096) ∧
    (∀ wanted, 0 < wanted →
      (input.Denied → input.read wanted = (.error .failed, input.retried)) ∧
      (¬input.Denied → 0 < stream.remaining → ∃ bytes rest,
        input.read wanted = (.ok bytes, rest) ∧ 0 < bytes.size ∧ bytes.size ≤ wanted) ∧
      (¬input.Denied → stream.remaining = 0 →
        input.read wanted = (.error .empty, input.retried))) ∧
    (stream.remaining = 0 → handed = #[]) ∧
    (stream.Quiet → 0 < stream.remaining → ∀ index,
      (Backend.Jpeg.Supply.ofStream stream).byte? index = some (Jpeg.padded stream index)) := by
  intro handed input
  obtain ⟨shows, follows⟩ := (Jpeg.Input.follows_ofStream stream).run requests
  rw [Nat.zero_add] at follows
  refine ⟨?_, ⟨follows.consumed, follows.size⟩, ?_, ?_, fun quiet data => ?_⟩
  · intro index inside
    rw [shows index inside, Nat.zero_add]
  · intro wanted some
    rcases follows.read some with ⟨denied, refused⟩ | ⟨granted, none, refused⟩ |
      ⟨granted, data, bytes, rest, given, size, bound, -, -⟩
    · exact ⟨fun _ => refused, fun granted => absurd denied granted,
        fun granted => absurd denied granted⟩
    · exact ⟨fun denied => absurd denied granted, fun _ data => absurd none (Nat.ne_of_gt data),
        fun _ _ => refused⟩
    · exact ⟨fun denied => absurd denied granted, fun _ _ => ⟨bytes, rest, given, size, bound⟩,
        fun _ none => absurd none (Nat.ne_of_gt data)⟩
  · intro none
    exact Array.eq_empty_of_size_eq_zero (follows.handed none)
  · exact Jpeg.supply_byte? quiet data

namespace Jpeg

def drip : Stream :=
  .ofBytes #[9, 1, 2, 3] 1
    ⟨fun number _ => ⟨1, if number = 1 then .fails else .gives 2⟩, fun _ => false, fun _ => false⟩

def steady : Stream := .ofBytes #[9, 1, 2, 3] 1 (FaultPlan.none.shorten 2)

def hollow : Stream := .ofBytes #[] 0 FaultPlan.none

end Jpeg

theorem input_faithful_drip :
    (Jpeg.Input.run (.ofStream Jpeg.drip) [1, 0, 4, 4, 4, 1, 5]).1 = #[1, 2, 3, 0xff, 0xd9] ∧
    (∀ index, ∀ inside : index <
        (Jpeg.Input.run (.ofStream Jpeg.drip) [1, 0, 4, 4, 4, 1, 5]).1.size,
      (Jpeg.Input.run (.ofStream Jpeg.drip) [1, 0, 4, 4, 4, 1, 5]).1[index] =
        Jpeg.padded Jpeg.drip index) ∧
    (Jpeg.Input.run (.ofStream Jpeg.drip) [1, 0, 4]).2.Denied ∧
    (Jpeg.Input.run (.ofStream Jpeg.drip) [1, 0, 4]).2.read 4 =
      (.error .failed, (Jpeg.Input.run (.ofStream Jpeg.drip) [1, 0, 4]).2.retried) ∧
    ¬(Jpeg.Input.run (.ofStream Jpeg.drip) [1, 0, 4, 4]).2.Denied ∧
    (∃ bytes rest, (Jpeg.Input.run (.ofStream Jpeg.drip) [1, 0, 4, 4]).2.read 4 =
      (.ok bytes, rest) ∧ 0 < bytes.size ∧ bytes.size ≤ 4) ∧
    (Jpeg.Input.ofStream Jpeg.hollow).read 2 =
      (.error .empty, (Jpeg.Input.ofStream Jpeg.hollow).retried) ∧
    (Backend.Jpeg.Supply.ofStream Jpeg.steady).byte? 4 = some 0xd9 := by
  have denied : (Jpeg.Input.run (.ofStream Jpeg.drip) [1, 0, 4]).2.Denied := by
    constructor <;> decide +kernel
  have granted : ¬(Jpeg.Input.run (.ofStream Jpeg.drip) [1, 0, 4, 4]).2.Denied := by
    rintro ⟨-, failing⟩
    revert failing
    decide +kernel
  have empty : ¬(Jpeg.Input.ofStream Jpeg.hollow).Denied := by
    rintro ⟨-, failing⟩
    cases failing
  have quiet : Jpeg.steady.Quiet := ⟨fun _ _ => nofun, fun _ => rfl, fun _ => rfl⟩
  obtain ⟨shows, -, -, -, -⟩ := input_faithful Jpeg.drip [1, 0, 4, 4, 4, 1, 5]
  obtain ⟨-, -, early, -, -⟩ := input_faithful Jpeg.drip [1, 0, 4]
  obtain ⟨-, -, late, -, -⟩ := input_faithful Jpeg.drip [1, 0, 4, 4]
  obtain ⟨-, -, never, -, -⟩ := input_faithful Jpeg.hollow []
  obtain ⟨-, -, -, -, supplied⟩ := input_faithful Jpeg.steady []
  refine ⟨by decide +kernel, shows, denied, (early 4 (by decide)).1 denied, granted,
    (late 4 (by decide)).2.1 granted (by decide), (never 2 (by decide)).2.2 empty rfl, ?_⟩
  exact (supplied quiet (by decide) 4).trans (by decide)

end Raster
