import SignalReplay.Fingerprint.LittleEndian

/-!
The BLAKE3 hash of a byte list. Blocks of 64 bytes are compressed one after the other into a
chunk of 1024 bytes, and chunks are joined in pairs to a tree whose left parts are as large as
they can be and full.
-/

namespace SignalReplay.Blake3

abbrev Words (count : Nat) := Vector UInt32 count

def initial : Words 8 :=
  #v[0x6A09E667, 0xBB67AE85, 0x3C6EF372, 0xA54FF53A,
    0x510E527F, 0x9B05688C, 0x1F83D9AB, 0x5BE0CD19]

/-! ## Marks of a compression -/

def chunkStart : UInt32 := 1

def chunkEnd : UInt32 := 2

def parentMark : UInt32 := 4

def rootMark : UInt32 := 8

/-! ## Compression -/

def rotateRight (word count : UInt32) : UInt32 :=
  (word >>> count) ||| (word <<< (32 - count))

def mix (state : Words 16) (a b c d : Fin 16) (first second : UInt32) : Words 16 :=
  let wordA := state[a] + state[b] + first
  let wordD := rotateRight (state[d] ^^^ wordA) 16
  let wordC := state[c] + wordD
  let wordB := rotateRight (state[b] ^^^ wordC) 12
  let wordA := wordA + wordB + second
  let wordD := rotateRight (wordD ^^^ wordA) 8
  let wordC := wordC + wordD
  let wordB := rotateRight (wordB ^^^ wordC) 7
  (((state.set a wordA).set b wordB).set c wordC).set d wordD

def round (state message : Words 16) : Words 16 :=
  let state := mix state 0 4 8 12 message[0] message[1]
  let state := mix state 1 5 9 13 message[2] message[3]
  let state := mix state 2 6 10 14 message[4] message[5]
  let state := mix state 3 7 11 15 message[6] message[7]
  let state := mix state 0 5 10 15 message[8] message[9]
  let state := mix state 1 6 11 12 message[10] message[11]
  let state := mix state 2 7 8 13 message[12] message[13]
  mix state 3 4 9 14 message[14] message[15]

/-- Which message word takes each place in the next round. -/
def permutation : Vector (Fin 16) 16 :=
  #v[2, 6, 3, 10, 7, 0, 4, 13, 1, 11, 12, 5, 9, 14, 15, 8]

def permute (message : Words 16) : Words 16 :=
  permutation.map fun place => message[place]

def rounds : Nat → Words 16 → Words 16 → Words 16
  | 0, state, _ => state
  | count + 1, state, message => rounds count (round state message) (permute message)

structure Input where
  chaining : Words 8
  block : Words 16
  /-- The place of the chunk. -/
  counter : Nat
  /-- How many bytes of the block count. -/
  length : Nat
  marks : UInt32

namespace Input

def state (input : Input) : Words 16 :=
  input.chaining ++ #v[initial[0], initial[1], initial[2], initial[3],
    UInt32.ofNat input.counter, UInt32.ofNat (input.counter / 0x100000000),
    UInt32.ofNat input.length, input.marks]

def compress (input : Input) : Words 8 :=
  let final := rounds 7 input.state input.block
  Vector.ofFn fun (place : Fin 8) => final[place.val] ^^^ final[place.val + 8]

def mark (input : Input) (marks : UInt32) : Input :=
  { input with marks := input.marks ||| marks }

end Input

/-! ## Chunks -/

def blockLength : Nat := 64

def chunkLength : Nat := 1024

def blocks (bytes : List UInt8) : List (List UInt8) :=
  if blockLength < bytes.length then
    bytes.take blockLength :: blocks (bytes.drop blockLength)
  else [bytes]
termination_by bytes.length
decreasing_by simp [blockLength, List.length_drop] at *; omega

def wordsOf (block : List UInt8) : Words 16 :=
  Vector.ofFn fun place =>
    UInt32.ofNat (LittleEndian.decode ((block.drop (4 * place.val)).take 4))

/-- Compress all blocks of a chunk but the last, which is left as the input of its compression. -/
def chain (counter : Nat) (chaining : Words 8) (marks : UInt32) :
    List UInt8 → List (List UInt8) → Input
  | block, [] => ⟨chaining, wordsOf block, counter, block.length, marks ||| chunkEnd⟩
  | block, next :: rest =>
    let input : Input := ⟨chaining, wordsOf block, counter, block.length, marks⟩
    chain counter input.compress 0 next rest

def chunk (counter : Nat) (bytes : List UInt8) : Input :=
  match blocks bytes with
  | [] => chain counter initial chunkStart [] []
  | first :: rest => chain counter initial chunkStart first rest

/-! ## Tree -/

/-- How many chunks lie on the left side of a tree: the greatest power of two that leaves
something for the right side. -/
def leftChunks (length : Nat) : Nat :=
  Nat.pow 2 ((length - 1) / chunkLength).log2

theorem leftChunks_lt {length : Nat} (long : chunkLength < length) :
    leftChunks length * chunkLength < length := by
  have positive : (length - 1) / chunkLength ≠ 0 := by
    simp only [chunkLength] at *
    omega
  have bound : leftChunks length ≤ (length - 1) / chunkLength := Nat.log2_self_le positive
  have scaled := Nat.mul_le_mul_right chunkLength bound
  have whole := Nat.div_mul_le_self (length - 1) chunkLength
  omega

theorem leftChunks_pos (length : Nat) : 0 < leftChunks length :=
  Nat.two_pow_pos _

def parent (left right : Words 8) : Input :=
  ⟨initial, left ++ right, 0, blockLength, parentMark⟩

/-- The last compression of the tree over bytes whose first chunk has the place `counter`. -/
def tree (counter : Nat) (bytes : List UInt8) : Input :=
  if chunkLength < bytes.length then
    let left := leftChunks bytes.length
    parent (tree counter (bytes.take (left * chunkLength))).compress
      (tree (counter + left) (bytes.drop (left * chunkLength))).compress
  else chunk counter bytes
termination_by bytes.length
decreasing_by
  · have := leftChunks_lt ‹chunkLength < bytes.length›
    rw [List.length_take]
    omega
  · have := Nat.mul_pos (leftChunks_pos bytes.length) (show 0 < chunkLength by decide)
    rw [List.length_drop]
    omega

def hash (bytes : List UInt8) : List UInt8 :=
  ((tree 0 bytes).mark rootMark).compress.toList.flatMap fun word =>
    LittleEndian.encode 4 word.toNat

end SignalReplay.Blake3
