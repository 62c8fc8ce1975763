/-
# Windchest.Digest.Tree -- the 256-bit tree hash of a byte string

A byte string is cut into chunks of 1024 bytes, each chunk into blocks of 64.  The
chaining value of a chunk runs through its blocks; the values of two neighbouring
subtrees are joined by one more compression, the left subtree being the largest
power of two of chunks that leaves the right one something.  The last compression
carries the root flag, and its first eight words are the digest.
-/
import Windchest.Bytes

namespace Windchest.Tree

set_option autoImplicit false

/-- The initial chaining value. -/
def initial : Vector UInt32 8 :=
  #v[0x6A09E667, 0xBB67AE85, 0x3C6EF372, 0xA54FF53A, 0x510E527F, 0x9B05688C, 0x1F83D9AB, 0x5BE0CD19]

/-- The first block of a chunk. -/
def chunkStart : UInt32 := 1
/-- The last block of a chunk. -/
def chunkEnd : UInt32 := 2
/-- A node above two subtrees. -/
def parent : UInt32 := 4
/-- The top of the tree. -/
def root : UInt32 := 8

/-- Rotation to the right by `n` places, `0 < n < 32`. -/
def rotate (x n : UInt32) : UInt32 := (x >>> n) ||| (x <<< (32 - n))

/-- Mixes two message words into four words of the state. -/
def mix (v : Vector UInt32 16) (a b c d : Fin 16) (x y : UInt32) : Vector UInt32 16 :=
  let va := v[a] + v[b] + x
  let vd := rotate (v[d] ^^^ va) 16
  let vc := v[c] + vd
  let vb := rotate (v[b] ^^^ vc) 12
  let va := va + vb + y
  let vd := rotate (vd ^^^ va) 8
  let vc := vc + vd
  let vb := rotate (vb ^^^ vc) 7
  (((v.set a va).set b vb).set c vc).set d vd

/-- One round: the columns of the state, then its diagonals. -/
def round (v m : Vector UInt32 16) : Vector UInt32 16 :=
  let v := mix v 0 4 8 12 m[0] m[1]
  let v := mix v 1 5 9 13 m[2] m[3]
  let v := mix v 2 6 10 14 m[4] m[5]
  let v := mix v 3 7 11 15 m[6] m[7]
  let v := mix v 0 5 10 15 m[8] m[9]
  let v := mix v 1 6 11 12 m[10] m[11]
  let v := mix v 2 7 8 13 m[12] m[13]
  mix v 3 4 9 14 m[14] m[15]

/-- The message words as the next round takes them. -/
def permute (m : Vector UInt32 16) : Vector UInt32 16 :=
  #v[m[2], m[6], m[3], m[10], m[7], m[0], m[4], m[13], m[1], m[11], m[12], m[5], m[9], m[14], m[15], m[8]]

/-- `n` rounds. -/
def rounds : Nat → Vector UInt32 16 → Vector UInt32 16 → Vector UInt32 16
  | 0, v, _ => v
  | n + 1, v, m => rounds n (round v m) (permute m)

/-- The input of one compression. -/
structure Node where
  chaining : Vector UInt32 8
  words : Vector UInt32 16
  counter : Nat
  length : Nat
  flags : UInt32

/-- The compression, with further flags. -/
def Node.compress (n : Node) (flags : UInt32) : Vector UInt32 8 :=
  let cv := n.chaining
  let start : Vector UInt32 16 :=
    #v[cv[0], cv[1], cv[2], cv[3], cv[4], cv[5], cv[6], cv[7],
      initial[0], initial[1], initial[2], initial[3],
      UInt32.ofNat n.counter, UInt32.ofNat (n.counter >>> 32), UInt32.ofNat n.length, n.flags ||| flags]
  let v := rounds 7 start n.words
  Vector.ofFn fun i : Fin 8 => v[i.val] ^^^ v[i.val + 8]

/-- The sixteen words of a block, zeros filling it up. -/
def blockWords (block : Bytes) : Vector UInt32 16 :=
  let padded := (block ++ List.replicate (64 - block.length) 0).toArray
  Vector.ofFn fun i : Fin 16 =>
    UInt32.ofNat (Bytes.toNat ((List.range 4).map fun k => padded.getD (4 * i.val + k) 0))

/-- The last compression of a chunk, whose first blocks are run through.  `blocks` bounds how
many blocks there are. -/
def chunk (counter : Nat) (bytes : Bytes) : Node :=
  go 16 initial chunkStart bytes
where
  /-- Goes on from a chaining value; `flags` marks the block at hand. -/
  go : Nat → Vector UInt32 8 → UInt32 → Bytes → Node
    | 0, cv, flags, block => ⟨cv, blockWords block, counter, block.length, flags ||| chunkEnd⟩
    | blocks + 1, cv, flags, bytes =>
      let block := bytes.take 64
      let rest := bytes.drop 64
      if rest.isEmpty then ⟨cv, blockWords block, counter, block.length, flags ||| chunkEnd⟩
      else
        let node : Node := ⟨cv, blockWords block, counter, block.length, flags⟩
        go blocks (node.compress 0) 0 rest

/-- The node above two subtrees. -/
def join (left right : Vector UInt32 8) : Node :=
  ⟨initial, left ++ right, 0, 64, parent⟩

/-- The top node of the tree over the bytes, whose first chunk has the given number. -/
def top (counter : Nat) (bytes : Bytes) : Node :=
  if bytes.length ≤ 1024 then chunk counter bytes
  else
    let chunks := 1 <<< Nat.log2 ((bytes.length - 1) / 1024)
    let left := bytes.take (1024 * chunks)
    let right := bytes.drop (1024 * chunks)
    join ((top counter left).compress 0) ((top (counter + chunks) right).compress 0)
termination_by bytes.length
decreasing_by
  all_goals
    have room : (bytes.length - 1) / 1024 ≠ 0 := by omega
    have below := Nat.log2_self_le room
    have positive : 0 < 2 ^ Nat.log2 ((bytes.length - 1) / 1024) := Nat.two_pow_pos _
    simp only [List.length_take, List.length_drop, Nat.one_shiftLeft]
    omega

/-- The 32 bytes of the digest of a byte string. -/
def digest (bytes : Bytes) : Bytes :=
  ((top 0 bytes).compress root).toList.flatMap fun w => Bytes.ofNat 4 w.toNat

end Windchest.Tree
