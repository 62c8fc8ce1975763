/-
# Windchest.Cache.Blocks -- streams packed in blocks

The program's own way to pack.  A packed stream is a row of frames, and a frame a header and
a row of blocks.  A block is stored as it is or as one byte and how often it is repeated.
Packing stores blocks as they are.  Unpacking yields the content up to the first thing it
cannot make sense of, and tells whether there was one.
-/
import Windchest.Cache.Packing

namespace Windchest

set_option autoImplicit false

namespace Blocks

/-- The largest block. -/
def maxBlock : Nat := 131072

/-- The largest window that a frame may ask for. -/
def maxWindow : Nat := 1 <<< 27 + 1

/-- A block that is stored as it is. -/
def storedBlock (last : Bool) (content : Bytes) : Bytes :=
  Bytes.ofNat 3 (content.length * 8 + last.toNat) ++ content

/-- The blocks of a frame. -/
def blocks (content : Bytes) : Bytes :=
  if content.length ≤ maxBlock then storedBlock true content
  else storedBlock false (content.take maxBlock) ++ blocks (content.drop maxBlock)
termination_by content.length
decreasing_by
  have : 0 < maxBlock := by decide
  simp only [List.length_drop]
  omega

/-- The content as a frame. -/
def pack (content : Bytes) : Bytes := Packing.magic ++ [0x00, 0x58] ++ blocks content

/-- What a frame's header tells: the largest block, and the length of the content if it is given. -/
structure Header where
  blockSize : Nat
  length : Option Nat

/-- The bytes of the optional length in a header. -/
def lengthWidth (descriptor : Nat) : Nat :=
  match descriptor / 64 with
  | 0 => if descriptor / 32 % 2 = 1 then 1 else 0
  | 1 => 2
  | 2 => 4
  | _ => 8

/-- The header at the front of the bytes behind the magic, and what follows it. -/
def header? (bytes : Bytes) : Option (Header × Bytes) := do
  let (descriptor, bytes) ← match bytes with
    | b :: rest => some (b.toNat, rest)
    | [] => none
  let single := descriptor / 32 % 2 = 1
  -- Frames with a reserved flag, a checksum or a dictionary are of another kind.
  guard (descriptor / 4 % 4 = 0 ∧ descriptor % 4 = 0)
  let (window, bytes) ←
    if single then some (none, bytes)
    else
      match bytes with
      | b :: rest =>
        let base := 1 <<< (10 + b.toNat / 8)
        some (some (base + base / 8 * (b.toNat % 8)), rest)
      | [] => none
  let width := lengthWidth descriptor
  guard (width ≤ bytes.length)
  let stored := Bytes.toNat (bytes.take width) + (if width = 2 then 256 else 0)
  let length := if width = 0 then none else some stored
  let size := window.getD stored
  guard (size ≤ maxWindow)
  return (⟨min size maxBlock, length⟩, bytes.drop width)

/-- The content of the blocks at the front of the bytes, and what follows the last of them unless
something makes no sense.  `fuel` bounds the blocks. -/
def unpackBlocks (size : Nat) : Nat → Bytes → Bytes × Option Bytes
  | 0, _ => ([], none)
  | fuel + 1, bytes =>
    if bytes.length < 3 then ([], none)
    else
      let head := Bytes.toNat (bytes.take 3)
      let bytes := bytes.drop 3
      let length := head / 8
      let kind := head / 2 % 4
      let taken := if kind = 0 then length else 1
      if size < length ∨ 2 ≤ kind ∨ bytes.length < taken then ([], none)
      else
        let content := if kind = 0 then bytes.take length else List.replicate length (bytes.headD 0)
        let rest := bytes.drop taken
        if head % 2 = 1 then (content, some rest)
        else
          let (more, rest) := unpackBlocks size fuel rest
          (content ++ more, rest)

/-- The content of the frames at the front of the bytes, and whether something makes no sense.
`fuel` bounds the frames. -/
def unpackFrames : Nat → Bytes → Bytes × Bool
  | 0, _ => ([], true)
  | fuel + 1, bytes =>
    if bytes.take 4 ≠ Packing.magic then ([], true)
    else
      match header? (bytes.drop 4) with
      | none => ([], true)
      | some (header, bytes) =>
        match unpackBlocks header.blockSize (bytes.length + 1) bytes with
        | (content, none) => (content, true)
        | (content, some rest) =>
          if header.length.any (· ≠ content.length) then (content, true)
          else if rest.isEmpty then (content, false)
          else
            let (more, broken) := unpackFrames fuel rest
            (content ++ more, broken)

/-- The content of a packed stream up to the first thing that makes no sense, and whether there
was one. -/
def unpack (bytes : Bytes) : Bytes × Bool := unpackFrames (bytes.length + 1) bytes

end Blocks

/-- The packing of the program. -/
def Packing.blocks : Packing where
  pack := Blocks.pack
  -- Nothing is put out before the stream is finished.
  begun _ := []
  unpack := Blocks.unpack

end Windchest
