/-
# Windchest.Proofs.Codec.Blocks -- the program's packing is lawful

What is known of packed caches holds for every lawful packing.  That of the program is one: a
packed stream is one frame of blocks that are stored as they are, so it unpacks to the content
it was made of and nothing in it makes no sense (`unpack_pack`).
-/
import Windchest.Cache.Blocks
import Windchest.Proofs.Codec.Words

namespace Windchest.Blocks

set_option autoImplicit false

/-- A block that is stored as it is unpacks to its content, followed by that of the other blocks
unless it is the last one. -/
theorem unpackBlocks_storedBlock {content : Bytes} (small : content.length ≤ maxBlock)
    (last : Bool) (fuel : Nat) (rest : Bytes) :
    unpackBlocks maxBlock (fuel + 1) (storedBlock last content ++ rest)
      = if last = true then (content, some rest)
        else (content ++ (unpackBlocks maxBlock fuel rest).1, (unpackBlocks maxBlock fuel rest).2) := by
  have bound : maxBlock = 131072 := rfl
  have bit : last.toNat < 2 := last.toNat_lt
  have head : Bytes.toNat (Bytes.ofNat 3 (content.length * 8 + last.toNat))
      = content.length * 8 + last.toNat := Bytes.toNat_ofNat (by omega)
  have front : (storedBlock last content ++ rest).take 3
      = Bytes.ofNat 3 (content.length * 8 + last.toNat) := by
    rw [storedBlock, List.append_assoc]
    exact List.take_left' (Bytes.length_ofNat 3 _)
  have back : (storedBlock last content ++ rest).drop 3 = content ++ rest := by
    rw [storedBlock, List.append_assoc]
    exact List.drop_left' (Bytes.length_ofNat 3 _)
  have long : ¬ (storedBlock last content ++ rest).length < 3 := by
    simp only [storedBlock, List.length_append, Bytes.length_ofNat]
    omega
  have size : (content.length * 8 + last.toNat) / 8 = content.length := by omega
  have kind : (content.length * 8 + last.toNat) / 2 % 4 = 0 := by omega
  have isLast : (content.length * 8 + last.toNat) % 2 = 1 ↔ last = true := by
    cases last <;> simp <;> omega
  have sensible : ¬ (maxBlock < content.length ∨ 2 ≤ 0 ∨ (content ++ rest).length < content.length) := by
    rw [List.length_append]
    omega
  rw [unpackBlocks, if_neg long]
  simp only [front, back, head, size, kind, if_true, if_neg sensible, isLast, List.take_left,
    List.drop_left]

theorem unpackBlocks_blocks (content rest : Bytes) (fuel : Nat)
    (enough : (blocks content).length < fuel) :
    unpackBlocks maxBlock fuel (blocks content ++ rest) = (content, some rest) := by
  induction content using blocks.induct generalizing fuel with
  | case1 content small =>
      obtain ⟨fuel, rfl⟩ := Nat.exists_eq_succ_of_ne_zero (Nat.ne_of_gt (Nat.zero_lt_of_lt enough))
      rw [blocks, if_pos small, unpackBlocks_storedBlock small, if_pos rfl]
  | case2 content large ih =>
      obtain ⟨fuel, rfl⟩ := Nat.exists_eq_succ_of_ne_zero (Nat.ne_of_gt (Nat.zero_lt_of_lt enough))
      have small : (content.take maxBlock).length ≤ maxBlock := List.length_take_le _ _
      rw [blocks, if_neg large] at enough ⊢
      have left : (blocks (content.drop maxBlock)).length < fuel := by
        simp only [storedBlock, List.length_append, Bytes.length_ofNat] at enough
        omega
      rw [List.append_assoc, unpackBlocks_storedBlock small, if_neg Bool.false_ne_true, ih fuel left,
        List.take_append_drop]

/-- **Unpacking undoes packing.** -/
theorem unpack_pack (content : Bytes) : unpack (pack content) = (content, false) := by
  have marked : (pack content).take 4 = Packing.magic := rfl
  have headed : header? ((pack content).drop 4) = some (⟨maxBlock, none⟩, blocks content) := rfl
  have unpacked := unpackBlocks_blocks content [] ((blocks content).length + 1) (Nat.lt_succ_self _)
  rw [List.append_nil] at unpacked
  rw [unpack, unpackFrames, if_neg (not_not.mpr marked), headed]
  simp [unpacked]

end Windchest.Blocks

namespace Windchest.Packing

/-- The program's way to pack is lawful. -/
theorem blocks_lawful : blocks.Lawful where
  marked _ := rfl
  unpack_pack := Blocks.unpack_pack

end Windchest.Packing
