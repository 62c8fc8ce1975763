/-
# Windchest.Text.Repaired -- text from bytes that need not spell one

Bytes that spell a text in UTF-8 give that text.  Elsewhere every longest start of a
character, and every byte that starts none, becomes one replacement character.
-/
import Windchest.Bytes

namespace Windchest.Text

set_option autoImplicit false

/-- A character of which some bytes are known. -/
structure Partial where
  /-- What the bytes so far contribute to the code point. -/
  value : Nat
  /-- How many bytes are missing. -/
  missing : Nat
  /-- The bounds of the next byte. -/
  low : Nat := 0x80
  high : Nat := 0xbf
deriving DecidableEq, Repr

/-- What a byte starts: a character of its own, or a longer one; or nothing. -/
def startOf? (b : Nat) : Option (Char ⊕ Partial) :=
  if b < 0x80 then some (.inl (Char.ofNat b))
  else if 0xc2 ≤ b ∧ b ≤ 0xdf then some (.inr { value := b - 0xc0, missing := 1 })
  else if b = 0xe0 then some (.inr { value := 0, missing := 2, low := 0xa0 })
  else if b = 0xed then some (.inr { value := 0xd, missing := 2, high := 0x9f })
  else if 0xe1 ≤ b ∧ b ≤ 0xef then some (.inr { value := b - 0xe0, missing := 2 })
  else if b = 0xf0 then some (.inr { value := 0, missing := 3, low := 0x90 })
  else if b = 0xf4 then some (.inr { value := 4, missing := 3, high := 0x8f })
  else if 0xf1 ≤ b ∧ b ≤ 0xf3 then some (.inr { value := b - 0xf0, missing := 3 })
  else none

/-- What stands for bytes that spell no character. -/
def replacement : Char := '\ufffd'

/-- The characters of bytes, behind those of a character that has been started. -/
def repairFrom : Option Partial → Bytes → List Char
  | none, [] => []
  | some _, [] => [replacement]
  | pending, b :: rest =>
    let b := b.toNat
    let begin (front : List Char) : List Char :=
      match startOf? b with
      | none => front ++ replacement :: repairFrom none rest
      | some (.inl c) => front ++ c :: repairFrom none rest
      | some (.inr p) => front ++ repairFrom (some p) rest
    match pending with
    | none => begin []
    | some p =>
      if p.low ≤ b ∧ b ≤ p.high then
        let value := p.value * 64 + (b - 0x80)
        if p.missing ≤ 1 then Char.ofNat value :: repairFrom none rest
        else repairFrom (some { value, missing := p.missing - 1 }) rest
      else begin [replacement]

/-- The text of bytes, with replacement characters where they spell none. -/
def repaired (bytes : Bytes) : String := String.ofList (repairFrom none bytes)

end Windchest.Text
