/-!
# Base 64

Lenient decoding: characters outside the alphabet are skipped, a padding that completes a group of four ends
the data, and a group that is left incomplete is a fault.
-/
namespace Readiness.Text.Base64

/-- The six bits of a character of the alphabet. -/
def sextet? (c : Char) : Option Nat :=
  if c.isUpper then some (c.toNat - 0x41)
  else if c.isLower then some (c.toNat - 0x61 + 26)
  else if c.isDigit then some (c.toNat - 0x30 + 52)
  else if c = '+' then some 62
  else if c = '/' then some 63
  else none

/-- The place within a group of four, the bits carried over, and the padding seen since the last letter. -/
structure Group where
  place : Nat := 0
  carry : Nat := 0
  pads : Nat := 0

/-- Take one letter in: the next group and the byte that it completes. -/
def Group.letter (g : Group) (v : Nat) : Group × List UInt8 :=
  match g.place with
  | 0 => (⟨1, v, 0⟩, [])
  | 1 => (⟨2, v % 16, 0⟩, [UInt8.ofNat (g.carry * 4 + v / 16)])
  | 2 => (⟨3, v % 4, 0⟩, [UInt8.ofNat (g.carry * 16 + v / 4)])
  | _ => (⟨0, 0, 0⟩, [UInt8.ofNat (g.carry * 64 + v)])

def decodeFrom (g : Group) : List Char → Option (List UInt8)
  | [] => if g.place = 0 then some [] else none
  | c :: cs =>
    if c = '=' then
      if 2 ≤ g.place ∧ 4 ≤ g.place + g.pads + 1 then some []
      else decodeFrom (if 2 ≤ g.place then { g with pads := g.pads + 1 } else g) cs
    else match sextet? c with
      | none => decodeFrom g cs
      | some v =>
        let (g', bs) := g.letter v
        (decodeFrom g' cs).map (bs ++ ·)

def decode? (s : String) : Option (List UInt8) := decodeFrom {} s.toList

example : decodeFrom {} ['a', 'G', 'k', '='] = some [0x68, 0x69] := by decide

end Readiness.Text.Base64
