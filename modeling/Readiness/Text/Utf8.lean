/-!
# UTF-8

Decoding of bytes, with the place and the reason of the first fault. Overlong forms, surrogates and code points
past U+10FFFF are refused at the byte that gives them away.
-/
namespace Readiness.Text

/-- The first bytes of a sequence that cannot be completed. -/
structure Utf8Fault where
  position : Nat
  bytes : List UInt8
  reason : String
deriving DecidableEq, Repr

namespace Utf8

def isContinuation (b : UInt8) : Bool := 0x80 ≤ b && b < 0xC0

/-- What the first byte announces: the bytes that follow it, and the range that the second one lies in. -/
structure Lead where
  following : Nat
  secondFrom : UInt8
  secondTo : UInt8

def lead? (b : UInt8) : Option Lead :=
  if b < 0x80 then some ⟨0, 0x80, 0xBF⟩
  else if b < 0xC2 then none
  else if b < 0xE0 then some ⟨1, 0x80, 0xBF⟩
  else if b = 0xE0 then some ⟨2, 0xA0, 0xBF⟩
  else if b = 0xED then some ⟨2, 0x80, 0x9F⟩
  else if b < 0xF0 then some ⟨2, 0x80, 0xBF⟩
  else if b = 0xF0 then some ⟨3, 0x90, 0xBF⟩
  else if b < 0xF4 then some ⟨3, 0x80, 0xBF⟩
  else if b = 0xF4 then some ⟨3, 0x80, 0x8F⟩
  else none

/-- The bytes after the first one that fit what it announces. -/
def fitting (l : Lead) : List UInt8 → List UInt8
  | [] => []
  | b :: rest =>
    if l.following = 0 then []
    else if l.secondFrom ≤ b && b ≤ l.secondTo then
      b :: (rest.take (l.following - 1)).takeWhile isContinuation
    else []

/-- The code point of a complete sequence. -/
def codePoint (first : UInt8) (l : Lead) (tail : List UInt8) : Nat :=
  let high := match l.following with
    | 0 => first.toNat
    | 1 => first.toNat % 0x20
    | 2 => first.toNat % 0x10
    | _ => first.toNat % 0x08
  tail.foldl (fun n b => n * 0x40 + b.toNat % 0x40) high

/-- One step of decoding: a character and the number of its bytes, or the fault at this place. -/
def step (position : Nat) (first : UInt8) (rest : List UInt8) : Except Utf8Fault (Char × Nat) :=
  match lead? first with
  | none => .error ⟨position, [first], "invalid start byte"⟩
  | some l =>
    let tail := fitting l rest
    if tail.length = l.following then .ok (Char.ofNat (codePoint first l tail), l.following)
    else
      let reason := if tail.length = rest.length then "unexpected end of data"
        else "invalid continuation byte"
      .error ⟨position, first :: tail, reason⟩

/-- The fuel is the number of bytes that are left. -/
def decodeFrom : Nat → Nat → List UInt8 → Except Utf8Fault (List Char)
  | 0, _, _ => .ok []
  | _, _, [] => .ok []
  | fuel + 1, position, b :: rest => do
    let (c, n) ← step position b rest
    let cs ← decodeFrom fuel (position + 1 + n) (rest.drop n)
    pure (c :: cs)

end Utf8

def decodeUtf8 (bs : List UInt8) : Except Utf8Fault String :=
  (Utf8.decodeFrom bs.length 0 bs).map String.ofList

/-- The bytes that a sequence with a fault spans, as a message names them. -/
def Utf8Fault.place (f : Utf8Fault) : String :=
  match f.bytes with
  | [b] =>
    let hex := String.ofList [(b.toNat / 16).digitChar, (b.toNat % 16).digitChar]
    s!"byte 0x{hex} in position {f.position}"
  | bs => s!"bytes in position {f.position}-{f.position + bs.length - 1}"

def Utf8Fault.message (f : Utf8Fault) : String :=
  s!"'utf-8' codec can't decode {f.place}: {f.reason}"

/-- Faults of data that are checked as a whole, where the kind of fault is not told apart. -/
def Utf8Fault.coarse (f : Utf8Fault) : Utf8Fault := { f with reason := "invalid utf-8" }

end Readiness.Text
