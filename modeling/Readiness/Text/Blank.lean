import Readiness.Text.Basic

/-!
# Blanks

Two classes of blanks. White space is the Unicode property of that name; the wider class adds the four
information separators U+001C to U+001F, which text clean-up drops although they are controls.
-/
namespace Readiness.Text

/-- The Unicode property White_Space. -/
def isWhiteSpace (c : Char) : Bool :=
  let n := c.toNat
  (0x09 ≤ n && n ≤ 0x0D) || n == 0x20 || n == 0x85 || n == 0xA0 || n == 0x1680
    || (0x2000 ≤ n && n ≤ 0x200A) || n == 0x2028 || n == 0x2029 || n == 0x202F || n == 0x205F
    || n == 0x3000

/-- White space or an information separator. -/
def isBlank (c : Char) : Bool := isWhiteSpace c || (0x1C ≤ c.toNat && c.toNat ≤ 0x1F)

section

variable {α : Type}

def dropEndWhile (p : α → Bool) (cs : List α) : List α := (cs.reverse.dropWhile p).reverse

/-- Drop what is in a class at both ends. -/
def strip (p : α → Bool) (cs : List α) : List α := dropEndWhile p (cs.dropWhile p)

end

/-- Drop the blanks at the end. -/
def trimEnd (t : Text) : Text := ⟨dropEndWhile (·.isIn isBlank) t.points⟩

end Readiness.Text
