import Readiness.Text.Quoted

/-!
# File paths and file trees

How a path is spelled, the bytes by which a system knows it, and why it may not be readable. Any way of reading bytes
under a name will do for loading. The one here knows the files under one directory; what is outside of that is not known:
it has no files, and of directories only those above.
-/
namespace Readiness.Manifest

/-- Why a path cannot be read, in the words of the system. -/
structure FileFault where
  number : Nat
  reason : String
deriving DecidableEq, Repr

namespace FileFault

def missing : FileFault := ⟨2, "No such file or directory"⟩

def notDirectory : FileFault := ⟨20, "Not a directory"⟩

def isDirectory : FileFault := ⟨21, "Is a directory"⟩

def nameTooLong : FileFault := ⟨36, "File name too long"⟩

def message (path : Text) (f : FileFault) : String := s!"[Errno {f.number}] {f.reason}: {Text.displayed path}"

end FileFault

/-- A way to read the bytes of the file that has a name. -/
abbrev Reader := List UInt8 → Except FileFault (List UInt8)

/-! ## Spelling -/

/-- Cut a path at its slashes, without the parts that say nothing. -/
def pathParts {α : Type} [DecidableEq α] (slash dot : α) (path : List α) : List (List α) :=
  (Text.cutAt slash path).filter fun part => part ≠ [] ∧ part ≠ [dot]

/-- The slashes that a path keeps in front: exactly two of them stay, more count as one. -/
def pathRoot (path : Text) : Text :=
  match (path.points.takeWhile (· = ('/' : CodePoint))).length with
  | 0 => ""
  | 2 => "//"
  | _ => "/"

/-- The short spelling of a path: no empty parts, no `.` parts, no slash at the end. Without parts it is the
directory itself. -/
def normalPath (path : Text) : Text :=
  let parts := pathParts ('/' : CodePoint) '.' path.points
  if pathRoot path = "" ∧ parts.isEmpty then "." else pathRoot path ++ .join "/" (parts.map Text.mk)

/-! ## Names -/

/-- Neighbouring halves of characters, of which the first cannot stand in a name. -/
structure NameFault where
  position : Nat
  halves : List CodePoint
deriving DecidableEq

def NameFault.message (f : NameFault) : String := Text.unencodableMessage f.position f.halves

/-- The bytes for one code point. Some halves of characters stand for single bytes that belong to none. -/
def nameBytes? (c : CodePoint) : Option (List UInt8) :=
  match c.char? with
  | some ch => some (String.utf8EncodeChar ch)
  | none => if 0xDC80 ≤ c.val ∧ c.val ≤ 0xDCFF then some [UInt8.ofNat (c.val - 0xDC00)] else none

/-- The bytes by which a system knows a path, the first code point of which has a given place. -/
def systemName (position : Nat) : List CodePoint → Except NameFault (List UInt8)
  | [] => .ok []
  | c :: cs =>
    match nameBytes? c with
    | some bytes => (systemName (position + 1) cs).map (bytes ++ ·)
    | none => .error ⟨position, c :: cs.takeWhile CodePoint.isHalf⟩

/-! ## Trees -/

/-- Files with the parts of their names from the top of the tree. -/
structure FileTree where
  files : List (List (List UInt8) × List UInt8)

namespace FileTree

/-- A name cut at its slashes. -/
def place (name : List UInt8) : List (List UInt8) := pathParts 0x2F 0x2E name

def ofList (files : List (String × List UInt8)) : FileTree :=
  ⟨files.map fun f => (place (f.1.toList.flatMap String.utf8EncodeChar), f.2)⟩

/-- The file at a place. -/
def file? (t : FileTree) (place : List (List UInt8)) : Option (List UInt8) :=
  (t.files.reverse.find? fun f => f.1 = place).map Prod.snd

def isDirectory (t : FileTree) (place : List (List UInt8)) : Bool :=
  place.isEmpty || t.files.any fun f => place.isPrefixOf f.1 && place.length < f.1.length

/-- Go down a path from a directory in the tree, or from one outside of it, and read the file at its end. Parts have at
most 255 bytes. -/
def readFrom (t : FileTree) : Option (List (List UInt8)) → List (List UInt8) → Except FileFault (List UInt8)
  | _, [] => .error .isDirectory
  | none, part :: parts =>
    if part = [0x2E, 0x2E] then readFrom t none parts
    else .error (if 255 < part.length then .nameTooLong else .missing)
  | some place, part :: parts =>
    if part = [0x2E, 0x2E] then
      readFrom t (if place.isEmpty then none else some place.dropLast) parts
    else if 255 < part.length then .error .nameTooLong
    else
      let next := place ++ [part]
      match t.file? next with
      | some bytes => if parts.isEmpty then .ok bytes else .error .notDirectory
      | none => if t.isDirectory next then readFrom t (some next) parts else .error .missing

/-- Read the file of a name. Names past 4095 bytes are refused as they are. -/
def read (t : FileTree) : Reader := fun name =>
  if 4095 < name.length then .error .nameTooLong
  else t.readFrom (if name.head? = some 0x2F then none else some []) (place name)

end FileTree

end Readiness.Manifest
