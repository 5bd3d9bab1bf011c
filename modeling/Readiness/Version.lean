/-!
# Version

The version of this library and what it is called.
-/
namespace Readiness.Version

def parts : List Nat := [0, 2, 0]

def text : String := ".".intercalate (parts.map toString)

def buildDate : String := "2026-10-18"

def epoch : Nat := 1

def codename : String := "Sequence Status"

end Readiness.Version
