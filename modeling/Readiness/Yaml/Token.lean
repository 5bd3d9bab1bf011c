import Readiness.Text.Basic

/-!
# Tokens

What a YAML text is made of. Indentation and the keys of mappings are made explicit here: blocks have a start and an
end, and a key is announced, although in the text it shows only by the colon after it.
-/
namespace Readiness.Yaml

/-- A line starting with `%`. -/
inductive Directive
  | version (major : Nat)
  | handle (name : String) (expansion : String)
  | other
deriving DecidableEq, Repr

inductive Token
  | directive (d : Directive)
  | documentStart
  | documentEnd
  | streamEnd
  | blockSequenceStart
  | blockMappingStart
  | blockEnd
  | flowSequenceStart
  | flowSequenceEnd
  | flowMappingStart
  | flowMappingEnd
  | flowEntry
  | blockEntry
  | key
  | value
  /-- A name that stands for the node it was given to. -/
  | mention (name : String)
  | anchor (name : String)
  | tag (handle : Option String) (suffix : String)
  | scalar (text : Text) (plain : Bool)
deriving DecidableEq, Repr

end Readiness.Yaml
