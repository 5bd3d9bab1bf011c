import Readiness.Manifest.FileTree
import Readiness.Manifest.Object

/-!
# Manifest errors

Why a manifest is refused, with the source it came from and, where it can be told, the place of the document.
-/
namespace Readiness.Manifest

open Schema

inductive Detail
  | malformed
  | notMapping (kind : String)
  | object (f : ObjectFault)
  | file (path : Text) (f : FileFault)
  | other (text : Text)
deriving DecidableEq

def Detail.message : Detail → Text
  | .malformed => "invalid YAML"
  | .notMapping kind => s!"expected a mapping, got {kind}"
  | .object .noKind => "document has no kind"
  | .object (.invalid kind r) => "invalid " ++ kind.text ++ s!": {r.message}"
  | .file path f => s!"cannot read file: {f.message path}"
  | .other text => text

/-- The issues of a document that was refused for them. -/
def Detail.issues : Detail → List Issue
  | .object (.invalid _ r) => r.issues
  | _ => []

/-- Where nothing else is said, the source is a text. -/
def unnamedSource : Text := "<string>"

/-- `ManifestError`: why, from what source, and about which document. -/
structure Error where
  detail : Detail
  source : Text := unnamedSource
  /-- Negative where the error is not about one document. -/
  index : Int := -1
deriving DecidableEq

def Error.message (e : Error) : Text :=
  let place := if e.index < 0 then e.source else e.source ++ s!"[{e.index}]"
  place ++ ": " ++ e.detail.message

end Readiness.Manifest
