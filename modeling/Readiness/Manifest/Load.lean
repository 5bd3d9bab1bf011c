import Readiness.Log.Journal
import Readiness.Manifest.Documents
import Readiness.Manifest.Error
import Readiness.Text.Utf8

/-!
# Loading manifests

From a text or a file to the objects in it. Everything that is wrong with a manifest is an error with a source,
apart from scalars without a value, numbers that are too long to be named, lists without an end, bytes that are no
text, and paths that no system can name.
-/
namespace Readiness.Manifest

open Log

/-- Why loading fails. -/
inductive Failure
  | manifest (e : Error)
  | scalar (f : Yaml.ScalarFault)
  /-- The kind of a document that is refused is a number of too many digits. -/
  | tooManyDigits
  | endless
  | undecodable (f : Text.Utf8Fault)
  | unnameable (f : NameFault)
  | nullInPath
deriving DecidableEq

/-- The words on a path that no system can name, for U+0000 ends a path. -/
def nullInPathMessage : String := "embedded null byte"

/-- `load_documents`: the documents of a text: the leaves of what it holds. -/
def loadDocuments (text source : Text) : Except Failure (List Entries) :=
  match Yaml.documents text with
  | .error .malformed => .error (.manifest { detail := .malformed, source := source })
  | .error (.scalar f) => .error (.scalar f)
  | .ok vs =>
    match leavesOfAll 0 vs with
    | .ok docs => .ok docs
    | .error (.notMapping i kind) =>
      .error (.manifest { detail := .notMapping kind, source := source, index := i })
    | .error .endless => .error .endless

/-- What a fault of a document comes to, which is named by its kind. -/
def ObjectFault.failure (f : ObjectFault) (source : Text) (index : Int) : Failure :=
  match f with
  | .noKind => .manifest ⟨.object f, source, index⟩
  | .invalid kind _ => if kind.text?.isNone then .tooManyDigits else .manifest ⟨.object f, source, index⟩

/-- `parse_object`: read a document as the object that its kind says. -/
def parseObject (r : ResourceDefaults) (es : Entries) (source : Text) (index : Int) :
    Except Failure Object :=
  match readObject r es with
  | .ok o => .ok o
  | .error f => .error (f.failure source index)

/-- Read a document by the defaults in force. A document without a kind is refused before they are looked at. -/
def parse (s : Settings) (es : Entries) (source : Text) (index : Int) :
    Except Failure Object × Settings :=
  match kind? es with
  | none => (.error (.manifest ⟨.object .noKind, source, index⟩), s)
  | some _ => s.use fun d => parseObject d.resource es source index

/-- Read documents one after another, the first of which has a given place. -/
def parseAll (r : ResourceDefaults) (source : Text) : Nat → List Entries → Except Failure (List Object)
  | _, [] => .ok []
  | i, d :: ds => do
    let o ← parseObject r d source i
    let os ← parseAll r source (i + 1) ds
    pure (o :: os)

/-- `load_text`: the objects in a text. -/
def loadText (r : ResourceDefaults) (text source : Text) : Except Failure Bundle := do
  let docs ← loadDocuments text source
  let os ← parseAll r source 0 docs
  pure (.ofList os)

/-- All ends of lines become U+000A. -/
def plainLineEnds : List Char → List Char
  | '\r' :: '\n' :: cs => '\n' :: plainLineEnds cs
  | '\r' :: cs => '\n' :: plainLineEnds cs
  | c :: cs => c :: plainLineEnds cs
  | [] => []

/-- The text of the file at a path. -/
def fileText (read : Reader) (path : Text) : Except Failure String :=
  let source := normalPath path
  match systemName 0 source.points with
  | .error f => .error (.unnameable f)
  | .ok name =>
    if ('\x00' : CodePoint) ∈ source.points then .error .nullInPath else
    match read name with
    | .error f => .error (.manifest { detail := .file source f, source := source })
    | .ok bytes =>
      match Text.decodeUtf8 bytes with
      | .ok s => .ok (String.ofList (plainLineEnds s.toList))
      | .error f => .error (.undecodable f)

/-- `load_file`: the objects in a file. -/
def loadFile (r : ResourceDefaults) (read : Reader) (path : Text) : Except Failure Bundle := do
  let text ← fileText read path
  loadText r text (normalPath path)

/-- Logs what was loaded. -/
def loadLogger : Logger := ⟨"services.manifest_service", some .loader⟩

/-- Log that the objects of a source were loaded. -/
def logLoaded (b : Bundle) (source : Text) (j : Journal) : Journal :=
  j.log loadLogger Level.debug (s!"Loaded {b.size} objects from " ++ source) [
    (.str "sequences", .int b.sequences.length),
    (.str "channels", .int b.channels.length),
    (.str "subscriptions", .int b.subscriptions.length)]

/-- What was loaded from a source, with the journal in which that is noted. A failure is not noted. -/
def noted (loaded : Except Failure Bundle) (source : Text) (j : Journal) :
    Except Failure (Bundle × Journal) :=
  loaded.map fun b => (b, logLoaded b source j)

def loadTextNoted (r : ResourceDefaults) (text source : Text) (j : Journal) :
    Except Failure (Bundle × Journal) :=
  noted (loadText r text source) source j

def loadFileNoted (r : ResourceDefaults) (read : Reader) (path : Text) (j : Journal) :
    Except Failure (Bundle × Journal) :=
  noted (loadFile r read path) (normalPath path) j

end Readiness.Manifest
