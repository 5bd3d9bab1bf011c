import Readiness.Resource.Identity
import Readiness.Text.Lowercase
import Readiness.Text.Uppercase

/-!
# Defaults

Settings that the environment may override. They are computed once, at the first read, and then stay as they are
until they are reset, however the environment changes in between.
-/
namespace Readiness

/-- The environment variables that are read. -/
inductive EnvVar
  | apiGroup
  | apiVersion
  | logLevel
  | logFormat
deriving DecidableEq, Repr

def EnvVar.name : EnvVar → String
  | .apiGroup => "SEQUENCE_API_GROUP"
  | .apiVersion => "SEQUENCE_API_VERSION"
  | .logLevel => "LOG_LEVEL"
  | .logFormat => "LOG_FORMAT"

def EnvVar.all : List EnvVar := [.apiGroup, .apiVersion, .logLevel, .logFormat]

/-- The variables that are set; an empty text is a value like any other. -/
abbrev Environment := EnvVar → Option Text

def Environment.empty : Environment := fun _ => none

/-- Set a variable, or unset it. -/
def Environment.set (v : EnvVar) (value : Option Text) (e : Environment) : Environment :=
  fun w => if w = v then value else e w

/-- `ResourceDefaults`: the type of sequences, and the kind of the subscriptions between their stages. -/
structure ResourceDefaults where
  group : Text := "flows.knative.dev"
  version : Text := "v1"
  kind : Text := "Sequence"
  subscriptionKind : Text := "Subscription"
deriving DecidableEq, Repr

namespace ResourceDefaults

/-- `api_version`: group and version with a slash between them, whether or not there is a group. -/
def apiVersion (r : ResourceDefaults) : Text := r.group ++ "/" ++ r.version

/-- `group_version_kind`: the type itself. -/
def groupVersionKind (r : ResourceDefaults) : GroupVersionKind := ⟨r.group, r.version, r.kind⟩

/-- `from_env`: only group and version can be overridden. -/
def ofEnvironment (e : Environment) : ResourceDefaults where
  group := (e .apiGroup).getD "flows.knative.dev"
  version := (e .apiVersion).getD "v1"

end ResourceDefaults

structure LoggingDefaults where
  level : Text := "INFO"
  jsonOutput : Bool := false
deriving DecidableEq, Repr

/-- `from_env`: the level's name goes to upper case; `json` in any case selects structured output. -/
def LoggingDefaults.ofEnvironment (e : Environment) : LoggingDefaults where
  level := Text.upper ((e .logLevel).getD "INFO")
  jsonOutput := Text.lower ((e .logFormat).getD "") = "json"

structure Defaults where
  resource : ResourceDefaults := {}
  logging : LoggingDefaults := {}
deriving DecidableEq, Repr

def Defaults.ofEnvironment (e : Environment) : Defaults := ⟨.ofEnvironment e, .ofEnvironment e⟩

/-- The environment, and the defaults that were computed from it since the last reset. -/
structure Settings where
  environment : Environment := .empty
  cached : Option Defaults := none

namespace Settings

/-- `get_defaults`: the defaults in force. -/
def current (s : Settings) : Defaults := s.cached.getD (.ofEnvironment s.environment)

/-- Settings whose defaults have been read. -/
def read (s : Settings) : Settings := { s with cached := some s.current }

/-- Read the defaults for something. -/
def use {α : Type} (f : Defaults → α) (s : Settings) : α × Settings := (f s.current, s.read)

/-- The type of sequences. -/
def sequenceType (s : Settings) : GroupVersionKind × Settings := s.use (·.resource.groupVersionKind)

/-- `reset_defaults`: the next read computes them anew. -/
def reset (s : Settings) : Settings := { s with cached := none }

def setVar (v : EnvVar) (value : Option Text) (s : Settings) : Settings :=
  { s with environment := s.environment.set v value }

end Settings

end Readiness
