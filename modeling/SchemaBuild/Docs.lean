import SchemaBuild.Schema

/-!
# Documentation modules

Every schema module has a documentation module derived from it. It extracts the interface of the
generated Java sources and compares it with the files under `api/`. It is never installed, and it
does not link the framework libraries.
-/

namespace SchemaBuild

def hiddenDiagnostics : List String := [
  "MissingPermission",
  "BroadcastBehavior",
  "HiddenSuperclass",
  "DeprecationMismatch",
  "UnavailableSymbol",
  "SdkConstant",
  "HiddenTypeParameter",
  "Todo",
  "Typo"]

structure ApiFiles where
  api : String
  removed : String
  deriving DecidableEq, Repr

def currentApi : ApiFiles := ⟨"api/current.txt", "api/removed.txt"⟩

def releasedApi : ApiFiles := ⟨"api/last_current.txt", "api/last_removed.txt"⟩

structure DocsModule where
  name : String
  /-- References to the inputs. -/
  srcs : List String
  /-- Arguments for the extractor, in one text. -/
  args : String
  apiFilename : String
  removedApiFilename : String
  current : ApiFiles
  lastReleased : ApiFiles
  installable : Bool
  noFrameworkLibs : Bool
  deriving DecidableEq, Repr

namespace DocsModule

def nameOf (module : String) : String :=
  module ++ "-docs"

/-- The extractor's arguments: the package to document, which may be empty, and the diagnostics
to hide. -/
def extractorArgs (package : String) : String :=
  "--stub-packages " ++ package ++ String.join (hiddenDiagnostics.map (" --hide " ++ ·))

def ofSchema (schema : Schema) : DocsModule where
  name := nameOf schema.name
  srcs := [":" ++ schema.name]
  args := extractorArgs schema.packageOrEmpty
  apiFilename := currentApi.api
  removedApiFilename := currentApi.removed
  current := currentApi
  lastReleased := releasedApi
  installable := false
  noFrameworkLibs := true

/-- The module that a documentation module was derived from: its only input, which is written
after a colon. -/
def parent? (docs : DocsModule) : Option String :=
  match docs.srcs with
  | [source] =>
      match source.toList with
      | ':' :: name => some (String.ofList name)
      | _ => none
  | _ => none

end DocsModule

end SchemaBuild
