import SchemaBuild.Schema

/-!
# Manifests

A manifest declares the schema modules of a source tree and the toolchain that compiles them.
Faults of single modules are not found here: they are reported when a declaration is checked, so
that one broken module does not hide the others.
-/

namespace SchemaBuild

structure ToolchainKeys where
  xsdc : Option String := none
  driver : Option String := none
  genDir : Option String := none
  deriving DecidableEq, Repr

structure Toolchain where
  /-- The command of the schema compiler: words with blanks between them. -/
  xsdc : String
  /-- The command by which build files run this program. -/
  driver : String
  /-- The directory for generated files, if it does not follow from where build files go. -/
  genDir : Option String
  deriving DecidableEq, Repr

namespace ToolchainKeys

/-- Put the defaults where nothing is declared. -/
def withDefaults (keys : ToolchainKeys) : Toolchain where
  xsdc := keys.xsdc.getD "xsdc"
  driver := keys.driver.getD "xsd-config"
  genDir := keys.genDir

end ToolchainKeys

structure Manifest where
  version : Nat
  toolchainKeys : Option ToolchainKeys
  declarations : List Declaration
  deriving DecidableEq, Repr

inductive ToolchainKey where
  | xsdc
  | driver
  | genDir
  deriving DecidableEq, Repr

namespace ToolchainKey

def name : ToolchainKey → String
  | .xsdc => "xsdc"
  | .driver => "driver"
  | .genDir => "gen_dir"

end ToolchainKey

inductive ManifestError where
  /-- It is not well formed, or a value does not have the expected type. -/
  | syntactic
  | version (version : Nat)
  | toolchain (key : ToolchainKey)
  deriving DecidableEq, Repr

namespace ManifestError

/-- The message. What is wrong with the form of a text is not told in detail. -/
def message : ManifestError → String
  | .syntactic => "cannot parse manifest: "
  | .version number => "unsupported manifest version " ++ toString number
  | .toolchain key => "invalid toolchain key '" ++ key.name ++ "'"

end ManifestError

namespace ToolchainKeys

/-- The first key whose value is refused, if there is one. The commands are put between quotes in
build files, and the directory starts every output path there. -/
def fault? (keys : ToolchainKeys) : Option ToolchainKey :=
  if !keys.xsdc.all isCommand then some .xsdc
  else if !keys.driver.all isCommand then some .driver
  else if !keys.genDir.all isPlainPath then some .genDir
  else none

end ToolchainKeys

namespace Manifest

def toolchain (manifest : Manifest) : Toolchain :=
  (manifest.toolchainKeys.getD {}).withDefaults

def declaration? (manifest : Manifest) (name : String) : Option Declaration :=
  manifest.declarations.find? fun declaration => declaration.name = name

/-- Accept the content of a manifest: first the version, then the keys of the toolchain. -/
def validate (manifest : Manifest) : Except ManifestError Manifest :=
  if manifest.version ≠ 1 then .error (.version manifest.version)
  else
    match manifest.toolchainKeys.bind ToolchainKeys.fault? with
    | some key => .error (.toolchain key)
    | none => .ok manifest

end Manifest

end SchemaBuild
