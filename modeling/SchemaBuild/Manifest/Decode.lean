import SchemaBuild.Manifest
import SchemaBuild.Toml.Document

/-!
# Reading manifests

The content of a manifest out of the values of a document. Keys that a manifest does not know are
ignored. A table may also be written as the array of its values in the order of its keys; then
all of them have to be there, but for those at the end that have a default.
-/

namespace SchemaBuild.Manifest

open Toml (Value)

/-! ## Values of the expected types -/

/-- A text. A date or a time counts as its text. -/
def readString? : Value → Option String
  | .string text => some text
  | .moment text => some text
  | _ => none

def readBoolean? : Value → Option Bool
  | .boolean value => some value
  | _ => none

def readStrings? : Value → Option (List String)
  | .array items => items.mapM readString?
  | _ => none

def readVersion? : Value → Option Nat
  | .integer value => if 0 ≤ value && value < Int.pow 2 32 then some value.toNat else none
  | _ => none

def optional {α : Type} (read : Value → Option α) (entries : List (String × Value))
    (key : String) : Option (Option α) :=
  match entries.lookup key with
  | none => some none
  | some value => (read value).map some

def listOrEmpty (entries : List (String × Value)) (key : String) : Option (List String) :=
  (optional readStrings? entries key).map fun found => found.getD []

/-! ## Tables -/

/-- A table as its entries. An array stands for the table with the given keys in its order. At
most so many keys may be missing at the end as the table has defaults there. -/
def readTable? (keys : List String) (defaults : Nat) : Value → Option (List (String × Value))
  | .table entries => some entries
  | .array items =>
      if items.length ≤ keys.length && keys.length ≤ items.length + defaults then
        some (keys.zip items)
      else none
  | _ => none

def toolchainNames : List String := ["xsdc", "driver", "gen_dir"]

def readToolchain? (value : Value) : Option ToolchainKeys := do
  let entries ← readTable? toolchainNames 0 value
  some {
    xsdc := ← optional readString? entries "xsdc"
    driver := ← optional readString? entries "driver"
    genDir := ← optional readString? entries "gen_dir" }

def declarationNames : List String := [
  "name", "srcs", "include_files", "package_name", "gen_writer", "enums_only", "parser_only",
  "boolean_getter", "tinyxml", "nullability", "gen_has", "root_elements"]

def readFlags? (entries : List (String × Value)) : Option DeclaredFlags := do
  some {
    genWriter := ← optional readBoolean? entries "gen_writer"
    enumsOnly := ← optional readBoolean? entries "enums_only"
    parserOnly := ← optional readBoolean? entries "parser_only"
    booleanGetter := ← optional readBoolean? entries "boolean_getter"
    tinyxml := ← optional readBoolean? entries "tinyxml"
    nullability := ← optional readBoolean? entries "nullability"
    genHas := ← optional readBoolean? entries "gen_has" }

/-- A declaration. Its name is the only key that has to be there. -/
def readDeclaration? (value : Value) : Option Declaration := do
  let entries ← readTable? declarationNames 1 value
  some {
    name := ← readString? (← entries.lookup "name")
    srcs := ← listOrEmpty entries "srcs"
    includeFiles := ← listOrEmpty entries "include_files"
    packageName := ← optional readString? entries "package_name"
    flags := ← readFlags? entries
    rootElements := ← listOrEmpty entries "root_elements" }

def readDeclarations? : Value → Option (List Declaration)
  | .array items => items.mapM readDeclaration?
  | _ => none

/-- The content of a manifest. Its version is the only key that has to be there. -/
def ofEntries? (entries : List (String × Value)) : Option Manifest := do
  some {
    version := ← readVersion? (← entries.lookup "version")
    toolchainKeys := ← optional readToolchain? entries "toolchain"
    declarations := (← optional readDeclarations? entries "xsd_config").getD [] }

/-- The manifest that a text spells. The text has to be a document as a whole, then its values
have to have the expected types, and then its content has to be accepted. -/
def parse (text : String) : Except ManifestError Manifest :=
  match (Toml.parse? text).bind ofEntries? with
  | none => .error .syntactic
  | some manifest => manifest.validate

end SchemaBuild.Manifest
