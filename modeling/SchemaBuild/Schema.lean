import SchemaBuild.Flags
import SchemaBuild.Naming
import SchemaBuild.Text.Quoted

/-!
# Schema modules

A declaration is a module as the manifest spells it. Checking it gives a schema module, whose
type holds every rule that the other parts rely on, or says which property is at fault. The
rules are checked in a fixed order and the first fault is reported.
-/

namespace SchemaBuild

/-- A module as it is declared, with nothing checked but its types. -/
structure Declaration where
  name : String
  srcs : List String := []
  includeFiles : List String := []
  packageName : Option String := none
  flags : DeclaredFlags := .fill none
  rootElements : List String := []
  deriving DecidableEq, Repr, Inhabited

/-! ## Faults -/

inductive PropertyFault where
  | name (value : String)
  | sourceCount (sources : List String)
  | source (path : String)
  | includeFile (path : String)
  | package (value : String)
  | rootElement (value : String)
  | bothRestrictions
  | packageMissing
  deriving DecidableEq, Repr

namespace PropertyFault

def field : PropertyFault → String
  | .name _ => "name"
  | .sourceCount _ => "srcs"
  | .source _ => "srcs"
  | .includeFile _ => "include_files"
  | .package _ => "package_name"
  | .rootElement _ => "root_elements"
  | .bothRestrictions => "parser_only"
  | .packageMissing => "package_name"

def value : PropertyFault → String
  | .name value => Text.quoted value
  | .sourceCount sources => Text.quotedList sources
  | .source path => Text.quoted path
  | .includeFile path => Text.quoted path
  | .package value => Text.quoted value
  | .rootElement value => Text.quoted value
  | .bothRestrictions => "true"
  | .packageMissing => "None"

def reason : PropertyFault → String
  | .name _ => "must be a non-empty identifier"
  | .sourceCount _ => "must have exactly one source"
  | .source _ => "must be a path without whitespace, quotes or '$'"
  | .includeFile _ => "must be a path without whitespace, quotes or '$'"
  | .package _ => "must be a dot-separated package name"
  | .rootElement _ => "must be a non-empty element name without quotes"
  | .bothRestrictions => "conflicts with 'enums_only'"
  | .packageMissing => "is required to generate sources"

end PropertyFault

structure PropertyError where
  module : String
  fault : PropertyFault
  deriving DecidableEq, Repr

namespace PropertyError

def message (error : PropertyError) : String :=
  "module '" ++ error.module ++ "': property '" ++ error.fault.field ++ "' " ++
    error.fault.reason ++ ", got " ++ error.fault.value

end PropertyError

/-! ## Distinct elements -/

/-- The elements of a list, each at its first place. -/
def firstOccurrences : List String → List String
  | [] => []
  | element :: rest => element :: (firstOccurrences rest).filter (· ≠ element)

theorem mem_firstOccurrences {element : String} {elements : List String} :
    element ∈ firstOccurrences elements ↔ element ∈ elements := by
  induction elements with
  | nil => simp [firstOccurrences]
  | cons head tail induction =>
      by_cases equal : element = head <;> simp [firstOccurrences, induction, equal]

theorem nodup_firstOccurrences (elements : List String) :
    (firstOccurrences elements).Nodup := by
  induction elements with
  | nil => simp [firstOccurrences]
  | cons head tail induction =>
      simp only [firstOccurrences, List.nodup_cons]
      exact ⟨by simp, induction.filter _⟩

/-! ## Checked modules -/

/-- A schema module whose declaration was found to follow every rule. -/
structure Schema where
  name : String
  source : String
  includes : List String
  package? : Option String
  flags : Flags
  rootElements : List String
  name_isIdentifier : isIdentifier name = true
  source_isPlainPath : isPlainPath source = true
  includes_arePlainPaths : ∀ path ∈ includes, isPlainPath path = true
  package_isPackageName : ∀ package ∈ package?, isPackageName package = true
  rootElements_areElementNames : ∀ element ∈ rootElements, isElementName element = true
  rootElements_nodup : rootElements.Nodup
  flags_compatible : (flags.enumsOnly && flags.parserOnly) = false
  deriving DecidableEq

namespace Schema

def packageOrEmpty (schema : Schema) : String :=
  schema.package?.getD ""

def files (schema : Schema) : List String :=
  schema.source :: schema.includes

def toDeclaration (schema : Schema) : Declaration where
  name := schema.name
  srcs := [schema.source]
  includeFiles := schema.includes
  packageName := schema.package?
  flags := schema.flags.map some
  rootElements := schema.rootElements

end Schema

namespace Declaration

def firstRefused (check : String → Bool) (texts : List String)
    (fault : String → PropertyFault) :
    Except PropertyFault (PLift (∀ text ∈ texts, check text = true)) :=
  match found : texts.find? (fun text => !check text) with
  | some text => .error (fault text)
  | none => .ok ⟨by simpa using List.find?_eq_none.1 found⟩

theorem firstRefused_cases (check : String → Bool) (texts : List String)
    (fault : String → PropertyFault) :
    ((∀ text ∈ texts, check text = true) ∧
        ∃ accepted, firstRefused check texts fault = .ok accepted) ∨
      ∃ text, texts.find? (fun text => !check text) = some text ∧
        firstRefused check texts fault = .error (fault text) := by
  unfold firstRefused
  split
  next text found => exact .inr ⟨text, found, rfl⟩
  next found => exact .inl ⟨by simpa using List.find?_eq_none.1 found, _, rfl⟩

/-- Check the rules in their order: the name, the number of sources, the source, the included
files, the package name, the root elements, and at last the two restrictions that together would
leave nothing to generate. -/
def findFault (declaration : Declaration) : Except PropertyFault Schema := do
  if isName : isIdentifier declaration.name = true then
    match declaration.srcs with
    | [source] =>
        let ⟨sourcePlain⟩ ← firstRefused isPlainPath [source] .source
        let ⟨includesPlain⟩ ← firstRefused isPlainPath declaration.includeFiles .includeFile
        let ⟨packageValid⟩ ←
          firstRefused isPackageName declaration.packageName.toList .package
        let ⟨rootsValid⟩ ← firstRefused isElementName declaration.rootElements .rootElement
        let flags := declaration.flags.settle
        if compatible : (flags.enumsOnly && flags.parserOnly) = false then
          .ok {
            name := declaration.name
            source := source
            includes := declaration.includeFiles
            package? := declaration.packageName
            flags := flags
            rootElements := firstOccurrences declaration.rootElements
            name_isIdentifier := isName
            source_isPlainPath := sourcePlain source (by simp)
            includes_arePlainPaths := includesPlain
            package_isPackageName := by simpa using packageValid
            rootElements_areElementNames := fun element member =>
              rootsValid element (mem_firstOccurrences.1 member)
            rootElements_nodup := nodup_firstOccurrences _
            flags_compatible := compatible }
        else .error .bothRestrictions
    | sources => .error (.sourceCount sources)
  else .error (.name declaration.name)

/-- The schema module of a declaration, or the first fault together with the declared name. -/
def check (declaration : Declaration) : Except PropertyError Schema :=
  declaration.findFault.mapError fun fault => ⟨declaration.name, fault⟩

end Declaration

end SchemaBuild
