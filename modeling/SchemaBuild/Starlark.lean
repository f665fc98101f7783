import SchemaBuild.NameMap

/-!
# BUILD files

Rule instances of a declarative build and their text. The text depends only on what the rules
say: attributes are sorted by name, a list of one element stands on its line, a longer one takes
a line per element, and the `load` statements that the rules need are collected at the top.
-/

namespace SchemaBuild.Starlark

structure Label where
  text : String
  deriving DecidableEq, Repr

namespace Label

def target (name : String) : Label :=
  ⟨":" ++ name⟩

def file (path : String) : Label :=
  ⟨path⟩

end Label

inductive Value where
  | bool (value : Bool)
  | string (text : String)
  | label (label : Label)
  | labels (labels : List Label)
  | strings (texts : List String)
  /-- Labels that are always there, and labels that depend on the first condition that holds. -/
  | select (base : List Label) (arms : List (String × List Label))
  deriving DecidableEq, Repr

namespace Value

/-- Whether setting the attribute to this value says the same as not setting it. -/
def isUnset : Value → Bool
  | .bool value => !value
  | .string text => text.isEmpty
  | .label _ => false
  | .labels items => items.isEmpty
  | .strings items => items.isEmpty
  | .select base arms => base.isEmpty && arms.all fun arm => arm.2.isEmpty

end Value

structure Attribute where
  name : String
  value : Value
  deriving DecidableEq, Repr

/-- An instance of a rule. A native rule needs no file to be loaded. -/
structure Rule where
  kind : String
  load : Option String
  name : String
  attributes : List Attribute := []
  deriving DecidableEq, Repr

namespace Rule

/-- Add an attribute, unless its value says nothing. -/
def add (rule : Rule) (name : String) (value : Value) : Rule :=
  if value.isUnset then rule
  else { rule with attributes := rule.attributes ++ [⟨name, value⟩] }

def get? (rule : Rule) (name : String) : Option Value :=
  (rule.attributes.find? fun item => item.name = name).map Attribute.value

end Rule

/-! ## Text -/

def quoteCharacter (character : Char) : List Char :=
  match character with
  | '\\' => ['\\', '\\']
  | '"' => ['\\', '"']
  | '\n' => ['\\', 'n']
  | other => [other]

def quote (text : String) : String :=
  String.ofList ('"' :: text.toList.flatMap quoteCharacter ++ ['"'])

def indentation (width : Nat) : String :=
  String.ofList (List.replicate width ' ')

/-- A list of written items. `indent` is the indentation of the line on which it starts. -/
def renderList (indent : Nat) : List String → String
  | [] => "[]"
  | [item] => "[" ++ item ++ "]"
  | items =>
      "[\n" ++ String.join (items.map fun item => indentation (indent + 4) ++ item ++ ",\n") ++
        indentation indent ++ "]"

namespace Value

def renderLabels (indent : Nat) (items : List Label) : String :=
  renderList indent (items.map fun reference => quote reference.text)

def renderArm (indent : Nat) (arm : String × List Label) : String :=
  indentation (indent + 4) ++ quote arm.1 ++ ": " ++ renderLabels (indent + 4) arm.2 ++ ",\n"

/-- The text of a value. `indent` is the indentation of the line on which it starts. -/
def render (indent : Nat) : Value → String
  | .bool true => "True"
  | .bool false => "False"
  | .string text => quote text
  | .label reference => quote reference.text
  | .labels items => renderLabels indent items
  | .strings items => renderList indent (items.map quote)
  | .select base arms =>
      (if base.isEmpty then "" else renderLabels indent base ++ " + ") ++
        "select(\x7b\n" ++ String.join (arms.map (renderArm indent)) ++
        indentation indent ++ "\x7d)"

end Value

namespace Rule

/-- The attributes by name. Attributes with the same name keep their order. -/
def sortedAttributes (rule : Rule) : List Attribute :=
  rule.attributes.mergeSort fun left right => decide (left.name ≤ right.name)

def renderAttribute (item : Attribute) : String :=
  "    " ++ item.name ++ " = " ++ item.value.render 4 ++ ",\n"

def render (rule : Rule) : String :=
  rule.kind ++ "(\n    name = " ++ quote rule.name ++ ",\n" ++
    String.join (rule.sortedAttributes.map renderAttribute) ++ ")"

end Rule

def loadLocations (rules : List Rule) : List String :=
  sortedNames (rules.filterMap Rule.load)

def loadedKinds (rules : List Rule) (location : String) : List String :=
  sortedNames ((rules.filter fun rule => rule.load = some location).map Rule.kind)

def renderLoad (rules : List Rule) (location : String) : String :=
  "load(" ++ quote location ++ ", " ++
    ", ".intercalate ((loadedKinds rules location).map quote) ++ ")\n"

def renderLoads (rules : List Rule) : String :=
  match loadLocations rules with
  | [] => ""
  | locations => "\n" ++ String.join (locations.map (renderLoad rules))

def renderFile (rules : List Rule) : String :=
  "# Generated by xsd-config\n" ++ renderLoads rules ++
    String.join (rules.map fun rule => "\n" ++ rule.render ++ "\n")

end SchemaBuild.Starlark
