/-!
# Generation flags

The seven switches of a schema module. A declaration may leave each of them open; a checked
module has settled all of them.
-/

namespace SchemaBuild

structure FlagSet (α : Type) where
  /-- Generate writers beside the parser. -/
  genWriter : α
  /-- Generate only the enumerations (C++). -/
  enumsOnly : α
  /-- Generate only the parser, without the enumerations (C++). -/
  parserOnly : α
  /-- Name accessors of booleans `isFoo` and not `getFoo`. -/
  booleanGetter : α
  /-- Parse with the smaller of the two XML libraries (C++). -/
  tinyxml : α
  /-- Annotate accessors with nullability (Java). -/
  nullability : α
  /-- Generate `hasFoo` accessors (Java). -/
  genHas : α
  deriving DecidableEq, Repr, Inhabited

abbrev Flags := FlagSet Bool

abbrev DeclaredFlags := FlagSet (Option Bool)

namespace FlagSet

def fill {α : Type} (value : α) : FlagSet α :=
  ⟨value, value, value, value, value, value, value⟩

def map {α β : Type} (change : α → β) (flags : FlagSet α) : FlagSet β where
  genWriter := change flags.genWriter
  enumsOnly := change flags.enumsOnly
  parserOnly := change flags.parserOnly
  booleanGetter := change flags.booleanGetter
  tinyxml := change flags.tinyxml
  nullability := change flags.nullability
  genHas := change flags.genHas

def settle (flags : DeclaredFlags) : Flags :=
  flags.map fun setting => setting.getD false

end FlagSet

end SchemaBuild
