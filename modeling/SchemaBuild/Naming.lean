import SchemaBuild.Text.Character

/-!
# Accepted names and paths

What a manifest may use as a module name, a path, a package name or an element name. Every check
is made once, where a declaration is read, so that the writers of build files can put accepted
text into quotes and command lines as it is.
-/

namespace SchemaBuild

def isNameCharacter (character : Char) : Bool :=
  Text.isAlphanumeric character || character = '-' || character = '_' || character = '.'

/-- A module name: name characters that are not all dots, since dots alone name directories. -/
def isIdentifier (text : String) : Bool :=
  text.toList.any (· ≠ '.') && text.toList.all isNameCharacter

def isQuotableCharacter (character : Char) : Bool :=
  !Text.isControl character && character ≠ '\\' && character ≠ '\'' && character ≠ '"'

def isQuotable (text : String) : Bool :=
  text.toList.all isQuotableCharacter

/-- A character of a path that neither splits nor expands in a command line. -/
def isPathCharacter (character : Char) : Bool :=
  isQuotableCharacter character && !Text.isBlank character && character ≠ '$'

def isPlainPath (text : String) : Bool :=
  !text.toList.isEmpty && text.toList.all isPathCharacter

def isIdentStart (character : Char) : Bool :=
  Text.isAlphabetic character || character = '_'

def isIdentRest (character : Char) : Bool :=
  Text.isAlphanumeric character || character = '_'

def isIdent : List Char → Bool
  | [] => false
  | first :: rest => isIdentStart first && rest.all isIdentRest

/-- A package name: identifiers with dots between them. -/
def isPackageName (text : String) : Bool :=
  (text.toList.splitOn '.').all isIdent

def isElementName (text : String) : Bool :=
  !text.toList.isEmpty && isQuotable text

def isCommand (text : String) : Bool :=
  !text.toList.all Text.isBlank && isQuotable text

end SchemaBuild
