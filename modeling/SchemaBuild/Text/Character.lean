import SchemaBuild.Text.Alphabetic
import SchemaBuild.Text.Numeric

/-!
# Character classes

Classes that are put together from the tables of letters and numbers, and those that need no more
than a few ranges. Among the blanks, which are the code points with the Unicode property
White_Space, there is no zero-width space. The words of a text are the longest runs of characters
between blanks.
-/

namespace SchemaBuild.Text

def isAlphanumeric (character : Char) : Bool :=
  isAlphabetic character || isNumeric character

def isControl (character : Char) : Bool :=
  character.toNat < 0x20 || (0x7f ≤ character.toNat && character.toNat < 0xa0)

def blankRanges : Ranges := [
    (0x9, 0xd), (0x20, 0x20), (0x85, 0x85), (0xa0, 0xa0), (0x1680, 0x1680), (0x2000, 0x200a),
    (0x2028, 0x2029), (0x202f, 0x202f), (0x205f, 0x205f), (0x3000, 0x3000)]

def isBlank (character : Char) : Bool :=
  blankRanges.contains character.toNat

/-! ## Words -/

def consWord (word : List Char) (others : List (List Char)) : List (List Char) :=
  if word.isEmpty then others else word :: others

def splitWords : List Char → List Char × List (List Char)
  | [] => ([], [])
  | character :: rest =>
      let (word, others) := splitWords rest
      if isBlank character then ([], consWord word others) else (character :: word, others)

def words (text : String) : List String :=
  let (word, others) := splitWords text.toList
  (consWord word others).map String.ofList

end SchemaBuild.Text
