import SchemaBuild.Shell.Format

/-!
# Values of programs for records

A value is a number or a text. What comes from the input is a text that counts as a number where it
looks like one.
-/

namespace SchemaBuild.Shell.Awk

inductive Value where
  | unset
  | number (value : Float)
  | text (text : Script)
  | input (text : Script)
  deriving Inhabited

def isSpace (character : Char) : Bool :=
  [' ', '\t', '\n', '\r', '\x0b', '\x0c'].contains character

def leadingNumber? (text : Script) : Option (Float × Script) :=
  Fraction.takeNumber? (text.dropWhile isSpace)

def plainNumber? (text : Script) : Option Float :=
  match leadingNumber? text with
  | some (value, rest) => if value.isFinite && rest.all isSpace then some value else none
  | none => none

def greatestWhole : Float := 18446744073709551616

/-- A number with a fraction in the notation of a letter. What is no number is written as the result
of an operation that has none. -/
def fractionText (layout : Format.Layout) (letter : Char) (value : Float) : Script :=
  if value.isNaN then
    Format.padSigned layout false ['-'] (if letter.isUpper then "NAN".toList else "nan".toList)
  else Format.fractionText layout letter value

def numberText (format : Script) (value : Float) : Script :=
  let whole := Fraction.toInt value
  let isWhole := Fraction.ofInt whole == value
  if isWhole && value ≤ greatestWhole && -9223372036854775808 ≤ value then
    (toString (min whole Format.greatestUnsigned)).toList
  else
    match format with
    | '%' :: rest =>
        let (layout, rest) := Format.flags {} rest
        let (layout, _, rest) := Format.takeWidth layout [] rest
        let (layout, _, rest) := Format.takePrecision layout [] rest
        match rest with
        | letter :: after => fractionText layout letter value ++ after
        | [] => []
    | _ => fractionText {} 'g' value

namespace Value

def toNumber : Value → Float
  | .unset => 0
  | .number value => value
  | .text content => ((leadingNumber? content).map (·.1)).getD 0
  | .input content => ((leadingNumber? content).map (·.1)).getD 0

def toText (format : Script) : Value → Script
  | .unset => []
  | .number value => numberText format value
  | .text content => content
  | .input content => content

def isTrue : Value → Bool
  | .unset => false
  | .number value => value != 0
  | .text content => !content.isEmpty
  | .input content =>
      match plainNumber? content with
      | some value => value != 0
      | none => !content.isEmpty

def compared? : Value → Option Float
  | .unset => some 0
  | .number value => some value
  | .text _ => none
  | .input content => plainNumber? content

def ofBool (value : Bool) : Value :=
  .number (if value then 1 else 0)

def ofNat (value : Nat) : Value :=
  .number (Float.ofNat value)

end Value

def compareValues (format : Script) (left right : Value) : Ordering :=
  match left.compared?, right.compared? with
  | some first, some second =>
      if first < second then .lt else if first == second then .eq else .gt
  | _, _ => compareOfLessAndEq (left.toText format) (right.toText format)

/-! ## Formats -/

def signedOf (value : Float) : Int :=
  if value.isNaN then -9223372036854775808
  else if value ≤ -9223372036854775808 then -9223372036854775807
  else if value < greatestWhole then Fraction.toInt value
  else Format.greatestUnsigned

def unsignedOf (value : Float) : Int :=
  if value.isNaN then 9223372036854775808 else signedOf value

def convert (format : Script) (layout : Format.Layout) (letter : Char) (value : Value) :
    Option Script :=
  let cut := fun (text : Script) => match layout.precision with
    | some precision => text.take precision
    | none => text
  match letter with
  | 's' => some (Format.pad layout (cut (value.toText format)))
  | 'c' =>
      some (Format.pad layout (match value with
        | .number code => [Char.ofNat ((Fraction.toInt code) % 256).toNat]
        | value => cut ([(value.toText format).headD (Char.ofNat 0)])))
  | letter =>
      if letter = 'd' || letter = 'i' then
        some (Format.wholeText layout 'd' (signedOf value.toNumber))
      else if ['o', 'x', 'X', 'u'].contains letter then
        some (Format.wholeText layout letter (unsignedOf value.toNumber))
      else if ['e', 'E', 'f', 'g', 'G'].contains letter then
        some (fractionText layout letter value.toNumber)
      else none

def formatFlags (text : Script) : Format.Layout × Script :=
  let given := text.takeWhile fun letter => ['-', '+', ' ', '#', '0', '\''].contains letter
  ((Format.flags {} (given.filter (· ≠ '\''))).1, text.drop given.length)

inductive FormatFault where
  | tooFewValues
  | improper (number : Nat)

def FormatFault.words (function : String) (format : Script) : FormatFault → Script
  | .tooFewValues =>
      "not enough arguments passed to ".toList ++ function.toList ++ "(\"".toList ++ format ++
        "\")".toList
  | .improper number =>
      "improper conversion(number ".toList ++ (toString number).toList ++ ") in ".toList ++
        function.toList ++ "(\"".toList ++ format ++ "\")".toList

def formatted (format : Script) : Nat → Nat → List Value → Script → Script × Option FormatFault
  | 0, _, _, _ => ([], none)
  | _ + 1, _, _, [] => ([], none)
  | steps + 1, number, values, '%' :: '%' :: rest =>
      let (text, fault) := formatted format steps (number + 1) values rest
      ('%' :: text, fault)
  | steps + 1, number, values, '%' :: start =>
      let texts := fun (values : List Value) => values.map (Value.toText format)
      let (layout, rest) := formatFlags start
      let takesWidth := rest.head? = some '*'
      let (layout, _, rest) := Format.takeWidth layout (texts (values.take 1)) rest
      let values := if takesWidth then values.drop 1 else values
      let takesPrecision := rest.take 2 = ['.', '*']
      let (layout, _, rest) := Format.takePrecision layout (texts (values.take 1)) rest
      let values := if takesPrecision then values.drop 1 else values
      match values with
      | [] => ([], some .tooFewValues)
      | value :: values =>
          let (isModified, rest) := match rest with
            | 'l' :: rest => (true, rest)
            | 'h' :: rest => (true, rest)
            | rest => (false, rest)
          match rest with
          | [] => ([], some (.improper (number + 1)))
          | letter :: rest =>
              let isWhole := ['d', 'i', 'o', 'x', 'X', 'u'].contains letter
              match if isModified && !isWhole then none else convert format layout letter value with
              | none => ([], some (.improper (number + 1)))
              | some converted =>
                  let (text, fault) := formatted format steps (number + 1) values rest
                  (converted ++ text, fault)
  | steps + 1, number, values, character :: rest =>
      let (text, fault) := formatted format steps number values rest
      (character :: text, fault)

/-! ## Arrays -/

abbrev Elements := List (Script × Value)

def tableHash (subscript : Script) : Nat :=
  subscript.foldl (fun hash character =>
    Nat.xor hash character.toNat * 16777619 % 4294967296) 2166136261

def tableSize : Nat → Nat → Nat → Nat
  | 0, size, _ => size
  | steps + 1, size, count => if 2 * size < count then tableSize steps (2 * size) count else size

def subscripts (elements : Elements) : List Script :=
  let size := tableSize 20 64 elements.length
  let placed := elements.map fun (subscript, _) => (tableHash subscript % size, subscript)
  (placed.mergeSort fun left right => left.1 ≤ right.1).map (·.2)

end SchemaBuild.Shell.Awk
