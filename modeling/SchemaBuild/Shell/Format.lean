import SchemaBuild.Shell.Fraction.Wide
import SchemaBuild.Shell.Quotation

/-!
# Formatted output

The texts that `printf` and `echo` print.
-/

namespace SchemaBuild.Shell.Format

structure Style where
  hexadecimal : Bool := false
  quotes : Bool := false
  stops : Bool := false
  quoting : Bool := false
  sizes : Bool := false
  isProgram : Bool := false

def plainStyle : Style := {}

def extendedStyle : Style :=
  { hexadecimal := true, quotes := true, quoting := true, sizes := true }

def programStyle : Style :=
  { hexadecimal := true, quotes := true, stops := true, quoting := true, sizes := true
    isProgram := true }

/-! ## Escapes -/

def ofOctal (digits : Script) : Char :=
  Char.ofNat (ofDigits 8 digits % 256)

def escape? : Char → Option Char
  | 'a' => some '\x07'
  | 'b' => some '\x08'
  | 'e' => some '\x1b'
  | 'f' => some '\x0c'
  | 'n' => some '\n'
  | 'r' => some '\r'
  | 't' => some '\t'
  | 'v' => some '\x0b'
  | '\\' => some '\\'
  | _ => none

/-- Take an escape after its backslash. In arguments an octal number may start with a zero, which
does not count as one of its three digits. -/
def escaped (style : Style) (inArgument : Bool) (text : Script) : Script × Script :=
  match text with
  | [] => (['\\'], [])
  | first :: rest =>
      if inArgument && first = '0' then
        let digits := (rest.take 3).takeWhile isOctalDigit
        ([ofOctal digits], rest.drop digits.length)
      else if isOctalDigit first then
        let digits := (text.take 3).takeWhile isOctalDigit
        ([ofOctal digits], text.drop digits.length)
      else if style.hexadecimal && (first = 'x' || first = 'u' || first = 'U') then
        let limit := if first = 'x' then 2 else if first = 'u' then 4 else 8
        let digits := (rest.take limit).takeWhile isHexDigit
        let number := ofDigits 16 digits
        if digits.isEmpty then (['\\', first], rest)
        else (if first = 'x' then [Char.ofNat number] else codePoint number,
          rest.drop digits.length)
      else
        match escape? first with
        | some character => ([character], rest)
        | none =>
            if style.quotes && (first = '"' || first = '\'' && !inArgument) then ([first], rest)
            else (['\\', first], rest)

def unescape (style : Style) : Nat → Script → Script × Bool
  | 0, _ => ([], false)
  | _ + 1, [] => ([], false)
  | _ + 1, '\\' :: 'c' :: _ => ([], true)
  | steps + 1, '\\' :: rest =>
      let (first, rest) := escaped style true rest
      let (others, stops) := unescape style steps rest
      (first ++ others, stops)
  | steps + 1, character :: rest =>
      let (others, stops) := unescape style steps rest
      (character :: others, stops)

def echo (arguments : List Script) : Script :=
  let (newline, arguments) := match arguments with
    | ['-', 'n'] :: rest => (false, rest)
    | arguments => (true, arguments)
  let text := [' '].intercalate arguments
  let (text, stops) := unescape plainStyle (text.length + 1) text
  if newline && !stops then text ++ ['\n'] else text

def echoWithOptions (newline escapes : Bool) : List Script → Script
  | ('-' :: letter :: letters) :: rest =>
      if (letter :: letters).all fun letter => ['n', 'e', 'E'].contains letter then
        let escapes := (letter :: letters).foldl (fun escapes letter =>
          if letter = 'e' then true else if letter = 'E' then false else escapes) escapes
        echoWithOptions (newline && !(letter :: letters).contains 'n') escapes rest
      else finish (('-' :: letter :: letters) :: rest)
  | arguments => finish arguments
where
  finish (arguments : List Script) : Script :=
    let text := [' '].intercalate arguments
    let (text, stops) := if escapes then
        unescape { extendedStyle with quotes := false } (text.length + 1) text
      else (text, false)
    if newline && !stops then text ++ ['\n'] else text

/-! ## Conversions -/

structure Layout where
  leftAligned : Bool := false
  zeros : Bool := false
  plus : Bool := false
  blank : Bool := false
  alternative : Bool := false
  width : Nat := 0
  precision : Option Nat := none

def flags (layout : Layout) : Script → Layout × Script
  | '-' :: rest => flags { layout with leftAligned := true } rest
  | '0' :: rest => flags { layout with zeros := true } rest
  | '+' :: rest => flags { layout with plus := true } rest
  | ' ' :: rest => flags { layout with blank := true } rest
  | '#' :: rest => flags { layout with alternative := true } rest
  | text => (layout, text)

def pad (layout : Layout) (text : Script) : Script :=
  let filling := List.replicate (layout.width - text.length) ' '
  if layout.leftAligned then text ++ filling else filling ++ text

def padSigned (layout : Layout) (filled : Bool) (sign digits : Script) : Script :=
  if filled && layout.zeros && !layout.leftAligned then
    sign ++ List.replicate (layout.width - sign.length - digits.length) '0' ++ digits
  else pad layout (sign ++ digits)

def padNumber (layout : Layout) (sign digits : Script) : Script :=
  let digits := match layout.precision with
    | some precision => List.replicate (precision - digits.length) '0' ++ digits
    | none => digits
  padSigned layout layout.precision.isNone sign digits

inductive NumberFault where
  | missing
  | unfinished
  | outOfRange

def numberOf (low high : Int) (argument : Script) : Int × Option NumberFault :=
  let start := argument.dropWhile fun character =>
    [' ', '\t', '\n', '\r', '\x0b', '\x0c'].contains character
  let (negative, digits) := match start with
    | '-' :: rest => (true, rest)
    | '+' :: rest => (false, rest)
    | text => (false, text)
  let value := fun (base : Nat) (taken rest : Script) =>
    let number : Int := ofDigits base taken
    let number := if negative then -number else number
    let clamped := if number < low then low else if high < number then high else number
    (clamped,
      if clamped ≠ number then some NumberFault.outOfRange
      else if rest.isEmpty then none
      else some .unfinished)
  match argument, digits with
  | [], _ => (0, none)
  | '"' :: character :: _, _ => (character.toNat, none)
  | '\'' :: character :: _, _ => (character.toNat, none)
  | _, '0' :: mark :: rest =>
      if mark = 'x' || mark = 'X' then
        if (rest.head?).any isHexDigit then
          value 16 (rest.takeWhile isHexDigit) (rest.dropWhile isHexDigit)
        else (0, some .unfinished)
      else value 8 ((mark :: rest).takeWhile isOctalDigit) ((mark :: rest).dropWhile isOctalDigit)
  | _, digits =>
      if (digits.head?).any Char.isDigit then
        value 10 (digits.takeWhile Char.isDigit) (digits.dropWhile Char.isDigit)
      else (0, some .missing)

def faultWords (style : Style) (argument : Script) (fault : NumberFault) : Script :=
  let shown := if style.isProgram then Quotation.plain argument else argument
  shown ++ (match fault, style.isProgram with
    | .missing, true => ": expected a numeric value"
    | .missing, false => ": expected numeric value"
    | .unfinished, true => ": value not completely converted"
    | .unfinished, false => ": not completely converted"
    | .outOfRange, _ => ": Numerical result out of range").toList

def leastSigned : Int := -9223372036854775808
def greatestSigned : Int := 9223372036854775807

def greatestUnsigned : Int := 18446744073709551615

/-- The number with a fraction of an argument as `take?` reads it, with what is wrong with it. A
quotation mark asks for the number of a character. -/
def fractionOf {α : Type} (ofNat : Nat → α) (take? : Script → Option (α × Script))
    (argument : Script) : α × Option NumberFault :=
  match argument with
  | [] => (ofNat 0, none)
  | '"' :: character :: _ => (ofNat character.toNat, none)
  | '\'' :: character :: _ => (ofNat character.toNat, none)
  | _ =>
      match take? argument with
      | some (value, rest) => (value, if rest.isEmpty then none else some .unfinished)
      | none => (ofNat 0, some .missing)

def takeFraction? (text : Script) : Option (Float × Script) :=
  Fraction.takeNumber? (text.dropWhile fun character =>
    [' ', '\t', '\n', '\r', '\x0b', '\x0c'].contains character)

/-- A number with a fraction in the notation of a letter. The bits that count are written after so
many of them as `lead` tells if the digits are hexadecimal. -/
def magnitudeText (bits lead : Nat) (layout : Layout) (letter : Char) (negative : Bool)
    (magnitude : Fraction.Magnitude) : Script :=
  let sign := if negative then ['-'] else if layout.plus then ['+']
    else if layout.blank then [' '] else []
  let places := layout.precision.getD 6
  let lower := letter.toLower
  let (sign, digits, isFinite) := match magnitude with
    | .infinite => (sign, "inf".toList, false)
    | .notNumber => (sign, "nan".toList, false)
    | .finite number =>
        if lower = 'a' then
          (sign ++ ['0', 'x'],
            Fraction.hexadecimal bits lead layout.precision layout.alternative number, true)
        else
          (sign,
            if lower = 'f' then Fraction.fixed places layout.alternative number
            else if lower = 'e' then Fraction.scientific places layout.alternative number
            else Fraction.general places layout.alternative number, true)
  let upper := fun (text : Script) => if letter.isUpper then text.map Char.toUpper else text
  padSigned layout isFinite (upper sign) (upper digits)

def fractionText (layout : Layout) (letter : Char) (value : Float) : Script :=
  let (negative, magnitude) := Fraction.decode value
  magnitudeText 53 1 layout letter negative magnitude

def wideText (layout : Layout) (letter : Char) (value : Fraction.Wide) : Script :=
  magnitudeText Fraction.wideBits 4 layout letter value.negative value.magnitude

def wholeText (layout : Layout) (letter : Char) (number : Int) : Script :=
  let unsigned := (number % (greatestUnsigned + 1)).toNat
  let sign := if number < 0 then ['-'] else if layout.plus then ['+']
    else if layout.blank then [' '] else []
  let marked := fun (mark : String) =>
    if layout.alternative && unsigned ≠ 0 then mark.toList else []
  -- The precision of nothing leaves nothing of a zero.
  let digits := fun (base value : Nat) =>
    if value = 0 && layout.precision = some 0 then [] else Nat.toDigits base value
  match letter with
  | 'o' => padNumber layout (marked "0") (digits 8 unsigned)
  | 'x' => padNumber layout (marked "0x") (digits 16 unsigned)
  | 'X' => padNumber layout (marked "0X") ((digits 16 unsigned).map Char.toUpper)
  | 'u' => padNumber layout [] (digits 10 unsigned)
  | _ => padNumber layout sign (digits 10 number.natAbs)

def shellQuoted (text : Script) : Script :=
  if text.isEmpty then ['\'', '\'']
  else if text.any fun character => character.toNat < 32 || 127 ≤ character.toNat then
    let shown := text.flatMap fun character =>
      match character with
      | '\n' => ['\\', 'n']
      | '\t' => ['\\', 't']
      | '\r' => ['\\', 'r']
      | '\x07' => ['\\', 'a']
      | '\x08' => ['\\', 'b']
      | '\x0b' => ['\\', 'v']
      | '\x0c' => ['\\', 'f']
      | '\x1b' => ['\\', 'E']
      | '\'' => ['\\', '\'']
      | '\\' => ['\\', '\\']
      | character =>
          if character.toNat < 32 || 127 ≤ character.toNat then
            let digits := Nat.toDigits 8 character.toNat
            '\\' :: List.replicate (3 - digits.length) '0' ++ digits
          else [character]
    '$' :: '\'' :: shown ++ ['\'']
  else
    text.flatMap fun character =>
      if character.isAlphanum || "_-./:@%+=".toList.contains character then [character]
      else ['\\', character]

structure Printed where
  text : Script := []
  arguments : List Script := []
  converts : Bool := false
  faults : List Script := []
  failure : Option Script := none
  stopped : Bool := false

namespace Printed

def after (text : Script) (faults : List Script) (printed : Printed) : Printed :=
  { printed with text := text ++ printed.text, faults := faults ++ printed.faults }

end Printed

def convert (style : Style) (layout : Layout) (letter : Char) (argument : Script) :
    Option (Script × List Script × Bool) :=
  let cut := fun (text : Script) => match layout.precision with
    | some precision => text.take precision
    | none => text
  let faults := fun (fault : Option NumberFault) => match fault with
    | some fault => [faultWords style argument fault]
    | none => []
  match letter with
  | 's' => some (pad layout (cut argument), [], false)
  | 'b' =>
      let (text, stops) := unescape style (argument.length + 1) argument
      some (pad layout (cut text), [], stops)
  | 'c' =>
      some (pad layout (if argument.isEmpty then [Char.ofNat 0] else argument.take 1), [], false)
  | 'q' =>
      if style.isProgram then some (pad layout (Quotation.ifNeeded argument), [], false)
      else if style.quoting then some (pad layout (shellQuoted argument), [], false)
      else none
  | letter =>
      if letter = 'd' || letter = 'i' then
        let (number, fault) := numberOf leastSigned greatestSigned argument
        some (wholeText layout 'd' number, faults fault, false)
      else if ['o', 'u', 'x', 'X'].contains letter then
        let (number, fault) := numberOf leastSigned greatestUnsigned argument
        some (wholeText layout letter number, faults fault, false)
      else if !(['a', 'A', 'f', 'F', 'e', 'E', 'g', 'G'].contains letter) then none
      else if style.isProgram then
        let (number, fault) := fractionOf Fraction.Wide.ofNat Fraction.Wide.take? argument
        some (wideText layout letter number, faults fault, false)
      else
        let (number, fault) := fractionOf Float.ofNat takeFraction? argument
        some (fractionText layout letter number, faults fault, false)

def leadingNumber (text : Script) : Nat × Script :=
  (ofDigits 10 (text.takeWhile Char.isDigit), text.dropWhile Char.isDigit)

def takeWidth (layout : Layout) (arguments : List Script) :
    Script → Layout × List Script × Script
  | '*' :: rest =>
      let (width, _) := numberOf leastSigned greatestSigned (arguments.headD [])
      ({ layout with
          width := width.natAbs
          leftAligned := layout.leftAligned || width < 0 }, arguments.tail, rest)
  | text =>
      let (width, rest) := leadingNumber text
      ({ layout with width := width }, arguments, rest)

def takePrecision (layout : Layout) (arguments : List Script) :
    Script → Layout × List Script × Script
  | '.' :: '*' :: rest =>
      let (precision, _) := numberOf leastSigned greatestSigned (arguments.headD [])
      ({ layout with precision := if precision < 0 then none else some precision.toNat },
        arguments.tail, rest)
  | '.' :: rest =>
      let (precision, rest) := leadingNumber rest
      ({ layout with precision := some precision }, arguments, rest)
  | text => (layout, arguments, text)

def isAllowed (directive : Script) (layout : Layout) (letter : Char) : Bool :=
  if letter = 'b' || letter = 'q' then directive.length = 2
  else
    !((layout.zeros && ['c', 's'].contains letter) ||
      (layout.alternative && ['c', 'd', 'i', 's', 'u'].contains letter) ||
      (layout.precision.isSome && letter = 'c'))

def pass (style : Style) : Nat → List Script → Script → Printed
  | 0, arguments, _ => { arguments := arguments }
  | _ + 1, arguments, [] => { arguments := arguments }
  | steps + 1, arguments, '\\' :: rest =>
      if style.stops && rest.head? = some 'c' then { stopped := true }
      else
        let (text, rest) := escaped style false rest
        (pass style steps arguments rest).after text []
  | steps + 1, arguments, '%' :: '%' :: rest => (pass style steps arguments rest).after ['%'] []
  | steps + 1, arguments, '%' :: start =>
      let (layout, rest) := flags {} start
      let (layout, arguments, rest) := takeWidth layout arguments rest
      let (layout, arguments, rest) := takePrecision layout arguments rest
      let rest := if style.sizes then rest.dropWhile fun letter =>
          ['l', 'h', 'j', 'z', 't', 'L', 'q'].contains letter && letter ≠ 'q'
        else rest
      match rest with
      | [] =>
          { arguments := arguments
            failure := some (if style.isProgram
              then '%' :: start ++ ": invalid conversion specification".toList
              else "missing format character".toList) }
      | letter :: rest =>
          let directive := '%' :: start.take (start.length - rest.length)
          let converted :=
            if style.isProgram && !isAllowed directive layout letter then none
            else convert style layout letter (arguments.headD [])
          match converted with
          | none =>
              { failure := some (directive ++ (if style.isProgram
                  then ": invalid conversion specification"
                  else ": invalid directive").toList) }
          | some (text, faults, true) => { text := text, faults := faults, stopped := true }
          | some (text, faults, false) =>
              { (pass style steps arguments.tail rest).after text faults with converts := true }
  | steps + 1, arguments, character :: rest =>
      (pass style steps arguments rest).after [character] []

def printfWithin (style : Style) : Nat → Script → List Script → Printed
  | 0, _, _ => {}
  | steps + 1, format, arguments =>
      let first := pass style (format.length + 1) arguments format
      if first.arguments.isEmpty || !first.converts || first.stopped || first.failure.isSome then
        first
      else (printfWithin style steps format first.arguments).after first.text first.faults

def printf (style : Style) (format : Script) (arguments : List Script) : Printed :=
  printfWithin style (arguments.length + 1) format arguments

end SchemaBuild.Shell.Format
