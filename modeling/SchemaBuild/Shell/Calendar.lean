import SchemaBuild.Shell.Fraction

/-!
# Calendar

Moments as text. A moment is counted in seconds from the first day of 1970, and a format tells which
parts of its date and its clock are shown. The other way round, a text names a moment by a date, by
a clock, or by how far it is from another
moment. -/

namespace SchemaBuild.Shell.Calendar

def daySeconds : Int := 86400

/-! ## Days -/

/-- How many days before the first day of 1970 a month begins, or after it. Years start in March, so
that a leap day comes last. -/
def dayNumber (year : Int) (month day : Nat) : Int :=
  let shifted := if month ≤ 2 then year - 1 else year
  let era := Int.fdiv shifted 400
  let yearOfEra := shifted - era * 400
  let monthIndex := (month + 9) % 12
  let dayOfYear := (153 * monthIndex + 2) / 5 + (day - 1)
  let dayOfEra := yearOfEra * 365 + yearOfEra / 4 - yearOfEra / 100 + dayOfYear
  era * 146097 + dayOfEra - 719468

def dateOf (number : Int) : Int × Nat × Nat :=
  let shifted := number + 719468
  let era := Int.fdiv shifted 146097
  let dayOfEra := (shifted - era * 146097).toNat
  let yearOfEra := (dayOfEra - dayOfEra / 1460 + dayOfEra / 36524 - dayOfEra / 146096) / 365
  let dayOfYear := dayOfEra - (365 * yearOfEra + yearOfEra / 4 - yearOfEra / 100)
  let monthIndex := (5 * dayOfYear + 2) / 153
  let day := dayOfYear - (153 * monthIndex + 2) / 5 + 1
  let month := if monthIndex < 10 then monthIndex + 3 else monthIndex - 9
  ((yearOfEra : Int) + era * 400 + (if month ≤ 2 then 1 else 0), month, day)

example : dayNumber 1970 1 1 = 0 := by decide +kernel
example : dayNumber 2000 3 1 = 11017 := by decide +kernel
example : dateOf 11017 = (2000, 3, 1) := by decide +kernel

def weekdayOf (number : Int) : Nat :=
  (Int.fmod (number + 4) 7).toNat

def monthNames : List String :=
  ["January", "February", "March", "April", "May", "June", "July", "August", "September", "October",
    "November", "December"]

def weekdayNames : List String :=
  ["Sunday", "Monday", "Tuesday", "Wednesday", "Thursday", "Friday", "Saturday"]

structure Moment where
  seconds : Int
  nanos : Nat := 0

namespace Moment

def day (moment : Moment) : Int :=
  Int.fdiv moment.seconds daySeconds

def clock (moment : Moment) : Nat :=
  (Int.fmod moment.seconds daySeconds).toNat

def hour (moment : Moment) : Nat :=
  moment.clock / 3600

def minute (moment : Moment) : Nat :=
  moment.clock / 60 % 60

def second (moment : Moment) : Nat :=
  moment.clock % 60

def year (moment : Moment) : Int :=
  (dateOf moment.day).1

def month (moment : Moment) : Nat :=
  (dateOf moment.day).2.1

def dayOfMonth (moment : Moment) : Nat :=
  (dateOf moment.day).2.2

def weekday (moment : Moment) : Nat :=
  weekdayOf moment.day

def dayOfYear (moment : Moment) : Nat :=
  (moment.day - dayNumber moment.year 1 1 + 1).toNat

def week (moment : Moment) : Int × Nat :=
  let thursday := moment.day + 3 - ((moment.weekday + 6) % 7 : Nat)
  let year := (dateOf thursday).1
  (year, (thursday - dayNumber year 1 1).toNat / 7 + 1)

end Moment

/-! ## Formats -/

structure Directive where
  filling : Option Char := none
  upper : Bool := false
  swaps : Bool := false
  width : Option Nat := none
  colons : Nat := 0

def takeFlags (directive : Directive) : Script → Directive × Script
  | '^' :: rest => takeFlags { directive with upper := true } rest
  | '#' :: rest => takeFlags { directive with swaps := true } rest
  | character :: rest =>
      if ['_', '-', '0', '+'].contains character then
        takeFlags
          { directive with filling := some (if character = '+' then '0' else character) } rest
      else (directive, character :: rest)
  | [] => (directive, [])

def filled (character : Char) (width : Nat) (text : Script) : Script :=
  List.replicate (width - text.length) character ++ text

def numberField (directive : Directive) (usual : Char) (digits : Nat) (value : Int) : Script :=
  let shown := (toString value.natAbs).toList
  let sign := if value < 0 then ['-'] else []
  let width := directive.width.getD digits
  match directive.filling.getD usual with
  | '-' => sign ++ shown
  | '_' => filled ' ' width (sign ++ shown)
  | ' ' => filled ' ' width (sign ++ shown)
  | _ => sign ++ filled '0' (width - sign.length) shown

def textField (directive : Directive) (swapped text : Script) : Script :=
  let text := if directive.swaps then swapped else text
  let text := if directive.upper then text.map Char.toUpper else text
  match directive.filling with
  | some '-' => text
  | some '0' => filled '0' (directive.width.getD 0) text
  | _ => filled ' ' (directive.width.getD 0) text

def zoneText : Nat → Script
  | 0 => "+0000".toList
  | 1 => "+00:00".toList
  | 2 => "+00:00:00".toList
  | _ => "+00".toList

def fractionField (directive : Directive) (nanos : Nat) : Script :=
  let digits := filled '0' 9 (toString nanos).toList
  let width := directive.width.getD 9
  digits.take width ++ List.replicate (width - 9) '0'

def composed? : Char → Option String
  | 'c' => some "%a %b %e %H:%M:%S %Y"
  | 'D' => some "%m/%d/%y"
  | 'x' => some "%m/%d/%y"
  | 'F' => some "%Y-%m-%d"
  | 'r' => some "%I:%M:%S %p"
  | 'R' => some "%H:%M"
  | 'T' => some "%H:%M:%S"
  | 'X' => some "%H:%M:%S"
  | _ => none

def field? (moment : Moment) (directive : Directive) (letter : Char) : Option Script :=
  let number := fun (digits : Nat) (value : Int) => some (numberField directive '0' digits value)
  let blank := fun (digits : Nat) (value : Int) => some (numberField directive ' ' digits value)
  let word := fun (text : String) =>
    some (textField directive (text.toList.map Char.toUpper) text.toList)
  let small := fun (text : String) =>
    some (textField directive (text.toList.map Char.toLower) text.toList)
  let hour := (moment.hour + 11) % 12 + 1
  let weekday := moment.weekday
  let half := if moment.hour < 12 then "AM" else "PM"
  let dayOfYear := moment.dayOfYear - 1
  let start := fun (name : String) => String.ofList (name.toList.take 3)
  match letter with
  | 'a' => word (start (weekdayNames.getD weekday ""))
  | 'A' => word (weekdayNames.getD weekday "")
  | 'b' => word (start (monthNames.getD (moment.month - 1) ""))
  | 'h' => word (start (monthNames.getD (moment.month - 1) ""))
  | 'B' => word (monthNames.getD (moment.month - 1) "")
  | 'C' => number 2 (Int.fdiv moment.year 100)
  | 'd' => number 2 moment.dayOfMonth
  | 'e' => blank 2 moment.dayOfMonth
  | 'g' => number 2 (Int.fmod moment.week.1 100)
  | 'G' => number 4 moment.week.1
  | 'H' => number 2 moment.hour
  | 'I' => number 2 hour
  | 'j' => number 3 moment.dayOfYear
  | 'k' => blank 2 moment.hour
  | 'l' => blank 2 hour
  | 'm' => number 2 moment.month
  | 'M' => number 2 moment.minute
  | 'n' => some ['\n']
  | 'N' => some (fractionField directive moment.nanos)
  | 'p' => small half
  | 'P' => some (textField directive (half.toList.map Char.toLower) (half.toList.map Char.toLower))
  | 'q' => number 1 ((moment.month + 2) / 3 : Nat)
  | 's' => number 1 moment.seconds
  | 'S' => number 2 moment.second
  | 't' => some ['\t']
  | 'u' => number 1 ((weekday + 6) % 7 + 1 : Nat)
  | 'U' => number 2 ((dayOfYear + 7 - weekday) / 7 : Nat)
  | 'V' => number 2 moment.week.2
  | 'w' => number 1 weekday
  | 'W' => number 2 ((dayOfYear + 7 - (weekday + 6) % 7) / 7 : Nat)
  | 'y' => number 2 (Int.fmod moment.year 100)
  | 'Y' => number 4 moment.year
  | 'z' => some (textField directive (zoneText directive.colons) (zoneText directive.colons))
  | 'Z' => small "UTC"
  | '%' => some ['%']
  | _ => none

def format (moment : Moment) : Nat → Script → Script
  | 0, text => text
  | _ + 1, [] => []
  | steps + 1, '%' :: start =>
      let (directive, rest) := takeFlags {} start
      let digits := rest.takeWhile Char.isDigit
      let rest := rest.drop digits.length
      let directive := if digits.isEmpty then directive
        else { directive with width := some (ofDigits 10 digits) }
      let colons := rest.takeWhile (· = ':')
      let directive := { directive with colons := colons.length }
      let rest := rest.drop colons.length
      let rest := match rest with
        | 'E' :: after => if after.isEmpty then rest else after
        | 'O' :: after => if after.isEmpty then rest else after
        | rest => rest
      match rest with
      | [] => textField { width := directive.width } [] ('%' :: start)
      | letter :: after =>
          let unknown := '%' :: start.take (start.length - after.length)
          let shown :=
            if directive.colons ≠ 0 && (letter ≠ 'z' || 3 < directive.colons) then unknown
            else
              match field? moment directive letter, composed? letter with
              | some text, _ => text
              | none, some inner =>
                  let text := format moment steps inner.toList
                  textField directive (text.map Char.toUpper) text
              | none, none => textField { width := directive.width } unknown unknown
          shown ++ format moment steps after
  | steps + 1, character :: rest => character :: format moment steps rest

def formatted (moment : Moment) (text : Script) : Script :=
  format moment (2 * text.length + 100) text

/-! ## Reading -/

inductive Token where
  | number (sign : Option Bool) (digits : Script) (fraction : Script)
  | word (text : Script)
  | mark (character : Char)

/-- Take a text apart. Blanks, commas and what stands in brackets do not count, and neither does a
sign without a number. -/
def tokens : Nat → Script → List Token
  | 0, _ => []
  | _ + 1, [] => []
  | steps + 1, character :: rest =>
      if character.isDigit then number steps none (character :: rest)
      else if character = '+' || character = '-' then
        let after := rest.dropWhile fun other => [' ', '\t', '+', '-'].contains other
        if (after.head?).any Char.isDigit then number steps (some (character = '-')) after
        else tokens steps rest
      else if character.isAlpha then
        let word := (character :: rest).takeWhile fun other => other.isAlpha || other = '.'
        Token.word ((word.map Char.toLower).filter (· ≠ '.')) ::
          tokens steps ((character :: rest).drop word.length)
      else if [' ', '\t', '\n', ','].contains character then tokens steps rest
      else if character = '(' then tokens steps ((rest.dropWhile (· ≠ ')')).drop 1)
      else .mark character :: tokens steps rest
where
  number (steps : Nat) (sign : Option Bool) (text : Script) : List Token :=
    let digits := text.takeWhile Char.isDigit
    let (fraction, rest) := match text.drop digits.length with
      | '.' :: after =>
          if (after.head?).any Char.isDigit then
            (after.takeWhile Char.isDigit, after.dropWhile Char.isDigit)
          else ([], '.' :: after)
      | ',' :: after =>
          if (after.head?).any Char.isDigit && 1 < digits.length then
            (after.takeWhile Char.isDigit, after.dropWhile Char.isDigit)
          else ([], ',' :: after)
      | rest => ([], rest)
    .number sign digits fraction :: tokens steps rest

structure Named where
  moment : Option Int := none
  date : Option (Int × Nat × Nat) := none
  hasYear : Bool := true
  clock : Option (Nat × Nat × Nat) := none
  zone : Option Int := none
  weekday : Option (Int × Nat) := none
  months : Int := 0
  days : Int := 0
  seconds : Int := 0
  isRelative : Bool := false
  nanos : Nat := 0

def nameIndex? (names : List String) (word : Script) : Option Nat :=
  names.findIdx? fun name =>
    let whole := name.toList.map Char.toLower
    word = whole || word = whole.take 3 || word = "sept".toList && whole.take 3 = "sep".toList

def unit? (word : Script) : Option (Int × Int × Int) :=
  let word := if word.getLast? = some 's' && 3 < word.length then word.dropLast else word
  match String.ofList word with
  | "year" => some (12, 0, 0)
  | "month" => some (1, 0, 0)
  | "fortnight" => some (0, 14, 0)
  | "week" => some (0, 7, 0)
  | "day" => some (0, 1, 0)
  | "hour" => some (0, 0, 3600)
  | "minute" => some (0, 0, 60)
  | "min" => some (0, 0, 60)
  | "second" => some (0, 0, 1)
  | "sec" => some (0, 0, 1)
  | _ => none

def ordinal? (word : Script) : Option Int :=
  match String.ofList word with
  | "last" => some (-1)
  | "this" => some 0
  | "next" => some 1
  | "first" => some 1
  | "third" => some 3
  | "fourth" => some 4
  | "fifth" => some 5
  | "sixth" => some 6
  | "seventh" => some 7
  | "eighth" => some 8
  | "ninth" => some 9
  | "tenth" => some 10
  | "eleventh" => some 11
  | "twelfth" => some 12
  | _ => none

def Named.move (named : Named) (count : Int) (unit : Int × Int × Int) : Named :=
  { named with
    months := named.months + count * unit.1
    days := named.days + count * unit.2.1
    seconds := named.seconds + count * unit.2.2
    isRelative := true }

def yearOf (digits : Script) : Int :=
  let number : Int := ofDigits 10 digits
  if digits.length = 2 then if number < 69 then number + 2000 else number + 1900 else number

def halfDay? (word : Script) (hours : Nat) : Option Nat :=
  if hours = 0 || 12 < hours then none
  else
    match String.ofList word with
    | "am" => some (hours % 12)
    | "pm" => some (hours % 12 + 12)
    | _ => none

def zone? (word : Script) : Option Int :=
  match word with
  | [letter] =>
      let hours : List (Script × Int) :=
        ("abcdefghiklm".toList.zipIdx.map fun (letter, place) => ([letter], (place : Int) + 1)) ++
          "nopqrstuvwxy".toList.zipIdx.map fun (letter, place) => ([letter], -((place : Int) + 1))
      if letter = 'z' then some 0 else (hours.lookup [letter]).map (· * 3600)
  | word =>
      (([("utc", 0), ("gmt", 0), ("ut", 0), ("wet", 0), ("bst", 60), ("cet", 60), ("cest", 120),
          ("eet", 120), ("eest", 180), ("msk", 180), ("ist", 330), ("jst", 540), ("est", -300),
          ("edt", -240), ("cst", -360), ("cdt", -300), ("mst", -420), ("mdt", -360), ("pst", -480),
          ("pdt", -420)] : List (String × Int)).lookup (String.ofList word)).map (· * 60)

def nanosOf (digits : Script) : Nat :=
  ofDigits 10 (digits.take 9 ++ List.replicate (9 - digits.length) '0')

def zoneOf (isNegative : Bool) (digits : Script) (minutes : Option Script) : Int :=
  let number : Int := ofDigits 10 digits
  let seconds := match minutes with
    | some minutes => number * 3600 + (ofDigits 10 minutes : Int) * 60
    | none => if digits.length ≤ 2 then number * 3600 else number / 100 * 3600 + number % 100 * 60
  if isNegative then -seconds else seconds

def takeZone (named : Named) : List Token → Named × List Token
  | .number (some sign) digits [] :: .mark ':' :: .number none minutes [] :: rest =>
      ({ named with zone := some (zoneOf sign digits (some minutes)) }, rest)
  | .number (some sign) digits [] :: .word unit :: rest =>
      if (unit? unit).isSome then (named, .number (some sign) digits [] :: .word unit :: rest)
      else ({ named with zone := some (zoneOf sign digits none) }, .word unit :: rest)
  | .number (some sign) digits [] :: rest =>
      ({ named with zone := some (zoneOf sign digits none) }, rest)
  | rest => (named, rest)

def putClock (named : Named) (hours minutes seconds : Nat) (rest : List Token) :
    Option (Named × List Token) :=
  if named.clock.isSome then none
  else
    match rest with
    | .word word :: after =>
        if word = "am".toList || word = "pm".toList then
          (halfDay? word hours).map fun hours =>
            ({ named with clock := some (hours, minutes, seconds) }, after)
        else some ({ named with clock := some (hours, minutes, seconds) }, rest)
    | rest => some (takeZone { named with clock := some (hours, minutes, seconds) } rest)

def putDate (named : Named) (year : Option Int) (month day : Nat) (present : Int) : Option Named :=
  if named.date.isSome then none
  else some { named with date := some (year.getD present, month, day), hasYear := year.isSome }

def step (present : Int) (named : Named) : List Token → Option (Named × List Token)
  | [] => none
  | .mark '@' :: .number sign digits fraction :: rest =>
      let value : Int := ofDigits 10 digits
      some ({ named with
        moment := some (if sign = some true then -value else value)
        nanos := nanosOf fraction }, rest)
  | .number none hours [] :: .mark ':' :: .number none minutes [] :: .mark ':' ::
      .number none seconds fraction :: rest =>
      putClock { named with nanos := nanosOf fraction } (ofDigits 10 hours) (ofDigits 10 minutes)
        (ofDigits 10 seconds) rest
  | .number none hours [] :: .mark ':' :: .number none minutes [] :: rest =>
      putClock named (ofDigits 10 hours) (ofDigits 10 minutes) 0 rest
  | .number none first [] :: .mark '/' :: .number none second [] :: .mark '/' ::
      .number none third [] :: rest =>
      -- The year stands first if it has four digits.
      if 4 ≤ first.length then
        (putDate named (some (yearOf first)) (ofDigits 10 second) (ofDigits 10 third) present).map
          (·, rest)
      else
        (putDate named (some (yearOf third)) (ofDigits 10 first) (ofDigits 10 second) present).map
          (·, rest)
  | .number none month [] :: .mark '/' :: .number none day [] :: rest =>
      (putDate named none (ofDigits 10 month) (ofDigits 10 day) present).map (·, rest)
  | .number none year [] :: .number (some true) month [] :: .number (some true) day [] :: rest =>
      (putDate named (some (yearOf year)) (ofDigits 10 month) (ofDigits 10 day) present).map
        (·, rest)
  | .number sign digits [] :: .word word :: rest =>
      let count : Int := ofDigits 10 digits
      let count := if sign = some true then -count else count
      match unit? word, nameIndex? monthNames word with
      | some unit, _ => some (named.move count unit, rest)
      | none, some month =>
          match sign, rest with
          | none, .number _ year [] :: rest =>
              (putDate named (some (yearOf year)) (month + 1) (ofDigits 10 digits) present).map
                (·, rest)
          | none, rest =>
              (putDate named none (month + 1) (ofDigits 10 digits) present).map (·, rest)
          | some _, _ => none
      | none, none =>
          if sign = none && (word = "am".toList || word = "pm".toList) then
            putClock named (ofDigits 10 digits) 0 0 (.word word :: rest)
          else pure? none digits (.word word :: rest)
  | .number none digits [] :: rest => pure? none digits rest
  | .word word :: rest =>
      match String.ofList word, rest with
      | "now", rest => some ({ named with isRelative := true }, rest)
      | "today", rest => some ({ named with isRelative := true }, rest)
      | "yesterday", rest => some (named.move (-1) (0, 1, 0), rest)
      | "tomorrow", rest => some (named.move 1 (0, 1, 0), rest)
      | "ago", rest =>
          some ({ named with
            months := -named.months, days := -named.days, seconds := -named.seconds }, rest)
      | _, rest =>
          match unit? word, nameIndex? monthNames word, nameIndex? weekdayNames word,
              ordinal? word, rest with
          | some unit, _, _, _, rest => some (named.move 1 unit, rest)
          | none, some month, _, _, .number none day [] :: .number none year [] :: rest =>
              if 4 ≤ year.length then
                (putDate named (some (yearOf year)) (month + 1) (ofDigits 10 day) present).map
                  (·, rest)
              else
                (putDate named none (month + 1) (ofDigits 10 day) present).map
                  (·, .number none year [] :: rest)
          | none, some month, _, _, .number none day [] :: rest =>
              (putDate named none (month + 1) (ofDigits 10 day) present).map (·, rest)
          | none, none, some weekday, _, rest =>
              some ({ named with weekday := some (0, weekday) }, rest)
          | none, none, none, some ordinal, .word other :: rest =>
              match unit? other, nameIndex? weekdayNames other with
              | some unit, _ => some (named.move ordinal unit, rest)
              | none, some weekday => some ({ named with weekday := some (ordinal, weekday) }, rest)
              | none, none => none
          | _, _, _, _, rest =>
              -- The letter between a date and a clock is no zone.
              if word = ['t'] && named.date.isSome && named.clock.isNone then some (named, rest)
              else
                (zone? word).map fun zone =>
                  let (moved, rest) := takeZone { named with zone := none } rest
                  ({ moved with zone := some (zone + moved.zone.getD 0) }, rest)
  | _ :: _ => none
where
  pure? (_ : Option Bool) (digits : Script) (rest : List Token) : Option (Named × List Token) :=
    let value := ofDigits 10 digits
    match named.date with
    | some (_, month, day) =>
        if !named.hasYear && (named.clock.isSome || 2 < digits.length) then
          some ({ named with date := some (yearOf digits, month, day), hasYear := true }, rest)
        else clock value rest
    | none =>
        if 4 < digits.length then
          some ({ named with
            date := some (((value / 10000 : Nat) : Int), value / 100 % 100, value % 100) }, rest)
        else clock value rest
  clock (value : Nat) (rest : List Token) : Option (Named × List Token) :=
    if value < 100 then putClock named value 0 0 rest
    else putClock named (value / 100) (value % 100) 0 rest

def readAll (present : Int) : Nat → Named → List Token → Option Named
  | 0, _, _ => none
  | _ + 1, named, [] => some named
  | steps + 1, named, tokens => do
      let (named, rest) ← step present named tokens
      readAll present steps named rest

def Named.resolve (named : Named) (now : Int) : Option Moment := do
  match named.moment with
  | some moment =>
      return { seconds := moment + named.days * daySeconds + named.seconds, nanos := named.nanos }
  | none => pure ()
  let present : Moment := { seconds := now }
  let keepsClock := named.date.isNone && named.weekday.isNone && named.clock.isNone &&
    named.zone.isNone
  let clock : Nat ← match named.clock with
    | some (hours, minutes, seconds) =>
        if 24 ≤ hours || 60 ≤ minutes || 60 ≤ seconds then none
        else some (hours * 3600 + minutes * 60 + seconds)
    | none => some (if keepsClock then present.clock else 0)
  let (year, month, day) := named.date.getD (present.year, present.month, present.dayOfMonth)
  if month = 0 || 12 < month || day = 0 then none
  if dateOf (dayNumber year month day) ≠ (year, month, day) then none
  let months := year * 12 + (month - 1 : Nat) + named.months
  let shifted := dayNumber (Int.fdiv months 12) ((Int.fmod months 12).toNat + 1) 1 + (day - 1 : Nat)
  let number := shifted + named.days
  let number := match named.weekday with
    | some (ordinal, weekday) =>
        let today := weekdayOf number
        let skipped := if 0 < ordinal && today ≠ weekday then ordinal - 1 else ordinal
        if named.date.isSome then number
        else number + ((weekday + 7 - today) % 7 : Nat) + 7 * skipped
    | none => number
  return {
    seconds := number * daySeconds + clock + named.seconds - named.zone.getD 0
    nanos := named.nanos }

def moment? (now : Int) (text : Script) : Option Moment := do
  let parts := tokens (2 * text.length + 2) text
  let named ← readAll ({ seconds := now } : Moment).year (parts.length + 2) {} parts
  if parts.isEmpty then return { seconds := Int.fdiv now daySeconds * daySeconds }
  named.resolve now

def stamp? (now : Int) (text : Script) : Option Int := do
  let digits := text.takeWhile Char.isDigit
  let seconds ← match text.drop digits.length with
    | [] => some 0
    | ['.', tens, ones] =>
        if tens.isDigit && ones.isDigit then some (ofDigits 10 [tens, ones]) else none
    | _ => none
  let year : Int ← match digits.length with
    | 12 => some (ofDigits 10 (digits.take 4) : Int)
    | 10 => some (yearOf (digits.take 2))
    | 8 => some ({ seconds := now } : Moment).year
    | _ => none
  let rest := digits.drop (digits.length - 8)
  let part := fun (index : Nat) => ofDigits 10 ((rest.drop (2 * index)).take 2)
  if part 0 = 0 || dateOf (dayNumber year (part 0) (part 1)) ≠ (year, part 0, part 1) then none
  if 24 ≤ part 2 || 60 ≤ part 3 || 60 < seconds then none
  some (dayNumber year (part 0) (part 1) * daySeconds + part 2 * 3600 + part 3 * 60 + seconds)

end SchemaBuild.Shell.Calendar
