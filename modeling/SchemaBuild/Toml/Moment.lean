import SchemaBuild.Toml.Number

/-!
# Dates and times

A date, a time, or both with or without an offset. The value is the text in its usual form: a `T`
between date and time, an upper case `Z`, no zeros at the end of the fraction of a second, of
which nine digits count.
-/

namespace SchemaBuild.Toml

def fixedDigits? : Nat → Reader (List Char)
  | 0, text => some ([], text)
  | count + 1, character :: rest =>
      if isDigit character then consRead character (fixedDigits? count rest) else none
  | _ + 1, [] => none

def twoDigits? (low high : Nat) (text : List Char) : Option (List Char × List Char) := do
  let (digits, rest) ← fixedDigits? 2 text
  let value := ofDigits 10 (digits.filterMap (digit? 10))
  if low ≤ value && value ≤ high then some (digits, rest) else none

def take? (expected : Char) : List Char → Option (List Char)
  | character :: rest => if character = expected then some rest else none
  | [] => none

def date? (text : List Char) : Option (List Char × List Char) := do
  let (year, rest) ← fixedDigits? 4 text
  let (month, rest) ← twoDigits? 1 12 (← take? '-' rest)
  let (day, rest) ← twoDigits? 1 31 (← take? '-' rest)
  some (year ++ '-' :: month ++ '-' :: day, rest)

def secondFraction (digits : List Char) : List Char :=
  let kept := ((digits.take 9).reverse.dropWhile (· = '0')).reverse
  if kept.isEmpty then [] else '.' :: kept

def time? (text : List Char) : Option (List Char × List Char) := do
  let (hour, rest) ← twoDigits? 0 23 text
  let (minute, rest) ← twoDigits? 0 59 (← take? ':' rest)
  let (second, rest) ← twoDigits? 0 60 (← take? ':' rest)
  let clock := hour ++ ':' :: minute ++ ':' :: second
  match rest with
  | '.' :: digit :: rest =>
      if isDigit digit then
        some (clock ++ secondFraction (digit :: rest.takeWhile isDigit), rest.dropWhile isDigit)
      else some (clock, '.' :: digit :: rest)
  | _ => some (clock, rest)

def offset? : Reader (List Char)
  | 'Z' :: rest => some (['Z'], rest)
  | 'z' :: rest => some (['Z'], rest)
  | mark :: rest =>
      if mark = '+' || mark = '-' then do
        let (hour, rest) ← twoDigits? 0 23 rest
        let (minute, rest) ← twoDigits? 0 59 (← take? ':' rest)
        let mark := if (hour ++ minute).all (· = '0') then '+' else mark
        some (mark :: hour ++ ':' :: minute, rest)
      else none
  | [] => none

def timeAfterDate? : Reader (List Char)
  | mark :: rest =>
      if mark = 'T' || mark = 't' || mark = ' ' then do
        let (time, rest) ← time? rest
        match offset? rest with
        | some (offset, rest) => some ('T' :: time ++ offset, rest)
        | none => some ('T' :: time, rest)
      else none
  | [] => none

def moment? (text : List Char) : Option (Value × List Char) :=
  match date? text with
  | some (date, rest) =>
      match timeAfterDate? rest with
      | some (time, rest) => some (.moment (String.ofList (date ++ time)), rest)
      | none => some (.moment (String.ofList date), rest)
  | none => (time? text).map fun (time, rest) => (.moment (String.ofList time), rest)

end SchemaBuild.Toml
