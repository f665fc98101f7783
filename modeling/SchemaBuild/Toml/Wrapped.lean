import SchemaBuild.Toml.Moment

/-!
# Dates that are taken as values

A date or a time may be wrapped into a table: if the first key of a table is the one that is set
aside for this, then its value is the text of the date, and the other keys do not count. Whether
wrapped or not, a date is taken as a value by its text, which has to be complete and to name a day
that exists.
-/

namespace SchemaBuild.Toml

def wrapKey : String := "$__toml_private_datetime"

def daysOf (year month : Nat) : Nat :=
  if month = 2 then
    if year % 4 = 0 && (year % 100 ≠ 0 || year % 400 = 0) then 29 else 28
  else if month = 4 || month = 6 || month = 9 || month = 11 then 30
  else 31

def isExistingDate (date : List Char) : Bool :=
  let number := fun (first count : Nat) =>
    ofDigits 10 (((date.drop first).take count).filterMap (digit? 10))
  number 8 2 ≤ daysOf (number 0 4) (number 5 2)

def settledMoment? (text : List Char) : Option (List Char) := do
  match date? text with
  | none =>
      let (time, rest) ← time? text
      if rest.isEmpty then some time else none
  | some (date, rest) =>
      if !isExistingDate date then none
      else if rest.isEmpty then some date
      else
        let (time, rest) ← timeAfterDate? rest
        if rest.isEmpty then some (date ++ time) else none

def wrapped? : Value → Option Value
  | .string text => (settledMoment? text.toList).map fun text => .moment (String.ofList text)
  | _ => none

mutual

def Value.unwrap? : Value → Option Value
  | .moment text => wrapped? (.string text)
  | .array items => (unwrapItems? items).map .array
  | .table [] => some (.table [])
  | .table ((key, value) :: rest) =>
      if key = wrapKey then wrapped? value
      else (unwrapEntries? ((key, value) :: rest)).map .table
  | value => some value

def unwrapItems? : List Value → Option (List Value)
  | [] => some []
  | item :: rest => do some ((← item.unwrap?) :: (← unwrapItems? rest))

def unwrapEntries? : List (String × Value) → Option (List (String × Value))
  | [] => some []
  | (key, value) :: rest => do some ((key, ← value.unwrap?) :: (← unwrapEntries? rest))

end

end SchemaBuild.Toml
