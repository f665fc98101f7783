import SchemaBuild.Shell.Utility.FileFacts

/-!
# Dates

Utilities that show moments, and that say when files were written.
-/

namespace SchemaBuild.Shell.Utility

def presentMoment? (text : Script) : Option Calendar.Moment :=
  Calendar.moment? presentTime text

/-! ## Showing moments -/

namespace Dating

def units : List (String × List String) :=
  [("%Y-%m-%dT%H%:z", ["hours"]), ("%Y-%m-%dT%H:%M%:z", ["minutes"]), ("%Y-%m-%d", ["date"]),
    ("%Y-%m-%dT%H:%M:%S%:z", ["seconds"]), ("%Y-%m-%dT%H:%M:%S,%N%:z", ["ns"])]

def blankUnits : List (String × List String) :=
  [("%Y-%m-%d", ["date"]), ("%Y-%m-%d %H:%M:%S%:z", ["seconds"]),
    ("%Y-%m-%d %H:%M:%S.%N%:z", ["ns"])]

def mailFormat : String := "%a, %d %b %Y %H:%M:%S %z"

def formatOf (letter : Char) (value : Script) : Except (Running Nat) (Option Script) :=
  match letter with
  | 'R' => .ok (some mailFormat.toList)
  | 'I' =>
      match choice? units (if value.isEmpty then "date".toList else value) with
      | some format => .ok (some format.toList)
      | none => .error (refuseChoice "date" "--iso-8601" units value)
  | 'ρ' =>
      match choice? blankUnits value with
      | some format => .ok (some format.toList)
      | none => .error (refuseChoice "date" "--rfc-3339" blankUnits value)
  | _ => .ok none

def format (options : List (Char × Script)) : Running (Except Nat (Option Script)) := do
  let mut chosen : Option Script := none
  for (letter, value) in options do
    match formatOf letter value with
    | .error refusal => return .error (← refusal)
    | .ok none => pure ()
    | .ok (some format) =>
        if chosen.isSome then
          return .error (← fail "date" "multiple output formats specified".toList)
        chosen := some format
  return .ok chosen

end Dating

def date : Utility := fun given =>
  Grammar.run
    { name := "date", flags := "uRδ", valued := "dfrsρ", optional := "I"
      long := [("date", 'd'), ("file", 'f'), ("iso-8601", 'I'), ("reference", 'r'),
        ("rfc-email", 'R'), ("rfc-822", 'R'), ("rfc-2822", 'R'), ("rfc-3339", 'ρ'), ("set", 's'),
        ("utc", 'u'), ("universal", 'u'), ("uct", 'u'), ("debug", 'δ')] } given fun arguments => do
    match ← Dating.format arguments.options with
    | .error status => return status
    | .ok format? =>
        let sources := ['d', 'f', 'r'].filter arguments.has
        if 1 < sources.length then
          return ← failUsage "date"
            "the options to specify dates for printing are mutually exclusive".toList
        let format ← match arguments.operands with
          | [] => pure (format?.getD "%a %b %e %H:%M:%S %Z %Y".toList)
          | _ :: extra :: _ => return ← failUsage "date" ("extra operand ".toList ++ quote extra)
          | [operand] =>
              match operand, format? with
              | '+' :: _, some _ =>
                  return ← fail "date" "multiple output formats specified".toList
              | '+' :: format, none => pure format
              | _, _ =>
                  if sources.isEmpty then
                    return ← fail "date" ("invalid date ".toList ++ quote operand)
                  discard (fail "date" ("the argument ".toList ++ quote operand ++
                    " lacks a leading '+';".toList))
                  complain "when using an option to specify date(s), any non-option".toList
                  complain "argument must be a format string beginning with '+'".toList
                  pointToHelp "date"
                  return 1
        let shown := fun (moment : Calendar.Moment) =>
          printLine (Calendar.formatted moment format)
        let named := fun (text : Script) => do
          match presentMoment? text with
          | some moment =>
              shown moment
              return 0
          | none => fail "date" ("invalid date ".toList ++ quote text)
        match arguments.value? 'd', arguments.value? 'f', arguments.value? 'r' with
        | some text, _, _ => named text
        | none, some path, _ =>
            match ← textOf path with
            | .ok text => forEachOperand (plainLines text) named
            | .error error => failPlainly "date" path error
        | none, none, some path =>
            match ← nodeAt? true path with
            | .ok node =>
                shown { seconds := (factsOf (← get).files node).2.2 }
                return 0
            | .error error => failPlainly "date" path error
        | none, none, none =>
            shown { seconds := presentTime }
            return 0

/-! ## Setting moments -/

namespace Touching

def times : List (Unit × List String) :=
  [((), ["atime", "access", "use"]), ((), ["mtime", "modify"])]

def moment (arguments : Arguments) : Running (Except Nat Int) := do
  let reference ← match arguments.value? 'r' with
    | none => pure none
    | some path =>
        match ← nodeAt? (!arguments.has 'h') path with
        | .ok node => pure (some (factsOf (← get).files node).2.2)
        | .error error =>
            return .error (← failAt "touch" "failed to get attributes of " path error)
  match arguments.value? 'd', arguments.value? 't', reference with
  | some text, _, reference =>
      match Calendar.moment? (reference.getD presentTime) text with
      | some moment => return .ok moment.seconds
      | none => return .error (← fail "touch" ("invalid date format ".toList ++ quote text))
  | none, some text, _ =>
      match Calendar.stamp? presentTime text with
      | some time => return .ok time
      | none => return .error (← fail "touch" ("invalid date format ".toList ++ quote text))
  | none, none, some time => return .ok time
  | none, none, none => return .ok presentTime

def touchAt (arguments : Arguments) (time : Int) (path : Script) : Running Nat := do
  if path = ['-'] then return 0
  let place := Bytes.ofLatin path
  let makes := !(arguments.has 'c' || arguments.has 'h')
  let isThere := (← get).files.exists? place
  if !isThere && !makes then
    match ← nodeAt? (!arguments.has 'h') path with
    | .ok _ => return 0
    | .error error =>
        if error = .notFound && (arguments.has 'c' || !arguments.has 'h') then return 0
        return ← failAt "touch" "setting times of " path error
  let result ← if isThere then pure (Except.ok ()) else do
    match ← openAt path .append with
    | .ok _ => pure (.ok ())
    | .error error => pure (.error error)
  match result with
  | .ok () =>
      discard (changeFiles fun files => files.changeAt place fun file => { file with time := time })
      return 0
  | .error error =>
      if path.getLast? = some '/' then
        let error := match ← nodeAt? true path with
          | .error error => error
          | .ok _ => error
        failAt "touch" "setting times of " path error
      else failAt "touch" "cannot touch " path error

end Touching

def touch : Utility := fun given =>
  Grammar.run
    { name := "touch", flags := "acfhm", valued := "drtτ"
      long := [("time", 'τ'), ("no-create", 'c'), ("date", 'd'), ("reference", 'r'),
        ("no-dereference", 'h')] } given fun arguments => do
    for word in arguments.values 'τ' do
      if (choice? Touching.times word).isNone then
        return ← refuseChoice "touch" "--time" Touching.times word
    if arguments.has 't' && (arguments.has 'd' || arguments.has 'r') then
      return ← failUsage "touch" "cannot specify times from more than one source".toList
    match ← Touching.moment arguments with
    | .error status => return status
    | .ok time =>
        if arguments.operands.isEmpty then failUsage "touch" "missing file operand".toList
        else forEachOperand arguments.operands (Touching.touchAt arguments time)

end SchemaBuild.Shell.Utility
