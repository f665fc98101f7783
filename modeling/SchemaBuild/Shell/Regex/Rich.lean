import SchemaBuild.Shell.Regex

/-!
# The rich notation

A third notation of regular expressions. It has lazy repetitions, groups that are not counted, and
places that are described by what is before or after them. The first way to match counts.
-/

namespace SchemaBuild.Shell.Regex.Rich

def letterMembers? : Char → Option (List SetMember)
  | 'd' => some [.named "digit".toList]
  | 'w' => some wordMembers
  | 's' => some [.named "space".toList]
  | 'h' => some [.named "blank".toList]
  | _ => none

def hexCharacter (text : Script) : Char × Script :=
  match text with
  | '\x7b' :: rest =>
      let digits := rest.takeWhile isHexDigit
      (Char.ofNat (ofDigits 16 digits), rest.drop (digits.length + 1))
  | text =>
      let digits := (text.take 2).takeWhile isHexDigit
      (Char.ofNat (ofDigits 16 digits), text.drop digits.length)

def escapedCharacter (letter : Char) (rest : Script) : Char × Script :=
  match letter with
  | 'e' => ('\x1b', rest)
  | 'x' => hexCharacter rest
  | letter => ((controlLetter? letter).getD letter, rest)

def setMembers : Nat → Bool → Script → Except String (List SetMember × Script)
  | 0, _, _ => .error "missing terminating ] for character class"
  | _ + 1, _, [] => .error "missing terminating ] for character class"
  | _ + 1, false, ']' :: rest => .ok ([], rest)
  | steps + 1, _, '[' :: ':' :: rest => do
      let name := rest.takeWhile Char.isAlpha
      match rest.drop name.length with
      | ':' :: ']' :: after =>
          if (characterClass? name).isNone then .error "unknown POSIX class name"
          else
            let (members, after) ← setMembers steps false after
            .ok (.named name :: members, after)
      | _ =>
          let (members, after) ← setMembers steps false (':' :: rest)
          .ok (.range '[' '[' :: members, after)
  | steps + 1, _, first :: rest => do
      let letter := if first = '\\' then rest.head?.bind letterMembers? else none
      match letter with
      | some named =>
          let (members, after) ← setMembers steps false (rest.drop 1)
          .ok (named ++ members, after)
      | none =>
          let character := fun (text : Script) =>
            match text with
            | '\\' :: letter :: rest => escapedCharacter letter rest
            | character :: rest => (character, rest)
            | [] => ('\\', [])
          let (first, rest) := character (first :: rest)
          match rest with
          | '-' :: last :: after =>
              if last = ']' then
                let (members, rest) ← setMembers steps false rest
                .ok (.range first first :: members, rest)
              else
                let (last, after) := character (last :: after)
                if last < first then .error "range out of order in character class"
                else
                  let (members, rest) ← setMembers steps false after
                  .ok (.range first last :: members, rest)
          | rest =>
              let (members, rest) ← setMembers steps false rest
              .ok (.range first first :: members, rest)

def bounds? (text : Script) : Option ((Nat × Option Nat) × Nat) :=
  match text with
  | '*' :: _ => some ((0, none), 1)
  | '+' :: _ => some ((1, none), 1)
  | '?' :: _ => some ((0, some 1), 1)
  | '\x7b' :: rest =>
      let first := rest.takeWhile Char.isDigit
      let least := ofDigits 10 first
      if first.isEmpty then none
      else
        match rest.drop first.length with
        | '\x7d' :: _ => some ((least, some least), first.length + 2)
        | ',' :: rest =>
            let last := rest.takeWhile Char.isDigit
            match rest.drop last.length with
            | '\x7d' :: _ =>
                some ((least, if last.isEmpty then none else some (ofDigits 10 last)),
                  first.length + last.length + 3)
            | _ => none
        | _ => none
  | _ => none

mutual

def alternatives : Nat → Reading Regex
  | 0 => throw "regular expression is too large"
  | steps + 1 => do
      let first ← items steps
      match ← peek with
      | '|' :: _ =>
          skip 1
          return .choice first (← alternatives steps)
      | _ => return first

def items : Nat → Reading Regex
  | 0 => throw "regular expression is too large"
  | steps + 1 => do
      match ← peek with
      | [] => return .empty
      | '|' :: _ => return .empty
      | ')' :: _ => return .empty
      | text =>
          if (bounds? text).isSome then throw "quantifier does not follow a repeatable item"
          let first ← atom steps
          let first ← match bounds? (← peek) with
            | none => pure first
            | some ((least, most), length) => do
                skip length
                match ← peek with
                | '?' :: _ =>
                    skip 1
                    pure (.repetition true least most first)
                | '+' :: _ =>
                    skip 1
                    pure (.settled (.repetition false least most first))
                | _ => pure (.repetition false least most first)
          return .sequence first (← items steps)

def inside : Nat → Reading Regex
  | 0 => throw "regular expression is too large"
  | steps + 1 => do
      let body ← alternatives steps
      match ← peek with
      | ')' :: _ =>
          skip 1
          return body
      | _ => throw "missing closing parenthesis"

def atom : Nat → Reading Regex
  | 0 => throw "regular expression is too large"
  | steps + 1 => do
      let after : Nat → Reading Regex := fun length => do
        skip length
        inside steps
      let counted : Nat → Reading Regex := fun length => do
        skip length
        let number := (← get).groups + 1
        modify fun progress => { progress with groups := number }
        let body ← inside steps
        modify fun progress => { progress with closed := number :: progress.closed }
        return .group number body
      match ← peek with
      | [] => return .empty
      | '.' :: _ =>
          skip 1
          return .set false [.range '\n' '\n']
      | '^' :: _ =>
          skip 1
          return .lineStart
      | '$' :: _ =>
          skip 1
          return .lineEnd
      | '(' :: '?' :: ':' :: _ => after 3
      | '(' :: '?' :: '>' :: _ => return .settled (← after 3)
      | '(' :: '?' :: '=' :: _ => return .look true true (← after 3)
      | '(' :: '?' :: '!' :: _ => return .look true false (← after 3)
      | '(' :: '?' :: '<' :: '=' :: _ => return .look false true (← after 4)
      | '(' :: '?' :: '<' :: '!' :: _ => return .look false false (← after 4)
      | '(' :: '?' :: 'P' :: '<' :: rest => counted (5 + (rest.takeWhile (· ≠ '>')).length)
      | '(' :: '?' :: '<' :: rest => counted (4 + (rest.takeWhile (· ≠ '>')).length)
      | '(' :: '?' :: _ => throw "unrecognized character after (? or (?-"
      | '(' :: _ => counted 1
      | '[' :: rest =>
          let (holds, rest) := match rest with
            | '^' :: rest => (false, rest)
            | rest => (true, rest)
          let (members, after) ← (setMembers (rest.length + 1) true rest)
          modify fun progress => { progress with text := after }
          return .set holds members
      | '\\' :: [] => throw "\\ at end of pattern"
      | '\\' :: letter :: rest =>
          skip 2
          match letterMembers? letter, letterMembers? letter.toLower with
          | some members, _ => return .set true members
          | none, some members => return .set false members
          | none, none =>
              match letter with
              | 'b' => return .edge .word
              | 'B' => return .edge .noWord
              | 'A' => return .edge .textStart
              | 'z' => return .edge .textEnd
              | 'Z' => return .edge .textEnd
              | 'K' => return .restart
              | 'N' => return .set false [.range '\n' '\n']
              | letter =>
                  if letter.isDigit && letter ≠ '0' then
                    let number := letter.toNat - 48
                    if (← get).groups < number then
                      throw "reference to non-existent subpattern"
                    return .again number
                  else
                    let (character, rest) := escapedCharacter letter rest
                    modify fun progress => { progress with text := rest }
                    return exactly character
      | character :: _ =>
          skip 1
          return exactly character

end

def parse (text : Script) : Except String (Regex × Bool) :=
  let mark := "(?i)".toList
  let ignoresCase := mark.isPrefixOf text
  let text := if ignoresCase then text.drop mark.length else text
  match (alternatives (4 * text.length + 16)).run { text := text } with
  | .error reason => .error reason
  | .ok (regex, progress) =>
      if progress.text.isEmpty then .ok (regex, ignoresCase)
      else .error "unmatched closing parenthesis"

end SchemaBuild.Shell.Regex.Rich
