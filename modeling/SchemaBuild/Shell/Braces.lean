import SchemaBuild.Shell.Command

/-!
# Alternatives between braces

In the extended dialect a word with alternatives between braces stands for several words, one for
each alternative. The alternatives are listed with commas, or are a range.
-/

namespace SchemaBuild.Shell.Braces

inductive Element where
  | character (character : Char)
  | part (part : Part)

def elements (word : Word) : List Element :=
  word.flatMap fun
    | .text false text => text.map .character
    | part => [.part part]

def toWord (elements : List Element) : Word :=
  Word.join (elements.map fun
    | .character character => .text false [character]
    | .part part => part)

/-- Split elements at commas outside of inner braces, up to the closing brace. Gives nothing if
there is no such brace. -/
def alternatives? : Nat → List Element → List Element → Option (List (List Element) × List Element)
  | _, _, [] => none
  | depth, taken, element :: rest =>
      match element with
      | .character '\x7b' => alternatives? (depth + 1) (element :: taken) rest
      | .character '\x7d' =>
          match depth with
          | 0 => some ([taken.reverse], rest)
          | depth + 1 => alternatives? depth (element :: taken) rest
      | .character ',' =>
          if depth = 0 then
            (alternatives? 0 [] rest).map fun (others, rest) => (taken.reverse :: others, rest)
          else alternatives? depth (element :: taken) rest
      | element => alternatives? depth (element :: taken) rest

def text? (elements : List Element) : Option Script :=
  elements.mapM fun
    | .character character => some character
    | .part _ => none

def integer? (text : Script) : Option Int :=
  let (negative, digits) := match text with
    | '-' :: digits => (true, digits)
    | digits => (false, digits)
  if digits.isEmpty || !digits.all Char.isDigit then none
  else
    let value : Int := digits.foldl (fun value digit => value * 10 + (digit.toNat - 48)) 0
    some (if negative then -value else value)

def numbers (first last : Int) (step : Nat) : List Int :=
  let step := max step 1
  (List.range ((last - first).natAbs / step + 1)).map fun (index : Nat) =>
    if first ≤ last then first + index * step else first - index * step

def range? (text : Script) : Option (List Script) :=
  match (String.ofList text).splitOn ".." with
  | first :: last :: rest =>
      let step := match rest with
        | [step] => (integer? step.toList).map Int.natAbs
        | [] => some 1
        | _ => none
      match step, integer? first.toList, integer? last.toList with
      | some step, some low, some high =>
          let isPadded := fun (text : String) => 1 < text.length && text.toList.head? = some '0'
          let width := if isPadded first || isPadded last then max first.length last.length else 0
          some ((numbers low high step).map fun number =>
            let digits := (toString number.natAbs).toList
            let sign := if number < 0 then ['-'] else []
            sign ++ List.replicate (width - sign.length - digits.length) '0' ++ digits)
      | some step, none, none =>
          match first.toList, last.toList with
          | [low], [high] =>
              some ((numbers low.toNat high.toNat step).map fun number =>
                [Char.ofNat number.toNat])
          | _, _ => none
      | _, _, _ => none
  | _ => none

def expandWithin : Nat → List Element → List (List Element)
  | 0, elements => [elements]
  | _ + 1, [] => [[]]
  | steps + 1, element :: rest =>
      let asItself := fun (_ : Unit) => (expandWithin steps rest).map (element :: ·)
      match element with
      | .character '\x7b' =>
          match alternatives? 0 [] rest with
          | none => asItself ()
          | some ([one], after) =>
              match (text? one).bind range? with
              | none => asItself ()
              | some texts =>
                  let tails := expandWithin steps after
                  texts.flatMap fun text => tails.map fun tail => text.map .character ++ tail
          | some (alternatives, after) =>
              let tails := expandWithin steps after
              alternatives.flatMap fun alternative =>
                (expandWithin steps alternative).flatMap fun first =>
                  tails.map fun tail => first ++ tail
      | _ => asItself ()

def expand (word : Word) : List Word :=
  let elements := elements word
  (expandWithin (elements.length + 1) elements).map toWord

end SchemaBuild.Shell.Braces
