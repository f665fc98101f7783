import SchemaBuild.Shell.Regex

/-!
# Matching

Where a regular expression matches in a text. Of all matches that start first the longest one
counts, unless the first one that is found is asked for.
-/

namespace SchemaBuild.Shell

namespace Regex

structure Subject where
  text : Array Char
  ignoresCase : Bool := false
  manyLines : Bool := false
  isInside : Bool := false
  firstCounts : Bool := false

abbrev Groups := List (Nat × Nat × Nat)

structure Match where
  start : Nat
  stop : Nat
  groups : Groups := []
  deriving Repr

inductive Work where
  | regex (regex : Regex)
  | close (number start : Nat)
  | rounds (lazy : Bool) (least : Nat) (most : Option Nat) (body : Regex) (count : Nat)
      (before : Option Nat)
  | stopAt (place : Nat)

namespace Subject

def isWordAt (subject : Subject) (place : Nat) : Bool :=
  match subject.text[place]? with
  | some character => character.isAlphanum || character = '_'
  | none => false

def isEdge (subject : Subject) (edge : Edge) (place : Nat) : Bool :=
  let before := 0 < place && subject.isWordAt (place - 1)
  let after := subject.isWordAt place
  match edge with
  | .wordStart => !before && after
  | .wordEnd => before && !after
  | .word => before ≠ after
  | .noWord => before = after
  | .textStart => place = 0
  | .textEnd => place = subject.text.size

def isLineStart (subject : Subject) (place : Nat) : Bool :=
  place = 0 && !subject.isInside ||
    subject.manyLines && 0 < place && subject.text[place - 1]? = some '\n'

def isLineEnd (subject : Subject) (place : Nat) : Bool :=
  place = subject.text.size || subject.manyLines && subject.text[place]? = some '\n'

def accepts (subject : Subject) (inside : Bool) (members : List SetMember) (place : Nat) : Bool :=
  match subject.text[place]? with
  | none => false
  | some character =>
      let isMember := fun (character : Char) =>
        members.any fun member => member.accepts character
      (isMember character || subject.ignoresCase &&
        (isMember character.toLower || isMember character.toUpper)) = inside

def run (subject : Subject) (inside : Bool) (members : List SetMember) : Nat → Nat → Nat
  | 0, _ => 0
  | limit + 1, place =>
      if subject.accepts inside members place then
        subject.run inside members limit (place + 1) + 1
      else 0

def slice (subject : Subject) (start stop : Nat) : Script :=
  (subject.text.extract start stop).toList

end Subject

mutual

def search (subject : Subject) (start : Nat) :
    Nat → List Work → Nat → Groups → Option Match → Option Match
  | 0, _, _, _, best => best
  | _ + 1, [], place, groups, best =>
      if best.all fun found => found.stop < place then
        some ⟨((groups.lookup 0).map (·.1)).getD start, place, groups⟩
      else best
  | steps + 1, work :: rest, place, groups, best =>
      if best.any fun found => subject.firstCounts || found.stop = subject.text.size then best
      else
        match work with
        | .close number opened =>
            search subject start steps rest place ((number, opened, place) :: groups) best
        | .stopAt wanted =>
            if place = wanted then search subject start steps rest place groups best else best
        | .rounds lazy least most body count before =>
            let isMore := most.all (count < ·) && (count < least || before ≠ some place)
            let isEnough := least ≤ count || before = some place
            let more := fun (best : Option Match) =>
              if isMore then
                search subject start steps
                  (.regex body :: .rounds lazy least most body (count + 1) (some place) :: rest)
                  place groups best
              else best
            let enough := fun (best : Option Match) =>
              if isEnough then search subject start steps rest place groups best else best
            if lazy then more (enough best) else enough (more best)
        | .regex regex =>
            match regex with
            | .empty => search subject start steps rest place groups best
            | .set inside members =>
                if subject.accepts inside members place then
                  search subject start steps rest (place + 1) groups best
                else best
            | .lineStart =>
                if subject.isLineStart place then search subject start steps rest place groups best
                else best
            | .lineEnd =>
                if subject.isLineEnd place then search subject start steps rest place groups best
                else best
            | .edge kind =>
                if subject.isEdge kind place then search subject start steps rest place groups best
                else best
            | .sequence first second =>
                search subject start steps (.regex first :: .regex second :: rest) place groups best
            | .choice first second =>
                let best := search subject start steps (.regex first :: rest) place groups best
                search subject start steps (.regex second :: rest) place groups best
            | .group number body =>
                search subject start steps (.regex body :: .close number place :: rest) place groups
                  best
            | .again number =>
                match groups.lookup number with
                | none => best
                | some (opened, closed) =>
                    let folded := fun (text : Script) =>
                      if subject.ignoresCase then text.map Char.toLower else text
                    let text := subject.slice opened closed
                    if folded (subject.slice place (place + text.length)) = folded text then
                      search subject start steps rest (place + text.length) groups best
                    else best
            | .restart => search subject start steps rest place ((0, place, place) :: groups) best
            | .settled body =>
                match search subject start steps [.regex body] place groups none with
                | some found => search subject start steps rest found.stop found.groups best
                | none => best
            | .look true holds body =>
                match search subject place steps [.regex body] place groups none with
                | some found =>
                    if holds then search subject start steps rest place found.groups best else best
                | none =>
                    if holds then best else search subject start steps rest place groups best
            | .look false holds body =>
                match searchBehind subject steps body place groups (place + 1) with
                | some found =>
                    if holds then search subject start steps rest place found.groups best else best
                | none =>
                    if holds then best else search subject start steps rest place groups best
            | .repetition lazy least most body =>
                match lazy, body with
                | false, .set inside members =>
                    let limit := match most with
                      | some most => min most (subject.text.size - place)
                      | none => subject.text.size - place
                    let count := subject.run inside members limit place
                    if count < least then best
                    else
                      searchRun subject start steps rest place groups (count - least + 1) least best
                | lazy, body =>
                    search subject start steps (.rounds lazy least most body 0 none :: rest) place
                      groups best
termination_by structural fuel => fuel

def searchRun (subject : Subject) (start : Nat) :
    Nat → List Work → Nat → Groups → Nat → Nat → Option Match → Option Match
  | 0, _, _, _, _, _, best => best
  | _ + 1, _, _, _, 0, _, best => best
  | steps + 1, rest, place, groups, choices + 1, least, best =>
      let best := search subject start steps rest (place + least + choices) groups best
      searchRun subject start steps rest place groups choices least best
termination_by structural fuel => fuel

def searchBehind (subject : Subject) :
    Nat → Regex → Nat → Groups → Nat → Option Match
  | 0, _, _, _, _ => none
  | _ + 1, _, _, _, 0 => none
  | steps + 1, body, place, groups, count + 1 =>
      let start := count
      match search subject start steps [.regex body, .stopAt place] start groups none with
      | some found => some found
      | none => searchBehind subject steps body place groups count
termination_by structural fuel => fuel

end

def size : Regex → Nat
  | .sequence first second => first.size + second.size + 1
  | .choice first second => first.size + second.size + 1
  | .repetition _ _ _ body => body.size + 1
  | .look _ _ body => body.size + 1
  | .settled body => body.size + 1
  | .group _ body => body.size + 2
  | _ => 1

def groupCount : Regex → Nat
  | .sequence first second => max first.groupCount second.groupCount
  | .choice first second => max first.groupCount second.groupCount
  | .repetition _ _ _ body => body.groupCount
  | .look _ _ body => body.groupCount
  | .settled body => body.groupCount
  | .group number body => max number body.groupCount
  | _ => 0

def matchAt? (regex : Regex) (subject : Subject) (start : Nat) : Option Match :=
  search subject start ((regex.size + 4) * (subject.text.size + 4) * 2) [.regex regex] start [] none

def find? (regex : Regex) (subject : Subject) : Nat → Nat → Option Match
  | 0, _ => none
  | count + 1, start =>
      match regex.matchAt? subject start with
      | some found => some found
      | none => regex.find? subject count (start + 1)

def findFrom? (regex : Regex) (subject : Subject) (start : Nat) : Option Match :=
  regex.find? subject (subject.text.size + 1 - start) start

def matchesIn (regex : Regex) (subject : Subject) : Bool :=
  (regex.findFrom? subject 0).isSome

def Match.group (found : Match) (subject : Subject) (number : Nat) : Script :=
  if number = 0 then subject.slice found.start found.stop
  else
    match found.groups.lookup number with
    | some (start, stop) => subject.slice start stop
    | none => []

/-! ## Replacing -/

/-- Replace matches from a place on, those from a number on and only the first of them unless
`every`. The next match has the given number. An empty match right after another one does not count.
Gives the new text, and how many matches were replaced. -/
def replaceFrom (regex : Regex) (subject : Subject) (ordinal : Nat) (every : Bool)
    (new : Match → Script) : Nat → Nat → Nat → Option Nat → Script × Nat
  | 0, place, _, _ => (subject.slice place subject.text.size, 0)
  | steps + 1, place, number, before =>
      if subject.text.size < place then ([], 0)
      else
        match regex.findFrom? subject place with
        | none => (subject.slice place subject.text.size, 0)
        | some found =>
            let lead := subject.slice place found.start
            let next := subject.slice found.stop (found.stop + 1)
            let isEmpty := found.start = found.stop
            if isEmpty && before = some found.start then
              let (text, count) :=
                replaceFrom regex subject ordinal every new steps (found.stop + 1) number none
              (lead ++ next ++ text, count)
            else
              let isWanted := ordinal ≤ number
              let placed := if isWanted then new found else subject.slice found.start found.stop
              if isWanted && !every then
                (lead ++ placed ++ subject.slice found.stop subject.text.size, 1)
              else
                let (text, count) := replaceFrom regex subject ordinal every new steps
                  (if isEmpty then found.stop + 1 else found.stop) (number + 1)
                  (if isEmpty then none else some found.stop)
                (lead ++ placed ++ (if isEmpty then next else []) ++ text,
                  if isWanted then count + 1 else count)

def replace (regex : Regex) (subject : Subject) (ordinal : Nat) (every : Bool)
    (new : Match → Script) : Script × Nat :=
  regex.replaceFrom subject ordinal every new (subject.text.size + 2) 0 1 none

end Regex

end SchemaBuild.Shell
