import SchemaBuild.Shell.Cursor

/-!
# Quotation in messages

How messages show a text so that its ends, its blanks and its strange characters can be seen. A path
is shown in a form that a shell could read again.
-/

namespace SchemaBuild.Shell.Quotation

def isPrintable (character : Char) : Bool :=
  32 ≤ character.toNat && character.toNat < 127

def escaped (character : Char) : Script :=
  match character.toNat with
  | 7 => ['a']
  | 8 => ['b']
  | 9 => ['t']
  | 10 => ['n']
  | 11 => ['v']
  | 12 => ['f']
  | 13 => ['r']
  | code =>
      [64, 8, 1].map fun place => Char.ofNat ('0'.toNat + code / place % 8)

def plain (text : Script) : Script :=
  '\'' :: (text.flatMap fun character =>
    if character = '\'' || character = '\\' then ['\\', character]
    else if isPrintable character then [character]
    else '\\' :: escaped character) ++ ['\'']

def isSpecial (text : Script) (isFirst : Bool) (character : Char) : Bool :=
  " !\"$&()*;<=>[^|?'\\:\x60".toList.contains character ||
    isFirst && ['#', '~'].contains character ||
    text.length = 1 && ['\x7b', '\x7d'].contains character

def isMild (text : Script) (isFirst : Bool) (character : Char) : Bool :=
  character = ' ' || character = '\'' || character = ':' ||
    isPrintable character && !isSpecial text true character &&
      !(['\x7b', '\x7d'].contains character) ||
    isFirst && ['#', '~'].contains character

/-- What stands between single quotes for a text: a quote is put outside of them, and so is a
strange character. Whether such characters went before is told. -/
def inSingle : Bool → Script → Script
  | _, [] => ['\'']
  | isStrange, character :: rest =>
      if character = '\'' then '\'' :: '\\' :: '\'' :: '\'' :: inSingle false rest
      else if isPrintable character then
        (if isStrange then ['\'', '\''] else []) ++ character :: inSingle false rest
      else (if isStrange then [] else ['\'', '$', '\'']) ++ '\\' :: escaped character ++
        inSingle true rest

def always (text : Script) : Script :=
  let isMildText := match text with
    | [] => true
    | first :: rest => isMild text true first && rest.all (isMild text false)
  if text.contains '\'' && isMildText then '"' :: text ++ ['"']
  else '\'' :: inSingle false text

def ifNeeded (text : Script) : Script :=
  let needs := fun (isFirst : Bool) (character : Char) =>
    isSpecial text isFirst character || !isPrintable character
  match text with
  | [] => ['\'', '\'']
  | first :: rest => if needs true first || rest.any (needs false) then always text else text

example : always "a b".toList = "'a b'".toList := by decide +kernel
example : always "it's".toList = "\"it's\"".toList := by decide +kernel
example : always "it's $".toList = "'it'\\''s $'".toList := by decide +kernel
example : always "a\nb".toList = "'a'$'\\n''b'".toList := by decide +kernel
example : ifNeeded "a.b".toList = "a.b".toList := by decide +kernel
example : ifNeeded "a b".toList = "'a b'".toList := by decide +kernel

end SchemaBuild.Shell.Quotation
