import SchemaBuild.Shell.Calendar
import SchemaBuild.Shell.Regex.Matching
import SchemaBuild.Shell.Utility.Modes

/-!
# Expressions about files

What is tested of files that are found, and what is done about them. The words of an expression are
first read one by one as tests and operators, and then put together.
-/

namespace SchemaBuild.Shell.Utility.Find

/-! ## Expressions -/

structure Quantity where
  sign : Option Char
  number : Nat

def Quantity.accepts (quantity : Quantity) (number : Nat) : Bool :=
  match quantity.sign with
  | some '+' => quantity.number < number
  | some _ => number < quantity.number
  | none => number = quantity.number

inductive Fact where
  | links
  | user
  | group
  | number
  deriving DecidableEq

structure Running where
  words : List Script
  isMany : Bool := false
  isThere : Bool := false
  asks : Bool := false
  deriving DecidableEq

inductive Expression where
  | constant (value : Bool)
  | name (whole ignoresCase : Bool) (pattern : Script)
  | target (ignoresCase : Bool) (pattern : Script)
  | regex (regex : Regex) (ignoresCase : Bool)
  | kind (letters : List Char) (follows : Bool)
  | empty
  | size (unit : Nat) (quantity : Quantity)
  | age (unit : Nat) (quantity : Quantity)
  | permissions (sign : Option Char) (mode : Nat)
  | newer (path : Script)
  | newerThan (time : Int)
  | same (path : Script)
  | fact (fact : Fact) (quantity : Quantity)
  | runnable
  | print (ending : Char) (file : Option Script)
  | format (text : Script) (file : Option Script)
  | details (file : Option Script)
  | run (running : Running)
  | delete
  | prune
  | quit
  | negation (expression : Expression)
  | both (first second : Expression)
  | either (first second : Expression)
  | sequence (first second : Expression)

inductive Following where
  | never
  | tops
  | always
  deriving DecidableEq

structure Walk where
  following : Following := .never
  least : Nat := 0
  most : Option Nat := none
  contentFirst : Bool := false
  isTold : Bool := false
  regexStyle : Regex.Style := { simpleOperators := true }
  fromDayEnd : Bool := false
  needed : List Script := []
  outputs : List Script := []
  warnings : List Script := []
  deletes : Bool := false
  prunes : Bool := false

/-! ## Words -/

inductive Fault where
  | plain (text : Script)
  | stray (word : Script) (last : Option Script)

def deny {monad : Type → Type} [MonadExcept Fault monad] {α : Type} (text : Script) : monad α :=
  throw (.plain text)

abbrev Reading := StateT (List Script × Walk) (Except Fault)

def backquote (text : Script) : Script :=
  '\x60' :: text ++ ['\'']

def argument (test : Script) : Reading Script := do
  match ← get with
  | (value :: rest, walk) =>
      set (rest, walk)
      return value
  | ([], _) => deny ("missing argument to ".toList ++ backquote test)

def refuse {α : Type} (test value : Script) : Reading α :=
  deny ("invalid argument ".toList ++ backquote value ++ " to ".toList ++ backquote test)

def changeWalk (change : Walk → Walk) : Reading Expression := do
  modify fun (words, walk) => (words, change walk)
  return .constant true

def warn (text : Script) : Reading PUnit :=
  modify fun (words, walk) => (words, { walk with warnings := walk.warnings ++ [text] })

def quantity? (text : Script) : Option Quantity :=
  let (sign, digits) := match text with
    | '+' :: rest => (some '+', rest)
    | '-' :: rest => (some '-', rest)
    | rest => (none, rest)
  (number? digits).map fun number => ⟨sign, number⟩

def quantity (test : Script) : Reading Quantity := do
  let text ← argument test
  match quantity? text with
  | some quantity => return quantity
  | none => refuse test text

def sizeQuantity (test : Script) : Reading Expression := do
  let text ← argument test
  match text.getLast? with
  | none => deny "invalid null argument to -size".toList
  | some last =>
      let unit? := (([('b', 512), ('c', 1), ('w', 2), ('k', 1024), ('M', 1048576),
        ('G', 1073741824)] : List (Char × Nat)).lookup last)
      if unit?.isNone && !last.isDigit then
        deny ("invalid -size type ".toList ++ backquote [last])
      match quantity? (if unit?.isSome then text.dropLast else text) with
      | some quantity => return .size (unit?.getD 512) quantity
      | none => deny ("Invalid argument ".toList ++ backquote text ++ " to -size".toList)

def natural (test : Script) : Reading Nat := do
  let text ← argument test
  match number? text with
  | some number => return number
  | none =>
      deny ("Expected a positive decimal integer argument to ".toList ++ test ++
        ", but got ".toList ++ quote text)

def kinds (test : Script) : Reading (List Char) := do
  let text ← argument test
  if text.isEmpty then
    deny ("Arguments to ".toList ++ test ++ " should contain at least one letter".toList)
  letters test text
where
  letters (test : Script) : Script → Reading (List Char)
    | [] => return []
    | letter :: rest => do
        unless "bcdpflsD".toList.contains letter do
          deny ("Unknown argument to ".toList ++ test ++ ": ".toList ++ [letter])
        match rest with
        | [] => return [letter]
        | [','] =>
            deny ("Last file type in list argument to ".toList ++ test ++
              " is missing, i.e., list is ending on: ','".toList)
        | ',' :: rest => return letter :: (← letters test rest)
        | _ =>
            deny ("Must separate multiple arguments to ".toList ++ test ++ " using: ','".toList)

def commandWords (test : Script) : List Script → List Script → Reading (List Script × Bool)
  | _, [] => deny ("missing argument to ".toList ++ backquote test)
  | words, word :: rest => do
      let finish := fun (isMany : Bool) => do
        modify fun (_, walk) => (rest, walk)
        return (words.reverse, isMany)
      if word = [';'] then finish false
      else if word = ['+'] && words.head? = some ['\x7b', '\x7d'] then finish true
      else commandWords test (word :: words) rest

def hasPlace : Script → Bool
  | '\x7b' :: '\x7d' :: _ => true
  | _ :: rest => hasPlace rest
  | [] => false

def command (test : Script) (isThere asks : Bool) : Reading Expression := do
  let (words, isMany) ← commandWords test [] (← get).1
  if words.isEmpty then refuse test [';']
  if isMany && words.dropLast.any hasPlace then
    deny ("Only one instance of \x7b\x7d is supported with ".toList ++ test ++ " ... +".toList)
  return .run { words := if isMany then words.dropLast else words, isMany, isThere, asks }

def regexTypes : List String :=
  ["findutils-default", "ed", "emacs", "gnu-awk", "grep", "posix-awk", "awk", "posix-basic",
    "posix-egrep", "egrep", "posix-extended", "posix-minimal-basic", "sed"]

def regexStyle? (type : String) : Option Regex.Style :=
  if !regexTypes.contains type then none
  else if ["findutils-default", "emacs"].contains type then some { simpleOperators := true }
  else if ["ed", "grep", "posix-basic", "posix-minimal-basic", "sed"].contains type then some {}
  else some { extended := true, loneOperators := .skipped, looseParentheses := true }

def regexArgument (test : Script) : Reading Regex := do
  let text ← argument test
  match Regex.parse (← get).2.regexStyle text with
  | .ok regex => return regex
  | .error reason =>
      deny ("failed to compile regular expression '".toList ++ text ++ "': ".toList ++
        reason.toList)

def pathPattern (test : Script) : Reading Script := do
  let text ← argument test
  if text.getLast? = some '/' && 1 < text.length then
    warn ("warning: ".toList ++ test ++ ' ' :: text ++
      " will not match anything because it ends with /.".toList)
  return text

def neededPath (test : Script) : Reading Script := do
  let path ← argument test
  discard (changeWalk fun walk => { walk with needed := walk.needed ++ [path] })
  return path

def outputPath (test : Script) : Reading Script := do
  let path ← argument test
  discard (changeWalk fun walk => { walk with outputs := walk.outputs ++ [path] })
  return path

def otherUsers : List String :=
  ["daemon", "bin", "sys", "sync", "games", "man", "lp", "mail", "news", "uucp", "proxy",
    "www-data", "backup", "list", "irc", "_apt", "nobody"]

def otherGroups : List String :=
  ["daemon", "bin", "sys", "adm", "tty", "disk", "lp", "mail", "news", "uucp", "man", "proxy",
    "kmem", "dialout", "fax", "voice", "cdrom", "floppy", "tape", "sudo", "audio", "dip",
    "www-data", "backup", "operator", "list", "irc", "src", "shadow", "utmp", "video", "sasl",
    "plugdev", "staff", "games", "users", "nogroup"]

def owner (test : Script) (fact : Fact) (others : List String) (what : String) :
    Reading Expression := do
  let text ← argument test
  if text = "root".toList then return .fact fact ⟨none, 0⟩
  if others.contains (String.ofList text) then return .constant false
  if text.isEmpty then deny ("The argument to ".toList ++ test ++ " should not be empty".toList)
  match number? text with
  | some number => return .fact fact ⟨none, number⟩
  | none => deny (quote text ++ " is not the name of ".toList ++ what.toList)

def permissionTest (test : Script) : Reading Expression := do
  let text ← argument test
  let (sign, mode) := match text with
    | '-' :: mode => (some '-', mode)
    | '/' :: mode => (some '/', mode)
    | mode => (none, mode)
  let isWrong := match text with
    | '+' :: digit :: _ => digit.isDigit
    | _ => false
  match (if isWrong then none else modeOf? 0 mode 0) with
  | some mode =>
      if sign = some '/' && mode = 0 then
        warn ("warning: you have specified a mode pattern ".toList ++ text ++
          (" (which is equivalent to /000). The meaning of -perm /000 has now been changed to be " ++
            "consistent with -perm -000; that is, while it used to match no files, it now " ++
            "matches all files.").toList)
      return .permissions sign mode
  | none => deny ("invalid mode ".toList ++ quote text)

def newerTest (test : Script) : Reading Expression := do
  match test.drop "-newer".length with
  | [first, second] =>
      if !"aBcm".toList.contains first || !"aBcmt".toList.contains second then
        deny ("invalid predicate ".toList ++ backquote test)
      if second = 't' then
        let text ← argument test
        match Calendar.moment? presentTime text with
        | some moment => return .newerThan moment.seconds
        | none =>
            deny ("I cannot figure out how to interpret ".toList ++ quote text ++
              " as a date or time".toList)
      return .newer (← neededPath test)
  | _ => deny ("unknown predicate ".toList ++ backquote test)

def primary (test : Script) : Reading Expression := do
  let days := fun (unit : Nat) => do
    let quantity ← quantity test
    return Expression.age unit quantity
  match String.ofList test with
  | "-true" => return .constant true
  | "-false" => return .constant false
  | "-name" => return .name false false (← argument test)
  | "-iname" => return .name false true (← argument test)
  | "-path" => return .name true false (← pathPattern test)
  | "-wholename" => return .name true false (← pathPattern test)
  | "-ipath" => return .name true true (← pathPattern test)
  | "-iwholename" => return .name true true (← pathPattern test)
  | "-lname" => return .target false (← argument test)
  | "-ilname" => return .target true (← argument test)
  | "-regextype" =>
      let text ← argument test
      match regexStyle? (String.ofList text) with
      | some style => changeWalk fun walk => { walk with regexStyle := style }
      | none =>
          deny ("Unknown regular expression type ".toList ++ quote text ++
            "; valid types are ".toList ++
            ", ".toList.intercalate (regexTypes.map fun name => quote name.toList) ++ ['.'])
  | "-regex" => return .regex (← regexArgument test) false
  | "-iregex" => return .regex (← regexArgument test) true
  | "-type" => return .kind (← kinds test) false
  | "-xtype" => return .kind (← kinds test) true
  | "-empty" => return .empty
  | "-size" => sizeQuantity test
  | "-mtime" => days 86400
  | "-atime" => days 86400
  | "-ctime" => days 86400
  | "-mmin" => days 60
  | "-amin" => days 60
  | "-cmin" => days 60
  | "-used" =>
      let text ← argument test
      if (quantity? text).isNone then
        deny ("Invalid argument ".toList ++ text ++ " to -used".toList)
      return .constant false
  | "-perm" => permissionTest test
  | "-newer" => return .newer (← neededPath test)
  | "-anewer" => return .newer (← neededPath test)
  | "-cnewer" => return .newer (← neededPath test)
  | "-samefile" => return .same (← neededPath test)
  | "-links" => return .fact .links (← quantity test)
  | "-uid" => return .fact .user (← quantity test)
  | "-gid" => return .fact .group (← quantity test)
  | "-inum" => return .fact .number (← quantity test)
  | "-user" => owner test .user otherUsers "a known user"
  | "-group" => owner test .group otherGroups "an existing group"
  | "-nouser" => return .constant false
  | "-nogroup" => return .constant false
  | "-fstype" =>
      discard (argument test)
      return .constant false
  | "-executable" => return .runnable
  | "-readable" => return .constant true
  | "-writable" => return .constant true
  | "-print" => return .print '\n' none
  | "-print0" => return .print (Char.ofNat 0) none
  | "-printf" => return .format (← argument test) none
  | "-ls" => return .details none
  | "-fprint" => return .print '\n' (some (← outputPath test))
  | "-fprint0" => return .print (Char.ofNat 0) (some (← outputPath test))
  | "-fprintf" =>
      let path ← outputPath test
      return .format (← argument test) (some path)
  | "-fls" => return .details (some (← outputPath test))
  | "-exec" => command test false false
  | "-execdir" => command test true false
  | "-ok" => command test false true
  | "-okdir" => command test true true
  | "-delete" =>
      discard (changeWalk fun walk => { walk with contentFirst := true, deletes := true })
      return .delete
  | "-prune" =>
      discard (changeWalk fun walk => { walk with prunes := true })
      return .prune
  | "-quit" => return .quit
  | "-maxdepth" =>
      let number ← natural test
      changeWalk fun walk => { walk with most := some number }
  | "-mindepth" =>
      let number ← natural test
      changeWalk fun walk => { walk with least := number }
  | "-depth" => changeWalk fun walk => { walk with contentFirst := true, isTold := true }
  | "-d" => changeWalk fun walk => { walk with contentFirst := true, isTold := true }
  | "-follow" => changeWalk fun walk => { walk with following := .always }
  | "-daystart" => changeWalk fun walk => { walk with fromDayEnd := true }
  | "-mount" => return .constant true
  | "-xdev" => return .constant true
  | "-noleaf" => return .constant true
  | "-warn" => return .constant true
  | "-nowarn" => return .constant true
  | "-ignore_readdir_race" => return .constant true
  | "-noignore_readdir_race" => return .constant true
  | "-context" =>
      discard (argument test)
      deny "invalid predicate -context: SELinux is not enabled.".toList
  | _ =>
      if "-newer".toList.isPrefixOf test && test.length = 8 then newerTest test
      else deny ("unknown predicate ".toList ++ backquote test)

/-! ## Operators -/

inductive Operator where
  | sequence
  | either
  | both
  deriving DecidableEq

def Operator.rank : Operator → Nat
  | .sequence => 1
  | .either => 2
  | .both => 3

inductive Token where
  | test (expression : Expression)
  | negation (name : Script)
  | operator (operator : Operator) (name : Script)
  | opening (isWritten : Bool)
  | closing (isWritten : Bool)

def startsExpression (isFirst : Bool) (word : Script) : Bool :=
  match word with
  | ['-'] => false
  | '-' :: _ => true
  | ['('] => true
  | ['!'] => true
  | [')'] => !isFirst
  | [','] => !isFirst
  | _ => false

/-- The tokens of words, and the name of the last test. `isOpen` tells whether a test may follow
without an operator before it. -/
def tokens : Nat → Bool → Option Script → Reading (List Token)
  | 0, _, _ => deny "invalid expression".toList
  | steps + 1, isOpen, last => do
      match ← get with
      | ([], _) => return []
      | (word :: rest, walk) =>
          let linked := fun (token : Token) =>
            if isOpen then [token] else [Token.operator .both "-a".toList, token]
          let operator := fun (operator : Operator) => do
            set (rest, walk)
            return Token.operator operator word :: (← tokens steps true last)
          if !startsExpression false word then throw (Fault.stray word last)
          match String.ofList word with
          | "!" => negate steps word rest walk linked last
          | "-not" => negate steps word rest walk linked last
          | "(" =>
              set (rest, walk)
              return linked (.opening true) ++ (← tokens steps true last)
          | ")" =>
              set (rest, walk)
              return .closing true :: (← tokens steps false last)
          | "," => operator .sequence
          | "-o" => operator .either
          | "-or" => operator .either
          | "-a" => operator .both
          | "-and" => operator .both
          | _ =>
              set (rest, walk)
              let expression ← primary word
              return linked (.test expression) ++ (← tokens steps false (some word))
where
  negate (steps : Nat) (word : Script) (rest : List Script) (walk : Walk)
      (linked : Token → List Token) (last : Option Script) : Reading (List Token) := do
    set (rest, walk)
    return linked (.negation word) ++ (← tokens steps true last)

def between (name : Script) : Script :=
  "expected an expression between '".toList ++ name ++ "' and ')'".toList

def afterwards (name : Script) : Script :=
  "expected an expression after '".toList ++ name ++ ['\'']

def unclosed : Script :=
  ("invalid expression; expected to find a ')' but didn't see one. Perhaps you need an extra " ++
    "predicate after '('").toList

def unfound : Script :=
  "invalid expression; I was expecting to find a ')' somewhere but did not see one.".toList

mutual

def expressionAt : Nat → Nat → Option Token → List Token →
    Except Fault (Expression × List Token)
  | 0, _, _, _ => deny "invalid expression".toList
  | steps + 1, rank, previous, tokens => do
      let (first, rest) ← match tokens with
        | [] => deny "invalid expression".toList
        | .operator _ name :: _ =>
            deny ("invalid expression; you have used a binary operator '".toList ++ name ++
              "' with nothing before it.".toList)
        | .closing isWritten :: _ =>
            match previous, isWritten with
            | some (.negation name), true => deny (between name)
            | some (.operator _ name), true => deny (between name)
            | some (.negation name), false => deny (afterwards name)
            | some (.operator _ name), false => deny (afterwards name)
            | _, false => deny (afterwards ['('])
            | _, true => deny "invalid expression; you have too many ')'".toList
        | .test expression :: rest => pure (expression, rest)
        | .negation name :: rest => do
            let (inner, rest) ← expressionAt steps 4 (some (.negation name)) rest
            pure (Expression.negation inner, rest)
        | .opening isWritten :: rest => do
            match rest with
            | [] => deny unclosed
            | .closing false :: _ => deny unclosed
            | .closing true :: _ =>
                deny (if isWritten then "invalid expression; empty parentheses are not allowed."
                  else "invalid expression: expected expression before closing parentheses ')'."
                  ).toList
            | rest =>
                let (inner, rest) ← expressionAt steps 0 (some (.opening isWritten)) rest
                match rest with
                | .closing closesWritten :: rest =>
                    if isWritten && !closesWritten then deny unfound
                    pure (inner, rest)
                | _ => deny unfound
      goOn steps rank first rest

def goOn : Nat → Nat → Expression → List Token → Except Fault (Expression × List Token)
  | 0, _, _, _ => deny "invalid expression".toList
  | steps + 1, rank, first, tokens => do
      match tokens with
      | .operator operator name :: rest =>
          if operator.rank ≤ rank then return (first, tokens)
          let (second, rest) ←
            expressionAt steps operator.rank (some (.operator operator name)) rest
          let joined := match operator with
            | .sequence => Expression.sequence first second
            | .either => .either first second
            | .both => .both first second
          goOn steps rank joined rest
      | _ => return (first, tokens)

end
def acts : Expression → Bool
  | .print _ _ => true
  | .format _ _ => true
  | .details _ => true
  | .run _ => true
  | .delete => true
  | .quit => false
  | .negation expression => acts expression
  | .both first second => acts first || acts second
  | .either first second => acts first || acts second
  | .sequence first second => acts first || acts second
  | _ => false

def Token.acts : Token → Bool
  | .test expression => Find.acts expression
  | _ => false

def parse (walk : Walk) (words : List Script) : Except Fault (Expression × Walk) := do
  let (tokens, _, walk) ← (tokens (words.length + 1) true none).run (words, walk)
  if tokens.isEmpty then return (.print '\n' none, walk)
  let all := if tokens.any Token.acts then tokens
    else .opening false :: tokens ++
      [.closing false, .operator .both "-a".toList, .test (.print '\n' none)]
  let (expression, rest) ← expressionAt (8 * all.length + 8) 0 none all
  unless rest.isEmpty do deny "you have too many ')'".toList
  if walk.deletes && walk.prunes && !walk.isTold then
    deny ("The -delete action automatically turns on -depth, but -prune does nothing when " ++
      "-depth is in effect.  If you want to carry on anyway, just explicitly use the -depth " ++
      "option.").toList
  return (expression, walk)

end SchemaBuild.Shell.Utility.Find
