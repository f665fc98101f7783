import SchemaBuild.Shell.Calendar
import SchemaBuild.Shell.Format
import SchemaBuild.Shell.Utility.Nodes

/-!
# Facts about files

Utilities that tell what is known of files.
-/

namespace SchemaBuild.Shell.Utility

/-! ## Facts -/

def factsOf (files : FileSystem) (node : Node) : Nat × Nat × Int :=
  match node with
  | .file id =>
      let file := files.storedAt id
      (file.permissions, file.content.toBytes.length, file.time)
  | .link target => (permissionsOf files node, target.length, presentTime)
  | .directory _ => (permissionsOf files node, 4096, presentTime)
  | .device _ => (permissionsOf files node, 0, presentTime)

def blockCount (files : FileSystem) (node : Node) : Nat :=
  match node with
  | .link _ => 0
  | node => ((factsOf files node).2.1 + 4095) / 4096 * 8

def modeBits (files : FileSystem) (node : Node) : Nat :=
  let kind := match node with
    | .directory _ => 0o40000
    | .link _ => 0o120000
    | .device _ => 0o20000
    | .file _ => 0o100000
  kind + permissionsOf files node

def deviceNumbers : Node → Nat × Nat
  | .device .null => (1, 3)
  | .device .zero => (1, 5)
  | .device .full => (1, 7)
  | .device .terminal => (5, 0)
  | .device (.channel number) => (136, number)
  | _ => (0, 0)

/-! ## Showing facts -/

structure FactLayout where
  flags : Script := []
  width : Nat := 0
  precision : Option Nat := none

namespace FactLayout

def text (layout : FactLayout) (value : Script) : Script :=
  Format.pad { leftAligned := layout.flags.contains '-', width := layout.width }
    (match layout.precision with
      | some precision => value.take precision
      | none => value)

def number (layout : FactLayout) (allowed : String) (letter : Char) (value : Int) : Script :=
  let has := fun (flag : Char) => allowed.toList.contains flag && layout.flags.contains flag
  Format.wholeText
    { leftAligned := has '-', zeros := has '0', plus := has '+', blank := has ' '
      alternative := has '#', width := layout.width, precision := layout.precision } letter value

def seconds (layout : FactLayout) (hasPoint : Bool) (value : Int) : Script :=
  if !hasPoint then layout.number "-0+ " 'd' value
  else
    let places := layout.precision.getD 9
    let digits := (toString value).toList ++
      (if places = 0 then [] else '.' :: List.replicate places '0')
    Format.pad { leftAligned := layout.flags.contains '-', width := layout.width } digits

end FactLayout

def fullTime (time : Int) : Script :=
  Calendar.formatted { seconds := time } "%Y-%m-%d %H:%M:%S.%N %z".toList

def factText (files : FileSystem) (path : Script) (node : Node) (layout : FactLayout)
    (hasPoint : Bool) (letter : Char) : Script :=
  let (permissions, size, time) := factsOf files node
  let unsigned := fun (value : Nat) => layout.number "-0" 'u' value
  let hexadecimal := fun (value : Nat) => layout.number "-#0" 'x' value
  match letter with
  | 'n' => layout.text path
  | 'N' =>
      layout.text (quotePath path) ++
        match node with
        | .link target => " -> ".toList ++ layout.text (quotePath (Bytes.toLatin target))
        | _ => []
  | 's' => layout.number "-0+ " 'd' size
  | 'a' => layout.number "-#0" 'o' permissions
  | 'A' => layout.text (kindLetter node :: permissionText permissions)
  | 'F' => layout.text (kindWords files node).toList
  | 'f' => hexadecimal (modeBits files node)
  | 'U' => layout.text "root".toList
  | 'G' => layout.text "root".toList
  | 'u' => unsigned 0
  | 'g' => unsigned 0
  | 'h' => unsigned (linkCount files node)
  | 'b' => unsigned (blockCount files node)
  | 'B' => unsigned 512
  | 'o' => unsigned 4096
  | 'd' => unsigned 0
  | 'D' => hexadecimal 0
  | 'i' => match node with
      | .file id => unsigned (id + 1)
      | _ => unsigned 0
  | 'm' => layout.text ['/']
  | 't' => hexadecimal (deviceNumbers node).1
  | 'T' => hexadecimal (deviceNumbers node).2
  | 'r' => unsigned ((deviceNumbers node).1 * 256 + (deviceNumbers node).2)
  | 'R' => hexadecimal ((deviceNumbers node).1 * 256 + (deviceNumbers node).2)
  | 'w' => layout.text ['-']
  | 'W' => layout.seconds hasPoint 0
  | 'x' => layout.text (fullTime time)
  | 'y' => layout.text (fullTime time)
  | 'z' => layout.text (fullTime time)
  | 'X' => layout.seconds hasPoint time
  | 'Y' => layout.seconds hasPoint time
  | 'Z' => layout.seconds hasPoint time
  | _ => ['?']

structure FactPrint where
  text : Script := []
  warnings : List Script := []
  failure : Option Script := none

def FactPrint.after (printed : FactPrint) (text : Script) (warnings : List Script) : FactPrint :=
  { printed with text := text ++ printed.text, warnings := warnings ++ printed.warnings }

def factEscape (text : Script) : Script × Script × List Script :=
  match text with
  | [] => (['\\'], [], ["warning: backslash at end of format".toList])
  | first :: rest =>
      if isOctalDigit first then
        let digits := (text.take 3).takeWhile isOctalDigit
        ([Format.ofOctal digits], text.drop digits.length, [])
      else
        let digits := (rest.take 2).takeWhile isHexDigit
        if first = 'x' && !digits.isEmpty then
          ([Char.ofNat (ofDigits 16 digits)], rest.drop digits.length, [])
        else
          match (if first = '"' then some '"' else Format.escape? first) with
          | some character => ([character], rest, [])
          | none =>
              ([first], rest, ["warning: unrecognized escape '\\".toList ++ [first, '\'']])

def factsText (files : FileSystem) (path : Script) (node : Node) (escapes : Bool) :
    Nat → Script → FactPrint
  | 0, _ => {}
  | _ + 1, [] => {}
  | steps + 1, '%' :: start =>
      let flags := start.takeWhile fun character =>
        ['\'', '-', '+', '#', '0', ' ', 'I'].contains character
      let rest := start.drop flags.length
      let (width, rest) := Format.leadingNumber rest
      let (precision, hasPoint, rest) := match rest with
        | '.' :: rest =>
            let digits := rest.takeWhile Char.isDigit
            (if digits.isEmpty then none else some (ofDigits 10 digits), true,
              rest.drop digits.length)
        | rest => (none, false, rest)
      let isPlain := rest.length = start.length
      let layout : FactLayout := { flags, width, precision }
      let onward := fun (text after : Script) =>
        (factsText files path node escapes steps after).after text []
      match rest with
      | [] => if isPlain then { text := ['%'] } else { failure := some ('%' :: start) }
      | '%' :: after =>
          if isPlain then onward ['%'] after
          else { failure := some ('%' :: start.take (start.length - after.length)) }
      | letter :: after =>
          -- The two halves of the number of a device.
          match (letter = 'H' || letter = 'L'), after with
          | true, 'd' :: after => onward (layout.number "-0" 'u' 0) after
          | true, 'r' :: after =>
              let (high, low) := deviceNumbers node
              onward (layout.number "-0" 'u' (if letter = 'H' then high else low)) after
          | _, after => onward (factText files path node layout hasPoint letter) after
  | steps + 1, '\\' :: rest =>
      if !escapes then (factsText files path node escapes steps rest).after ['\\'] []
      else
        let (text, rest, warnings) := factEscape rest
        (factsText files path node escapes steps rest).after text warnings
  | steps + 1, character :: rest =>
      (factsText files path node escapes steps rest).after [character] []

def usualFacts (node : Node) : Script :=
  let isDevice := match node with
    | .device _ => true
    | _ => false
  ("  File: " ++ (match node with
      | .link _ => "%N"
      | _ => "%n") ++ "\n  Size: %-10s\tBlocks: %-10b IO Block: %-6o %F\n" ++
    (if isDevice then "Device: %Hd,%Ld\tInode: %-10i  Links: %-5h Device type: %Hr,%Lr\n"
      else "Device: %Hd,%Ld\tInode: %-10i  Links: %h\n") ++
    "Access: (%04a/%10.10A)  Uid: (%5u/%8U)   Gid: (%5g/%8G)\n" ++
    "Access: %x\nModify: %y\nChange: %z\n Birth: %w\n").toList

def tersely : Script :=
  "%n %s %b %f %u %g %D %i %h %t %T %X %Y %Z %W %o\n".toList

def stat : Utility := fun given =>
  Grammar.run
    { name := "stat", flags := "Lft", valued := "cπχ"
      long := [("dereference", 'L'), ("file-system", 'f'), ("format", 'c'), ("printf", 'π'),
        ("terse", 't'), ("cached", 'χ')] } given fun arguments =>
      forOperands "stat" arguments.operands fun path => do
        match ← nodeAt? (arguments.has 'L') path with
        | .error error => failAt "stat" "cannot statx " path error
        | .ok node =>
            let given := (arguments.options.reverse.find? fun option =>
              option.1 = 'c' || option.1 = 'π')
            let (format, escapes) := match given with
              | some ('c', format) => (format ++ ['\n'], false)
              | some (_, format) => (format, true)
              | none => (if arguments.has 't' then tersely else usualFacts node, false)
            let printed := factsText (← get).files path node escapes (format.length + 1) format
            for warning in printed.warnings do discard (fail "stat" warning)
            print printed.text
            match printed.failure with
            | some directive => fail "stat" (quote directive ++ ": invalid directive".toList)
            | none => return 0

end SchemaBuild.Shell.Utility
