import SchemaBuild.Shell.Expansion

/-!
# Redirections

A redirection connects a channel with a file, a text or another channel. All words are expanded
first. Then the files are opened from left to right, before the command runs: one that is written is
made, and emptied unless text is appended to it.
-/

namespace SchemaBuild.Shell

def openingWords (creates : Bool) (error : FileError) : Script :=
  match error with
  | .notFound => (if creates then "Directory nonexistent" else "No such file").toList
  | .notDirectory => (if creates then "Directory nonexistent" else "No such file").toList
  | error => error.words.toList

inductive Connection where
  | file (channel : Nat) (mode : OpenMode) (path : Script)
  | duplicate (channel : Nat) (source : Option Nat)
  | here (channel : Nat) (text : Script)
  | both (appends : Bool) (path : Script)

def connectionOf (expander : Expander) : Redirect → Running Connection
  | .file channel mode path => return .file channel mode (← expander.text path)
  | .here channel body => return .here channel (← expander.hereText body)
  | .both appends path => return .both appends (← expander.text path)
  | .duplicate channel _ source => do
      let text ← expander.text source
      let limit := if (← environment).dialect = .extended then 9 else 1
      if text = ['-'] then return .duplicate channel none
      else if !text.isEmpty && text.length ≤ limit && text.all Char.isDigit then
        return .duplicate channel (some (ofDigits 10 text))
      else abort "Syntax error: Bad fd number".toList

def refuseFile (creates : Bool) (path : Script) (error : FileError) : Running Bool := do
  match (← environment).dialect with
  | .plain =>
      complainHere ("cannot ".toList ++ (if creates then "create " else "open ").toList ++ path ++
        ": ".toList ++ openingWords creates error)
  | .extended => complainHere (path ++ ": ".toList ++ error.words.toList)
  return false

def connectOpened (channel : Nat) (mode : OpenMode) (path : Script) : Running Bool := do
  match ← openAt path mode with
  | .ok index =>
      connect channel index
      return true
  | .error error => refuseFile (mode ≠ .read) path error

def connectNew (channel : Nat) (path : Script) : Running Bool := do
  let refuse : Running Bool := do
    match (← environment).dialect with
    | .plain => refuseFile true path .exists
    | .extended =>
        complainHere (path ++ ": cannot overwrite existing file".toList)
        return false
  match ← nodeAt? true path, ← nodeAt? false path with
  | .ok (.file _), _ => refuse
  | .ok (.directory _), _ => refuseFile false path .isDirectory
  | .error _, .ok _ => refuse
  | _, _ => connectOpened channel .write path

def connectFile (channel : Nat) (mode : OpenMode) (path : Script) : Running Bool := do
  if mode = .write && (← environment).options.has 'C' then connectNew channel path
  else connectOpened channel mode path

def makeConnection : Connection → Running Bool
  | .file channel mode path => connectFile channel mode path
  | .here channel text => do
      let pipe ← addPipe text
      connect channel (← addOpen { endpoint := .pipe pipe, reads := true })
      return true
  | .both appends path => do
      if ← connectFile 1 (if appends then .append else .write) path then
        match (← get).openFile? 1 with
        | some (index, _) => connect 2 index
        | none => pure ()
        return true
      else return false
  | .duplicate channel none => do
      disconnect channel
      return true
  | .duplicate channel (some source) => do
      match (← get).openFile? source with
      | some (index, _) =>
          connect channel index
          return true
      | none =>
          complainHere ((toString source).toList ++ ": Bad file descriptor".toList)
          return false

def makeConnections : List Connection → Running Bool
  | [] => return true
  | first :: others => do
      if ← makeConnection first then makeConnections others else return false

end SchemaBuild.Shell
