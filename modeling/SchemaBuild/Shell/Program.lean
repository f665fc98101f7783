import SchemaBuild.Shell.State

/-!
# Finding programs

A program is a file that is marked as one. It is found by its path, or by its name in the
directories that a variable lists. A script names what is to run it in its first line.
-/

namespace SchemaBuild.Shell

structure Image where
  program : String
  words : List Script

def firstLineLimit : Nat := 256

/-- The first line of a script after its mark. A text that ends before the line does is filled up
with zeros. A line that does not end within the limit may be cut within its argument, but not within
its path. -/
def firstLine? (rest : Script) : Option Script :=
  let zero := Char.ofNat 0
  let isSeparator := fun character => isBlank character || character = zero
  let room := firstLineLimit - 2
  let filled := (rest ++ List.replicate room zero).take room
  let trimmed := fun (line : Script) => (line.reverse.dropWhile isBlank).reverse
  if (filled.takeWhile (· ≠ zero)).contains '\n' then some (trimmed (filled.takeWhile (· ≠ '\n')))
  else if (filled.dropWhile isBlank).any isSeparator then some (trimmed (filled.take (room - 1)))
  else none

def interpreter? (text : Script) : Option (Script × List Script) :=
  match text.take firstLineLimit with
  | '#' :: '!' :: rest => do
      let zero := Char.ofNat 0
      let line := (← firstLine? rest).dropWhile isBlank
      if line.isEmpty then none
      let path := line.takeWhile fun character => !isBlank character && character ≠ zero
      let after := line.drop path.length
      let hasArgument := (after.head?.any isBlank) && after.any fun character => !isBlank character
      some (path, if hasArgument then [(after.dropWhile isBlank).takeWhile (· ≠ zero)] else [])
  | _ => none

/-- What starting the file at a path comes to. Scripts that are to be run by scripts are followed up
to some depth. -/
def imageWithin (files : FileSystem) : Nat → Script → List Script → Except FileError Image
  | 0, _, _ => .error .linkLoop
  | depth + 1, path, words => do
      match ← files.locate true (Bytes.ofLatin path) with
      | .vacant _ _ => .error .notFound
      | .node _ (.file id) =>
          let file := files.storedAt id
          if !file.executable then .error .permission
          else
            match file.content with
            | .program name => .ok ⟨name, words⟩
            | content =>
                match interpreter? (Bytes.toLatin (content.toBytes.take firstLineLimit)) with
                | none => .error .notExecutable
                | some (interpreter, argument) =>
                    -- A path of nothing leads to the working directory, which is no program.
                    if interpreter.isEmpty then .error .permission
                    else
                      imageWithin files depth interpreter
                        (interpreter :: argument ++ path :: words.drop 1)
      | .node _ _ => .error .permission

def imageAt (files : FileSystem) (path : Script) (words : List Script) : Except FileError Image :=
  imageWithin files 5 path words

def programMarkAt (files : FileSystem) (path : Script) : Except FileError Bool := do
  match ← files.locate true (Bytes.ofLatin path) with
  | .node _ (.file id) => .ok (files.storedAt id).executable
  | .node _ _ => .ok false
  | .vacant _ _ => .error .notFound

def programAt (files : FileSystem) (path : Script) : Bool × Bool :=
  match programMarkAt files path with
  | .ok isProgram => (true, isProgram)
  | .error _ => (false, false)

def searchPaths (searched name : Script) : List Script :=
  (searched.splitOn ':').map fun directory =>
    if directory.isEmpty then name else directory ++ '/' :: name

def isAbsence (error : FileError) : Bool :=
  error = .notFound || error = .notDirectory

def findProgram (files : FileSystem) (searched name : Script) : Except FileError Script :=
  if name.contains '/' then .ok name
  else if name.isEmpty then .error .notFound
  else
    let paths := searchPaths searched name
    match paths.find? fun path => (programAt files path).2 with
    | some path => .ok path
    | none =>
        .error (paths.foldl (fun reason path =>
          match programMarkAt files path with
          | .ok _ => .permission
          | .error error => if isAbsence error then reason else error) .notFound)

structure StartRules where
  runsScripts : Bool
  persists : Bool

namespace StartRules

def ofShell : StartRules := ⟨true, true⟩

def ofUtility : StartRules := ⟨true, false⟩

def plain : StartRules := ⟨false, false⟩

def imageAt (rules : StartRules) (files : FileSystem) (path : Script) (words : List Script) :
    Except FileError Image :=
  match Shell.imageAt files path words with
  | .error .notExecutable =>
      if rules.runsScripts then .ok ⟨"sh", "/bin/sh".toList :: path :: words.drop 1⟩
      else .error .notExecutable
  | result => result

/-- What starting the first of some files that can be started comes to. The reason is the one that
the files before these gave. -/
def firstImage (rules : StartRules) (files : FileSystem) (words : List Script) :
    FileError → List Script → Except FileError Image
  | reason, [] => .error reason
  | reason, path :: paths =>
      match rules.imageAt files path words with
      | .ok image => .ok image
      | .error error =>
          if rules.persists then
            rules.firstImage files words (if isAbsence error then reason else error) paths
          else if error = .permission then rules.firstImage files words .permission paths
          else if isAbsence error then
            rules.firstImage files words (if reason = .permission then reason else error) paths
          else .error error

def image (rules : StartRules) (files : FileSystem) (searched : Script) (words : List Script) :
    Except FileError Image :=
  let name := words.headD []
  if name.contains '/' then rules.imageAt files name words
  else if name.isEmpty then .error .notFound
  else rules.firstImage files words .notFound (searchPaths searched name)

end StartRules

def defaultSearch : Script :=
  "/usr/local/sbin:/usr/local/bin:/usr/sbin:/usr/bin:/sbin:/bin".toList

def Environment.searched (environment : Environment) : Script :=
  (environment.value? "PATH".toList).getD defaultSearch

end SchemaBuild.Shell
