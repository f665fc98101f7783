import SchemaBuild.Shell.Evaluation

/-!
# The programs of a system

A system has a shell, the utilities that go with it, and the scripts among its files that are
marked as programs.
-/

namespace SchemaBuild.Shell

/-! ## The files of a system -/

def devices : List (String × Device) :=
  [("full", .full), ("null", .null), ("tty", .terminal), ("zero", .zero)]

def namedChannels : List (String × Nat) :=
  [("stderr", 2), ("stdin", 0), ("stdout", 1)]

def listedChannels : Nat := 64

def programFacts : List String :=
  ["auxv", "cgroup", "cmdline", "comm", "environ", "io", "limits", "loginuid", "maps", "mem",
    "mountinfo", "mounts", "mountstats", "oom_adj", "oom_score", "oom_score_adj", "smaps", "stat",
    "statm", "status", "syscall", "wchan"]

def systemFacts : List String :=
  ["cmdline", "cpuinfo", "devices", "diskstats", "filesystems", "interrupts", "kallsyms", "loadavg",
    "locks", "meminfo", "misc", "modules", "partitions", "stat", "swaps", "uptime", "version",
    "vmstat", "zoneinfo"]

def directoryOf (entries : List (String × Node)) : Node :=
  .directory (.ofList (entries.map fun (name, node) => (Bytes.ofString name, node)))

def emptySystem : FileSystem :=
  let programs := "bash" :: "dash" :: "sh" :: utilityNames
  let link := fun (target : String) => Node.link (Bytes.ofString target)
  let numbered := fun (first : Nat) (names : List String) =>
    ((List.range names.length).zip names).map fun (index, name) =>
      (name, Node.file (first + index))
  let channels := (List.range listedChannels).map fun channel =>
    (toString channel, Node.device (.channel channel))
  let facts := programs.length
  let root := directoryOf [
    ("bin", link "usr/bin"),
    ("dev", directoryOf (("fd", link "/proc/self/fd") ::
      namedChannels.map (fun (name, channel) => (name, link s!"/proc/self/fd/{channel}")) ++
      devices.map fun (name, device) => (name, .device device))),
    ("etc", directoryOf []),
    ("proc", directoryOf (
      ("mounts", link "self/mounts") ::
      ("self", directoryOf (("fd", directoryOf channels) :: ("cwd", link "/tmp/work") ::
        ("root", link "/") :: numbered facts programFacts)) ::
      numbered (facts + programFacts.length) systemFacts)),
    ("root", directoryOf []),
    ("tmp", directoryOf [("work", directoryOf [])]),
    ("usr", directoryOf [("bin", directoryOf (numbered 0 programs))])]
  match root with
  | .directory entries =>
      { root := entries
        stored := ((programs.map fun name =>
            { content := .program name, permissions := 0o755 : StoredFile }) ++
          (programFacts ++ systemFacts).map fun _ =>
            { permissions := 0o444 : StoredFile }).toArray
        working := [Bytes.ofString "tmp", Bytes.ofString "work"]
        views := [[Bytes.ofString "proc"]] }
  | _ => {}

/-! ## Starting programs -/

def stepLimit : Nat := 1000000

def startEnvironment : Environment where
  bindings := [
    ("HOME".toList, { value := some "/root".toList, exported := true }),
    ("PATH".toList, { value := some defaultSearch, exported := true })]

def startState (world : World) : State where
  files := world.files
  environment := startEnvironment
  opened :=
    let nothing : OpenFile := { endpoint := .device .null, reads := true, writes := true }
    if world.isSilent then #[nothing, nothing, nothing]
    else #[
      nothing,
      { endpoint := .pipe 0, writes := true },
      { endpoint := .pipe 1, writes := true }]
  pipes := #[{ room := none }, { room := none }]

def startOf (state : State) (words : List Script) : Except FileError Image :=
  if words.any fun word => word.contains (Char.ofNat 0) then .error .zeroInCommand
  else StartRules.plain.image state.files state.environment.searched words

def runToStatus (image : Image) : Running ExitStatus := do
  let runner := run stepLimit
  let status ← launch runner handOnLimit image
  runJobs runner jobLimit
  return status

def programs : Programs := fun command world =>
  let state := startState world
  match startOf state (command.map fun word => (Bytes.ofString word).toLatin) with
  | .error error => { files := world.files, outcome := .error error }
  | .ok image =>
      let (result, state) := (runToStatus image).run.run state
      let printed := fun (pipe : Nat) => Bytes.ofLatin (state.pipes.getD pipe {}).text
      let status := match result with
        | .ok status => status
        | .error (.exit status) => status
        | .error _ => .code misuse
      { files := { state.files with working := world.files.working }
        console := ⟨printed 0, printed 1⟩
        outcome := .ok status }

end SchemaBuild.Shell
