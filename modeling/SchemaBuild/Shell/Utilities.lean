import SchemaBuild.Shell.Builtin.Control
import SchemaBuild.Shell.Builtin.Input
import SchemaBuild.Shell.Utility.Awk
import SchemaBuild.Shell.Utility.ByteComparison
import SchemaBuild.Shell.Utility.CanonicalPath
import SchemaBuild.Shell.Utility.Checksums
import SchemaBuild.Shell.Utility.Columns
import SchemaBuild.Shell.Utility.Comparing
import SchemaBuild.Shell.Utility.Condition
import SchemaBuild.Shell.Utility.Copies
import SchemaBuild.Shell.Utility.Counting
import SchemaBuild.Shell.Utility.Dates
import SchemaBuild.Shell.Utility.Directories
import SchemaBuild.Shell.Utility.DirectoryListing
import SchemaBuild.Shell.Utility.Encoding
import SchemaBuild.Shell.Utility.Exchange
import SchemaBuild.Shell.Utility.Expr
import SchemaBuild.Shell.Utility.FileFacts
import SchemaBuild.Shell.Utility.Find
import SchemaBuild.Shell.Utility.Grep
import SchemaBuild.Shell.Utility.Joining
import SchemaBuild.Shell.Utility.Lines
import SchemaBuild.Shell.Utility.Links
import SchemaBuild.Shell.Utility.Portions
import SchemaBuild.Shell.Utility.Printing
import SchemaBuild.Shell.Utility.Removal
import SchemaBuild.Shell.Utility.Sed
import SchemaBuild.Shell.Utility.Sequence
import SchemaBuild.Shell.Utility.Sorting
import SchemaBuild.Shell.Utility.Splitting
import SchemaBuild.Shell.Utility.Starting
import SchemaBuild.Shell.Utility.System

/-!
# All utilities

The utilities of a system by their names.
-/

namespace SchemaBuild.Shell

def plainUtilities : List (String × Utility) := [
  ("[", Utility.Condition.program "["),
  ("arch", Utility.telling "arch" "x86_64"),
  ("base32", Utility.encoder Utility.Encoding.thirtyTwo),
  ("base64", Utility.encoder Utility.Encoding.sixtyFour),
  ("basename", Utility.basename),
  ("cat", Utility.cat),
  ("chgrp", fun _ => return 0),
  ("chmod", Utility.chmod),
  ("chown", fun _ => return 0),
  ("cksum", Utility.cksum),
  ("cmp", Utility.cmp),
  ("comm", Utility.comm),
  ("cp", Utility.cp),
  ("cut", Utility.cut),
  ("date", Utility.date),
  ("dd", Utility.dd),
  ("diff", Utility.diff),
  ("dir", Utility.dir),
  ("dirname", Utility.dirname),
  ("echo", Utility.echo),
  ("egrep", Utility.egrep),
  ("expand", Utility.expand),
  ("expr", Utility.expr),
  ("false", fun _ => return 1),
  ("fgrep", Utility.fgrep),
  ("factor", Utility.factor),
  ("fold", Utility.fold),
  ("grep", Utility.grep),
  ("groups", Utility.groups),
  ("head", Utility.head),
  ("hostname", Utility.telling "hostname" "localhost"),
  ("id", Utility.id),
  ("install", Utility.install),
  ("join", Utility.join),
  ("kill", Utility.kill),
  ("link", Utility.addLink),
  ("ln", Utility.ln),
  ("logname", Utility.logname),
  ("ls", Utility.ls),
  ("md5sum", Utility.digesting "md5sum" "MD5" Digest.md5),
  ("mkdir", Utility.mkdir),
  ("mktemp", Utility.mktemp),
  ("mv", Utility.mv),
  ("nl", Utility.nl),
  ("nproc", Utility.telling "nproc" "1"),
  ("od", Utility.od),
  ("paste", Utility.paste),
  ("printenv", Utility.printenv),
  ("printf", Utility.printf),
  ("pwd", Utility.pwd),
  ("readlink", Utility.readlink),
  ("realpath", Utility.realpath),
  ("rev", Utility.rev),
  ("rm", Utility.rm),
  ("rmdir", Utility.rmdir),
  ("sed", Utility.sed),
  ("seq", Utility.seq),
  ("sha1sum", Utility.digesting "sha1sum" "SHA1" Digest.sha1),
  ("sha224sum", Utility.digesting "sha224sum" "SHA224" Digest.sha224),
  ("sha256sum", Utility.digesting "sha256sum" "SHA256" Digest.sha256),
  ("sha384sum", Utility.digesting "sha384sum" "SHA384" Digest.sha384),
  ("sha512sum", Utility.digesting "sha512sum" "SHA512" Digest.sha512),
  ("sleep", Utility.sleep),
  ("sort", Utility.sort),
  ("stat", Utility.stat),
  ("sum", Utility.sum),
  ("sync", Utility.sync),
  ("tac", Utility.tac),
  ("tail", Utility.tail),
  ("tee", Utility.tee),
  ("test", Utility.Condition.program "test"),
  ("touch", Utility.touch),
  ("tr", Utility.tr),
  ("true", fun _ => return 0),
  ("truncate", Utility.truncate),
  ("tty", Utility.tty),
  ("uname", Utility.uname),
  ("unexpand", Utility.unexpand),
  ("uniq", Utility.uniq),
  ("unlink", Utility.unlink),
  ("vdir", Utility.vdir),
  ("wc", Utility.wc),
  ("which", Utility.which),
  ("whoami", Utility.telling "whoami" "root"),
  ("yes", Utility.yes)]

def startingUtilities : List (String × (Start → Utility)) := [
  ("awk", Utility.awk),
  ("env", Utility.env),
  ("find", Utility.find),
  ("mawk", Utility.awk),
  ("nice", Utility.nice),
  ("nohup", Utility.nohup),
  ("setsid", Utility.setsid),
  ("split", Utility.split),
  ("stdbuf", Utility.stdbuf),
  ("timeout", Utility.timeout),
  ("xargs", Utility.xargs)]

def utilityNames : List String :=
  plainUtilities.map (·.1) ++ startingUtilities.map (·.1)

def utility? (start : Start) (name : String) : Option Utility :=
  match plainUtilities.lookup name with
  | some utility => some utility
  | none => (startingUtilities.lookup name).map fun utility => utility start

end SchemaBuild.Shell
