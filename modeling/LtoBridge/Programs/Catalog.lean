/-
**The programs of a machine.**

Programs that are seldom used are known only by how they refuse arguments that make no sense.

Main definitions:

* `LtoBridge.Programs.catalog`: all programs by their names;
* `LtoBridge.Programs.freshDisk`: a disk on which they are.
-/

import LtoBridge.Awk.Run
import LtoBridge.Files.Workspace
import LtoBridge.Programs.Characters
import LtoBridge.Programs.Comparison
import LtoBridge.Programs.Digest
import LtoBridge.Programs.Entries
import LtoBridge.Programs.Expression
import LtoBridge.Programs.Find
import LtoBridge.Programs.Grep
import LtoBridge.Programs.Lines
import LtoBridge.Programs.Plain
import LtoBridge.Programs.Sed
import LtoBridge.Programs.Sort
import LtoBridge.Programs.Wrappers
import LtoBridge.Shell.Run

set_option autoImplicit false

namespace LtoBridge.Programs

/-- A program that does nothing, with the given status. -/
def ending (status : Nat) : Tool := fun _ j => (status, j)

/-- A program that only refuses its arguments, with the given status. -/
def refusing (name : String) (status : Nat) : Tool := fun _ j => misused name status j

/-- Show the terminal, which is none. -/
def terminal : Tool := fun arguments j =>
  if arguments.isEmpty then (1, j.print "not a tty\n".toList)
  else if arguments = [['-', 's']] then (1, j)
  else misused "tty" 2 j

/-- Programs that do not run others. -/
def tools : List (String × Tool) :=
  [("[", bracketTest), ("arch", sayLine "arch" "x86_64" []), ("base64", base64),
    ("basename", basename), ("cat", cat), ("chgrp", chown), ("chmod", chmod), ("chown", chown), ("cksum", cksum),
    ("cmp", cmp), ("comm", comm), ("cp", cp), ("cut", cut), ("date", date), ("dd", dd),
    ("diff", diff), ("dirname", dirname), ("echo", echo), ("egrep", egrep), ("expand", expand),
    ("expr", expr), ("factor", factor), ("false", ending 1), ("fgrep", fgrep), ("fold", fold),
    ("grep", grep), ("groups", groups), ("head", head),
    ("hostname", sayLine "hostname" "localhost" ["-s", "-f", "--short", "--fqdn"]),
    ("id", userIdentity), ("install", install),
    ("kill", kill), ("link", link), ("ln", ln), ("ls", ls), ("md5sum", sums "md5sum" .md5),
    ("mkdir", mkdir), ("mktemp", mktemp), ("mv", mv), ("nl", nl),
    ("nproc", sayLine "nproc" "1" ["--all"]),
    ("od", od), ("paste", paste), ("printenv", printenv), ("printf", printf),
    ("pwd", workingDirectory), ("readlink", readlink), ("realpath", realpath), ("rev", rev),
    ("rm", rm), ("rmdir", rmdir), ("sed", sed), ("seq", seq), ("sha1sum", sums "sha1sum" .sha1),
    ("sha256sum", sums "sha256sum" .sha256), ("sleep", sleep), ("sort", sort), ("split", split),
    ("stat", stat), ("sync", sync), ("tac", tac), ("tail", tail), ("tee", tee),
    ("test", test), ("touch", touch), ("tr", tr), ("true", ending 0), ("truncate", truncate),
    ("tty", terminal), ("uname", uname), ("unexpand", unexpand), ("uniq", uniq),
    ("unlink", unlink), ("wc", wc), ("which", which), ("whoami", sayLine "whoami" "root" []),
    ("yes", yes)]

/-- Programs that run others. -/
def runners : List (String × Program) :=
  [("bash", Shell.program .rich), ("dash", Shell.program .plain), ("env", env), ("find", find),
    ("mawk", Awk.program), ("nice", nice), ("nohup", nohup), ("setsid", setsid), ("stdbuf", stdbuf),
    ("timeout", timeout), ("xargs", xargs)]

/-- Programs that are seldom used, by the status with which they refuse their arguments. -/
def refusals : List (Nat × List String) :=
  [(0, ["pathchk", "users", "who"]),
    (1, ["addpart", "b2sum", "base32", "basenc", "chage", "chcon", "chfn", "chrt", "chsh",
      "csplit", "df", "dircolors", "du", "fallocate", "findmnt", "fmt", "gunzip", "gzip",
      "hostid", "iconv", "infocmp", "ischroot", "join", "ldd", "locale", "logname", "mkfifo",
      "mknod", "mountpoint", "newgrp", "pldd", "pr", "ptx", "renice", "run-parts", "setarch",
      "sha224sum", "sha384sum", "sha512sum", "shred", "shuf", "stty", "sum", "tabs", "taskset",
      "tic", "tsort", "uncompress", "zcat", "zegrep", "zfgrep", "zgrep"]),
    (2, ["diff3", "dir", "dpkg", "dpkg-deb", "dpkg-query", "getconf", "mesg", "numfmt", "perl",
      "sdiff", "tar", "vdir", "zcmp", "zdiff"]),
    (4, ["tput"]),
    (10, ["tset"]),
    (64, ["flock"]),
    (125, ["chroot", "runcon"]),
    (127, ["ionice", "nsenter", "prlimit", "setpriv"])]

/-- **All programs by their names.** -/
def catalog : List (String × Program) :=
  runners ++ tools.map (fun (name, tool) => (name, tool.program)) ++
    refusals.flatMap fun (status, names) =>
      names.map fun name => (name, (refusing name status).program)

/-- A disk with all programs. -/
def freshDisk : Disk := Disk.workspace (catalog.map (·.1))

end LtoBridge.Programs
