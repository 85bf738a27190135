import Conformance.Shell.Tool.Column
import Conformance.Shell.Tool.Condition
import Conformance.Shell.Tool.Content
import Conformance.Shell.Tool.Difference
import Conformance.Shell.Tool.Expression
import Conformance.Shell.Tool.Grep
import Conformance.Shell.Tool.Launch
import Conformance.Shell.Tool.Order
import Conformance.Shell.Tool.Printing
import Conformance.Shell.Tool.Sed.Run
import Conformance.Shell.Tool.Awk.Run
import Conformance.Shell.Tool.System

/-!
# Programs of the system

The programs that a machine has, by their names.
-/

namespace Conformance.Shell.Tool

/-- The programs that work on the state of the machine alone. -/
def simple? (name : String) : Option (Machine → List Bytes → Machine) :=
  match name with
  | "true" | "sync" => some fun m _ => m.withStatus 0
  | "false" => some fun m _ => m.withStatus 1
  | "test" => some test
  | "[" => some bracket
  | "echo" => some echo
  | "printf" => some printf
  | "seq" => some seq
  | "cat" => some cat
  | "head" => some (ends false)
  | "tail" => some (ends true)
  | "tac" => some tac
  | "rev" => some rev
  | "nl" => some nl
  | "fold" => some fold
  | "wc" => some wc
  | "tee" => some tee
  | "cut" => some cut
  | "paste" => some paste
  | "tr" => some tr
  | "sort" => some sort
  | "uniq" => some uniq
  | "comm" => some comm
  | "cmp" => some cmp
  | "diff" => some diff
  | "grep" => some grep
  | "egrep" => some fun m args => grep m (octets "-E" :: args)
  | "fgrep" => some fun m args => grep m (octets "-F" :: args)
  | "sed" => some sed
  | "expr" => some expr
  | "touch" => some touch
  | "rm" => some rm
  | "unlink" => some unlink
  | "mkdir" => some mkdir
  | "rmdir" => some rmdir
  | "chmod" => some chmod
  | "cp" => some cp
  | "mv" => some mv
  | "ln" => some ln
  | "readlink" => some readlink
  | "realpath" => some realpath
  | "basename" => some basename
  | "dirname" => some dirname
  | "ls" => some ls
  | "stat" => some stat
  | "mktemp" => some mktemp
  | "truncate" => some truncate
  | "dd" => some dd
  | "date" => some date
  | "id" => some whoIs
  | "uname" => some uname
  | "hostname" => some (tells "localhost" "hostname")
  | "whoami" => some (tells "root" "whoami")
  | "groups" => some (tells "root" "groups")
  | "nproc" => some (tells "4" "nproc")
  | "arch" => some (tells "x86_64" "arch")
  | "tty" => some fun m _ => (m.print (octets "not a tty\n")).withStatus 1
  | "pwd" => some pwd
  | "which" => some which
  | "yes" => some yes
  | "printenv" => some printenv
  | _ => none

/-- The names of the programs that work on the state of the machine alone. -/
def simpleNames : List String :=
  ["true", "sync", "false", "test", "[", "echo", "printf", "seq", "cat", "head", "tail", "tac",
    "rev", "nl", "fold", "wc", "tee", "cut", "paste", "tr", "sort", "uniq", "comm", "cmp", "diff",
    "grep", "egrep", "fgrep", "sed", "expr", "touch", "rm", "unlink", "mkdir", "rmdir", "chmod",
    "cp", "mv", "ln", "readlink", "realpath", "basename", "dirname", "ls", "stat", "mktemp",
    "truncate", "dd", "date", "id", "uname", "hostname", "whoami", "groups", "nproc", "arch",
    "tty", "pwd", "which", "yes", "printenv"]

/-- The programs that run other programs, or wait. -/
def callingNames : List String :=
  ["sh", "dash", "bash", "env", "xargs", "timeout", "nohup", "nice", "setsid", "stdbuf", "find",
    "awk", "mawk", "nawk", "sleep", "kill"]

/-- The names of all programs. -/
def names : List String := simpleNames ++ callingNames

/-- The status with which a program ends if it cannot write. -/
def blockedStatus (name : String) : Nat :=
  if ["grep", "egrep", "fgrep", "sort", "ls", "cmp", "diff", "awk", "mawk", "nawk"].contains name then 2
  else if name = "expr" then 3
  else if name = "sed" then 4
  else 1

end Conformance.Shell.Tool
