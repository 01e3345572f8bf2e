/-
  SyncFleet/Utility/Table.lean
  ============================
  **The programs besides the shell, by name.**
-/
import SyncFleet.Utility.Condition
import SyncFleet.Utility.Digest.Check
import SyncFleet.Utility.File.Block
import SyncFleet.Utility.File.Copy
import SyncFleet.Utility.File.Creation
import SyncFleet.Utility.File.Link
import SyncFleet.Utility.File.Listing
import SyncFleet.Utility.File.Naming
import SyncFleet.Utility.File.Permission
import SyncFleet.Utility.File.Removal
import SyncFleet.Utility.File.Status
import SyncFleet.Utility.Moment.Showing
import SyncFleet.Utility.Number.Conversion
import SyncFleet.Utility.Number.Expression
import SyncFleet.Utility.Number.Factor
import SyncFleet.Utility.Number.Sequence
import SyncFleet.Utility.Process.Identity
import SyncFleet.Utility.Process.Starting
import SyncFleet.Utility.Process.Waiting
import SyncFleet.Utility.Text.Concatenation
import SyncFleet.Utility.Text.Concordance
import SyncFleet.Utility.Text.Count
import SyncFleet.Utility.Text.Dump
import SyncFleet.Utility.Text.Encoding
import SyncFleet.Utility.Text.Field
import SyncFleet.Utility.Text.Layout
import SyncFleet.Utility.Text.Merge
import SyncFleet.Utility.Text.Neighbour
import SyncFleet.Utility.Text.Numbering
import SyncFleet.Utility.Text.Order
import SyncFleet.Utility.Text.Page
import SyncFleet.Utility.Text.Paragraph
import SyncFleet.Utility.Text.Portion
import SyncFleet.Utility.Text.Precedence
import SyncFleet.Utility.Text.Printing
import SyncFleet.Utility.Text.Shuffle
import SyncFleet.Utility.Text.Split
import SyncFleet.Utility.Text.Translation

namespace SyncFleet.Utility

open Unix

/-- A tool with its arguments and environment. -/
abbrev Entry := List Bytes → List Bytes → Tool Unit

/-- A tool that looks at texts. -/
def ofText? : String → Option Entry
  | "base32" => some Text.base32
  | "base64" => some Text.base64
  | "basenc" => some Text.basenc
  | "cat" => some Text.cat
  | "comm" => some Text.comm
  | "csplit" => some Text.csplit
  | "cut" => some Text.cut
  | "echo" => some Text.echo
  | "expand" => some Text.expand
  | "fmt" => some Text.fmt
  | "fold" => some Text.fold
  | "head" => some Text.head
  | "join" => some Text.join
  | "nl" => some Text.nl
  | "od" => some Text.od
  | "paste" => some Text.paste
  | "pr" => some Text.pr
  | "printf" => some Text.printf
  | "ptx" => some Text.ptx
  | "shuf" => some Text.shuf
  | "split" => some Text.split
  | "tac" => some Text.tac
  | "tail" => some Text.tail
  | "tee" => some Text.tee
  | "tr" => some Text.tr
  | "tsort" => some Text.tsort
  | "unexpand" => some Text.unexpand
  | "uniq" => some Text.uniq
  | "wc" => some Text.wc
  | "yes" => some Text.yes
  | _ => none

/-- A tool that computes digests. -/
def ofDigest? : String → Option Entry
  | "b2sum" => some (Digest.hashProgram "blake2b")
  | "cksum" => some Digest.cksum
  | "md5sum" => some (Digest.hashProgram "md5")
  | "sha1sum" => some (Digest.hashProgram "sha1")
  | "sha224sum" => some (Digest.hashProgram "sha224")
  | "sha256sum" => some (Digest.hashProgram "sha256")
  | "sha384sum" => some (Digest.hashProgram "sha384")
  | "sha512sum" => some (Digest.hashProgram "sha512")
  | "sum" => some Digest.sum
  | _ => none

/-- A tool that looks at files or changes them. -/
def ofFile? : String → Option Entry
  | "basename" => some File.basename
  | "chgrp" => some File.chgrp
  | "chmod" => some File.chmod
  | "chown" => some File.chown
  | "cp" => some File.cp
  | "dd" => some File.dd
  | "dirname" => some File.dirname
  | "du" => some File.du
  | "install" => some File.install
  | "link" => some File.link
  | "ln" => some File.ln
  | "mkdir" => some File.mkdir
  | "mkfifo" => some File.mkfifo
  | "mknod" => some File.mknod
  | "mktemp" => some File.mktemp
  | "mv" => some File.mv
  | "pathchk" => some File.pathchk
  | "pwd" => some File.pwd
  | "readlink" => some File.readlink
  | "realpath" => some File.realpath
  | "rm" => some File.rm
  | "rmdir" => some File.rmdir
  | "shred" => some File.shred
  | "stat" => some File.stat
  | "sync" => some File.sync
  | "touch" => some File.touch
  | "truncate" => some File.truncate
  | "unlink" => some File.unlink
  | _ => none

/-- A tool that computes with numbers. -/
def ofNumber? : String → Option Entry
  | "factor" => some Number.factor
  | "numfmt" => some Number.numfmt
  | "seq" => some Number.seq
  | _ => none

/-- A tool that shows something of the system, or lets time pass. -/
def ofSystem? : String → Option Entry
  | "arch" => some Process.arch
  | "date" => some Moment.date
  | "false" => some fun _ _ => Tool.stop 1
  | "groups" => some Process.groups
  | "hostid" => some Process.hostid
  | "id" => some Process.id
  | "logname" => some Process.logname
  | "nproc" => some Process.nproc
  | "sleep" => some Process.sleep
  | "true" => some fun _ _ => pure ()
  | "uname" => some Process.uname
  | "users" => some Process.users
  | "who" => some Process.who
  | "whoami" => some Process.whoami
  | _ => none

/-- A tool whose failure has the status two, because one says something else. -/
def ofDistinct? : String → Option Entry
  | "[" => some (test true)
  | "dir" => some File.dir
  | "expr" => some Number.expr
  | "ls" => some File.ls
  | "printenv" => some Process.printenv
  | "sort" => some Text.sort
  | "test" => some (test false)
  | "tty" => some Process.tty
  | "vdir" => some File.vdir
  | _ => none

/-- A tool that runs a command; the status of its own failure is one that commands do not have. -/
def ofStarter? : String → Option (Executor → Entry)
  | "env" => some Process.env
  | "nice" => some Process.nice
  | "nohup" => some Process.nohup
  | "stdbuf" => some Process.stdbuf
  | "timeout" => some Process.timeout
  | _ => none

/-- The program of a name. -/
def ofName? (name : String) : Option (Executor → Program) :=
  let plain := ofText? name <|> ofDigest? name <|> ofFile? name <|> ofNumber? name
    <|> ofSystem? name
  let plain := plain.map fun tool _ => Tool.program 1 tool
  plain <|> ((ofDistinct? name).map fun tool _ => Tool.program 2 tool)
    <|> ((ofStarter? name).map fun tool executor => Tool.program Process.notBegun (tool executor))

end SyncFleet.Utility
