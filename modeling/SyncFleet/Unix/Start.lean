/-
  SyncFleet/Unix/Start.lean
  =========================
  **A system as it is when nothing has happened yet.**

  There are a few directories, devices and texts, and the programs.  One
  process is there, which starts the others; it never runs itself.
-/
import SyncFleet.Unix.Execution

namespace SyncFleet.Unix

/-- Something that is there from the start. -/
inductive Seed where
  | directory (mode : Nat)
  | text (content : String)
  | program (name : String)
  | link (target : String)
  | device (d : Device)
  | descriptor (n : Nat)

/-- The names of the programs. -/
def programNames : List String :=
  ["[", "arch", "b2sum", "base32", "base64", "basename", "basenc", "cat", "chgrp", "chmod",
    "chown", "cksum", "comm", "cp", "csplit", "cut", "dash", "date", "dd", "dir", "dirname", "du",
    "echo", "env", "expand", "expr", "factor", "false", "fmt", "fold", "groups", "head",
    "hostid", "id", "install", "join", "link", "ln", "logname", "ls", "md5sum", "mkdir", "mkfifo",
    "mknod", "mktemp", "mv", "nice", "nl", "nohup", "nproc", "numfmt", "od", "paste", "pathchk",
    "pr", "printenv", "printf", "ptx", "pwd", "readlink", "realpath", "rm", "rmdir", "seq",
    "sha1sum", "sha224sum", "sha256sum", "sha384sum", "sha512sum", "shred", "shuf", "sleep",
    "sort", "split", "stat", "stdbuf", "sum", "sync", "tac", "tail", "tee", "test", "timeout",
    "touch", "tr", "true", "truncate", "tsort", "tty", "uname", "unexpand", "uniq", "unlink",
    "users", "vdir", "wc", "who", "whoami", "yes"]

/-- The directory in which commands are started. -/
def workplace : String := "/work"

/-- What is there from the start. -/
def seeds : List (String × Seed) :=
  (["/dev", "/etc", "/home", "/opt", "/proc", "/proc/self", "/proc/self/fd", "/run", "/srv",
      "/usr", "/usr/bin", "/usr/lib", "/usr/local", "/usr/local/bin", "/usr/local/sbin",
      "/usr/sbin", "/var", workplace].map fun path => (path, .directory 0o755))
  ++ [("/root", .directory 0o700), ("/tmp", .directory 0o1777), ("/var/tmp", .directory 0o1777),
    ("/bin", .link "usr/bin"), ("/lib", .link "usr/lib"), ("/sbin", .link "usr/sbin"),
    ("/usr/bin/sh", .link "dash"),
    ("/dev/null", .device .null), ("/dev/zero", .device .zero), ("/dev/full", .device .full),
    ("/dev/random", .device .random), ("/dev/urandom", .device .random),
    ("/dev/tty", .device .terminal), ("/dev/fd", .link "/proc/self/fd"),
    ("/dev/stdin", .link "/proc/self/fd/0"), ("/dev/stdout", .link "/proc/self/fd/1"),
    ("/dev/stderr", .link "/proc/self/fd/2"),
    ("/etc/passwd", .text ("root:x:0:0:root:/root:/bin/bash\n"
      ++ "daemon:x:1:1:daemon:/usr/sbin:/usr/sbin/nologin\n"
      ++ "nobody:x:65534:65534:nobody:/nonexistent:/usr/sbin/nologin\n")),
    ("/etc/group", .text "root:x:0:\ndaemon:x:1:\nnogroup:x:65534:\n"),
    ("/etc/hostname", .text "localhost\n"), ("/etc/hosts", .text "127.0.0.1\tlocalhost\n")]
  ++ ((List.range 10).map fun n =>
    ("/proc/self/fd/" ++ String.ofList (decimal n), .descriptor n))
  ++ programNames.map fun name => ("/usr/bin/" ++ name, .program name)

/-- The moment at which a system starts. -/
def startTime : Nat := 1764547200000000000

/-- The first process. -/
def firstTask : Task where
  parent := 0
  directory := rootDirectory
  descriptors := []
  mask := 0
  limits := [('s', ⟨some 8192, none⟩)]
  ignored := []
  caught := []
  pending := []
  niceness := 0
  wakes := none
  fate := none
  reaped := false

/-- A system with a directory at the top and one process. -/
def bareSystem : System where
  inodes := #[⟨.directory [] rootDirectory, 0o755, 2, 0, 0, startTime, startTime, startTime⟩]
  files := #[]
  tasks := #[firstTask]
  live := [0]
  now := startTime
  current := 0

/-- Put something into the system. -/
def Op.plant (path : Bytes) : Seed → Op Unit
  | .directory mode => makeDirectory path mode
  | .link target => makeLink target.toList path
  | .device d => makeNode path (.device d) 0o666
  | .descriptor n => makeNode path (.descriptor n) 0o700
  | .text content =>
    let bytes := content.toUTF8
    makeNode path (.file bytes bytes.size) 0o644
  | .program name =>
    let bytes := Bytes.toByteArray (programMark ++ name.toList)
    makeNode path (.file bytes bytes.size) 0o755

/-- The system with something in it, if there is a place for it. -/
def System.planted (s : System) (seed : String × Seed) : System :=
  ((Op.plant seed.1.toList seed.2).run s).2

/-- The system as it is when nothing has happened yet. -/
def startSystem : System := seeds.foldl System.planted bareSystem

end SyncFleet.Unix
