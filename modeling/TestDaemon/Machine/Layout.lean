import TestDaemon.FileTree
import TestDaemon.Machine.World

/-! # The disk that processes start with

The directories and files of the system, and a fresh directory with the files of a tree, in which the
first process works. The system's programs are in one directory, to which others lead.
-/

namespace TestDaemon

namespace Disk

/-- Put a node at a path below a directory, with the directories on its way that are not there. -/
def install (node : Nat → Node) : List Octets → (here : Nat) → Disk → Disk
  | [], _, disk => disk
  | [name], here, disk =>
    let number := disk.nodes.size
    let disk : Disk := ⟨disk.nodes.push (node here)⟩
    disk.withEntries here 0 (·.filter (·.1 != name) ++ [(name, number)])
  | name :: rest, here, disk =>
    match (disk.entries here).lookup name with
    | some number => install node rest number disk
    | none =>
      let number := disk.nodes.size
      let disk : Disk := ⟨disk.nodes.push ⟨.directory [] here, 0o755, false, 0, 1⟩⟩
      install node rest number (disk.withEntries here 0 (· ++ [(name, number)]))

/-- Put a node of the system at a path. -/
def withSystem (disk : Disk) (path : Octets) (mode : Nat) (content : Content) : Disk :=
  install (fun _ => ⟨content, mode, false, 0, 1⟩) (segments path) root disk

def withDirectory (disk : Disk) (path : Octets) (mode : Nat) : Disk :=
  install (fun above => ⟨.directory [] above, mode, false, 0, 1⟩) (segments path) root disk

end Disk

namespace Layout

/-- The programs of the system. -/
def programs : List String :=
  ["[", "basename", "bash", "cat", "chmod", "cmp", "comm", "cp", "cut", "dash", "dirname", "echo", "egrep",
    "env", "expr", "false", "fgrep", "fold", "grep", "head", "kill", "ln", "ls", "mkdir", "mktemp", "mv",
    "nice", "nl", "nohup", "paste", "printenv", "printf", "pwd", "readlink", "realpath", "rev", "rm",
    "rmdir", "seq", "sleep", "sort", "sync", "tac", "tail", "tee", "test", "timeout", "touch", "tr", "true",
    "truncate", "tty", "uname", "uniq", "unlink", "wc", "xargs", "yes"]

def programDirectory : Octets := "/usr/bin/"

/-- Names of directories that are kept elsewhere, and other names of programs. -/
def links : List (Octets × Octets) :=
  [("/bin", "usr/bin"), ("/sbin", "usr/sbin"), ("/lib", "usr/lib"), ("/lib64", "usr/lib64"),
    ("/usr/bin/sh", "dash"), ("/usr/bin/rbash", "bash"), ("/dev/fd", "/proc/self/fd"),
    ("/dev/stdin", "/proc/self/fd/0"), ("/dev/stdout", "/proc/self/fd/1"),
    ("/dev/stderr", "/proc/self/fd/2"), ("/var/run", "/run")]

def directories : List (Octets × Nat) :=
  [("/usr/sbin", 0o755), ("/usr/lib", 0o755), ("/usr/lib64", 0o755), ("/usr/local/bin", 0o755),
    ("/usr/share", 0o755), ("/usr/include", 0o755), ("/usr/src", 0o755), ("/etc", 0o755),
    ("/dev/shm", 0o1777), ("/proc/self/fd", 0o755), ("/sys", 0o555), ("/run", 0o755), ("/boot", 0o755),
    ("/home", 0o755), ("/root", 0o700), ("/opt", 0o755), ("/srv", 0o755), ("/mnt", 0o755),
    ("/media", 0o755), ("/var/tmp", 0o1777), ("/var/log", 0o755), ("/var/lib", 0o755), ("/tmp", 0o1777)]

def devices : List (Octets × Device) :=
  [("/dev/null", .null), ("/dev/zero", .zero), ("/dev/full", .full), ("/dev/random", .noise),
    ("/dev/urandom", .noise)]

/-- The users of the system, with their numbers, groups, homes and shells. -/
def users : List (String × Nat × Nat × String × String) :=
  [("root", 0, 0, "/root", "/bin/bash"), ("daemon", 1, 1, "/usr/sbin", "/usr/sbin/nologin"),
    ("bin", 2, 2, "/bin", "/usr/sbin/nologin"), ("sys", 3, 3, "/dev", "/usr/sbin/nologin"),
    ("sync", 4, 65534, "/bin", "/bin/sync"), ("games", 5, 60, "/usr/games", "/usr/sbin/nologin"),
    ("man", 6, 12, "/var/cache/man", "/usr/sbin/nologin"),
    ("lp", 7, 7, "/var/spool/lpd", "/usr/sbin/nologin"),
    ("mail", 8, 8, "/var/mail", "/usr/sbin/nologin"),
    ("news", 9, 9, "/var/spool/news", "/usr/sbin/nologin"),
    ("uucp", 10, 10, "/var/spool/uucp", "/usr/sbin/nologin"),
    ("proxy", 13, 13, "/bin", "/usr/sbin/nologin"),
    ("www-data", 33, 33, "/var/www", "/usr/sbin/nologin"),
    ("backup", 34, 34, "/var/backups", "/usr/sbin/nologin"),
    ("list", 38, 38, "/var/list", "/usr/sbin/nologin"),
    ("irc", 39, 39, "/run/ircd", "/usr/sbin/nologin"),
    ("_apt", 42, 65534, "/nonexistent", "/usr/sbin/nologin"),
    ("nobody", 65534, 65534, "/nonexistent", "/usr/sbin/nologin")]

def userLines : Octets :=
  String.join (users.map fun (name, user, group, home, shell) =>
    s!"{name}:x:{user}:{group}:{name}:{home}:{shell}\n")

def files : List (Octets × Nat × Octets) :=
  [("/etc/passwd", 0o644, userLines),
    ("/etc/group", 0o644, String.join (users.map fun (name, _, group, _) => s!"{name}:x:{group}:\n")),
    ("/etc/shadow", 0o640, ""), ("/etc/hostname", 0o644, "localhost\n"),
    ("/etc/hosts", 0o644, "127.0.0.1\tlocalhost\n"),
    ("/etc/shells", 0o644, "/bin/sh\n/usr/bin/sh\n/bin/bash\n/usr/bin/bash\n/bin/dash\n/usr/bin/dash\n"),
    ("/etc/profile", 0o644, "")]

/-- The disk of the system. -/
def system : Disk :=
  let disk := directories.foldl (fun disk (path, mode) => disk.withDirectory path mode) Disk.empty
  let disk := programs.foldl (fun disk name =>
    disk.withSystem (programDirectory ++ name) 0o755 (.program name)) disk
  let disk := links.foldl (fun disk (path, target) => disk.withSystem path 0o777 (.link target)) disk
  let disk := devices.foldl (fun disk (path, device) => disk.withSystem path 0o666 (.device device)) disk
  let disk := files.foldl (fun disk (path, mode, text) =>
    disk.withSystem path mode (.file (Octets.toData text))) disk
  (List.range 10).foldl (fun disk number =>
    disk.withSystem s!"/proc/self/fd/{number}" 0o700 (.descriptor number)) disk

/-- The path of the directory that the first process works in. -/
def workPath : Octets := "/tmp/.tmpAbCdEf"

/-- The nodes of a tree, put below a directory. -/
def mount (tree : FileTree) (here : Nat) (disk : Disk) : Disk :=
  tree.nodes.reverse.foldl (fun disk (path, node) =>
    let content (above : Nat) : Node := match node with
      | .file data mode => ⟨.file ⟨data.toArray⟩, (mode &&& 0o7777).toNat, true, 0, 1⟩
      | .directory => ⟨.directory [] above, 0o755, true, 0, 1⟩
    disk.install content (path.map Octets.ofText) here) disk

/-- The disk of the system with the directory of the first process, and that directory. -/
def withTree (tree : FileTree) : Disk × Nat :=
  let number := system.nodes.size
  let disk := system.install (fun above => ⟨.directory [] above, 0o700, true, 0, 1⟩)
    (Disk.segments workPath) Disk.root
  (mount tree number disk, number)

/-- The data that are read at a path by a process which works in the directory with the files of a tree.
Devices that have no end hold nothing here. -/
def read (tree : FileTree) (path : String) : Except OsError Bytes := do
  let (disk, working) := withTree tree
  let node := disk.node (← disk.find working true (Octets.ofText path))
  if node.isDirectory then throw .isDirectory
  if !node.permits 4 then throw .accessDenied
  return node.data.toList

end Layout

end TestDaemon
