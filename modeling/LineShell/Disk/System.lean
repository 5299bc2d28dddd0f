import LineShell.Disk.Basic

/-!
# The system's files

The disk on which a session finds itself: the directories that every system has, a few files and
devices in them, the programs, and an empty working directory. Only what a session can tell apart is
kept: whether something is there, and of which kind it is.

Main statement: `programAt?_commonShell`, by which the common shell is a program under its usual path.
-/

namespace LineShell

namespace Disk

/-- The programs that the system has. -/
def programNames : List String :=
  ["[", "arch", "b2sum", "base32", "base64", "basename", "basenc", "bash", "cat", "chgrp", "chmod",
    "chown", "cksum", "cmp", "comm", "cp", "csplit", "cut", "dash", "date", "dd", "df", "diff",
    "diff3", "dir", "dircolors", "dirname", "du", "echo", "egrep", "env", "expand", "expr", "factor",
    "false", "fgrep", "find", "fmt", "fold", "getent", "getopt", "grep", "groups", "gunzip", "gzip",
    "head", "hostid", "hostname", "iconv", "id", "install", "join", "kill", "link", "ln", "locale",
    "logname", "ls", "mawk", "md5sum", "mkdir", "mkfifo", "mknod", "mktemp", "more", "mv", "nice",
    "nl", "nohup", "nproc", "numfmt", "od", "paste", "pathchk", "perl", "pinky", "pr", "printenv",
    "printf", "ptx", "pwd", "readlink", "realpath", "rm", "rmdir", "runcon", "sdiff", "sed", "seq",
    "setsid", "sha1sum", "sha224sum", "sha256sum", "sha384sum", "sha512sum", "shred", "shuf",
    "sleep", "sort", "split", "stat", "stdbuf", "stty", "sum", "sync", "tac", "tail", "tar", "tee",
    "test", "timeout", "touch", "tr", "true", "truncate", "tsort", "tty", "uname", "unexpand",
    "uniq", "unlink", "users", "vdir", "wc", "which", "who", "whoami", "xargs", "yes", "zcat"]

/-- The directory of the programs. -/
def programEntries : Entries :=
  programNames.map (fun name => (name, Node.program name)) ++
    [("awk", .link "mawk"), ("rbash", .link "bash"), ("sh", .link "dash")]

/-- The devices. -/
def deviceEntries : Entries :=
  ["full", "null", "ptmx", "random", "tty", "urandom", "zero"].map (·, Node.device)

/-- What files of the system hold that are not looked into: remarks. -/
def remark : List UInt8 := "#\n".toUTF8.toList

/-- The files that describe the system. -/
def descriptionEntries : Entries :=
  ["bash.bashrc", "debian_version", "environment", "fstab", "group", "gshadow", "host.conf",
    "hostname", "hosts", "inputrc", "issue", "ld.so.conf", "login.defs", "mtab", "networks",
    "nsswitch.conf", "os-release", "passwd", "profile", "protocols", "resolv.conf", "rpc",
    "services", "shadow", "shells", "timezone"].map (·, Node.file remark)

/-- The name of the working directory. -/
def workingName : String := "session"

/-- The disk on which a session finds itself. -/
def system : Disk where
  root :=
    [("bin", .link "usr/bin"), ("boot", .directory []), ("dev", .directory deviceEntries),
      ("etc", .directory descriptionEntries), ("home", .directory []), ("lib", .link "usr/lib"),
      ("lib64", .link "usr/lib64"), ("media", .directory []), ("mnt", .directory []),
      ("opt", .directory []), ("proc", .directory []), ("root", .directory []),
      ("run", .directory []), ("sbin", .link "usr/sbin"), ("srv", .directory []),
      ("sys", .directory []), ("tmp", .directory [(workingName, .directory [])]),
      ("usr", .directory
        [("bin", .directory programEntries), ("games", .directory []), ("include", .directory []),
          ("lib", .directory []), ("lib64", .directory []), ("libexec", .directory []),
          ("local", .directory [("bin", .directory []), ("lib", .directory []),
            ("sbin", .directory []), ("share", .directory [])]),
          ("sbin", .directory []), ("share", .directory []), ("src", .directory [])]),
      ("var", .directory
        [("cache", .directory []), ("lib", .directory []), ("log", .directory []),
          ("spool", .directory []), ("tmp", .directory [])])]
  working := ["tmp", workingName]

/-- The directories in which programs are looked for, in order. -/
def searchPath : List String :=
  ["/usr/local/bin", "/usr/local/sbin", "/usr/sbin", "/usr/bin", "/sbin", "/bin"]

/-- The program that a path leads to. -/
def programAt? (d : Disk) (path : String) : Option String :=
  match d.findText path with
  | .ok (.program tool) => some tool
  | _ => none

/-- The common shell is a program under its usual path. -/
theorem programAt?_commonShell : system.programAt? "/bin/sh" = some "dash" := by
  decide +kernel

end Disk

end LineShell
