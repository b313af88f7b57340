import Mqtt.Bytes
import Mqtt.Text.Split

/-!
The files that a program sees, as far as it reads or creates any, and how a path leads to one: from
directory to directory, name by name, and through links to other paths. What is wrong first on the
way is what is reported.
-/

namespace Mqtt.Shell
set_option autoImplicit false

inductive FileError where
  | notFound
  | cannotRead
  | noSuchDevice
  | permissionDenied
  | notADirectory
  | isDirectory
  | invalidArgument
  | nameTooLong
  | tooManyLinks
  /-- A path with a NUL byte in it is no path. -/
  | nulInPath
deriving DecidableEq, Repr

namespace FileError

/-- The number, kind and wording that the operating system has for an error. -/
def describe (code : Nat) (kind message : String) : String :=
  "Os \x7b code: " ++ toString code ++ ", kind: " ++ kind ++ ", message: \"" ++ message ++ "\" \x7d"

/-- The error as a diagnosis shows it. -/
def diagnosis : FileError → String
  | notFound => describe 2 "NotFound" "No such file or directory"
  | cannotRead => describe 5 "Uncategorized" "Input/output error"
  | noSuchDevice => describe 6 "Uncategorized" "No such device or address"
  | permissionDenied => describe 13 "PermissionDenied" "Permission denied"
  | notADirectory => describe 20 "NotADirectory" "Not a directory"
  | isDirectory => describe 21 "IsADirectory" "Is a directory"
  | invalidArgument => describe 22 "InvalidInput" "Invalid argument"
  | nameTooLong => describe 36 "InvalidFilename" "File name too long"
  | tooManyLinks => describe 40 "FilesystemLoop" "Too many levels of symbolic links"
  | nulInPath =>
    "Error \x7b kind: InvalidInput, message: \"file name contained an unexpected NUL byte\" \x7d"

end FileError

/-- What is found at a path. -/
inductive Found where
  | contents (bytes : Bytes)
  /-- The program's own standard input. -/
  | input
deriving DecidableEq, Repr

structure Files where
  find : String → Except FileError Found
  /-- Makes a file empty, or makes an empty file. -/
  create : String → Except FileError Unit
  /-- What the standard input still holds. -/
  input : String := ""
  /-- The certificates that the platform trusts. -/
  trusted : Bytes := []

namespace Files

/-- Reads to the end what is found at a path. What is read of the standard input is gone from it. -/
def read (files : Files) (path : String) : Except FileError (Bytes × Files) :=
  match files.find path with
  | .ok (.contents bs) => .ok (bs, files)
  | .ok .input => .ok (Bytes.ofText files.input, { files with input := "" })
  | .error e => .error e

/-- The files after one has been made empty. Nothing empties the standard input. -/
def emptied (files : Files) (path : String) : Files :=
  { files with find := fun p =>
      match files.find p with
      | .ok .input => .ok .input
      | found => if p = path then .ok (.contents []) else found }

end Files

/-! ### Trees -/

/-- What a name in a directory stands for. -/
inductive Node where
  /-- A directory; `refusal` is the error when a file is to be made in it. -/
  | directory (refusal : Option FileError)
  | file (contents : Bytes)
  /-- A file that can be opened, but not read. -/
  | unreadable (e : FileError)
  /-- What has a name, but cannot be opened: a terminal that is not there, a connection. -/
  | unopened
  | input
  /-- Another path. If it is relative, it begins in the directory of the name. -/
  | link (path : String)
deriving Repr

/-- A place in a tree: the names that lead to it from the root. -/
abbrev Place := List String

structure Tree where
  /-- All but the root, which is a directory. -/
  nodes : List (Place × Node)
  /-- The directory where relative paths begin. -/
  current : Place
deriving Repr

/-- The names that a path goes along. -/
def namesOf (path : String) : List String :=
  ((Text.splitAt (· = '/') path.toList).filter (!·.isEmpty)).map String.ofList

/-- The directory in which a path begins, if relative paths begin in this one. -/
def beginningOf (path : String) (place : Place) : Place :=
  if path.toList.head? = some '/' then [] else place

namespace Tree

/-- A path of this size in bytes or more is not looked at. -/
def pathLimit : Nat := 4096

/-- The largest size of a name in bytes. -/
def nameLimit : Nat := 255

/-- How many links are followed on the way. -/
def linkLimit : Nat := 40

def node? (t : Tree) (place : Place) : Option Node :=
  if place.isEmpty then some (.directory none) else t.nodes.lookup place

/-- What a directory refuses a new file with. -/
def refusal? (t : Tree) (place : Place) : Option FileError :=
  match t.node? place with
  | some (.directory refusal) => refusal
  | _ => none

/-- Goes from a directory to what a name in it stands for, if it stands for anything. Only where
files can be made a name can be too long. -/
def enter (t : Tree) (place : Place) (name : String) : Except FileError (Option (Place × Node)) :=
  let next := if name = "." then place else if name = ".." then place.dropLast else place ++ [name]
  if nameLimit < name.utf8ByteSize && (t.refusal? place).isNone then .error .nameTooLong
  else .ok ((t.node? next).map fun node => (next, node))

/-- Where names lead to. -/
inductive End where
  | node (x : Node)
  /-- To nothing yet, in a directory that refuses a new file with this error. -/
  | missing (refusal : Option FileError)
deriving Repr

/-- Goes along names, from a directory, through so many links at most. -/
def walk (t : Tree) (links : Nat) (place : Place) (names : List String) : Except FileError End :=
  match names with
  | [] => .ok (.node (.directory (t.refusal? place)))
  | name :: rest =>
    match t.enter place name with
    | .error e => .error e
    | .ok none => if rest.isEmpty then .ok (.missing (t.refusal? place)) else .error .notFound
    | .ok (some (next, .directory _)) => t.walk links next rest
    | .ok (some (_, .link path)) =>
      match links with
      | 0 => .error .tooManyLinks
      | k + 1 => t.walk k (beginningOf path place) (namesOf path ++ rest)
    | .ok (some (_, x)) => if rest.isEmpty then .ok (.node x) else .error .notADirectory
termination_by (links, names.length)

/-- Whether a path can be looked at. -/
def checkPath (path : String) : Except FileError Unit :=
  if path.toList.contains '\x00' then .error .nulInPath
  else if path.isEmpty then .error .notFound
  else if pathLimit ≤ path.utf8ByteSize then .error .nameTooLong
  else .ok ()

def endsInSlash (path : String) : Bool := path.toList.getLast? = some '/'

def find (t : Tree) (path : String) : Except FileError Found := do
  checkPath path
  match ← t.walk linkLimit (beginningOf path t.current) (namesOf path) with
  | .missing _ => throw .notFound
  | .node (.directory _) => throw .isDirectory
  | .node x =>
    if endsInSlash path then throw .notADirectory
    match x with
    | .file contents => pure (.contents contents)
    | .input => pure .input
    | .unreadable e => throw e
    | _ => throw .noSuchDevice

/-- Whether a file can be made at a path, or made empty. Where the path ends in a slash, its last
name is not looked up. -/
def create (t : Tree) (path : String) : Except FileError Unit := do
  checkPath path
  let names := namesOf path
  let names := if endsInSlash path then names.dropLast else names
  match ← t.walk linkLimit (beginningOf path t.current) names with
  | .node (.directory _) => throw .isDirectory
  | .node x =>
    if endsInSlash path then throw .notADirectory
    match x with
    | .unopened => throw .noSuchDevice
    | _ => pure ()
  | .missing refusal =>
    if endsInSlash path then throw .notFound
    match refusal with
    | some e => throw e
    | none => pure ()

def files (t : Tree) (input : String) : Files := { find := t.find, create := t.create, input }

/-- Directories in which files can be made. -/
def openDirectories : List Place :=
  [["boot"], ["dev"], ["dev", "shm"], ["etc"], ["etc", "ssl"], ["etc", "ssl", "certs"], ["home"],
    ["media"], ["mnt"], ["opt"], ["root"], ["run"], ["run", "lock"], ["srv"], ["tmp"],
    ["tmp", "work"], ["usr"], ["usr", "bin"], ["usr", "lib"], ["usr", "lib64"], ["usr", "local"],
    ["usr", "local", "bin"], ["usr", "sbin"], ["usr", "share"], ["var"], ["var", "lib"],
    ["var", "log"], ["var", "tmp"]]

/-- Directories that are made by the system, and what it refuses a new file with. -/
def closedDirectories : List (Place × FileError) :=
  let processes : List Place :=
    [[], ["self"], ["self", "attr"], ["self", "fd"], ["self", "fdinfo"], ["self", "map_files"],
      ["self", "net"], ["self", "ns"], ["self", "task"], ["bus"], ["driver"], ["fs"], ["irq"],
      ["sys"], ["sysvipc"], ["tty"]]
  processes.map (fun p => ("proc" :: p, .notFound))
    ++ [(["dev", "pts"], .permissionDenied), (["sys"], .permissionDenied),
      (["sys", "class"], .permissionDenied), (["sys", "kernel"], .permissionDenied)]

/-- Devices that hold nothing, or nothing of use. -/
def devices : List String := ["full", "null", "random", "urandom", "zero"]

/-- What the system tells of the program. -/
def processFiles : List String :=
  ["autogroup", "auxv", "cgroup", "cmdline", "comm", "coredump_filter", "cpuset", "environ", "exe",
    "gid_map", "io", "limits", "loginuid", "maps", "mountinfo", "mounts", "mountstats", "numa_maps",
    "oom_adj", "oom_score", "oom_score_adj", "pagemap", "personality", "projid_map", "sched",
    "schedstat", "sessionid", "setgroups", "smaps", "smaps_rollup", "stack", "stat", "statm",
    "status", "syscall", "timers", "timerslack_ns", "uid_map", "wchan"]

/-- What the system tells of itself. -/
def systemFiles : List String :=
  ["buddyinfo", "cgroups", "cmdline", "consoles", "cpuinfo", "crypto", "devices", "diskstats",
    "execdomains", "filesystems", "interrupts", "iomem", "ioports", "kallsyms", "key-users", "keys",
    "loadavg", "locks", "meminfo", "misc", "modules", "pagetypeinfo", "partitions", "slabinfo",
    "softirqs", "stat", "swaps", "timer_list", "uptime", "version", "vmallocinfo", "vmstat",
    "zoneinfo"]

/-- Files that hold no certificate. -/
def plainFiles : List Place :=
  (["fstab", "group", "hostname", "hosts", "passwd", "profile", "resolv.conf"].map (["etc", ·]))
    ++ (["cat", "env", "ls", "sh"].map (["usr", "bin", ·])) ++ [["usr", "lib", "os-release"]]
    ++ (devices.map (["dev", ·])) ++ (systemFiles.map (["proc", ·]))
    ++ (processFiles.map (["proc", "self", ·]))

def links : List (Place × String) :=
  [(["bin"], "usr/bin"), (["lib"], "usr/lib"), (["lib64"], "usr/lib64"), (["sbin"], "usr/sbin"),
    (["dev", "fd"], "/proc/self/fd"), (["dev", "stdin"], "/proc/self/fd/0"),
    (["dev", "stdout"], "/proc/self/fd/1"), (["dev", "stderr"], "/proc/self/fd/2"),
    (["etc", "mtab"], "/proc/mounts"), (["etc", "os-release"], "../usr/lib/os-release"),
    (["proc", "mounts"], "self/mounts"), (["proc", "net"], "self/net"),
    (["proc", "thread-self"], "self"), (["proc", "self", "cwd"], "/tmp/work"),
    (["proc", "self", "root"], "/"), (["var", "lock"], "/run/lock"), (["var", "run"], "/run")]

/-- What the program itself has open, by number: its input, its output, the place for errors, and
what it waits with. -/
def descriptors : List (String × Node) :=
  [("0", .input), ("1", .file []), ("2", .file [])]
    ++ ["3", "4", "5", "6", "7", "8"].map fun n => (n, .unopened)

/-- A system with the usual directories and devices, and nothing else on it. -/
def bare : Tree :=
  { nodes :=
      openDirectories.map (fun p => (p, .directory none))
        ++ closedDirectories.map (fun (p, e) => (p, .directory (some e)))
        ++ plainFiles.map (fun p => (p, .file []))
        ++ links.map (fun (p, path) => (p, .link path))
        ++ descriptors.map (fun (n, x) => (["proc", "self", "fd", n], x))
        ++ [(["dev", "tty"], .unopened), (["proc", "self", "mem"], .unreadable .cannotRead),
          (["proc", "self", "clear_refs"], .unreadable .invalidArgument)]
    current := ["tmp", "work"] }

end Tree

/-- The files of a bare system, with this on the standard input. -/
def Files.bare (input : String) : Files := Tree.bare.files input

end Mqtt.Shell
