import Weave.Properties
import Weave.Text.Blank

/-! Workbench: the files that scenarios read from, those of a bare system, with its directories
and programs, which hold no text, and a few files, none of which holds a setting. A path is walked
step by step from the root or from the working directory. -/

namespace Weave.Bench

def notFound : PathFault := ⟨"No such file or directory (os error 2)"⟩

def notADirectory : PathFault := ⟨"Not a directory (os error 20)"⟩

def isADirectory : PathFault := ⟨"Is a directory (os error 21)"⟩

def nameTooLong : PathFault := ⟨"File name too long (os error 36)"⟩

def nulByte : PathFault := ⟨"file name contained an unexpected NUL byte"⟩

def noText : PathFault := ⟨"stream did not contain valid UTF-8"⟩

/-- What a path leads to. A program is a file that holds no text. -/
inductive Place where
  | directory
  | file (content : String)
  | program
deriving DecidableEq, Repr

namespace Place

/-- The step that stands for the working directory at the start of a relative path. -/
def here : String := "."

def directories : List (String × String) :=
  [("", "bin boot dev etc home lib lib64 media mnt opt proc root run sbin srv sys tmp usr var"),
    ("usr", "bin games include lib lib64 libexec local sbin share src"),
    ("usr/local", "bin etc games include lib man sbin share src"),
    ("usr/share", "dict doc info man misc zoneinfo"),
    ("var", "backups cache lib local lock log mail opt run spool tmp"),
    ("var/lib", "apt dpkg misc"), ("var/cache", "apt"), ("var/spool", "mail"),
    ("etc", "apt cron.d default init.d opt profile.d security skel ssl systemd"),
    ("etc/ssl", "certs private"), ("dev", "mqueue pts shm"), ("proc", "1 bus fs net self sys"),
    ("proc/self", "fd net task"), ("sys", "block bus class dev devices fs kernel module"),
    ("run", "lock")]

def links : List (String × String) :=
  [("bin", "usr/bin"), ("lib", "usr/lib"), ("lib64", "usr/lib64"), ("sbin", "usr/sbin"),
    ("var/run", "run"), ("var/lock", "run/lock"), ("dev/fd", "proc/self/fd")]

def notices : List String :=
  ["etc/passwd", "etc/group", "etc/shadow", "etc/hosts", "etc/hostname", "etc/resolv.conf",
    "etc/os-release", "etc/issue", "etc/profile", "proc/version", "proc/cpuinfo", "proc/meminfo",
    "proc/mounts", "proc/self/status"]

def programs : List String :=
  ["sh", "bash", "dash", "ls", "cat", "cp", "mv", "rm", "ln", "pwd", "echo", "true", "false", "env",
    "grep", "sed", "tar", "sort", "head", "tail", "touch", "test", "tr", "wc", "find"]

def find? (steps : List String) : Option Place :=
  let path := "/".intercalate steps
  if steps = [] || steps = [here] then some directory
  else if path = "dev/null" then some (file "")
  else if notices.contains path then some (file "=")
  else
    let name := steps.getLast?.getD ""
    let parent := "/".intercalate steps.dropLast
    let contains (entry : String × String) : Bool :=
      entry.1 = parent && (Text.words entry.2.toList).contains name.toList
    if directories.any contains then some directory
    else if parent = "usr/bin" && programs.contains name then some program
    else none

def follow (steps : List String) : List String :=
  match links.find? (·.1 == "/".intercalate steps) with
  | some (_, target) => target.splitOn "/"
  | none => steps

def above (steps : List String) : List String := if steps = [here] then steps else steps.dropLast

def longestName : Nat := 255

def walk (reached : List String) : List String → Except PathFault Place
  | [] => (find? reached).elim (.error notFound) .ok
  | step :: rest =>
    match find? reached with
    | none => .error notFound
    | some (file _) | some program => .error notADirectory
    | some directory =>
      if step.isEmpty || step = here then walk reached rest
      else if step = ".." then walk (above reached) rest
      else if longestName < step.utf8ByteSize then .error nameTooLong
      else walk (follow (reached ++ [step])) rest

def longestPath : Nat := 4095

def ofPath (path : String) : Except PathFault Place :=
  if path.contains '\x00' then .error nulByte
  else if path.isEmpty then .error notFound
  else if longestPath < path.utf8ByteSize then .error nameTooLong
  else
    match path.splitOn "/" with
    | "" :: steps => walk [] steps
    | steps => walk [here] steps

def readText (path : String) : Except PathFault String :=
  match ofPath path with
  | .ok (file content) => .ok content
  | .ok directory => .error isADirectory
  | .ok program => .error noText
  | .error fault => .error fault

end Place

end Weave.Bench
