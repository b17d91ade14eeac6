import Reminders.SystemError
import Reminders.Text.Split

/-!
# Files at hand

The files and directories that any machine has. A path is followed part by part from the root: a
part may be a file only if it is the last one, empty parts and parts of one dot stay where they are,
and parts of two dots go back.
-/

namespace Reminders.FileSystem

/-- The files that any machine has. -/
def files : List String := [
  "/dev/full", "/dev/null", "/dev/random", "/dev/stderr", "/dev/stdin", "/dev/stdout", "/dev/tty",
  "/dev/urandom", "/dev/zero", "/etc/group", "/etc/gshadow", "/etc/host.conf", "/etc/hostname",
  "/etc/hosts", "/etc/issue", "/etc/ld.so.cache", "/etc/ld.so.conf", "/etc/nsswitch.conf",
  "/etc/os-release", "/etc/passwd", "/etc/profile", "/etc/resolv.conf", "/etc/shadow",
  "/etc/shells", "/bin/bash", "/bin/cat", "/bin/ls", "/bin/sh", "/usr/bin/bash", "/usr/bin/cat",
  "/usr/bin/env", "/usr/bin/ls", "/usr/bin/sh", "/proc/cmdline", "/proc/cpuinfo",
  "/proc/filesystems", "/proc/loadavg", "/proc/meminfo", "/proc/mounts", "/proc/self/cmdline",
  "/proc/self/environ", "/proc/self/exe", "/proc/self/maps", "/proc/self/status", "/proc/stat",
  "/proc/uptime", "/proc/version"]

/-- The directories that any machine has, the root aside. -/
def directories : List String := [
  "/bin", "/boot", "/dev", "/dev/fd", "/dev/pts", "/dev/shm", "/etc", "/home", "/lib", "/lib64",
  "/media", "/mnt", "/opt", "/proc", "/proc/self", "/proc/sys", "/root", "/run", "/sbin", "/srv",
  "/sys", "/tmp", "/usr", "/usr/bin", "/usr/lib", "/usr/local", "/usr/local/bin", "/usr/sbin",
  "/usr/share", "/var", "/var/cache", "/var/lib", "/var/log", "/var/run", "/var/tmp"]

/-- The path of the directory that parts lead to, the last of which comes first. -/
def pathOf (parts : List (List Char)) : String :=
  String.ofList (parts.reverse.flatMap fun part => '/' :: part)

/-- Why the rest of a path does not lead to anything, after parts that lead to a directory, the last
of which comes first. -/
def errorFrom? (before : List (List Char)) : List (List Char) → Option SystemError
  | [] => none
  | part :: rest =>
      if part = [] || part = ['.'] then errorFrom? before rest
      else if part = ['.', '.'] then errorFrom? before.tail rest
      else
        let path := pathOf (part :: before)
        if directories.contains path then errorFrom? (part :: before) rest
        else if !files.contains path then some .noSuchFile
        else if rest.isEmpty then none
        else some .notDirectory

/-- Why a path from the root does not lead to anything. -/
def error? (path : List Char) : Option SystemError := errorFrom? [] (Text.splitOn '/' path)

/-- A file is no directory. -/
theorem not_directories_of_files : ∀ path ∈ files, directories.contains path = false := by
  decide +kernel

end Reminders.FileSystem
