import Hotkeys.Host.Files

/-!
# The system's own files

The directories, programs and devices that are there before the user puts anything anywhere.
-/

set_option autoImplicit false

namespace Hotkeys.Host

/-- A place, from how it is written. -/
def systemPlace (path : String) : Place :=
  Path.segments path.toList

/-- The directories of the system. -/
def systemDirectories : List String :=
  ["/boot", "/dev", "/dev/pts", "/dev/shm", "/etc", "/home", "/media", "/mnt", "/opt", "/proc",
    "/proc/self", "/proc/self/fd", "/root", "/run", "/srv", "/sys", "/tmp", "/usr", "/usr/bin",
    "/usr/lib", "/usr/lib64", "/usr/local", "/usr/local/bin", "/usr/sbin", "/usr/share", "/var",
    "/var/cache", "/var/lib", "/var/log", "/var/tmp"]

/-- The links of the system and where they lead. -/
def systemLinks : List (String × String) :=
  [("/bin", "usr/bin"), ("/sbin", "usr/sbin"), ("/lib", "usr/lib"), ("/lib64", "usr/lib64"),
    ("/dev/fd", "/proc/self/fd"), ("/dev/stdin", "/proc/self/fd/0"),
    ("/dev/stdout", "/proc/self/fd/1"), ("/dev/stderr", "/proc/self/fd/2")]

/-- The files of the system that hold text. -/
def systemTexts : List (String × String) :=
  [("/etc/passwd", "root:x:0:0:root:/root:/bin/bash\n"), ("/etc/group", "root:x:0:\n"),
    ("/etc/hosts", "127.0.0.1\tlocalhost\n"), ("/etc/hostname", "localhost\n"),
    ("/etc/shells", "/bin/sh\n/bin/bash\n"), ("/etc/profile", ""), ("/etc/fstab", ""),
    ("/etc/os-release", ""), ("/etc/shadow", "")]

/-- The devices of the system. -/
def systemDevices : List (String × Device) :=
  [("/dev/null", .null), ("/dev/full", .full), ("/dev/tty", .terminal)]

/-- The streams that every program has. -/
def usualStreams : List Nat := [0, 1, 2]

/-- The directory of the streams of whoever looks there. -/
def streamsPlace : Place :=
  systemPlace "/proc/self/fd"

/-- The number of the stream that a path leads to. -/
def Files.streamAt? (files : Files) (path : Text) : Option Nat :=
  match files.locate path with
  | .ok place =>
    if place.dropLast = streamsPlace then place.getLast?.bind (Text.numeral? 10) else none
  | .error _ => none

/-- The files of the system, seen from a directory. -/
def systemFiles (here : Place) : Files :=
  let entry (path : String) (node : Node) : Place × Node := (systemPlace path, node)
  { nodes :=
      systemDirectories.map (entry · .directory) ++
      systemLinks.map (fun l => entry l.1 (.link l.2.toList)) ++
      systemTexts.map (fun t => entry t.1 (.file (Text.Utf8.encode t.2.toList) false)) ++
      systemDevices.map (fun d => entry d.1 (.device d.2)) ++
      usualStreams.map (fun n => (streamsPlace ++ [Text.ofNat n], .stream n)) ++
      Tool.names.map fun t => (systemPlace "/usr/bin" ++ [t.1.toList], .tool t.2)
    here }

end Hotkeys.Host
