/-
**A disk with an empty working directory.**

Main definitions:

* `LtoBridge.Disk.workspace`.
-/

import LtoBridge.Files.Disk

set_option autoImplicit false

namespace LtoBridge.Disk

/-- The location with the given names. -/
def at_ (names : List String) : Location := names.map Bytes.ofString

/-- The directories that every disk has. -/
def systemDirectories : List (List String) :=
  [["boot"], ["dev"], ["etc"], ["home"], ["media"], ["mnt"], ["opt"], ["proc"], ["root"], ["run"],
    ["srv"], ["sys"], ["tmp"], ["usr"], ["usr", "bin"], ["usr", "lib"], ["usr", "local"],
    ["usr", "local", "bin"], ["usr", "sbin"], ["usr", "share"], ["var"], ["var", "tmp"], ["work"],
    ["work", "lto-bridge-session"]]

/-- The devices that every disk has. -/
def systemDevices : List (List String × Device) :=
  [(["dev", "null"], .null), (["dev", "zero"], .zero), (["dev", "full"], .full)]

/-- The links that every disk has. -/
def systemLinks : List (List String × String) :=
  [(["bin"], "usr/bin"), (["lib"], "usr/lib"), (["sbin"], "usr/sbin"),
    (["usr", "bin", "sh"], "dash"), (["usr", "bin", "awk"], "mawk")]

/-- **A disk with the given programs and an empty working directory.** -/
def workspace (programs : List String) : Disk where
  tree := ⟨systemDirectories.map (at_ ·, .directory) ++
    systemDevices.map (fun entry => (at_ entry.1, .device entry.2)) ++
    systemLinks.map (fun entry => (at_ entry.1, .link (Bytes.ofString entry.2))) ++
    programs.map fun name => (at_ ["usr", "bin", name], .program name)⟩
  current := at_ ["work", "lto-bridge-session"]

end LtoBridge.Disk
