import ProxySync.Tool.All
import ProxySync.Tool.Program

/-!
# The disk of a system

A disk that has nothing on it but the system: its folders, its devices, the
shell and the tools.
-/

namespace ProxySync.Tool

open Files

def systemFolders : List Place :=
  [["boot"], ["dev"], ["etc"], ["home"], ["media"], ["mnt"], ["opt"], ["proc"], ["root"], ["run"],
    ["srv"], ["sys"], ["tmp"], ["usr"], ["usr", "bin"], ["usr", "lib"], ["usr", "local"],
    ["usr", "local", "bin"], ["usr", "local", "sbin"], ["usr", "sbin"], ["usr", "share"], ["var"],
    ["var", "lib"], ["var", "log"], ["var", "tmp"]]

def systemLinks : List (Place × String) :=
  [(["bin"], "usr/bin"), (["lib"], "usr/lib"), (["sbin"], "usr/sbin"), (["var", "run"], "/run")]

def systemDevices : List (Place × Device) :=
  [(["dev", "null"], .null), (["dev", "zero"], .zero), (["dev", "full"], .full),
    (["dev", "tty"], .null), (["dev", "random"], .zero), (["dev", "urandom"], .zero),
    (["dev", "stdin"], .null), (["dev", "stdout"], .null), (["dev", "stderr"], .null)]

def systemTexts : List (Place × String) :=
  [(["etc", "hostname"], "localhost\n"),
    (["etc", "hosts"], "127.0.0.1\tlocalhost\n"),
    (["etc", "passwd"], "root:x:0:0:root:/root:/bin/bash\n"),
    (["etc", "group"], "root:x:0:\n")]

def systemDisk : Disk :=
  let d : Disk := { nodes := systemFolders.map fun p => (p, .folder Disk.folderMode) }
  let d := systemLinks.foldl (fun d (p, target) => d.put p (.link target)) d
  let d := systemDevices.foldl (fun d (p, device) => d.put p (.device device)) d
  let d := systemTexts.foldl (fun d (p, text) => d.create p ⟨.text text, 0o644⟩) d
  (shellNames ++ tools.map (·.1)).foldl (fun d name =>
    d.create ["usr", "bin", name] ⟨toolContent name, 0o755⟩) d

end ProxySync.Tool
