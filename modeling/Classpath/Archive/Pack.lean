import Classpath.Archive.Basic

/-!
# Making archives

The plainest archive of some contents: every entry is stored as it is, in order, under a name
in UTF-8, and nothing else is in the file.

## Main definitions

* `Archive.pack`.
-/

namespace Classpath.Archive

/-- The parts of an entry's description that its two headers share. -/
def sharedFields (name content : Bytes) : Bytes :=
  Bytes.ofNatLE 2 20 ++ Bytes.ofNatLE 2 0x0800 ++ Bytes.ofNatLE 2 0 ++
    Bytes.ofNatLE 4 0x00210000 ++ Bytes.ofNatLE 4 (crc32 content).toNat ++
    Bytes.ofNatLE 4 content.length ++ Bytes.ofNatLE 4 content.length ++
    Bytes.ofNatLE 2 name.length ++ Bytes.ofNatLE 2 0

/-- The header in front of an entry, and its data. -/
def localPart (name content : Bytes) : Bytes :=
  Bytes.ofNatLE 4 localMark ++ sharedFields name content ++ name ++ content

/-- An entry of the directory. -/
def directoryPart (name content : Bytes) (headerStart : Nat) : Bytes :=
  Bytes.ofNatLE 4 directoryMark ++ Bytes.ofNatLE 2 20 ++ sharedFields name content ++
    Bytes.ofNatLE 6 0 ++ Bytes.ofNatLE 4 0 ++ Bytes.ofNatLE 4 headerStart ++ name

/-- The parts of some entries, the first of which begins at `start`: headers and data, and
directory. -/
def packFrom : (start : Nat) → List (Bytes × Bytes) → Bytes × Bytes
  | _, [] => ([], [])
  | start, (name, content) :: rest =>
    let here := localPart name content
    let (data, directory) := packFrom (start + here.length) rest
    (here ++ data, directoryPart name content start ++ directory)

/-- The archive of some contents under their names. -/
def pack (entries : List (String × Bytes)) : Bytes :=
  let (data, directory) :=
    packFrom 0 (entries.map fun (name, content) => (Text.Utf8.encode name, content))
  data ++ directory ++ Bytes.ofNatLE 4 endMark ++ Bytes.ofNatLE 4 0 ++
    Bytes.ofNatLE 2 entries.length ++ Bytes.ofNatLE 2 entries.length ++
    Bytes.ofNatLE 4 directory.length ++ Bytes.ofNatLE 4 data.length ++ Bytes.ofNatLE 2 0

end Classpath.Archive
