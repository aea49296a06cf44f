import Strainer.Files.Error
import Strainer.Parquet.File
import Strainer.Text.Utf8

/-!
# A store of files

The files a run reads and writes, by path relative to the working directory. A file holds text,
raw bytes, a columnar file as its reader sees it, or is a directory. Paths are compared after
dropping empty and `.` components. A file can be created only in an existing directory: the
working directory, a directory entry, or a directory implied by another file's path.
-/

namespace Strainer

/-- What a path holds. -/
inductive FileData where
  | text (s : String)
  | bytes (bs : List UInt8)
  | columnar (file : Parquet.ColumnarFile)
  | directory

namespace FileData

/-- The bytes of a file of text or raw bytes. -/
def rawBytes? : FileData → Option (List UInt8)
  | text s => some (Text.utf8Bytes s.toList)
  | bytes bs => some bs
  | _ => none

/-- Does the file open with the magic bytes of a columnar file? -/
def isColumnar : FileData → Bool
  | columnar _ => true
  | d => match d.rawBytes? with
    | some bs => bs.take 4 = Parquet.magic
    | none => false

end FileData

/-- Files by normalized path. -/
structure FileStore where
  files : List (String × FileData)

namespace FileStore

/-- A path with empty and `.` components dropped. -/
def normalize (path : String) : String :=
  "/".intercalate ((path.splitOn "/").filter fun c => c ≠ "" ∧ c ≠ ".")

def find? (s : FileStore) (path : String) : Option FileData :=
  (s.files.find? (·.1 = normalize path)).map (·.2)

/-- Is `dir` a directory: the working directory, a directory entry, or a prefix of a path? -/
def isDirectory (s : FileStore) (dir : String) : Bool :=
  dir == "" || s.files.any fun (p, d) =>
    (p == dir && match d with | .directory => true | _ => false) || p.startsWith (dir ++ "/")

/-- The directory a path lies in. -/
def parent (path : String) : String :=
  "/".intercalate ((normalize path).splitOn "/").dropLast

/-- The store with `path` holding `data`, replacing what it held. -/
def put (s : FileStore) (path : String) (data : FileData) : FileStore :=
  let p := normalize path
  if s.files.any (·.1 = p) then ⟨s.files.map fun (q, d) => if q = p then (q, data) else (q, d)⟩
  else ⟨s.files ++ [(p, data)]⟩

/-- Creates or empties the file at `path`. -/
def create (s : FileStore) (path : String) : Except IoError FileStore :=
  let p := normalize path
  if s.isDirectory p then .error .isDirectory
  else if ¬ s.isDirectory (parent p) then .error .notFound
  else .ok (s.put p (.text ""))

/-- The file at `path`, to be read. -/
def open? (s : FileStore) (path : String) : Except IoError FileData :=
  match s.find? path with
  | some d => .ok d
  | none => if s.isDirectory (normalize path) then .ok .directory else .error .notFound

end FileStore

end Strainer
