import Strainer.Command.Invocation

/-!
# The command line

Reads the files an invocation may touch (the input, the filters file and the names it may be
found under, and the output's directory) into a store, runs the invocation, prints what it
wrote, and writes the output file back when it is text or raw bytes. Columnar output is held
as its reader sees it and is not encoded to disk here.
-/

open Strainer Strainer.Command

/-- What a path holds on disk: a file, a directory, or nothing. -/
def probe (path : String) : IO (Option FileData) := do
  match ← (IO.FS.readBinFile path).toBaseIO with
  | .ok bytes =>
    pure (some (match String.fromUTF8? bytes with
      | some s => .text s
      | none => .bytes bytes.toList))
  | .error _ =>
    match ← (IO.FS.Handle.mk path .read).toBaseIO with
    | .ok _ => pure (some .directory)
    | .error _ => pure none

/-- The paths an invocation with these options may read. -/
def pathsOf (o : Options) : List String :=
  let filters := match o.filters with
    | some f => f :: (Settings.candidatePaths f).map (·.1)
    | none => []
  let outputDir := FileStore.parent o.output
  [o.input] ++ filters ++ (if outputDir.isEmpty then [] else [outputDir])

/-- The store of the files at the paths. -/
def loadStore (paths : List String) : IO FileStore :=
  paths.foldlM (fun st p => do
    match ← probe p with
    | some d => pure (st.put p d)
    | none => pure st) ⟨[]⟩

/-- Is the file the same as before the run? -/
def unchanged : Option FileData → Option FileData → Bool
  | some (.text a), some (.text b) => a == b
  | some (.bytes a), some (.bytes b) => a == b
  | none, none => true
  | _, _ => false

def main (args : List String) : IO UInt32 := do
  let filtersVar ← IO.getEnv "ROWSIFT_FILTERS"
  let logSpec ← IO.getEnv "RUST_LOG"
  let workdir := (← IO.currentDir).toString
  let paths := match Options.parse filtersVar args with
    | .ok o => pathsOf o
    | .error _ => []
  let store ← loadStore paths
  let inv : Invocation := { args, filtersVar, logSpec, workdir, store }
  let started ← IO.monoNanosNow
  let ending ← IO.lazyPure fun _ => inv.start
  let finished ← IO.monoNanosNow
  let e := ending.close (finished - started)
  IO.print e.stdout
  IO.eprint e.stderr
  match Options.parse filtersVar args with
  | .ok o =>
    let after := e.store.find? o.output
    if !Pipeline.isStdoutPath o.output && !unchanged (store.find? o.output) after then
      match after with
      | some (.text s) => IO.FS.writeFile o.output s
      | some (.bytes bs) => IO.FS.writeBinFile o.output (ByteArray.mk bs.toArray)
      | _ => pure ()
  | .error _ => pure ()
  (← IO.getStdout).flush
  pure e.status.toUInt32
