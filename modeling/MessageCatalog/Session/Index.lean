import MessageCatalog.Entry.Merge
import MessageCatalog.Log
import MessageCatalog.Path
import MessageCatalog.Source.Scan

/-! An index tells which messages the sources use, and where; it is made anew from all sources. -/

namespace MessageCatalog

open Source (Function Scan ScanError scan)

/-- What the sources say. -/
structure Index where
  /-- The keys that each file uses, for the files that could be scanned. -/
  keysByFile : SortedMap Path (SortedSet Key) := ∅
  /-- The messages in use; of several with one key the first counts. -/
  live : LiveMessages := ⟨∅, ∅⟩
  /-- The files that could not be scanned. -/
  failures : SortedMap Path ScanError := ∅
  deriving DecidableEq

namespace Index

/-- The name of a file in references, which has slashes only. -/
def displayName (path : Path) : String := path.text.map fun c => if c = '\\' then '/' else c

/-- Adding the use of a message in a file. -/
def addCall (file : String) (live : LiveMessages) (call : Source.Call) : LiveMessages :=
  -- The line of a use is the one on which the call ends.
  let key := call.key
  let usages := (live.usages.get? key).getD ∅
  { messages := live.messages.insertIfNew key call.message
    usages := live.usages.insert key (usages.add ⟨file, call.stop.line + 1⟩) }

/-- Adding what the scan of a file found. -/
def addScan (path : Path) (index : Index) (scanned : Scan) : Index :=
  match scanned.result with
  | .ok calls =>
    { index with
      keysByFile := index.keysByFile.insert path (.ofElements (calls.map Source.Call.key))
      live := calls.foldl (addCall (displayName path)) index.live }
  -- A file with a fault has no keys, whatever stands in front of the fault.
  | .error fault => { index with failures := index.failures.insert path fault }

/-- The scans of sources, in the order of their paths. -/
def scans (functions : List Function) (sources : SortedMap Path String) : List (Path × Scan) :=
  sources.toList.map fun (path, text) => (path, scan functions text.toList)

/-- The index of scanned files. -/
def ofScans (scans : List (Path × Scan)) : Index :=
  scans.foldl (fun index (path, scanned) => index.addScan path scanned) {}

/-- The index of sources. -/
def ofSources (functions : List Function) (sources : SortedMap Path String) : Index :=
  ofScans (scans functions sources)

/-- What is logged about the scan of a file: the constructs that were skipped, and why the file was
left out, if it was. -/
def scanLog (path : Path) (scanned : Scan) : List (Level × String) :=
  scanned.notes.map (fun note => (.debug, note)) ++
  match scanned.result with
  | .ok _ => []
  | .error fault => [(.warn, "Skipping " ++ path.text ++ ": " ++ fault.message)]

/-- A file that is gone has no keys and no failure; its messages go when the index is made anew. -/
def dropFile (index : Index) (path : Path) : Index :=
  { index with
    keysByFile := index.keysByFile.erase path
    failures := index.failures.erase path }

end Index

end MessageCatalog
