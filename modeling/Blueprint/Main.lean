import Blueprint.CommandLine.Run

/-!
The program: it takes what a request needs from the disk into a file tree, runs the request on the
tree, and brings the disk to the state of the tree that is left. A server is announced, not started.
-/
set_option autoImplicit false

namespace Blueprint.CommandLine

def loadPlace (tree : FileTree) (place : Place) : IO FileTree := do
  let here ← IO.currentDir
  let mut loaded := tree
  for length in List.range (place.length + 1) do
    let names := place.take length
    let path := here / ("/" ++ "/".intercalate names)
    if (loaded.get? names).isNone then
      if ← path.isDir then loaded := loaded.put names .directory
      else if ← path.pathExists then
        let bytes ← IO.FS.readBinFile path
        loaded := loaded.put names (.file (bytes.toList.map UInt8.toNat))
  return loaded

def storeChanges (before after : FileTree) : IO Unit := do
  let here ← IO.currentDir
  for (place, entry) in after.changesSince before do
    let path := here / ("/" ++ "/".intercalate place)
    match entry with
    | .directory => IO.FS.createDirAll path
    | .file bytes => IO.FS.writeBinFile path (ByteArray.mk (bytes.map UInt8.ofNat).toArray)

/-- The file tree that a request runs on: what it reads, and what stands where it would write. -/
def loadFor (request : Request) : IO FileTree := do
  let directory := Path.ofText (← IO.currentDir).toString
  let mut tree ← loadPlace { directory := directory } directory.names
  for path in request.inputs directory do
    tree ← loadPlace tree path.names
  for (place, _) in (request.run tree).tree.changesSince tree do
    tree ← loadPlace tree place
  return tree

/-- Prints what a run printed, and delivers its status. -/
def report (outcome : Outcome) : IO UInt32 := do
  IO.print outcome.output
  IO.eprint outcome.errors
  match outcome.status with
  | .ok status => return status.toUInt32
  | .error crash => do
    IO.eprintln crash.message
    return 1

end Blueprint.CommandLine

open Blueprint.CommandLine in
def main (arguments : List String) : IO UInt32 := do
  match read arguments with
  | .request request => do
    let tree ← loadFor request
    let outcome := request.run tree
    storeChanges tree outcome.tree
    report outcome
  | _ => report (run arguments {})
