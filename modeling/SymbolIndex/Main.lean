import SymbolIndex.CommandLine.Outcome

/-!
# The program

Reads the command line, the environment and the index file, and prints what the run comes to.
-/

namespace SymbolIndex.CommandLine

/-- What a path leads to; what is there and cannot be read is taken for a directory. -/
def inspect (path : Text) : IO FileNode := do
  try
    return .file (← IO.FS.readBinFile (String.ofList path))
  catch
    | .noFileOrDirectory _ _ _ => return .missing
    | _                        => return .directory

/-- The index file that a plan will ask for. -/
def neededFile : Plan → Option FilePath
  | .run settings _ => settings.index
  | _               => none

/-- Carry out the command line. -/
def execute (words : List String) : IO UInt32 := do
  let readVariable := fun name => return (← IO.getEnv name).map String.toList
  let env : Environment :=
    { index     := ← readVariable "MODINDEX_INDEX"
      root      := ← readVariable "MODINDEX_ROOT"
      directory := FilePath.ofText (← IO.currentDir).toString.toList }
  let plan := plan env (words.map String.toList)
  let node ← match neededFile plan with
    | some path => inspect path.toText
    | none      => pure .missing
  let o := plan.outcome fun _ => node
  for n in o.notes do
    IO.eprintln (String.ofList (noteLine n))
  IO.print (String.ofList o.printed)
  if let .complaint c := o.ending then
    IO.eprintln (String.ofList c.shown)
  return o.status.toUInt32

end SymbolIndex.CommandLine

/-- The entry point. -/
def main (words : List String) : IO UInt32 := SymbolIndex.CommandLine.execute words
