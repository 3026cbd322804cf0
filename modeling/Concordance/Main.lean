import Concordance.CommandLine.Arguments
import Concordance.CommandLine.Run
import Concordance.Files.Building

/-!
# The program

The program works on the files whose names it is given on standard input, one a line, with the
folders that they are in. It reads them all before it starts, and writes the files that a run made
or changed when it is over. Pages of the web cannot be reached.
-/

namespace Concordance

/-- How the program is called. -/
def usageText : String :=
  "usage: find . | concordance [--text PATH] [--html SEED] [--crawl N] [--threads [N]]\n" ++
    "  [--query PATH] [--partial] [--counts [PATH]] [--index [PATH]] [--results [PATH]]\n"

/-- The text for a command line that is not run. -/
def UsageError.message : UsageError → String
  | .unknownArgument => "an argument is not known\n" ++ usageText
  | .invalidValue => "a path is missing\n" ++ usageText
  | .valueValidation => "a value is not a number\n" ++ usageText
  | .argumentConflict => "an option is given twice\n" ++ usageText
  | .tooManyValues => "an option takes no value\n" ++ usageText
  | .displayHelp => usageText
  | .displayVersion => "concordance 1.0\n"

/-- What stands at a path: a file that can be read, or else a folder. -/
def readNode (path : String) : IO Node := do
  try
    return .file (← IO.FS.readBinFile path)
  catch _ =>
    return .folder

/-- The lines of a stream, up to its end or so many of them. -/
def readLines (input : IO.FS.Stream) : Nat → IO (List String)
  | 0 => return []
  | limit + 1 => do
    let line ← input.getLine
    if line.isEmpty then return []
    return Query.lines line ++ (← readLines input limit)

/-- Runs flags on the files with the given names. -/
def runOnFiles (flags : Flags) (names : List String) : IO UInt32 := do
  let mut entries := #[]
  for name in names do
    entries := entries.push (name, ← readNode name)
  let tree := FileTree.ofEntries entries.toList
  let outcome := runFlags flags tree unreachableWeb {}
  for (path, content) in outcome.tree.changesSince tree do
    IO.FS.writeBinFile path content
  for text in outcome.stepErrors ++ outcome.error.toList do
    IO.eprintln text
  return UInt32.ofNat outcome.exitStatus

end Concordance

/-- Runs the command line. -/
def main (arguments : List String) : IO UInt32 := do
  match Concordance.Flags.parse arguments with
  | .error usage =>
    IO.eprint usage.message
    return UInt32.ofNat usage.exitStatus
  | .ok flags =>
    Concordance.runOnFiles flags (← Concordance.readLines (← IO.getStdin) Concordance.Pool.patience)
