/-
The program. A command that looks at sources takes the tree of files from
standard input, as a JSON list of entries with the syntax trees of the
source files.
-/
import ContractDocs.CommandLine.Run
import ContractDocs.Files.Snapshot
import ContractDocs.Json.Reader

namespace ContractDocs.Program

/-- Everything that is left to read. -/
partial def readAll (input : IO.FS.Stream) (text : String) : IO String := do
  let line ← input.getLine
  if line.isEmpty then return text else readAll input (text ++ line)

/-- How deep the lists of a tree of files may nest. -/
def maxDepth : Nat := 1000000

/-- The files that a command works on. -/
def filesOf : CommandLine.Command → IO Files
  | .signature .. => return .empty
  | _ => do
    let text ← readAll (← IO.getStdin) ""
    return Files.ofJson (((Json.read? maxDepth text.toList).map Json.items).getD [])

/-- How the program is called. -/
def usageText : String :=
  "usage: " ++ programName ++ " [-v] index [-d DIR] [-c FILE] [-l DIR] [-e GLOB]... [-f FORMAT]\n"
    ++ "       " ++ programName ++ " [-v] signature -k KIND HEADER\n"
    ++ "       " ++ programName ++ " [-v] autodoc -k KIND TARGET [--members [NAMES]]\n"

/-- Answers a command line that is not run. -/
def answerUsage (usage : CommandLine.Usage) : IO Unit := do
  match usage with
  | .help => IO.print usageText
  | .version => IO.println (programName ++ " " ++ version)
  | _ => IO.eprint usageText

/-- Runs a command line. -/
def run (words : List String) : IO UInt32 := do
  match CommandLine.Invocation.read words with
  | .error usage =>
    answerUsage usage
    return usage.exitCode.toUInt32
  | .ok invocation =>
    let outcome := invocation.command.run false (← filesOf invocation.command)
    IO.print outcome.stdout
    IO.eprint outcome.stderr
    return outcome.exitCode.toUInt32

end ContractDocs.Program

/-- The program. -/
def main (words : List String) : IO UInt32 :=
  ContractDocs.Program.run words
