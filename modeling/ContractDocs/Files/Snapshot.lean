/-
Trees of files as JSON: a list of entries, each put in place after the ones
before it. An entry is a directory, a link, or a file with its contents and,
for a source file, its syntax tree.
-/
import ContractDocs.Files.Edit
import ContractDocs.Source.Snapshot

namespace ContractDocs.Files

/-- Puts the entry that `json` describes in place. -/
def addJson (files : Files) (json : Json) : Files :=
  let path := json.getString "path"
  match json.getString? "link" with
  | some target => files.makeLink path target
  | none =>
    if json.getBool "dir" then files.makeDir path
    else
      let bytes := (fileBytes? json).getD ByteArray.empty
      files.write path bytes ((json.get? "tree").bind Tree.ofJson?)

/-- The tree of a list of entries. -/
def ofJson (entries : List Json) : Files :=
  entries.foldl addJson empty

end ContractDocs.Files
