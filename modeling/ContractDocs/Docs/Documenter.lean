/-
The documenter writes reStructuredText for declarations of a registry: a
`.. sol:<kind>::` directive, its documentation indented below it, and below
a contract-like declaration the members that the options select.

A page only grows: every operation appends lines or diagnostics, and the
depth of indentation is back where it was after an entry is written.
-/
import ContractDocs.Diagnostic
import ContractDocs.Docs.NatSpec
import ContractDocs.Docs.Options
import ContractDocs.Docs.Target
import ContractDocs.Registry.Basic

namespace ContractDocs

/-- The domain of the directives. -/
def domain : String := "sol"

/-- A page being written. -/
structure Page where
  /-- Levels of indentation, three spaces each. -/
  depth : Nat := 0
  lines : List String := []
  diagnostics : List Diagnostic := []
deriving DecidableEq, Repr, Inhabited

namespace Page

/-- The blanks of a depth. -/
def indentation (depth : Nat) : String :=
  String.ofList (List.replicate (3 * depth) ' ')

/-- Appends a line at the current depth; a blank line stays empty. -/
def addLine (page : Page) (line : String) : Page :=
  let line := if Text.isBlankText line.toList then "" else indentation page.depth ++ line
  { page with lines := page.lines ++ [line] }

/-- Appends lines one after the other. -/
def addLines (page : Page) (lines : List String) : Page :=
  lines.foldl addLine page

/-- Goes one level deeper. -/
def indent (page : Page) : Page :=
  { page with depth := page.depth + 1 }

/-- Goes one level back, if there is one. -/
def dedent (page : Page) : Page :=
  { page with depth := page.depth - 1 }

/-- Appends a diagnostic. -/
def report (page : Page) (diagnostic : Diagnostic) : Page :=
  { page with diagnostics := page.diagnostics ++ [diagnostic] }

/-- The text of the page. -/
def output (page : Page) : String :=
  "\n".intercalate page.lines ++ "\n"

/-- The directive of a record, with its options. -/
def addHeader (page : Page) (options : DocOptions) (record : Record) : Page :=
  let page := page.addLine (".. " ++ domain ++ ":" ++ record.kind.name ++ ":: " ++ record.signature)
  if options.noindex then page.addLine "   :noindex:" else page

/-- The line of a struct field or an enum value. -/
def memberLine (member : Member) : String :=
  match member.typeName with
  | some type => ":member " ++ type ++ " " ++ member.name ++ ":"
  | none => ":member " ++ member.name ++ ":"

/-- The lines below an empty one; nothing at all when there are none. -/
def addSection (page : Page) (lines : List String) : Page :=
  if lines.isEmpty then page else page.addLines ("" :: lines)

/-- The documentation of a record, its members, and what the author adds. -/
def addContent (page : Page) (record : Record) (more : List String) : Page :=
  let page :=
    if record.doc.isEmpty then page
    else page.addLines
      ("" :: (Text.lines (NatSpec.render record.doc).toList).map String.ofList)
  (page.addSection (record.members.map memberLine)).addSection more

end Page

namespace Documenter

/-- The record a target names. Several candidates give the first with a warning, none gives a
warning. -/
def resolve (registry : Registry) (kind : Kind) (target : String) (page : Page) :
    Page × Option Record :=
  match registry.select ((Target.read kind target).query kind) with
  | [] =>
    (page.report (.warning (kind.name ++ " " ++ target ++ " could not be found")), none)
  | [record] => (page, some record)
  | first :: others =>
    let listing := (first :: others).map fun r => "  " ++ r.signature ++ " (" ++ r.location ++ ")"
    let message := "multiple candidates for " ++ kind.name ++ " " ++ target ++ " found:\n"
      ++ "\n".intercalate listing
    (page.report (.warningAt first.file first.line message), some first)

/-- The members of a record to document, in insertion order. -/
def selectedMembers (registry : Registry) (options : DocOptions) (allMembers : Bool)
    (record : Record) : List Record :=
  let wantAll := allMembers || options.members = .all
  if !wantAll && options.members = .none then []
  else match record.name with
    | some contract =>
      (registry.membersOf (some record.file) contract).filter (options.isSelected wantAll)
    | none => []

/-- Writes the entry of a record, and below it those of its members. `levels` bounds how many
entries stand inside one another. -/
def entry (registry : Registry) (options : DocOptions) :
    (levels : Nat) → Record → List String → Bool → Page → Page
  | 0, _, _, _, page => page
  | levels + 1, record, more, allMembers, page =>
    let page := ((page.addLine "").addHeader options record).indent.addContent record more
    let page :=
      if record.kind.isContractLike then
        (selectedMembers registry options allMembers record).foldl
          (fun page member => entry registry options levels member [] true page)
          (page.addLine "")
      else page
    page.dedent

/-- Entries inside one another are different records, so their number bounds the nesting. -/
def maxLevels (registry : Registry) : Nat :=
  registry.size + 1

/-- Writes the members of a record. -/
def documentMembers (registry : Registry) (options : DocOptions) (record : Record)
    (allMembers : Bool) (page : Page) : Page :=
  (selectedMembers registry options allMembers record).foldl
    (fun page member => entry registry options (maxLevels registry) member [] true page) page

/-- Writes the entry of a record. -/
def document (registry : Registry) (options : DocOptions) (record : Record) (more : List String)
    (allMembers : Bool) (page : Page) : Page :=
  entry registry options (maxLevels registry) record more allMembers page

/-- Finds the record a target names and writes its entry; the flag says whether there was
one. -/
def generate (registry : Registry) (options : DocOptions) (kind : Kind) (target : String)
    (more : List String) (allMembers : Bool) (page : Page) : Page × Bool :=
  match resolve registry kind target page with
  | (page, some record) => (document registry options record more allMembers page, true)
  | (page, none) => (page, false)

end Documenter

end ContractDocs
