/-
The report of an index: records grouped by file for a terminal, or the
whole registry as JSON. Files stand in the order their first record has in
the registry.
-/
import ContractDocs.Registry.Basic
import ContractDocs.Report.Encode
import ContractDocs.Report.Paint

namespace ContractDocs

/-- The name reports and messages go by. -/
def programName : String := "soldoc"

/-- The version reports carry. -/
def version : String := "0.1.0"

/-- What a report is about. -/
structure Report where
  lookupPath : String
  registry : Registry
  diagnostics : List Diagnostic

namespace Report

/-- The files of the registry, in the order of their first records. -/
def files (report : Report) : List String :=
  (report.registry.toList.map Record.file).eraseDups

-- ============================================================== JSON

/-- The report as JSON. -/
def toJson (report : Report) : Json :=
  .object [
    ("version", .string version),
    ("lookup_path", .string report.lookupPath),
    ("files_indexed", .ofNat report.files.length),
    ("summary", .object [
      ("records", .ofNat report.registry.size),
      ("errors", .ofNat (Diagnostic.count .error report.diagnostics)),
      ("warnings", .ofNat (Diagnostic.count .warning report.diagnostics))]),
    ("records", .list (report.registry.toList.map Record.toJson)),
    ("diagnostics", .list (report.diagnostics.map Diagnostic.toJson))]

-- ========================================================== terminal

variable (colored : Bool)

/-- The line of a record; members stand deeper than contracts. -/
def recordLine (record : Record) : String :=
  (if record.contract.isSome then "      " else "    ")
    ++ Paint.dim.apply colored (padRight 12 record.kind.name)
    ++ record.signature ++ "  "
    ++ Paint.dim.apply colored (":" ++ toString record.line)

/-- The lines of one file: its heading, its records and an empty line. -/
def fileLines (report : Report) (file : String) : List String :=
  ("  " ++ Paint.blue.apply colored file)
    :: (report.registry.ofFile file).map (recordLine colored) ++ [""]

/-- The mark of a severity. -/
def severityTag : Severity → String
  | .error => Paint.red.apply colored "ERROR"
  | .warning => Paint.yellow.apply colored "WARN "
  | .info => Paint.blue.apply colored "INFO "

/-- The lines of one diagnostic: mark and place, the message below, an empty line. -/
def diagnosticLines (d : Diagnostic) : List String :=
  let place := match d.location with
    | some location => Paint.blue.apply colored location
    | none => ""
  ("    " ++ severityTag colored d.severity ++ " " ++ place)
    :: (Text.lines d.message.toList).map (fun line => "            " ++ String.ofList line)
    ++ [""]

/-- The diagnostics under their heading; nothing when there are none. -/
def diagnosticsLines (report : Report) : List String :=
  if report.diagnostics.isEmpty then []
  else
    ("  " ++ Paint.bold.apply colored "Diagnostics" ++ " ("
      ++ toString report.diagnostics.length ++ "):")
    :: "" :: report.diagnostics.flatMap (diagnosticLines colored)

/-- The last line: the outcome and the counts. -/
def summaryLine (report : Report) : String :=
  let errors := Diagnostic.count .error report.diagnostics
  let warnings := Diagnostic.count .warning report.diagnostics
  let status :=
    if 0 < errors then Paint.red.apply colored "✗ ERRORS" else Paint.green.apply colored "✓ OK"
  "  " ++ status ++ "  " ++ toString report.registry.size ++ " records in "
    ++ toString report.files.length ++ " files  "
    ++ Paint.dim.apply colored
      ("(" ++ toString errors ++ " errors, " ++ toString warnings ++ " warnings)")

/-- The lines of the report. -/
def toLines (report : Report) : List String :=
  ["", "  " ++ Paint.boldCyan.apply colored programName ++ " v" ++ version, "",
    "  " ++ Paint.dim.apply colored "Indexing: " ++ report.lookupPath, ""]
  ++ report.files.flatMap (report.fileLines colored)
  ++ report.diagnosticsLines colored
  ++ [report.summaryLine colored]

/-- The report for a terminal. -/
def render (report : Report) : String :=
  String.join ((report.toLines colored).map (· ++ "\n"))

end Report

end ContractDocs
