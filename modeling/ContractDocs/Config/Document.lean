/-
Configuration files. A configuration is a YAML mapping with known keys, all
of them optional; keys that are not known count for nothing, and a known
key must not stand twice. An empty document leaves everything at its
default.
-/
import ContractDocs.Config.Basic
import ContractDocs.Files.Basic
import ContractDocs.Yaml.Document

namespace ContractDocs

-- ============================================================= values

namespace Yaml.Node

/-- The text of a scalar, however it is written. -/
def text? : Node → Option String
  | scalar _ _ text => some text
  | _ => none

/-- Whether nothing is written. -/
def isVoid : Node → Bool
  | scalar _ .plain text => text = ""
  | _ => false

/-- A truth value: one of six words, plain, or as lines under the tag of truth values. -/
def bool? : Node → Option Bool
  | scalar properties style text =>
    let tagged := properties.tag = some (Text.utf8 "tag:yaml.org,2002:bool".toList)
    if style = .plain || (style = .literal && tagged) then
      if ["true", "True", "TRUE"].contains text then some true
      else if ["false", "False", "FALSE"].contains text then some false
      else none
    else none
  | _ => none

/-- The name in a local tag: what stands behind its `!`, or that itself. Only a tag that is text
has a name. -/
def localName? (properties : Properties) : Option String :=
  match properties.tag with
  | some (33 :: name) => Text.ofUtf8? (if name = [] then [33] else name)
  | _ => none

/-- A name out of several: the text of a scalar, or a local tag on nothing. -/
def choice? : Node → Option String
  | scalar properties style text =>
    match localName? properties with
    | some name =>
      if style = .plain && ["", "~", "null", "Null", "NULL"].contains text then some name
      else none
    | none => some text
  | _ => none

end Yaml.Node

/-- The texts of a sequence of scalars; nothing written is the empty sequence. -/
def Yaml.Document.texts? (document : Document) : Node → Option (List String)
  | .sequence _ items => items.mapM fun item => (document.target? item).bind (·.text?)
  | node => if node.isVoid then some [] else none

-- ============================================================== files

namespace Config

/-- The value of a key that stands at most once. -/
def field? {α : Type} (document : Yaml.Document) (pairs : List (String × Yaml.Node)) (key : String)
    (default : α) (read : Yaml.Node → Option α) : Option α :=
  match pairs.filter (·.1 = key) with
  | [] => some default
  | [(_, node)] => (document.target? node).bind read
  | _ => none

/-- The configuration that a document describes. -/
def ofDocument? (document : Yaml.Document) : Option Config :=
  match document.root with
  | .mapping _ pairs => do
    let pairs ← pairs.mapM fun (key, value) => do
      return (← (← document.target? key).text?, value)
    let default : Config := {}
    return {
      lookupPath := ← field? document pairs "lookup_path" default.lookupPath (·.text?)
      excludedPaths := ← field? document pairs "excluded_paths" default.excludedPaths
        document.texts?
      includeHidden := ← field? document pairs "include_hidden" default.includeHidden (·.bool?)
      onFileError := ← field? document pairs "on_file_error" default.onFileError
        (·.choice?.bind FilePolicy.ofName?) }
  | root => if root.isVoid then some {} else none

/-- The configuration that a text describes; a text without a document describes the default. -/
def ofText? (text : String) : Option Config := do
  match ← Yaml.read? text with
  | some document => ofDocument? document
  | none => return {}

/-- Reads a configuration file. -/
def load (files : Files) (path : String) : Except Failure Config :=
  match files.readText path with
  | .error cause => .error (.config path cause.message)
  | .ok text =>
    if Text.isBlankText text.toList then .ok {}
    else match ofText? text with
      | some config => config.validate path
      | none => .error (.configDocument path)

/-- The names a configuration file goes by; the first that is there counts. -/
def fileNames : List String := ["soldoc.yaml", ".soldoc.yaml"]

/-- Looks for a configuration file in a directory and reads it. -/
def discover (files : Files) (dir : String) : Except Failure (Option (String × Config)) := do
  match (fileNames.map (Path.join dir)).find? fun (path : String) => files.isFile path with
  | some path => return some (path, ← load files path)
  | none => return none

end Config

end ContractDocs
