import Dialogue.Document.Yaml
import Dialogue.Flow.Check
import Dialogue.Flow.Reading
import Dialogue.Text.Words

/-!
# Flow files

The extension of a file says how the flow in it is written. A file is validated by checking the flow
that it holds.
-/

namespace Dialogue

/-- Why a flow could not be taken from a file or into a registry. -/
inductive FlowFault where
  | inaccessible (reason : String)
  | unreadable (reason : String)
  | invalid (defects : List Defect)
  deriving DecidableEq, Repr

/-- The wording of a fault. -/
def FlowFault.message : FlowFault → String
  | .inaccessible reason => "I/O error: " ++ reason
  | .unreadable reason => "parse error: " ++ reason
  | .invalid defects => "invalid flow: " ++ String.intercalate "; " (defects.map Defect.message)

/-- How a flow is written in a file. -/
inductive FlowFormat where
  | json
  | yaml
  deriving DecidableEq, Repr

namespace FlowFormat

/-- The format that an extension stands for. -/
def ofExtension? : String → Option FlowFormat
  | "jgtc" | "json" => some json
  | "ygtc" | "yaml" | "yml" => some yaml
  | _ => none

/-- The format of the file that a path names. -/
def ofPath (path : String) : Except FlowFault FlowFormat :=
  let extension := Text.extensionOf path
  match ofExtension? extension with
  | some format => .ok format
  | none =>
    .error (.unreadable ("unsupported extension “" ++ extension
      ++ "” (expected .jgtc, .json, .ygtc or .yaml)"))

end FlowFormat

namespace Flow

/-- The flow of a text in YAML, built. -/
def ofYaml (text : String) : Except Misfit Flow :=
  (decode .aside (Yaml.read text)).map build

/-- The flow that a text in a format holds. -/
def ofText (format : FlowFormat) (text : String) : Except FlowFault Flow :=
  match format with
  | .json => (ofJson text).mapError fun m => .unreadable ("JSON parse error: " ++ m.message)
  | .yaml => (ofYaml text).mapError fun m => .unreadable ("YAML parse error: " ++ m.message)

/-- The flow in a file; `contents` is missing when the file cannot be read. -/
def ofFile (path : String) (contents : Option String) : Except FlowFault Flow := do
  match contents with
  | none => .error (.inaccessible "read error: No such file or directory (os error 2)")
  | some text => ofText (← FlowFormat.ofPath path) text

/-- A flow as the text of a file. -/
def toText (format : FlowFormat) (f : Flow) : String :=
  match format with
  | .json => f.toValue.pretty
  | .yaml => Yaml.write f.toValue

/-- A flow as the contents of the file that a path names. -/
def toFile (path : String) (f : Flow) : Except FlowFault String := do
  return f.toText (← FlowFormat.ofPath path)

end Flow

/-- Why a flow file is not valid. -/
inductive FileRefusal where
  | missing (path : String)
  | fault (f : FlowFault)
  | invalid (key path : String) (defects : List Defect)
  deriving DecidableEq, Repr

/-- The wording of a refusal. -/
def FileRefusal.message : FileRefusal → String
  | .missing path => "File does not exist: " ++ path
  | .fault f => f.message
  | .invalid key path defects =>
    "Flow `" ++ key ++ "` in " ++ path ++ " is invalid:\n"
      ++ String.intercalate "\n" (defects.map fun d => "  - " ++ d.message)

namespace Flow

/-- Checks the flow in a file, which has to be without defects. -/
def validateFile (path : String) (contents : Option String) : Except FileRefusal Report := do
  match contents with
  | none => .error (.missing path)
  | some _ =>
    let flow ← (ofFile path contents).mapError .fault
    let report := flow.check
    if report.isValid then .ok report
    else .error (.invalid flow.key path report.defects)

end Flow

end Dialogue
