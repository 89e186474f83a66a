import QueryGateway.Config.Basic
import QueryGateway.Config.Reader
import QueryGateway.Text.Utf8

/-! Loading a configuration from a file.

The file is read, then its text, then the configuration is checked; the first of these that
fails decides. -/
namespace QueryGateway.Config

/-! ### Files -/

/-- Why a file gives no text. -/
inductive FileFault where
  | missing
  | directory
  | belowFile
  | notUtf8
  deriving DecidableEq, Repr

/-- The text of a fault. -/
def FileFault.message : FileFault → String
  | .missing => "No such file or directory (os error 2)"
  | .directory => "Is a directory (os error 21)"
  | .belowFile => "Not a directory (os error 20)"
  | .notUtf8 => "stream did not contain valid UTF-8"

/-- What a file holds, or why it cannot be read. -/
abbrev FileContent := Except FileFault (List UInt8)

/-- The text of a file. -/
def textOf (file : FileContent) : Except FileFault String := do
  match Text.Utf8.decode? (← file) with
  | some text => .ok text
  | none => .error .notUtf8

/-! ### The path -/

/-- The variable of the environment that may hold the path. -/
def pathVariable : String := "SQLGATE_CONFIG"

/-- The path of a configuration: the one that is given, else the one in the environment, even
an empty one, else the file in the working directory. -/
def resolvePath (given : Option String) (env : Environment) : String :=
  (given.or (env pathVariable)).getD "sqlgate.yaml"

/-! ### Loading -/

/-- Reads a configuration, without checking it. -/
def read (text : String) : Option Config := Document.read text >>= Config.ofDocument?

/-- Why a configuration cannot be loaded. -/
inductive LoadFault where
  | unread (fault : FileFault)
  | malformed
  | invalid (complaint : Complaint)
  deriving DecidableEq, Repr

/-- The text of a complaint about a configuration as a whole. -/
def Complaint.report (c : Complaint) : String := "invalid configuration: " ++ c.message

/-- The text of a fault in the file at a path. -/
def LoadFault.message (path : String) : LoadFault → String
  | .unread fault => "failed to read " ++ path ++ ": " ++ fault.message
  | .malformed => "failed to parse " ++ path
  | .invalid complaint => complaint.report

/-- Loads and checks a configuration. -/
def load (env : Environment) (file : FileContent) : Except LoadFault Config := do
  let text ← (textOf file).mapError .unread
  match read text with
  | none => .error .malformed
  | some config =>
    (config.validate env).mapError .invalid
    .ok config

end QueryGateway.Config
