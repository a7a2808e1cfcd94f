import ShaderDiagnostics.Text.Blank
import ShaderDiagnostics.Text.Quoted
import ShaderDiagnostics.Text.Utf8
import ShaderDiagnostics.Volume.Path
/-!
# Destinations

Where diagnostics go: to one of the standard streams, nowhere, or to a file. The destination is
named by one setting of the environment. Blanks around its value do not matter, and an empty value
counts as none; reserved words name the streams and nowhere, and any other value is the path of a
file.
-/

namespace ShaderDiagnostics

/-- Where diagnostics go. -/
inductive Destination where
  | stderr
  | stdout
  /-- Nowhere; errors are still counted. -/
  | silent
  | file (path : FilePath)
  deriving BEq

namespace Destination

/-- Where diagnostics go if nothing else is asked for. -/
instance : Inhabited Destination := ⟨stderr⟩

/-- Whether diagnostics go nowhere. -/
def isSilent : Destination → Bool
  | silent => true
  | _ => false

/-! ## Names -/

/-- The destination that a word names, taken as it stands. -/
def ofName (name : String) : Destination :=
  if name = "stderr" then stderr
  else if name = "stdout" then stdout
  else if name = "silent" ∨ name = "none" then silent
  else file ⟨name⟩

/-- The text of a destination for a developer. -/
def inspect : Destination → String
  | stderr => "Stderr"
  | stdout => "Stdout"
  | silent => "Silent"
  | file path => "File(" ++ Text.quote path.text ++ ")"

/-! ## The setting -/

/-- The variable of the environment that holds the setting. -/
def settingName : String := "HOC_DIAGNOSTICS"

/-- The destination that a setting asks for. -/
def ofSetting : Option String → Destination
  | none => default
  | some value =>
    let name := Text.trim value
    if name = "" then default else ofName name

/-- The destination that the bytes of a variable ask for; bytes that are no text count as no
setting. -/
def ofVariable (bytes : Option Bytes) : Destination :=
  ofSetting (bytes.bind Utf8.decode?)

/-- Where there is no setting, the default destination is taken. -/
theorem ofSetting_none : ofSetting none = default :=
  rfl

end Destination

end ShaderDiagnostics
