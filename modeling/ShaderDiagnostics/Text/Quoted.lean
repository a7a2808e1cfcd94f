import ShaderDiagnostics.Numeral
import ShaderDiagnostics.Text.Hidden
/-!
# Quoted text

Names, paths and messages are shown to a developer between double quotes, on one line and in
characters that can be seen: quotes and backslashes are escaped, common control characters have a
letter, and other hidden characters are spelled as numbers.
-/

namespace ShaderDiagnostics.Text

/-! ## Characters -/

/-- The spelling of a character by its number. -/
def codePoint (c : Char) : List Char :=
  ['\\', 'u', '\x7b'] ++ Numeral.hexDigits c.toNat ++ ['\x7d']

/-- The spelling of a character in quoted text. -/
def escape (c : Char) : List Char :=
  if c = '\x00' then ['\\', '0']
  else if c = '\t' then ['\\', 't']
  else if c = '\r' then ['\\', 'r']
  else if c = '\n' then ['\\', 'n']
  else if c = '\\' ∨ c = '\x22' then ['\\', c]
  else if isHidden c then codePoint c
  else [c]

/-! ## Texts -/

/-- A text between quotes. -/
def quote (text : String) : String :=
  String.ofList (['\x22'] ++ text.toList.flatMap escape ++ ['\x22'])

/-- A list of texts, each between quotes. -/
def quoteAll (texts : List String) : String :=
  "[" ++ String.intercalate ", " (texts.map quote) ++ "]"

end ShaderDiagnostics.Text
