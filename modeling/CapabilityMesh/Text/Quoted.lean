/-
Text between double quotes, the way names are shown in messages and in log
lines.
-/
import CapabilityMesh.Text.Visible

namespace CapabilityMesh

namespace Text

def quoteChar (c : Char) : String :=
  match c with
  | '"' => "\\\""
  | '\\' => "\\\\"
  | '\n' => "\\n"
  | '\r' => "\\r"
  | '\t' => "\\t"
  | '\x00' => "\\0"
  | c =>
      if isVisible c then c.toString
      else "\\u\x7b" ++ hex c.toNat ++ "\x7d"

/-- Text between double quotes.  Quotes, backslashes and hidden characters are
escaped. -/
def quoted (s : String) : String :=
  "\"" ++ String.join (s.toList.map quoteChar) ++ "\""

end Text

end CapabilityMesh
