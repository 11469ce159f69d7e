import BusPool.Text.Hex
import BusPool.Text.Visible

/-!
# Quoted text

Text inside a structured value stands between quotation marks. The mark itself, the backslash and
four frequent control characters have short forms; any other character that cannot be shown is
written as its number.
-/

namespace BusPool.Text.Quoted

/-- A character by its number. -/
def byNumber (c : Char) : String := "\\u\x7b" ++ String.ofList (Hex.digits c.toNat) ++ "\x7d"

/-- One character between quotation marks. -/
def encodeChar : Char → String
  | '"' => "\\\""
  | '\\' => "\\\\"
  | '\n' => "\\n"
  | '\r' => "\\r"
  | '\t' => "\\t"
  | '\x00' => "\\0"
  | c => if Visible.isVisible c then c.toString else byNumber c

/-- The text between quotation marks. -/
def encode (s : String) : String := "\"" ++ String.join (s.toList.map encodeChar) ++ "\""

example : encode "a \"b\"\\\t\x1b" = "\"a \\\"b\\\"\\\\\\t\\u\x7b1b\x7d\"" := by decide +kernel

end BusPool.Text.Quoted
