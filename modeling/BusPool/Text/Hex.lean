/-!
# Hexadecimal text

Numbers are shown in one of two ways: as short as possible in lower case, or as sixteen upper
case digits. **`plain`** and **`padded`** are the two spellings, both behind the mark `0x`.
-/

namespace BusPool.Text.Hex

/-- The digits of a number in base sixteen, most significant first, without leading zeros. -/
def digits (n : Nat) : List Char := Nat.toDigits 16 n

/-- Lower case and no padding: `0x1f`. -/
def plain (n : Nat) : String := "0x" ++ String.ofList (digits n)

/-- Sixteen upper case digits: `0x000000000000001F`. -/
def padded (n : Nat) : String :=
  "0x" ++ String.ofList (((digits n).map Char.toUpper).leftpad 16 '0')

example : plain 31 = "0x1f" := by decide

example : padded 31 = "0x000000000000001F" := by decide

end BusPool.Text.Hex
