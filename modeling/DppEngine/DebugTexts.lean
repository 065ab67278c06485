/-! The text that Rust's debug format gives of a string. -/
namespace DebugTexts

/-- Past Latin-1 every character is taken to be printable. -/
def isPrintable (c : Char) : Bool :=
  let n := c.toNat
  !(n < 32 || 127 ≤ n && n < 160 || n = 173)

/-- `char::escape_debug`, as the text of a string is escaped. -/
def escapeDebug (c : Char) : List Char :=
  if c = '"' ∨ c = '\\' then ['\\', c]
  else if c.toNat = 0 then ['\\', '0']
  else if c = '\t' then ['\\', 't']
  else if c = '\r' then ['\\', 'r']
  else if c = '\n' then ['\\', 'n']
  else if isPrintable c then [c]
  else ['\\', 'u', '\x7b'] ++ Nat.toDigits 16 c.toNat ++ ['\x7d']

def quoted (s : String) : String :=
  "\"" ++ String.ofList (s.toList.flatMap escapeDebug) ++ "\""

example : quoted "SN\t\"7\"" = "\"SN\\t\\\"7\\\"\"" := by decide
example : quoted "\x1b" = "\"\\u\x7b1b\x7d\"" := by decide

end DebugTexts
