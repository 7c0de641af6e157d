/-!
# Double-quoted text

One way of quoting serves string literals in emitted source, the values of struct tags and log
lines: quotes, backslashes and control characters are escaped and all else stands as it is.
-/
namespace StructGen.Text

/-- The digit of a number below sixteen, in lower case. -/
def hexDigit (n : Nat) : Char :=
  if n < 10 then Char.ofNat (48 + n) else Char.ofNat (87 + n)

/-- A character inside double quotes. -/
def escapeChar (c : Char) : List Char :=
  if c = '"' then ['\\', '"']
  else if c = '\\' then ['\\', '\\']
  else if c = '\n' then ['\\', 'n']
  else if c = '\r' then ['\\', 'r']
  else if c = '\t' then ['\\', 't']
  else if c = '\x08' then ['\\', 'b']
  else if c = '\x0c' then ['\\', 'f']
  else if c.toNat < 0x20 then
    ['\\', 'u', '0', '0', hexDigit (c.toNat / 16), hexDigit (c.toNat % 16)]
  else [c]

/-- A text with its characters escaped. -/
def escape (s : List Char) : List Char :=
  s.flatMap escapeChar

/-- A text in double quotes. -/
def quote (s : String) : String :=
  String.ofList ('"' :: escape s.toList ++ ['"'])

end StructGen.Text
