import ChainHost.Unicode.Letter

namespace ChainHost.Text

-- The hexadecimal text of a number, in lower case.
def hexText (n : Nat) : String :=
  String.ofList (Nat.toDigits 16 n)

-- The text of one character inside quotes.
def quoteChar (c : Char) : String :=
  if c = '\x00' then "\\0"
  else if c = '\t' then "\\t"
  else if c = '\n' then "\\n"
  else if c = '\r' then "\\r"
  else if c = '"' then "\\\""
  else if c = '\\' then "\\\\"
  else if 0x20 ≤ c.toNat ∧ c.toNat < 0x7F then c.toString
  else if Unicode.printable.contains c then c.toString
  else "\\u\x7b" ++ hexText c.toNat ++ "\x7d"

def quoted (text : String) : String :=
  "\"" ++ String.join (text.toList.map quoteChar) ++ "\""

end ChainHost.Text
