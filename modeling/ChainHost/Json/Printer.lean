import ChainHost.Json.Value

namespace ChainHost.Json

-- A digit of base sixteen, in lower case.
def hexDigit (n : Nat) : Char :=
  if n < 10 then Char.ofNat ('0'.toNat + n) else Char.ofNat ('a'.toNat + (n - 10))

-- The text of one character inside quotes.
def escape (c : Char) : List Char :=
  match c with
  | '"' => ['\\', '"']
  | '\\' => ['\\', '\\']
  | '\x08' => ['\\', 'b']
  | '\x0c' => ['\\', 'f']
  | '\n' => ['\\', 'n']
  | '\r' => ['\\', 'r']
  | '\t' => ['\\', 't']
  | c =>
    if c.toNat < 0x20 then
      ['\\', 'u', '0', '0', hexDigit (c.toNat / 16), hexDigit (c.toNat % 16)]
    else [c]

def writeString (s : String) : List Char :=
  '"' :: (s.toList.flatMap escape ++ ['"'])

namespace Value

mutual

-- The compact text of a value.
def write : Value → List Char
  | null => ['n', 'u', 'l', 'l']
  | bool true => ['t', 'r', 'u', 'e']
  | bool false => ['f', 'a', 'l', 's', 'e']
  | number n => n.write
  | string s => writeString s
  | array [] => ['[', ']']
  | array (item :: items) => '[' :: (item.write ++ writeItems items)
  | object [] => ['{', '}']
  | object ((key, value) :: members) =>
    '{' :: (writeString key ++ ':' :: (value.write ++ writeMembers members))

-- The text after an item of an array.
def writeItems : List Value → List Char
  | [] => [']']
  | item :: items => ',' :: (item.write ++ writeItems items)

-- The text after a member of an object.
def writeMembers : List (String × Value) → List Char
  | [] => ['}']
  | (key, value) :: members =>
    ',' :: (writeString key ++ ':' :: (value.write ++ writeMembers members))

end

def text (v : Value) : String :=
  String.ofList v.write

end Value
end ChainHost.Json
