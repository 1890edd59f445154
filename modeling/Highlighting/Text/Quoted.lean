import Highlighting.Text.Property

namespace Highlighting.Quoted

def hexDigits (n : Nat) : List Char :=
  Nat.toDigits 16 n

def encodeChar (c : Char) : List Char :=
  if c = '"' then ['\\', '"']
  else if c = '\\' then ['\\', '\\']
  else if c = '\n' then ['\\', 'n']
  else if c = '\r' then ['\\', 'r']
  else if c = '\t' then ['\\', 't']
  else if c = '\x00' then ['\\', '0']
  else if Property.isVisible c then [c]
  else ['\\', 'u', '\x7b'] ++ hexDigits c.toNat ++ ['\x7d']

def encode (s : List Char) : List Char :=
  '"' :: s.flatMap encodeChar ++ ['"']

end Highlighting.Quoted

namespace Highlighting

def quote (s : String) : String :=
  String.ofList (Quoted.encode s.toList)

end Highlighting
