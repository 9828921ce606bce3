import ShapeCatalog.Unicode.Concealed

/-!
A string made visible for a message: between double quotes, with an escape for every character that
could be overlooked or misread.
-/

namespace ShapeCatalog.Text

/-- Write one character so that a reader can tell what it is. -/
def visibleChar (c : Char) : List Char :=
  if c = '\x00' then ['\\', '0']
  else if c = '\x09' then ['\\', 't']
  else if c = '\x0d' then ['\\', 'r']
  else if c = '\x0a' then ['\\', 'n']
  else if c = '\\' then ['\\', '\\']
  else if c = '"' then ['\\', '"']
  else if Unicode.isConcealed c then
    '\\' :: 'u' :: '\x7b' :: Nat.toDigits 16 c.toNat ++ ['\x7d']
  else [c]

/-- Write a string between quotes so that a reader can tell every character of it. -/
def visible (s : String) : String :=
  String.ofList ('"' :: s.toList.flatMap visibleChar ++ ['"'])

end ShapeCatalog.Text
