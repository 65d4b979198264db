import QueryDesk.Text.Printable

/-!
# Quoted text

How a text is shown inside a message: between double quotes, with a backslash before a quote or a
backslash, short escapes for tab, line ends and NUL, and the code point in hexadecimal for every
other character that does not print.
-/

set_option autoImplicit false

namespace QueryDesk.Text

def quotedChar (c : Char) : Text :=
  if c = '"' then "\\\"".toList
  else if c = '\\' then "\\\\".toList
  else if c = '\t' then "\\t".toList
  else if c = '\r' then "\\r".toList
  else if c = '\n' then "\\n".toList
  else if c = '\x00' then "\\0".toList
  else if isPrintable c then [c]
  else "\\u\x7b".toList ++ Nat.toDigits 16 c.toNat ++ "\x7d".toList

def quoted (t : Text) : Text := '"' :: t.flatMap quotedChar ++ ['"']

example : quoted "a\"b\\ 'c'\t\u00a0é".toList = "\"a\\\"b\\\\ 'c'\\t\\u\x7ba0\x7dé\"".toList := by
  decide +kernel

end QueryDesk.Text
