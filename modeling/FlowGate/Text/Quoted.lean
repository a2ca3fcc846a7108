/-
# Quoted text

A text between quotes, in which nothing can be mistaken for its end or go unseen: a quote and a
backslash are preceded by a backslash, the common controls have a letter of their own, and every
other character without a visible form is written by its code point in hexadecimal.
-/

import FlowGate.Text.Formless

namespace FlowGate.Text

/-- A character by its code point, in lower case and without leading zeros. -/
def codePoint (c : Char) : List Char :=
  ['\\', 'u', '{'] ++ Nat.toDigits 16 c.toNat ++ ['}']

/-- A character as it stands between quotes. -/
def quotedChar (c : Char) : List Char :=
  if c = '"' then ['\\', '"']
  else if c = '\\' then ['\\', '\\']
  else if c = '\n' then ['\\', 'n']
  else if c = '\r' then ['\\', 'r']
  else if c = '\t' then ['\\', 't']
  else if c = '\x00' then ['\\', '0']
  else if isFormless c then codePoint c
  else [c]

/-- A text between quotes. -/
def quoted (text : List Char) : String :=
  String.ofList ('"' :: text.flatMap quotedChar ++ ['"'])

end FlowGate.Text
