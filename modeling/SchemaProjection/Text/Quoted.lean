import SchemaProjection.Text.Printable
import SchemaProjection.Text.Extending

namespace SchemaProjection.Text

def codeEscape (c : Char) : List Char :=
  ['\\', 'u', '{'] ++ Nat.toDigits 16 c.toNat ++ ['}']

/-- One character of an escaped text. A backslash and the given quotes take a backslash;
characters that are not printable, and extending ones where asked, are given by code point. -/
def escapeChar (quotes : List Char) (extending : Bool) (c : Char) : List Char :=
  if c == '\x00' then ['\\', '0']
  else if c == '\t' then ['\\', 't']
  else if c == '\r' then ['\\', 'r']
  else if c == '\n' then ['\\', 'n']
  else if c == '\\' || quotes.contains c then ['\\', c]
  else if (extending && isExtending c) || !isPrintable c then codeEscape c
  else [c]

def literalChars (cs : List Char) : List Char :=
  '"' :: cs.flatMap (escapeChar ['"'] true) ++ ['"']

def literal (s : String) : String :=
  .ofList (literalChars s.toList)

def docChars : List Char → List Char
  | [] => []
  | c :: cs => escapeChar ['"', '\''] true c ++ cs.flatMap (escapeChar ['"', '\''] false)

/-- A text inside a documentation comment. An extending character is escaped only where it
stands first. -/
def docText (s : String) : String :=
  .ofList (docChars s.toList)

end SchemaProjection.Text
