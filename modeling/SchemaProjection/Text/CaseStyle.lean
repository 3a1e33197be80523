import SchemaProjection.Text.Uppercase

namespace SchemaProjection.Text

/-- `last` is the character written before; nothing is written before the first. -/
def snakeFrom (last : Option Char) : List Char → List Char
  | [] => []
  | c :: cs =>
    if isUppercase c && last.any (· != '_') then
      '_' :: c.toLower :: snakeFrom (some c.toLower) cs
    else
      c.toLower :: snakeFrom (some c.toLower) cs

/-- Puts an underscore before each upper-case character that is neither first nor preceded by
one, and lowers ASCII letters. -/
def snakeCase (s : String) : String :=
  .ofList (snakeFrom none s.toList)

def upperSnakeCase (s : String) : String :=
  .ofList ((snakeFrom none s.toList).map Char.toUpper)

def pascalFrom (atStart : Bool) : List Char → List Char
  | [] => []
  | c :: cs =>
    if c.isAlphanum then
      (if atStart then c.toUpper else c) :: pascalFrom false cs
    else
      pascalFrom true cs

/-- Joins the words of a text, each with its first letter raised. All characters but ASCII
letters and digits separate words and are dropped. -/
def pascalCase (s : String) : String :=
  .ofList (pascalFrom true s.toList)

end SchemaProjection.Text
