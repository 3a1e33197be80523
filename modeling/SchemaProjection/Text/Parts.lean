namespace SchemaProjection.Text

/-- Cuts a text at the separators. Empty parts are dropped; `part` is the one being read, in
reverse order. -/
def partsFrom (isSeparator : Char → Bool) (part : List Char) : List Char → List (List Char)
  | [] => if part.isEmpty then [] else [part.reverse]
  | c :: cs =>
    if isSeparator c then
      if part.isEmpty then partsFrom isSeparator [] cs
      else part.reverse :: partsFrom isSeparator [] cs
    else partsFrom isSeparator (c :: part) cs

def parts (isSeparator : Char → Bool) (s : String) : List String :=
  (partsFrom isSeparator [] s.toList).map String.ofList

end SchemaProjection.Text
