import Mathlib.Data.List.Lex

namespace SchemaProjection.Text

def bytes (s : String) : List UInt8 :=
  s.toUTF8.data.toList

end SchemaProjection.Text
