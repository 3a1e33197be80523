import SchemaProjection.Text.CaseStyle

namespace SchemaProjection.Identifier

def rawKeywords : List String :=
  ["abstract", "as", "async", "await", "become", "box", "break", "const", "continue", "do",
   "dyn", "else", "enum", "extern", "false", "final", "fn", "for", "gen", "if", "impl", "in",
   "let", "loop", "macro", "match", "mod", "move", "mut", "override", "priv", "pub", "ref",
   "return", "static", "struct", "trait", "true", "try", "type", "typeof", "unsafe", "unsized",
   "use", "virtual", "where", "while", "yield"]

def reservedKeywords : List String :=
  ["crate", "self", "super", "Self"]

def isKeyword (name : String) : Bool :=
  rawKeywords.contains name || reservedKeywords.contains name

def isWordChar (c : Char) : Bool :=
  c.isAlphanum || c == '_'

def isIdentifierChars : List Char → Bool
  | [] => false
  | c :: cs => (c.isAlpha || (c == '_' && !cs.isEmpty)) && cs.all isWordChar

/-- Plain ASCII identifiers: letters, digits and underscores, with no digit first and more than
one underscore alone. -/
def isIdentifier (name : String) : Bool :=
  isIdentifierChars name.toList

def sanitizeChars (cs : List Char) : List Char :=
  let word := cs.map fun c => if c.isAlphanum then c else '_'
  if word.head?.any Char.isDigit then '_' :: word else word

/-- Replaces each character that cannot stand in an identifier by an underscore, and keeps a
digit from coming first. -/
def sanitize (raw : String) : String :=
  .ofList (sanitizeChars raw.toList)

def ofName (name : String) : String :=
  let snake := Text.snakeCase name
  if reservedKeywords.contains snake then snake ++ "_"
  else if rawKeywords.contains snake then "r#" ++ snake
  else snake

end SchemaProjection.Identifier
