namespace SchemaProjection

/-- A table has one entry for each of its keys. A number is kept as it is written, a date or a time
in a form that does not depend on its spelling. -/
inductive Toml where
  | string (s : String)
  | bool (b : Bool)
  | number (text : String)
  | dateTime (text : String)
  | array (items : List Toml)
  | table (entries : List (String × Toml))
  deriving Inhabited

end SchemaProjection
