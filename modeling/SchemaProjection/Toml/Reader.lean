import SchemaProjection.Toml.Scalar
import SchemaProjection.Toml.Table
import SchemaProjection.Toml.Token

namespace SchemaProjection.Toml

inductive KeyPiece where
  | part (s : String)
  | dot

def isBareKeyChar (c : Char) : Bool :=
  c.isAlphanum || c == '_' || c == '-'

def wordPieces? (part : List Char) : List Char → Option (List KeyPiece)
  | [] => some (closed part)
  | c :: cs =>
    if c == '.' then (wordPieces? [] cs).map (closed part ++ .dot :: ·)
    else if isBareKeyChar c then wordPieces? (c :: part) cs
    else none
where
  closed (part : List Char) : List KeyPiece :=
    if part.isEmpty then [] else [.part (.ofList part.reverse)]

def Token.keyPieces? : Token → Option (List KeyPiece)
  | .word cs => wordPieces? [] cs
  | .text s false => some [.part s]
  | _ => none

/-- Arrays and inline tables may be nested no deeper, and a dotted key has no more parts. -/
def deepest : Nat := 80

namespace KeyPath

def ofTurns? : List KeyPiece → Option KeyPath
  | [.part s] => some ⟨[], s⟩
  | .part s :: .dot :: ps => (ofTurns? ps).map fun k => ⟨s :: k.parents, k.name⟩
  | _ => none

def ofPieces? (ps : List KeyPiece) : Option KeyPath :=
  (ofTurns? ps).filter (·.parents.length < deepest)

end KeyPath

/-- An array or an inline table that is still open: its items so far in reverse order, or its
entries and the key whose value comes next. -/
inductive Frame where
  | array (items : List Toml)
  | table (entries : Entries) (key : KeyPath)

structure Place where
  frames : List Frame
  key : KeyPath

def Place.inside (p : Place) (f : Frame) : Place :=
  { p with frames := f :: p.frames }

inductive Expecting where
  | line
  | lineEnd
  | header
  | headerKey (repeated : Bool) (pieces : List KeyPiece)
  | headerEnd (key : KeyPath)
  | key (pieces : List KeyPiece)
  | value (place : Place)
  /-- The rest of a value in words. `gap` holds the blanks after the last of them. -/
  | words (cs : List Char) (gap : List Char) (place : Place)
  | item (items : List Toml) (place : Place)
  | itemEnd (items : List Toml) (place : Place)
  | entry (entries : Entries) (place : Place)
  | entryKey (entries : Entries) (pieces : List KeyPiece) (place : Place)
  | entryEquals (entries : Entries) (key : KeyPath) (place : Place)
  | entryEnd (entries : Entries) (place : Place)

/-- The document as far as it is read. Keys at the start of a line belong to the table of the last
header. -/
structure Reader where
  document : Entries
  header : List String
  expecting : Expecting

namespace Reader

def expect (r : Reader) (e : Expecting) : Reader :=
  { r with expecting := e }

def openTable? (r : Reader) (repeated : Bool) (key : KeyPath) : Option Reader :=
  (Entries.addTable? repeated key r.document).map fun es =>
    ⟨es, key.parents ++ [key.name], .lineEnd⟩

def place? (r : Reader) (p : Place) (v : Toml) : Option Reader :=
  match p.frames with
  | [] => (Entries.within? (Entries.add? p.key v) r.header r.document).map fun es =>
    { r with document := es, expecting := .lineEnd }
  | .array items :: fs => some (r.expect (.itemEnd (v :: items) ⟨fs, p.key⟩))
  | .table es key :: fs => (Entries.add? key v es).map fun es =>
    r.expect (.entryEnd es ⟨fs, p.key⟩)

def closeArray? (r : Reader) (p : Place) (items : List Toml) : Option Reader :=
  r.place? p (.array items.reverse)

def closeTable? (r : Reader) (p : Place) (es : Entries) : Option Reader :=
  r.place? p (.table (entriesToToml es))

def endWords? (r : Reader) (p : Place) (cs : List Char) : Option Reader :=
  (Scalar.read? cs).bind (r.place? p)

def beginValue? (r : Reader) (p : Place) : Token → Option Reader
  | .word cs => some (r.expect (.words cs [] p))
  | .text s _ => r.place? p (.string s)
  | .openBracket => if p.frames.length < deepest then some (r.expect (.item [] p)) else none
  | .openBrace => if p.frames.length < deepest then some (r.expect (.entry [] p)) else none
  | _ => none

def addPieces? (r : Reader) (pieces : List KeyPiece) (t : Token)
    (e : List KeyPiece → Expecting) : Option Reader :=
  t.keyPieces?.map fun ps => r.expect (e (pieces ++ ps))

/-- Reads a token that is not a blank and does not go on with a value in words. Between the parts of
an array or an inline table the line may end, but not inside a key. -/
def read? (r : Reader) (t : Token) : Option Reader :=
  match r.expecting, t with
  | .line, .newline => some r
  | .line, .openBracket => some (r.expect .header)
  | .line, t => r.addPieces? [] t .key
  | .lineEnd, .newline => some (r.expect .line)
  | .lineEnd, _ => none
  | .header, .openBracket => some (r.expect (.headerKey true []))
  | .header, t => r.addPieces? [] t (.headerKey false)
  | .headerKey false ps, .closeBracket => (KeyPath.ofPieces? ps).bind (r.openTable? false)
  | .headerKey true ps, .closeBracket => (KeyPath.ofPieces? ps).map (r.expect <| .headerEnd ·)
  | .headerKey repeated ps, t => r.addPieces? ps t (.headerKey repeated)
  | .headerEnd key, .closeBracket => r.openTable? true key
  | .headerEnd _, _ => none
  | .key ps, .equals => (KeyPath.ofPieces? ps).map fun key => r.expect (.value ⟨[], key⟩)
  | .key ps, t => r.addPieces? ps t .key
  | .value p, .newline => if p.frames.isEmpty then none else some r
  | .value p, t => r.beginValue? p t
  | .words _ _ _, _ => none
  | .item _ _, .newline => some r
  | .item vs p, .closeBracket => r.closeArray? p vs
  | .item vs p, t => r.beginValue? (p.inside (.array vs)) t
  | .itemEnd _ _, .newline => some r
  | .itemEnd vs p, .comma => some (r.expect (.item vs p))
  | .itemEnd vs p, .closeBracket => r.closeArray? p vs
  | .itemEnd _ _, _ => none
  | .entry _ _, .newline => some r
  | .entry es p, .closeBrace => r.closeTable? p es
  | .entry es p, t => r.addPieces? [] t (.entryKey es · p)
  | .entryKey es ps p, .newline =>
    (KeyPath.ofPieces? ps).map fun key => r.expect (.entryEquals es key p)
  | .entryKey es ps p, .equals =>
    (KeyPath.ofPieces? ps).map fun key => r.expect (.value (p.inside (.table es key)))
  | .entryKey es ps p, t => r.addPieces? ps t (.entryKey es · p)
  | .entryEquals _ _ _, .newline => some r
  | .entryEquals es key p, .equals => some (r.expect (.value (p.inside (.table es key))))
  | .entryEquals _ _ _, _ => none
  | .entryEnd _ _, .newline => some r
  | .entryEnd es p, .comma => some (r.expect (.entry es p))
  | .entryEnd es p, .closeBrace => r.closeTable? p es
  | .entryEnd _ _, _ => none

/-- Blanks count only next to the first bracket of a header, between the last two, and between the
words of a value. -/
def next? (r : Reader) (t : Token) : Option Reader :=
  match r.expecting, t with
  | .words cs gap p, .blank c => some (r.expect (.words cs (gap ++ [c]) p))
  | .words cs gap p, .word ds => some (r.expect (.words (cs ++ gap ++ ds) [] p))
  | .words cs _ p, t => (r.endWords? p cs).bind (·.read? t)
  | .header, .blank _ => some (r.expect (.headerKey false []))
  | .headerEnd _, .blank _ => none
  | _, .blank _ => some r
  | _, t => r.read? t

def finish? (r : Reader) : Option (List (String × Toml)) := do
  let r ← r.next? .newline
  match r.expecting with
  | .line => some (entriesToToml r.document)
  | _ => none

end Reader

def withoutByteOrderMark : List Char → List Char
  | '\uFEFF' :: cs => cs
  | cs => cs

def read? (text : String) : Option (List (String × Toml)) := do
  let tokens ← Token.read? (withoutByteOrderMark text.toList)
  let reader ← tokens.foldlM Reader.next? ⟨[], [], .line⟩
  reader.finish?

end SchemaProjection.Toml
