import SchemaProjection.Configuration.Reading
import SchemaProjection.FileTree
import SchemaProjection.Generation

namespace SchemaProjection

def readText : Option ByteArray → Except FileError String
  | none => .error .notFound
  | some bytes =>
    match String.fromUTF8? bytes with
    | some text => .ok text
    | none => .error .invalidEncoding

def Configuration.load (file : Option ByteArray) : Except GenerationError Configuration :=
  match readText file with
  | .error e => .error (.file e)
  | .ok text => Configuration.ofToml text

def generateFromFile (file : Option ByteArray) (c : Configuration) : Run (List GeneratedFile) :=
  match readText file with
  | .error e => .fail (.parse (.file e))
  | .ok text => generateFromJson text c

namespace GeneratedFile

/-- Writes the file below the output directory. The result is the path written to. -/
def writeTo (f : GeneratedFile) (outDir : String) (t : FileTree) : FileTree × Run String :=
  let target := FilePath.push outDir f.path
  match t.write target f.contents with
  | (t, .error e) => (t, .fail (.file e))
  | (t, .ok ()) => (t, do
      .log (.written target f.contents.utf8ByteSize)
      return target)

/-- Writes files in order, up to the first that cannot be written. -/
def writeAll (outDir : String) (t : FileTree) : List GeneratedFile → FileTree × Run (List String)
  | [] => (t, return [])
  | f :: fs =>
    match f.writeTo outDir t with
    | (t, ⟨events, .error e⟩) => (t, ⟨events, .error e⟩)
    | (t, ⟨events, .ok path⟩) =>
      let (t, rest) := writeAll outDir t fs
      (t, ⟨events ++ rest.events, rest.outcome.map (path :: ·)⟩)

end GeneratedFile

end SchemaProjection
