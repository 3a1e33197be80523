import SchemaProjection.Json.Token

namespace SchemaProjection.Json

/-- A container that is still open, with what it holds so far in reverse order. An object also has
the name whose value comes next. -/
inductive Frame where
  | array (items : List Json)
  | object (members : List (String × Json)) (name : String)

/-- What the reader expects next, inside the given open containers. -/
inductive Expecting where
  | value (frames : List Frame)
  | itemOrEnd (frames : List Frame)
  | nameOrEnd (frames : List Frame)
  | name (members : List (String × Json)) (frames : List Frame)
  | colon (members : List (String × Json)) (name : String) (frames : List Frame)
  | separator (value : Json) (frames : List Frame)

namespace Expecting

def deepest : Nat := 127

def beginValue (frames : List Frame) : Token → Except Fault Expecting
  | .scalar v => .ok (.separator v frames)
  | .text s => .ok (.separator (.string s) frames)
  | .openArray => if frames.length < deepest then .ok (.itemOrEnd frames) else .error .malformed
  | .openObject => if frames.length < deepest then .ok (.nameOrEnd frames) else .error .malformed
  | .broken f => .error f
  | .brokenText f => .error f
  | _ => .error .malformed

def beginMember (members : List (String × Json)) (frames : List Frame) :
    Token → Except Fault Expecting
  | .text s => .ok (.colon members s frames)
  | .brokenText f => .error f
  | _ => .error .malformed

def next : Expecting → Token → Except Fault Expecting
  | .value fs, t => beginValue fs t
  | .itemOrEnd fs, .closeArray => .ok (.separator (.array []) fs)
  | .itemOrEnd fs, t => beginValue (.array [] :: fs) t
  | .nameOrEnd fs, .closeObject => .ok (.separator (.object []) fs)
  | .nameOrEnd fs, t => beginMember [] fs t
  | .name ms fs, t => beginMember ms fs t
  | .colon ms n fs, .colon => .ok (.value (.object ms n :: fs))
  | .separator v (.array vs :: fs), .comma => .ok (.value (.array (v :: vs) :: fs))
  | .separator v (.array vs :: fs), .closeArray =>
    .ok (.separator (.array (v :: vs).reverse) fs)
  | .separator v (.object ms n :: fs), .comma => .ok (.name ((n, v) :: ms) fs)
  | .separator v (.object ms n :: fs), .closeObject =>
    .ok (.separator (.object ((n, v) :: ms).reverse) fs)
  | _, _ => .error .malformed

def finish : Expecting → List Token → Except Fault (Json × List Token)
  | .separator v [], ts => .ok (v, ts)
  | _, [] => .error .unfinished
  | e, t :: ts => do (← e.next t).finish ts

end Expecting

def readValue (text : String) : Except Fault (Json × List Token) :=
  (Expecting.value []).finish (Token.read text.toList)

def checkEnd : List Token → Except Fault Unit
  | [] => .ok ()
  | _ => .error .malformed

def read (text : String) : Except Fault Json := do
  let (v, rest) ← readValue text
  checkEnd rest
  return v

end SchemaProjection.Json
