import SchemaProjection.Text.Hexadecimal
import SchemaProjection.Toml.DateTime
import SchemaProjection.Toml.Value

namespace SchemaProjection.Toml.Scalar

def isHexDigit (c : Char) : Bool :=
  (Text.hexDigit? c).isSome

def isGrouped (isDigit : Char → Bool) (cs : List Char) : Bool :=
  go false cs
where
  go (afterDigit : Bool) : List Char → Bool
    | [] => true
    | '_' :: cs => afterDigit && cs.head?.any isDigit && go false cs
    | c :: cs => go (isDigit c) cs

def isRadixed (isDigit : Char → Bool) (cs : List Char) : Bool :=
  cs.all (fun c => isDigit c || c == '_') && isGrouped isDigit cs

def inRun (c : Char) : Bool :=
  c.isDigit || c == '_'

def withoutSign : List Char → List Char
  | '+' :: cs => cs
  | '-' :: cs => cs
  | cs => cs

def isExponent : List Char → Bool
  | [] => true
  | c :: cs =>
    (c == 'e' || c == 'E') && (withoutSign cs).all inRun && (withoutSign cs).any Char.isDigit

def isFraction : List Char → Bool
  | '.' :: cs => (cs.takeWhile inRun).any Char.isDigit && isExponent (cs.dropWhile inRun)
  | cs => isExponent cs

def isDecimal (cs : List Char) : Bool :=
  let whole := cs.takeWhile inRun
  whole.any Char.isDigit && (whole.length == 1 || cs.head? != some '0') &&
    isFraction (cs.dropWhile inRun)

/-- A whole number may go on with any characters after its first underscore, but for spaces and
those that give it a fraction or an exponent. -/
def isOpenEnded (cs : List Char) : Bool :=
  cs.head? != some '0' && (cs.dropWhile Char.isDigit).head? == some '_' &&
    cs.all fun c => c != ' ' && c != '.' && c != 'e' && c != 'E'

def isUnsigned (cs : List Char) : Bool :=
  cs == "inf".toList || cs == "nan".toList || (isDecimal cs && isGrouped Char.isDigit cs) ||
    (isOpenEnded cs && isGrouped isHexDigit cs)

def isNumber : List Char → Bool
  | '0' :: 'x' :: cs => isRadixed isHexDigit cs
  | '0' :: 'o' :: cs => isRadixed (fun c => '0' ≤ c && c ≤ '7') cs
  | '0' :: 'b' :: cs => isRadixed (fun c => c == '0' || c == '1') cs
  | cs => isUnsigned (withoutSign cs)

def read? (cs : List Char) : Option Toml :=
  if cs == "true".toList then some (.bool true)
  else if cs == "false".toList then some (.bool false)
  else if isNumber cs then some (.number (.ofList cs))
  else (DateTime.read? cs).map .dateTime

end SchemaProjection.Toml.Scalar
