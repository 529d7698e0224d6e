import LineTagger.Number.Quantity
import LineTagger.OutputFormat
import LineTagger.Text.Quoted

/-!
Values whose type is not fixed beforehand: what a settings object, a model file or the details of a
failure may hold.
-/

namespace LineTagger

/-- A value of any type. A map keeps the order in which its keys came. -/
inductive Value where
  | null
  | bool (b : Bool)
  | int (n : Int)
  | double (x : Double)
  | text (s : String)
  | bytes (bs : List UInt8)
  | list (vs : List Value)
  | map (kvs : List (String × Value))
  | format (f : OutputFormat)
  deriving Repr, Inhabited, BEq

namespace Value

/-- The name of a value's type, as messages show it. -/
def typeName : Value → String
  | null => "NoneType"
  | bool _ => "bool"
  | int _ => "int"
  | double _ => "float"
  | text _ => "str"
  | bytes _ => "bytes"
  | list _ => "list"
  | map _ => "dict"
  | format _ => "OutputFormat"

/-- The name of a value's type, as messages about an argument show it: nothing is named by itself. -/
def argumentTypeName : Value → String
  | null => "None"
  | v => v.typeName

/-- The name of a style as messages show it in a quoted value. -/
def formatLabel : OutputFormat → String
  | .slashTags => "SLASH_TAGS"
  | .xml => "XML"
  | .inlineXml => "INLINE_XML"

/-- Items with a comma and a space between them. -/
def commaJoined (items : List String) : String := ", ".intercalate items

mutual

/-- A value as messages show it, with texts in quotes. -/
def quote : Value → String
  | null => "None"
  | bool b => if b then "True" else "False"
  | int n => toString n
  | double x => x.text
  | text s => quoted s
  | bytes bs => quotedBytes bs
  | list vs => "[" ++ commaJoined (quoteAll vs) ++ "]"
  | map kvs => "\x7b" ++ commaJoined (quotePairs kvs) ++ "\x7d"
  | format f => "<OutputFormat." ++ formatLabel f ++ ": " ++ quoted f.name ++ ">"

def quoteAll : List Value → List String
  | [] => []
  | v :: rest => v.quote :: quoteAll rest

def quotePairs : List (String × Value) → List String
  | [] => []
  | (k, v) :: rest => (quoted k ++ ": " ++ v.quote) :: quotePairs rest

end

/-- A value as plain text: a text stands for itself. -/
def display : Value → String
  | text s => s
  | format f => f.name
  | v => v.quote

def isNull : Value → Bool
  | null => true
  | _ => false

/-- Whether a value counts as true: numbers other than zero and all that is not empty. -/
def isTrue : Value → Bool
  | null => false
  | bool b => b
  | int n => n != 0
  | double (.finite _ m _) => m != 0
  | double _ => true
  | text s => !s.isEmpty
  | bytes bs => !bs.isEmpty
  | list vs => !vs.isEmpty
  | map kvs => !kvs.isEmpty
  | format _ => true

/-- The number that a value is; true and false count as one and zero. -/
def quantity? : Value → Option Quantity
  | bool b => some (.whole (if b then 1 else 0))
  | int n => some (.whole n)
  | double x => some (.double x)
  | _ => none

/-- The text that a value is; a style is its name. -/
def text? : Value → Option String
  | text s => some s
  | format f => some f.name
  | _ => none

/-- A map with one more entry: a key that is there already keeps its place and loses its value. -/
def put (kvs : List (String × Value)) (k : String) (v : Value) : List (String × Value) :=
  if kvs.any (·.1 = k) then kvs.map fun kv => if kv.1 = k then (k, v) else kv
  else kvs ++ [(k, v)]

end Value

end LineTagger
