import LineTagger.OutputFormat
import LineTagger.Text.Slice
import LineTagger.Token

/-!
Annotated text: labelled tokens written in one of the three styles.
-/

namespace LineTagger.Markup

/-- A character of text between tags. -/
def escapeChar : Char → List Char
  | '&' => "&amp;".toList
  | '<' => "&lt;".toList
  | '>' => "&gt;".toList
  | c => [c]

/-- Text between tags. -/
def escape (s : List Char) : List Char := s.flatMap escapeChar

/-- A character of an attribute: white space other than the space is written as a reference too, so
that a reader does not turn it into spaces. -/
def attributeChar : Char → List Char
  | '\n' => "&#10;".toList
  | '\r' => "&#13;".toList
  | '\t' => "&#9;".toList
  | c => escapeChar c

/-- An attribute value in quotes: double ones, unless only double ones occur in it. -/
def quotedAttribute (s : List Char) : List Char :=
  let body := s.flatMap attributeChar
  if s.contains '"' then
    if s.contains '\'' then
      '"' :: (body.flatMap fun c => if c = '"' then "&quot;".toList else [c]) ++ ['"']
    else '\'' :: body ++ ['\'']
  else '"' :: body ++ ['"']

/-- What stands between a token and the next one: the text between them, or one space. -/
def separator (text : Array Char) (preserve : Bool) (t u : Token) : List Char :=
  if preserve then slice text t.stop u.start else [' ']

/-- Each token with what stands in front of it; nothing stands in front of the first. -/
def separated (text : List Char) (preserve : Bool) (tokens : List Token) :
    List (List Char × Token) :=
  ([] :: List.zipWith (separator text.toArray preserve) tokens tokens.tail).zip tokens

/-- A token, a slash and its label. -/
def slashTags (pieces : List (List Char × Token)) : List Char :=
  pieces.flatMap fun (sep, t) => sep ++ t.text ++ '/' :: t.label

/-- A numbered element that carries a token and its label. -/
def element (i : Nat) (t : Token) : List Char :=
  "<wi num=\"".toList ++ (toString i).toList ++ "\" entity=".toList ++ quotedAttribute t.label ++
    '>' :: escape t.text ++ "</wi>".toList

/-- Every token in an element of its own, numbered from zero. -/
def xml (pieces : List (List Char × Token)) : List Char :=
  pieces.zipIdx.flatMap fun ((sep, t), i) => sep ++ element i t

def openTag (label : List Char) : List Char := '<' :: label ++ ['>']
def closeTag (label : List Char) : List Char := '<' :: '/' :: label ++ ['>']

/-- The end tag of an element that is open. -/
def closing : Option (List Char) → List Char
  | none => []
  | some label => closeTag label

/-- The label of a token that is no background. -/
def entity? (background : List Char) (t : Token) : Option (List Char) :=
  if t.label = background then none else some t.label

/-- Runs of tokens with one label in one element; `current` is the label of the element that is
open. The end tag of a run precedes the space after it, the start tag follows the space before. -/
def inlineXml (background : List Char) (current : Option (List Char)) :
    List (List Char × Token) → List Char
  | [] => closing current
  | (sep, t) :: rest =>
    let label := entity? background t
    let body := escape t.text ++ inlineXml background label rest
    if label = current then sep ++ body
    else closing current ++ sep ++
      (match label with
        | none => body
        | some l => openTag l ++ body)

/-- Labelled tokens of a text in a style; `background` is the label that stands for no entity. -/
def render (text : List Char) (tokens : List Token) (format : OutputFormat) (preserve : Bool)
    (background : List Char) : List Char :=
  let pieces := separated text preserve tokens
  match format with
  | .slashTags => slashTags pieces
  | .xml => xml pieces
  | .inlineXml => inlineXml background none pieces

end LineTagger.Markup
