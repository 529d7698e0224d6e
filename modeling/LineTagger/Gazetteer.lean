import LineTagger.Markup
import LineTagger.Reading
import LineTagger.Text.Case
import LineTagger.Text.Quoted

/-!
A tagger that knows phrases: the longest phrase that starts at a token wins, and of equal phrases the
one listed first.
-/

namespace LineTagger

/-- Labels with the phrases that carry them, in order. -/
abbrev Entities := List (List Char × List (List Char))

/-- A table of phrases, each as the texts of its tokens, with their labels. -/
structure Gazetteer where
  name : Value
  background : List Char
  caseSensitive : Bool
  table : List (List (List Char) × List Char)
  deriving Repr, Inhabited

namespace Gazetteer

/-- The form of token texts in which phrases are compared. -/
def key (caseSensitive : Bool) (ws : List (List Char)) : List (List Char) :=
  if caseSensitive then ws else ws.map lower

/-- The key of a phrase. -/
def phraseKey (caseSensitive : Bool) (phrase : List Char) : List (List Char) :=
  key caseSensitive ((Token.ofText phrase).map Token.text)

/-- A table with one more phrase; one that is there, or that has no token, adds nothing. -/
def add (table : List (List (List Char) × List Char)) (k : List (List Char)) (label : List Char) :
    List (List (List Char) × List Char) :=
  if k.isEmpty || table.any (·.1 = k) then table else table ++ [(k, label)]

/-- The table of all phrases of all labels. -/
def tableOf (caseSensitive : Bool) (entities : Entities) : List (List (List Char) × List Char) :=
  entities.foldl (fun table (label, phrases) =>
    phrases.foldl (fun table p => add table (phraseKey caseSensitive p) label) table) []

def ofEntities (entities : Entities) (background : List Char) (caseSensitive : Bool)
    (name : Value) : Gazetteer :=
  { name, background, caseSensitive, table := tableOf caseSensitive entities }

/-- The gazetteer of labels whose phrases are still to be read. -/
def ofValues (entities : List (String × Value)) (background : List Char) (caseSensitive : Bool)
    (name : Value) : Except Fault Gazetteer := do
  let es ← entities.mapM fun (label, v) => do
    return (label.toList, ← Reading.phrases v)
  return ofEntities es background caseSensitive name

/-- How many different phrases there are. -/
def size (g : Gazetteer) : Nat := g.table.length

/-- The labels of the table in ascending order, each once. -/
def labels (g : Gazetteer) : List (List Char) :=
  (g.table.map (·.2)).eraseDups.mergeSort fun a b => !b.lex a fun x y => Nat.blt x.toNat y.toNat

/-- The number of tokens of the longest phrase. -/
def longest (g : Gazetteer) : Nat := (g.table.map (·.1.length)).foldl max 0

/-- The label of a phrase given by its tokens. -/
def find? (g : Gazetteer) (ts : List Token) : Option (List Char) :=
  g.table.lookup (key g.caseSensitive (ts.map Token.text))

/-- The longest phrase of at most `n` tokens at the start: its length less one, and its label. -/
def longestMatch? (g : Gazetteer) : Nat → List Token → Option (Nat × List Char)
  | 0, _ => none
  | n + 1, ts =>
    match g.find? (ts.take (n + 1)) with
    | some label => some (n, label)
    | none => longestMatch? g n ts

/-- Labels tokens from left to right. -/
def labelTokens (g : Gazetteer) : List Token → List Token
  | [] => []
  | t :: ts =>
    match g.longestMatch? ((t :: ts).take g.longest).length (t :: ts) with
    | some (n, label) => (t :: ts.take n).map (·.withLabel label) ++ labelTokens g (ts.drop n)
    | none => t.withLabel g.background :: labelTokens g ts
termination_by ts => ts.length
decreasing_by all_goals simp only [List.length_drop, List.length_cons]; omega

/-- The tokens of a text with their labels. -/
def label (g : Gazetteer) (text : List Char) : List Token := g.labelTokens (Token.ofText text)

/-- Annotates a text. -/
def classify (g : Gazetteer) (text : List Char) (format : OutputFormat) (preserve : Bool) :
    List Char :=
  Markup.render text (g.label text) format preserve g.background

/-- A gazetteer as messages show it. -/
def describe (g : Gazetteer) : String :=
  "GazetteerClassifier(name=" ++ g.name.quote ++ ", phrases=" ++ toString g.size ++ ")"

end Gazetteer

end LineTagger
