import LineTagger.Text.Blank
import LineTagger.Text.Word

/-!
Tokens of a text: words, with inner hyphens and apostrophes, and single marks of punctuation. White
space separates and is in no token.
-/

namespace LineTagger

/-- A token, its place in the text, and its label. -/
structure Token where
  text : List Char
  start : Int
  stop : Int
  label : List Char := ['O']
  deriving DecidableEq, Repr, Inhabited

namespace Token

def withLabel (t : Token) (label : List Char) : Token := { t with label }

/-- Hyphen and apostrophes, which join two word characters into one word. -/
def isConnector (c : Char) : Bool := c = '-' || c = '\'' || c = '\u2019'

def startsWord : List Char → Bool
  | [] => false
  | c :: _ => isWord c

/-- How many characters continue a word, `n` counted already: word characters, and connectors that
a word character follows. -/
def extent (n : Nat) : List Char → Nat
  | [] => n
  | c :: rest =>
    if isWord c || (isConnector c && startsWord rest) then extent (n + 1) rest else n

/-- The tokens of the rest of a text, which starts at offset `pos`. -/
def scan (pos : Nat) : List Char → List Token
  | [] => []
  | c :: rest =>
    if isWord c then
      let n := extent 0 rest
      { text := c :: rest.take n, start := pos, stop := pos + n + 1 } ::
        scan (pos + n + 1) (rest.drop n)
    else if isBlank c then scan (pos + 1) rest
    else { text := [c], start := pos, stop := pos + 1 } :: scan (pos + 1) rest
termination_by s => s.length
decreasing_by all_goals simp only [List.length_drop, List.length_cons]; omega

/-- The tokens of a text, with their offsets; none carries a label of its own yet. -/
def ofText (s : List Char) : List Token := scan 0 s

end Token

end LineTagger
