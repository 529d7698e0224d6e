import LineTagger.Client

/-!
A dialogue has one line after another tagged and shows the answers, up to an empty line or the end of
the input. It ends early when a connection fails.
-/

namespace LineTagger.Dialogue

def prompt : String := "Input some text and press RETURN to tag it, or just RETURN to finish."

/-- The lines of an input, which line feeds divide. What follows the last one is a line too. -/
def lines : List Char → List (List Char)
  | [] => [[]]
  | c :: rest =>
    if c = '\n' then [] :: lines rest
    else match lines rest with
      | [] => [[c]]
      | line :: others => (c :: line) :: others

/-- A line without the line ends that it may still hold at its end. -/
def trimEnd (line : List Char) : List Char :=
  (line.reverse.dropWhile fun c => c = '\r' || c = '\n').reverse

/-- The lines to be tagged: those before the first empty one. -/
def requests (input : List Char) : List (List Char) :=
  ((lines input).map trimEnd).takeWhile (· ≠ [])

/-- What is told of a failed connection. -/
def complaint (c : Client) (f : Fault) : String :=
  (if f.isNameResolution then "Cannot find host: " else "I/O error in the connection to: ") ++
    c.host.display

/-- Has lines tagged; the result is the exit status. -/
def tagAll (c : Client) (n : Network) : List (List Char) → Run Nat
  | [] => pure 0
  | line :: rest =>
    let (r, n) := c.tag n line
    match r.result with
    | .ok answer =>
      let others := tagAll c n rest
      ⟨r.events ++ .output ((answer.getD []) ++ ['\n']) :: others.events, others.result⟩
    | .error f =>
      if f.isSystem then
        ⟨r.events ++ [.errorOutput ((complaint c f).toList ++ ['\n'])], .ok 1⟩
      else ⟨r.events, .error f⟩

/-- Holds a dialogue. -/
def run (c : Client) (n : Network) (input : List Char) : Run Nat := do
  Run.emit (.output (prompt.toList ++ ['\n']))
  tagAll c n (requests input)

end LineTagger.Dialogue
