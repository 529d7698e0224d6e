import LineTagger.Event
import LineTagger.Folder
import LineTagger.Gazetteer
import LineTagger.Json

/-!
Models: gazetteers written down as JSON, in files or bundled with the program. A model is an object
whose `entities` is an object of lists of phrases; name, background label and case mode may be given.
-/

namespace LineTagger.Model

/-- The channel of the log on which models are announced. -/
def channel : String := "tagserver.tagging.loader"

/-- The phrases of the bundled model. -/
def defaultPhrases : List (String × List String) := [
  ("PERSON", ["Alice", "Bob", "Carol", "Christopher Manning", "Barack Obama", "Ada Lovelace",
    "Alan Turing", "Grace Hopper", "Marie Curie", "Albert Einstein"]),
  ("ORGANIZATION", ["Foo", "Bar", "Acme", "Stanford University", "Stanford", "Google",
    "Microsoft", "United Nations", "Red Cross", "European Union"]),
  ("LOCATION", ["California", "Palo Alto", "New York", "London", "Paris", "Berlin", "Beijing",
    "Tokyo", "United States", "Europe"])]

def toEntities (es : List (String × List String)) : Entities :=
  es.map fun (label, phrases) => (label.toList, phrases.map String.toList)

/-- The bundled model. -/
def defaultModel : Gazetteer :=
  Gazetteer.ofEntities (toEntities defaultPhrases) ['O'] true (.text "default")

/-- Phrases, if a value is a list of texts. -/
def phrases? : List Value → Option (List String)
  | [] => some []
  | .text s :: rest => (phrases? rest).map (s :: ·)
  | _ :: _ => none

/-- Labels and phrases, every label having a list of texts; else the first label that has none. -/
def readEntities : List (String × Value) → Except String (List (String × List String))
  | [] => .ok []
  | (label, v) :: rest =>
    match v with
    | .list vs =>
      match phrases? vs with
      | none => .error label
      | some ps => (readEntities rest).map ((label, ps) :: ·)
    | _ => .error label

/-- The gazetteer that a value describes; `name` is for one that has none of its own. -/
def ofValue (v : Value) (source name : String) : Except Fault Gazetteer :=
  match v with
  | .map kvs =>
    match kvs.lookup "entities" with
    | some (.map entities) =>
      match readEntities entities with
      | .error label => .error (.model (.phrasesNotTexts source label))
      | .ok es =>
        let background := (kvs.lookup "background").getD (.text "O")
        let caseSensitive := (kvs.lookup "case_sensitive").getD (.bool true)
        let name := (kvs.lookup "name").getD (.text name)
        .ok (Gazetteer.ofEntities (toEntities es) background.display.toList caseSensitive.isTrue
          (.text name.display))
    | _ => .error (.model (.noEntities source))
  | _ => .error (.model (.noEntities source))

/-- The gazetteer that a text describes. -/
def ofText (s : List Char) (source name : String) : Except Fault Gazetteer :=
  match Json.read s with
  | .ok v => ofValue v source name
  | .error (.misread p rest) => .error (.model (.malformed source (Json.placed p s rest)))
  | .error (.tooManyDigits n) => .error (.model (.malformed source (Json.tooLongText n)))
  | .error (.tooDeep inArray) => .error (.nestedTooDeep inArray)

/-- Tells that a model was loaded. -/
def announce (g : Gazetteer) (source : String) : Run Gazetteer := do
  Run.log channel .debug ("Loaded " ++ g.describe ++ " from " ++ source)
  return g

/-- The text of a model file; what the operating system refuses makes the model unreadable. -/
def readFile (d : Folder) (p : Path) : Except Fault (List Char) :=
  match d.readText p with
  | .ok s => .ok s
  | .error f => .error (if f.isSystem then .model (.unreadable p.text f.message) else f)

/-- Loads a model file. -/
def loadFile (d : Folder) (path : String) : Run Gazetteer := do
  let p := Path.ofString path
  let s ← Run.ofExcept (readFile d p)
  let g ← Run.ofExcept (ofText s p.text p.stem)
  announce g p.text

/-- Loads a bundled model. A name must not lead anywhere else. -/
def loadBundled (name : String) : Run Gazetteer := do
  let file := if name.endsWith ".json" then name else name ++ ".json"
  let cs := file.toList
  if cs.contains '/' || cs.contains '\\' || cs.head? = some '.' then
    Run.fail (.model (.badName name))
  else if file = "default.json" then announce defaultModel file
  else Run.fail (.model (.noSuchModel name))

/-- Loads the model of a path, else the bundled model of a name, else the default one. -/
def load (d : Folder) (path name : String) : Run Gazetteer := do
  if !path.isEmpty then
    Run.log channel .info ("Using classifier loaded from " ++ path)
    loadFile d path
  else if !name.isEmpty then
    Run.log channel .info ("Using bundled classifier " ++ name)
    loadBundled name
  else
    Run.log channel .info "Using default classifier"
    loadBundled "default"

end LineTagger.Model
