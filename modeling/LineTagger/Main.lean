import LineTagger.Application

/-!
The command line. A server takes each line of the standard input as one client that sends it, and
writes what it answers to the standard output; a dialogue finds no server.
-/

namespace LineTagger.Main

/-- The variables of the environment that settings may come from. -/
def readEnvironment : IO Settings.Environment := do
  let mut env := []
  for x in Settings.environmentVariables do
    match ← IO.getEnv x.name with
    | some s => env := env ++ [(x.name, .text s)]
    | none => pure ()
  return env

/-- The folder with the model file that a command line names, if it can be read. -/
def readFolder (texts : List String) : IO Folder := do
  match CommandLine.read texts with
  | .ok a =>
    match a.modelFile.text? with
    | some path =>
      try
        let bytes ← IO.FS.readBinFile path
        return Folder.add [] (Path.ofString path) (.file bytes.toList)
      catch _ => return []
    | none => return []
  | .error _ => return []

/-- A line as a client that sends it. -/
def visitOf (line : String) : Visit Script :=
  .arrival none false none (some ({ id := 0, peer := { arrivals := [.bytes line.toUTF8.toList] } },
    { host := .text "127.0.0.1", port := .int 0 }))

/-- Writes what an event shows. -/
def showEvent : Event → IO Unit
  | .output s => IO.print (String.ofList s)
  | .errorOutput s => IO.eprint (String.ofList s)
  | .socket _ (.send bs) => do
    let out ← IO.getStdout
    out.write (ByteArray.mk bs.toArray)
  | _ => pure ()

partial def readLines (input : IO.FS.Stream) (lines : Array String) : IO (Array String) := do
  let line ← input.getLine
  if line.isEmpty then return lines else readLines input (lines.push line)

/-- Runs the program and tells its exit status. -/
def run (texts : List String) : IO UInt32 := do
  let asksOnly := match CommandLine.read texts with
    | .error _ => true
    | .ok _ => false
  let lines ← if asksOnly then pure #[] else readLines (← IO.getStdin) #[]
  let surroundings : Surroundings := {
    environment := ← readEnvironment
    folder := ← readFolder texts
    input := (String.join lines.toList).toList
    network := { dials := [], now := Double.ofInt 0 }
    visits := lines.toList.map visitOf
    logStyle := { stamp := "-", describe := Fault.message } }
  let r := Application.run texts surroundings
  r.events.forM showEvent
  match r.result with
  | .ok status => return UInt32.ofNat status
  | .error f =>
    IO.eprintln f.message
    return 1

end LineTagger.Main

def main (texts : List String) : IO UInt32 := LineTagger.Main.run texts
