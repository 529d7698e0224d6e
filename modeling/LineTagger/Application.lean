import LineTagger.CommandLine
import LineTagger.Dialogue
import LineTagger.Log
import LineTagger.Server

/-!
The program as a whole: it reads its command line, and then serves clients, or holds a dialogue with
a server, or only tells something of itself. The result is the exit status.
-/

namespace LineTagger

/-- What a run of the program finds around it. -/
structure Surroundings where
  environment : Settings.Environment := []
  folder : Folder := []
  input : List Char := []
  network : Network
  /-- what each attempt at a listening socket meets -/
  listenerFaults : Nat → ListenerFaults := fun _ => {}
  /-- the address at which a listening socket finds itself -/
  listenerName : Address := { host := .text "127.0.0.1", port := .int 50000 }
  visits : List (Visit Script) := []
  logStyle : LogStyle

namespace Application

def success : Nat := 0
def failure : Nat := 1
def badUsage : Nat := 2

/-- What the program tells of itself, or of an error in its command line. -/
def halt : Halt → Run Nat
  | .help => ⟨[.output Usage.help.toList], .ok success⟩
  | .version => ⟨[.output Usage.version.toList], .ok success⟩
  | .error e => ⟨[.errorOutput (Usage.complaint e).toList], .ok badUsage⟩

/-- Tells why the program cannot go on. -/
def giveUp (f : Fault) : Run Nat :=
  ⟨[.errorOutput ("Error: " ++ f.message ++ "\n").toList], .ok failure⟩

/-- Holds a dialogue with the server of a host. -/
def converse (host : Value) (settings : Settings) (s : Surroundings) : Run Nat :=
  Dialogue.run { host := hostOrLocal host, port := settings.port, charset := settings.charset }
    s.network s.input

/-- The server of settings among the surroundings. -/
def serverOf (settings : Settings) (g : Gazetteer) (s : Surroundings) : Server Script :=
  let server := Server.ofUsable settings g.classifier Server.ownChannel s.network.now
  let listener :=
    { server.reception.listener with faults := s.listenerFaults, name := s.listenerName }
  { server with reception := { server.reception with listener } }

/-- Serves clients until a signal comes. -/
def serve (settings : Settings) (g : Gazetteer) (s : Surroundings) : Run Nat := do
  match ← ((serverOf settings g s).run true s.visits).1.attempt with
  | .ok () => return success
  | .error f => if f.isBind then giveUp f else Run.fail f

/-- Loads the model and serves clients. -/
def loadAndServe (a : Arguments) (settings : Settings) (s : Surroundings) : Run Nat := do
  let path := a.modelFile.text?.getD ""
  let name := a.modelName.text?.getD ""
  match ← (Model.load s.folder path name).attempt with
  | .ok g => serve settings g s
  | .error f => if f.isModel then giveUp f else Run.fail f

/-- The threshold of the log that settings ask for. -/
def threshold (s : Settings) : Int :=
  match s.logLevelValue with
  | .ok (.int n) => n
  | _ => Level.info.rank

/-- Does what arguments ask for. -/
def act (a : Arguments) (settings : Settings) (s : Surroundings) : Run Nat :=
  match a.client with
  | .null => s.logStyle.writeLog (threshold settings) (loadAndServe a settings s)
  | host => converse host settings s

/-- Runs the program with the texts of its command line. -/
def run (texts : List String) (s : Surroundings) : Run Nat :=
  match CommandLine.read texts with
  | .error h => halt h
  | .ok a =>
    match a.settings s.environment with
    | .error f => if f.isConfig then halt (.error (.unusable f)) else Run.fail f
    | .ok settings => act a settings s

end Application

end LineTagger
