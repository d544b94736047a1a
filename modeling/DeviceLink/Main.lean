import DeviceLink.Json.Writer
import DeviceLink.Simulated.Site
import Std.Time.DateTime.Timestamp
/-!
# The command line

Runs the agent with the settings file that is named, or the usual one. A network is not part
of the library: the agent runs on a site without a broker, where a link that dials is refused
and the session ends. Diagnostics go to standard output, one JSON object a line; why the agent
ended goes to standard error.
-/

namespace DeviceLink.Main

open Agent

/-- The fault behind an error of the system. -/
def faultOf : IO.Error → FileFault
  | .noFileOrDirectory .. => .notFound
  | .inappropriateType _ code _ => if code = 20 then .notADirectory else .isADirectory
  | e => .other (toString e)

/-- A file's bytes, or why it cannot be read. -/
def readFile (path : String) : IO (Except FileFault (List UInt8)) := do
  try
    let bytes ← IO.FS.readBinFile path
    pure (.ok bytes.toList)
  catch e => pure (.error (faultOf e))

/-- The files at some paths, read now. -/
def readFiles (paths : List String) : IO Files := do
  let found ← paths.mapM fun path => do pure (path, ← readFile path)
  pure fun path => (found.lookup path).getD (.error .notFound)

/-- The files that the settings name. -/
def namedFiles (s : Settings) : List String :=
  [s.mqtt.certPath, s.mqtt.keyPath, s.mqtt.caPath].filterMap id

/-- The time and random bits. -/
def draw : IO Draw := do
  let now ← Std.Time.Timestamp.now
  let bytes ← IO.getRandomBytes 10
  pure {
    millis := now.toMillisecondsSinceUnixEpoch.val.toNat
    random := bytes.toList.foldl (fun n b => n * 256 + b.toNat) 0 }

/-- The reader of the settings file and of the files it names. -/
def filesFor (path : String) : IO Files := do
  let files ← readFiles [path]
  match Settings.load files path with
  | .ok settings => readFiles (path :: namedFiles settings)
  | .error _ => pure files

/-- What the agent reports on its way out, and its exit status. -/
def conclude (traces : List Trace) (ending : Option Ending) : IO UInt32 := do
  for t in traces do
    IO.println (Json.Value.ofFields t.values).render
  match ending with
  | some cause =>
    IO.eprintln s!"Error: {cause.message}"
    pure 1
  | none => pure 0

/-- The most polls of the event loop. -/
def patience : Nat := 1000000

/-- Runs the agent with the settings file at a path. -/
def run (path : String) : IO UInt32 := do
  match State.start (← filesFor path) path (← draw) with
  | .error cause => conclude [] (some cause)
  | .ok agent =>
    let (ending, site) := Simulated.Site.run { agent } patience
    conclude site.agent.traces ending.join

end DeviceLink.Main

/-- Runs the agent with the settings file that the first argument names. -/
def main (args : List String) : IO UInt32 :=
  DeviceLink.Main.run (args.headD DeviceLink.Agent.defaultPath)
