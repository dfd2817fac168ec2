import SatFrontend.Backend.ModelStream
import SatFrontend.CommandLine.Arguments
import SatFrontend.CommandLine.Session
import SatFrontend.Config.Settings

namespace SatFrontend.CommandLine

open Backend Session

-- The change of the configuration that a text gives.
def readUpdate (text : String) : Session ConfigUpdate :=
  match ConfigUpdate.ofText? text with
  | some u => pure u
  | none => fail "Invalid backend configuration"

-- The change of the configuration that a file gives.
def readConfigFile (w : World) (path : String) : Session ConfigUpdate := do
  inform [.readingConfig path]
  let bytes ← orFail IoError.message (w.host.files.read path)
  match Text.decode? bytes with
  | some cs => readUpdate (String.ofList cs)
  | none => fail IoError.invalidData.message

-- The changes that are given one after the other, as one.
def readOptions (u : ConfigUpdate) : List String → Session ConfigUpdate
  | [] => pure u
  | text :: texts => do readOptions (u.merge (← readUpdate text)) texts

-- What is configured by the file and then by the single options.
def readConfig (w : World) (a : Running) : Session Config := do
  let u ← match a.config with
    | none => pure {}
    | some path => readConfigFile w path
  return (← readOptions (ConfigUpdate.merge {} u) a.options).config

-- Run a batch and print what happens meanwhile.
def runBatch {α : Type} (w : World) (b : Batch α) (f : Formula) : Session α := do
  let (_, notices, result) := Backend.run w.host b f
  inform notices
  orFail Failure.message result

def runWitness (w : World) (config : Config) (f : Formula) : Session Nat := do
  match ← runBatch w config.witnessBatch f with
  | some model =>
    print [Witness.satMarker, modelLine ["v"] model]
    return Witness.satExit
  | none =>
    print [Witness.unsatMarker]
    return Witness.unsatExit

-- The count is exact unless a risk is accepted.
def runCount (w : World) (config : Config) (risk : Option Decimal.Binary64) (f : Formula) :
    Session Nat := do
  let counter ← orFail Failure.message <| match risk with
    | some risk => config.probabilisticCounter risk
    | none => config.exactCounter
  let count ← runBatch w counter.batch f
  print [s!"s mc {count}"]
  return 0

-- Models are printed as they come, those before an error included.
def runEnumerate (w : World) (config : Config) (f : Formula) : Session Nat := do
  let (_, notices, result) := ModelStream.start w.host config.enumerate f
  inform notices
  let stream ← orFail Failure.message result
  let (models, failure, _) := stream.drain
  print (models.map (modelLine []))
  match failure with
  | some e => fail e.message
  | none => return 0

-- Run a backend of the configuration on the formula.
def runConfigured (w : World) (a : Running) : Session Nat := do
  let config ← readConfig w a
  let risk ← match a.risk with
    | none => pure none
    | some text => some <$> readRisk "--risk" text
  let f ← readFormula w a.input Formula.empty
  let f ← assumeAll f (← readAssumptions a.assumptions)
  inform [.loadedFormula f.varCount f.size]
  match a.mode with
  | .witness => runWitness w config f
  | .count => runCount w config risk f
  | .enumerate => runEnumerate w config f

-- One option can ask for a list of all options instead.
def run (w : World) (a : Running) : Session Nat :=
  if a.options.contains "help" then do
    print Config.helpLines
    return 0
  else runConfigured w a

end SatFrontend.CommandLine
