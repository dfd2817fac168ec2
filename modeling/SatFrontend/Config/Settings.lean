import SatFrontend.Config.Update
import SatFrontend.Toml.Reader

namespace SatFrontend

open Toml

-- A setting that may be left out. It has to be right if it is given.
def setting? {α : Type} (read : Value → Option α) : Option Value → Option (Option α)
  | none => some none
  | some v => (read v).map some

def CommandUpdate.ofValue? (v : Value) : Option CommandUpdate := do
  match ← v.fields? ["program", "args"] with
  | [program, args] =>
    let program ← setting? Value.text? program
    let args ← setting? Value.texts? args
    some { program, args }
  | _ => none

def CounterUpdate.ofValue? (v : Value) : Option CounterUpdate := do
  match ← v.fields? ["program", "args", "pattern"] with
  | [program, args, pattern] =>
    let program ← setting? Value.text? program
    let args ← setting? Value.texts? args
    let pattern ← setting? Value.text? pattern
    some { program, args, pattern }
  | _ => none

def ProbabilisticUpdate.ofValue? (v : Value) : Option ProbabilisticUpdate := do
  match ← v.fields? ["program", "args", "pattern", "risk_flag"] with
  | [program, args, pattern, riskFlag] =>
    let program ← setting? Value.text? program
    let args ← setting? Value.texts? args
    let pattern ← setting? Value.text? pattern
    let riskFlag ← setting? Value.text? riskFlag
    some { program, args, pattern, riskFlag }
  | _ => none

namespace ConfigUpdate

def ofValue? (v : Value) : Option ConfigUpdate := do
  match ← v.fields? ["witness", "exact_count", "probabilistic_count", "enumerate"] with
  | [witness, exactCount, probabilisticCount, enumerate] =>
    let witness ← setting? CommandUpdate.ofValue? witness
    let exactCount ← setting? CounterUpdate.ofValue? exactCount
    let probabilisticCount ← setting? ProbabilisticUpdate.ofValue? probabilisticCount
    let enumerate ← setting? CommandUpdate.ofValue? enumerate
    some { witness, exactCount, probabilisticCount, enumerate }
  | _ => none

-- The update that a text gives. What is not known is refused.
def ofText? (text : String) : Option ConfigUpdate := do
  ofValue? (← Toml.read? text)

end ConfigUpdate

end SatFrontend
