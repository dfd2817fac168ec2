import SatFrontend.Backend.Counter
import SatFrontend.Backend.Witness

namespace SatFrontend

-- A model counter, with a pattern that has the count as its first group.
structure CounterConfig where
  command : Command
  pattern : String
deriving DecidableEq, Repr

-- A model counter that is told the accepted risk, after a flag if that is not empty.
structure ProbabilisticConfig extends CounterConfig where
  riskFlag : String
deriving DecidableEq, Repr

-- The programs for the different roles.
structure Config where
  witness : Command
  exactCount : CounterConfig
  probabilisticCount : ProbabilisticConfig
  enumerate : Command
deriving DecidableEq, Repr

namespace Config

open Backend

-- The programs that are used unless something else is said.
def standard : Config where
  witness := { program := "varisat" }
  exactCount := { command := { program := "ganak" }, pattern := CountPattern.standard }
  probabilisticCount :=
    { command := { program := "approxmc" }
      pattern := CountPattern.standard
      riskFlag := "--delta" }
  enumerate := { program := "satbridge", args := ["--enumerate"] }

def witnessBatch (c : Config) : Batch (Option (List Lit)) := Witness.batch c.witness

def exactCounter (c : Config) : Except Failure Counter :=
  Counter.exact c.exactCount.command c.exactCount.pattern

def probabilisticCounter (c : Config) (risk : Decimal.Binary64) : Except Failure Counter :=
  let p := c.probabilisticCount
  Counter.probabilistic p.command p.pattern p.riskFlag risk

-- What can be set, line by line.
def helpLines : List String :=
  ["witness.program = STRING         SAT solver for witness search (default \"varisat\")",
    "witness.args = [STRING]          its arguments",
    "exact_count.program = STRING     exact model counter (default \"ganak\")",
    "exact_count.args = [STRING]      its arguments",
    "exact_count.pattern = STRING     result regex with one capture group",
    "probabilistic_count.program = STRING",
    "                                 probabilistic model counter (default \"approxmc\")",
    "probabilistic_count.args = [STRING]",
    "probabilistic_count.pattern = STRING",
    "probabilistic_count.risk_flag = STRING",
    "                                 option preceding the risk (default \"--delta\")",
    "enumerate.program = STRING       model enumerator (default \"satbridge\")",
    "                                 a program without args runs without arguments",
    "enumerate.args = [STRING]        its arguments (default [\"--enumerate\"])"]

def help : String := String.join (helpLines.map (· ++ "\n"))

end Config

end SatFrontend
