import SatFrontend.CommandLine.Run
import SatFrontend.CommandLine.Solve
import SatFrontend.Solver.SearchEngine

namespace SatFrontend.CommandLine

-- How the program is called.
def usage : List String :=
  ["satbridge [--enumerate | --count [--delta RISK]] [--assume LIT]... [INPUT]",
    "satbridge --run witness|count|enumerate [--config FILE] [-C OPTION=VALUE]...",
    "    [--risk RISK] [--assume LIT]... [INPUT]"]

-- Do what was asked for, solving with the given engine where no backend is run.
def perform {η : Type} [Engine η] (w : World) (engine : η) : Invocation → Report
  | .solve a => (solve w engine a).report
  | .run a => (run w a).report

-- Arguments that are not understood print nothing.
def refuse : Refusal → Report
  | .help => { printed := usage.map .result, code := 0 }
  | .misuse => { printed := [], code := 1 }

-- The whole program, for its arguments and the world around it, with an engine of choice.
def programOn {η : Type} [Engine η] (engine : η) (args : List String) (w : World) : Report :=
  match Invocation.ofArguments args with
  | .ok invocation => perform w engine invocation
  | .error refusal => refuse refusal

def program (args : List String) (w : World) : Report := programOn ({} : SearchEngine) args w

end SatFrontend.CommandLine
