import SatFrontend.Config.Roles

namespace SatFrontend

-- A change of a program and its arguments.
structure CommandUpdate where
  program : Option String := none
  args : Option (List String) := none
deriving DecidableEq, Repr

-- A change of a counter.
structure CounterUpdate extends CommandUpdate where
  pattern : Option String := none
deriving DecidableEq, Repr

-- A change of a counter that is told the risk.
structure ProbabilisticUpdate extends CounterUpdate where
  riskFlag : Option String := none
deriving DecidableEq, Repr

-- A change of the configuration, which says nothing about the roles that are left out.
structure ConfigUpdate where
  witness : Option CommandUpdate := none
  exactCount : Option CounterUpdate := none
  probabilisticCount : Option ProbabilisticUpdate := none
  enumerate : Option CommandUpdate := none
deriving DecidableEq, Repr

-- The later value of two, if it is given.
def later {α : Type} (first second : Option α) : Option α := second.or first

-- What is said about a role by two updates.
def both {α : Type} (merge : α → α → α) : Option α → Option α → Option α
  | some a, some b => some (merge a b)
  | a, b => later a b

namespace CommandUpdate

def merge (u v : CommandUpdate) : CommandUpdate where
  program := later u.program v.program
  args := later u.args v.args

-- A program that is given without arguments has none.
def apply (u : CommandUpdate) (c : Command) : Command where
  program := u.program.getD c.program
  args := u.args.getD (if u.program.isSome then [] else c.args)

end CommandUpdate

namespace CounterUpdate

def merge (u v : CounterUpdate) : CounterUpdate where
  toCommandUpdate := u.toCommandUpdate.merge v.toCommandUpdate
  pattern := later u.pattern v.pattern

def apply (u : CounterUpdate) (c : CounterConfig) : CounterConfig where
  command := u.toCommandUpdate.apply c.command
  pattern := u.pattern.getD c.pattern

end CounterUpdate

namespace ProbabilisticUpdate

def merge (u v : ProbabilisticUpdate) : ProbabilisticUpdate where
  toCounterUpdate := u.toCounterUpdate.merge v.toCounterUpdate
  riskFlag := later u.riskFlag v.riskFlag

def apply (u : ProbabilisticUpdate) (c : ProbabilisticConfig) : ProbabilisticConfig where
  toCounterConfig := u.toCounterUpdate.apply c.toCounterConfig
  riskFlag := u.riskFlag.getD c.riskFlag

end ProbabilisticUpdate

namespace ConfigUpdate

-- One update for two, where the second one takes precedence.
def merge (u v : ConfigUpdate) : ConfigUpdate where
  witness := both .merge u.witness v.witness
  exactCount := both .merge u.exactCount v.exactCount
  probabilisticCount := both .merge u.probabilisticCount v.probabilisticCount
  enumerate := both .merge u.enumerate v.enumerate

-- One update for many, where later ones take precedence.
def mergeAll (us : List ConfigUpdate) : ConfigUpdate := us.foldl merge {}

-- Overwrite what the update gives.
def apply (u : ConfigUpdate) (c : Config) : Config where
  witness := u.witness.elim c.witness (·.apply c.witness)
  exactCount := u.exactCount.elim c.exactCount (·.apply c.exactCount)
  probabilisticCount :=
    u.probabilisticCount.elim c.probabilisticCount (·.apply c.probabilisticCount)
  enumerate := u.enumerate.elim c.enumerate (·.apply c.enumerate)

-- Overwrite what the updates give, one after the other.
def applyAll (us : List ConfigUpdate) (c : Config) : Config :=
  us.foldl (fun c u => u.apply c) c

-- The standard configuration under an update.
def config (u : ConfigUpdate) : Config := u.apply .standard

end ConfigUpdate

end SatFrontend
