import SatFrontend.CommandLine.Session

namespace SatFrontend.CommandLine

-- What the program knows about how it was built. Each text is a single line.
structure Build where
  version : String
  profile : String
  compiler : String
  oneLine : ∀ s ∈ [version, profile, compiler], '\n' ∉ s.toList

-- The lines that are printed before a session. Only a refusal and the help on options go without
-- them.
def Build.banner (b : Build) : List String :=
  ["c This is satbridge " ++ b.version, "c   " ++ b.profile ++ " build - " ++ b.compiler]

-- What a session prints with its banner, line by line.
def Report.lines (build : Build) (r : Report) : List String :=
  build.banner ++ r.printed.map Message.text

-- Standard output as a whole.
def Report.output (build : Build) (r : Report) : String :=
  String.join ((r.lines build).map (· ++ "\n"))

end SatFrontend.CommandLine
