/-!
How the program is called, on the command line and by the servers it talks to.
-/

namespace WordHunt

def programName : String :=
  "wordle-sieve"

def programVersion : String :=
  "1.0.0"

def versionText : String :=
  programName ++ " " ++ programVersion ++ "\n"

end WordHunt
