/-!
# Programs in a rehearsal

Two programs that every system has can be run in a rehearsal: one writes what it is told, the other one
writes nothing. They are called by their names, with or without the directory in which they lie.

* `Tools.run?`: what a program writes.
-/

namespace PowerGrant.Tools

/-- What may stand before the name of a program. -/
def directories : List String := ["", "/bin/", "/usr/bin/"]

/-- Whether a command calls the program of a name. -/
def calls (command name : String) : Bool := directories.any fun directory => command = directory ++ name

/-- Whether an argument tells how to write instead of what: letters behind a dash. -/
def isOption (arg : String) : Bool :=
  match arg.toList with
  | '-' :: c :: cs => (c :: cs).all (['n', 'e', 'E'].contains ·)
  | _ => false

/-- What is written on being told some words: the words on a line, which is not ended if so asked. -/
def echo (args : List String) : String :=
  let unended := (args.takeWhile isOption).any (·.toList.contains 'n')
  " ".intercalate (args.dropWhile isOption) ++ if unended then "" else "\n"

/-- What a program writes, if it is one of the two. -/
def run? (command : String) (args : List String) : Option String :=
  if calls command "echo" then some (echo args)
  else if calls command "true" then some ""
  else none

example : run? "/bin/echo" ["-n", "a", "b"] = some "a b" ∧ run? "echo" ["-", "a"] = some "- a\n" ∧
    run? "false" [] = none := by decide +kernel

end PowerGrant.Tools
