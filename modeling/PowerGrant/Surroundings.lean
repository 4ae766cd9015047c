/-!
# What surrounds a program

Variables, files, other programs and the time, as far as a program looks at them.
-/

namespace PowerGrant

/-- What surrounds a program. -/
structure Surroundings (m : Type → Type) where
  /-- The value of a variable of the environment. -/
  env : String → Option String
  /-- The text of a file, if it can be read. -/
  read : (path : String) → m (Option String)
  /-- What another program writes, if it can be run and succeeds. -/
  run : (command : String) → (args : List String) → m (Option String)
  /-- The time, in seconds since the start of 1970. -/
  now : Int

end PowerGrant
