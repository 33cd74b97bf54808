/-!
# Runs of named characters

The names of consecutive characters, each followed by a semicolon. A name begins with the number of
words that it has in common with the name before it; a character without a name has no text.
-/

namespace ThaiScript

structure NameRun where
  first : Nat
  names : List String

end ThaiScript
