/-!
# Input and output failures

Why reading or writing a file failed. The system's own failures carry the text the system gives
them, with its error number; a failure raised by a source of rows carries its own text.
-/

namespace Strainer

/-- Why an input or output operation failed. -/
inductive IoError where
  | notFound
  | isDirectory
  | alreadyExists
  /-- A failure with a text of its own, such as a dropped connection. -/
  | custom (message : String)
  deriving DecidableEq, Repr

namespace IoError

def message : IoError → String
  | notFound => "No such file or directory (os error 2)"
  | isDirectory => "Is a directory (os error 21)"
  | alreadyExists => "File exists (os error 17)"
  | custom m => m

/-- The failure of a source whose connection drops. -/
def connectionReset : IoError := custom "connection reset"

end IoError

end Strainer
