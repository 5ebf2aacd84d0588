/-!
# Files

The program reads files by path. What can keep it from reading one is a `ReadFault`; where the files
are is left to whoever runs the program (`Files`), in any monad.
-/

namespace PageScan

/-- Why a file cannot be read. -/
inductive ReadFault where
  | missing
  | notDirectory
  | isDirectory
  | nameTooLong
  | nulInPath
  | notUtf8
  | other (text : String)
  deriving DecidableEq, Repr

/-- The text that reports a fault. -/
def ReadFault.message : ReadFault → String
  | missing => "No such file or directory (os error 2)"
  | notDirectory => "Not a directory (os error 20)"
  | isDirectory => "Is a directory (os error 21)"
  | nameTooLong => "File name too long (os error 36)"
  | nulInPath => "file name contained an unexpected NUL byte"
  | notUtf8 => "stream did not contain valid UTF-8"
  | other text => text

/-- Access to files: their bytes by path, and whether a path leads to a regular file. -/
structure Files (m : Type → Type) where
  read : String → m (Except ReadFault (List UInt8))
  isFile : String → m Bool

end PageScan
