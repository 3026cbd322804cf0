import Concordance.Url.Basic

/-!
# Failures

What can go wrong, and the texts that say so.

## Main definitions

* `FileError`: why a file could not be read or written
* `Failure`: why an operation failed
* `Failure.message`: its text
-/

namespace Concordance

/-- Why a file could not be read or written. -/
inductive FileError where
  | notFound
  | inputOutput
  | noDevice
  | permissionDenied
  | notDirectory
  | isDirectory
  | nameTooLong
  | tooManyLinks
  | notText
  | nulByte
deriving DecidableEq, Repr, Inhabited

/-- The text of an error of files. -/
def FileError.message : FileError → String
  | .notFound => "No such file or directory (os error 2)"
  | .inputOutput => "Input/output error (os error 5)"
  | .noDevice => "No such device or address (os error 6)"
  | .permissionDenied => "Permission denied (os error 13)"
  | .notDirectory => "Not a directory (os error 20)"
  | .isDirectory => "Is a directory (os error 21)"
  | .nameTooLong => "File name too long (os error 36)"
  | .tooManyLinks => "Too many levels of symbolic links (os error 40)"
  | .notText => "stream did not contain valid UTF-8"
  | .nulByte => "file name contained an unexpected NUL byte"

/-- Why an operation failed. -/
inductive Failure where
  | poolShutdown
  | invalidUrl (text : String) (cause : UrlError)
  | config (reason : String)
  | file (cause : FileError)
deriving DecidableEq, Repr, Inhabited

namespace Failure

/-- The text of a failure. -/
def message : Failure → String
  | .poolShutdown => "work pool has been shut down"
  | .invalidUrl text cause => "invalid url " ++ text ++ ": " ++ cause.message
  | .config reason => "invalid configuration: " ++ reason
  | .file cause => cause.message

/-- The texts of a failure and of what it goes back to. -/
def chain : Failure → List String
  | .invalidUrl text cause => [message (.invalidUrl text cause), cause.message]
  | failure => [failure.message]

end Failure

end Concordance
