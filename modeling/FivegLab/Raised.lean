/-!
# Exceptions

The exceptions that the program raises or lets through, with the class tests of
its `except` clauses.
-/

namespace FivegLab

/-- The exception classes that occur in the program. -/
inductive ExceptionKind
  | runtimeError
  | recursionError
  | valueError
  | unicodeDecodeError
  | jsonDecodeError
  | keyError
  | indexError
  | typeError
  | attributeError
  | overflowError
  | osError
  | timeoutError
  | timeoutExpired
  | keyboardInterrupt
  deriving DecidableEq, Repr

/-- A raised exception: its class, and its text as `str` shows it. -/
structure Raised where
  kind : ExceptionKind
  message : String
  deriving DecidableEq, Repr

namespace Raised

def runtimeError (message : String) : Raised := ⟨.runtimeError, message⟩

def valueError (message : String) : Raised := ⟨.valueError, message⟩

def keyboardInterrupt : Raised := ⟨.keyboardInterrupt, ""⟩

/-- `isinstance(error, RuntimeError)`. -/
def isRuntimeError (error : Raised) : Bool :=
  error.kind = .runtimeError ∨ error.kind = .recursionError

/-- `isinstance(error, ValueError)`. -/
def isValueError (error : Raised) : Bool :=
  error.kind = .valueError ∨ error.kind = .unicodeDecodeError ∨ error.kind = .jsonDecodeError

/-- `isinstance(error, OSError)`. -/
def isOSError (error : Raised) : Bool :=
  error.kind = .osError ∨ error.kind = .timeoutError

/-- `isinstance(error, subprocess.SubprocessError)`. -/
def isSubprocessError (error : Raised) : Bool := error.kind = .timeoutExpired

end Raised

/-- A sequence of values that may be errors. -/
theorem Except.bind_ok_iff {ε α β : Type} {value : Except ε α} {next : α → Except ε β}
    {result : β} :
    value >>= next = .ok result ↔ ∃ first, value = .ok first ∧ next first = .ok result := by
  cases value with
  | error error => simp [bind, Except.bind]
  | ok first => simp [bind, Except.bind]

end FivegLab
