import FivegLab.Program.Play
import FivegLab.Program.Realize
import FivegLab.Models
import FivegLab.Path
import FivegLab.Raised
import Mathlib.Algebra.Order.Ring.Rat

/-!
# The host

What the program asks of the machine it runs on: processes, signals, clocks and
files.  Every call may fail in the ways that its reply can tell.  The log parser
and the validation of the repository's configuration are calls of this interface
too: their callers depend on nothing but their results.
-/

namespace FivegLab

abbrev Bytes := List UInt8

/-- A signal that the program handles. -/
inductive Signal
  | int
  | term
  deriving DecidableEq, Repr

/-- What happens on a signal: it is ignored, raises `KeyboardInterrupt` through
`interrupt_probe`, or goes to another handler. -/
inductive Disposition
  | ignored
  | interrupting
  | other (handler : ℕ)
  deriving DecidableEq, Repr

/-- How a started process ended for the wrapper that communicates with it.
After a time-out its whole session was killed and its last output collected. -/
inductive ProcessEnd
  | exited (returncode : ℤ) (stdout stderr : String)
  | timedOut (stdout stderr : String)
  | raised (error : Raised)
  deriving DecidableEq, Repr

/-- `subprocess.CompletedProcess`, less its arguments. -/
structure CompletedProcess where
  returncode : ℤ
  stdout : String
  stderr : String
  deriving DecidableEq, Repr

/-- What `platform` and `shutil` tell of the machine. -/
inductive HostFact
  | node
  | system
  | release
  | machine
  | platform
  | pythonVersion
  | freeGibibytes
  deriving DecidableEq, Repr

inductive HostOp
  | spawn (arguments : List String) (environment : List (String × String)) (timeout : ℕ)
  | subprocess (arguments : List String) (timeout : ℕ)
  | getSignal (signal : Signal)
  | setSignal (signal : Signal) (disposition : Disposition)
  | monotonic
  | sleep (seconds : ℚ)
  | utcNow
  | fact (name : HostFact)
  | which (program : String)
  | connects (port : ℕ)
  | freeDisk
  | pathExists (path : Path)
  | isFile (path : Path)
  | isCharDevice (path : Path)
  | resolve (path : Path)
  | readText (path : Path)
  | readBytes (path : Path)
  | writeText (path : Path) (text : String)
  | makeDirectory (path : Path) (existOk : Bool)
  | glob (directory : Path) (pattern : String)
  | validateRepo
  | parseFile (path : Path)
  deriving DecidableEq, Repr

abbrev HostOp.Reply : HostOp → Type
  | .spawn _ _ _ => ProcessEnd
  | .subprocess _ _ => Except Raised CompletedProcess
  | .getSignal _ => Disposition
  | .setSignal _ _ => Disposition
  | .monotonic => ℚ
  | .sleep _ => Except Raised Unit
  | .utcNow => String
  | .fact _ => String
  | .which _ => Bool
  | .connects _ => Bool
  | .freeDisk => ℚ
  | .pathExists _ => Bool
  | .isFile _ => Bool
  | .isCharDevice _ => Bool
  | .resolve _ => Path
  | .readText _ => Except Raised String
  | .readBytes _ => Except Raised Bytes
  | .writeText _ _ => Except Raised Unit
  | .makeDirectory _ _ => Except Raised Unit
  | .glob _ _ => List Path
  | .validateRepo => Except Raised (List Check)
  | .parseFile _ => Except Raised (List String)

/-- The interface of the host. -/
abbrev Host : Interface where
  Op := HostOp
  Reply := HostOp.Reply

abbrev HostM := Routine Host Unit Raised

namespace Host

variable {before after : Unit} {trace : List (Event Host)}

/-- Start a process and communicate with it. -/
def spawn (arguments : List String) (environment : List (String × String)) (timeout : ℕ) :
    HostM ProcessEnd :=
  Routine.call (I := Host) (.spawn arguments environment timeout)

@[simp]
theorem runs_spawn_iff {arguments : List String} {environment : List (String × String)}
    {timeout : ℕ} {outcome : Except Raised ProcessEnd} :
    (spawn arguments environment timeout).Runs before trace outcome after ↔
      ∃ reply, trace = [⟨.spawn arguments environment timeout, reply⟩] ∧ outcome = .ok reply :=
  Routine.runs_reply_iff

/-- `subprocess.run(arguments, check=False, capture_output=True, text=True)`. -/
def subprocess (arguments : List String) (timeout : ℕ) : HostM CompletedProcess :=
  Routine.call (I := Host) (.subprocess arguments timeout) >>= Routine.ofExcept

@[simp]
theorem runs_subprocess_iff {arguments : List String} {timeout : ℕ}
    {outcome : Except Raised CompletedProcess} :
    (subprocess arguments timeout).Runs before trace outcome after ↔
      trace = [⟨.subprocess arguments timeout, outcome⟩] :=
  Routine.runs_fallible_iff.trans exists_eq_right'

def getSignal (signal : Signal) : HostM Disposition := Routine.call (I := Host) (.getSignal signal)

@[simp]
theorem runs_getSignal_iff {signal : Signal}
    {outcome : Except Raised Disposition} :
    (getSignal signal).Runs before trace outcome after ↔
      ∃ reply, trace = [⟨.getSignal signal, reply⟩] ∧ outcome = .ok reply :=
  Routine.runs_reply_iff

/-- `signal.signal(signal, disposition)`: the answer is the previous disposition. -/
def setSignal (signal : Signal) (disposition : Disposition) : HostM Disposition :=
  Routine.call (I := Host) (.setSignal signal disposition)

@[simp]
theorem runs_setSignal_iff {signal : Signal} {disposition : Disposition}
    {outcome : Except Raised Disposition} :
    (setSignal signal disposition).Runs before trace outcome after ↔
      ∃ reply, trace = [⟨.setSignal signal disposition, reply⟩] ∧ outcome = .ok reply :=
  Routine.runs_reply_iff

def monotonic : HostM ℚ := Routine.call (I := Host) .monotonic

@[simp]
theorem runs_monotonic_iff {outcome : Except Raised ℚ} :
    monotonic.Runs before trace outcome after ↔
      ∃ reply, trace = [⟨.monotonic, reply⟩] ∧ outcome = .ok reply :=
  Routine.runs_reply_iff

/-- `time.sleep(seconds)`, for a duration that the clock can represent. -/
def pause (seconds : ℚ) : HostM Unit :=
  Routine.call (I := Host) (.sleep seconds) >>= Routine.ofExcept

@[simp]
theorem runs_pause_iff {seconds : ℚ}
    {outcome : Except Raised Unit} :
    (pause seconds).Runs before trace outcome after ↔ trace = [⟨.sleep seconds, outcome⟩] :=
  Routine.runs_fallible_iff.trans exists_eq_right'

def utcNow : HostM String := Routine.call (I := Host) .utcNow

@[simp]
theorem runs_utcNow_iff {outcome : Except Raised String} :
    utcNow.Runs before trace outcome after ↔
      ∃ reply, trace = [⟨.utcNow, reply⟩] ∧ outcome = .ok reply :=
  Routine.runs_reply_iff

def fact (name : HostFact) : HostM String := Routine.call (I := Host) (.fact name)

@[simp]
theorem runs_fact_iff {name : HostFact}
    {outcome : Except Raised String} :
    (fact name).Runs before trace outcome after ↔
      ∃ reply, trace = [⟨.fact name, reply⟩] ∧ outcome = .ok reply :=
  Routine.runs_reply_iff

def which (program : String) : HostM Bool := Routine.call (I := Host) (.which program)

@[simp]
theorem runs_which_iff {program : String}
    {outcome : Except Raised Bool} :
    (which program).Runs before trace outcome after ↔
      ∃ reply, trace = [⟨.which program, reply⟩] ∧ outcome = .ok reply :=
  Routine.runs_reply_iff

/-- Does a TCP port of this machine accept a connection? -/
def connects (port : ℕ) : HostM Bool := Routine.call (I := Host) (.connects port)

@[simp]
theorem runs_connects_iff {port : ℕ}
    {outcome : Except Raised Bool} :
    (connects port).Runs before trace outcome after ↔
      ∃ reply, trace = [⟨.connects port, reply⟩] ∧ outcome = .ok reply :=
  Routine.runs_reply_iff

/-- The free space of the disk, in GiB. -/
def freeDisk : HostM ℚ := Routine.call (I := Host) .freeDisk

@[simp]
theorem runs_freeDisk_iff {outcome : Except Raised ℚ} :
    freeDisk.Runs before trace outcome after ↔
      ∃ reply, trace = [⟨.freeDisk, reply⟩] ∧ outcome = .ok reply :=
  Routine.runs_reply_iff

def pathExists (path : Path) : HostM Bool := Routine.call (I := Host) (.pathExists path)

@[simp]
theorem runs_pathExists_iff {path : Path}
    {outcome : Except Raised Bool} :
    (pathExists path).Runs before trace outcome after ↔
      ∃ reply, trace = [⟨.pathExists path, reply⟩] ∧ outcome = .ok reply :=
  Routine.runs_reply_iff

def isFile (path : Path) : HostM Bool := Routine.call (I := Host) (.isFile path)

@[simp]
theorem runs_isFile_iff {path : Path}
    {outcome : Except Raised Bool} :
    (isFile path).Runs before trace outcome after ↔
      ∃ reply, trace = [⟨.isFile path, reply⟩] ∧ outcome = .ok reply :=
  Routine.runs_reply_iff

def isCharDevice (path : Path) : HostM Bool := Routine.call (I := Host) (.isCharDevice path)

@[simp]
theorem runs_isCharDevice_iff {path : Path}
    {outcome : Except Raised Bool} :
    (isCharDevice path).Runs before trace outcome after ↔
      ∃ reply, trace = [⟨.isCharDevice path, reply⟩] ∧ outcome = .ok reply :=
  Routine.runs_reply_iff

def resolve (path : Path) : HostM Path := Routine.call (I := Host) (.resolve path)

@[simp]
theorem runs_resolve_iff {path : Path}
    {outcome : Except Raised Path} :
    (resolve path).Runs before trace outcome after ↔
      ∃ reply, trace = [⟨.resolve path, reply⟩] ∧ outcome = .ok reply :=
  Routine.runs_reply_iff

def readText (path : Path) : HostM String :=
  Routine.call (I := Host) (.readText path) >>= Routine.ofExcept

@[simp]
theorem runs_readText_iff {path : Path}
    {outcome : Except Raised String} :
    (readText path).Runs before trace outcome after ↔ trace = [⟨.readText path, outcome⟩] :=
  Routine.runs_fallible_iff.trans exists_eq_right'

def readBytes (path : Path) : HostM Bytes :=
  Routine.call (I := Host) (.readBytes path) >>= Routine.ofExcept

@[simp]
theorem runs_readBytes_iff {path : Path}
    {outcome : Except Raised Bytes} :
    (readBytes path).Runs before trace outcome after ↔ trace = [⟨.readBytes path, outcome⟩] :=
  Routine.runs_fallible_iff.trans exists_eq_right'

def writeText (path : Path) (text : String) : HostM Unit :=
  Routine.call (I := Host) (.writeText path text) >>= Routine.ofExcept

@[simp]
theorem runs_writeText_iff {path : Path} {text : String}
    {outcome : Except Raised Unit} :
    (writeText path text).Runs before trace outcome after ↔
      trace = [⟨.writeText path text, outcome⟩] :=
  Routine.runs_fallible_iff.trans exists_eq_right'

def makeDirectory (path : Path) (existOk : Bool) : HostM Unit :=
  Routine.call (I := Host) (.makeDirectory path existOk) >>= Routine.ofExcept

@[simp]
theorem runs_makeDirectory_iff {path : Path} {existOk : Bool}
    {outcome : Except Raised Unit} :
    (makeDirectory path existOk).Runs before trace outcome after ↔
      trace = [⟨.makeDirectory path existOk, outcome⟩] :=
  Routine.runs_fallible_iff.trans exists_eq_right'

def glob (directory : Path) (pattern : String) : HostM (List Path) :=
  Routine.call (I := Host) (.glob directory pattern)

@[simp]
theorem runs_glob_iff {directory : Path} {pattern : String}
    {outcome : Except Raised (List Path)} :
    (glob directory pattern).Runs before trace outcome after ↔
      ∃ reply, trace = [⟨.glob directory pattern, reply⟩] ∧ outcome = .ok reply :=
  Routine.runs_reply_iff

def validateRepo : HostM (List Check) :=
  Routine.call (I := Host) .validateRepo >>= Routine.ofExcept

@[simp]
theorem runs_validateRepo_iff {outcome : Except Raised (List Check)} :
    validateRepo.Runs before trace outcome after ↔ trace = [⟨.validateRepo, outcome⟩] :=
  Routine.runs_fallible_iff.trans exists_eq_right'

/-- The names of the events in a log file, in order. -/
def parseFile (path : Path) : HostM (List String) :=
  Routine.call (I := Host) (.parseFile path) >>= Routine.ofExcept

@[simp]
theorem runs_parseFile_iff {path : Path}
    {outcome : Except Raised (List String)} :
    (parseFile path).Runs before trace outcome after ↔ trace = [⟨.parseFile path, outcome⟩] :=
  Routine.runs_fallible_iff.trans exists_eq_right'

/-- A host on which everything succeeds: processes end as told, every text file
reads the same, the log parser finds the same events in every file, and the clock
only moves while the program sleeps. -/
def calm (process : List String → ProcessEnd) (text : String) (events : List String) :
    Responder Host ℚ := fun clock op =>
  match op with
  | .spawn arguments _ _ => (process arguments, clock)
  | .subprocess _ _ => (.ok ⟨0, "", ""⟩, clock)
  | .getSignal _ => (.other 0, clock)
  | .setSignal _ _ => (.other 0, clock)
  | .monotonic => (clock, clock)
  | .sleep seconds => (.ok (), clock + seconds)
  | .utcNow => ("2026-09-13T00:00:00Z", clock)
  | .fact _ => ("Linux", clock)
  | .which _ => (true, clock)
  | .connects _ => (false, clock)
  | .freeDisk => (100, clock)
  | .pathExists _ => (true, clock)
  | .isFile _ => (true, clock)
  | .isCharDevice _ => (true, clock)
  | .resolve path => (path, clock)
  | .readText _ => (.ok text, clock)
  | .readBytes _ => (.ok [], clock)
  | .writeText _ _ => (.ok (), clock)
  | .makeDirectory _ _ => (.ok (), clock)
  | .glob _ _ => ([], clock)
  | .validateRepo => (.ok [], clock)
  | .parseFile _ => (.ok events, clock)

end Host

end FivegLab
