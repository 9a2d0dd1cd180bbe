import DocPages.Fs.Tree
import DocPages.Log
/-!
# Sessions

A session is a run in progress: the files, the working directory, where users' home
directories are, the packaged template directory, where log records go, and what has been
printed so far. Records are written the
moment they are logged, as a logging library with a console handler and a file handler writes
them: a shown record goes to standard error as a console line and to the end of the open log
file as a stamped line. Writing to the log file appends to whatever the file holds at that
moment, so a run that reads the log file sees the records logged before, and a run that
overwrites it has its later records appended to the new content.

Steps of a run that may fail are `EStateM` actions over the session, so a failure keeps the
files and output as they were when it happened.
-/

namespace DocPages

/-- Where log records go. -/
structure LogSink where
  /-- Whether debug records are shown. -/
  verbose : Bool := false
  /-- The location of the open log file, when there is one. -/
  file : Option (List Text) := none
  /-- The time stamp of log file lines. -/
  stamp : Text := []
  deriving Repr, Inhabited

/-- A run in progress. -/
structure Session where
  /-- The files. -/
  tree : Tree
  /-- The working directory, as absolute names. -/
  cwd : List Text
  /-- Where users' home directories are. -/
  homes : PurePath.Homes := {}
  /-- The packaged template directory, as absolute names. -/
  packaged : List Text
  /-- Where log records go. -/
  sink : LogSink := {}
  /-- Standard output so far. -/
  stdout : Text := []
  /-- Standard error so far. -/
  stderr : Text := []
  deriving Repr, Inhabited

namespace Session

/-- Logs a record: when shown, it goes to standard error and to the end of the log file. A
line that cannot be written as UTF-8 is left out of the file. -/
def log (s : Session) (r : LogRecord) : Session :=
  if !r.shown s.sink.verbose then s
  else
    let s := { s with stderr := s.stderr ++ r.consoleLine ++ "\n" }
    match s.sink.file, Text.encodeUtf8 (r.fileLine s.sink.stamp ++ "\n") with
    | some loc, .ok bytes => { s with tree := s.tree.appendAt loc bytes }
    | _, _ => s

/-- Logs records in order. -/
def logAll (s : Session) (rs : List LogRecord) : Session :=
  rs.foldl log s

/-- Prints to standard output. -/
def out (s : Session) (t : Text) : Session :=
  { s with stdout := s.stdout ++ t }

/-- Prints to standard error. -/
def err (s : Session) (t : Text) : Session :=
  { s with stderr := s.stderr ++ t }

end Session

/-- A step of a run that may fail with `ε`, keeping the session as it was when it failed. -/
abbrev Step (ε α : Type) := EStateM ε Session α

namespace Step

/-- Logs a record. -/
def log {ε : Type} (r : LogRecord) : Step ε Unit :=
  modify fun s => s.log r

/-- The session's files. -/
def tree {ε : Type} : Step ε Tree :=
  fun s => .ok s.tree s

/-- The session's working directory. -/
def cwd {ε : Type} : Step ε (List Text) :=
  fun s => .ok s.cwd s

/-- Replaces the session's files. -/
def setTree {ε : Type} (t : Tree) : Step ε Unit :=
  modify fun s => { s with tree := t }

/-- The value of a result, or its error mapped by `f`, as a step. -/
def lift {ε δ α : Type} (f : δ → ε) (r : Except δ α) : Step ε α :=
  match r with
  | .ok a => pure a
  | .error e => throw (f e)

/-- Runs a step that may fail with `ε` and gives its result, the session as the step left it
either way. -/
def attempt {ε δ α : Type} (x : Step ε α) : Step δ (Except ε α) :=
  fun s => match x s with
    | .ok a s' => .ok (.ok a) s'
    | .error e s' => .ok (.error e) s'

/-! ### Running a step

What each operation does to a session, so that a run is read off with `simp` and these
equations, without opening the state monad. -/

section Run

variable {ε δ α β : Type} (s : Session)

@[simp] theorem pure_run (a : α) : (pure a : Step ε α) s = .ok a s := rfl

@[simp] theorem bind_run (x : Step ε α) (f : α → Step ε β) :
    (x >>= f) s = match x s with
      | .ok a s' => f a s'
      | .error e s' => .error e s' := by
  show EStateM.bind x f s = _
  unfold EStateM.bind
  cases x s <;> rfl

@[simp] theorem map_run (f : α → β) (x : Step ε α) :
    (f <$> x) s = match x s with
      | .ok a s' => .ok (f a) s'
      | .error e s' => .error e s' := by
  show EStateM.map f x s = _
  unfold EStateM.map
  cases x s <;> rfl

@[simp] theorem get_run : (get : Step ε Session) s = .ok s s := rfl

@[simp] theorem set_run (s' : Session) : (set s' : Step ε PUnit) s = .ok ⟨⟩ s' := rfl

@[simp] theorem modify_run (f : Session → Session) :
    (modify f : Step ε PUnit) s = .ok ⟨⟩ (f s) := rfl

@[simp] theorem throw_run (e : ε) : (throw e : Step ε α) s = .error e s := rfl

@[simp] theorem log_run (r : LogRecord) : (log r : Step ε Unit) s = .ok () (s.log r) := rfl

@[simp] theorem setTree_run (t : Tree) :
    (setTree t : Step ε Unit) s = .ok () { s with tree := t } := rfl

@[simp] theorem lift_ok (f : δ → ε) (a : α) : lift f (.ok a) s = .ok a s := rfl

@[simp] theorem lift_error (f : δ → ε) (e : δ) : (lift f (.error e) : Step ε α) s = .error (f e) s :=
  rfl

end Run

end Step

end DocPages
