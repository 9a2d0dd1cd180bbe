import DocPages.Fs.Path
import DocPages.Text.Utf8
/-!
# File trees

The files a run reads and writes, as a value: a tree of directories and files holding bytes,
addressed by absolute locations (lists of names from the root, the empty list being the root
directory, which always exists). A file name is a sequence of bytes; it is held as the text that
reading it as a file name gives, so two texts that write the same bytes name the same file.

Paths are resolved the way the operating system resolves them, name by name from the root or
from the working directory: every name but the last must lead into an existing directory, `..`
steps out of the directory reached so far, and `.` stays in it. So `a/..` exists only when `a`
is a directory, and a file on the way stops the walk. Each operation fails as the system call
fails, with an `IoError` that names the path as the run wrote it; a path with a code point that
no file name can hold, or with a null character, fails before it reaches the system. A name
longer than 255 bytes fails when the walk reaches it, that is once the names before it lead into
a directory, and so does a path of 4096 bytes or more, at once.
-/

namespace DocPages

/-- A node of a file tree. -/
inductive Node where
  /-- A regular file and its bytes. -/
  | file (bytes : List UInt8)
  /-- A directory. -/
  | dir
  deriving Repr, DecidableEq, Inhabited

/-- Why a file operation fails; each names the path as the run wrote it. -/
inductive IoError where
  /-- No file or directory at the path, or a directory on its way is missing. -/
  | notFound (path : Text)
  /-- A file stands where the path needs a directory. -/
  | notADirectory (path : Text)
  /-- The path is a directory where a file is needed. -/
  | isADirectory (path : Text)
  /-- Something already stands where a directory is to be made. -/
  | fileExists (path : Text)
  /-- A copy whose source and target are one file. -/
  | sameFile (src dst : PurePath)
  /-- A copy whose target lies in a directory that does not exist. -/
  | missingDirectory (path : Text)
  /-- A name of the path, or the whole path, is longer than the system takes. -/
  | nameTooLong (path : Text)
  deriving Repr, DecidableEq, Inhabited

/-- The error's message: the error number, its text and the quoted path. -/
def IoError.message : IoError → Text
  | .notFound p => Text.ofString "[Errno 2] No such file or directory: " ++ Text.quoted p
  | .notADirectory p => Text.ofString "[Errno 20] Not a directory: " ++ Text.quoted p
  | .isADirectory p => Text.ofString "[Errno 21] Is a directory: " ++ Text.quoted p
  | .fileExists p => Text.ofString "[Errno 17] File exists: " ++ Text.quoted p
  | .sameFile src dst => src.shown ++ " and " ++ dst.shown ++ " are the same file"
  | .missingDirectory p => Text.ofString "Directory does not exist: " ++ p
  | .nameTooLong p => Text.ofString "[Errno 36] File name too long: " ++ Text.quoted p

/-- Why a path operation fails: the system refuses it, or the path cannot be written as a file
name at all. -/
inductive FsError where
  /-- The system call failed. -/
  | io (e : IoError)
  /-- A code point of the path has no byte form. -/
  | unencodable (e : Text.EncodeError)
  /-- The path holds a null character, which ends a file name for the system. -/
  | nullByte
  deriving Repr, DecidableEq, Inhabited

/-- The error's message. -/
def FsError.message : FsError → Text
  | .io e => e.message
  | .unencodable e => e.message
  | .nullByte => "embedded null byte"

/-- The longest file name the system takes, in bytes. -/
def nameMax : Nat := 255

/-- The length in bytes from which the system refuses a whole path. -/
def pathMax : Nat := 4096

/-- The error number of a failed walk, before the path is attached. -/
inductive Errno where
  /-- No such file or directory. -/
  | noEntry
  /-- Not a directory. -/
  | notDir
  /-- A name is too long. -/
  | nameTooLong
  deriving Repr, DecidableEq, Inhabited

/-- The error of a failed walk for the path written `shown`. -/
def Errno.at (e : Errno) (shown : Text) : FsError :=
  match e with
  | .noEntry => .io (.notFound shown)
  | .notDir => .io (.notADirectory shown)
  | .nameTooLong => .io (.nameTooLong shown)

/-- A tree of directories and files, by absolute location. -/
structure Tree where
  /-- The nodes other than the root, each location once, every parent a directory. -/
  nodes : List (List Text × Node) := []
  deriving Repr, Inhabited

namespace Tree

/-- The name a text stands for as a file name: the text that its bytes read back as. -/
def canonicalName (t : Text) : Text :=
  match Text.encodeName t with
  | .ok bytes => Text.decodeName bytes
  | .error _ => t

/-- The node at an absolute location. -/
def get? (t : Tree) (p : List Text) : Option Node :=
  if p.isEmpty then some .dir else (t.nodes.find? (·.1 == p)).map (·.2)

/-- Whether a directory stands at the location. -/
def isDirAt (t : Tree) (p : List Text) : Bool :=
  t.get? p == some .dir

/-- Whether anything stands at the location. -/
def has (t : Tree) (p : List Text) : Bool :=
  (t.get? p).isSome

/-- The tree with node `n` at location `p`, replacing what stood there. -/
def set (t : Tree) (p : List Text) (n : Node) : Tree :=
  if t.nodes.any (·.1 == p) then ⟨t.nodes.map fun q => if q.1 == p then (p, n) else q⟩
  else ⟨t.nodes ++ [(p, n)]⟩

/-- The tree with a directory at every prefix of the location `p` where nothing stands. -/
def withDirs (t : Tree) (p : List Text) : Tree :=
  (List.range p.length).foldl (fun t i =>
    let q := p.take (i + 1)
    if t.has q then t else t.set q .dir) t

/-- The tree with a file holding `bytes` at location `p`, its directories made. -/
def withFile (t : Tree) (p : List Text) (bytes : List UInt8) : Tree :=
  (t.withDirs p.dropLast).set p (.file bytes)

/-- Names of the entries of the directory at `p`, in code point order. -/
def entries (t : Tree) (p : List Text) : List Text :=
  (t.nodes.filterMap fun q =>
    if q.1.dropLast == p && q.1.length == p.length + 1 then q.1.getLast? else none).mergeSort
    Text.le

/-- The files at or below the location `p`, by their names below it. -/
def filesUnder (t : Tree) (p : List Text) : List (List Text × List UInt8) :=
  t.nodes.filterMap fun q =>
    match q.2 with
    | .file bytes => if p.isPrefixOf q.1 && q.1.length > p.length then
        some (q.1.drop p.length, bytes) else none
    | .dir => none

/-! ### Resolving paths -/

/-- One name of a walk: `..` steps out, `.` stays, a name steps in. -/
def stepName (cur : List Text) (name : Text) : List Text :=
  if name == ".." then cur.dropLast else if name == "." then cur else cur ++ [name]

/-- Whether a name is looked up in a directory and is too long to be: `.` and `..` are not
looked up. -/
def tooLong (name : Text) : Bool :=
  name != "." && name != ".." &&
    match Text.encodeName name with
    | .ok bytes => bytes.length > nameMax
    | .error _ => false

/-- The location the names lead to from `cur`: each name is taken inside the directory reached
so far, which must exist, and must not be too long. The last location reached need not
exist. -/
def locate (t : Tree) (cur : List Text) : List Text → Except Errno (List Text)
  | [] => .ok cur
  | n :: ns =>
    match t.get? cur with
    | some .dir => if tooLong n then .error .nameTooLong else t.locate (stepName cur n) ns
    | some (.file _) => .error .notDir
    | none => .error .noEntry

/-- Where a path starts and the names it takes from there, or why the system does not take it:
it has no byte form, holds a null character, or is too long as a whole. -/
def namesOf (cwd : List Text) (p : PurePath) : Except FsError (List Text × List Text) :=
  match Text.encodeName p.toText with
  | .error e => .error (.unencodable e)
  | .ok bytes =>
    if bytes.contains 0 then .error .nullByte
    else if bytes.length ≥ pathMax then .error (.io (.nameTooLong p.toText))
    else .ok (if p.isAbsolute then [] else cwd, p.parts.map canonicalName)

/-- The location a path leads to, which must exist. -/
def reach (t : Tree) (cwd : List Text) (p : PurePath) : Except FsError (List Text) := do
  let (start, names) ← namesOf cwd p
  match t.locate start names with
  | .error e => .error (e.at p.toText)
  | .ok loc => if t.has loc then .ok loc else .error (.io (.notFound p.toText))

/-- The directory a path's last name lies in, which must exist, and that last name; the
working directory or the root itself, when the path has no names, comes with no name. -/
def reachParent (t : Tree) (cwd : List Text) (p : PurePath) :
    Except FsError (List Text × Option Text) := do
  let (start, names) ← namesOf cwd p
  match names.getLast? with
  | none => .ok (start, none)
  | some last =>
    match t.locate start names.dropLast with
    | .error e => .error (e.at p.toText)
    | .ok loc =>
      match t.get? loc with
      | some .dir => if tooLong last then .error (.io (.nameTooLong p.toText)) else .ok (loc, some last)
      | some (.file _) => .error (.io (.notADirectory p.toText))
      | none => .error (.io (.notFound p.toText))

/-- The node a path names. -/
def stat (t : Tree) (cwd : List Text) (p : PurePath) : Except FsError Node := do
  let loc ← t.reach cwd p
  pure ((t.get? loc).getD .dir)

/-- Whether the path names something; a path the system refuses names nothing. -/
def exists? (t : Tree) (cwd : List Text) (p : PurePath) : Bool :=
  (t.stat cwd p).toOption.isSome

/-- The node a path names, as a path library asks for it: none when nothing is there, when a
file stands on the way, or when the path cannot be handed to the system; a name too long for
the system is the one failure it reports. -/
def probe (t : Tree) (cwd : List Text) (p : PurePath) : Except IoError (Option Node) :=
  match t.stat cwd p with
  | .ok n => .ok (some n)
  | .error (.io (.nameTooLong shown)) => .error (.nameTooLong shown)
  | .error _ => .ok none

/-- Whether the path names something, asked as a path library asks. -/
def probeExists (t : Tree) (cwd : List Text) (p : PurePath) : Except IoError Bool :=
  (t.probe cwd p).map Option.isSome

/-- Whether the path names a directory, asked as a path library asks. -/
def probeDir (t : Tree) (cwd : List Text) (p : PurePath) : Except IoError Bool :=
  (t.probe cwd p).map (· == some .dir)

/-- Whether the path names a regular file, asked as a path library asks. -/
def probeFile (t : Tree) (cwd : List Text) (p : PurePath) : Except IoError Bool :=
  (t.probe cwd p).map fun n => match n with
    | some (.file _) => true
    | _ => false

/-- Whether the path names a directory. -/
def isDir (t : Tree) (cwd : List Text) (p : PurePath) : Bool :=
  match t.stat cwd p with
  | .ok .dir => true
  | _ => false

/-- Whether the path names a regular file. -/
def isFile (t : Tree) (cwd : List Text) (p : PurePath) : Bool :=
  match t.stat cwd p with
  | .ok (.file _) => true
  | _ => false

/-! ### Reading and writing -/

/-- The bytes of the file a path names. -/
def readFile (t : Tree) (cwd : List Text) (p : PurePath) : Except FsError (List UInt8) := do
  let loc ← t.reach cwd p
  match t.get? loc with
  | some (.file bytes) => pure bytes
  | _ => .error (.io (.isADirectory p.toText))

/-- The location a file is written to: an existing file, or a new name in an existing
directory. -/
def fileTarget (t : Tree) (cwd : List Text) (p : PurePath) : Except FsError (List Text) := do
  let (dir, last) ← t.reachParent cwd p
  match last with
  | none => .error (.io (.isADirectory p.toText))
  | some name =>
    let loc := stepName dir name
    if name == ".." || name == "." || t.isDirAt loc then .error (.io (.isADirectory p.toText))
    else pure loc

/-- The tree with the file a path names holding `bytes`, made if it is new. -/
def writeFile (t : Tree) (cwd : List Text) (p : PurePath) (bytes : List UInt8) :
    Except FsError Tree := do
  let loc ← t.fileTarget cwd p
  pure (t.set loc (.file bytes))

/-- The tree with `bytes` added at the end of the file at location `loc`, when a file stands
there. -/
def appendAt (t : Tree) (loc : List Text) (bytes : List UInt8) : Tree :=
  match t.get? loc with
  | some (.file old) => t.set loc (.file (old ++ bytes))
  | _ => t

/-- The tree with a new directory at the path; its parent must exist and nothing may stand
there yet. -/
def makeDir (t : Tree) (cwd : List Text) (p : PurePath) : Except FsError Tree := do
  let (dir, last) ← t.reachParent cwd p
  match last with
  | none => .error (.io (.fileExists p.toText))
  | some name =>
    let loc := stepName dir name
    if name == ".." || name == "." || t.has loc then .error (.io (.fileExists p.toText))
    else pure (t.set loc .dir)

/-- The tree as it is when a directory stands at the path after making it failed with `e`, and
that failure otherwise; asking whether the directory is there may fail in turn. -/
def keepDir (t : Tree) (cwd : List Text) (p : PurePath) (e : IoError) : Except FsError Tree :=
  match t.probeDir cwd p with
  | .ok true => .ok t
  | .ok false => .error (.io e)
  | .error e' => .error (.io e')

/-- Makes a directory and, when its parent is missing, the parent first: a failure other than
a missing parent is no failure when a directory stands there in the end. `fuel` bounds the
number of parents. -/
def makeDirsAux (t : Tree) (cwd : List Text) : Nat → PurePath → Except FsError Tree
  | 0, p => t.makeDir cwd p
  | fuel + 1, p =>
    match t.makeDir cwd p with
    | .ok t' => .ok t'
    | .error (.io (.notFound _)) =>
      if p.parent == p then .error (.io (.notFound p.toText))
      else do
        let t' ← t.makeDirsAux cwd fuel p.parent
        match t'.makeDir cwd p with
        | .ok t'' => .ok t''
        | .error (.io e) =>
          match e with
          | .notFound _ => .error (.io e)
          | _ => t'.keepDir cwd p e
        | .error e => .error e
    | .error (.io e) => t.keepDir cwd p e
    | .error e => .error e

/-- The tree with the directory a path names made, with its missing parents; a directory that
is there already is fine. -/
def makeDirs (t : Tree) (cwd : List Text) (p : PurePath) : Except FsError Tree :=
  t.makeDirsAux cwd (p.parts.length + 1) p

/-- Copies the file at `src` to `dst`: refused when both name one existing file, and when the
target is a directory. -/
def copyFile (t : Tree) (cwd : List Text) (src dst : PurePath) : Except FsError Tree := do
  match t.reach cwd src, t.reach cwd dst with
  | .ok a, .ok b => if a == b then throw (.io (.sameFile src dst)) else pure ()
  | _, _ => pure ()
  let bytes ← t.readFile cwd src
  match t.writeFile cwd dst bytes with
  | .error (.io (.isADirectory shown)) =>
    if t.exists? cwd dst then throw (.io (.isADirectory shown))
    else throw (.io (.missingDirectory dst.toText))
  | r => r

/-! ### Absolute paths -/

/-- The absolute path a path stands for, its `..` taken lexically: each name is looked up on the
way as the system would, so a name with no byte form or with a null character is refused,
naming its place in the part of the path looked up so far. `acc` is that part so far. -/
def absoluteAux (acc : PurePath) : List Text → Except FsError PurePath
  | [] => .ok acc
  | n :: ns =>
    if n == ".." then
      let up : PurePath :=
        if acc.parts.isEmpty then
          (if acc.isAbsolute then acc else { acc with parts := [Text.ofString ".."] })
        else if acc.parts.getLast? == some (Text.ofString "..") then
          { acc with parts := acc.parts ++ [Text.ofString ".."] }
        else acc.parent
      absoluteAux up ns
    else
      let next := acc.child n
      match Text.encodeName next.toText with
      | .error e => .error (.unencodable e)
      | .ok bytes => if bytes.contains 0 then .error .nullByte else absoluteAux next ns

/-- The absolute path `p` stands for from `cwd`, with `..` taken lexically. -/
def absolute (cwd : List Text) (p : PurePath) : Except FsError PurePath := do
  let start : PurePath := if p.isAbsolute then { root := .slash } else {}
  let q ← absoluteAux start p.parts
  let full := if q.isAbsolute then q else PurePath.abs cwd |>.join q
  pure (PurePath.abs (full.parts.foldl (fun acc n =>
    if n == Text.ofString ".." then acc.dropLast else acc ++ [n]) []))

end Tree

end DocPages
