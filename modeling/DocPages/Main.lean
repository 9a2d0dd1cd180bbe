import DocPages.Cli.Run
/-!
# The command line

`main` runs `refdoc` in the working directory. The files below it are read into a tree, the
run is computed over the tree, and every file the run made or changed is written back; its
output is printed and its exit code returned. The packaged template directory is served from
memory, and files outside the working directory are not read, but for the system's account
list: the home directories of `~` paths are the accounts' ones, and the current user's is
`$HOME` (when it is unset, none is known). Pages are rendered by the built-in template engine. A
run that stops with a failure prints its message and exits with code 1.
-/

namespace DocPages.Cli

/-- Where the packaged template directory appears to a run. -/
def packagedDir : List Text := ["usr", "share", "refdoc", "templates"]

/-- The packaged template files, in their directory. -/
def packagedTree : Tree :=
  Site.packagedFiles.foldl (fun t (n, text) =>
    t.withFile (packagedDir ++ [n]) ((Text.encodeUtf8 text).toOption.getD [])) ({} : Tree)

/-- The home directories of the accounts of an account list, one account a line with its
fields between colons and its home directory the sixth, by user name. -/
def accountHomes (passwd : String) : List (Text × Text) :=
  (passwd.splitOn "\n").filterMap fun line =>
    match line.splitOn ":" with
    | name :: _ :: _ :: _ :: _ :: dir :: _ => some (Text.ofString name, Text.ofString dir)
    | _ => none

/-- The stamp of log file lines: a date and time with milliseconds. -/
def logStamp : Text := "1970-01-01 00:00:00,000"

/-- A text as printable characters, a surrogate shown as `?`. -/
def printable (t : Text) : String :=
  String.ofList (t.map fun p => p.toChar?.getD '?')

/-- The files and directories of directory entries, read into `t` under `segs`. -/
partial def readEntries (t : Tree) (segs : List Text) (entries : List IO.FS.DirEntry) : IO Tree := do
  let mut t := t
  for e in entries do
    let here := segs ++ [Text.ofString e.fileName]
    if ← e.path.isDir then
      t ← readEntries (t.withDirs here) here (← e.path.readDir).toList
    else
      match ← (IO.FS.readBinFile e.path).toBaseIO with
      | .ok bytes => t := t.withFile here bytes.toList
      | .error _ => pure ()
  return t

/-- The absolute path text of segments, when it can be written. -/
def segmentsText? (segs : List Text) : Option String :=
  (PurePath.abs segs).toText.toString?

/-- Writes back what a run changed: new directories, and new or changed files, outside the
packaged template directory. -/
def writeBack (before after : Tree) : IO Unit := do
  for (segs, node) in after.nodes do
    unless packagedDir.isPrefixOf segs do
      match segmentsText? segs, segmentsText? segs.dropLast with
      | some path, some dir =>
        match node, before.get? segs with
        | .dir, some .dir => pure ()
        | .dir, _ => IO.FS.createDirAll path
        | .file bytes, some (.file old) =>
          if bytes != old then IO.FS.writeBinFile path (ByteArray.mk bytes.toArray)
        | .file bytes, _ =>
          IO.FS.createDirAll dir
          IO.FS.writeBinFile path (ByteArray.mk bytes.toArray)
      | _, _ => pure ()

end DocPages.Cli

/-- How deep on the stack a run of the command starts: the launcher's frames lie below it. -/
def DocPages.Cli.entryDepth : Nat := 4

open DocPages in
/-- Runs `refdoc` with the command-line arguments. -/
def main (args : List String) : IO UInt32 := do
  let cwd ← IO.currentDir
  let segs := (PurePath.ofText (Text.ofString cwd.toString)).parts
  let tree ← Cli.readEntries (Cli.packagedTree.withDirs segs) segs (← cwd.readDir).toList
  let own ← IO.getEnv "HOME"
  let accounts := match ← (IO.FS.readFile "/etc/passwd").toBaseIO with
    | .ok text => Cli.accountHomes text
    | .error _ => []
  let start : Session :=
    { tree, cwd := segs, homes := { own := own.map Text.ofString, accounts },
      packaged := Cli.packagedDir, sink := { stamp := Cli.logStamp } }
  match Cli.run Site.builtinEngine Cli.entryDepth (args.map Text.ofString) start with
  | .ok code s =>
    Cli.writeBack tree s.tree
    IO.print (Cli.printable s.stdout)
    IO.eprint (Cli.printable s.stderr)
    return code.toUInt32
  | .error f s =>
    Cli.writeBack tree s.tree
    IO.print (Cli.printable s.stdout)
    IO.eprint (Cli.printable s.stderr)
    IO.eprintln (Cli.printable f.message)
    return 1
