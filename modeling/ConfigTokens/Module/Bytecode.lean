import ConfigTokens.Assoc
import ConfigTokens.Module.Site
/-!
# Code that is kept beside its source

An interpreter keeps the code that it has compiled for a file in a directory beside the file, and runs it
again as long as the file has the same stamp. The path of the code has the name of the file without its
last suffix, so that files of different suffixes share one. `Bytecodes.programs` says what is run for
files that are read one after the other; a file that has the path and the stamp of another one gets the
code of that one.
-/

namespace ConfigTokens.Module

open ConfigTokens.Path
open ConfigTokens.Text

/-- The end of the names of files with code, which tells for which interpreter it is. -/
def codeSuffix : List Char :=
  "cpython-311.pyc".toList

/-- The directory for code beside a file. -/
def codeDirectory : List Char :=
  "__pycache__".toList

/-- The path of the code for a file; it is a relative one for a file in the root. -/
def codeText
    (file : String) : String :=
  let (above, name) := (beforeLast '/' file.toList).getD ([], file.toList)
  let front :=
    match beforeLast '.' name with
    | some ([], rest) => rest ++ ['.']
    | some (front, _) => front ++ ['.']
    | none => name
  String.ofList (join (join above codeDirectory) (front ++ codeSuffix))

/-- The code of a file, with the stamp that the file had. -/
structure Bytecode where
  stamp : Stamp
  code : List Step

/-- Code by the path where it is kept. -/
abbrev Bytecodes := List (String × Bytecode)

/-- A file that is read at a site to run it as a module. -/
structure Reading where
  site : Site
  file : String

namespace Reading

/-- What the file says. -/
def source
    (reading : Reading) : Except Thrown Program :=
  reading.site.program reading.file

/-- Where the code of the file is kept. -/
def path
    (reading : Reading) : String :=
  absoluteText reading.site.cwdText (codeText reading.file)

/-- The stamp of the file. -/
def stamp
    (reading : Reading) : Stamp :=
  reading.site.stamp reading.file

/-- The code that is kept for the file, if it has the stamp of the file. -/
def kept?
    (reading : Reading)
    (kept : Bytecodes) : Option (List Step) :=
  match kept.lookup reading.path with
  | some found => if found.stamp = reading.stamp then some found.code else none
  | none => none

/-- What is run for the file: the code that is kept for it, or else what it says. -/
def program
    (reading : Reading)
    (kept : Bytecodes) : Except Thrown Program :=
  match reading.source, reading.kept? kept with
  | .ok _, some code => .ok (.steps code)
  | source, _ => source

/-- What is kept after that: code that was compiled is kept in place of older one. -/
def keeping
    (reading : Reading)
    (kept : Bytecodes) : Bytecodes :=
  match reading.source, reading.kept? kept with
  | .ok (.steps code), none => Assoc.put kept reading.path ⟨reading.stamp, code⟩
  | _, _ => kept

end Reading

/-- What is run for files that are read one after the other, by an interpreter that may keep code or not. -/
def Bytecodes.programs
    (keeps : Bool)
    (kept : Bytecodes) : List Reading → List (Except Thrown Program)
  | [] => []
  | reading :: rest =>
    reading.program kept :: programs keeps (if keeps then reading.keeping kept else kept) rest

/-- The files that are read at a site to run them as modules, in the order of a journal. -/
def Site.readings
    (site : Site)
    (events : List Event) : List Reading :=
  events.filterMap fun event =>
    match event with
    | .bodyStarted _ file _ => some ⟨site, file⟩
    | _ => none

end ConfigTokens.Module
