import TaskLine.Text.Quoted

namespace TaskLine

def pathNames (path : String) : List (List Char) :=
  (path.toList.splitOn '/').filter fun name => name ≠ [] ∧ name ≠ ['.']

def normalPath (path : String) : String :=
  let root := match path.toList.takeWhile (· = '/') with
    | [] => ""
    | ['/', '/'] => "//"
    | _ => "/"
  let name := root ++ String.ofList (['/'].intercalate (pathNames path))
  if name.isEmpty then "." else name

inductive Unreadable where
  | missing
  | isFolder
  | throughFile
  | tooLong
  | holdsNull
deriving DecidableEq, Repr

def Unreadable.message (path : String) : Unreadable → String
  | missing => "[Errno 2] No such file or directory: " ++ Text.quote path
  | isFolder => "[Errno 21] Is a directory: " ++ Text.quote path
  | throughFile => "[Errno 20] Not a directory: " ++ Text.quote path
  | tooLong => "[Errno 36] File name too long: " ++ Text.quote path
  | holdsNull => "embedded null byte"

structure Folder where
  files : List (String × String)

namespace Folder

/-- Where a path has led so far. Of the folders around this one nothing is known but that they are
there. -/
inductive Position where
  | here
  | around
  | file (content : String)

def maxName : Nat := 255

def maxPath : Nat := 4095

def walk (folder : Folder) : Position → List String → Except Unreadable String
  | .file content, [] => .ok content
  | _, [] => .error .isFolder
  | .file _, _ :: _ => .error .throughFile
  | position, name :: names =>
    if name = ".." then folder.walk .around names
    else if name.utf8ByteSize > maxName then .error .tooLong
    else match position, folder.files.lookup name with
      | .here, some content => folder.walk (.file content) names
      | _, _ => .error .missing

def read (folder : Folder) (path : String) : Except Unreadable String :=
  if path.toList.contains '\x00' then .error .holdsNull
  else if path.utf8ByteSize > maxPath then .error .tooLong
  else
    folder.walk (if path.toList.head? = some '/' then .around else .here)
      ((pathNames path).map String.ofList)

end Folder

end TaskLine
