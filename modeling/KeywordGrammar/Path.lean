/-
# Path names

A path is a text; slashes separate its components, and nothing is normalized when paths are joined.
The stem of a file name names the category of a flat list, so only the last extension is cut off: a
category may have points in its name.
-/

namespace KeywordGrammar.Path

/-! ## 1. Joining -/

/-- Whether the path starts at the root. -/
def isAbsolute (path : String) : Bool := path.toList.head? == some '/'

/-- The path of `file` seen from `directory`. -/
def join (directory file : String) : String :=
  if isAbsolute file || directory.isEmpty then file
  else if directory.toList.getLast? == some '/' then directory ++ file
  else directory ++ "/" ++ file

/-! ## 2. Components -/

/-- The components of a path; repeated and trailing slashes separate nothing. -/
def components (path : String) : List String :=
  ((path.toList.splitOn '/').filter (fun c => !c.isEmpty)).map String.ofList

/-- Whether the path ends with a slash. -/
def hasTrailingSlash (path : String) : Bool := path.toList.getLast? == some '/'

/-! ## 3. Stems -/

/-- A file name without its last extension; a point in front starts no extension. -/
def stemOfName (name : List Char) : List Char :=
  match name.reverse.dropWhile (· != '.') with
  | [] => name
  | [_] => name
  | _ :: stem => stem.reverse

/-- The stem of the last component that is not `.`; a path without a file name is its own stem. -/
def stem (path : String) : String :=
  match ((components path).filter (· ≠ ".")).getLast? with
  | some name => if name = ".." then path else String.ofList (stemOfName name.toList)
  | none => path

/-- Only the last extension is cut off, and none that is the whole name. -/
example : stem "d/keyword.control.txt/." = "keyword.control" ∧ stem ".hidden" = ".hidden" ∧
    stem "d/.." = "d/.." := by decide +kernel

end KeywordGrammar.Path
