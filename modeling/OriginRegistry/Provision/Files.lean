import OriginRegistry.Database.Basic
import OriginRegistry.Text.Split

set_option autoImplicit false

namespace OriginRegistry

structure DatabaseFile where
  path : List String
  content : Database
  deriving Repr

/-- `current` is where paths begin that do not begin at the root. -/
structure Files where
  current : List String
  folders : List (List String)
  databases : List DatabaseFile
  deriving Repr

namespace Files

def step (path : List String) (name : String) : List String :=
  if name = "" ∨ name = "." then path
  else if name = ".." then path.dropLast
  else path ++ [name]

def resolve (current : List String) (text : String) : List String :=
  let names := (Text.splitOn '/' text.toList).map String.ofList
  names.foldl step (if text.toList.head? = some '/' then [] else current)

def isFolder (f : Files) (path : List String) : Bool := path.isEmpty || f.folders.contains path

def find? (f : Files) (path : List String) : Option Database :=
  (f.databases.find? fun file => file.path = path).map DatabaseFile.content

def save (f : Files) (path : List String) (content : Database) : Files :=
  if f.databases.any fun file => file.path = path then
    { f with databases := f.databases.map fun file => if file.path = path then ⟨path, content⟩ else file }
  else { f with databases := f.databases ++ [⟨path, content⟩] }

def names (f : Files) : List String :=
  f.databases.filterMap fun file => if file.path.dropLast = f.current then file.path.getLast? else none

end Files

end OriginRegistry
