import OriginRegistry.Provision.Command

set_option autoImplicit false

namespace OriginRegistry.Provision

def pathText (path : List String) : String := String.join (path.map fun name => "/" ++ name)

def look (current : List String) (path : List String) : IO Files := do
  let here ← IO.currentDir
  let isFolder (path : List String) : IO Bool := (here / ("/" ++ pathText path)).isDir
  let folders ← [path, path.dropLast].filterM isFolder
  let found ← (here / pathText path).pathExists
  return ⟨current, folders, if found then [⟨path, .empty⟩] else []⟩

def saveNew (before after : Files) : IO Unit := do
  for file in after.databases do
    if (before.find? file.path).isNone then
      IO.FS.writeFile (pathText file.path) ""

end OriginRegistry.Provision

open OriginRegistry in
def main : IO UInt32 := do
  let values ← Provision.keys.mapM fun key => return (key, ← IO.getEnv key)
  let lookup (key : String) : Option String := (values.lookup key).join
  let current := (← IO.currentDir).components.filter fun name => name ≠ ""
  let files ←
    match Provision.path? lookup current with
    | some path => Provision.look current path
    | none => pure ⟨current, [], []⟩
  let outcome := Provision.run lookup files
  for text in outcome.lines do
    IO.eprintln text
  Provision.saveNew files outcome.files
  return UInt32.ofNat outcome.exitCode
