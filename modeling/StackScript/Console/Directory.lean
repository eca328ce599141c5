import StackScript.Text.Utf8

set_option autoImplicit false

namespace StackScript.Console

structure File where
  route : List Text
  content : Bytes
deriving DecidableEq, Repr

structure Directory where
  files : List File
deriving DecidableEq, Repr

def isHere (name : Text) : Bool :=
  name.isEmpty || name == ['.']

def File.at (path : Text) (content : Bytes) : File :=
  { route := (path.splitOn '/').filter fun name => !isHere name, content := content }

namespace Directory

def contains (directory : Directory) (route : List Text) : Bool :=
  directory.files.any fun file => route.isPrefixOf file.route && route != file.route

def follow? (directory : Directory) : (here : List Text) → List Text → Option Bytes
  | _, [] => none
  | here, [name] =>
    (directory.files.find? fun file => file.route == here ++ [name]).map (·.content)
  | here, name :: rest =>
    if isHere name then directory.follow? here rest
    else if name == ['.', '.'] then
      if here.isEmpty then none else directory.follow? here.dropLast rest
    else if directory.contains (here ++ [name]) then directory.follow? (here ++ [name]) rest
    else none

def read? (directory : Directory) (path : Text) : Option Bytes :=
  if path.head? == some '/' then none else directory.follow? [] (path.splitOn '/')

end Directory

def withEnding? (ending : Text) (path : Text) : Option Text :=
  match (path.splitOn '/').reverse.dropWhile isHere with
  | [] => none
  | name :: above =>
    if name == ['.', '.'] then none
    else some (['/'].intercalate (((name ++ ending) :: above).reverse))

end StackScript.Console
