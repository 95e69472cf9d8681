import Purse.Http.Percent

/-!
# Directories

Whether a file can be created at a path. Of the file system only what every system has is known: its usual
directories, its devices, and the directory the program runs in.
-/
namespace Purse.Directories

/-- A path as its parts, of which those that lead nowhere are left out. -/
def parts (path : List Char) : List String :=
  let parts := (Http.splitAt '/' path).map String.ofList
  let step (taken : List String) (part : String) : List String :=
    if part.isEmpty || part = "." then taken
    else if part = ".." && taken.any (· ≠ "..") then taken.drop 1
    else part :: taken
  (parts.foldl step []).reverse

/-- Whether a path starts at the root. -/
def isAbsolute (path : List Char) : Bool := path.head? = some '/'

/-- Directories that every system has. -/
def usual : List (List String) :=
  [[], ["bin"], ["boot"], ["dev"], ["dev", "shm"], ["etc"], ["home"], ["lib"], ["media"], ["mnt"], ["opt"],
    ["proc"], ["root"], ["run"], ["sbin"], ["srv"], ["sys"], ["tmp"], ["usr"], ["usr", "bin"],
    ["usr", "lib"], ["usr", "local"], ["usr", "share"], ["var"], ["var", "lib"], ["var", "log"],
    ["var", "tmp"]]

/-- Whether a path is known to be a directory. -/
def isDirectory (path : List Char) : Bool :=
  if isAbsolute path then usual.contains ((parts path).dropWhile (· = ".."))
  else (parts path).all (· = "..")

/-- Files that every system has, below which there is nothing. -/
def files : List (List String) :=
  [["dev", "null"], ["dev", "zero"], ["dev", "full"], ["dev", "random"], ["dev", "urandom"], ["dev", "tty"],
    ["etc", "passwd"], ["etc", "group"], ["etc", "hosts"], ["etc", "hostname"]]

/-- Whether a path is known to lead to something. -/
def isThere (path : List Char) : Bool :=
  isDirectory path || (isAbsolute path && files.contains ((parts path).dropWhile (· = "..")))

/-- Whether a path leads to a place that takes no new files. -/
def isClosed (path : List Char) : Bool :=
  let parts := (parts path).dropWhile (· = "..")
  isAbsolute path &&
    (parts.head? = some "proc" || parts.head? = some "sys" || files.any fun file => file.isPrefixOf parts)

/-- A path without its last part. -/
def parent (path : List Char) : List Char :=
  let kept := (path.reverse.dropWhile (· = '/')).dropWhile (· ≠ '/')
  kept.reverse

/-- Whether a file can be created at a path. -/
def takesFile (path : List Char) : Bool :=
  path.getLast? ≠ some '/' && !isDirectory path && !isClosed path

end Purse.Directories
