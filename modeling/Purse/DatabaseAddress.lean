import Purse.Directories
import Purse.FileAddress
import Purse.Http.Query

/-!
# Addresses of databases

The address of a database is a name, perhaps behind the name of its kind, and options behind a question
mark. The name is a path or itself the address of a file, which may have options of its own. A database
lives in memory or in a file. It can be opened if every option is known and has one of its values, if it may
be written, because its tables have to be created, and if its file can be created.
-/
namespace Purse

structure DatabaseAddress where
  name : List Char
  options : List (Option String × Option String)
  deriving DecidableEq, Repr

/-- Takes a nonempty word off the front of a text as often as it stands there. -/
def trimStart (word : List Char) : Nat → List Char → List Char
  | 0, cs => cs
  | steps + 1, cs =>
    if word.isPrefixOf cs then trimStart word steps (cs.drop word.length) else cs

namespace DatabaseAddress

/-- The name of the kind of database, and the longer form that also stands in front of a path. -/
def kind : List Char := "sqlite:".toList
def longKind : List Char := "sqlite://".toList

def ofText (url : String) : DatabaseAddress :=
  let cs := url.toList
  let cs := trimStart kind cs.length (trimStart longKind cs.length cs)
  ⟨cs.takeWhile (· ≠ '?'), Http.formFields ((cs.dropWhile (· ≠ '?')).drop 1)⟩

def memoryName : String := ":memory:"

/-- Ways to reach files. The last one keeps them in memory. -/
def methods : List String := ["unix", "unix-none", "unix-dotfile", "unix-excl", "memdb"]

/-- Whether an option is known and has one of its values. Of the ways to reach files only the last one
given has to be known. -/
def isKnown : Option String × Option String → Bool
  | (some name, some value) =>
    if name = "mode" then ["ro", "rw", "rwc", "memory"].contains value
    else if name = "cache" then ["private", "shared"].contains value
    else if name = "immutable" then ["true", "1", "false", "0"].contains value
    else name = "vfs"
  | (some name, none) => name = "vfs"
  | _ => false

/-- The values given for an option. -/
def given (a : DatabaseAddress) (name : String) : List String :=
  (a.options.filter (·.1 = some name)).map fun option => option.2.getD ""

def lastGiven? (a : DatabaseAddress) (name : String) : Option String := (a.given name).getLast?

/-- Whether the database must not change once it is there. -/
def isImmutable (a : DatabaseAddress) : Bool :=
  (a.lastGiven? "immutable").any fun value => value = "true" || value = "1"

end DatabaseAddress

/-- What may be done with a database: whether it may be written, whether its file may be created, and
whether it is kept in memory instead. -/
structure Access where
  isWritable : Bool
  isCreatable : Bool
  isInMemory : Bool
  deriving DecidableEq, Repr

namespace Access

/-- The access that an option in the address of a file asks for. -/
def ofName? : String → Option Access
  | "ro" => some ⟨false, false, false⟩
  | "rw" => some ⟨true, false, false⟩
  | "rwc" => some ⟨true, true, false⟩
  | "memory" => some ⟨true, true, true⟩
  | _ => none

/-- Whether one access may be narrowed to another. Nothing in memory has to be protected. -/
def allows (a b : Access) : Bool :=
  a.isInMemory || b.isInMemory || ((a.isWritable || !b.isWritable) && (a.isCreatable || !b.isCreatable))

/-- The access after an option in the address of a file, if the option has one of its values. -/
def narrow? (a : Access) : String × String → Option Access
  | ("mode", value) => (ofName? value).filter a.allows
  | ("cache", value) => if ["private", "shared"].contains value then some a else none
  | _ => some a

end Access

namespace DatabaseAddress

/-- The access that the options of a database give. -/
def access (a : DatabaseAddress) : Access :=
  let isWritable := !(a.given "mode").contains "ro"
  ⟨isWritable, isWritable, String.ofList a.name = memoryName || (a.given "mode").contains "memory"⟩

/-- The file that a name stands for. With options that concern the file itself the name is a path;
otherwise it can be an address. -/
def file? (a : DatabaseAddress) (name : String) : Option FileAddress :=
  let cs := name.toList
  let options := (if a.isImmutable then [("immutable", "true")] else []) ++
    (a.lastGiven? "vfs").toList.map fun method => ("vfs", method)
  if !options.isEmpty then some ⟨cs.takeWhile (· ≠ '\x00'), options⟩
  else if cs.contains '\x00' then none
  else if FileAddress.scheme.isPrefixOf cs then FileAddress.ofChars? (cs.drop FileAddress.scheme.length)
  else some ⟨cs, []⟩

/-- Whether a database can be opened in a file. `made?` is the directory that has been made for it. A file
without a name is a place of its own. A file that is created can take its permissions from another one,
which has to be there. -/
def opensIn (access : Access) (made? : Option (List Char)) (file : FileAddress) : Bool :=
  let method := (file.given "vfs").getLastD "unix"
  methods.contains method && access.isWritable &&
    (access.isInMemory || file.path.isEmpty || String.ofList file.path = memoryName ||
      (!(file.given "immutable").head?.any FileAddress.isOn &&
        (method = "memdb" ||
          (access.isCreatable && Directories.takesFile file.path &&
            (file.given "modeof").head?.all (fun pattern => Directories.isThere pattern.toList) &&
            (made? = some (Directories.parent file.path) ||
              Directories.isDirectory (Directories.parent file.path))))))

/-- The path whose directory is made before a database is opened: it stands behind the long form of the
kind. -/
def madeFor? (url : String) : Option (List Char) :=
  let cs := url.toList
  if longKind.isPrefixOf cs then some ((cs.drop longKind.length).takeWhile (· ≠ '?')) else none

/-- Whether the directory of a path can be made, if it is not there. -/
def isMakeable (path : List Char) : Bool :=
  String.ofList path = memoryName || !Directories.isClosed (Directories.parent path) ||
    Directories.isDirectory (Directories.parent path)

def opens (url : String) : Bool :=
  let a := ofText url
  let path? := madeFor? url
  path?.all isMakeable && a.options.all isKnown &&
    ((Http.percentDecode? a.name).bind fun name => do
      let file ← a.file? name
      let access ← file.options.foldlM Access.narrow? a.access
      some (opensIn access (path?.map Directories.parent) file)).getD false

end DatabaseAddress
end Purse
