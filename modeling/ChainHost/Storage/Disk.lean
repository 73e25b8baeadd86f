import ChainHost.Storage.Path

namespace ChainHost

-- Why a file cannot be read or a directory not be made.
inductive StorageError where
  | notFound
  | alreadyExists
  | notDirectory
  | isDirectory
  | nameTooLong
  | nulInName
  | notUtf8
  | other (message : String)
  deriving DecidableEq, Repr

def StorageError.message : StorageError → String
  | notFound => "No such file or directory (os error 2)"
  | alreadyExists => "File exists (os error 17)"
  | notDirectory => "Not a directory (os error 20)"
  | isDirectory => "Is a directory (os error 21)"
  | nameTooLong => "File name too long (os error 36)"
  | nulInName => "file name contained an unexpected NUL byte"
  | notUtf8 => "stream did not contain valid UTF-8"
  | other message => message

-- A file with its bytes, or a directory with its entries.
inductive Disk where
  | file (content : List UInt8)
  | directory (entries : List (String × Disk))
  deriving Inhabited

namespace Disk

-- The greatest size of a path, and of a name in it, in bytes.
def maxPath : Nat := 4095

def maxName : Nat := 255

def child? (name : String) : List (String × Disk) → Option Disk
  | [] => none
  | (n, d) :: rest => if n = name then some d else child? name rest

-- Puts an entry in the place of one of the same name.
def putEntry (name : String) (d : Disk) : List (String × Disk) → List (String × Disk)
  | [] => [(name, d)]
  | (n, e) :: rest => if n = name then (n, d) :: rest else (n, e) :: putEntry name d rest

-- What stands at the end of a way of names.
def at? : Disk → List String → Option Disk
  | d, [] => some d
  | file _, _ :: _ => none
  | directory entries, name :: way => (child? name entries).bind fun d => d.at? way

-- Puts `new` at the end of a way of names; a directory on the way that is not there is made.
def putAt : Disk → List String → Disk → Disk
  | _, [], new => new
  | file content, _ :: _, _ => file content
  | directory entries, name :: way, new =>
    let below := (child? name entries).getD (directory [])
    directory (putEntry name (below.putAt way new) entries)

-- Follows names from a way of directories on, and gives the way to where they lead. A last name
-- that is not there is an error, too.
def follow (root : Disk) : List String → List String → Except StorageError (List String)
  | way, [] => .ok way
  | way, name :: names =>
    match root.at? way with
    | none => .error .notFound
    | some (file _) => .error .notDirectory
    | some (directory entries) =>
      if name = "" ∨ name = "." then follow root way names
      else if name = ".." then follow root way.dropLast names
      else if name.utf8ByteSize > maxName then .error .nameTooLong
      else match child? name entries with
        | none => .error .notFound
        | some _ => follow root (way ++ [name]) names

-- The names of a path from the root on. A path that is not absolute starts in `home`.
def names (home path : String) : List String :=
  (Path.segments (if Path.isAbsolute path then path else home ++ "/" ++ path).toList).map
    String.ofList

-- Refuses what cannot be a path at all.
def checkPath (path : String) : Except StorageError Unit :=
  if '\x00' ∈ path.toList then .error .nulInName
  else if path = "" then .error .notFound
  else if path.utf8ByteSize > maxPath then .error .nameTooLong
  else .ok ()

-- The way to what a path leads to.
def locate (root : Disk) (home path : String) : Except StorageError (List String) := do
  checkPath path
  root.follow [] (names home path)

-- Reads a file as text.
def read (root : Disk) (home path : String) : Except StorageError String := do
  match root.at? (← root.locate home path) with
  | some (file content) =>
    match String.fromUTF8? ⟨content.toArray⟩ with
    | some text => return text
    | none => throw .notUtf8
  | some (directory _) => throw .isDirectory
  | none => throw .notFound

-- Makes one directory in one that is there.
def makeDirectory (root : Disk) (home path : String) : Except StorageError Disk := do
  checkPath path
  let names := (names home path).reverse.dropWhile String.isEmpty
  match names with
  | [] => throw .alreadyExists
  | last :: before =>
    let way ← root.follow [] before.reverse
    match root.at? way with
    | some (directory entries) =>
      if last = "." ∨ last = ".." then throw .alreadyExists
      else if last.utf8ByteSize > maxName then throw .nameTooLong
      else if (child? last entries).isSome then throw .alreadyExists
      else return root.putAt (way ++ [last]) (directory [])
    | some (file _) => throw .notDirectory
    | none => throw .notFound

-- Whether a path leads to a directory.
def isDirectory (root : Disk) (home path : String) : Bool :=
  match (root.locate home path).toOption.bind root.at? with
  | some (directory _) => true
  | _ => false

-- Makes a directory and those before it that are not there. What has been made stays where a later
-- one cannot be.
def makeDirectories (root : Disk) (home path : String) : Except StorageError Unit × Disk :=
  go path.length root path
where
  go : Nat → Disk → String → Except StorageError Unit × Disk
    | fuel, root, path =>
      match root.makeDirectory home path with
      | .ok root => (.ok (), root)
      | .error .notFound =>
        match fuel, Path.parent? path with
        | fuel + 1, some parent =>
          match go fuel root parent with
          | (.ok (), root) => finish root path
          | failed => failed
        | _, _ => (.error .notFound, root)
      | .error e => (unlessDirectory root path e, root)
  finish (root : Disk) (path : String) : Except StorageError Unit × Disk :=
    match root.makeDirectory home path with
    | .ok root => (.ok (), root)
    | .error e => (unlessDirectory root path e, root)
  unlessDirectory (root : Disk) (path : String) (e : StorageError) : Except StorageError Unit :=
    if root.isDirectory home path then .ok () else .error e

-- Writes text at the end of a file of a directory, which is made if it is not there. Where no file
-- can be, nothing is written.
def append (root : Disk) (home directory name text : String) : Disk :=
  match root.locate home directory with
  | .error _ => root
  | .ok way =>
    let way := way ++ [name]
    match root.at? way with
    | some (file content) => root.putAt way (file (content ++ text.toUTF8.toList))
    | some (.directory _) => root
    | none => root.putAt way (file text.toUTF8.toList)

end Disk
end ChainHost
