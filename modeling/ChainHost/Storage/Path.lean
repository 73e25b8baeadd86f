namespace ChainHost.Path

def isAbsolute (path : String) : Bool :=
  path.toList.head? == some '/'

-- The parts of a path between its slashes, empty ones included.
def segments : List Char → List (List Char)
  | [] => [[]]
  | c :: cs =>
    if c = '/' then [] :: segments cs
    else match segments cs with
      | s :: rest => (c :: s) :: rest
      | [] => [[c]]

-- The parts of a path that lead somewhere. A dot at the start of a relative path is kept.
def components (path : String) : List (List Char) :=
  let parts := segments path.toList
  let leads (s : List Char) : Bool := !s.isEmpty && s != ['.']
  match parts with
  | s :: rest => if s = ['.'] then s :: rest.filter leads else (s :: rest).filter leads
  | [] => []

-- Whether two paths are the same way through the tree.
def same (p q : String) : Bool :=
  isAbsolute p == isAbsolute q && components p == components q

-- The path from `base` on; an absolute path stands for itself.
def join (base path : String) : String :=
  if isAbsolute path then path
  else if base.toList.getLast?.any (· != '/') then base ++ "/" ++ path
  else base ++ path

-- Drops what leads nowhere from the end of a path's parts, which are in reverse. The last part is
-- the start of the path, where a dot counts.
def dropIdle (absolute : Bool) : List (List Char) → List (List Char)
  | [] => []
  | [s] => if s.isEmpty || (absolute && s == ['.']) then [] else [s]
  | s :: rest => if s.isEmpty || s == ['.'] then dropIdle absolute rest else s :: rest

-- The path without its last component, if it has one.
def parent? (path : String) : Option String :=
  let absolute := isAbsolute path
  let parts := segments path.toList
  let body := if absolute then parts.drop 1 else parts
  match dropIdle absolute body.reverse with
  | [] => none
  | _ :: rest =>
    let text := String.intercalate "/" ((dropIdle absolute rest).reverse.map String.ofList)
    some (if absolute then "/" ++ text else text)

theorem join_of_isAbsolute {path : String} (h : isAbsolute path = true) (base : String) :
    join base path = path := by
  simp [join, h]

end ChainHost.Path
