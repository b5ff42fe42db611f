/-! # Paths

A path is kept as the text it was given as, because messages show it so. Its components are read off
the text: empty ones and single dots count for nothing, except a dot that opens a relative path.
-/

namespace Phrasebook.Disk

/-- A path, as written. -/
structure Path where
  text : String
  deriving Repr, DecidableEq, Inhabited

inductive Component where
  | root
  | here
  | parent
  | name (text : List Char)
  deriving Repr, DecidableEq

namespace Path

/-- The pieces of a path between its slashes; a path without a slash is one piece. -/
def pieces (path : Path) : List (List Char) :=
  path.text.toList.splitOn '/'

def isAbsolute (path : Path) : Bool :=
  path.text.toList.head? == some '/'

/-- A piece behind the first as a component, if it counts. -/
def component? (piece : List Char) : Option Component :=
  if piece = [] ∨ piece = ['.'] then none
  else if piece = ['.', '.'] then some .parent
  else some (.name piece)

def components (path : Path) : List Component :=
  match path.pieces with
  | [] => []
  | first :: rest =>
      let start :=
        if path.isAbsolute then [.root]
        else if first = ['.'] then [.here]
        else (component? first).toList
      start ++ rest.filterMap component?

/-- The last component, when it is a name. -/
def fileName? (path : Path) : Option String :=
  match path.components.getLast? with
  | some (.name text) => some (String.ofList text)
  | _ => none

/-- A path with another below it. An absolute path stands for itself; otherwise one slash separates
    the two, unless the first is empty or ends in one. -/
def join (base below : Path) : Path :=
  if below.isAbsolute then below
  else if base.text = "" ∨ base.text.toList.getLast? = some '/' then ⟨base.text ++ below.text⟩
  else ⟨base.text ++ "/" ++ below.text⟩

/-- Drop, from the end of a reversed text, what counts for nothing: slashes, and dots that make up a
    whole component behind a slash. The first slash of a path stays. -/
def dropIdleEnd : List Char → List Char
  | ['/'] => ['/']
  | '/' :: rest => dropIdleEnd rest
  | '.' :: '/' :: rest => dropIdleEnd ('/' :: rest)
  | text => text

/-- The path without its last component, as the text before it without idle slashes and dots. The
    root and the empty path have no parent. -/
def parent? (path : Path) : Option Path :=
  match path.components.getLast? with
  | none | some .root => none
  | some _ =>
      let trimmed := dropIdleEnd path.text.toList.reverse
      some ⟨String.ofList (dropIdleEnd (trimmed.dropWhile (· != '/'))).reverse⟩

/-- The path with another name in place of its last component when that is a name, and below it
    otherwise. -/
def withFileName (path : Path) (name : String) : Path :=
  match path.fileName?, path.parent? with
  | some _, some parent => parent.join ⟨name⟩
  | _, _ => path.join ⟨name⟩

end Path
end Phrasebook.Disk
