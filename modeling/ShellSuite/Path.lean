import ShellSuite.Text.Pieces

set_option autoImplicit false
set_option relaxedAutoImplicit false

/-!
Paths as written: never normalised, compared and taken apart by their components.
-/

namespace ShellSuite

structure Path where
  text : String
  deriving DecidableEq, Repr, Inhabited

namespace Path

/-- A component of a path: the root, `.` in front, `..`, or a name. -/
inductive Component where
  | root
  | here
  | up
  | name (n : String)
  deriving DecidableEq, Repr

def Component.text : Component → String
  | .root => "/"
  | .here => "."
  | .up => ".."
  | .name n => n

def Component.rank : Component → Nat
  | .root => 0
  | .here => 1
  | .up => 2
  | .name _ => 3

/-- Components in order: the root, `.`, `..`, then names as texts. -/
def Component.less : Component → Component → Bool
  | .name a, .name b => a < b
  | a, b => a.rank < b.rank

def pieces (p : Path) : List String :=
  Text.split p.text '/'

/-- The component a piece behind the first slash stands for; empty pieces and `.` stand for none. -/
def innerComponent? (piece : String) : Option Component :=
  if piece = "" || piece = "." then none
  else if piece = ".." then some .up
  else some (.name piece)

/-- The component the first piece stands for: nothing in front of the first slash means the root. -/
def firstComponent? (more : Bool) (piece : String) : Option Component :=
  if piece = "" then if more then some .root else none
  else if piece = "." then some .here
  else innerComponent? piece

def components (p : Path) : List Component :=
  match p.pieces with
  | [] => []
  | first :: rest =>
    (firstComponent? (!rest.isEmpty) first).toList ++ rest.filterMap innerComponent?

def isAbsolute (p : Path) : Bool :=
  p.text.toList.head? == some '/'

def fileName (p : Path) : Option String :=
  match p.components.getLast? with
  | some (.name n) => some n
  | _ => none

/-- The part of a name after its last dot, unless that dot is the only one in front. -/
def extensionOf (name : String) : Option String :=
  match Text.cutLast '.' name.toList with
  | some (before, after) => if before.isEmpty then none else some (String.ofList after)
  | none => none

def extension (p : Path) : Option String :=
  p.fileName.bind extensionOf

def join (base next : Path) : Path :=
  if next.isAbsolute then next
  else if base.text = "" || base.text.toList.getLast? == some '/' then ⟨base.text ++ next.text⟩
  else ⟨base.text ++ "/" ++ next.text⟩

def child (base : Path) (name : String) : Path :=
  base.join ⟨name⟩

/-- The pieces up to the last one that stands for a component, in reverse, the first one kept. -/
def dropIdle : List String → List String
  | [] => []
  | [first] => [first]
  | last :: rest => if (innerComponent? last).isNone then dropIdle rest else last :: rest

def ofPieces : List String → Path
  | [""] => ⟨"/"⟩
  | ps => ⟨Text.join "/" ps⟩

/-- The path without its last component; the root and the empty path have none. -/
def parent (p : Path) : Option Path :=
  match dropIdle p.pieces.reverse with
  | [] => none
  | [first] => if first = "" then none else some ⟨""⟩
  | _ :: rest => some (ofPieces (dropIdle rest).reverse)

/-- The components left when those of `front` stand in front. -/
def componentsBelow? : List Component → List Component → Option (List Component)
  | [], cs => some cs
  | _ :: _, [] => none
  | f :: fs, c :: cs => if f = c then componentsBelow? fs cs else none

def below? (p base : Path) : Option (List Component) :=
  componentsBelow? base.components p.components

def componentsLess : List Component → List Component → Bool
  | _, [] => false
  | [], _ :: _ => true
  | a :: as, b :: bs => if a = b then componentsLess as bs else a.less b

def less (p q : Path) : Bool :=
  componentsLess p.components q.components

def same (p q : Path) : Bool :=
  p.components = q.components

end Path

end ShellSuite
