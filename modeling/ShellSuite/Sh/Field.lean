import ShellSuite.Files.Lookup
import ShellSuite.Sh.Pattern

set_option autoImplicit false
set_option relaxedAutoImplicit false

/-!
Fields: what the expanded parts of a word fall into, and the paths they stand for.
-/

namespace ShellSuite.Sh

/-- A piece of an expanded word: text, which may be quoted and may be split, the border between two
arguments, or nothing at all in quotes. -/
inductive Fragment where
  | text (cs : List Char) (quoted split : Bool)
  | border
  | nothing

def Fragment.glyphs : List Fragment → List Glyph
  | [] => []
  | .text cs quoted _ :: fs => cs.map (⟨·, quoted⟩) ++ glyphs fs
  | .border :: fs => ⟨' ', true⟩ :: glyphs fs
  | .nothing :: fs => glyphs fs

def textOf (gs : List Glyph) : String :=
  String.ofList (gs.map (·.char))

/-- Fields while they are cut: those that are done, in reverse, and the open one, in reverse. -/
structure Cutting where
  done : List (List Glyph)
  current : Option (List Glyph)

namespace Cutting

def close (c : Cutting) : Cutting :=
  match c.current with
  | some gs => ⟨gs.reverse :: c.done, none⟩
  | none => c

def push (c : Cutting) (g : Glyph) : Cutting :=
  { c with current := some (g :: c.current.getD []) }

def pushSplit (separators : List Char) (c : Cutting) (x : Char) : Cutting :=
  if separators.contains x then
    if x = ' ' || x = '\t' || x = '\n' then c.close
    else Cutting.close { c with current := some (c.current.getD []) }
  else c.push ⟨x, false⟩

def add (separators : List Char) (c : Cutting) : Fragment → Cutting
  | .text cs quoted split =>
    if split then cs.foldl (pushSplit separators) c
    else
      let c := if quoted then { c with current := some (c.current.getD []) } else c
      cs.foldl (fun c x => c.push ⟨x, quoted⟩) c
  | .border => c.close
  | .nothing => if c.current = some [] then { c with current := none } else c

end Cutting

def fieldsOf (separators : List Char) (fs : List Fragment) : List (List Glyph) :=
  (fs.foldl (Cutting.add separators) ⟨[], none⟩).close.done.reverse

def segments (acc : List Glyph) : List Glyph → List (List Glyph)
  | [] => [acc.reverse]
  | g :: gs => if g.char = '/' then acc.reverse :: segments [] gs else segments (g :: acc) gs

def pathsBelow (fs : FileSystem) (cwd : Path) : List (List Glyph) → String → List String
  | [], front => [front]
  | seg :: segs, front =>
    let extend (name : String) : String := front ++ name ++ if segs.isEmpty then "" else "/"
    let p := Pattern.ofGlyphs seg
    if p.isProper then
      let dir := if front = "" then cwd else cwd.child front
      let hidden := seg.head?.any (·.char = '.')
      let entries := ((fs.list dir).toOption.getD []).map (·.1)
      let names := if hidden then "." :: ".." :: entries else entries
      let names := names.filter fun n =>
        (hidden || n.toList.head? ≠ some '.') && p.fits n.toList
      names.flatMap fun n => pathsBelow fs cwd segs (extend n)
    else
      let next := extend (textOf seg)
      let found := !segs.isEmpty || next = "" || fs.pathExists (cwd.child next)
      if found then pathsBelow fs cwd segs next else []

/-- The words a field stands for: the paths that fit it, or itself. -/
def wordsOf (fs : FileSystem) (cwd : Path) (field : List Glyph) : List String :=
  if (Pattern.ofGlyphs field).isProper then
    match pathsBelow fs cwd (segments [] field) "" with
    | [] => [textOf field]
    | paths => paths
  else [textOf field]

end ShellSuite.Sh
