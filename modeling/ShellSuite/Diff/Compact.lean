import ShellSuite.Diff.Script

set_option autoImplicit false
set_option relaxedAutoImplicit false

/-!
Edits with their positions, and their compaction: each edit is shifted up and then down as far as
the lines allow, and meets others on its way. An edit that changes places with another one keeps the
positions it had.
-/

namespace ShellSuite.Diff

inductive Kind where
  | keep
  | delete
  | insert
  | replace
  deriving DecidableEq, Repr

structure Span where
  start : Nat
  count : Nat
  deriving DecidableEq, Repr

def Span.stop (s : Span) : Nat :=
  s.start + s.count

def Span.of {α : Type} (s : Span) (lines : List α) : List α :=
  (lines.drop s.start).take s.count

/-- A step of an edit script with the ranges of old and new lines it is about. -/
structure Edit where
  kind : Kind
  old : Span
  new : Span
  deriving DecidableEq, Repr

namespace Edit

def locate (x y : Nat) : List Step → List Edit
  | [] => []
  | .keep n :: rest => ⟨.keep, ⟨x, n⟩, ⟨y, n⟩⟩ :: locate (x + n) (y + n) rest
  | .delete n :: rest => ⟨.delete, ⟨x, n⟩, ⟨y, 0⟩⟩ :: locate (x + n) y rest
  | .insert n :: rest => ⟨.insert, ⟨x, 0⟩, ⟨y, n⟩⟩ :: locate x (y + n) rest

def back (e : Edit) (n : Nat) : Edit :=
  ⟨e.kind, ⟨e.old.start - n, e.old.count⟩, ⟨e.new.start - n, e.new.count⟩⟩

def on (e : Edit) (n : Nat) : Edit :=
  ⟨e.kind, ⟨e.old.start + n, e.old.count⟩, ⟨e.new.start + n, e.new.count⟩⟩

/-- The edit for more lines: those of both ranges if lines are kept, else those it changes. -/
def longer (e : Edit) (n : Nat) : Edit :=
  match e.kind with
  | .delete => ⟨e.kind, ⟨e.old.start, e.old.count + n⟩, e.new⟩
  | .insert => ⟨e.kind, e.old, ⟨e.new.start, e.new.count + n⟩⟩
  | _ => ⟨e.kind, ⟨e.old.start, e.old.count + n⟩, ⟨e.new.start, e.new.count + n⟩⟩

/-- Kept lines without the last ones. -/
def shorter (e : Edit) (n : Nat) : Edit :=
  ⟨e.kind, ⟨e.old.start, e.old.count - n⟩, ⟨e.new.start, e.new.count - n⟩⟩

def size (e : Edit) : Nat :=
  max e.old.count e.new.count

def isEmpty (e : Edit) : Bool :=
  e.old.count = 0 && e.new.count = 0

end Edit

/-- A place in a list of edits: those in front in reverse, one edit, and those behind. -/
structure Cursor where
  front : List Edit
  edit : Edit
  behind : List Edit

structure Lines where
  old : List String
  new : List String

/-- Puts kept lines in front of a list of edits, as part of the first one if that keeps lines
too. -/
def keepBefore (kept : Edit) (es : List Edit) : List Edit :=
  match es with
  | e :: rest =>
    if e.kind = .keep then (e.back kept.old.count).longer kept.old.count :: rest else kept :: es
  | [] => [kept]

/-- Puts kept lines behind a reversed list of edits, as part of the last one if that keeps lines
too. -/
def keepAfter (kept : Edit) (es : List Edit) : List Edit :=
  match es with
  | e :: rest => if e.kind = .keep then e.longer kept.old.count :: rest else kept :: es
  | [] => [kept]

/-- Edits without those that are about no lines at the front. -/
def unlessEmpty (e : Edit) (es : List Edit) : List Edit :=
  if e.isEmpty then es else e :: es

/-- One move up: none if there is no edit in front, or lines are kept there that cannot be
passed. -/
def Cursor.up? (ls : Lines) (c : Cursor) : Option Cursor :=
  match c.front with
  | [] => none
  | previous :: front =>
    if previous.kind = .keep then
      let n := sharedEnd (previous.old.of ls.old) (c.edit.new.of ls.new)
      if n = 0 then if previous.isEmpty then some ⟨front, c.edit, c.behind⟩ else none
      else
        let kept : Edit := ⟨.keep, ⟨previous.old.stop - n, n⟩, ⟨c.edit.new.stop - n, n⟩⟩
        some ⟨unlessEmpty (previous.shorter n) front, c.edit.back n, keepBefore kept c.behind⟩
    else if previous.kind = c.edit.kind then
      some ⟨front, previous.longer c.edit.size, c.behind⟩
    else some ⟨front, c.edit, previous :: c.behind⟩

def Cursor.down? (ls : Lines) (c : Cursor) : Option Cursor :=
  match c.behind with
  | [] => none
  | next :: behind =>
    if next.kind = .keep then
      let n := shared (next.old.of ls.old) (c.edit.new.of ls.new)
      if n = 0 then if next.isEmpty then some ⟨c.front, c.edit, behind⟩ else none
      else
        let kept : Edit := ⟨.keep, ⟨next.old.start, n⟩, ⟨c.edit.new.start, n⟩⟩
        some ⟨keepAfter kept c.front, c.edit.on n, unlessEmpty ((next.shorter n).on n) behind⟩
    else if next.kind = c.edit.kind then some ⟨c.front, c.edit.longer next.size, behind⟩
    else some ⟨next :: c.front, c.edit, behind⟩

def Cursor.moves (move : Cursor → Option Cursor) : Nat → Cursor → Cursor
  | 0, c => c
  | n + 1, c =>
    match move c with
    | some c => moves move n c
    | none => c

def Cursor.settle (ls : Lines) (c : Cursor) : Cursor :=
  let weight (es : List Edit) : Nat := es.foldr (fun e n => e.size + 2 + n) 0
  let n := weight c.front + weight c.behind + c.edit.size + 1
  (c.moves (Cursor.up? ls) n).moves (Cursor.down? ls) n

/-- Settles every edit of one kind, in at most so many steps. -/
def settleAll (ls : Lines) (kind : Kind) : Nat → List Edit → List Edit → List Edit
  | 0, front, behind => front.reverse ++ behind
  | _, front, [] => front.reverse
  | n + 1, front, e :: behind =>
    if e.kind = kind then
      let c := Cursor.settle ls ⟨front, e, behind⟩
      settleAll ls kind n (c.edit :: c.front) c.behind
    else settleAll ls kind n (e :: front) behind

def compact (ls : Lines) (es : List Edit) : List Edit :=
  let pass (kind : Kind) (es : List Edit) : List Edit :=
    settleAll ls kind ((es.length + 1) * (2 * es.length + 2)) [] es
  pass .insert (pass .delete es)

/-- Neighbours become one: kept lines, deletions, insertions, and a deletion with an insertion. The
first edit is `e`, made of what came before. -/
def mergeInto (e : Edit) : List Edit → List Edit
  | [] => [e]
  | next :: rest =>
    match e.kind, next.kind with
    | .keep, .keep => mergeInto (e.longer next.old.count) rest
    | .delete, .delete => mergeInto (e.longer next.old.count) rest
    | .insert, .insert => mergeInto (e.longer next.new.count) rest
    | .delete, .insert => mergeInto ⟨.replace, e.old, next.new⟩ rest
    | .insert, .delete => mergeInto ⟨.replace, next.old, e.new⟩ rest
    | .replace, .delete =>
      mergeInto ⟨.replace, ⟨e.old.start, e.old.count + next.old.count⟩, e.new⟩ rest
    | .replace, .insert =>
      mergeInto ⟨.replace, e.old, ⟨e.new.start, e.new.count + next.new.count⟩⟩ rest
    | _, _ => e :: mergeInto next rest

def merge : List Edit → List Edit
  | [] => []
  | e :: es => mergeInto e es

def edits (ls : Lines) : List Edit :=
  merge (compact ls (Edit.locate 0 0 (script ls.old ls.new)))

end ShellSuite.Diff
