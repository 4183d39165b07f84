import ShellSuite.RunLine.Error
import ShellSuite.Substitutions
import ShellSuite.Text.Blank

set_option autoImplicit false
set_option relaxedAutoImplicit false

/-!
The tokens of a RUN line. Quotes, backslashes and operators are read from the line alone; what a
substitution or a variable puts in can become words or parts of words and nothing else. A line is
read in steps: each looks at the next characters, and no step leaves more of the line than it found.
-/

namespace ShellSuite.RunLine

inductive RedirectOp where
  | write
  | append
  | read
  | duplicate
  | writeBoth
  deriving DecidableEq, Repr

inductive Token where
  | word (text : String)
  | pipe
  | or
  | and
  | semi
  | redirect (fd : Nat) (op : RedirectOp)
  deriving DecidableEq, Repr

def isNameStart (c : Char) : Bool :=
  c.isAlpha || c == '_'

def isNameChar (c : Char) : Bool :=
  c.isAlphanum || c == '_'

/-- Whether characters form a variable name: ASCII letters, digits and `_`, no digit in front. -/
def isNameChars : List Char → Bool
  | [] => false
  | c :: cs => isNameStart c && cs.all isNameChar

def isName (s : String) : Bool :=
  isNameChars s.toList

inductive Quoting where
  | bare
  | single
  | double
  deriving DecidableEq, Repr

/-- The word being read: its characters in reverse, whether it has started, and whether all of it
is unquoted text of the line itself. -/
structure Pending where
  chars : List Char
  started : Bool
  plain : Bool
  deriving DecidableEq, Repr

namespace Pending

def fresh : Pending := ⟨[], false, true⟩

def text (p : Pending) : String :=
  String.ofList p.chars.reverse

def tokens (p : Pending) : List Token :=
  if p.started then [.word p.text] else []

def push (p : Pending) (c : Char) : Pending :=
  ⟨c :: p.chars, true, p.plain⟩

def pushQuoted (p : Pending) (c : Char) : Pending :=
  ⟨c :: p.chars, true, false⟩

def openQuote (p : Pending) : Pending :=
  ⟨p.chars, true, false⟩

def pasteQuoted (p : Pending) (cs : List Char) : Pending :=
  ⟨cs.reverse ++ p.chars, p.started, false⟩

/-- The words and the open word after text is put in outside of quotes: blanks end words. -/
def paste (p : Pending) : List Char → List Token × Pending
  | [] => ([], { p with plain := false })
  | c :: cs =>
    if Text.isBlank c then
      let (ts, q) := paste ⟨[], false, false⟩ cs
      (p.tokens ++ ts, q)
    else paste ⟨c :: p.chars, true, false⟩ cs

def isDescriptor (p : Pending) : Bool :=
  p.started && p.plain && !p.chars.isEmpty && p.chars.all Char.isDigit

end Pending

def maxDescriptor : Nat := Nat.pow 2 32 - 1

def digitsValue (digits : List Char) : Nat :=
  digits.foldl (fun n d => 10 * n + (d.toNat - '0'.toNat)) 0

def takeDescriptor (p : Pending) : Except SyntaxError (Option Nat × List Token) :=
  if p.isDescriptor then
    let fd := digitsValue p.chars.reverse
    if fd ≤ maxDescriptor then .ok (some fd, [])
    else .error (.badDescriptor p.text)
  else .ok (none, p.tokens)

/-- The variable written at a place as a name in braces behind a dollar sign, and what follows. -/
def variableAt : Char → List Char → Except SyntaxError (Option (String × List Char))
  | '$', '\x7b' :: after =>
    match after.dropWhile (· ≠ '\x7d') with
    | [] => .error .openVariable
    | _ :: rest =>
      let name := after.takeWhile (· ≠ '\x7d')
      if isNameChars name then .ok (some (String.ofList name, rest))
      else .error (.badVariable (String.ofList name))
  | _, _ => .ok none

/-- What stands at a place where a substitution or a variable may be written: its text, and what
follows it. -/
def expansionAt (t : Substitutions) (env : Dict String) (c : Char) (cs : List Char) :
    Except SyntaxError (Option (List Char × List Char)) :=
  match t.matchAt (c :: cs) with
  | some (key, value) => .ok (some (value.toList, cs.drop (key.length - 1)))
  | none =>
    match variableAt c cs with
    | .error e => .error e
    | .ok none => .ok none
    | .ok (some (name, rest)) => .ok (some (((env.get? name).getD "").toList, rest))

def isSeparator (c : Char) : Bool :=
  c == ' ' || c == '\t' || c == '\n' || c == '\r'

def operatorAt : Char → List Char → Except SyntaxError (Token × List Char)
  | '|', '|' :: cs => .ok (.or, cs)
  | '|', cs => .ok (.pipe, cs)
  | ';', cs => .ok (.semi, cs)
  | _, '&' :: cs => .ok (.and, cs)
  | _, '>' :: cs => .ok (.redirect 1 .writeBoth, cs)
  | _, _ => .error .backgroundJob

def redirectAt : Char → List Char → Except SyntaxError (RedirectOp × List Char)
  | '<', '&' :: _ => .error .inputDuplicate
  | '<', cs => .ok (.read, cs)
  | _, '>' :: cs => .ok (.append, cs)
  | _, '&' :: cs => .ok (.duplicate, cs)
  | _, cs => .ok (.write, cs)

def RedirectOp.defaultDescriptor : RedirectOp → Nat
  | .read => 0
  | _ => 1

/-- Where a step through a line leads: the tokens that end with it, the quotes and the word that are
open behind it, and what is left of the line. -/
structure Move where
  ended : List Token
  quoting : Quoting
  pending : Pending
  rest : List Char

def stepSingle (p : Pending) (c : Char) (cs : List Char) : Move :=
  if c == '\'' then ⟨[], .bare, p, cs⟩ else ⟨[], .single, p.pushQuoted c, cs⟩

/-- The word with an escaped character of double quotes added: the backslash stays, unless the
character means something there. -/
def Pending.pushEscaped (p : Pending) (e : Char) : Pending :=
  if e == '"' || e == '\\' || e == '$' || e == '`' then p.pushQuoted e
  else (p.pushQuoted '\\').pushQuoted e

def stepDouble (t : Substitutions) (env : Dict String) (p : Pending) (c : Char) (cs : List Char) :
    Except SyntaxError Move :=
  if c == '"' then .ok ⟨[], .bare, p, cs⟩
  else if c == '\\' then
    match cs with
    | [] => .error .openDoubleQuote
    | e :: rest => .ok ⟨[], .double, p.pushEscaped e, rest⟩
  else
    match expansionAt t env c cs with
    | .error e => .error e
    | .ok (some (text, rest)) => .ok ⟨[], .double, p.pasteQuoted text, rest⟩
    | .ok none => .ok ⟨[], .double, p.pushQuoted c, cs⟩

/-- A step through text outside of quotes that is no blank, quote, backslash or operator. -/
def stepText (t : Substitutions) (env : Dict String) (p : Pending) (c : Char) (cs : List Char) :
    Except SyntaxError Move :=
  match expansionAt t env c cs with
  | .error e => .error e
  | .ok (some (text, rest)) => .ok ⟨(p.paste text).1, .bare, (p.paste text).2, rest⟩
  | .ok none => .ok ⟨[], .bare, p.push c, cs⟩

def stepBare (t : Substitutions) (env : Dict String) (p : Pending) (c : Char) (cs : List Char) :
    Except SyntaxError Move :=
  if isSeparator c then .ok ⟨p.tokens, .bare, .fresh, cs⟩
  else if c == '\'' then .ok ⟨[], .single, p.openQuote, cs⟩
  else if c == '"' then .ok ⟨[], .double, p.openQuote, cs⟩
  else if c == '\\' then
    match cs with
    | [] => .error .trailingBackslash
    | e :: rest => .ok ⟨[], .bare, p.pushQuoted e, rest⟩
  else if c == '|' || c == ';' || c == '&' then do
    let (token, rest) ← operatorAt c cs
    return ⟨p.tokens ++ [token], .bare, .fresh, rest⟩
  else if c == '<' || c == '>' then do
    let (fd, ended) ← takeDescriptor p
    let (op, rest) ← redirectAt c cs
    return ⟨ended ++ [.redirect (fd.getD op.defaultDescriptor) op], .bare, .fresh, rest⟩
  else stepText t env p c cs

def step (t : Substitutions) (env : Dict String) (quoting : Quoting) (p : Pending) (c : Char)
    (cs : List Char) : Except SyntaxError Move :=
  match quoting with
  | .single => .ok (stepSingle p c cs)
  | .double => stepDouble t env p c cs
  | .bare => stepBare t env p c cs

def finish : Quoting → Pending → Except SyntaxError (List Token)
  | .single, _ => .error .openSingleQuote
  | .double, _ => .error .openDoubleQuote
  | .bare, p => .ok p.tokens

private theorem variableAt_length {c : Char} {cs : List Char} {name : String} {rest : List Char}
    (h : variableAt c cs = .ok (some (name, rest))) : rest.length ≤ cs.length := by
  unfold variableAt at h
  split at h
  · rename_i after
    split at h
    · simp at h
    · rename_i brace tail found
      have hlen := (List.dropWhile_sublist (l := after) (· ≠ '\x7d')).length_le
      rw [found] at hlen
      dsimp only at h
      split at h
      · obtain ⟨-, rfl⟩ : _ ∧ tail = rest := by simpa using h
        simp only [List.length_cons] at hlen ⊢
        omega
      · simp at h
  · simp at h

private theorem expansionAt_length {t : Substitutions} {env : Dict String} {c : Char}
    {cs text rest : List Char} (h : expansionAt t env c cs = .ok (some (text, rest))) :
    rest.length ≤ cs.length := by
  unfold expansionAt at h
  split at h
  · obtain ⟨-, rfl⟩ : _ ∧ cs.drop _ = rest := by simpa using h
    simp
  · split at h
    · simp at h
    · simp at h
    · rename_i found
      obtain ⟨-, rfl⟩ : _ ∧ _ = rest := by simpa using h
      exact variableAt_length found

private theorem operatorAt_length {c : Char} {cs rest : List Char} {token : Token}
    (h : operatorAt c cs = .ok (token, rest)) : rest.length ≤ cs.length := by
  unfold operatorAt at h
  split at h <;> simp at h <;> simp [← h.2]

private theorem redirectAt_length {c : Char} {cs rest : List Char} {op : RedirectOp}
    (h : redirectAt c cs = .ok (op, rest)) : rest.length ≤ cs.length := by
  unfold redirectAt at h
  split at h <;> simp at h <;> simp [← h.2]

private theorem stepDouble_length {t : Substitutions} {env : Dict String} {p : Pending} {c : Char}
    {cs : List Char} {m : Move} (h : stepDouble t env p c cs = .ok m) :
    m.rest.length ≤ cs.length := by
  unfold stepDouble at h
  split at h
  · simp [← Except.ok.inj h]
  · split at h
    · split at h
      · simp at h
      · simp [← Except.ok.inj h]
    · split at h
      · simp at h
      · rename_i found
        simp only [← Except.ok.inj h]
        exact expansionAt_length found
      · simp [← Except.ok.inj h]

private theorem stepBare_length {t : Substitutions} {env : Dict String} {p : Pending} {c : Char}
    {cs : List Char} {m : Move} (h : stepBare t env p c cs = .ok m) :
    m.rest.length ≤ cs.length := by
  unfold stepBare at h
  split at h
  · simp [← Except.ok.inj h]
  split at h
  · simp [← Except.ok.inj h]
  split at h
  · simp [← Except.ok.inj h]
  split at h
  · split at h
    · simp at h
    · simp [← Except.ok.inj h]
  split at h
  · cases found : operatorAt c cs with
    | error e => simp [found, bind, Except.bind] at h
    | ok r =>
      simp only [found, bind, Except.bind, pure, Except.pure] at h
      simp only [← Except.ok.inj h]
      exact operatorAt_length found
  split at h
  · cases ended : takeDescriptor p with
    | error e => simp [ended, bind, Except.bind] at h
    | ok d =>
      cases found : redirectAt c cs with
      | error e => simp [ended, found, bind, Except.bind] at h
      | ok r =>
        simp only [ended, found, bind, Except.bind, pure, Except.pure] at h
        simp only [← Except.ok.inj h]
        exact redirectAt_length found
  · unfold stepText at h
    split at h
    · simp at h
    · rename_i found
      simp only [← Except.ok.inj h]
      exact expansionAt_length found
    · simp [← Except.ok.inj h]

private theorem step_length {t : Substitutions} {env : Dict String} {quoting : Quoting}
    {p : Pending}
    {c : Char} {cs : List Char} {m : Move} (h : step t env quoting p c cs = .ok m) :
    m.rest.length ≤ cs.length := by
  cases quoting with
  | single =>
    simp only [step, Except.ok.injEq] at h
    simp only [← h, stepSingle]
    split <;> exact Nat.le_refl _
  | double => exact stepDouble_length h
  | bare => exact stepBare_length h

def tokensFrom (t : Substitutions) (env : Dict String) (quoting : Quoting) (p : Pending) :
    List Char → Except SyntaxError (List Token)
  | [] => finish quoting p
  | c :: cs =>
    match _h : step t env quoting p c cs with
    | .error e => .error e
    | .ok m => (m.ended ++ ·) <$> tokensFrom t env m.quoting m.pending m.rest
termination_by cs => cs.length
decreasing_by
  have := step_length _h
  simp only [List.length_cons]
  omega

@[simp] theorem tokensFrom_nil (t : Substitutions) (env : Dict String) (quoting : Quoting)
    (p : Pending) : tokensFrom t env quoting p [] = finish quoting p := by
  rw [tokensFrom]

theorem tokensFrom_cons (t : Substitutions) (env : Dict String) (quoting : Quoting) (p : Pending)
    (c : Char) (cs : List Char) :
    tokensFrom t env quoting p (c :: cs) = (do
      let m ← step t env quoting p c cs
      (m.ended ++ ·) <$> tokensFrom t env m.quoting m.pending m.rest) := by
  rw [tokensFrom]
  split <;> rename_i h <;> rw [h] <;> rfl

def tokenize (line : String) (t : Substitutions) (env : Dict String) :
    Except SyntaxError (List Token) :=
  tokensFrom t env .bare .fresh line.toList

end ShellSuite.RunLine
