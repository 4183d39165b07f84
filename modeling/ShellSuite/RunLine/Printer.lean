import ShellSuite.RunLine.Script

set_option autoImplicit false
set_option relaxedAutoImplicit false

/-!
Scripts as text that reads back as the same script.
-/

namespace ShellSuite.RunLine

def isSafe (c : Char) : Bool :=
  c.isAlphanum || "-_./=:,+%@".toList.contains c

/-- A quote inside single quotes: the quotes are closed, a quote is escaped, they are opened
again. -/
def quoteChar (c : Char) : List Char :=
  if c == '\'' then ['\'', '\\', '\'', '\''] else [c]

/-- A word in single quotes, unless all of its characters are safe. -/
def quote (word : String) : String :=
  if !word.isEmpty && word.toList.all isSafe then word
  else String.ofList ('\'' :: word.toList.flatMap quoteChar ++ ['\''])

def Redirect.render (r : Redirect) : String :=
  match r.op with
  | .write => toString r.fd ++ ">" ++ quote r.target
  | .append => toString r.fd ++ ">>" ++ quote r.target
  | .read => toString r.fd ++ "<" ++ quote r.target
  | .duplicate => toString r.fd ++ ">&" ++ r.target
  | .writeBoth => "&>" ++ quote r.target

def Command.render (c : Command) : String :=
  String.join (c.env.map fun (name, value) => name ++ "=" ++ quote value ++ " ") ++
    quote c.name ++ String.join (c.args.map fun a => " " ++ quote a) ++
    String.join (c.redirects.map fun r => " " ++ r.render)

def Pipeline.render (p : Pipeline) : String :=
  p.first.render ++ String.join (p.rest.map fun c => " | " ++ c.render)

def Connector.render : Connector → String
  | .and => "&&"
  | .or => "||"
  | .seq => ";"

def Script.render (s : Script) : String :=
  s.first.render ++
    String.join (s.rest.map fun (c, p) => " " ++ c.render ++ " " ++ p.render)

end ShellSuite.RunLine
