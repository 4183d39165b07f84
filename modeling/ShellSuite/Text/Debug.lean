import ShellSuite.Text.Category

set_option autoImplicit false
set_option relaxedAutoImplicit false

/-!
Texts in double quotes with escapes for all that cannot be seen.
-/

namespace ShellSuite.Text

def extenders : CharSet :=
  (charsOf ["mn", "me"]).union (.ofTable
    "9BE 9D7 B3E B57 BBE BD7 CC2 CD5-CD6 D3E D57 DCF DDF 1B35 200C 302E-302F FF9E-FF9F 1133E 11357
    114B0 114BD 115AF 11930 1D165 1D16E-1D172 E0020-E007F")

def printable : CharSet :=
  ((charsOf (categories.flatMap (·.names))).diff
    (charsOf ["cc", "cf", "co", "zl", "zp", "zs"])).union (.single ' ')

def hexDigits (n : Nat) : List Char :=
  Nat.toDigits 16 n

def debugChar (c : Char) : List Char :=
  if c.toNat == 0 then ['\\', '0']
  else if c == '\t' then ['\\', 't']
  else if c == '\r' then ['\\', 'r']
  else if c == '\n' then ['\\', 'n']
  else if c == '\\' then ['\\', '\\']
  else if c == '"' then ['\\', '"']
  else if printable.mem c && !extenders.mem c then [c]
  else ['\\', 'u', '\x7b'] ++ hexDigits c.toNat ++ ['\x7d']

def debug (s : String) : String :=
  String.ofList ('"' :: s.toList.flatMap debugChar ++ ['"'])

end ShellSuite.Text
