/-!
# Words of the command language

`Chars.shellQuote` writes any text so that a POSIX shell reads it as one word, unchanged, and
`Chars.readShellWords?` reads a line of such words by the quoting rules of the shell. The reader
refuses what the shell would treat as more than a word: operators, expansions and patterns outside
quotes, an open quotation.

A word of safe characters stands for itself; any other is put between single quotes, inside which
nothing is special, and a single quote in it is written as `'"'"'`: the quotation is closed, a
quote follows between double quotes, and the quotation is opened again.
-/

namespace LineShell

namespace Chars

/-- The characters that mean only themselves wherever they stand in a word. -/
def isShellSafe (c : Char) : Bool :=
  c.isAlphanum || "_@%+=:,./-".toList.contains c

/-- A text inside single quotes, each single quote in it written between double quotes. -/
def singleQuoted (cs : List Char) : List Char :=
  '\'' :: cs.flatMap (fun c => if c = '\'' then "'\"'\"'".toList else [c]) ++ ['\'']

/-- A text as one word of the shell. -/
def shellQuote (cs : List Char) : List Char :=
  if cs.isEmpty then ['\'', '\''] else if cs.all isShellSafe then cs else singleQuoted cs

/-- Where a reader of shell words stands. -/
inductive WordState where
  /-- Between words. -/
  | between
  /-- In a word, outside quotes; what was read of it so far is kept. -/
  | plain (word : List Char)
  /-- Inside single quotes. -/
  | single (word : List Char)
  /-- Inside double quotes. -/
  | double (word : List Char)

/-- The words of a line, read by the quoting rules of the shell; `none` if it is not a plain
list of words. Inside double quotes the dollar sign, the backquote and the backslash are refused,
since they are special there. -/
def readShellWordsFrom : WordState → List Char → Option (List (List Char))
  | .between, [] => some []
  | .plain w, [] => some [w]
  | .single _, [] => none
  | .double _, [] => none
  | .between, c :: cs =>
      if c = ' ' ∨ c = '\t' then readShellWordsFrom .between cs
      else if c = '\'' then readShellWordsFrom (.single []) cs
      else if c = '"' then readShellWordsFrom (.double []) cs
      else if isShellSafe c then readShellWordsFrom (.plain [c]) cs
      else none
  | .plain w, c :: cs =>
      if c = ' ' ∨ c = '\t' then (readShellWordsFrom .between cs).map (w :: ·)
      else if c = '\'' then readShellWordsFrom (.single w) cs
      else if c = '"' then readShellWordsFrom (.double w) cs
      else if isShellSafe c then readShellWordsFrom (.plain (w ++ [c])) cs
      else none
  | .single w, c :: cs =>
      if c = '\'' then readShellWordsFrom (.plain w) cs
      else readShellWordsFrom (.single (w ++ [c])) cs
  | .double w, c :: cs =>
      if c = '"' then readShellWordsFrom (.plain w) cs
      else if c = '$' ∨ c = '`' ∨ c = '\\' then none
      else readShellWordsFrom (.double (w ++ [c])) cs

/-- The words of a line that holds nothing but words. -/
def readShellWords? (cs : List Char) : Option (List (List Char)) :=
  readShellWordsFrom .between cs

end Chars

namespace Text

/-- A text as one word of the shell. -/
def shellQuote (s : String) : String := String.ofList (Chars.shellQuote s.toList)

end Text

end LineShell
