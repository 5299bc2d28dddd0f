import LineShell.Script.Octets

/-!
# The language of scripts

A script is what a shell runs: items of pipelines of commands. There are two dialects. The plain one
is that of the common shell; the extended one has lists as values, tests between double brackets,
expressions as commands, and more.

A word is made of parts, which are quoted or not; what an unquoted part expands to is cut at blanks.
Parts may hold words and scripts in turn, so all of it is one family of types.
-/

namespace LineShell

namespace Script

/-- The dialects of the language. -/
inductive Dialect where
  /-- The common dialect. -/
  | plain
  /-- The dialect with extensions. -/
  | extended
deriving DecidableEq, Repr

/-- What a redirection does. -/
inductive Direction where
  /-- The stream reads from a file. -/
  | input
  /-- The stream writes to a file, which loses what it held. -/
  | output
  /-- The same, even where files are not to be overwritten. -/
  | overwrite
  /-- The stream writes at the end of a file. -/
  | append
  /-- The stream reads from a file and writes to it. -/
  | both
  /-- The stream goes where another one goes. -/
  | duplicate
  /-- The stream comes from where another one comes. -/
  | duplicateInput
  /-- The stream reads a text. -/
  | text
  /-- The stream reads a text and an end of line. -/
  | line
  /-- The stream and that of the diagnostics write to a file. -/
  | outputAll
  /-- The stream and that of the diagnostics write at the end of a file. -/
  | appendAll
deriving DecidableEq, Repr

/-- Which value takes part where that of a parameter is missing. -/
inductive Substitute where
  /-- Another value, for this time. -/
  | otherwise
  /-- Another value, from now on. -/
  | assigned
  /-- None: the shell complains. -/
  | complaint
  /-- Another value, where that of the parameter is there. -/
  | instead
deriving DecidableEq, Repr

/-- Where a pattern is to be found in a value. -/
inductive Occurrence where
  /-- The first place. -/
  | first
  /-- All places. -/
  | all
  /-- The beginning. -/
  | start
  /-- The end. -/
  | finish
deriving DecidableEq, Repr

mutual

/-- A part of a word. -/
inductive Part where
  /-- A text. -/
  | text (quoted : Bool) (cs : Octets)
  /-- What is made of a parameter; the subscript is empty if there is none. -/
  | parameter (quoted : Bool) (name : Octets) (subscript : List Part) (op : Operation)
  /-- The value of an expression. -/
  | arithmetic (quoted : Bool) (expression : List Part)
  /-- The output of a script. -/
  | output (quoted : Bool) (script : List Item)
  /-- The output of a script that is not read before it is run. -/
  | outputOf (quoted : Bool) (text : Octets)
  /-- A subscript of a name that is set. -/
  | subscript (w : List Part)
  /-- The elements of a list to which a name is set. -/
  | elements (ws : List (List Part))
  /-- A file that holds the output of a script. -/
  | file (script : List Item)

/-- What is made of the value of a parameter. -/
inductive Operation where
  /-- The value itself. -/
  | value
  /-- Its length. -/
  | length
  /-- The value or a substitute for it; an empty one may count as missing. -/
  | substitute (s : Substitute) (orEmpty : Bool) (w : List Part)
  /-- The value without what a pattern fits at one end, the least or the most of it. -/
  | trim (atEnd longest : Bool) (pattern : List Part)
  /-- A piece of the value; without a length, all that is left. -/
  | slice (start : List Part) (length : Option (List Part))
  /-- The value with what a pattern fits replaced. -/
  | replace (o : Occurrence) (pattern new : List Part)
  /-- The value with the letters that a pattern fits in capitals or not, the first or all. -/
  | recase (upper all : Bool) (pattern : List Part)
  /-- The value of the parameter that the value names. -/
  | indirect
  /-- The subscripts for which there are values. -/
  | subscripts
  /-- The value in a form that a letter stands for. -/
  | form (letter : Char)
  /-- The names that begin so. -/
  | names
  /-- Something that has no meaning, as it is written. -/
  | meaningless (text : Octets)

/-- A redirection of a stream; the usual one of the direction if none is named. -/
inductive Redirection where
  /-- The stream, what becomes of it, and the file, the other stream or the text. -/
  | redirection (stream : Option Nat) (d : Direction) (target : List Part)

/-- A test between double brackets. -/
inductive Test where
  /-- A word is not empty. -/
  | word (w : List Part)
  /-- A test of one operand. -/
  | unary (op : Octets) (w : List Part)
  /-- A test of two operands. -/
  | binary (op : Octets) (left right : List Part)
  /-- A test fails. -/
  | not (t : Test)
  /-- Two tests succeed. -/
  | and (s t : Test)
  /-- One of two tests succeeds. -/
  | or (s t : Test)

/-- A command, without redirections unless they belong to its words. -/
inductive Command where
  /-- A command with its arguments. -/
  | simple (line : Nat) (words : List (List Part))
  /-- A script that runs on a copy of the state. -/
  | group (script : List Item)
  /-- A script that runs on the state itself. -/
  | braces (script : List Item)
  /-- A script that is chosen by the outcome of another. -/
  | choice (condition body otherwise : List Item)
  /-- A script that is run as long as another has the outcome that is asked for. -/
  | loop (succeeding : Bool) (condition body : List Item)
  /-- A script that is run once for each value of a variable, or each argument. -/
  | each (line : Nat) (name : Octets) (values : Option (List (List Part))) (body : List Item)
  /-- A script that is run as long as an expression is not zero. -/
  | count (line : Nat) (start condition step : List Part) (body : List Item)
  /-- The scripts whose patterns a word fits. -/
  | cases (line : Nat) (subject : List Part) (clauses : List Clause)
  /-- A function and its body. -/
  | define (line : Nat) (name : Octets) (body : Stage)
  /-- An expression, which succeeds unless it is zero. -/
  | calculate (line : Nat) (expression : List Part)
  /-- A test. -/
  | test (line : Nat) (t : Test)

/-- A clause of a command that chooses by patterns. -/
inductive Clause where
  /-- The patterns, the script, and the mark behind it. -/
  | clause (patterns : List (List Part)) (body : List Item) (mark : Octets)

/-- A stage of a pipeline. -/
inductive Stage where
  /-- A command with its redirections. -/
  | stage (c : Command) (redirections : List Redirection)

/-- A pipeline, with what its execution depends on. -/
inductive Link where
  /-- A pipeline behind nothing (`none`), behind a success that is asked for (`some true`) or
  behind a failure (`some false`); its outcome may be turned round, and the time it takes may be
  asked for. -/
  | link (after : Option Bool) (timed negated : Bool) (stages : List Stage)

/-- Pipelines that are run one after another. -/
inductive Item where
  /-- The pipelines, which may run beside what follows. -/
  | item (background : Bool) (links : List Link)

end

/-- A word. -/
abbrev Word := List Part

namespace Part

/-- A part in front of others; texts of one kind that meet are one. -/
def consTo (p : Part) (ps : Word) : Word :=
  match p, ps with
  | .text q cs, .text r ds :: rest => if q = r then .text q (cs ++ ds) :: rest else p :: ps
  | _, _ => p :: ps

/-- Whether a part is quoted. -/
def isQuoted : Part → Bool
  | .text q _ => q
  | .parameter q _ _ _ => q
  | .arithmetic q _ => q
  | .output q _ => q
  | .outputOf q _ => q
  | _ => false

end Part

namespace Word

/-- Parts joined to a word. -/
def ofParts (ps : List Part) : Word := ps.foldr Part.consTo []

/-- The text of a word that is neither quoted nor expanded. -/
def bareText? : Word → Option Octets
  | [] => some []
  | [.text false cs] => some cs
  | _ => none

/-- An unquoted text as a word. -/
def ofBare (cs : Octets) : Word := [.text false cs]

/-- A quoted text as a word. -/
def ofQuoted (cs : Octets) : Word := [.text true cs]

end Word

end Script

end LineShell
