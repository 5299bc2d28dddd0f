import LineShell.Script.Assignment
import LineShell.Script.Condition

/-!
# Commands of the shell

A command of the shell is run by the shell itself. It comes to a code, or it fails with one; the
common shell does not survive the failure of some of them, which are special.

Main statement: `special_of_plain_only`, by which only the plain dialect has special commands.
-/

namespace LineShell

namespace Script

/-- What a command of the shell does; it may fail with a code. -/
abbrev Deed := ExceptT Nat Action

/-- A command of the shell, given its name and its arguments. -/
abbrev Builtin := Runner → Octets → List Octets → Deed Nat

namespace Builtin

/-- Failing with a diagnostic. -/
def fail {α : Type} (name message : Octets) (code : Nat) : Deed α := do
  Action.complainOf name message
  throw code

/-- Failing with a diagnostic and a code that depend on the dialect. -/
def failBy {α : Type} (name plain extended : Octets) (plainCode extendedCode : Nat) : Deed α := do
  if ← Action.isExtended then fail name extended extendedCode else fail name plain plainCode

/-- Writing to the output; where it cannot be written to, the command says so and fails. -/
def write (name cs : Octets) : Deed Unit := do
  if cs.isEmpty then pure ()
  else if ← Action.write 1 cs then pure ()
  else failBy name (name ++ octetsOf ": I/O error") (octetsOf "write error: Bad file descriptor") 1 1

/-- How commands of the extended dialect are used. -/
def usages : List (String × String) :=
  [("cd", "cd [-L|[-P [-e]] [-@]] [dir]"), ("pwd", "pwd [-LP]"),
    ("set", "set [-abefhkmnptuvxBCEHPT] [-o option-name] [--] [-] [arg ...]"),
    ("unset", "unset [-f] [-v] [-n] [name ...]"),
    ("export", "export [-fn] [name[=value] ...] or export -p"),
    ("readonly", "readonly [-aAf] [name[=value] ...] or readonly -p"),
    ("read", "read [-ers] [-a array] [-d delim] [-i text] [-n nchars] [-N nchars] [-p prompt] " ++
      "[-t timeout] [-u fd] [name ...]"),
    ("printf", "printf [-v var] format [arguments]"), (".", ". filename [arguments]"),
    ("source", "source filename [arguments]"),
    ("kill", "kill [-s sigspec | -n signum | -sigspec] pid | jobspec ... or kill -l [sigspec]"),
    ("trap", "trap [-lp] [[arg] signal_spec ...]"), ("type", "type [-afptP] name [name ...]"),
    ("command", "command [-pVv] command [arg ...]"),
    ("hash", "hash [-lr] [-p pathname] [-dt] [name ...]"),
    ("getopts", "getopts optstring name [arg ...]"), ("let", "let arg [arg ...]"),
    ("declare", "declare [-aAfFgiIlnrtux] [name[=value] ...] or declare -p [-aAfFilnrtux] [name ...]"),
    ("typeset", "typeset [-aAfFgiIlnrtux] name[=value] ... or typeset -p [-aAfFilnrtux] [name ...]"),
    ("local", "local [option] name[=value] ..."), ("shopt", "shopt [-pqsu] [-o] [optname ...]"),
    ("umask", "umask [-p] [-S] [mode]"), ("wait", "wait [-fn] [-p var] [id ...]"),
    ("jobs", "jobs [-lnprs] [jobspec ...] or jobs -x command [args]"),
    ("exec", "exec [-cl] [-a name] [command [argument ...]] [redirection ...]"),
    ("alias", "alias [-p] [name[=value] ... ]"), ("unalias", "unalias [-a] name [name ...]"),
    ("shift", "shift [n]"), ("times", "times"), ("eval", "eval [arg ...]"),
    ("mapfile", "mapfile [-d delim] [-n count] [-O origin] [-s count] [-t] [-u fd] [-C callback] " ++
      "[-c quantum] [array]"),
    ("readarray", "readarray [-d delim] [-n count] [-O origin] [-s count] [-t] [-u fd] " ++
      "[-C callback] [-c quantum] [array]"),
    ("builtin", "builtin [shell-builtin [arg ...]]"), ("return", "return [n]"),
    ("ulimit", "ulimit [-SHabcdefiklmnpqrstuvxPRT] [limit]")]

/-- Failing with how a command of the extended dialect is used. -/
def failUsage {α : Type} (name : Octets) : Deed α := do
  match usages.lookup (String.ofList name) with
  | some usage => Action.put 2 (name ++ octetsOf ": usage: " ++ octetsOf usage ++ ['\n'])
  | none => pure ()
  throw 2

/-- Failing because of an option. -/
def failOption {α : Type} (name : Octets) (c : Char) : Deed α := do
  if ← Action.isExtended then
    Action.complainOf name (['-', c] ++ octetsOf ": invalid option")
    failUsage name
  else fail name (octetsOf "Illegal option -" ++ [c]) 2

/-- The options in front of arguments, given the letters without and with a value, and the arguments
behind them. -/
def options (name : Octets) (flags valued : String) :
    List Octets → Deed (List (Char × Octets) × List Octets)
  | [] => return ([], [])
  | a :: rest => match a with
    | ['-', '-'] => return ([], rest)
    | '-' :: c :: cs => do
        let (os, took) ← letters (rest.head?) (c :: cs)
        let (more, operands) ← options name flags valued (rest.drop took.toNat)
        return (os ++ more, operands)
    | _ => return ([], a :: rest)
termination_by l => l.length
decreasing_by
  simp only [List.length_drop, List.length_cons]
  omega
where
  /-- The options of letters, and whether the next argument is the value of the last one. -/
  letters (next : Option Octets) : Octets → Deed (List (Char × Octets) × Bool)
    | [] => return ([], false)
    | c :: cs => do
        if flags.toList.contains c then
          let (os, took) ← letters next cs
          return ((c, []) :: os, took)
        else if valued.toList.contains c then
          if !cs.isEmpty then return ([(c, cs)], false)
          else match next with
            | some v => return ([(c, v)], true)
            | none => do
                if ← Action.isExtended then
                  Action.complainOf name (['-', c] ++ octetsOf ": option requires an argument")
                  failUsage name
                else fail name (octetsOf "No arg for -" ++ [c] ++ octetsOf " option") 2
        else failOption name c

/-- Whether a letter is among options. -/
def has (os : List (Char × Octets)) (c : Char) : Bool := os.any (·.1 == c)

/-- The number that an argument of the common shell writes; without a sign, in front of which white
space may stand. -/
def plainNumber? (cs : Octets) : Option Nat :=
  match (Condition.number? cs).filter fun n => 0 ≤ n && n ≤ 2147483647 with
  | some n => some n.toNat
  | none => none

/-- The number that an argument writes; nothing else will do. -/
def number (name cs : Octets) : Deed Nat := do
  match plainNumber? cs with
  | some n => return n
  | none => fail name (octetsOf "Illegal number: " ++ cs) 2

/-! ### Kinds -/

/-- The commands that are special in both dialects. -/
def specialNames : List String :=
  [".", ":", "break", "continue", "eval", "exec", "exit", "export", "readonly", "return", "set",
    "shift", "times", "trap", "unset"]

/-- Whether a command is special, that is, whether the common shell ends where it fails. -/
def isSpecial (d : Dialect) (name : Octets) : Bool :=
  d = .plain && (specialNames.contains (String.ofList name) || name = "local".toList)

/-- Only the plain dialect has special commands. -/
theorem special_of_plain_only (name : Octets) : isSpecial .extended name = false := by
  simp [isSpecial]

end Builtin

end Script

end LineShell
