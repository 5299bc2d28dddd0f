import LineShell.Script.Syntax

/-!
# Signals

The signals that one process can send to another, by their numbers and names.

Main statement: `number?_name`, by which the name of a signal stands for it.
-/

namespace LineShell

namespace Script

namespace Signal

/-- The names of the signals from one on. -/
def firstNames : List String :=
  ["HUP", "INT", "QUIT", "ILL", "TRAP", "ABRT", "BUS", "FPE", "KILL", "USR1", "SEGV", "USR2", "PIPE",
    "ALRM", "TERM", "STKFLT", "CHLD", "CONT", "STOP", "TSTP", "TTIN", "TTOU", "URG", "XCPU", "XFSZ",
    "VTALRM", "PROF", "WINCH", "IO", "PWR", "SYS"]

/-- The number of the last signal. -/
def last : Nat := 64

/-- The name of a signal. -/
def name (n : Nat) : String :=
  if 1 ≤ n && n ≤ 31 then firstNames.getD (n - 1) ""
  else if n = 34 then "RTMIN"
  else if 34 < n && n < 50 then s!"RTMIN+{n - 34}"
  else if 50 ≤ n && n < 64 then s!"RTMAX-{64 - n}"
  else if n = 64 then "RTMAX"
  else toString n

/-- The name of a signal in the common shell, which does not know one of them. -/
def plainName (n : Nat) : String := if n = 16 then "16" else name n

/-- The number of the signal with a name. -/
def number? (s : String) : Option Nat := (List.range (last + 1)).find? fun n => 0 < n && name n = s

/-- The name of a signal stands for it. -/
theorem number?_name : ∀ n ∈ (List.range 65).drop 1, number? (name n) = some n := by
  decide +kernel

/-- What a signal is called in a condition under which something is to be done: the end of the shell
is one as well. -/
def condition (n : Nat) : String := if n = 0 then "EXIT" else name n

/-- The number of a condition that is written so: a number, or a name. The extended dialect lets the
name begin with three letters that say that it is one; capitals do not matter. -/
def read? (d : Dialect) (cs : Octets) : Option Nat :=
  if !cs.isEmpty && cs.all isAsciiDigit then
    let n := ofDigits cs
    if n ≤ last then some n else none
  else
    let cs := cs.map Char.toUpper
    let short := if "SIG".toList.isPrefixOf cs && d = .extended then cs.drop 3 else cs
    if cs = "EXIT".toList then some 0 else number? (String.ofList short)

/-- Whether a signal ends a process that does nothing about it. -/
def isFatal (n : Nat) : Bool := !([0, 17, 18, 19, 20, 21, 22, 23, 28].contains n)

/-- The signals as the extended shell lists them. -/
def table : Octets :=
  let known := (List.range (last + 1)).filter fun n => 0 < n && n ≠ 32 && n ≠ 33
  let shown := known.mapIdx fun i n =>
    let number := toString n
    let number := if number.length < 2 then " " ++ number else number
    let finish := if i % 5 = 4 then "\n" else "\t"
    number ++ ") SIG" ++ name n ++ finish
  octetsOf (String.join shown ++ "\n")

/-- The signals as the common shell lists them. -/
def list : Octets :=
  octetsOf (String.join ((List.range (last + 1)).map fun n => plainName n ++ "\n"))

end Signal

end Script

end LineShell
