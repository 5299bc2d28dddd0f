import LineShell.Script.Setting

/-!
# How a shell is called

The arguments of a shell switch settings on and off, ask for lists of them, and say whether a script
follows. They are read from the left to the right; what they ask to be listed is written even if a
later one cannot be read.

Main statement: `read_nil`, by which a shell without arguments is called for a script on its input.
-/

namespace LineShell

namespace Script

/-- What the arguments of a shell ask for. -/
structure Invocation where
  /-- The dialect of the shell. -/
  dialect : Dialect
  /-- The settings that have been switched, the last first. -/
  switched : List (String × Bool)
  /-- The special behaviour that has been switched, the last first. -/
  behaviours : List (String × Bool)
  /-- Whether the next argument is a script. -/
  isCommand : Bool
  /-- Whether the script is on the input in any case. -/
  takesInput : Bool
  /-- The lists that have been asked for. -/
  written : Octets
  /-- The arguments that are left. -/
  rest : List Octets

namespace Invocation

/-- Why a shell cannot be called so. -/
inductive Fault where
  /-- There is no such letter. -/
  | unknownLetter (on : Bool) (c : Char)
  /-- There is no setting of this name. -/
  | unknownSetting (on : Bool) (name : Octets)
  /-- There is no special behaviour of this name. -/
  | unknownBehaviour (name : Octets)
  /-- A script is announced and missing. -/
  | noCommand
  /-- A long option is not known. -/
  | unknownWord (a : Octets)

/-- The sign in front of letters that are switched on or off. -/
def sign (on : Bool) : Char := if on then '-' else '+'

/-- Whether a setting is on, given what it would be otherwise. -/
def isOn (i : Invocation) (otherwise : Setting → Bool) (s : Setting) : Bool :=
  (i.switched.lookup s.name).getD (otherwise s)

/-- Whether a setting is listed as on if nothing is said about it. -/
def isListedOn (d : Dialect) (s : Setting) : Bool :=
  match d with
  | .plain => true
  | .extended => Setting.isUsual d s || s.name == "emacs"

/-- The list of the settings that is asked for. -/
def listing (i : Invocation) (on : Bool) : Octets :=
  let told := i.isOn (isListedOn i.dialect)
  if on then Setting.list i.dialect told else Setting.commands i.dialect told

/-- The list of the special behaviour that is asked for. -/
def behaviourListing (on : Bool) : Octets :=
  Setting.behaviours.flatMap fun b =>
    (if on then Setting.toldLine else Setting.behaviourCommand) b
      (Setting.usualBehaviours.contains b)

/-- The letters that are known and have no meaning here. -/
def otherLetters : Dialect → List Char
  | .plain => ['l']
  | .extended => ['i', 'l', 'r', 'D']

/-- The long options of the extended shell. -/
def longOptions : List String :=
  ["debug", "debugger", "dump-po-strings", "dump-strings", "help", "login", "noediting",
    "noprofile", "norc", "posix", "pretty-print", "restricted", "verbose", "version"]

/-- Reading the name of a setting, which is the next argument; without one the settings are
listed. -/
def named (on : Bool) (i : Invocation) : Except (Fault × Invocation) Invocation :=
  match i.rest with
  | [] => .ok { i with written := i.written ++ i.listing on }
  | a :: rest => match Setting.named? i.dialect (String.ofList a) with
    | some s => .ok { i with switched := (s.name, on) :: i.switched, rest := rest }
    | none => .error (.unknownSetting on a, i)

/-- Reading the name of special behaviour, which is the next argument; without one the behaviour is
listed. -/
def behaviour (on : Bool) (i : Invocation) : Except (Fault × Invocation) Invocation :=
  match i.rest with
  | [] => .ok { i with written := i.written ++ behaviourListing on }
  | a :: rest =>
      let s := String.ofList a
      if Setting.behaviours.contains s then
        .ok { i with behaviours := (s, on) :: i.behaviours, rest := rest }
      else .error (.unknownBehaviour a, i)

/-- Reading letters. -/
def letters (on : Bool) : Octets → Invocation → Except (Fault × Invocation) Invocation
  | [], i => .ok i
  | c :: cs, i =>
      if c = 'c' then letters on cs { i with isCommand := true }
      else if c = 'o' then do letters on cs (← named on i)
      else if c = 'O' && i.dialect = .extended then do letters on cs (← behaviour on i)
      else if c = 's' then letters on cs { i with takesInput := on }
      else if (otherLetters i.dialect).contains c then letters on cs i
      else match Setting.lettered? i.dialect c with
        | some s => letters on cs { i with switched := (s.name, on) :: i.switched }
        | none => .error (.unknownLetter on c, i)

/-- Reading arguments as far as they begin with a sign. The number bounds them. -/
def readFrom : Nat → Invocation → Except (Fault × Invocation) Invocation
  | 0, i => .ok i
  | n + 1, i => match i.rest with
    | ['-'] :: rest => .ok { i with rest := rest }
    | ['-', '-'] :: rest => .ok { i with rest := rest }
    | ('-' :: cs) :: rest => do readFrom n (← letters true cs { i with rest := rest })
    | ('+' :: cs) :: rest => do readFrom n (← letters false cs { i with rest := rest })
    | _ => .ok i

/-- Reading long options. -/
def words : List Octets → Except Octets (List Octets)
  | [] => .ok []
  | a :: rest => match a with
    | '-' :: '-' :: c :: cs =>
        if longOptions.contains (String.ofList (c :: cs)) then words rest else .error a
    | _ => .ok (a :: rest)

/-- The call before anything of its arguments has been read. -/
def ofArguments (d : Dialect) (args : List Octets) : Invocation :=
  ⟨d, [], [], false, false, [], args⟩

/-- Reading the arguments of a shell. -/
def read (d : Dialect) (args : List Octets) : Except (Fault × Invocation) Invocation :=
  match d with
  | .plain => readFrom args.length (ofArguments d args)
  | .extended => match words args with
    | .ok args => readFrom args.length (ofArguments d args)
    | .error a => .error (.unknownWord a, ofArguments d args)

/-- A shell without arguments is called for a script on its input. -/
theorem read_nil (d : Dialect) : read d [] = .ok (ofArguments d []) := by cases d <;> rfl

/-- Whether the script is on the input. -/
def readsInput (i : Invocation) : Bool := !i.isCommand && (i.takesInput || i.rest.isEmpty)

/-- The letters of the settings that the shell begins with. -/
def flags (i : Invocation) : List Char :=
  (if i.isCommand then ['c'] else []) ++ (if i.readsInput || i.takesInput then ['s'] else []) ++
    (Setting.all i.dialect).filterMap fun s =>
      if i.isOn (Setting.isUsual i.dialect) s then s.letter else none

/-- The names of the settings without letters, and of the special behaviour, that the shell begins
with. -/
def names (i : Invocation) : List String :=
  let settings := (Setting.all i.dialect).filter fun s =>
    s.letter.isNone && i.isOn (Setting.isUsual i.dialect) s
  let special := Setting.behaviours.filter fun b =>
    (i.behaviours.lookup b).getD (Setting.usualBehaviours.contains b)
  settings.map Setting.name ++ (if i.dialect = .extended then special else [])

/-! ### Faults -/

/-- The wording of a fault, given the name by which the shell has been called. -/
def Fault.message (d : Dialect) (name : Octets) : Fault → Octets
  | unknownLetter on c => match d with
    | .plain => octetsOf "Illegal option " ++ ['-', c]
    | .extended => [sign on, c] ++ octetsOf ": invalid option"
  | unknownSetting on s => match d with
    | .plain => octetsOf "Illegal option " ++ [sign on, 'o', ' '] ++ s
    | .extended => name ++ octetsOf ": " ++ s ++ octetsOf ": invalid option name"
  | unknownBehaviour s => s ++ octetsOf ": invalid shell option name"
  | noCommand => match d with
    | .plain => octetsOf "-c requires an argument"
    | .extended => octetsOf "-c: option requires an argument"
  | unknownWord a => a ++ octetsOf ": invalid option"

/-- Whether the extended shell tells how it is called behind a fault. -/
def Fault.showsUsage : Fault → Bool
  | unknownLetter .. => true
  | unknownWord _ => true
  | _ => false

/-- How the extended shell is called. -/
def usage (name : Octets) : Octets :=
  octetsOf "Usage:\t" ++ name ++ octetsOf " [GNU long option] [option] ...\n\t" ++ name ++
    octetsOf " [GNU long option] [option] script-file ...\nGNU long options:\n" ++
    (["--debug", "--debugger", "--dump-po-strings", "--dump-strings", "--help", "--init-file",
      "--login", "--noediting", "--noprofile", "--norc", "--posix", "--pretty-print", "--rcfile",
      "--restricted", "--verbose", "--version"].flatMap fun o => '\t' :: octetsOf o ++ ['\n']) ++
    octetsOf ("Shell options:\n\t-ilrsD or -c command or -O shopt_option\t\t(invocation only)\n" ++
      "\t-abefhkmnptuvxBCEHPT or -o option\n")

/-- What is written about a fault, and the code. The extended shell ends at its first diagnostic, and
with another code, once it has been told to end at failures. -/
def refusal (f : Fault) (i : Invocation) (name : Octets) : Octets × Nat :=
  let message := f.message i.dialect name
  match i.dialect with
  | .plain => (name ++ octetsOf ": 0: " ++ message ++ ['\n'], 2)
  | .extended =>
      let line := name ++ octetsOf ": " ++ message ++ ['\n']
      let endsAtOnce := i.isOn (fun _ => false) ⟨"errexit", some 'e'⟩
      match f with
      | .unknownSetting .. => (line, 2)
      | .unknownBehaviour _ => (line, 2)
      | f =>
          if endsAtOnce then (line, 1)
          else (line ++ (if f.showsUsage then usage name else []), 2)

end Invocation

end Script

end LineShell
