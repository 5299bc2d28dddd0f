import LineShell.Script.Syntax

/-!
# Settings of a shell

What a shell can be told to do or not to do. Each setting has a name, and most of them have a letter
too; what is on is kept as letters for those, and as names for the rest. The extended shell has
settings for special behaviour besides, which have names only.

Main statement: `contains_switched`, by which a letter that is switched on is on.
-/

namespace LineShell

namespace Script

/-- A setting of a shell. -/
structure Setting where
  /-- Its name. -/
  name : String
  /-- Its letter, if it has one. -/
  letter : Option Char
deriving DecidableEq, Repr

namespace Setting

/-- The settings of the common shell, in the order in which they are listed. -/
def plainSettings : List Setting :=
  [⟨"errexit", some 'e'⟩, ⟨"noglob", some 'f'⟩, ⟨"ignoreeof", some 'I'⟩, ⟨"interactive", some 'i'⟩,
    ⟨"monitor", some 'm'⟩, ⟨"noexec", some 'n'⟩, ⟨"stdin", some 's'⟩, ⟨"xtrace", some 'x'⟩,
    ⟨"verbose", some 'v'⟩, ⟨"vi", some 'V'⟩, ⟨"emacs", some 'E'⟩, ⟨"noclobber", some 'C'⟩,
    ⟨"allexport", some 'a'⟩, ⟨"notify", some 'b'⟩, ⟨"nounset", some 'u'⟩,
    ⟨"privileged", some 'p'⟩, ⟨"nolog", none⟩, ⟨"debug", none⟩]

/-- The settings of the extended shell, in the order in which they are listed. -/
def extendedSettings : List Setting :=
  [⟨"allexport", some 'a'⟩, ⟨"braceexpand", some 'B'⟩, ⟨"emacs", none⟩, ⟨"errexit", some 'e'⟩,
    ⟨"errtrace", some 'E'⟩, ⟨"functrace", some 'T'⟩, ⟨"hashall", some 'h'⟩,
    ⟨"histexpand", some 'H'⟩, ⟨"history", none⟩, ⟨"ignoreeof", none⟩,
    ⟨"interactive-comments", none⟩, ⟨"keyword", some 'k'⟩, ⟨"monitor", some 'm'⟩,
    ⟨"noclobber", some 'C'⟩, ⟨"noexec", some 'n'⟩, ⟨"noglob", some 'f'⟩, ⟨"nolog", none⟩,
    ⟨"notify", some 'b'⟩, ⟨"nounset", some 'u'⟩, ⟨"onecmd", some 't'⟩, ⟨"physical", some 'P'⟩,
    ⟨"pipefail", none⟩, ⟨"posix", none⟩, ⟨"privileged", some 'p'⟩, ⟨"verbose", some 'v'⟩,
    ⟨"vi", none⟩, ⟨"xtrace", some 'x'⟩]

/-- The settings of a dialect. -/
def all : Dialect → List Setting
  | .plain => plainSettings
  | .extended => extendedSettings

/-- The setting of a name. -/
def named? (d : Dialect) (name : String) : Option Setting := (all d).find? (·.name == name)

/-- The setting of a letter. -/
def lettered? (d : Dialect) (c : Char) : Option Setting := (all d).find? (·.letter == some c)

/-- Whether a shell begins with a setting. -/
def isUsual (d : Dialect) (s : Setting) : Bool :=
  d == .extended && ["braceexpand", "hashall", "interactive-comments"].contains s.name

/-- Whether a setting is on, given the letters and the names of those that are. -/
def isOn (letters : List Char) (names : List String) (s : Setting) : Bool :=
  match s.letter with
  | some c => letters.contains c
  | none => names.contains s.name

/-! ### Switching -/

/-- A list with one of its elements on or off. -/
def switched {α : Type} [BEq α] (on : Bool) (a : α) (l : List α) : List α :=
  if on then (if l.contains a then l else l ++ [a]) else l.filter (· != a)

/-- What is switched on is on. -/
theorem contains_switched {α : Type} [BEq α] [LawfulBEq α] (a : α) (l : List α) :
    (switched true a l).contains a = true := by
  by_cases h : l.contains a = true <;> simp_all [switched]

/-! ### Lists -/

/-- A text filled up with blanks. -/
def padded (width : Nat) (s : String) : Octets :=
  octetsOf s ++ List.replicate (width - s.length) ' '

/-- A line that tells whether something is on. -/
def toldLine (name : String) (on : Bool) : Octets :=
  padded 15 name ++ octetsOf (if on then "\ton\n" else "\toff\n")

/-- The settings of a dialect, with whether they are on. -/
def list (d : Dialect) (on : Setting → Bool) : Octets :=
  match d with
  | .plain => octetsOf "Current option settings\n" ++ (all d).flatMap fun s =>
      padded 16 s.name ++ octetsOf (if on s then "on\n" else "off\n")
  | .extended => (all d).flatMap fun s => toldLine s.name (on s)

/-- The settings of a dialect as commands. -/
def commands (d : Dialect) (on : Setting → Bool) : Octets :=
  (all d).flatMap fun s =>
    octetsOf (if on s then "set -o " else "set +o ") ++ octetsOf s.name ++ ['\n']

/-! ### Special behaviour -/

/-- The special behaviour of the extended shell, in the order in which it is listed. -/
def behaviours : List String :=
  ["autocd", "assoc_expand_once", "cdable_vars", "cdspell", "checkhash", "checkjobs",
    "checkwinsize", "cmdhist", "compat31", "compat32", "compat40", "compat41", "compat42",
    "compat43", "compat44", "complete_fullquote", "direxpand", "dirspell", "dotglob", "execfail",
    "expand_aliases", "extdebug", "extglob", "extquote", "failglob", "force_fignore",
    "globasciiranges", "globskipdots", "globstar", "gnu_errfmt", "histappend", "histreedit",
    "histverify", "hostcomplete", "huponexit", "inherit_errexit", "interactive_comments",
    "lastpipe", "lithist", "localvar_inherit", "localvar_unset", "login_shell", "mailwarn",
    "no_empty_cmd_completion", "nocaseglob", "nocasematch", "noexpand_translation", "nullglob",
    "patsub_replacement", "progcomp", "progcomp_alias", "promptvars", "restricted_shell",
    "shift_verbose", "sourcepath", "varredir_close", "xpg_echo"]

/-- The special behaviour that the extended shell begins with. -/
def usualBehaviours : List String :=
  ["checkwinsize", "cmdhist", "complete_fullquote", "extquote", "force_fignore",
    "globasciiranges", "globskipdots", "hostcomplete", "interactive_comments",
    "patsub_replacement", "progcomp", "promptvars", "sourcepath"]

/-- A line that is the command for special behaviour. -/
def behaviourCommand (name : String) (on : Bool) : Octets :=
  octetsOf (if on then "shopt -s " else "shopt -u ") ++ octetsOf name ++ ['\n']

end Setting

end Script

end LineShell
