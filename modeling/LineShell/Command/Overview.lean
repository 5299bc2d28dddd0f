import LineShell.Session.Execute
import LineShell.Text.Lines

/-!
# The commands `history`, `ps` and `help`

`history` prints the lines that were entered, with the time of printing. `ps` has the system list
its processes, and puts a heading of its own in place of the system's. `help` lists the commands, or
shows the manual of one.

Main statement: `length_alignLeft`, by which a name has at least the width of its column.
-/

namespace LineShell

namespace Command

/-! ### The history -/

/-- The printed history. -/
def historyReply (h : History) (time : String) : Reply :=
  if h.entries.isEmpty then .text "No commands in history"
  else .lines ((h.rows time).map HistoryRow.line)

/-- Printing the history. -/
def runHistory : List String → Act Reply
  | [] => do return historyReply (← Act.get).history (← Act.clock)
  | args => Act.fail (.tooManyArguments "history" 1 1 (args.length + 1))

/-- The command `history`. -/
def history : Command where
  manual :=
    { summary := "Show command history"
      examples := "history\n!5        # run command #5\n!!        # run the last command\n" ++
        "!calc     # run the last command starting with \"calc\"" }
  run _ args := runHistory args

/-! ### Processes -/

/-- The heading of the list of processes. -/
def processHeading : List String :=
  ["F S UID   PID  PPID  C PRI  NI ADDR SZ WCHAN TTY        TIME CMD",
    "- - --- ---- ----- --- --- --- ---- -- ----- --- ----------- ---"]

/-- The list of processes with its own heading; the first line and blank lines are left out. -/
def processLines (out : String) : List String :=
  processHeading ++ ((Text.lines out).drop 1).filter fun l => !Text.isBlankText l

/-- Listing the processes. -/
def runProcesses : List String → Act Reply
  | [] => do return .lines (processLines (← Act.runChild "ps -l").out)
  | args => Act.fail (.tooManyArguments "ps" 1 1 (args.length + 1))

/-- The command `ps`. -/
def processes : Command where
  manual :=
    { summary := "Show running processes"
      examples := "ps" }
  run _ args := runProcesses args

/-! ### Help -/

/-- The width of the column of names. -/
def nameWidth : Nat := 10

/-- A name pushed to the left end of its column. -/
def alignLeft (name : String) : List Char :=
  name.toList ++ List.replicate (nameWidth - name.toList.length) ' '

/-- A name has at least the width of its column. -/
theorem length_alignLeft (name : String) :
    (alignLeft name).length = max name.toList.length nameWidth := by
  simp only [alignLeft, List.length_append, List.length_replicate]
  omega

/-- The line of a command in the list of commands. -/
def catalogueLine (e : String × Manual) : String :=
  String.ofList (alignLeft e.1) ++ s!" : {e.2.summary}"

/-- The list of commands. -/
def catalogueLines (cat : Catalogue) : List String :=
  ["Available commands:", "-------------------"] ++ cat.map catalogueLine ++
    ["", "Use \"help <command>\" for details on a specific command."]

/-- The examples of a manual, under a heading if there are any. -/
def exampleLines (m : Manual) : List String :=
  if m.examples.isEmpty then []
  else ["", "Examples:"] ++ (Text.lines m.examples).map ("  " ++ ·)

/-- The manual of a command. -/
def manualLines (name : String) (m : Manual) : List String :=
  [s!"Help for: {name}", "-------------------", m.summary] ++ exampleLines m

/-- The manual of a command, or that there is no such command. -/
def helpFor (cat : Catalogue) (name : String) : Act Reply :=
  match cat.lookup name with
  | some m => return .lines (manualLines name m)
  | none => do
      Act.writeErrAll [s!"Unknown command: {name}", Session.helpHint]
      return .nothing

/-- Showing help. -/
def runHelp (cat : Catalogue) : List String → Act Reply
  | [] => return .lines (catalogueLines cat)
  | [name] => if name.isEmpty then return .lines (catalogueLines cat) else helpFor cat name
  | args => Act.fail (.tooManyArguments "help_cmd" 1 2 (args.length + 1))

/-- The command `help`. -/
def help : Command where
  manual :=
    { summary := "Show available commands"
      examples := "help\nhelp calc" }
  run := runHelp

end Command

end LineShell
