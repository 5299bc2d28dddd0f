import LineShell.Script.Tool.Characters
import LineShell.Script.Tool.Columns
import LineShell.Script.Tool.Copying
import LineShell.Script.Tool.Counting
import LineShell.Script.Tool.Cutting
import LineShell.Script.Tool.Dump
import LineShell.Script.Tool.Editing
import LineShell.Script.Tool.Files
import LineShell.Script.Tool.Matching
import LineShell.Script.Tool.Merging
import LineShell.Script.Tool.Numbering
import LineShell.Script.Tool.Other
import LineShell.Script.Tool.Portions
import LineShell.Script.Tool.Series
import LineShell.Script.Tool.Sorting

/-!
# Tools by their names

The tools that the programs of the system stand for. A program that is not known here refuses
options and does nothing.

Main statement: `named_common`, by which tools that scripts use are found under their names.
-/

namespace LineShell

namespace Script

namespace Tool

/-- The tools with their names. -/
def common : List (String × Tool) :=
  [("echo", echo), ("printf", printf), ("yes", yes), ("seq", seq), ("true", succeed),
    ("false", fail), ("basename", basename), ("dirname", dirname), ("sleep", sleep),
    ("printenv", printenv), ("pwd", pwd), ("cat", cat), ("tee", tee), ("head", head),
    ("tail", tail), ("wc", wc), ("tac", tac), ("nl", nl), ("paste", paste), ("fold", fold),
    ("expand", expand), ("unexpand", unexpand), ("comm", comm), ("od", od), ("sort", sort), ("uniq", uniq), ("tr", tr), ("cut", cut), ("grep", grep),
    ("egrep", egrep), ("fgrep", fgrep), ("expr", expr), ("sed", sed), ("ls", ls), ("dir", ls),
    ("vdir", ls), ("touch", touch), ("mkdir", mkdir), ("rmdir", rmdir), ("rm", rm),
    ("unlink", unlink), ("cp", cp), ("mv", mv), ("ln", ln), ("readlink", readlink),
    ("realpath", realpath), ("chmod", chmod), ("cmp", cmp), ("find", find), ("which", which)]

/-- The tool of a name. -/
def named (name : String) : Tool :=
  ((common ++ others).lookup name).getD (refuse 1)

/-- A tool of the table is found under its name. -/
theorem named_common : named "true" = succeed ∧ named "false" = fail := ⟨rfl, rfl⟩

end Tool

end Script

end LineShell
