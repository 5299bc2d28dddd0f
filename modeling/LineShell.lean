import LineShell.Main
import LineShell.Calc.Extended
import LineShell.Calc.Tree
import LineShell.Calc.Spelling
import LineShell.Disk.Drawing
import LineShell.Script.Sorting.Version
import LineShell.Script.Sorting.Key
import LineShell.Script.Sorting.Order
import LineShell.Proofs.Calc.Grouping
import LineShell.Proofs.Calc.Reading
import LineShell.Proofs.Calc.Folding
import LineShell.Proofs.Alias.Acyclic
import LineShell.Proofs.Session.Keeping
import LineShell.Proofs.Session.Recording
import LineShell.Proofs.Calc.Application
import LineShell.Proofs.Calc.Outcome
import LineShell.Proofs.Session.Chaining
import LineShell.Proofs.Text.Words
import LineShell.Proofs.Alias.Resolution
import LineShell.Proofs.Session.Transparency
import LineShell.Proofs.Alias.Shown
import LineShell.Proofs.Session.Restoring
import LineShell.Proofs.Calc.Scanning
import LineShell.Proofs.Calc.Grammar
import LineShell.Proofs.Json.Nesting
import LineShell.Proofs.Settings.Loading
import LineShell.Proofs.Session.Containment
import LineShell.Proofs.Console.Transcript
import LineShell.Proofs.Decimal.Value
import LineShell.Proofs.Calc.Exactness
import LineShell.Proofs.Decimal.Nearest
import LineShell.Proofs.Calc.Division
import LineShell.Proofs.Calc.Operands
import LineShell.Proofs.Decimal.Notation
import LineShell.Proofs.Calc.PowerLimit
import LineShell.Proofs.History.References
import LineShell.Proofs.Decimal.Spelling
import LineShell.Proofs.Decimal.Canonical
import LineShell.Proofs.Decimal.Fixed
import LineShell.Proofs.Command.Sorting
import LineShell.Proofs.Disk.Name
import LineShell.Proofs.Command.LongNumerals
import LineShell.Proofs.Session.Output
import LineShell.Proofs.Text.Segments
import LineShell.Proofs.Settings.Types
import LineShell.Proofs.Session.Refusal
import LineShell.Proofs.Disk.Shown
import LineShell.Proofs.Disk.Drawn
import LineShell.Proofs.Disk.Below
import LineShell.Proofs.Disk.Listed
import LineShell.Proofs.Alias.Search
import LineShell.Proofs.Alias.Spelling
import LineShell.Proofs.Calc.Regrouping
import LineShell.Proofs.History.Rows
import LineShell.Proofs.Calc.Lexemes
import LineShell.Proofs.Calc.FoldLog
import LineShell.Proofs.Text.Quoting
import LineShell.Proofs.Command.SortLine
import LineShell.Proofs.Text.Capitals
import LineShell.Proofs.Console.Levels
