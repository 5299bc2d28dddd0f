import LineShell.Proofs.Command.Sorting
import LineShell.Proofs.Text.Quoting
import LineShell.Proofs.Text.Words

/-!
# The command line that sorts a file

If its first word names a file, `sort` hands its words to the system, on one line that begins with its own
name (`calls_runSort`). The name needs no quotes, so the line is that of all these words, quoted
(`sortCommandLine_eq_unwords`).

**Main statement** (`runSort_hands_on_words`): whatever the words are, a shell reads the line as the name and
the words, and finds nothing in it that means more.
-/

namespace LineShell

/-- **Quoted words on one line are read as the words.** -/
theorem Text.readShellWords?_unwords_shellQuote (ws : List String) :
    Chars.readShellWords? (unwords (ws.map shellQuote)).toList = some (ws.map String.toList) := by
  have hline : (unwords (ws.map shellQuote)).toList =
      [' '].intercalate ((ws.map String.toList).map Chars.shellQuote) := by
    rw [unwords, String.toList_intercalate, List.map_map, List.map_map]
    congr 1
    exact List.map_congr_left fun w _ => String.toList_ofList
  rw [hline, Chars.readShellWords?_intercalate_map_shellQuote]

namespace Act

/-- What hands no command line to the system adds none. -/
theorem calls_bind_of_calls_eq_nil {α β : Type} {x : Act α} {f : α → Act β} {c : Context}
    (hf : ∀ a t, Event.calls ((f a).run c t).events = []) (s : Store) :
    Event.calls ((x >>= f).run c s).events = Event.calls (x.run c s).events := by
  rw [run_bind]
  rcases x.run c s with ⟨result, t, es⟩
  cases result with
  | error e => rfl
  | ok a => rw [andThen_ok, Event.calls_append, hf, List.append_nil]

/-- Running a child hands one command line to the system, whatever comes of it. -/
theorem calls_runChild (commandLine : String) (c : Context) (s : Store) :
    Event.calls ((runChild commandLine).run c s).events = [(commandLine, c.shell)] := by
  rw [runChild, calls_bind_of_calls_eq_nil]
  · rfl
  · intro r t
    rw [calls_bind_of_calls_eq_nil]
    · cases r.child? commandLine <;> rfl
    · intro _ u
      cases Child.ofReply commandLine r <;> rfl

end Act

namespace Command

/-- The name of the command is a word like the others. -/
theorem sortCommandLine_eq_unwords {args : List String} (h : args ≠ []) :
    sortCommandLine args = Text.unwords (("sort" :: args).map Text.shellQuote) := by
  have hname : Text.shellQuote "sort" = "sort" := by decide
  have hne : args.map Text.shellQuote ≠ [] := by simpa using h
  rw [List.map_cons, hname, Text.unwords_cons_of_ne_nil _ hne, sortCommandLine]
  rfl

/-- Having the system sort hands it the one command line for that. -/
theorem calls_sortFile (args : List String) (c : Context) (s : Store) :
    Event.calls ((sortFile args).run c s).events = [(sortCommandLine args, c.shell)] := by
  rw [sortFile, Act.calls_bind_of_calls_eq_nil fun _ _ => rfl, Act.calls_runChild]

/-- If its first word names a file, `sort` has the system sort. -/
theorem calls_runSort {w : String} {s : Store} (hfile : NamesFile s w) (ws : List String) (c : Context) :
    Event.calls ((runSort (w :: ws)).run c s).events = [(sortCommandLine (w :: ws), c.shell)] := by
  have hfound : s.disk.isFile (Path.ofString w) = .ok true := hfile
  have hsort : (runSort (w :: ws)).run c s = (sortFile (w :: ws)).run c s := by
    simp [runSort, hfound, Act.ofExcept]
  rw [hsort, calls_sortFile]

/-- **A file is sorted by the words that were given.** If its first word names a file, `sort` hands one
command line to the system. By the quoting rules of the shell it consists of the word `sort` and the words
as they are, and no character in it that could be an operator or begin an expansion stands where it would
be. -/
theorem runSort_hands_on_words {w : String} {s : Store} (hfile : NamesFile s w) (ws : List String)
    (c : Context) :
    ∃ line : String, Event.calls ((runSort (w :: ws)).run c s).events = [(line, c.shell)] ∧
      Chars.readShellWords? line.toList = some (("sort" :: w :: ws).map String.toList) ∧
      ∀ p ∈ Chars.marked .none line.toList, p.1.isActive p.2 = false := by
  have hwords : Chars.readShellWords? (sortCommandLine (w :: ws)).toList =
      some (("sort" :: w :: ws).map String.toList) := by
    rw [sortCommandLine_eq_unwords (List.cons_ne_nil w ws), Text.readShellWords?_unwords_shellQuote]
  refine ⟨sortCommandLine (w :: ws), calls_runSort hfile ws c, hwords, ?_⟩
  exact Chars.not_isActive_of_mem_marked ⟨.between, rfl, Option.isSome_of_eq_some hwords⟩

/-- A session with nothing on its disk but an empty file of a given name. -/
def storeWithFile (name : String) : Store := ⟨⟨[]⟩, .empty, 10, ⟨[(name, .file [])], []⟩⟩

/-- A file whose name has quotes, an operator and an expansion in it, and options with a line feed, a
backquote and nothing in them. -/
theorem runSort_hands_on_words_of_quotes :
    NamesFile (storeWithFile "it's \"$HOME\"; rm *") "it's \"$HOME\"; rm *" ∧
      ∃ line : String,
        Event.calls ((runSort ["it's \"$HOME\"; rm *", "-k2\n|&", "", "`'"]).run
          ⟨Host.always (.finished 0 "" ""), none⟩
          (storeWithFile "it's \"$HOME\"; rm *")).events = [(line, none)] ∧
        Chars.readShellWords? line.toList =
          some (["sort", "it's \"$HOME\"; rm *", "-k2\n|&", "", "`'"].map String.toList) := by
  have hfile : NamesFile (storeWithFile "it's \"$HOME\"; rm *") "it's \"$HOME\"; rm *" := by
    unfold NamesFile
    decide +kernel
  obtain ⟨line, hcalls, hwords, -⟩ := runSort_hands_on_words hfile ["-k2\n|&", "", "`'"]
    ⟨Host.always (.finished 0 "" ""), none⟩
  exact ⟨hfile, line, hcalls, hwords⟩

end Command

end LineShell
