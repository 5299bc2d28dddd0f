import LineShell.Script.Pattern
import LineShell.Script.Tool.Print

/-!
# Tools for files

Tools that name files and directories, make, copy, move and remove them.
-/

namespace LineShell

namespace Script

namespace Tool

/-! ### Nodes and places -/

/-- What is at a path, where a link at its end is not followed. -/
def ownNode (path : Octets) : Task (Except String Node) := do
  match ← ownPlaceOf path with
  | .error e => return .error e
  | .ok place => match (← get).disk.nodeAt place with
    | some n => return .ok n
    | none => return .error (faultText .notFound)

/-- Whether a node is a link. -/
def isLinkNode : Node → Bool
  | .link _ => true
  | _ => false

/-- The entries of a directory in order of their names. -/
def sortedEntries : Node → List (Octets × Node)
  | .directory es =>
      (es.map fun e => (octetsOf e.1, e.2)).mergeSort fun a b => octetsLe a.1 b.1
  | _ => []

/-- A path with a name behind it. -/
def below (path name : Octets) : Octets :=
  if path.getLast? = some '/' then path ++ name else path ++ '/' :: name

/-! ### Naming files -/

/-- The mark behind a name that tells what it stands for. -/
def kindMark (classify slash : Bool) (n : Node) : Octets :=
  match n with
  | .directory _ => if classify || slash then ['/'] else []
  | .link _ => if classify then ['@'] else []
  | .program _ => if classify then ['*'] else []
  | _ => []

/-- How names are shown. -/
structure Listed where
  /-- Whether names that begin with a dot are shown. -/
  dots : Bool
  /-- Whether the directory itself and the one above it are shown. -/
  own : Bool
  /-- The last name first. -/
  reversed : Bool
  /-- With a mark for what they stand for. -/
  classify : Bool
  /-- With a mark for directories. -/
  slash : Bool
  /-- Between quotation marks. -/
  quotes : Bool
  /-- In one line with commas. -/
  commas : Bool

/-- A name as it is shown. -/
def Listed.shown (o : Listed) (e : Octets × Node) : Octets :=
  (if o.quotes then '"' :: e.1 ++ ['"'] else e.1) ++ kindMark o.classify o.slash e.2

/-- Names as lines. -/
def Listed.lines (o : Listed) (es : List (Octets × Node)) : Octets :=
  let names := (if o.reversed then es.reverse else es).map o.shown
  if names.isEmpty then []
  else if o.commas then ", ".toList.intercalate names ++ ['\n'] else unlines names

/-- The entries of a directory that are shown. -/
def Listed.entries (o : Listed) (n : Node) : List (Octets × Node) :=
  let es := (sortedEntries n).filter fun e => o.dots || e.1.head? != some '.'
  if o.own then (['.'], .directory []) :: (['.', '.'], .directory []) :: es else es

/-- The section of a directory, and those of the directories in it. The number bounds their
depth. -/
def Listed.sections (o : Listed) (titled recursive : Bool) : Nat → Octets → Node → List Octets
  | 0, _, _ => []
  | k + 1, path, n =>
      let es := o.entries n
      let own := (if titled then path ++ ":\n".toList else []) ++ o.lines es
      let inner := if recursive then
          (if o.reversed then es.reverse else es).flatMap fun e =>
            if isDirectoryNode e.2 && e.1 != ['.'] && e.1 != ['.', '.'] then
              o.sections titled recursive k (below path e.1) e.2
            else []
        else []
      own :: inner

/-- The options for naming files. -/
def lsRules : OptionRules :=
  ⟨"abcdfghiklmnopqrstuvw:xABCDFGHI:LNQRST:UXZ1βγκ::δεζ:η:θ:λ::μ:νξ:π:ρ:σφ:ψ::",
    [("all", 'a'), ("escape", 'b'), ("directory", 'd'), ("dired", 'D'), ("full-time", 'β'),
      ("group-directories-first", 'γ'), ("human-readable", 'h'), ("inode", 'i'), ("kibibytes", 'k'),
      ("numeric-uid-gid", 'n'), ("no-group", 'G'), ("hide-control-chars", 'q'), ("reverse", 'r'),
      ("size", 's'), ("width", 'w'), ("almost-all", 'A'), ("ignore-backups", 'B'),
      ("classify", 'ψ'), ("file-type", 'δ'), ("si", 'ε'), ("dereference-command-line", 'H'),
      ("dereference-command-line-symlink-to-dir", 'σ'), ("hide", 'ζ'), ("ignore", 'I'),
      ("indicator-style", 'η'), ("dereference", 'L'), ("literal", 'N'), ("quote-name", 'Q'),
      ("quoting-style", 'θ'), ("recursive", 'R'), ("format", 'μ'), ("show-control-chars", 'ν'),
      ("sort", 'ξ'), ("tabsize", 'T'), ("time", 'π'), ("time-style", 'ρ'), ("zero", 'ω'),
      ("color", 'κ'), ("hyperlink", 'λ'), ("block-size", 'φ'), ("context", 'Z'), ("author", 'α')],
    true, 2⟩

/-- Naming files and what directories hold. -/
def ls : Tool := fun c => do
  let a ← arguments lsRules c
  let o : Listed := ⟨a.has 'a' || a.has 'A', a.has 'a', a.has 'r', a.has 'F', a.has 'p', a.has 'Q',
    a.has 'm'⟩
  let names := if a.operands.isEmpty then [['.']] else a.operands
  let found ← names.mapM fun p => do
    let n ← if a.has 'd' || a.has 'F' then ownNode p else do
      match ← node p with
      | .ok n => pure (.ok n)
      | .error e => do
          match ← ownNode p with
          | .ok n => pure (.ok n)
          | .error _ => pure (.error e)
    match n with
    | .ok n => return some (p, n)
    | .error e => do
        say c (octetsOf "cannot access " ++ quoteAlways p ++ octetsOf ": " ++ octetsOf e)
        return none
  let present := (found.filterMap id).mergeSort fun x y => octetsLe x.1 y.1
  let (directories, files) := present.partition fun e => isDirectoryNode e.2 && !a.has 'd'
  let directories := if o.reversed then directories.reverse else directories
  let titled := names.length > 1 || a.has 'R'
  let sections := directories.flatMap fun e => o.sections titled (a.has 'R') 1000 e.1 e.2
  let sections := if files.isEmpty then sections else o.lines files :: sections
  write (['\n'].intercalate sections)
  return if found.all Option.isSome then 0 else 2

/-- Saying what cannot be done with a file. -/
def sayCannot (c : Call) (what : String) (path : Octets) (e : String) : Task Unit :=
  say c (octetsOf what ++ ' ' :: quoteAlways path ++ octetsOf ": " ++ octetsOf e)

/-- Ending because there is no operand. -/
def failMissing {α : Type} (c : Call) (what : String) : Task α := failUsage c 1 (octetsOf what)

/-! ### Making -/

/-- Making empty files where there are none. -/
def touch : Tool := fun c => do
  let a ← arguments ⟨"acd:fhmr:t:τ:", [("time", 'τ'), ("no-create", 'c'), ("date", 'd'),
    ("reference", 'r'), ("no-dereference", 'h')], true, 1⟩ c
  if a.operands.isEmpty then failMissing c "missing file operand"
  else forEach a.operands fun p => do
    match ← node p with
    | .ok _ => return true
    | .error _ =>
        if a.has 'c' then return true
        else match ← writeFile p [] with
          | .ok _ => return true
          | .error e => do
              sayCannot c "cannot touch" p e
              return false

/-- Making a directory; or why it cannot be made. -/
def makeDirectory (path : Octets) : Task (Except String Unit) := do
  match ← ownPlaceOf (dropSlashes path) with
  | .error e => return .error e
  | .ok place => match (← get).disk.nodeAt place with
    | some _ => return .error "File exists"
    | none => do
        changeDisk (·.putAt place (.directory []))
        return .ok ()

/-- The paths of a directory and of those above it, from the first on. -/
def pathsTo (path : Octets) : List Octets :=
  let steps := path.splitOn '/'
  ((List.range steps.length).map fun i => ['/'].intercalate (steps.take (i + 1))).filter
    fun p => !p.isEmpty

/-- Making directories. -/
def mkdir : Tool := fun c => do
  let a ← arguments ⟨"pm:vZζ::", [("context", 'ζ'), ("mode", 'm'), ("parents", 'p'),
    ("verbose", 'v')], true, 1⟩ c
  let report (p : Octets) : Task Unit := do
    if a.has 'v' then write (c.name ++ octetsOf ": created directory " ++ quoteAlways p ++ ['\n'])
  if a.operands.isEmpty then failMissing c "missing operand"
  else forEach a.operands fun p => do
    let paths := if a.has 'p' then pathsTo (dropSlashes p) else [p]
    let results ← paths.mapM fun q => do
      if a.has 'p' && (← isDirectory q) then return true
      else match ← makeDirectory q with
        | .ok _ => do
            report q
            return true
        | .error e => do
            sayCannot c "cannot create directory" q e
            return false
    return results.all id

/-- Making links. -/
def ln : Tool := fun c => do
  let a ← arguments ⟨"bdfinrst:vFLPS:Tβ::", [("backup", 'β'), ("directory", 'F'),
    ("no-dereference", 'n'), ("no-target-directory", 'T'), ("force", 'f'), ("interactive", 'i'),
    ("suffix", 'S'), ("target-directory", 't'), ("logical", 'L'), ("physical", 'P'),
    ("relative", 'r'), ("symbolic", 's'), ("verbose", 'v')], true, 1⟩ c
  let link (target path : Octets) : Task Bool := do
    let made : Except String Node ← if a.has 's' then pure (.ok (.link (pathText target)))
      else ownNode target
    match made with
    | .error e => do
        sayCannot c "failed to access" target e
        return false
    | .ok n =>
        if !a.has 's' && isDirectoryNode n then
          say c (quoteIfNeeded target ++ octetsOf ": hard link not allowed for directory")
          return false
        else
          let kind := if a.has 's' then "failed to create symbolic link"
            else "failed to create hard link"
          match ← ownPlaceOf path with
          | .error e => do
              sayCannot c kind path e
              return false
          | .ok place => do
              if ((← get).disk.nodeAt place).isSome && !a.has 'f' then
                sayCannot c kind path "File exists"
                return false
              else
                changeDisk fun d => (d.removeAt place).putAt place n
                if a.has 'v' then
                  write (quoteAlways path ++ octetsOf (if a.has 's' then " -> " else " => ") ++
                    quoteAlways target ++ ['\n'])
                return true
  match a.operands with
  | [] => failMissing c "missing file operand"
  | [target] => forEach [target] fun t => link t (lastName t)
  | targets =>
      let last := targets.getLast?.getD []
      if (← isDirectory last) && !(a.has 'n' && targets.length = 2) then
        forEach targets.dropLast fun t => link t (below last (lastName t))
      else match targets with
        | [target, path] => forEach [target] fun t => link t path
        | _ => failWith c 1 (octetsOf "target " ++ quoteAlways last ++ octetsOf ": " ++
            octetsOf (if ← isThere last then "Not a directory" else "No such file or directory"))

/-! ### Removing -/

/-- Removing empty directories. -/
def rmdir : Tool := fun c => do
  let a ← arguments ⟨"pvι", [("ignore-fail-on-non-empty", 'ι'), ("path", 'p'), ("parents", 'p'),
    ("verbose", 'v')], true, 1⟩ c
  if a.operands.isEmpty then failMissing c "missing operand"
  else forEach a.operands fun p => do
    let fault : Option String ← do
      match ← ownNode (dropSlashes p) with
      | .error e => pure (some e)
      | .ok (.directory []) => pure none
      | .ok (.directory _) => pure (some "Directory not empty")
      | .ok _ => pure (some "Not a directory")
    match fault, ← ownPlaceOf (dropSlashes p) with
    | none, .ok place => do
        changeDisk (·.removeAt place)
        return true
    | fault, _ => do
        sayCannot c "failed to remove" p (fault.getD "Invalid argument")
        return false

/-- What is said when files are removed, from the innermost on. The number bounds their depth. -/
def removals : Nat → Octets → Node → List Octets
  | 0, _, _ => []
  | k + 1, path, .directory es =>
      (es.flatMap fun e => removals k (below path (octetsOf e.1)) e.2) ++
        [octetsOf "removed directory " ++ quoteAlways path]
  | _, path, _ => [octetsOf "removed " ++ quoteAlways path]

/-- Removing files. -/
def rm : Tool := fun c => do
  let a ← arguments ⟨"dfirvIRι::ψπ::ρ", [("force", 'f'), ("interactive", 'ι'),
    ("one-file-system", 'ψ'), ("no-preserve-root", 'ρ'), ("preserve-root", 'π'),
    ("recursive", 'r'), ("dir", 'd'), ("verbose", 'v')], true, 1⟩ c
  let recursive := a.has 'r' || a.has 'R'
  if a.operands.isEmpty then
    if a.has 'f' then return 0 else failMissing c "missing operand"
  else forEach a.operands fun p => do
    match ← ownNode p with
    | .error e =>
        if a.has 'f' && (e = "No such file or directory" || e = "Not a directory") then
          return true
        else do
          sayCannot c "cannot remove" p e
          return false
    | .ok n =>
        let last := lastName p
        let isEmpty := match n with
          | .directory es => es.isEmpty
          | _ => true
        let fault : Option Octets :=
          if isDirectoryNode n && !recursive && !a.has 'd' then
            some (octetsOf "cannot remove " ++ quoteAlways p ++ octetsOf ": Is a directory")
          else if isDirectoryNode n && (last = ['.'] || last = ['.', '.']) then
            some (octetsOf "refusing to remove '.' or '..' directory: skipping " ++ quoteAlways p)
          else if isDirectoryNode n && !recursive && !isEmpty then
            some (octetsOf "cannot remove " ++ quoteAlways p ++ octetsOf ": Directory not empty")
          else none
        match fault, ← ownPlaceOf p with
        | none, .ok place => do
            changeDisk (·.removeAt place)
            if a.has 'v' then write (unlines (removals 1000 p n))
            return true
        | fault, _ => do
            fault.forM (say c)
            return false

/-- Removing one file. -/
def unlink : Tool := fun c => do
  let a ← arguments ⟨"", [], true, 1⟩ c
  match a.operands with
  | [] => failMissing c "missing operand"
  | _ :: extra :: _ => failUsage c 1 (octetsOf "extra operand " ++ quoteText extra)
  | [p] => match ← ownNode p, ← ownPlaceOf p with
    | .ok n, .ok place =>
        if isDirectoryNode n then
          failWith c 1 (octetsOf "cannot unlink " ++ quoteAlways p ++ octetsOf ": Is a directory")
        else do
          changeDisk (·.removeAt place)
          return 0
    | .error e, _ =>
        failWith c 1 (octetsOf "cannot unlink " ++ quoteAlways p ++ octetsOf ": " ++ octetsOf e)
    | _, .error e =>
        failWith c 1 (octetsOf "cannot unlink " ++ quoteAlways p ++ octetsOf ": " ++ octetsOf e)

/-! ### Copying and moving -/

/-- A directory with the entries of another put over its own. The number bounds their depth. -/
def overlay : Nat → Node → Option Node → Node
  | 0, n, _ => n
  | k + 1, .directory new, some (.directory old) =>
      .directory (new.foldl (fun es e =>
        Disk.setEntry e.1 (overlay k e.2 (es.lookup e.1)) es) old)
  | _, n, _ => n

/-- A tool that takes files to other places. -/
structure Mover where
  /-- Whether the files are removed from their old places. -/
  removes : Bool
  /-- Whether directories are taken. -/
  directories : Bool
  /-- Whether files that are there are left alone. -/
  keepsOld : Bool
  /-- Whether each file is named. -/
  verbose : Bool

/-- Taking a file to another place. -/
def Mover.take (m : Mover) (c : Call) (source path : Octets) : Task Bool := do
  let found ← if m.removes || m.directories then ownNode source else node source
  match found with
  | .error e => do
      sayCannot c "cannot stat" source e
      return false
  | .ok n => do
      let isDirectory := isDirectoryNode n
      if isDirectory && !m.directories && !m.removes then
        say c (octetsOf "-r not specified; omitting directory " ++ quoteAlways source)
        return false
      else
        let target ← if m.removes then ownPlaceOf (if isDirectory then dropSlashes path else path)
          else placeOf (if isDirectory then dropSlashes path else path)
        match ← ownPlaceOf source, target with
        | .ok old, .ok new => do
            let there := (← get).disk.nodeAt new
            if m.keepsOld && there.isSome then return true
            else if old = new then
              say c (quoteAlways source ++ octetsOf " and " ++ quoteAlways path ++
                octetsOf " are the same file")
              return false
            else if isDirectory && old.isPrefixOf new then
              say c (octetsOf (if m.removes then "cannot move " else "cannot copy a directory, ") ++
                quoteAlways source ++ octetsOf (if m.removes then " to a subdirectory of itself, "
                  else ", into itself, ") ++ quoteAlways path)
              return false
            else match isDirectory, there.map isDirectoryNode with
              | true, some false => do
                  say c (octetsOf "cannot overwrite non-directory " ++ quoteAlways path ++
                    octetsOf " with directory " ++ quoteAlways source)
                  return false
              | false, some true => do
                  say c (octetsOf "cannot overwrite directory " ++ quoteAlways path ++
                    octetsOf " with non-directory")
                  return false
              | _, _ => do
                  let put := if m.removes then n else overlay 1000 n there
                  if m.removes then changeDisk (·.removeAt old)
                  changeDisk (·.putAt new put)
                  if m.verbose then
                    write ((if m.removes then octetsOf "renamed " else []) ++ quoteAlways source ++
                      octetsOf " -> " ++ quoteAlways path ++ ['\n'])
                  return true
        | .ok _, .error e => do
            let isOpen := !isDirectory && path.getLast? = some '/'
            let e := if isOpen && (← placeOf (dropSlashes path)).toOption.isSome then
                faultText .notADirectory
              else e
            if m.removes then
              say c (octetsOf "cannot move " ++ quoteAlways source ++ octetsOf " to " ++
                quoteAlways path ++ octetsOf ": " ++ octetsOf e)
            else if isDirectory then sayCannot c "cannot create directory" path e
            else sayCannot c "cannot create regular file" path e
            return false
        | .error e, _ => do
            sayCannot c "cannot stat" source e
            return false

/-- Taking files to the last operand, or into it if it is a directory. -/
def Mover.run (m : Mover) (c : Call) (operands : List Octets) : Task Nat := do
  match operands with
  | [] => failMissing c "missing file operand"
  | [p] => failUsage c 1 (octetsOf "missing destination file operand after " ++ quoteAlways p)
  | operands => do
      let last := operands.getLast?.getD []
      if ← isDirectory last then
        forEach operands.dropLast fun s => m.take c s (below last (lastName s))
      else match operands with
        | [source, path] => forEach [source] fun s => m.take c s path
        | _ =>
            let e := if ← isThere last then "Not a directory" else "No such file or directory"
            failWith c 1 (octetsOf "target " ++ quoteAlways last ++ octetsOf ": " ++ octetsOf e)

/-- The options for copying. -/
def copyRules : OptionRules :=
  ⟨"abdfHilLnprst:uvxPRS:TZαβ::γδεζ::θκ:λμν:ξ::π::ρ::ψ",
    [("archive", 'a'), ("attributes-only", 'α'), ("backup", 'β'), ("copy-contents", 'γ'),
      ("debug", 'δ'), ("dereference", 'L'), ("force", 'f'), ("interactive", 'i'), ("link", 'l'),
      ("no-clobber", 'n'), ("no-dereference", 'P'), ("no-preserve", 'ν'),
      ("no-target-directory", 'T'), ("one-file-system", 'x'), ("parents", 'θ'), ("path", 'θ'),
      ("preserve", 'π'), ("recursive", 'R'), ("remove-destination", 'ε'), ("sparse", 'κ'),
      ("reflink", 'ρ'), ("strip-trailing-slashes", 'ψ'), ("suffix", 'S'), ("symbolic-link", 's'),
      ("target-directory", 't'), ("update", 'ξ'), ("verbose", 'v'), ("context", 'ζ')], true, 1⟩

/-- Copying files. -/
def cp : Tool := fun c => do
  let a ← arguments copyRules c
  let directories := a.has 'r' || a.has 'R' || a.has 'a'
  Mover.run ⟨false, directories, a.has 'n', a.has 'v'⟩ c a.operands

/-- Moving files. -/
def mv : Tool := fun c => do
  let a ← arguments ⟨"bfint:uvS:TZβ::δνξ::ψ", [("backup", 'β'), ("context", 'Z'), ("debug", 'δ'),
    ("force", 'f'), ("interactive", 'i'), ("no-clobber", 'n'), ("no-copy", 'ν'),
    ("no-target-directory", 'T'), ("strip-trailing-slashes", 'ψ'), ("suffix", 'S'),
    ("target-directory", 't'), ("update", 'ξ'), ("verbose", 'v')], true, 1⟩ c
  Mover.run ⟨true, true, a.has 'n', a.has 'v'⟩ c a.operands

/-! ### Looking at files -/

/-- A place as an absolute path. -/
def absolute (place : List String) : Octets := '/' :: ['/'].intercalate (place.map octetsOf)

/-- Writing the targets of links, or the places to which paths lead. -/
def readlink : Tool := fun c => do
  let a ← arguments ⟨"efmnqsvz", [("canonicalize", 'f'), ("canonicalize-existing", 'e'),
    ("canonicalize-missing", 'm'), ("no-newline", 'n'), ("quiet", 'q'), ("silent", 's'),
    ("verbose", 'v'), ("zero", 'z')], true, 1⟩ c
  if a.operands.isEmpty then failMissing c "missing operand"
  else
    let finish := if a.has 'n' && a.operands.length = 1 then [] else ['\n']
    forEach a.operands fun p => do
      if a.has 'f' || a.has 'e' || a.has 'm' then
        match ← placeOf p with
        | .ok place => do
            write (absolute place ++ finish)
            return true
        | .error _ => return false
      else match ← ownNode p with
        | .ok (.link target) => do
            write (octetsOf target ++ finish)
            return true
        | _ => return false

/-- Writing the places to which paths lead. -/
def realpath : Tool := fun c => do
  let a ← arguments ⟨"eLmPqszβ:ρ:", [("canonicalize-existing", 'e'),
    ("canonicalize-missing", 'm'), ("relative-to", 'ρ'), ("relative-base", 'β'), ("quiet", 'q'),
    ("strip", 's'), ("no-symlinks", 's'), ("zero", 'z'), ("logical", 'L'), ("physical", 'P')],
    true, 1⟩ c
  if a.operands.isEmpty then failMissing c "missing operand"
  else forEach a.operands fun p => do
    let found ← if a.has 'e' then do
        match ← node p with
        | .ok _ => placeOf p
        | .error e => pure (.error e)
      else placeOf p
    match found with
    | .ok place => do
        write (absolute place ++ ['\n'])
        return true
    | .error e => do
        say c (quoteIfNeeded p ++ octetsOf ": " ++ octetsOf e)
        return false

/-- Changing who may do what with files, which is not kept. -/
def chmod : Tool := fun c => do
  let a ← arguments ⟨"Rcfvrwxνπρ:", [("changes", 'c'), ("recursive", 'R'),
    ("no-preserve-root", 'ν'), ("preserve-root", 'π'), ("quiet", 'f'), ("reference", 'ρ'),
    ("silent", 'f'), ("verbose", 'v')], true, 1⟩ c
  match a.operands with
  | [] => failMissing c "missing operand"
  | [mode] => failUsage c 1 (octetsOf "missing operand after " ++ quoteText mode)
  | _ :: paths => forEach paths fun p => do
      match ← node p with
      | .ok _ => return true
      | .error e => do
          sayCannot c "cannot access" p e
          return false

/-- Comparing two files octet by octet. -/
def cmp : Tool := fun c => do
  let a ← arguments ⟨"bci:ln:sv", [("print-bytes", 'b'), ("print-chars", 'c'),
    ("ignore-initial", 'i'), ("verbose", 'l'), ("bytes", 'n'), ("silent", 's'), ("quiet", 's'),
    ("version", 'v'), ("help", manualLetter)], true, 2⟩ c
  match a.operands with
  | x :: rest => do
      let y := rest.headD ['-']
      let texts ← [x, y].mapM fun n => do
        match ← readSource n with
        | .ok cs => return cs
        | .error e => do
            say c (n ++ octetsOf ": " ++ octetsOf e)
            throw 2
      let p := texts.headD []
      let q := (texts.drop 1).headD []
      let same := ((List.zip p q).takeWhile fun e => e.1 == e.2).length
      if p = q then return 0
      else if a.has 's' then return 1
      else if same < p.length && same < q.length then do
        let line := (p.take same).count '\n' + 1
        write (x ++ ' ' :: y ++ octetsOf " differ: char " ++ Numeral.digits (same + 1) ++
          octetsOf ", line " ++ Numeral.digits line ++ ['\n'])
        return 1
      else do
        let shorter := if p.length < q.length then x else y
        let text := if p.length < q.length then p else q
        if text.isEmpty then say c (octetsOf "EOF on " ++ shorter ++ octetsOf " which is empty")
        else say c (octetsOf "EOF on " ++ shorter ++ octetsOf " after byte " ++
          Numeral.digits text.length ++ octetsOf ", line " ++
          Numeral.digits (text.count '\n' + if text.getLast? = some '\n' then 0 else 1))
        return 1
  | [] => do
      say c (octetsOf "missing operand after '" ++ c.name ++ ['\''])
      complain (c.name ++ octetsOf ": Try '" ++ c.name ++
        octetsOf " --help' for more information.")
      return 2

/-! ### Finding files -/

/-- What a file that is looked for has to be. -/
inductive Wanted where
  /-- Its name fits a pattern. -/
  | name (pattern : List Mark)
  /-- Its path fits a pattern. -/
  | path (pattern : List Mark)
  /-- It is of a kind. -/
  | kind (letter : Char)
  /-- It holds nothing. -/
  | empty
  /-- It is not what follows. -/
  | not (w : Wanted)

/-- Whether a file is what is wanted. -/
def Wanted.admits (path : Octets) (n : Node) : Wanted → Bool
  | name ms => fits ms (lastName path)
  | .path ms => fits ms path
  | kind letter => match n with
    | .directory _ => letter == 'd'
    | .link _ => letter == 'l'
    | .device => letter == 'c'
    | _ => letter == 'f'
  | empty => match n with
    | .directory es => es.isEmpty
    | n => Disk.bytesOf? n == some []
  | not w => !w.admits path n

/-- How files are looked for. -/
structure Search where
  /-- What they have to be. -/
  wanted : List Wanted
  /-- The least depth. -/
  least : Nat
  /-- The greatest depth. -/
  most : Nat
  /-- Whether what a directory holds stands before it. -/
  innerFirst : Bool

/-- The paths that are found from a node on, at a depth. The first number bounds the depth. -/
def Search.run (s : Search) : Nat → Nat → Octets → Node → List Octets
  | 0, _, _, _ => []
  | k + 1, depth, path, n =>
      let own := if s.least ≤ depth && s.wanted.all (Wanted.admits path n) then [path] else []
      let inner := if s.most ≤ depth then []
        else (sortedEntries n).flatMap fun e => s.run k (depth + 1) (below path e.1) e.2
      if s.innerFirst then inner ++ own else own ++ inner

/-- The search that arguments ask for, or what is said about them. -/
def readSearch (s : Search) : List Octets → Except Octets Search
  | [] => .ok s
  | [w] =>
      if w = octetsOf "-print" then .ok s
      else if w = octetsOf "-empty" then .ok { s with wanted := s.wanted ++ [.empty] }
      else if w = octetsOf "-depth" then .ok { s with innerFirst := true }
      else if valued.contains (String.ofList w) then
        .error (octetsOf "missing argument to `" ++ w ++ ['\''])
      else .error (unknown w)
  | w :: v :: rest =>
      if w = octetsOf "-print" then readSearch s (v :: rest)
      else if w = octetsOf "-empty" then
        readSearch { s with wanted := s.wanted ++ [.empty] } (v :: rest)
      else if w = octetsOf "-depth" then readSearch { s with innerFirst := true } (v :: rest)
      else if w = ['!'] || w = octetsOf "-not" then do
        let before := s.wanted.length
        let t ← readSearch { s with wanted := s.wanted } (v :: rest)
        return { t with wanted := t.wanted.mapIdx fun i x => if i = before then .not x else x }
      else if w = octetsOf "-name" then
        readSearch { s with wanted := s.wanted ++ [.name (marksOf (glyphs false v))] } rest
      else if w = octetsOf "-path" then
        readSearch { s with wanted := s.wanted ++ [.path (marksOf (glyphs false v))] } rest
      else if w = octetsOf "-type" then
        readSearch { s with wanted := s.wanted ++ [.kind (v.headD ' ')] } rest
      else if w = octetsOf "-maxdepth" then readSearch { s with most := ofDigits v } rest
      else if w = octetsOf "-mindepth" then readSearch { s with least := ofDigits v } rest
      else .error (unknown w)
where
  /-- The names of tests with an argument. -/
  valued : List String := ["-name", "-path", "-type", "-maxdepth", "-mindepth", "!", "-not"]
  /-- What is said about a test that there is not. -/
  unknown (w : Octets) : Octets := octetsOf "unknown predicate `" ++ w ++ ['\'']

/-- Looking for files. -/
def find : Tool := fun c => do
  let isTest (w : Octets) : Bool := w.head? = some '-' || w = ['!'] || w = ['(']
  let starts := c.args.takeWhile fun w => !isTest w
  match readSearch ⟨[], 0, 100000, false⟩ (c.args.drop starts.length) with
  | .error e => failWith c 1 e
  | .ok s => forEach (if starts.isEmpty then [['.']] else starts) fun p => do
      match ← ownNode p with
      | .ok n => do
          write (unlines (s.run 1000 0 p n))
          return true
      | .error e => do
          say c (quoteAlways p ++ octetsOf ": " ++ octetsOf e)
          return false

/-- Writing where programs are found. -/
def which : Tool := fun c => do
  let a ← arguments ⟨"as", [], false, 2⟩ c
  let path := ((c.environment.lookup (octetsOf "PATH")).getD []).splitOn ':'
  forEach a.operands fun n => do
    let candidates := if n.contains '/' then [n] else path.map fun p => below p n
    let found ← candidates.filterM fun p => do
      match ← node p with
      | .ok (.program _) => return true
      | _ => return false
    write (unlines (if a.has 'a' then found else found.take 1))
    return !found.isEmpty

end Tool

end Script

end LineShell
