import LineShell.Script.Builtin.Basic

/-!
# Changing the working directory

The shell knows its working directory by the path on which it has come there. A step to the directory
above leaves out the last name of that path, whatever the links on it lead to.

Main statement: `steps_up`, by which a step down and a step up again lead nowhere.
-/

namespace LineShell

namespace Script

namespace Builtin

/-! ### Paths -/

/-- The names behind those of a path that steps lead to. -/
def steps : List Octets → List Octets → List Octets
  | here, [] => here
  | here, s :: rest =>
      if s.isEmpty || s = ['.'] then steps here rest
      else if s = ['.', '.'] then steps here.dropLast rest
      else steps (here ++ [s]) rest

/-- A step down and a step up again lead nowhere. -/
theorem steps_up (names : List Octets) {s : Octets} (hs : s ≠ []) (h1 : s ≠ ['.'])
    (h2 : s ≠ ['.', '.']) (rest : List Octets) :
    steps names (s :: ['.', '.'] :: rest) = steps names rest := by
  simp [steps, hs, h1, h2]

/-- The path to which another one leads from a directory. -/
def pathFrom (directory path : Octets) : Octets :=
  let isAbsolute := path.head? = some '/'
  let start := if isAbsolute then [] else steps [] (directory.splitOn '/')
  let root := if path.take 2 = ['/', '/'] && path[2]? != some '/' then "//".toList
    else if !isAbsolute && directory.take 2 = ['/', '/'] then "//".toList else ['/']
  root ++ ['/'].intercalate (steps start (path.splitOn '/'))

/-! ### Going there -/

/-- The directory to which a path leads. -/
def directoryAt (d : Disk) (path : Octets) : Except Disk.Fault (List String) := do
  let s := String.ofList (textOf path)
  let place ← d.placeOf true (Path.isAbsoluteText s) (Path.stepsOf s)
  match d.nodeAt place with
  | some (.directory _) => return place
  | some _ => throw .notADirectory
  | none => throw .notFound

/-- Making a directory the working one, under a path. -/
def enter (place : List String) (path : Octets) : Action Unit := do
  let old ← Action.textOf "PWD"
  Action.setDisk { (← Action.disk) with working := place }
  for (name, cs) in [("OLDPWD", old), ("PWD", path)] do
    Action.setText name.toList cs
    match ← Action.variableNamed? name.toList with
    | some v => Action.putVariable name.toList { v with exported := true }
    | none => pure ()

/-- The directories under which one is looked for. -/
def directoriesFor (target : Octets) : Action (List Octets) := do
  let isPlain := target.head? != some '/' && target.head? != some '.'
  match ← Action.textOf? "CDPATH".toList with
  | some cs => return if isPlain then cs.splitOn ':' else [[]]
  | none => return [[]]

/-- The first of paths that leads to a directory, with its place. In the extended shell the path
itself has to lead there, and not only what is left of it without the steps up. -/
def firstDirectory (directory : Octets) (isPhysical : Bool) :
    List Octets → Action (Option (List String × Octets))
  | [] => return none
  | path :: paths => do
      let d ← Action.disk
      let isLogical := !isPhysical && (!(← Action.isExtended) || (directoryAt d path).isOk)
      let logical := pathFrom directory path
      match directoryAt d (if isLogical then logical else path) with
      | .ok place => return some (place, if isLogical then logical else Tool.absolute place)
      | .error _ => firstDirectory directory isPhysical paths

/-- Going to a directory. -/
def goTo (name target : Octets) (isPhysical isShown : Bool) : Deed Nat := do
  if target.isEmpty then return 0
  else
    let starts ← directoriesFor target
    let paths := starts.map fun p =>
      if p.isEmpty then target else if p.getLast? = some '/' then p ++ target
        else p ++ '/' :: target
    let paths := if paths.contains target then paths else paths ++ [target]
    match ← firstDirectory (← Action.textOf "PWD") isPhysical paths with
    | some (place, path) => do
        enter place path
        let isFound := starts != [[]] && !path.isEmpty && starts.any fun p => !p.isEmpty
        if isShown || isFound then write name (path ++ ['\n'])
        return 0
    | none => do
        let reason := match directoryAt (← Action.disk) target with
          | .ok _ => "No such file or directory"
          | .error f => Tool.faultText f
        failBy name (octetsOf "can't cd to " ++ target)
          (shownName target ++ octetsOf ": " ++ octetsOf reason) 2 1

/-- Changing the working directory. -/
def cd : Builtin := fun _ name args => do
  let extended ← Action.isExtended
  let (os, operands) ← options name (if extended then "LPe@" else "LP") "" args
  let isPhysical := ((os.filter fun o => o.1 == 'L' || o.1 == 'P').getLast?.map Prod.fst) == some 'P'
  if extended && operands.length > 1 then fail name (octetsOf "too many arguments") 1
  else match operands with
    | [] => match ← Action.textOf? "HOME".toList with
      | some home => goTo name home isPhysical false
      | none => if extended then fail name (octetsOf "HOME not set") 1 else return 0
    | ['-'] :: _ => match ← Action.textOf? "OLDPWD".toList with
      | some old => goTo name old isPhysical true
      | none => do
          if extended then fail name (octetsOf "OLDPWD not set") 1
          else do
            write name ((← Action.textOf "PWD") ++ ['\n'])
            return 0
    | target :: _ => goTo name target isPhysical false

end Builtin

end Script

end LineShell
