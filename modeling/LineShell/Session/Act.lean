import LineShell.Alias.Resolve
import LineShell.Calc.Error
import LineShell.Child
import LineShell.Disk.Listing
import LineShell.Event
import LineShell.History

/-!
# Acts

What a command does: it looks at the state of the session, changes it, and acts on the world
outside. An `Act` is a function from the state before to the state after, the events on the way,
and a value or the fault that ended it. State and events are kept when a fault ends an act.

The world outside is a `Host`: it runs command lines on the disk, tells the time, and sets bounds to
what can be written and followed.

Main statements: acts form a lawful monad, and there is one equation for each operation (`run_bind`
with `andThen_ok` and `andThen_error`, `run_call`, …), so that no proof need unfold one.
-/

namespace LineShell

/-- The world outside a session. -/
structure Host where
  /-- Runs a command line under a shell, the common one if none is named, and waits for its end. -/
  run : Option WideText → Disk → String → Child.Reply × Disk
  /-- The time of day. -/
  clock : String
  /-- How many characters the notation of a number may take. -/
  room : Nat
  /-- How many directories deep a listing goes. -/
  depth : Nat

/-- A world outside in which every command line ends alike and changes nothing. -/
def Host.always (reply : Child.Reply) : Host where
  run _ disk _ := (reply, disk)
  clock := "12:34:56"
  room := 1024
  depth := 64

/-- What an act can rely on. -/
structure Context where
  /-- The world outside. -/
  host : Host
  /-- The shell for external commands, if it is not the common one. -/
  shell : Option WideText

/-- The state of a session. -/
structure Store where
  /-- The lines that were entered. -/
  history : History
  /-- The aliases. -/
  aliases : Alias.Table
  /-- The passes that the expansion of an alias makes. -/
  maxPasses : Int
  /-- The files. -/
  disk : Disk

/-- What ends an act before its time. -/
inductive Fault where
  /-- A numeral is too long to be converted. -/
  | numeral (e : Numeral.LimitError)
  /-- A calculation comes to no value for a reason that is not the expression's. -/
  | calculation (f : Calc.Failure)
  /-- A command cannot be resolved. -/
  | resolution (e : Alias.ResolveError)
  /-- A path cannot be followed. -/
  | path (p : Path) (f : Disk.Fault)
  /-- A directory cannot be listed. -/
  | listing (e : Listing.Error)
  /-- There is no directory at a path that should lead to one. -/
  | notADirectory (path : String)
  /-- A command was given too many arguments. -/
  | tooManyArguments (command : String) (least most given : Nat)
  /-- There is no child that ended well. -/
  | child (e : Child.Error)
  /-- There is no room for what is to be written. -/
  | noRoom
  /-- A command turned its arguments down. -/
  | rejected (message : String)
deriving DecidableEq, Repr

namespace Fault

/-- How many arguments a command takes, in words. -/
def arityText (least most : Nat) : String :=
  if least = most then s!"{least} positional argument" ++ (if least = 1 then "" else "s")
  else s!"from {least} to {most} positional arguments"

/-- The wording of a fault. -/
def message : Fault → String
  | numeral e => e.message
  | calculation f => f.message
  | resolution e => e.message
  | path p f => f.message p
  | listing e => e.message
  | notADirectory given => s!"Not a directory: {given}"
  | tooManyArguments command least most given =>
      s!"{command}() takes {arityText least most} but {given} were given"
  | child e => e.message
  | noRoom => ""
  | rejected text => text

/-- An interruption from the keyboard ends more than the command that it meets. -/
def isInterrupt : Fault → Bool
  | child .interrupted => true
  | _ => false

end Fault

/-- What an act comes to. -/
structure Outcome (α : Type) where
  /-- Its value, or the fault that ended it. -/
  result : Except Fault α
  /-- The state after it. -/
  store : Store
  /-- What it did to the world outside. -/
  events : List Event

/-- Something that a command does. -/
structure Act (α : Type) where
  /-- What it comes to in a context, from a state on. -/
  run : Context → Store → Outcome α

namespace Act

/-- Acts that come to the same everywhere are the same. -/
@[ext] theorem ext {α : Type} {x y : Act α} (h : ∀ c s, x.run c s = y.run c s) : x = y := by
  cases x; cases y
  exact congrArg Act.mk (funext fun c => funext fun s => h c s)

/-- Doing nothing, with a value. -/
protected def pure {α : Type} (a : α) : Act α := ⟨fun _ s => ⟨.ok a, s, []⟩⟩

/-- What follows an outcome: the next act, unless a fault ended the one before. -/
def andThen {α β : Type} (c : Context) (f : α → Act β) : Outcome α → Outcome β
  | ⟨.ok a, s, es⟩ => ⟨((f a).run c s).result, ((f a).run c s).store, es ++ ((f a).run c s).events⟩
  | ⟨.error e, s, es⟩ => ⟨.error e, s, es⟩

/-- One act after another. The second depends on the value of the first and is left out if a fault
ended that. -/
protected def bind {α β : Type} (x : Act α) (f : α → Act β) : Act β :=
  ⟨fun c s => andThen c f (x.run c s)⟩

instance : Monad Act where
  pure := Act.pure
  bind := Act.bind

@[simp] theorem run_pure {α : Type} (a : α) (c : Context) (s : Store) :
    (pure a : Act α).run c s = ⟨.ok a, s, []⟩ := rfl

@[simp] theorem run_bind {α β : Type} (x : Act α) (f : α → Act β) (c : Context) (s : Store) :
    (x >>= f).run c s = andThen c f (x.run c s) := rfl

/-- Behind a value the next act goes on from the state that was left. -/
@[simp] theorem andThen_ok {α β : Type} (c : Context) (f : α → Act β) (a : α) (s : Store)
    (es : List Event) :
    andThen c f ⟨.ok a, s, es⟩ =
      ⟨((f a).run c s).result, ((f a).run c s).store, es ++ ((f a).run c s).events⟩ := rfl

/-- A fault ends what would follow. -/
@[simp] theorem andThen_error {α β : Type} (c : Context) (f : α → Act β) (e : Fault) (s : Store)
    (es : List Event) : andThen c f ⟨.error e, s, es⟩ = ⟨.error e, s, es⟩ := rfl

instance : LawfulMonad Act := LawfulMonad.mk' Act
  (by
    intro α x
    ext c s
    show andThen c (fun a => Act.pure a) (x.run c s) = x.run c s
    rcases x.run c s with ⟨r, s', es⟩
    cases r <;> simp [Act.pure])
  (by
    intro α β a f
    ext c s
    simp)
  (by
    intro α β γ x f g
    ext c s
    simp only [run_bind]
    rcases x.run c s with ⟨r, s', es⟩
    cases r with
    | error e => rfl
    | ok a =>
        simp only [andThen_ok, run_bind]
        rcases (f a).run c s' with ⟨r', s'', fs⟩
        cases r' <;> simp [List.append_assoc])

/-- A function on the value leaves all else as it is. -/
@[simp] theorem run_map {α β : Type} (f : α → β) (x : Act α) (c : Context) (s : Store) :
    (f <$> x).run c s = ⟨(x.run c s).result.map f, (x.run c s).store, (x.run c s).events⟩ := by
  rw [map_eq_pure_bind, run_bind]
  rcases x.run c s with ⟨r, s', es⟩
  cases r with
  | error e => rfl
  | ok a => simp [Except.map]

/-! ### Single acts -/

/-- Ending with a fault. -/
def fail {α : Type} (e : Fault) : Act α := ⟨fun _ s => ⟨.error e, s, []⟩⟩

/-- The value of a computation, or its failure as a fault. -/
def ofExcept {ε α : Type} (toFault : ε → Fault) : Except ε α → Act α
  | .ok a => pure a
  | .error e => fail (toFault e)

/-- An event. -/
def emit (e : Event) : Act Unit := ⟨fun _ s => ⟨.ok (), s, [e]⟩⟩

/-- Writing a text. -/
def write (text : String) : Act Unit := emit (.out text)

/-- Writing a diagnostic. -/
def writeErr (text : String) : Act Unit := emit (.err text)

/-- Writing texts one after another. -/
def writeAll : List String → Act Unit
  | [] => pure ()
  | l :: ls => do write l; writeAll ls

/-- Writing diagnostics one after another. -/
def writeErrAll : List String → Act Unit
  | [] => pure ()
  | l :: ls => do writeErr l; writeErrAll ls

/-- A note for the log. -/
def note (n : Note) : Act Unit := emit (.note n)

/-- The state of the session. -/
def get : Act Store := ⟨fun _ s => ⟨.ok s, s, []⟩⟩

/-- Changing the state of the session. -/
def modify (f : Store → Store) : Act Unit := ⟨fun _ s => ⟨.ok (), f s, []⟩⟩

/-- The time of day. -/
def clock : Act String := ⟨fun c s => ⟨.ok c.host.clock, s, []⟩⟩

/-- How many characters the notation of a number may take. -/
def room : Act Nat := ⟨fun c s => ⟨.ok c.host.room, s, []⟩⟩

/-- How many directories deep a listing goes. -/
def depth : Act Nat := ⟨fun c s => ⟨.ok c.host.depth, s, []⟩⟩

/-- Handing a command line to the system. -/
def call (commandLine : String) : Act Child.Reply :=
  ⟨fun c s =>
    let answer := c.host.run c.shell s.disk commandLine
    ⟨.ok answer.1, { s with disk := answer.2 }, [.call commandLine c.shell]⟩⟩

/-- What an act comes to, as a value: its own value or the fault that ended it. -/
def attempt {α : Type} (x : Act α) : Act (Except Fault α) :=
  ⟨fun c s => ⟨.ok (x.run c s).result, (x.run c s).store, (x.run c s).events⟩⟩

/-- The note about a child, if it finished. -/
def noteChild : Option Child → Act Unit
  | some c => note (.childFinished c.commandLine c.code)
  | none => pure ()

/-- Running a command line as a child, which must end well. -/
def runChild (commandLine : String) : Act Child := do
  let r ← call commandLine
  noteChild (r.child? commandLine)
  ofExcept .child (Child.ofReply commandLine r)

/-! ### Equations -/

@[simp] theorem run_fail {α : Type} (e : Fault) (c : Context) (s : Store) :
    (fail e : Act α).run c s = ⟨.error e, s, []⟩ := rfl

@[simp] theorem run_emit (e : Event) (c : Context) (s : Store) :
    (emit e).run c s = ⟨.ok (), s, [e]⟩ := rfl

@[simp] theorem run_write (text : String) (c : Context) (s : Store) :
    (write text).run c s = ⟨.ok (), s, [.out text]⟩ := rfl

@[simp] theorem run_writeErr (text : String) (c : Context) (s : Store) :
    (writeErr text).run c s = ⟨.ok (), s, [.err text]⟩ := rfl

@[simp] theorem run_note (n : Note) (c : Context) (s : Store) :
    (note n).run c s = ⟨.ok (), s, [.note n]⟩ := rfl

@[simp] theorem run_get (c : Context) (s : Store) : get.run c s = ⟨.ok s, s, []⟩ := rfl

@[simp] theorem run_modify (f : Store → Store) (c : Context) (s : Store) :
    (modify f).run c s = ⟨.ok (), f s, []⟩ := rfl

@[simp] theorem run_clock (c : Context) (s : Store) :
    clock.run c s = ⟨.ok c.host.clock, s, []⟩ := rfl

@[simp] theorem run_room (c : Context) (s : Store) : room.run c s = ⟨.ok c.host.room, s, []⟩ := rfl

@[simp] theorem run_depth (c : Context) (s : Store) : depth.run c s = ⟨.ok c.host.depth, s, []⟩ := rfl

@[simp] theorem run_call (commandLine : String) (c : Context) (s : Store) :
    (call commandLine).run c s =
      ⟨.ok (c.host.run c.shell s.disk commandLine).1,
        { s with disk := (c.host.run c.shell s.disk commandLine).2 },
        [.call commandLine c.shell]⟩ := rfl

@[simp] theorem run_attempt {α : Type} (x : Act α) (c : Context) (s : Store) :
    (attempt x).run c s = ⟨.ok (x.run c s).result, (x.run c s).store, (x.run c s).events⟩ := rfl

/-- The texts are all that writing them does. -/
@[simp] theorem run_writeAll (ls : List String) (c : Context) (s : Store) :
    (writeAll ls).run c s = ⟨.ok (), s, ls.map .out⟩ := by
  induction ls with
  | nil => rfl
  | cons l ls ih => simp [writeAll, ih]

/-- The diagnostics are all that writing them does. -/
@[simp] theorem run_writeErrAll (ls : List String) (c : Context) (s : Store) :
    (writeErrAll ls).run c s = ⟨.ok (), s, ls.map .err⟩ := by
  induction ls with
  | nil => rfl
  | cons l ls ih => simp [writeErrAll, ih]

end Act

end LineShell
