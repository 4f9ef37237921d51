/-
Reading one level of a command line, argument by argument. A value that comes
as an argument of its own is looked at only when the next flag, or the end of
the level, shows that it is complete; so an argument that does not belong
there is reported before a bad value in front of it.
-/
import ClusterAudit.CommandLine.Flag

namespace ClusterAudit.CommandLine

/-- A flag that has been read, and the value after it if it is there yet. -/
structure Pending where
  flag : Flag
  value : Option String := none

structure Reading where
  given : Given := {}
  pending : Option Pending := none

namespace Reading

/-- Whether the next argument is the value of a flag, unless it looks like a
flag itself. -/
def awaitsValue (r : Reading) : Bool := r.pending.any (·.value.isNone)

/-- Takes in what is pending. -/
def settle (r : Reading) : Except UsageError Given :=
  match r.pending with
  | none => .ok r.given
  | some ⟨_, none⟩ => .error .invalidValue
  | some ⟨flag, some value⟩ => r.given.withValue flag value

/-- A flag whose value is still to come. -/
def expect (r : Reading) (f : Flag) : Except UsageError Reading :=
  return { given := ← r.settle, pending := some ⟨f, none⟩ }

/-- A flag with a value in the same argument. -/
def attach (r : Reading) (f : Flag) (v : String) : Except UsageError Reading :=
  return { given := ← (← r.settle).withValue f v }

def switch (r : Reading) (f : Flag) : Except UsageError Reading :=
  return { given := ← (← r.settle).switched f }

/-- The argument `--name` or `--name=value`, by what follows the hyphens. -/
def long (l : Level) (r : Reading) (cs : List Char) : Except UsageError Reading :=
  let (name, value) := match Text.cutFirst '=' cs with
    | some (name, value) => (name, some value)
    | none => (cs, none)
  match Flag.ofLong? l (String.ofList name), value with
  | none, _ => .error .unknownArgument
  | some f, none => if f.isSwitch then r.switch f else r.expect f
  | some f, some v => if f.isSwitch then .error .unwantedValue else r.attach f (String.ofList v)

/-- Letters after one hyphen: any number of switches and then perhaps a flag,
of which the rest is the value. -/
def short (l : Level) (r : Reading) : List Char → Except UsageError Reading
  | [] => .ok r
  | c :: cs =>
    match Flag.ofShort? l c with
    | none => .error .unknownArgument
    | some f =>
      if f.isSwitch then do short l (← r.switch f) cs
      else
        match cs with
        | [] => r.expect f
        | '=' :: v => r.attach f (String.ofList v)
        | v => r.attach f (String.ofList v)

/-- What is wrong with an argument that is neither a flag nor a value. -/
def misplaced : Level → UsageError
  | .top => .unknownCommand
  | _ => .unknownArgument

/-- The same for the first argument after `--`: a command cannot stand there,
but it is known. -/
def misplacedAfterBreak (l : Level) (arg : String) : UsageError :=
  if l = .top && (arg == "help" || (Level.commands.lookup arg).isSome) then .unknownArgument
  else misplaced l

end Reading

/-- How the arguments of a level end. -/
inductive LevelEnd where
  | out
  | command (level : Level) (rest : List String)
  | help (rest : List String)

/-- The command that an argument names, on the level that has commands. -/
def command? (l : Level) (arg : String) (rest : List String) : Option LevelEnd :=
  if l = .top then
    if arg = "help" then some (.help rest)
    else (Level.commands.lookup arg).map (.command · rest)
  else none

/-- Reads on from a place in a level. -/
def Reading.continue (l : Level) (r : Reading) :
    List String → Except UsageError (Reading × LevelEnd)
  | [] => .ok (r, .out)
  | arg :: rest =>
    if let some (done : LevelEnd) := if r.awaitsValue then none else command? l arg rest then
      .ok (r, done)
    else
      match arg.toList with
      | ['-', '-'] =>
        match rest with
        | [] => .ok (r, .out)
        | next :: _ => .error (misplacedAfterBreak l next)
      | '-' :: '-' :: cs => do (← long l r cs).continue l rest
      | '-' :: c :: cs => do (← short l r (c :: cs)).continue l rest
      | _ =>
        match r.pending with
        | some ⟨flag, none⟩ => { r with pending := some ⟨flag, some arg⟩ }.continue l rest
        | _ => .error (misplaced l)

end ClusterAudit.CommandLine
