import TickArena.Decimal.Reading

/-!
# Command-line arguments

Arguments are read from left to right, and the first one that is not understood ends
the reading.  Options are given at most once, as `--name value` or `--name=value`;
a value does not begin with a hyphen unless it is nothing else.
-/

namespace TickArena.Host

structure Arguments where
  settings : Option String
  catalog : Option String
  participants : Option Nat
  ticks : Option Nat
  seed : Option Nat
  json : Bool
  fast : Bool
  deriving DecidableEq

/-- What a command line asks for. -/
inductive Command where
  | run (arguments : Arguments)
  | help
  | misused
  deriving DecidableEq

namespace Arguments

def none : Arguments :=
  ⟨.none, .none, .none, .none, .none, false, false⟩

/-- A number of 64 bits; a plus sign may stand before it. -/
def number? (text : String) : Option Nat :=
  let digits :=
    match text.toList with
    | '+' :: rest => rest
    | all => all
  if digits.isEmpty || !digits.all (fun c => '0' ≤ c && c ≤ '9') then .none
  else
    let n := Decimal.digitsValue digits
    if n < twoPow 64 then some n else .none

def path? (text : String) : Option String :=
  if text.isEmpty then .none else some text

def fill {α : Type} (part : Option α) (value : Option α) (put : α → Arguments) :
    Option Arguments :=
  if part.isSome then .none else value.map put

def setOption (arguments : Arguments) (name value : String) : Option Arguments :=
  match name with
  | "config" =>
    fill arguments.settings (path? value) fun path => { arguments with settings := some path }
  | "catalog" =>
    fill arguments.catalog (path? value) fun path => { arguments with catalog := some path }
  | "participants" =>
    fill arguments.participants (number? value) fun n => { arguments with participants := some n }
  | "ticks" => fill arguments.ticks (number? value) fun n => { arguments with ticks := some n }
  | "seed" => fill arguments.seed (number? value) fun n => { arguments with seed := some n }
  | _ => .none

def setFlag (arguments : Arguments) (name : String) : Option Arguments :=
  match name with
  | "json" => if arguments.json then .none else some { arguments with json := true }
  | "fast" => if arguments.fast then .none else some { arguments with fast := true }
  | _ => .none

def isFlag (name : String) : Bool :=
  name = "json" || name = "fast"

/-- Whether a text may be the value of the option before it. -/
def isValue (text : String) : Bool :=
  !text.startsWith "-" || text = "-"

def splitValue (text : List Char) : String × Option String :=
  let name := text.takeWhile (· ≠ '=')
  match text.drop name.length with
  | '=' :: value => (String.ofList name, some (String.ofList value))
  | _ => (String.ofList name, .none)

end Arguments

namespace Command

/-- Reads the arguments after those that have been read. -/
def read (arguments : Arguments) : List String → Command
  | [] => .run arguments
  | first :: rest =>
    match first.toList with
    | ['-', '-'] => if rest.isEmpty then .run arguments else .misused
    | '-' :: '-' :: option =>
      match Arguments.splitValue option with
      | ("help", none) => .help
      | (name, some value) =>
        match arguments.setOption name value with
        | some arguments => read arguments rest
        | none => .misused
      | (name, none) =>
        if Arguments.isFlag name then
          match arguments.setFlag name with
          | some arguments => read arguments rest
          | none => .misused
        else
          match rest with
          | value :: rest =>
            if Arguments.isValue value then
              match arguments.setOption name value with
              | some arguments => read arguments rest
              | none => .misused
            else .misused
          | [] => .misused
    | '-' :: 'h' :: _ => .help
    | _ => .misused

def ofArguments (arguments : List String) : Command :=
  read .none arguments

end Command

end TickArena.Host
