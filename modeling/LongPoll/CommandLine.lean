import LongPoll.Agent.Client
import LongPoll.Health

/-!
The command line.

An option has a long name and perhaps a letter. Its value is the next argument, or what follows an
equals sign; after a letter it may follow at once. An argument that begins with a hyphen is never
the value of the option before it, a lone hyphen aside. No option can be given twice. Two hyphens
end the options; nothing may follow them.

Arguments are read from left to right and the first fault ends the reading, and so does a question
for help or for the version. What the options say together is looked at afterwards.
-/

namespace LongPoll.CommandLine

/-- What is watched. -/
inductive Target where
  | subtree (root : String)
  | service (name : String)
  | node (name : String)
  | state (state : Health.State)
  deriving DecidableEq, Repr

/-- The options given so far. -/
structure Options where
  address : Option String
  /-- The targets, latest first. -/
  targets : List Target
  passing : Bool
  /-- How many seconds to wait for the first snapshot. -/
  patience : Option Nat
  deriving DecidableEq, Repr

/-- What the arguments ask for. -/
inductive Wish where
  | help
  | version
  | watch (options : Options)
  deriving DecidableEq, Repr

/-- Why the arguments make no sense. -/
inductive Misuse where
  | unknown (argument : String)
  | noValue (option : String)
  | needlessValue (option : String)
  | badValue (option value : String)
  | repeated (option : String)
  | severalTargets
  /-- `--passing` says something about a service only. -/
  | noService
  deriving DecidableEq, Repr

namespace Misuse

def message : Misuse → String
  | unknown argument => "unexpected argument '" ++ argument ++ "'"
  | noValue option => "a value is required for '" ++ option ++ "'"
  | needlessValue option => "no value is allowed for '" ++ option ++ "'"
  | badValue option value => "invalid value '" ++ value ++ "' for '" ++ option ++ "'"
  | repeated option => "'" ++ option ++ "' cannot be used multiple times"
  | severalTargets => "only one of --kv, --service, --node and --state can be used"
  | noService => "'--passing' requires '--service'"

end Misuse

namespace Options

def none : Options := ⟨.none, [], false, .none⟩

/-- How long to wait for the first snapshot if nothing else is said, in seconds. -/
def defaultPatience : Nat := 30

end Options

/-- The options that take a value. -/
inductive Valued where
  | address
  | subtree
  | service
  | node
  | state
  | patience
  deriving DecidableEq, Repr

namespace Valued

def name : Valued → String
  | address => "addr"
  | subtree => "kv"
  | service => "service"
  | node => "node"
  | state => "state"
  | patience => "init-timeout"

def all : List Valued := [address, subtree, service, node, state, patience]

def ofName? (text : String) : Option Valued := all.find? fun v => v.name == text

def written (v : Valued) : String := "--" ++ v.name

/-- The option was given already. -/
def isGiven (v : Valued) (o : Options) : Bool :=
  match v with
  | address => o.address.isSome
  | patience => o.patience.isSome
  | subtree => o.targets.any fun t => match t with | .subtree _ => true | _ => false
  | service => o.targets.any fun t => match t with | .service _ => true | _ => false
  | node => o.targets.any fun t => match t with | .node _ => true | _ => false
  | state => o.targets.any fun t => match t with | .state _ => true | _ => false

def set (v : Valued) (value : String) (o : Options) : Except Misuse Options :=
  if v.isGiven o then .error (.repeated v.written)
  else
    match v with
    | address => .ok { o with address := some value }
    | subtree => .ok { o with targets := .subtree value :: o.targets }
    | service => .ok { o with targets := .service value :: o.targets }
    | node => .ok { o with targets := .node value :: o.targets }
    | state =>
      match Health.State.ofName? value with
      | some s => .ok { o with targets := .state s :: o.targets }
      | none => .error (.badValue v.written value)
    | patience =>
      match Text.readNatural UInt64.size value.toList with
      | .ok n => .ok { o with patience := some n }
      | .error _ => .error (.badValue v.written value)

end Valued

/-- The argument can be the value of the option before it. -/
def isValue (argument : String) : Bool :=
  match argument.toList with
  | '-' :: _ :: _ => false
  | _ => true

/-- What one argument means, and whether it needs the next one as a value. -/
inductive Meaning where
  /-- No option follows. -/
  | stop
  | help
  | version
  | passing
  | given (option : Valued) (value : String)
  | awaits (option : Valued)
  deriving DecidableEq, Repr

/-- Split at the first equals sign. -/
def splitValue (text : List Char) : List Char × Option (List Char) :=
  match text.dropWhile (· != '=') with
  | [] => (text, none)
  | _ :: value => (text.takeWhile (· != '='), some value)

/-- The meaning of an option without a value. -/
def bare (name : String) (value : Option (List Char)) (meaning : Meaning) :
    Except Misuse Meaning :=
  if value.isSome then .error (.needlessValue ("--" ++ name)) else .ok meaning

/-- The meaning of an argument with two hyphens. -/
def longMeaning (argument : String) (text : List Char) : Except Misuse Meaning :=
  let (name, value) := splitValue text
  let name := String.ofList name
  if name = "help" then bare name value .help
  else if name = "version" then bare name value .version
  else if name = "passing" then bare name value .passing
  else
    match Valued.ofName? name, value with
    | some v, some value => .ok (.given v (String.ofList value))
    | some v, none => .ok (.awaits v)
    | none, _ => .error (.unknown argument)

/-- The meaning of letters after one hyphen. -/
def shortMeaning (argument : String) : List Char → Except Misuse Meaning
  | 'h' :: _ => .ok .help
  | 'V' :: _ => .ok .version
  | ['a'] => .ok (.awaits .address)
  | 'a' :: '=' :: value => .ok (.given .address (String.ofList value))
  | 'a' :: value => .ok (.given .address (String.ofList value))
  | _ => .error (.unknown argument)

/-- The meaning of an argument that is no value. -/
def meaning (argument : String) : Except Misuse Meaning :=
  match argument.toList with
  | ['-', '-'] => .ok .stop
  | '-' :: '-' :: text => longMeaning argument text
  | '-' :: c :: text => shortMeaning argument (c :: text)
  | _ => .error (.unknown argument)

/-- Read arguments onto the options before them. -/
def readFrom (o : Options) : List String → Except Misuse Wish
  | [] => .ok (.watch o)
  | a :: rest =>
    match meaning a with
    | .error m => .error m
    | .ok .stop => rest.head?.elim (.ok (.watch o)) fun next => .error (.unknown next)
    | .ok .help => .ok .help
    | .ok .version => .ok .version
    | .ok .passing =>
      if o.passing then .error (.repeated "--passing") else readFrom { o with passing := true } rest
    | .ok (.given v value) =>
      match v.set value o with
      | .ok o => readFrom o rest
      | .error m => .error m
    | .ok (.awaits v) =>
      match rest with
      | value :: rest =>
        if isValue value then
          match v.set value o with
          | .ok o => readFrom o rest
          | .error m => .error m
        else .error (.noValue v.written)
      | [] => .error (.noValue v.written)

/-- Look at what the options say together. -/
def check (o : Options) : Except Misuse Options :=
  if 1 < o.targets.length then .error .severalTargets
  else if o.passing ∧ o.targets = [] then .error .noService
  else .ok o

def read (arguments : List String) : Except Misuse Wish :=
  match readFrom .none arguments with
  | .ok (.watch o) => (check o).map .watch
  | other => other

end LongPoll.CommandLine
