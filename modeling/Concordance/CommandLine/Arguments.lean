import Concordance.CommandLine.Flags

/-!
# Reading the command line

An option is two hyphens and a name. Its value is attached with an equals sign or is the next
argument, unless that looks like an option. Some options stand for a value if they are given none.
An option is taken in when its value is known, and no option is taken in twice.

## Main definitions

* `UsageError`: why a command line is not run
* `Flags.parse`: the flags of a command line
-/

namespace Concordance

/-- Why a command line is not run. Asking for help or for the version is not a mistake. -/
inductive UsageError where
  | unknownArgument
  | invalidValue
  | valueValidation
  | argumentConflict
  | tooManyValues
  | displayHelp
  | displayVersion
deriving DecidableEq, Repr

/-- The status that a program ends with when it does not run. -/
def UsageError.exitStatus : UsageError → Nat
  | .displayHelp | .displayVersion => 0
  | _ => 2

/-- The options with a value. -/
inductive ValueOption where
  | text
  | html
  | crawl
  | threads
  | query
  | counts
  | index
  | results
deriving DecidableEq, Repr

namespace ValueOption

/-- The name of an option. -/
def name : ValueOption → String
  | text => "text"
  | html => "html"
  | crawl => "crawl"
  | threads => "threads"
  | query => "query"
  | counts => "counts"
  | index => "index"
  | results => "results"

/-- The option with a name. -/
def ofName (name : String) : Option ValueOption :=
  [text, html, crawl, threads, query, counts, index, results].find? (·.name = name)

/-- The value that an option stands for if it is given none. -/
def missingValue : ValueOption → Option String
  | threads => some "5"
  | counts => some "counts.json"
  | index => some "index.json"
  | results => some "results.json"
  | _ => none

end ValueOption

/-- Whether a text is a natural number below `2 ^ 64`, perhaps after a plus sign. -/
def readCount (text : String) : Option Nat :=
  let digits := match text.toList with
    | '+' :: digits => digits
    | digits => digits
  if digits ≠ [] ∧ digits.all Char.isDigit then
    let value := digits.foldl (fun value c => value * 10 + (c.toNat - '0'.toNat)) 0
    if value < UInt64.size then some value else none
  else none

namespace Flags

/-- A path, which may not be empty. -/
def readPath (value : String) : Except UsageError String :=
  if value = "" then .error .invalidValue else .ok value

/-- A number. -/
def readNumber (value : String) : Except UsageError Nat :=
  match readCount value with
  | some n => .ok n
  | none => .error .valueValidation

/-- The flags with the value of an option. -/
def set (flags : Flags) (option : ValueOption) (value : String) : Except UsageError Flags :=
  match option with
  | .text => return { flags with text := some (← readPath value) }
  | .html => return { flags with html := some value }
  | .crawl => return { flags with crawl := some (← readNumber value) }
  | .threads => return { flags with threads := some (← readNumber value) }
  | .query => return { flags with query := some (← readPath value) }
  | .counts => return { flags with counts := some (← readPath value) }
  | .index => return { flags with index := some (← readPath value) }
  | .results => return { flags with results := some (← readPath value) }

end Flags

/-- A command line that is read up to some argument: the flags so far, the options that were taken
in, the option that waits for a value, and the value that it was given. -/
structure Reading where
  flags : Flags
  taken : List ValueOption
  waiting : Option (ValueOption × Option String)
deriving Repr

namespace Reading

/-- Nothing read yet. -/
def start : Reading := ⟨{}, [], none⟩

/-- Takes an option in. -/
def take (reading : Reading) (option : ValueOption) (value : Option String) :
    Except UsageError Reading :=
  match value.or option.missingValue with
  | none => .error .invalidValue
  | some value =>
    if option ∈ reading.taken then .error .argumentConflict
    else do
      return ⟨← reading.flags.set option value, option :: reading.taken, none⟩

/-- Takes the option in that waits for a value. -/
def resolve (reading : Reading) : Except UsageError Reading :=
  match reading.waiting with
  | none => .ok reading
  | some (option, value) => { reading with waiting := none }.take option value

/-- Takes the flag for partial matches in. -/
def takePartial (reading : Reading) : Except UsageError Reading :=
  if reading.flags.partialMatches then .error .argumentConflict
  else .ok { reading with flags := { reading.flags with partialMatches := true } }

/-- Ends with a request, unless an option before it is wrong. -/
def request (reading : Reading) (answer : UsageError) : Except UsageError Reading := do
  let _ ← reading.resolve
  throw answer

/-- Reads an option with the given name, and perhaps a value attached to it. -/
def readLong (reading : Reading) (name : String) (value : Option String) :
    Except UsageError Reading :=
  match ValueOption.ofName name with
  | some option => do
    let reading ← reading.resolve
    match value with
    | some value => reading.take option (some value)
    | none => return { reading with waiting := some (option, none) }
  | none =>
    if name ∈ ["partial", "help", "version"] then
      if value.isSome then throw .tooManyValues
      else if name = "help" then reading.request .displayHelp
      else if name = "version" then reading.request .displayVersion
      else do (← reading.resolve).takePartial
    else throw .unknownArgument

/-- Reads an argument that is no option: it can only be the value of an option that waits. -/
def readValue (reading : Reading) (value : String) : Except UsageError Reading :=
  match reading.waiting with
  | some (option, none) => .ok { reading with waiting := some (option, some value) }
  | _ => throw .unknownArgument

/-- The name of an option and the value attached to it. -/
def splitAttached (text : List Char) : String × Option String :=
  match text.dropWhile (· != '=') with
  | [] => (String.ofList text, none)
  | _ :: value => (String.ofList (text.takeWhile (· != '=')), some (String.ofList value))

/-- Reads an argument. -/
def readArgument (reading : Reading) (argument : String) : Except UsageError Reading :=
  match argument.toList with
  | '-' :: '-' :: rest => reading.readLong (splitAttached rest).1 (splitAttached rest).2
  | '-' :: 'h' :: _ => reading.request .displayHelp
  | '-' :: 'V' :: _ => reading.request .displayVersion
  | '-' :: _ :: _ => throw .unknownArgument
  | _ => reading.readValue argument

/-- Reads arguments. After two hyphens alone, no argument is an option, and none has a meaning. -/
def readAll (reading : Reading) : List String → Except UsageError Reading
  | [] => reading.resolve
  | "--" :: rest => if rest = [] then reading.resolve else throw .unknownArgument
  | argument :: rest => do (← reading.readArgument argument).readAll rest

end Reading

/-- The flags of a command line. -/
def Flags.parse (arguments : List String) : Except UsageError Flags := do
  return (← Reading.start.readAll arguments).flags

end Concordance
