import Interlink.Scope
import Interlink.Topology.Override

/-!
# What an operator asks for

A command line names the topology file and the unit to plan, and may name a
snapshot, an output file, a format and settings to replace. It is read as flags
with values: `--config PATH`, `--config=PATH`, `-c PATH`, `-cPATH`. Each flag is
given once, and three of them must be given.
-/

namespace Interlink

/-- The formats that a plan is written in. -/
inductive PlanFormat
  | yaml
  | json
deriving DecidableEq, Repr, Inhabited

namespace PlanFormat

/-- All formats. -/
def all : List PlanFormat := [.yaml, .json]

/-- What a format is called. -/
def label : PlanFormat → String
  | .yaml => "yaml"
  | .json => "json"

end PlanFormat

/-! ## Flags -/

/-- The flags that take a value. -/
inductive Flag
  | config
  | account
  | region
  | values
  | output
  | format
  | pathPrefix
  | homeRegion
deriving DecidableEq, Repr, Inhabited

namespace Flag

/-- All flags, in the order in which they are listed. -/
def all : List Flag :=
  [.config, .account, .region, .values, .output, .format, .pathPrefix, .homeRegion]

/-- The name after two dashes. -/
def long : Flag → String
  | .config => "config"
  | .account => "account"
  | .region => "region"
  | .values => "values"
  | .output => "output"
  | .format => "format"
  | .pathPrefix => "prefix"
  | .homeRegion => "home-region"

/-- The letter after one dash. -/
def short? : Flag → Option Char
  | .config => some 'c'
  | .account => some 'a'
  | .region => some 'r'
  | .output => some 'o'
  | _ => none

/-- Whether a request needs the flag. -/
def required : Flag → Bool
  | .config | .account | .region => true
  | _ => false

/-- What the flag's value is, as usage texts show it. -/
def valueName : Flag → String
  | .homeRegion => "<HOME_REGION>"
  | f => "<" ++ f.long.toUpper ++ ">"

/-- The flag with its value, as usage texts show it. -/
def usage (f : Flag) : String := "--" ++ f.long ++ " " ++ f.valueName

/-- What the flag is for. -/
def purpose : Flag → String
  | .config => "Path to the topology YAML file"
  | .account => "Account name the unit runs in"
  | .region => "Region the unit runs in"
  | .values => "JSON snapshot of published values, shares and attachments"
  | .output => "Write the plan to this file instead of stdout"
  | .format => "Plan output format [default: yaml] [possible values: yaml, json]"
  | .pathPrefix => "Override the prefix used for value paths and role names"
  | .homeRegion => "Override the home region"

end Flag

/-! ## Words -/

/-- Why a command line is no request. -/
inductive UsageError
  /-- A word that is no flag stands where a flag is expected. -/
  | unexpected (word : String)
  /-- A flag has no value. -/
  | valueMissing (flag : Flag)
  /-- A flag is given twice. -/
  | repeated (flag : Flag)
  /-- Flags that must be given are not. -/
  | missing (flags : List Flag)
  /-- The format is none that is known. -/
  | unknownFormat (word : String)
deriving DecidableEq, Repr

namespace UsageError

/-- What is wrong, in words. -/
def message : UsageError → String
  | .unexpected word => "unexpected argument '" ++ word ++ "' found"
  | .valueMissing flag => "a value is required for '" ++ flag.usage ++ "' but none was supplied"
  | .repeated flag => "the argument '" ++ flag.usage ++ "' cannot be used multiple times"
  | .missing flags =>
    String.intercalate "\n  "
      ("the following required arguments were not provided:" :: flags.map Flag.usage)
  | .unknownFormat word =>
    "invalid value '" ++ word ++ "' for '" ++ Flag.format.usage ++ "'\n  [possible values: " ++
      String.intercalate ", " (PlanFormat.all.map PlanFormat.label) ++ "]"

end UsageError

/-- A flag at the head of a word, with the value written in the same word. -/
structure FlagWord where
  flag : Flag
  value : Option String
deriving DecidableEq, Repr

namespace FlagWord

/-- The value attached to a flag's letter: what follows, less an equals sign. -/
def attached : List Char → Option String
  | [] => none
  | '=' :: cs => some (String.ofList cs)
  | cs => some (String.ofList cs)

/-- The flag of a name, and the value after the equals sign if there is one. -/
def ofLong? (cs : List Char) : Option FlagWord :=
  let name := String.ofList (cs.takeWhile (· ≠ '='))
  (Flag.all.find? fun f => f.long = name).map fun flag =>
    ⟨flag, match cs.dropWhile (· ≠ '=') with
      | [] => none
      | _ :: value => some (String.ofList value)⟩

/-- The flag that a word is headed by. -/
def ofWord? (word : String) : Option FlagWord :=
  match word.toList with
  | '-' :: '-' :: cs => ofLong? cs
  | '-' :: c :: cs => (Flag.all.find? fun f => f.short? = some c).map (⟨·, attached cs⟩)
  | _ => none

end FlagWord

/-- Whether a word may be the value of a flag before it: it is not itself
written as a flag. A lone dash may. -/
def isValueWord (word : String) : Bool :=
  match word.toList with
  | '-' :: _ :: _ => false
  | _ => true

/-- The flags of a command line with their values, in order. -/
def flagValues : List String → Except UsageError (List (Flag × String))
  | [] => .ok []
  | word :: words =>
    match FlagWord.ofWord? word with
    | none => .error (.unexpected word)
    | some ⟨flag, some value⟩ => (flagValues words).map ((flag, value) :: ·)
    | some ⟨flag, none⟩ =>
      match words with
      | [] => .error (.valueMissing flag)
      | value :: rest =>
        if isValueWord value then (flagValues rest).map ((flag, value) :: ·)
        else .error (.valueMissing flag)

/-- The first flag that is given twice. -/
def repeatedFlag? : List Flag → Option Flag
  | [] => none
  | f :: fs => if f ∈ fs then some f else repeatedFlag? fs

/-! ## Requests -/

/-- One planning run, as an operator asks for it. -/
structure Request where
  /-- The path of the topology file. -/
  topology : String
  /-- The unit to plan. -/
  scope : Scope
  /-- The path of the snapshot, if values are given. -/
  values : Option String
  /-- Where the plan is written; to the screen if nowhere is named. -/
  output : Option String
  format : PlanFormat
  settings : Override
deriving DecidableEq, Repr

namespace Request

/-- The format that a word names; YAML if there is no word. -/
def formatOf : Option String → Except UsageError PlanFormat
  | none => .ok .yaml
  | some word =>
    match PlanFormat.all.find? fun f => f.label = word with
    | some format => .ok format
    | none => .error (.unknownFormat word)

/-- The request that flags with values make. -/
def ofFlags (given : List (Flag × String)) : Except UsageError Request := do
  if let some flag := repeatedFlag? (given.map (·.1)) then .error (.repeated flag)
  let format ← formatOf (given.lookup .format)
  match given.lookup .config, given.lookup .account, given.lookup .region with
  | some topology, some account, some region =>
    pure
      { topology, scope := ⟨account, region⟩, values := given.lookup .values
        output := given.lookup .output, format
        settings := ⟨given.lookup .pathPrefix, given.lookup .homeRegion⟩ }
  | _, _, _ =>
    .error (.missing (Flag.all.filter fun f => f.required && (given.lookup f).isNone))

/-- The request that a command line makes. -/
def parse (words : List String) : Except UsageError Request := do ofFlags (← flagValues words)

end Request

/-! ## Usage texts -/

/-- The line that says how the program is used. -/
def usageLine : String :=
  String.intercalate " "
    ("Usage: interlink [OPTIONS]" :: (Flag.all.filter Flag.required).map Flag.usage)

/-- What a flag looks like in the list of flags. -/
def Flag.helpLine (f : Flag) : String :=
  let letter := match f.short? with
    | some c => String.ofList ['-', c] ++ ", "
    | none => "    "
  let head := "  " ++ letter ++ f.usage
  head ++ String.ofList (List.replicate (38 - head.length) ' ') ++ f.purpose

/-- The help text. -/
def helpText : String :=
  String.intercalate "\n"
    (["Plan the network wiring of one account/region deployment unit", "", usageLine, "", "Options:"]
      ++ Flag.all.map Flag.helpLine
      ++ ["  -h, --help                          Print help"])

/-- The text for a command line that is no request. -/
def UsageError.report (e : UsageError) : String :=
  String.intercalate "\n" ["error: " ++ e.message, "", usageLine, "",
    "For more information, try '--help'."]

end Interlink
