import OrderDesk.CommandLine.Draft

/-!
# The command line

What a desk is started with. Arguments are read from left to right; an option takes its value
from behind an equals sign or from the next argument, which must not look like an option. Options
that are not given take their values from the environment, and what is left takes its default.
-/

namespace OrderDesk

/-- What a desk is started with. -/
structure CommandLine where
  backend : Backend
  logFormat : LogFormat
  settings : Settings
  deriving DecidableEq, Repr

/-- Why a desk is not started. -/
inductive Refusal where
  /-- The arguments cannot be read. -/
  | usage (error : UsageError)
  /-- The desk cannot open with the settings. -/
  | settings (error : SettingsError)
  deriving DecidableEq, Repr

/-- An argument by its form. -/
inductive Argument where
  /-- Two dashes and a name, with a value behind an equals sign or without. -/
  | long (name : String) (value : Option String)
  /-- A dash and letters. -/
  | short (letters : List Char)
  /-- Two dashes alone, which end the options. -/
  | endOfOptions
  /-- Anything else. -/
  | plain (text : String)
  deriving DecidableEq, Repr

namespace Argument

/-- A name and, behind the first equals sign, a value. -/
def splitValue (chars : List Char) : String × Option String :=
  match chars.dropWhile (· != '=') with
  | [] => (String.ofList chars, none)
  | _ :: value => (String.ofList (chars.takeWhile (· != '=')), some (String.ofList value))

/-- The form of an argument. A dash alone is no option. -/
def ofText (text : String) : Argument :=
  match text.toList with
  | ['-', '-'] => endOfOptions
  | '-' :: '-' :: chars =>
    match splitValue chars with
    | (name, value) => long name value
  | '-' :: letter :: letters => short (letter :: letters)
  | _ => plain text

end Argument

/-- How far the arguments have been read. The value of an option that came as an argument of its
    own is looked at only when the next option begins or the arguments end. -/
structure Scan where
  draft : Draft
  /-- The option read last, with its value if that has been read. -/
  pending : Option (Key × Option String)

namespace Scan

/-- Before the first argument. -/
def start : Scan := ⟨.empty, none⟩

/-- Takes over the option read last. -/
def settle (scan : Scan) : Except UsageError Draft :=
  match scan.pending with
  | none => .ok scan.draft
  | some (_, none) => .error .invalidValue
  | some (key, some text) => scan.draft.give key text

/-- Ends the reading with an answer, unless the option read last is in error. -/
def stop (scan : Scan) (answer : UsageError) : Except UsageError Scan :=
  match scan.settle with
  | .error error => .error error
  | .ok _ => .error answer

/-- Reads an option. -/
def option (scan : Scan) (key : Key) (value : Option String) : Except UsageError Scan :=
  match scan.settle with
  | .error error => .error error
  | .ok draft =>
    match value with
    | none => .ok ⟨draft, some (key, none)⟩
    | some text => (draft.give key text).map fun draft => ⟨draft, none⟩

/-- Reads a request for information that takes no value. -/
def request (scan : Scan) (answer : UsageError) : Option String → Except UsageError Scan
  | none => scan.stop answer
  | some _ => .error .unexpectedValue

/-- Reads an argument behind a name of two dashes. -/
def long (scan : Scan) (name : String) (value : Option String) : Except UsageError Scan :=
  match Key.ofName? name with
  | some key => scan.option key value
  | none =>
    if name = "help" then scan.request .helpRequested value
    else if name = "version" then scan.request .versionRequested value
    else .error .unknownArgument

/-- Reads letters behind a dash; the first one decides. -/
def short (scan : Scan) : List Char → Except UsageError Scan
  | 'h' :: _ => scan.stop .helpRequested
  | 'V' :: _ => scan.stop .versionRequested
  | _ => .error .unknownArgument

/-- Reads an argument that is no option: the value of the option read last, if it has none. -/
def plain (scan : Scan) (text : String) : Except UsageError Scan :=
  match scan.pending with
  | some (key, none) => .ok { scan with pending := some (key, some text) }
  | _ => .error .unknownArgument

/-- What the arguments give. Nothing may follow the end of the options. -/
def run (scan : Scan) : List String → Except UsageError Draft
  | [] => scan.settle
  | text :: rest =>
    match Argument.ofText text with
    | .endOfOptions => if rest.isEmpty then scan.settle else .error .unknownArgument
    | .long name value =>
      match scan.long name value with
      | .error error => .error error
      | .ok scan => scan.run rest
    | .short letters =>
      match scan.short letters with
      | .error error => .error error
      | .ok scan => scan.run rest
    | .plain text =>
      match scan.plain text with
      | .error error => .error error
      | .ok scan => scan.run rest

end Scan

namespace Draft

/-- What the arguments give, and the environment where they are silent. -/
def ofArguments (environment : String → Option String) (arguments : List String) :
    Except UsageError Draft :=
  match Scan.start.run arguments with
  | .error error => .error error
  | .ok draft => draft.fill environment Key.all

/-- The settings that a draft stands for. Shards of a stored backend are found in the
    environment. -/
def settings (draft : Draft) (environment : String → Option String) :
    Except SettingsError Settings :=
  let shards :=
    match draft.backend.getD .postgres with
    | .postgres => ShardSettings.allOfEnvironment environment (draft.shardCount.getD 1).toNat
    | .memory => .ok ((List.range (draft.shardCount.getD 1).toNat).map ShardSettings.inMemory)
  match shards with
  | .error error => .error error
  | .ok shards =>
    let settings := draft.onShards shards
    settings.check.map fun () => settings

end Draft

namespace CommandLine

/-- What a desk is started with by arguments and environment. -/
def read (environment : String → Option String) (arguments : List String) :
    Except Refusal CommandLine :=
  match Draft.ofArguments environment arguments with
  | .error error => .error (.usage error)
  | .ok draft =>
    match draft.settings environment with
    | .error error => .error (.settings error)
    | .ok settings =>
      .ok ⟨draft.backend.getD .postgres, draft.logFormat.getD .text, settings⟩

end CommandLine

end OrderDesk
