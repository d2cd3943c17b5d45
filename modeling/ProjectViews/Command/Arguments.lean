/-
The command line: options and the command.

An option is two dashes and its name.  Its value is the next argument, or stands behind
an equals sign; a value of its own must not look like an option, except for the options
that say so.  Options that are not lists are given once.  The options that hold for every
command may stand before the command and behind it, where they count more.  Two dashes
alone end the options, and as no command takes anything else nothing may follow them.
-/
import ProjectViews.Command.Config

namespace ProjectViews

/-! ### Options -/

/-- What may be said about an option. -/
structure OptionRule where
  name : String
  takesValue : Bool
  /-- Whether a value may look like an option. -/
  allowsDash : Bool
  isList : Bool
deriving DecidableEq, Repr, Inhabited

namespace OptionRule

/-- An option with one value. -/
def single (name : String) : OptionRule := ⟨name, true, false, false⟩

/-- An option with one value, which may start with a dash. -/
def dashed (name : String) : OptionRule := ⟨name, true, true, false⟩

/-- An option that may be given again and again. -/
def list (name : String) : OptionRule := ⟨name, true, false, true⟩

/-- An option without a value. -/
def flag (name : String) : OptionRule := ⟨name, false, false, false⟩

/-- Whether an argument can be the value of an option. -/
def admits (r : OptionRule) (argument : String) : Bool :=
  r.allowsDash || argument == "-" || !Text.startsWith argument "-"

end OptionRule

/-- The options of a command line with their values, in their order. -/
abbrev Options := List (String × String)

namespace Options

/-- Whether an argument is an option of one letter, of which there are none. -/
def isShort (argument : String) : Bool := Text.startsWith argument "-" && argument != "-"

/-- The options at the front of a command line, and what follows them. -/
def scan (rules : List OptionRule) : List String → Option (Options × List String)
  | [] => some ([], [])
  | argument :: rest =>
    if argument = "--" then if rest.isEmpty then some ([], []) else none
    else
      match Text.afterStart? "--" argument with
      | none => if isShort argument then none else some ([], argument :: rest)
      | some body =>
        let (name, attached) := match Text.cutAt "=" body with
          | some (name, value) => (name, some value)
          | none => (body, none)
        match rules.find? fun r => r.name == name, attached with
        | none, _ => none
        | some rule, some value =>
          if rule.takesValue then
            (scan rules rest).map fun (options, rest) => ((name, value) :: options, rest)
          else none
        | some rule, none =>
          if rule.takesValue then
            match rest with
            | [] => none
            | value :: rest =>
              if rule.admits value then
                (scan rules rest).map fun (options, rest) => ((name, value) :: options, rest)
              else none
          else (scan rules rest).map fun (options, rest) => ((name, "") :: options, rest)

/-- The values of an option. -/
def values (options : Options) (name : String) : List String :=
  (options.filter fun o => o.1 == name).map (·.2)

/-- The value of an option. -/
def value? (options : Options) (name : String) : Option String := (options.values name).head?

/-- Whether only lists are given more than once. -/
def obeys (options : Options) (rules : List OptionRule) : Bool :=
  rules.all fun r => r.isList || (options.values r.name).length ≤ 1

/-- A number as an option has it, with its value when the option is not given. -/
def word? (options : Options) (name : String) (absent : UInt32) : Option UInt32 :=
  match options.value? name with
  | none => some absent
  | some s => (Number.typedInt? s).bind Number.toWord32?

end Options

/-! ### Commands -/

/-- What a list of projects is asked for with, as it is typed. -/
structure ListRequest where
  filters : List String
  order : Option String
  fields : List String
  resetsFields : Bool
  /-- How many pages to load. -/
  pages : UInt32
  selected : List String
deriving DecidableEq, Repr, Inhabited

/-- What the program is asked to do. -/
inductive Command where
  | list (request : ListRequest)
  | limits
  | projectUsage (page : UInt32) (order : Option String)
deriving DecidableEq, Repr, Inhabited

/-- A command line. -/
structure Arguments where
  configFile : String
  serverUrl : Option String
  databaseUrl : Option String
  organizationId : Option String
  command : Command
deriving DecidableEq, Repr, Inhabited

namespace Arguments

/-- The options that hold for every command. -/
def commonRules : List OptionRule :=
  [.single "config", .single "server-url", .single "database-url", .single "organization-id"]

/-- The options of the list of projects. -/
def listRules : List OptionRule :=
  [.list "filter", .dashed "order", .list "fields", .flag "reset-fields", .single "pages",
   .list "select"]

/-- The options of the usage of projects. -/
def usageRules : List OptionRule := [.single "page", .dashed "order"]

/-- The options behind a command, which must be the last thing on the command line. -/
def finalOptions (rules : List OptionRule) (rest : List String) : Option Options :=
  match Options.scan (commonRules ++ rules) rest with
  | some (options, []) => if options.obeys (commonRules ++ rules) then some options else none
  | _ => none

/-- A command and the options behind it. -/
def command? (name : String) (rest : List String) : Option (Command × Options) :=
  if name = "list" then do
    let options ← finalOptions listRules rest
    let pages ← options.word? "pages" 1
    pure
      (.list
        { filters := options.values "filter"
          order := options.value? "order"
          fields := (options.values "fields").flatMap (Text.split ",")
          resetsFields := (options.value? "reset-fields").isSome
          pages := pages
          selected := options.values "select" }, options)
  else if name = "limits" then do
    let options ← finalOptions [] rest
    pure (.limits, options)
  else if name = "asset-usage" then do
    let options ← finalOptions usageRules rest
    let page ← options.word? "page" 1
    pure (.projectUsage page (options.value? "order"), options)
  else none

/-- The command line that arguments mean, or `none` when they mean none. -/
def parse (arguments : List String) : Option Arguments :=
  match Options.scan commonRules arguments with
  | some (before, name :: rest) =>
    if before.obeys commonRules then do
      let (command, behind) ← command? name rest
      let option (name : String) : Option String := behind.value? name <|> before.value? name
      let configFile := (option "config").getD Config.defaultFile
      if behind.value? "config" = some "" ∨ before.value? "config" = some "" then none
      else
        some
          { configFile := configFile
            serverUrl := option "server-url"
            databaseUrl := option "database-url"
            organizationId := option "organization-id"
            command := command }
    else none
  | _ => none

/-- The settings with those of the command line in their place. -/
def applyTo (a : Arguments) (c : Config) : Config :=
  { c with
    serverUrl := a.serverUrl.getD c.serverUrl
    databaseUrl := a.databaseUrl.getD c.databaseUrl
    organizationId := a.organizationId <|> c.organizationId }

end Arguments

end ProjectViews
