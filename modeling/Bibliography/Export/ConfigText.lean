import Bibliography.Export.Config
import Bibliography.Json.Reader
import Bibliography.Json.Value
import Bibliography.Toml.Document

/-! # Configurations as text

A configuration is kept as JSON or as TOML. A member that is not given has its default, and names
nobody knows are passed over. Both writers write all members, in one order.
-/

namespace Bibliography.Export
set_option autoImplicit false
open Text

/-! ## Members -/

/-- The value of a member. -/
inductive Setting
  | text (s : Text)
  | flag (b : Bool)
  | list (items : List Text)
  | policy (p : UnicodePolicy)
deriving DecidableEq, Repr

/-- The members of a configuration and their values, in the order in which they are written. -/
def Config.settings (c : Config) : List (Text × Setting) := [
  ("citekey_format", .text c.citekeyFormat),
  ("skip_fields", .list c.skipFields),
  ("use_prefix", .flag c.usePrefix),
  ("brace_all", .flag c.braceAll),
  ("fancy_urls", .flag c.fancyUrls),
  ("unicode", .policy c.unicode),
  ("export_charset", .text c.exportCharset),
  ("export_file_data", .flag c.exportFileData),
  ("export_notes", .flag c.exportNotes),
  ("use_journal_abbreviation", .flag c.useJournalAbbreviation)
]

/-! ## JSON -/

/-- What follows the value of a policy that is given as an object with its name. -/
def afterUnit (s : Text) : Except Json.Fault Text :=
  match Json.skipSpace s with
  | 'n' :: s => Json.afterWord "ull" s
  | s => .error (Json.unexpected "unit" s)

/-- The policy with the given name. -/
def policyNamed (name : Text) : Except Json.Fault UnicodePolicy :=
  match UnicodePolicy.table.lookup name with
  | some p => .ok p
  | none => .error (.unknownWord name (UnicodePolicy.table.map Prod.fst))

/-- A policy: its name, or an object with that name and `null`. -/
def policyFromJson (s : Text) : Except Json.Fault (UnicodePolicy × Text) :=
  match Json.skipSpace s with
  | [] => .error .truncated
  | '"' :: s => do
    let (name, rest) ← Json.readChars s
    return (← policyNamed name, rest)
  | '{' :: s => do
    let (name, s) ←
      match Json.skipSpace s with
      | '"' :: s => Json.readChars s
      | s => .error (Json.unexpected "variant identifier" s)
    let p ← policyNamed name
    let s ← afterUnit (← Json.afterColon s)
    match Json.skipSpace s with
    | [] => .error .truncated
    | '}' :: rest => return (p, rest)
    | _ => .error .malformed
  | _ => .error .malformed

namespace Config

/-- The members of a configuration. -/
def shape : Json.Shape Config where
  title := "ExportConfig"
  blank := standard
  members := [
    .of "citekey_format" false Json.Reader.text fun c v => { c with citekeyFormat := v },
    .of "skip_fields" false (Json.Reader.array Json.Reader.text) fun c v =>
      { c with skipFields := v },
    .of "use_prefix" false Json.Reader.flag fun c v => { c with usePrefix := v },
    .of "brace_all" false Json.Reader.flag fun c v => { c with braceAll := v },
    .of "fancy_urls" false Json.Reader.flag fun c v => { c with fancyUrls := v },
    .of "unicode" false policyFromJson fun c v => { c with unicode := v },
    .of "export_charset" false Json.Reader.text fun c v => { c with exportCharset := v },
    .of "export_file_data" false Json.Reader.flag fun c v => { c with exportFileData := v },
    .of "export_notes" false Json.Reader.flag fun c v => { c with exportNotes := v },
    .of "use_journal_abbreviation" false Json.Reader.flag fun c v =>
      { c with useJournalAbbreviation := v }
  ]

/-- The configuration a JSON text describes. -/
def ofJson (s : Text) : Except Json.Fault Config := Json.whole shape.read s

/-- The value of a member in JSON. -/
def settingValue : Setting → Json.Value
  | .text s => .text s
  | .flag b => .flag b
  | .list items => .array (items.map Json.Value.text)
  | .policy p => .text p.name

/-- A configuration as it is written in JSON. -/
def toValue (c : Config) : Json.Value := .object (c.settings.map fun p => (p.1, settingValue p.2))

/-- The JSON text of a configuration. -/
def toJson (c : Config) : Text := c.toValue.pretty

/-! ## TOML -/

/-- A text. -/
def textOf? : Toml.Node → Option Text
  | .text s => some s
  | _ => none

/-- A truth value. -/
def flagOf? : Toml.Node → Option Bool
  | .flag b => some b
  | _ => none

/-- A list of texts. -/
def listOf? : Toml.Node → Option (List Text)
  | .array items => items.mapM textOf?
  | _ => none

/-- A table or an array with nothing in it. -/
def isVacant : Toml.Node → Bool
  | .array items => items.isEmpty
  | .inline members => members.isEmpty
  | .table _ members => members.isEmpty
  | _ => false

/-- A policy: its name, or a table with that name and nothing in it. -/
def policyOf? : Toml.Node → Option UnicodePolicy
  | .text s => UnicodePolicy.table.lookup s
  | .inline [(k, v)] => if isVacant v then UnicodePolicy.table.lookup k else none
  | .table _ [(k, v)] => if isVacant v then UnicodePolicy.table.lookup k else none
  | _ => none

/-- Takes in one member of a document. -/
def takeSetting (c : Config) (p : Text × Toml.Node) : Option Config :=
  let (k, v) := p
  if k = "citekey_format" then (textOf? v).map fun v => { c with citekeyFormat := v }
  else if k = "skip_fields" then (listOf? v).map fun v => { c with skipFields := v }
  else if k = "use_prefix" then (flagOf? v).map fun v => { c with usePrefix := v }
  else if k = "brace_all" then (flagOf? v).map fun v => { c with braceAll := v }
  else if k = "fancy_urls" then (flagOf? v).map fun v => { c with fancyUrls := v }
  else if k = "unicode" then (policyOf? v).map fun v => { c with unicode := v }
  else if k = "export_charset" then (textOf? v).map fun v => { c with exportCharset := v }
  else if k = "export_file_data" then (flagOf? v).map fun v => { c with exportFileData := v }
  else if k = "export_notes" then (flagOf? v).map fun v => { c with exportNotes := v }
  else if k = "use_journal_abbreviation" then
    (flagOf? v).map fun v => { c with useJournalAbbreviation := v }
  else some c

/-- The configuration a TOML text describes. -/
def ofToml? (s : Text) : Option Config :=
  (Toml.document s).bind fun members => members.foldlM takeSetting standard

/-- The line of an item. -/
def listLine (s : Text) : Text := "    " ++ Toml.writtenString s ++ ",\n"

/-- A list in TOML; one of several items has a line for each. -/
def writtenList : List Text → Text
  | [] => "[]"
  | [s] => "[" ++ Toml.writtenString s ++ "]"
  | items => "[\n" ++ items.flatMap listLine ++ "]"

/-- The value of a member in TOML. -/
def writtenSetting : Setting → Text
  | .text s => Toml.writtenString s
  | .flag b => Json.Value.flagWord b
  | .list items => writtenList items
  | .policy p => Toml.writtenString p.name

/-- The TOML text of a configuration. -/
def toToml (c : Config) : Text :=
  c.settings.flatMap fun p => p.1 ++ " = " ++ writtenSetting p.2 ++ "\n"

end Config
end Bibliography.Export
