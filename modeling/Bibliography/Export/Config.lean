import Bibliography.CiteKey.Formatter
import Bibliography.Latex.Spelling

/-! # Configuration of an export

What the user chooses about an export. Every choice has a default.
-/

namespace Bibliography.Export
set_option autoImplicit false

/-- Whether the output may hold other characters than ASCII ones. -/
inductive UnicodePolicy
  | always
  | never
  /-- Only if the character set of the output is UTF-8. -/
  | auto
deriving DecidableEq, Repr

namespace UnicodePolicy

/-- The policies by name. -/
def table : List (Text × UnicodePolicy) :=
  [("always", always), ("never", never), ("auto", auto)]

/-- The name of a policy. -/
def name : UnicodePolicy → Text
  | always => "always"
  | never => "never"
  | auto => "auto"

/-- The character set that holds all characters, in small letters. -/
def fullCharset : Text := "utf-8"

/-- Whether other characters than ASCII ones are kept for the given character set. -/
def keepsUnicode (policy : UnicodePolicy) (charset : Text) : Bool :=
  match policy with
  | always => true
  | never => false
  | auto => charset.map Char.toLower == fullCharset

end UnicodePolicy

/-- The choices of an export. -/
structure Config where
  /-- The pattern of cite keys. -/
  citekeyFormat : Text
  /-- Fields that are never written. -/
  skipFields : List Text
  /-- Marks entries that name someone with a particle such as `van`. -/
  usePrefix : Bool
  /-- Puts the values that ask for it into braces. -/
  braceAll : Bool
  /-- Writes links with their target and a text. -/
  fancyUrls : Bool
  unicode : UnicodePolicy
  exportCharset : Text
  /-- Writes the field `file`. -/
  exportFileData : Bool
  /-- Writes the field `notes` as an annotation. -/
  exportNotes : Bool
  /-- Takes the short name of a journal where there is one. -/
  useJournalAbbreviation : Bool
deriving DecidableEq, Repr

namespace Config

/-- The choices where nothing is chosen. -/
def standard : Config where
  citekeyFormat := CiteKey.Formatter.standardPattern
  skipFields := []
  usePrefix := false
  braceAll := false
  fancyUrls := false
  unicode := .auto
  exportCharset := "UTF-8"
  exportFileData := false
  exportNotes := false
  useJournalAbbreviation := false

/-- Whether other characters than ASCII ones are kept. -/
def keepsUnicode (c : Config) : Bool := c.unicode.keepsUnicode c.exportCharset

/-- Which characters the output may hold. -/
def mode (c : Config) : Latex.Mode := if c.keepsUnicode then .unicode else .ascii

/-- The field is not written. -/
def skips (c : Config) (field : Text) : Bool := c.skipFields.contains field

/-- The formatter of the chosen pattern. -/
def formatter (c : Config) (types : TypeTable) : CiteKey.Formatter := .ofText c.citekeyFormat types

end Config
end Bibliography.Export
