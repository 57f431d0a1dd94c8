import Bibliography.Unicode.Blank
import Bibliography.Unicode.Compatibility
import Bibliography.Unicode.Digit
import Bibliography.Unicode.Lowercase
import Bibliography.Unicode.Mark
import Bibliography.Unicode.Printable
import Bibliography.Unicode.Word
import Bibliography.Unicode.Case.Upper
import Bibliography.Text.Quoted
import Bibliography.Text.Search
import Bibliography.Calendar.Date
import Bibliography.Dict
import Bibliography.Decimal.Shortest
import Bibliography.Json.Skip
import Bibliography.Json.Reader
import Bibliography.Json.Value
import Bibliography.EntryType
import Bibliography.Record.Json
import Bibliography.CiteKey.Formatter
import Bibliography.CiteKey.Registry
import Bibliography.Latex.Decode
import Bibliography.Link
import Bibliography.Markup.FromLatex
import Bibliography.Toml.Document
import Bibliography.Export.ConfigText
import Bibliography.Export.Exporter
import Bibliography.Proofs.Latex.Decode
import Bibliography.Proofs.Latex.MathRuns
import Bibliography.Proofs.Markup.Balance
import Bibliography.Proofs.CiteKey.LeastFree
import Bibliography.Proofs.CiteKey.SuffixSearch
import Bibliography.Proofs.CiteKey.Entries
import Bibliography.Proofs.CiteKey.Order
import Bibliography.Proofs.Export.Structure
import Bibliography.Proofs.CiteKey.Rivals
import Bibliography.Proofs.Markup.Forest
import Bibliography.Proofs.Markup.Reading
import Bibliography.Proofs.Markup.Rendering
import Bibliography.Proofs.Markup.Ledger
import Bibliography.Proofs.Markup.Accounting
import Bibliography.Proofs.Markup.RoundTrip
import Bibliography.Proofs.Markup.Ascii
import Bibliography.Proofs.Markup.Modes
import Bibliography.Proofs.Export.Ascii
import Bibliography.Proofs.CiteKey.Patterns
import Bibliography.Proofs.CiteKey.Alternation
import Bibliography.Proofs.CiteKey.Safe
import Bibliography.Proofs.Export.Report
import Bibliography.Proofs.Export.Skipping
import Bibliography.Proofs.Export.Sinks
import Bibliography.Proofs.CiteKey.Calls
import Bibliography.Proofs.CiteKey.Growth
import Bibliography.Proofs.Json.Invariants
import Bibliography.Proofs.Json.Layout
import Bibliography.Proofs.Json.Reading
import Bibliography.Proofs.Record.RoundTrip
import Bibliography.Proofs.Export.ConfigRoundTrip
import Bibliography.Proofs.CiteKey.Extraction
import Bibliography.Proofs.Export.Assignments
import Bibliography.Proofs.Export.ExtraBalance
import Bibliography.Proofs.Export.NameLists
import Bibliography.Proofs.Export.DraftLedger
import Bibliography.Proofs.Export.Leaves
import Bibliography.Proofs.Link
import Bibliography.Proofs.Calendar.Notations
import Bibliography.Proofs.EntryTypes.WayBack
import Bibliography.Proofs.CiteKey.Editors
import Bibliography.Proofs.CiteKey.Cleaning
import Bibliography.Proofs.CiteKey.DirectiveNames
