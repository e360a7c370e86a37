import ModelSearch.Text.Basic
import ModelSearch.Text.Digit
import ModelSearch.Text.Lower
import ModelSearch.Text.Printable
import ModelSearch.Text.Integer
import ModelSearch.Number.Shortest
import ModelSearch.Value.Literal
import ModelSearch.Platform
import ModelSearch.Application
import ModelSearch.Device
import ModelSearch.TypeName
import ModelSearch.Zoo.Url
import ModelSearch.Criteria.Builder
import ModelSearch.Progress
import ModelSearch.Text.Utf8
import ModelSearch.Text.Base64
import ModelSearch.Yaml.Scalar
import ModelSearch.Yaml.Tokens
import ModelSearch.Yaml.Node
import ModelSearch.Yaml.Reading
import ModelSearch.Settings.Validate
import ModelSearch.Files
import ModelSearch.Yaml.Writer
import ModelSearch.ConfigFile
import ModelSearch.Memory
import ModelSearch.Session
import ModelSearch.Console.CharColumns
import ModelSearch.Console.Emoji
import ModelSearch.Console.Glyph
import ModelSearch.Console.Wrap
import ModelSearch.Console.StyleName
import ModelSearch.Console.Markup
import ModelSearch.Json.Basic
import ModelSearch.Json.OfValue
import ModelSearch.Console.Table
import ModelSearch.Console.LogLines
import ModelSearch.Text.Similar
import ModelSearch.CommandLine.Usage
import ModelSearch.CommandLine.Request
import ModelSearch.CommandLine.Display
import ModelSearch.CommandLine.Answer
import ModelSearch.CommandLine.Run
import ModelSearch.Main
import ModelSearch.Proofs.Text.Cutting
import ModelSearch.Proofs.Text.Integer
import ModelSearch.Proofs.Device.Grammar
import ModelSearch.Proofs.Device.Name
import ModelSearch.Proofs.Value.Entries
import ModelSearch.Proofs.Zoo.Urls
import ModelSearch.Proofs.Criteria.ArtifactName
import ModelSearch.Proofs.Criteria.Reachable
import ModelSearch.Proofs.Settings.Replay
import ModelSearch.Proofs.Settings.Entries
import ModelSearch.Proofs.Settings.RoundTrip
import ModelSearch.Proofs.Session.Memory
import ModelSearch.Proofs.Session.Calls
import ModelSearch.Proofs.Session.Ownership
import ModelSearch.Proofs.Session.Shown
import ModelSearch.Proofs.Session.Isolation
import ModelSearch.Proofs.Value.Same
import ModelSearch.Proofs.Value.Parts
import ModelSearch.Proofs.Value.Arranged
import ModelSearch.Proofs.ConfigFile.Loaded
import ModelSearch.Proofs.ConfigFile.Reread
import ModelSearch.Proofs.Yaml.Holds
import ModelSearch.Proofs.Yaml.Faultless
import ModelSearch.Proofs.Yaml.Pool
import ModelSearch.Proofs.Yaml.ScalarKinds
import ModelSearch.Proofs.Yaml.Construct
import ModelSearch.Proofs.Number.Binary64
import ModelSearch.Proofs.Number.Shortest
import ModelSearch.Proofs.Number.Decimal
import ModelSearch.Proofs.Yaml.FloatText
import ModelSearch.Proofs.Text.Base64
import ModelSearch.Proofs.Text.Utf8
import ModelSearch.Proofs.Yaml.StampText
import ModelSearch.Proofs.Yaml.ScalarText
import ModelSearch.Proofs.Yaml.DocTokens
import ModelSearch.Proofs.Yaml.Compose
import ModelSearch.Proofs.Yaml.Present
import ModelSearch.Proofs.ConfigFile.Written
import ModelSearch.Proofs.ConfigFile.Reload
import ModelSearch.Proofs.Criteria.LastCall
import ModelSearch.Proofs.Session.Failure
import ModelSearch.Proofs.CommandLine.Show
import ModelSearch.Proofs.ConfigFile.Faults
import ModelSearch.Proofs.ConfigFile.Alike
import ModelSearch.Proofs.Progress.Display
import ModelSearch.Proofs.Settings.Order
import ModelSearch.Proofs.Json.Reading
import ModelSearch.Proofs.Console.Glyphs
import ModelSearch.Proofs.Console.Filling
import ModelSearch.Proofs.Console.Wrapping
import ModelSearch.Proofs.Console.Literal
import ModelSearch.Proofs.Console.Message
import ModelSearch.Proofs.CommandLine.Rejection
import ModelSearch.Proofs.ConfigFile.Records
import ModelSearch.Proofs.CommandLine.Log
import ModelSearch.Proofs.CommandLine.Verbosity
import ModelSearch.Proofs.CommandLine.Agreement
import ModelSearch.Proofs.Criteria.Retyping
import ModelSearch.Proofs.Value.Equivalence
import ModelSearch.Proofs.Value.Rearranged
import ModelSearch.Proofs.Criteria.Targets
import ModelSearch.Proofs.Criteria.Independent
import ModelSearch.Proofs.Settings.Revalidation
import ModelSearch.Proofs.Criteria.ArtifactGroup
import ModelSearch.Proofs.Criteria.UrlZoo
import ModelSearch.Proofs.Criteria.Coordinates
import ModelSearch.Proofs.Text.Lower
import ModelSearch.Proofs.Zoo.UrlParts
import ModelSearch.Proofs.Zoo.Naming
import ModelSearch.Proofs.Zoo.Query
import ModelSearch.Proofs.Zoo.Nameless
import ModelSearch.Proofs.Progress.Increments
import ModelSearch.Proofs.TypeName.Spelling
import ModelSearch.Proofs.Settings.Filters
import ModelSearch.Proofs.Settings.Arranged
import ModelSearch.Proofs.Yaml.NumberForms
import ModelSearch.Proofs.Yaml.PlainScalars
import ModelSearch.Proofs.Yaml.PlainTokens
import ModelSearch.Proofs.Yaml.Numerals
import ModelSearch.Proofs.ConfigFile.FilterText
import ModelSearch.Proofs.Progress.Protocol
import ModelSearch.Proofs.Progress.Advance
import ModelSearch.Proofs.Zoo.Lookup
import ModelSearch.Proofs.Session.Trail
import ModelSearch.Proofs.Yaml.BlockLayout
import ModelSearch.Proofs.Yaml.BlockSigns
import ModelSearch.Proofs.Yaml.KeyLayout
import ModelSearch.Proofs.Yaml.LayoutTokens
import ModelSearch.Proofs.Yaml.Printed
