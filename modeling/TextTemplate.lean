import TextTemplate.Expr.SearchLemmas
import TextTemplate.Main
import TextTemplate.Pattern.Session
import TextTemplate.Proofs.Bindings.Lookup
import TextTemplate.Proofs.Session.Configuration
import TextTemplate.Proofs.Session.Cache
import TextTemplate.Proofs.Reading.Run
import TextTemplate.Proofs.Template.Names
import TextTemplate.Proofs.Template.Pieces
import TextTemplate.Proofs.Template.Occurrences
import TextTemplate.Proofs.Template.NormalForm
import TextTemplate.Proofs.Search.LazySet
import TextTemplate.Proofs.Search.Optional
import TextTemplate.Proofs.Template.Decomposition
import TextTemplate.Proofs.Template.Spelling
import TextTemplate.Proofs.Template.Groups
import TextTemplate.Proofs.Template.Decoding
import TextTemplate.Proofs.Template.Shadowing
import TextTemplate.Proofs.Template.Matching
import TextTemplate.Proofs.Pattern.Compilation
import TextTemplate.Proofs.Pattern.Extraction
import TextTemplate.Proofs.Reading.Result
import TextTemplate.Proofs.Reading.Rule
import TextTemplate.Proofs.Reading.Count
import TextTemplate.Proofs.Reading.Opening
import TextTemplate.Proofs.Reading.Atom
import TextTemplate.Proofs.Reading.Unplaced
import TextTemplate.Proofs.Reading.Bracket
import TextTemplate.Proofs.Reading.BracketStep
import TextTemplate.Proofs.Reading.Move
import TextTemplate.Proofs.Reading.Effect
import TextTemplate.Proofs.Reading.MoveLocal
import TextTemplate.Proofs.Reading.Reaches
import TextTemplate.Proofs.Reading.Closing
import TextTemplate.Proofs.Validator.Wrapping
import TextTemplate.Proofs.Validator.Acceptance
import TextTemplate.Proofs.Validator.WellFormed
import TextTemplate.Proofs.Pattern.Defaults
import TextTemplate.Proofs.Pattern.Validators
import TextTemplate.Proofs.Pattern.Filling
import TextTemplate.Proofs.Pattern.Errors
import TextTemplate.Proofs.Session.Errors
import TextTemplate.Proofs.CommandLine.Codes
import TextTemplate.Proofs.CommandLine.Lexemes
import TextTemplate.Proofs.CommandLine.Clauses
import TextTemplate.Proofs.CommandLine.Paths
import TextTemplate.Proofs.CommandLine.Sources
import TextTemplate.Proofs.CommandLine.Inputs
import TextTemplate.Proofs.CommandLine.Printing
import TextTemplate.Proofs.CommandLine.Reordering
import TextTemplate.Proofs.Pattern.Rejections
import TextTemplate.Proofs.Pattern.Source
import TextTemplate.Proofs.Pattern.Shadowing
import TextTemplate.Proofs.Pattern.OtherNames
import TextTemplate.Proofs.Session.Pasts
import TextTemplate.Proofs.Session.Reports
import TextTemplate.Proofs.Session.Insertions
import TextTemplate.Proofs.CommandLine.Decoding
import TextTemplate.Proofs.Text.Json
import TextTemplate.Proofs.CommandLine.Items
import TextTemplate.Proofs.CommandLine.Objects
import TextTemplate.Proofs.CommandLine.Listing
import TextTemplate.Proofs.Text.Terminal
import TextTemplate.Proofs.CommandLine.Colors
