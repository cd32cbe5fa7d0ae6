import SymbolIndex.Main
import SymbolIndex.Scalar
import SymbolIndex.Session
import SymbolIndex.Proofs.Entry.Outcome
import SymbolIndex.Proofs.Entry.Asked
import SymbolIndex.Proofs.Entry.Parts
import SymbolIndex.Proofs.Candidates.Choice
import SymbolIndex.Proofs.Session
import SymbolIndex.Proofs.Template.Shown
import SymbolIndex.Proofs.Template.Summary
import SymbolIndex.Proofs.Text.Dotted
import SymbolIndex.Proofs.Text.Gaps
import SymbolIndex.Proofs.Text.Margin
import SymbolIndex.Proofs.Text.Words
import SymbolIndex.Proofs.Location
import SymbolIndex.Proofs.Traversal
import SymbolIndex.Proofs.Kind
import SymbolIndex.Proofs.Comment
import SymbolIndex.Proofs.Sexp.Literal
import SymbolIndex.Proofs.Sexp.Unquoting
import SymbolIndex.Proofs.Sexp.Token
import SymbolIndex.Proofs.Sexp.Layout
import SymbolIndex.Proofs.Sexp.Grammar
import SymbolIndex.Proofs.Sexp.Soundness
import SymbolIndex.Proofs.Sexp.Record
import SymbolIndex.Proofs.Sexp.Written
import SymbolIndex.Proofs.Sexp.RoundTrip
import SymbolIndex.Proofs.Sexp.Reader
import SymbolIndex.Proofs.Sexp.Keys
import SymbolIndex.Proofs.Trie
import SymbolIndex.Proofs.Names
import SymbolIndex.Proofs.Index.Build
import SymbolIndex.Proofs.Index.Tables
import SymbolIndex.Proofs.Index.Scan
import SymbolIndex.Proofs.Index.Scopes
import SymbolIndex.Proofs.Index.Hits
import SymbolIndex.Proofs.Index.Agreement
import SymbolIndex.Proofs.Index.Opening
import SymbolIndex.Proofs.Index.Narrowing
import SymbolIndex.Proofs.Index.Meaning
import SymbolIndex.Proofs.Candidates.Located
import SymbolIndex.Proofs.Listing
import SymbolIndex.Proofs.Template.Parsing
import SymbolIndex.Proofs.Template.Computed
import SymbolIndex.Proofs.Template.Embedding
import SymbolIndex.Proofs.Template.Styled
import SymbolIndex.Proofs.CommandLine.Plan
import SymbolIndex.Proofs.CommandLine.Status
import SymbolIndex.Proofs.Index.Validity
import SymbolIndex.Proofs.Keywords
import SymbolIndex.Proofs.CommandLine.Agreement
import SymbolIndex.Proofs.Index.Decoding
