import VerseQuery.Catalogue
import VerseQuery.Files
import VerseQuery.Json.Query
import VerseQuery.Json.Reader
import VerseQuery.Json.Settings
import VerseQuery.Json.Synonyms
import VerseQuery.Json.Writer
import VerseQuery.Logging
import VerseQuery.Pattern.RoundTrip
import VerseQuery.Pattern.Factor
import VerseQuery.Text.AlphaNumeric
import VerseQuery.Proofs.Matching
import VerseQuery.Proofs.Pieces
import VerseQuery.Proofs.Compiled
import VerseQuery.Proofs.TextSearch
import VerseQuery.Proofs.Characters
import VerseQuery.Proofs.WordPairs
import VerseQuery.Proofs.Expansions
import VerseQuery.Proofs.Grammar
import VerseQuery.Proofs.SourceText
import VerseQuery.Proofs.LiteralOperands
import VerseQuery.Proofs.Spans
import VerseQuery.Proofs.SpanPlaces
import VerseQuery.Proofs.Assertions
import VerseQuery.Proofs.Dictionary
import VerseQuery.Proofs.Consultation
import VerseQuery.Proofs.Alternatives
import VerseQuery.Proofs.Signs
import VerseQuery.Proofs.Risk
import VerseQuery.Proofs.Widening
import VerseQuery.Proofs.CaseFlag
import VerseQuery.Proofs.Folding
import VerseQuery.Proofs.CaseBlind
import VerseQuery.Proofs.LowerCase
import VerseQuery.Proofs.ToldTerms
import VerseQuery.Proofs.NormalTerms
import VerseQuery.Proofs.NormalForm
import VerseQuery.Proofs.Descriptions
import VerseQuery.Proofs.Refusals
import VerseQuery.Proofs.Unused
import VerseQuery.Proofs.Weights
import VerseQuery.Proofs.Punctuation
import VerseQuery.Proofs.Growing
import VerseQuery.Proofs.Reordering
import VerseQuery.Proofs.JsonText
import VerseQuery.Proofs.Decoding
import VerseQuery.Proofs.SavedRequests
