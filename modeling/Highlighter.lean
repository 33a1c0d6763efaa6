import Highlighter.Main
import Highlighter.Files.Folder
import Highlighter.Proofs.Text.Partition
import Highlighter.Proofs.Source
import Highlighter.Proofs.Markup.Outcome
import Highlighter.Proofs.Markup.RoundTrip
import Highlighter.Proofs.Tokenizer.Reference
import Highlighter.Proofs.Language.Builtin
import Highlighter.Proofs.Language.Coherence
import Highlighter.Proofs.Markup.Defect
import Highlighter.Proofs.Tokenizer.Emission
import Highlighter.Proofs.Tokenizer.Delimiters
import Highlighter.Proofs.Tokenizer.Maximal
import Highlighter.Proofs.Tokenizer.Continuation
import Highlighter.Proofs.Tokenizer.Halting
import Highlighter.Proofs.Rehighlighting
import Highlighter.Proofs.Output
import Highlighter.Proofs.Tokenizer.Contexts
import Highlighter.Proofs.Pattern.Stability
import Highlighter.Proofs.Tokenizer.Searches
import Highlighter.Proofs.Tokenizer.Recall
import Highlighter.Proofs.Language.Listing
import Highlighter.Proofs.Grammar.Defects
import Highlighter.Proofs.Tokenizer.ClassPrefix
import Highlighter.Proofs.Tokenizer.Groups
import Highlighter.Proofs.Markup.InnerHtml
import Highlighter.Proofs.Markup.Classes
import Highlighter.Proofs.Tokenizer.Interruption
