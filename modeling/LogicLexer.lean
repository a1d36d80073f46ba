import LogicLexer.Cursor
import LogicLexer.Drain
import LogicLexer.Release
import LogicLexer.Trace
import LogicLexer.Proofs.RoundTrip
import LogicLexer.Proofs.Tokenize.FirstFault
import LogicLexer.Proofs.Tokenize.Separation
import LogicLexer.Proofs.Tokenize.Appending
import LogicLexer.Proofs.Scanner.Finding
import LogicLexer.Proofs.Cursor
import LogicLexer.Proofs.Drain
import LogicLexer.Proofs.Rereading
import LogicLexer.Proofs.Numeral.Decimal
import LogicLexer.Proofs.Settling
import LogicLexer.Proofs.Mirror
import LogicLexer.Proofs.Scanner.Progress
import LogicLexer.Proofs.Scanner.Steps
import LogicLexer.Proofs.Scanner.Wrapping
import LogicLexer.Proofs.Scanner.Invariant
import LogicLexer.Proofs.Tokenize.Progress
import LogicLexer.Proofs.Tokenize.Malformed
import LogicLexer.Proofs.Report
