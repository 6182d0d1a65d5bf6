import LoxFront.Expr
import LoxFront.Main
import LoxFront.Proofs.Binary64.Correct
import LoxFront.Proofs.Binary64.Display
import LoxFront.Proofs.Binary64.Shortest
import LoxFront.Proofs.Diagnostic.Colour
import LoxFront.Proofs.Diagnostic.Rows
import LoxFront.Proofs.Expr.Form
import LoxFront.Proofs.Expr.Unique
import LoxFront.Proofs.Fault.Reader
import LoxFront.Proofs.Listing.Table
import LoxFront.Proofs.Report.Check
import LoxFront.Proofs.Report.Display
import LoxFront.Proofs.Report.Ending
import LoxFront.Proofs.Report.Listen
import LoxFront.Proofs.Report.Run
import LoxFront.Proofs.Report.Underline
import LoxFront.Proofs.Scan.Comment
import LoxFront.Proofs.Scan.Dump
import LoxFront.Proofs.Scan.Extend
import LoxFront.Proofs.Scan.Join
import LoxFront.Proofs.Scan.Number
import LoxFront.Proofs.Scan.Recover
import LoxFront.Proofs.Scan.RoundTrip
import LoxFront.Proofs.Segment.Munch
import LoxFront.Proofs.Command.Options
import LoxFront.Proofs.Command.Script
import LoxFront.Proofs.Scan.Lexeme
import LoxFront.Proofs.Command.Prompt
import LoxFront.Proofs.Cursor.Run
import LoxFront.Proofs.Report.Blank
