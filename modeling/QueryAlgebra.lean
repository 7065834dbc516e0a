import QueryAlgebra.Row.History
import QueryAlgebra.Session
import QueryAlgebra.Value.Serial
import QueryAlgebra.Proofs.Outline
import QueryAlgebra.Proofs.Outline.Reader
import QueryAlgebra.Proofs.Expr.Typing
import QueryAlgebra.Proofs.Session.Soundness
import QueryAlgebra.Proofs.Expr.Description
import QueryAlgebra.Proofs.Text.Numeral
import QueryAlgebra.Proofs.Json.Literal
import QueryAlgebra.Proofs.Json.Lexing
import QueryAlgebra.Proofs.Json.Reading
import QueryAlgebra.Proofs.Timestamp
import QueryAlgebra.Proofs.Uuid
import QueryAlgebra.Proofs.Decimal
import QueryAlgebra.Proofs.Value.RoundTrip
import QueryAlgebra.Proofs.Outline.Place
import QueryAlgebra.Proofs.Text.Parentheses
import QueryAlgebra.Proofs.Outline.Parentheses
import QueryAlgebra.Proofs.Outline.ClosedForm
import QueryAlgebra.Proofs.Select.Reader
import QueryAlgebra.Proofs.Select.Conversion
import QueryAlgebra.Proofs.Sink
import QueryAlgebra.Proofs.TypedExpr.Rebuilding
import QueryAlgebra.Proofs.Session.Reassembly
import QueryAlgebra.Proofs.Floating.Order
import QueryAlgebra.Proofs.Json.Equality
import QueryAlgebra.Proofs.Value.Equality
import QueryAlgebra.Proofs.Expr.Equality
import QueryAlgebra.Proofs.Floating.Shortest
import QueryAlgebra.Proofs.Text.Unique
import QueryAlgebra.Proofs.Floating.Printer
import QueryAlgebra.Proofs.Json.Unique
import QueryAlgebra.Proofs.Value.Unique
import QueryAlgebra.Proofs.Select.Listing
import QueryAlgebra.Proofs.Text.Quoted
import QueryAlgebra.Proofs.Select.Description
import QueryAlgebra.Proofs.TypedExpr.Equality
import QueryAlgebra.Proofs.Floating.Nearest
import QueryAlgebra.Proofs.Floating.Decimal
import QueryAlgebra.Proofs.Floating.Precision
import QueryAlgebra.Proofs.Floating.Length
import QueryAlgebra.Proofs.Floating.Arithmetic
import QueryAlgebra.Proofs.Json.Scaling
import QueryAlgebra.Proofs.Json.Floats
import QueryAlgebra.Proofs.Value.Floats
import QueryAlgebra.Proofs.Floating.Fractions
import QueryAlgebra.Proofs.Floating.Middle
import QueryAlgebra.Proofs.Floating.Narrowing
import QueryAlgebra.Proofs.Json.Narrowing
import QueryAlgebra.Proofs.Value.Reals
import QueryAlgebra.Proofs.Select.Visible
