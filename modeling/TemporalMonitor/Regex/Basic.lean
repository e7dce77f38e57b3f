import TemporalMonitor.Regex.Footprint
import TemporalMonitor.Regex.Meaning
import TemporalMonitor.Regex.Program
import TemporalMonitor.Regex.Reader

/-!
Regular expressions: read once, and matched against any number of texts.
-/

namespace TemporalMonitor

/-- An expression with the program that searches for its matches. -/
structure Regex where
  expr : Regex.Expr
  matcher : Regex.Matcher

namespace Regex

def ofExpr (expr : Expr) : Regex := ⟨expr, .ofExpr expr⟩

/-- Why a text is no expression. -/
inductive Error where
  | malformed
  | tooLarge
  deriving DecidableEq, Repr

def Error.message : Error → String
  | malformed => "regex parse error"
  | tooLarge => "Compiled regex exceeds size limit of " ++ toString Tally.limit ++ " bytes."

/-- The expression with the given text, if that is well formed and not too large. -/
def parse (text : String) : Except Error Regex :=
  match (Pattern.ofText? text).bind fun pattern => pattern.toExpr? {} with
  | none => .error .malformed
  | some (expr, _) => if Footprint.fits expr then .ok (ofExpr expr) else .error .tooLarge

/-- Some part of the text matches. -/
def isMatch (regex : Regex) (text : String) : Bool :=
  regex.matcher.isMatch text

end Regex

end TemporalMonitor
