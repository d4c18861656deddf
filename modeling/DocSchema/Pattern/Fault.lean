/-!
# Faults of a pattern

All faults but one are of the text itself. A text without them can still be refused because what is
compiled from it is too large.
-/
namespace DocSchema.Pattern

inductive Fault where
  | groupUnclosed
  | groupUnopened
  | groupName
  | groupNameTwice
  | lookAround
  | flag
  | flagTwice
  | flagNegation
  | flagsEmpty
  | repetitionMissing
  | repetitionCount
  | repetitionUnclosed
  | escapeEnd
  | escapeUnknown
  | backreference
  | hexadecimal
  | wordBoundary
  | classUnclosed
  | classEscape
  | classRange
  | propertyUnknown
  | notUnicode
  | nestedTooDeep
  | tooLarge
  deriving DecidableEq, Repr

/-- The greatest size of a compiled pattern in bytes. -/
def sizeLimit : Nat := 10 * 1024 * 1024

def Fault.reason : Fault → String
  | .groupUnclosed => "unclosed group"
  | .groupUnopened => "unopened group"
  | .groupName => "invalid capture group name"
  | .groupNameTwice => "duplicate capture group name"
  | .lookAround => "look-around is not supported"
  | .flag => "unrecognized flag"
  | .flagTwice => "duplicate flag"
  | .flagNegation => "misplaced flag negation"
  | .flagsEmpty => "empty flags"
  | .repetitionMissing => "repetition operator missing expression"
  | .repetitionCount => "invalid repetition count"
  | .repetitionUnclosed => "unclosed counted repetition"
  | .escapeEnd => "incomplete escape sequence"
  | .escapeUnknown => "unrecognized escape sequence"
  | .backreference => "backreferences are not supported"
  | .hexadecimal => "invalid hexadecimal escape"
  | .wordBoundary => "invalid special word boundary"
  | .classUnclosed => "unclosed character class"
  | .classEscape => "invalid escape sequence in a character class"
  | .classRange => "invalid character class range"
  | .propertyUnknown => "unknown Unicode property"
  | .notUnicode => "not allowed without Unicode mode"
  | .nestedTooDeep => "nested too deep"
  | .tooLarge => s!"Compiled regex exceeds size limit of {sizeLimit} bytes."

def Fault.message : Fault → String
  | .tooLarge => Fault.tooLarge.reason
  | f => "regex parse error: " ++ f.reason

end DocSchema.Pattern
