-- SUMMARY: The kinds of failure that carry no text of their own.

/-!
# Faults

A fault is a failure of which only the kind is told. An operation that fails
with a fault has no result and no message.
-/

namespace ApiJourney

inductive Fault where
  /-- An operand of a type that the operation does not take. -/
  | wrongType
  /-- An operand of the right type whose value cannot be used. -/
  | badValue
  /-- A text that does not follow its grammar. -/
  | malformed
  | divisionByZero
  /-- A position outside of a sequence. -/
  | outOfRange
  | missingKey
  /-- A number too large for what it is used for. -/
  | overflow
  | noAttribute
  | unknownName
  /-- More nesting than can be followed. -/
  | tooDeep
  | outOfMemory
  /-- Bytes that are not a text. -/
  | undecodable
  /-- A text that cannot be written as bytes. -/
  | unencodable
  /-- A directory where a file was needed. -/
  | isDirectory
  | notDirectory
  | noPermission
  /-- A failure of the system that has no kind of its own. -/
  | system
  /-- A failure of a library that has no kind of its own. -/
  | other
  deriving DecidableEq

/-- Nesting up to this depth is followed wherever it stands. Readers and comparisons follow more of
    it, but how much more also depends on what has called them. -/
def plainNesting : Nat := 100

/-- A value that cannot be used, a malformed text among them. -/
def Fault.isValue : Fault → Bool
  | badValue => true
  | malformed => true
  | _ => false

/-- A failure of the system to hand out a file. -/
def Fault.isSystem : Fault → Bool
  | isDirectory => true
  | notDirectory => true
  | noPermission => true
  | system => true
  | _ => false

/-- The word under which a fault is reported. -/
def Fault.name : Fault → String
  | wrongType => "TypeError"
  | badValue => "ValueError"
  | malformed => "ValueError"
  | divisionByZero => "ZeroDivisionError"
  | outOfRange => "IndexError"
  | missingKey => "KeyError"
  | overflow => "OverflowError"
  | noAttribute => "AttributeError"
  | unknownName => "LookupError"
  | tooDeep => "RecursionError"
  | outOfMemory => "MemoryError"
  | undecodable => "UnicodeDecodeError"
  | unencodable => "UnicodeEncodeError"
  | isDirectory => "IsADirectoryError"
  | notDirectory => "NotADirectoryError"
  | noPermission => "PermissionError"
  | system => "OSError"
  | other => "Exception"

end ApiJourney
