-- SUMMARY: JSONPath queries and the ways in which their texts are malformed.
import ApiJourney.Fault
import ApiJourney.Value.Basic

/-!
# JSONPath queries

A query is a list of selectors that are applied one after the other, each to
every node that the ones before it matched.
-/

namespace ApiJourney

/-- A member by its name or its position. -/
inductive Member where
  | name (key : String)
  | index (position : Int)

inductive Comparison where
  | eq | ne | gt | ge | lt | le
  deriving DecidableEq

/-- What a filter asks of the first match of its relative query. -/
inductive FilterTest where
  | exist
  | compare (op : Comparison) (literal : Value)

inductive Selector where
  /-- The named or numbered members, in the order written. -/
  | members (ms : List Member)
  /-- All members. -/
  | wildcard
  | slice (start stop step : Option Int)
  /-- The children on which the relative query passes the test. -/
  | filter (relative : List Selector) (test : FilterTest)
  /-- The selector applied to each node and all nodes below it. -/
  | descend (s : Selector)

abbrev Query := List Selector

/-- Why a text is not a query. -/
inductive QueryError where
  | empty
  | unexpected (c : Char) (position : Nat) (path : String)
  | descentWithoutSelector (path : String)
  | noNameAfterDescent (position : Nat) (path : String)
  | noName (position : Nat) (path : String)
  | unterminated (text : String)
  | unbalanced (path : String)
  | unclosed (position : Nat) (path : String)
  | literal (text : String)
  | emptyBrackets (path : String)
  | filterForm (path : String)
  | slice (content path : String)
  | sliceBound (piece path : String)
  | zeroStep (path : String)
  | emptyMember (content path : String)
  | filterExpression (expression path : String)

def QueryError.message : QueryError → String
  | empty => "JSONPath expression is empty"
  | unexpected c n p => s!"Unexpected character '{c}' at position {n} in '{p}'"
  | descentWithoutSelector p => s!"Recursive descent without a selector in '{p}'"
  | noNameAfterDescent n p => s!"Expected a member name after '..' at position {n} in '{p}'"
  | noName n p => s!"Expected a member name at position {n} in '{p}'"
  | unterminated t => s!"Unterminated string literal in '{t}'"
  | unbalanced p => s!"Unbalanced parentheses in '{p}'"
  | unclosed n p => s!"Unclosed '[' at position {n} in '{p}'"
  | literal t => s!"Invalid literal '{t}' in filter expression"
  | emptyBrackets p => s!"Empty brackets in '{p}'"
  | filterForm p => s!"Filter must be written as [?(...)] in '{p}'"
  | slice c p => s!"Invalid slice '[{c}]' in '{p}'"
  | sliceBound b p => s!"Invalid slice bound '{b}' in '{p}'"
  | zeroStep p => s!"Slice step cannot be zero in '{p}'"
  | emptyMember c p => s!"Empty member in '[{c}]' in '{p}'"
  | filterExpression e p => s!"Unsupported filter expression '{e}' in '{p}'"

/-- A text that is no query, or one that fails for another reason. -/
inductive QueryFailure where
  | error (e : QueryError)
  | fault (f : Fault)

end ApiJourney
