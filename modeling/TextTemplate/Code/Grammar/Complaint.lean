import TextTemplate.Code.Token

/-!
# What can be wrong with a piece of code

- `Wanted`: what the grammar asks for at some place.
- `Complaint`: why a piece of code is not what it should be.
- `Complaint.message`: the complaint in words. A complaint about the end of the code, or of a group,
  says so, unless a mark was wanted there.
-/

namespace TextTemplate

namespace Grammar

/-- What the grammar may ask for. -/
inductive Wanted
  | sign (text : String)
  | keyword (name : String)
  | group (delimiter : Delimiter)
  | delimiter
  | identifier
  | identifierOrUnderscore
  | lifetime
  | literal
  | stringLiteral
  | integerLiteral
  | unsuffixedInteger
  | member
  | expression
  | loopOrBlock
  | upperBound
  | commaOrSemicolon
  | semicolon
  | pathSegment
deriving DecidableEq, Repr

namespace Wanted

/-- A name between back quotes. -/
def ticked (name : String) : String := "`" ++ name ++ "`"

/-- What is wanted, in words. -/
def text : Wanted → String
  | sign s => ticked s
  | keyword name => ticked name
  | group .paren => "parentheses"
  | group .brace => "curly braces"
  | group .bracket => "square brackets"
  | delimiter => "delimiter"
  | identifier => "identifier"
  | identifierOrUnderscore => "identifier or underscore"
  | lifetime => "lifetime"
  | literal => "literal"
  | stringLiteral => "string literal"
  | integerLiteral => "integer literal"
  | unsuffixedInteger => "unsuffixed integer"
  | member => "identifier or integer"
  | expression => "an expression"
  | loopOrBlock => "loop or block expression"
  | upperBound => "range upper bound"
  | commaOrSemicolon => ticked "," ++ " or " ++ ticked ";"
  | semicolon => "semicolon"
  | pathSegment => "path segment after " ++ ticked "::"

end Wanted

/-- What a cast may not be followed by. -/
inductive CastTail
  | await
  | methodCall
  | field
  | question
  | index
  | call
deriving DecidableEq, Repr

/-- Why a number cannot be taken. -/
inductive NumberFault
  | tooLarge
  | notDigits
deriving DecidableEq, Repr

/-- Why a piece of code is refused. -/
inductive Complaint
  | unsplit
  | expected (atEnd : Bool) (wanted : List Wanted)
  | keyword (name : String)
  | leftover (inside : Option Delimiter)
  | noSemicolon
  | chainedComparison
  | castFollowed (tail : CastTail)
  | bareLabel
  | attributeOnRange
  | attributeInAttribute
  | openRangeInSlice
  | noTraitInObject
  | noTraitInBounds
  | capturesNotAllowed
  | constBoundNotAllowed
  | maybeConstBoundNotAllowed
  | binderOfMaybeBound
  | parametersOnWhere
  | secondReceiver
  | lateReceiver
  | negativeInherent
  | number (fault : NumberFault)
  | tooDeep
deriving DecidableEq, Repr

namespace Complaint

/-- A choice of things that are wanted, in words. -/
def choice : List Wanted → String
  | [] => "nothing"
  | [a] => "expected " ++ a.text
  | [a, b] => "expected " ++ a.text ++ " or " ++ b.text
  | all => "expected one of: " ++ String.intercalate ", " (all.map Wanted.text)

/-- The words for a number that cannot be taken. -/
def ofNumber : NumberFault → String
  | .tooLarge => "number too large to fit in target type"
  | .notDigits => "invalid digit found in string"

/-- The words for what follows a cast. -/
def ofCastTail : CastTail → String
  | .await => Wanted.ticked ".await"
  | .methodCall => "a method call"
  | .field => "a field access"
  | .question => Wanted.ticked "?"
  | .index => "indexing"
  | .call => "a function call"

/-- The complaint in words. -/
def message : Complaint → String
  | unsplit => "cannot parse string into token stream"
  | expected true [] => "unexpected end of input"
  | expected false [] => "unexpected token"
  | expected true wanted => "unexpected end of input, " ++ choice wanted
  | expected false wanted => choice wanted
  | keyword name => "expected identifier, found keyword " ++ Wanted.ticked name
  | leftover none => "unexpected token"
  | leftover (some d) => "unexpected token, expected " ++ Wanted.ticked (String.singleton d.closing)
  | noSemicolon => "unexpected token, expected " ++ Wanted.ticked ";"
  | chainedComparison => "comparison operators cannot be chained"
  | castFollowed tail => "casts cannot be followed by " ++ ofCastTail tail
  | bareLabel => "parentheses required"
  | attributeOnRange =>
    "attributes are not allowed on range expressions starting with " ++ Wanted.ticked ".."
  | attributeInAttribute => "unexpected attribute inside of attribute"
  | openRangeInSlice => "range pattern is not allowed unparenthesized inside slice pattern"
  | noTraitInObject => "at least one trait is required for an object type"
  | noTraitInBounds => "at least one trait must be specified"
  | capturesNotAllowed =>
    Wanted.ticked "use<...>" ++ " precise capturing syntax is not allowed here"
  | constBoundNotAllowed => Wanted.ticked "const" ++ " is not allowed here"
  | maybeConstBoundNotAllowed => Wanted.ticked "[const]" ++ " is not allowed here"
  | binderOfMaybeBound =>
    Wanted.ticked "for<...>" ++ " binder not allowed with " ++ Wanted.ticked "?" ++
      " trait polarity modifier"
  | parametersOnWhere =>
    "generic parameters on " ++ Wanted.ticked "where" ++ " clauses are reserved for future use"
  | secondReceiver => "unexpected second method receiver"
  | lateReceiver => "unexpected method receiver"
  | negativeInherent => "inherent impls cannot be negative"
  | number fault => ofNumber fault
  | tooDeep => "code is nested too deeply"

end Complaint

end Grammar

end TextTemplate
