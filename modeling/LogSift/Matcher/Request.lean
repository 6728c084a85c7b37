import LogSift.Matcher.Counting

/-!
What can be asked of a matcher, as data, and the answers, which keep the count of inputs.
-/

namespace LogSift

open Std (TreeMap)

/-- An input of a matcher. -/
inductive Input where
  | text (s : String)
  | bytes (bs : List UInt8)
  deriving DecidableEq, Repr

namespace Matcher

/-- A question about one input. -/
inductive Query where
  | isMatch
  | fields
  | values
  deriving DecidableEq, Repr

/-- Something that is asked of a matcher. -/
inductive Request where
  | query (query : Query) (input : Input)
  | fieldsOfEach (texts : List String)
  | valuesOfEach (texts : List String)
  | source
  | info
  | hint (field : String)
  | tally
  | resetTally
  deriving DecidableEq, Repr

/-- What a matcher answers. -/
inductive Reply where
  | done
  | flag (b : Bool)
  | fields (fields : TreeMap String String)
  | byteFields (fields : TreeMap String (List UInt8))
  | values (values : Except Error (TreeMap String Value))
  | fieldsOfEach (each : List (TreeMap String String))
  | valuesOfEach (each : List (Except Error (TreeMap String Value)))
  | source (text : String)
  | info (matcher : Matcher)
  | hint (found : Option Hint)
  | tally (tally : Tally)

/-- Answers a question about one input. -/
def answerQuery (matcher : Matcher) (tally : Tally) : Query → Input → Reply × Tally
  | .isMatch, .text s => (Reply.flag <$> matcher.test s).run tally
  | .isMatch, .bytes bs => (Reply.flag <$> matcher.testBytes bs).run tally
  | .fields, .text s => (Reply.fields <$> matcher.parse s).run tally
  | .fields, .bytes bs => (Reply.byteFields <$> matcher.parseBytes bs).run tally
  | .values, .text s => (Reply.values <$> matcher.parseTyped s).run tally
  | .values, .bytes bs => (Reply.values <$> matcher.parseTypedBytes bs).run tally

/-- Answers a request, given the count of inputs so far. -/
def answer (matcher : Matcher) (tally : Tally) : Request → Reply × Tally
  | .query query input => matcher.answerQuery tally query input
  | .fieldsOfEach texts => (Reply.fieldsOfEach <$> texts.mapM matcher.parse).run tally
  | .valuesOfEach texts => (Reply.valuesOfEach <$> texts.mapM matcher.parseTyped).run tally
  | .source => (.source matcher.source, tally)
  | .info => (.info matcher, tally)
  | .hint field => (.hint (matcher.hint? field), tally)
  | .tally => (.tally tally, tally)
  | .resetTally => (.done, {})

end Matcher

end LogSift
