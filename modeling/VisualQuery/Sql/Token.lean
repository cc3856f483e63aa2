import VisualQuery.Decimal.Natural
import VisualQuery.Join
import VisualQuery.Sql.Dialect

/-!
# Tokens

A statement is a sequence of tokens; its text is the texts of its tokens, one behind the other.
Spaces are tokens too, so that nothing is added when a sequence is written.
-/

namespace VisualQuery

/-- A token of a statement. -/
inductive Token where
  /-- The keyword `SELECT`. -/
  | select
  /-- The keyword `FROM`. -/
  | from'
  /-- The keyword `WHERE`. -/
  | where'
  /-- The keyword `AND`. -/
  | and
  /-- The keyword `AS`. -/
  | as
  /-- The keyword `ON`. -/
  | on
  /-- The keywords `GROUP BY`. -/
  | groupBy
  /-- The keyword `HAVING`. -/
  | having
  /-- The keywords `ORDER BY`. -/
  | orderBy
  /-- The keyword `ASC`. -/
  | asc
  /-- The keyword `DESC`. -/
  | desc
  /-- The keywords of a join. -/
  | join (kind : JoinKind)
  /-- A comma. -/
  | comma
  /-- A point. -/
  | dot
  /-- An opening parenthesis. -/
  | lparen
  /-- A closing parenthesis. -/
  | rparen
  /-- A comparator. -/
  | comparator (c : Comparator)
  /-- A space. -/
  | space
  /-- An identifier, which is quoted. -/
  | ident (name : String)
  /-- An identifier behind its schema, if it has one; both are quoted. -/
  | qualifiedIdent (schema : Option String) (name : String)
  /-- An alias, which is not quoted. -/
  | aliasName (name : String)
  /-- The name of a function, which is written in upper case. -/
  | function (name : String)
  /-- A whole number. -/
  | int (n : Int)
  /-- A text that is written as it is. -/
  | raw (text : String)
deriving DecidableEq, Repr

namespace Token

/-- The text of a token, with identifiers between the given quotes. -/
def text (quote : String) : Token → String
  | .select => "SELECT"
  | .from' => "FROM"
  | .where' => "WHERE"
  | .and => "AND"
  | .as => "AS"
  | .on => "ON"
  | .groupBy => "GROUP BY"
  | .having => "HAVING"
  | .orderBy => "ORDER BY"
  | .asc => "ASC"
  | .desc => "DESC"
  | .join kind => kind.keyword
  | .comma => ","
  | .dot => "."
  | .lparen => "("
  | .rparen => ")"
  | .comparator c => c.word
  | .space => " "
  | .ident name => quoteIdentifier quote name
  | .qualifiedIdent none name => quoteIdentifier quote name
  | .qualifiedIdent (some schema) name =>
    quoteIdentifier quote schema ++ "." ++ quoteIdentifier quote name
  | .aliasName name => name
  | .function name => Text.toUpper name
  | .int n => Decimal.intText n
  | .raw text => text

/-- The text of a sequence of tokens. -/
def render (quote : String) (tokens : List Token) : String :=
  String.join (tokens.map (text quote))

/-- Sequences of tokens with a separator between any two of them. -/
def separated (separator : List Token) (parts : List (List Token)) : List Token :=
  separator.intercalate parts

end Token

end VisualQuery
