import TokenListing.Binary64.Text
import TokenListing.Span

/-! # Tokens

A token has a kind, a value and the position of its first character. Integers and decimals keep
their numbers; every other token keeps its spelling. A name that spells a keyword is that
keyword.
-/
namespace TokenListing

inductive Keyword where
  | printWord
  | varWord
  | funcWord
  | ifWord
  | thenWord
  | elseWord
  | whileWord
  | voidWord
  | beginWord
  | endWord
  | intWord
  deriving DecidableEq, Repr

namespace Keyword

def all : List Keyword :=
  [printWord, varWord, funcWord, ifWord, thenWord, elseWord, whileWord, voidWord, beginWord,
    endWord, intWord]

def spelling : Keyword → String
  | printWord => "print"
  | varWord => "var"
  | funcWord => "func"
  | ifWord => "if"
  | thenWord => "then"
  | elseWord => "else"
  | whileWord => "while"
  | voidWord => "void"
  | beginWord => "begin"
  | endWord => "end"
  | intWord => "int"

def name : Keyword → String
  | printWord => "PRINT"
  | varWord => "VAR"
  | funcWord => "FUNC"
  | ifWord => "IF"
  | thenWord => "THEN"
  | elseWord => "ELSE"
  | whileWord => "WHILE"
  | voidWord => "VOID"
  | beginWord => "BEGIN"
  | endWord => "END"
  | intWord => "INT"

def ofSpelling? (spelling : String) : Option Keyword :=
  all.find? fun word => word.spelling == spelling

theorem mem_all (word : Keyword) : word ∈ all := by
  cases word <;> decide

end Keyword

inductive TokenKind where
  | operator
  | relation
  | leftParen
  | rightParen
  | semicolon
  | comma
  | assign
  | typeOf
  | number
  | identifier
  | keyword (word : Keyword)
  deriving DecidableEq, Repr

namespace TokenKind

def all : List TokenKind :=
  [operator, relation, leftParen, rightParen, semicolon, comma, assign, typeOf, number,
    identifier] ++ Keyword.all.map keyword

def name : TokenKind → String
  | operator => "OP"
  | relation => "RELOP"
  | leftParen => "LPAREN"
  | rightParen => "RPAREN"
  | semicolon => "SEMI"
  | comma => "COMMA"
  | assign => "ASSIGN"
  | typeOf => "TYPEOF"
  | number => "NUM"
  | identifier => "ID"
  | keyword word => word.name

def isKeyword : TokenKind → Bool
  | keyword _ => true
  | _ => false

def ofName? (name : String) : Option TokenKind :=
  all.find? fun kind => kind.name == name

theorem mem_all (kind : TokenKind) : kind ∈ all := by
  cases kind with
  | keyword word =>
    exact List.mem_append_right _ (List.mem_map_of_mem (Keyword.mem_all word))
  | _ => decide

theorem ofName?_name (kind : TokenKind) : ofName? kind.name = some kind := by
  cases kind with
  | keyword word => cases word <;> decide
  | _ => decide

/-- The kind of a name: a keyword or else an identifier. -/
def ofSpelling (spelling : String) : TokenKind :=
  (Keyword.ofSpelling? spelling).elim identifier keyword

end TokenKind

inductive TokenValue where
  | text (spelling : String)
  | integer (value : Int64)
  | decimal (value : Binary64)
  deriving DecidableEq, Repr

namespace TokenValue

def display : TokenValue → String
  | text spelling => spelling
  | integer value => toString value.toInt
  | decimal value => value.text

/-- Equality of what is stood for; decimals are compared as numbers. -/
def equal : TokenValue → TokenValue → Bool
  | decimal x, decimal y => x.equal y
  | x, y => x == y

end TokenValue

structure Token where
  kind : TokenKind
  value : TokenValue
  span : Span
  deriving DecidableEq, Repr

namespace Token

def display (token : Token) : String :=
  token.kind.name ++ "(" ++ token.value.display ++ ") at " ++ token.span.text

def equal (a b : Token) : Bool :=
  a.kind == b.kind && a.value.equal b.value && a.span == b.span

end Token
end TokenListing
