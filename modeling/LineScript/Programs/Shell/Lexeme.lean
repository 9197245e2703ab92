import LineScript.Programs.Shell.Statement

/-!
# Lexemes of the shell

What statements are read from: words, redirections, ends of lines, and marks. A mark is an operator, or
a word that has a meaning where a command may begin.
-/

namespace LineScript.Programs.Shell

set_option autoImplicit false

inductive Mark where
  | semicolon
  | ampersand
  | and
  | or
  | pipe
  | opening
  | closing
  | branchEnd
  | not
  | case
  | do
  | done
  | elif
  | else
  | esac
  | fi
  | for
  | if
  | in
  | then
  | until
  | while
  | brace
  | endBrace
  deriving DecidableEq, Repr

namespace Mark

def spelling : Mark → String
  | .semicolon => ";"
  | .ampersand => "&"
  | .and => "&&"
  | .or => "||"
  | .pipe => "|"
  | .opening => "("
  | .closing => ")"
  | .branchEnd => ";;"
  | .not => "!"
  | .case => "case"
  | .do => "do"
  | .done => "done"
  | .elif => "elif"
  | .else => "else"
  | .esac => "esac"
  | .fi => "fi"
  | .for => "for"
  | .if => "if"
  | .in => "in"
  | .then => "then"
  | .until => "until"
  | .while => "while"
  | .brace => "\x7b"
  | .endBrace => "\x7d"

def keywords : List Mark :=
  [.not, .case, .do, .done, .elif, .else, .esac, .fi, .for, .if, .in, .then, .until, .while, .brace,
    .endBrace]

def ofText? (text : Text) : Option Mark := keywords.find? (·.spelling.toList == text)

def endsList : Mark → Bool
  | .closing | .branchEnd | .do | .done | .elif | .else | .esac | .fi | .then | .endBrace => true
  | _ => false

end Mark

/-- A redirection before its word was read. A here-document may have its leading tabulators taken off. -/
inductive RedirectionHead where
  | file (descriptor : Nat) (target : Target)
  | copy (descriptor : Nat)
  | document (descriptor : Nat) (strips : Bool)
  deriving DecidableEq

inductive Lexeme where
  | ending
  | newline
  | mark (which : Mark)
  | redirection (head : RedirectionHead)
  | word (word : Word)

namespace Lexeme

def name : Lexeme → Text
  | .ending => "end of file".toList
  | .newline => "newline".toList
  | .mark which => '"' :: which.spelling.toList ++ ['"']
  | .redirection _ => "redirection".toList
  | .word _ => "word".toList

def isMark (lexeme : Lexeme) (expected : Mark) : Bool :=
  match lexeme with
  | .mark found => found == expected
  | _ => false

def endsList : Lexeme → Bool
  | .ending => true
  | .mark which => which.endsList
  | _ => false

end Lexeme

inductive SyntaxFault where
  | unexpected (found : Text) (expected : Option Text)
  | badFunctionName
  | badLoopVariable
  | unterminatedQuote
  | missingParentheses
  | missingBrace
  | unclosedBackquote
  | tooLong
  deriving DecidableEq

def unexpectedLimit : Nat := 63

def SyntaxFault.message : SyntaxFault → Text
  | .unexpected found none => (found ++ " unexpected".toList).take unexpectedLimit
  | .unexpected found (some expected) =>
    (found ++ " unexpected (expecting ".toList ++ expected ++ [')']).take unexpectedLimit
  | .badFunctionName => "Bad function name".toList
  | .badLoopVariable => "Bad for loop variable".toList
  | .unterminatedQuote => "Unterminated quoted string".toList
  | .missingParentheses => "Missing '))'".toList
  | .missingBrace => "Missing '\x7d'".toList
  | .unclosedBackquote => "EOF in backquote substitution".toList
  | .tooLong => "too long".toList

end LineScript.Programs.Shell
