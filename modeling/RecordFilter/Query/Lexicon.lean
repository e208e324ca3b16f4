import RecordFilter.Query.Token
import RecordFilter.Text.Blank
import RecordFilter.Text.Lowercase
import RecordFilter.Text.NameChar
import RecordFilter.Text.Utf8

/-!
# From text to tokens

A query is split with the help of the names its fields have. Names are tried
longest first, so a name is never cut short by another one that it starts with,
and a name must not be followed by a further name character. Between tokens any
number of blanks may stand, also none.
-/

namespace RecordFilter

/-- The head of the rest of a query is the head of no token. -/
structure LexError where
  /-- The byte at which the query cannot be read on. -/
  position : Nat
  /-- At most sixteen characters from there. -/
  unexpected : String
  deriving DecidableEq

namespace LexError

def snippetLength : Nat := 16

/-- The error for a query that cannot be read on from its given rest. -/
def ofRest (position : Nat) (rest : List Char) : LexError where
  position := position
  unexpected := String.ofList (rest.take snippetLength)

def message (error : LexError) : String :=
  "Unexpected input at position " ++ toString error.position ++ ": '" ++
    error.unexpected ++ "'"

end LexError

/-- What follows a name at the head of a text; letters are compared by their
lower-case mapping. -/
def afterName? : List Char → List Char → Option (List Char)
  | [], text => some text
  | _ :: _, [] => none
  | n :: name, c :: text =>
    if lowercase c = lowercase n then afterName? name text else none

/-- Whether a name stands at the head of a text as a whole word. -/
def standsAtHead (text name : List Char) : Bool :=
  match afterName? name text with
  | none => false
  | some [] => true
  | some (c :: _) => !isNameChar c

/-- The field names that a query may use. -/
structure Lexicon where
  /-- Longest first, none empty. -/
  names : List (List Char)

namespace Lexicon

def ofNames (names : List String) : Lexicon where
  names := ((names.map String.toList).filter (!·.isEmpty)).mergeSort
    fun left right => right.length ≤ left.length

/-- The number of characters of the field name at the head of a text. -/
def nameLength? (lexicon : Lexicon) (text : List Char) : Option Nat :=
  (lexicon.names.find? (standsAtHead text)).map List.length

/-- The number of characters of the lexeme at the head of a text, if it starts
with one of them. -/
def lexemeLength? (lexemes : List String) (text : List Char) : Option Nat :=
  (lexemes.find? fun lexeme => lexeme.toList.isPrefixOf text).map
    (·.toList.length)

/-- The number of characters up to the second of two ticks, of which the first
stands at the head. -/
def quotedLength? (text : List Char) : Option Nat :=
  match text with
  | [] => none
  | c :: rest =>
    if c = tick then (rest.findIdx? (· == tick)).map (· + 2) else none

/-- The kind and the number of characters of the token at the head of a text. -/
def token? (lexicon : Lexicon) (text : List Char) : Option (TokenKind × Nat) :=
  if text.head? = some '(' then some (.openBracket, 1)
  else if text.head? = some ')' then some (.closeBracket, 1)
  else
    ((lexicon.nameLength? text).map (TokenKind.property, ·))
    <|> ((lexemeLength? operatorLexemes text).map (TokenKind.operator, ·))
    <|> ((lexemeLength? connectiveLexemes text).map (TokenKind.connective, ·))
    <|> ((quotedLength? text).map (TokenKind.value, ·))

/-- The tokens of a text that starts at a byte of the query. A token has a first
character, so only the rest of its characters is measured off. -/
def tokensFrom (lexicon : Lexicon) (position : Nat) (text : List Char) :
    Except LexError (List Token) :=
  match text with
  | [] => .ok []
  | c :: rest =>
    if isBlank c then lexicon.tokensFrom (position + c.utf8Size) rest
    else
      match lexicon.token? (c :: rest) with
      | none => .error (.ofRest position (c :: rest))
      | some (kind, length) =>
        let lexeme := c :: rest.take (length - 1)
        let stop := position + utf8Length lexeme
        match lexicon.tokensFrom stop (rest.drop (length - 1)) with
        | .error error => .error error
        | .ok tokens =>
          .ok (⟨kind, String.ofList lexeme, ⟨position, stop⟩⟩ :: tokens)
termination_by text.length
decreasing_by
  · simp
  · simp only [List.length_drop, List.length_cons]
    omega

def tokenize (lexicon : Lexicon) (query : String) :
    Except LexError (List Token) :=
  lexicon.tokensFrom 0 query.toList

end Lexicon

end RecordFilter
