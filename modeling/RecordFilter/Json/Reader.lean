import RecordFilter.Json.Numeral
import RecordFilter.Number.Hexadecimal

/-!
# Reading JSON

The characters of a document are gathered into tokens, and the tokens are put
together to a value with the help of a stack of the arrays and objects that are
still open. Arrays and objects may stand within each other up to a fixed depth.
-/

namespace RecordFilter

inductive JsonToken where
  | openArray
  | closeArray
  | openObject
  | closeObject
  | comma
  | colon
  | string (value : String)
  /-- A number, a truth value or null. -/
  | atom (value : JsonValue)

namespace JsonScan

/-- The token that has been begun; its characters are kept in reverse. -/
inductive Pending where
  | nothing
  | word (letters : List Char)
  | numeral (characters : List Char)
  | string (content : List Char)
  /-- Within a string, behind a backslash. -/
  | escape (content : List Char)
  /-- Within a character code of which some digits are still to come, perhaps
  behind the first half of a pair of codes. -/
  | code (content : List Char) (lead : Option Nat) (value missing : Nat)
  /-- Behind the first half of a pair of codes, where a backslash must come. -/
  | pairBackslash (content : List Char) (lead : Nat)
  /-- Behind that backslash. -/
  | pairLetter (content : List Char) (lead : Nat)

structure State where
  /-- The finished tokens, the last one first. -/
  tokens : List JsonToken := []
  pending : Pending := .nothing

def isBlank (c : Char) : Bool := c == ' ' || c == '\t' || c == '\n' || c == '\r'

def isNumeralChar (c : Char) : Bool :=
  c.isDigit || c == '-' || c == '+' || c == '.' || c == 'e' || c == 'E'

def word? (letters : List Char) : Option JsonValue :=
  let word := String.ofList letters
  if word = "null" then some .null
  else if word = "true" then some (.bool true)
  else if word = "false" then some (.bool false)
  else none

/-- The token that a character is or begins. -/
def begin? (tokens : List JsonToken) (c : Char) : Option State :=
  if isBlank c then some ⟨tokens, .nothing⟩
  else if c = '[' then some ⟨.openArray :: tokens, .nothing⟩
  else if c = ']' then some ⟨.closeArray :: tokens, .nothing⟩
  else if c = '\x7b' then some ⟨.openObject :: tokens, .nothing⟩
  else if c = '\x7d' then some ⟨.closeObject :: tokens, .nothing⟩
  else if c = ',' then some ⟨.comma :: tokens, .nothing⟩
  else if c = ':' then some ⟨.colon :: tokens, .nothing⟩
  else if c = '"' then some ⟨tokens, .string []⟩
  else if c.isDigit ∨ c = '-' then some ⟨tokens, .numeral [c]⟩
  else if c.isLower then some ⟨tokens, .word [c]⟩
  else none

/-- The tokens when a word or a number ends, as each does where no further
character of it comes. -/
def ended? (state : State) : Option (List JsonToken) :=
  match state.pending with
  | .nothing => some state.tokens
  | .word letters =>
    (word? letters.reverse).map fun value => .atom value :: state.tokens
  | .numeral characters =>
    (JsonNumeral.read? characters.reverse).map fun numeral =>
      .atom (.number numeral) :: state.tokens
  | _ => none

/-- The character that a letter behind a backslash stands for. -/
def escaped? (c : Char) : Option Char :=
  if c = '"' ∨ c = '\\' ∨ c = '/' then some c
  else if c = 'b' then some '\x08'
  else if c = 'f' then some '\x0c'
  else if c = 'n' then some '\n'
  else if c = 'r' then some '\r'
  else if c = 't' then some '\t'
  else none

/-- What follows a complete character code: a code of the first half of a pair
needs the second half, and a second half needs the first. -/
def afterCode? (content : List Char) (lead : Option Nat) (code : Nat) :
    Option Pending :=
  let isLead := 0xd800 ≤ code ∧ code < 0xdc00
  let isTrail := 0xdc00 ≤ code ∧ code < 0xe000
  match lead with
  | none =>
    if isLead then some (.pairBackslash content code)
    else if isTrail then none
    else some (.string (Char.ofNat code :: content))
  | some lead =>
    if isTrail then
      let whole := 0x10000 + (lead - 0xd800) * 0x400 + (code - 0xdc00)
      some (.string (Char.ofNat whole :: content))
    else none

/-- The token begun when a character is taken that may not end it. -/
def continue? (pending : Pending) (c : Char) : Option Pending :=
  match pending with
  | .string content =>
    if c = '\\' then some (.escape content)
    else if c.toNat < 0x20 then none
    else some (.string (c :: content))
  | .escape content =>
    if c = 'u' then some (.code content none 0 4)
    else (escaped? c).map fun c => .string (c :: content)
  | .code content lead value missing =>
    (hexValue? c).bind fun digit =>
      if missing ≤ 1 then afterCode? content lead (16 * value + digit)
      else some (.code content lead (16 * value + digit) (missing - 1))
  | .pairBackslash content lead =>
    if c = '\\' then some (.pairLetter content lead) else none
  | .pairLetter content lead =>
    if c = 'u' then some (.code content (some lead) 0 4) else none
  | _ => none

def step? (state : State) (c : Char) : Option State :=
  match state.pending with
  | .nothing => begin? state.tokens c
  | .word letters =>
    if c.isLower then some { state with pending := .word (c :: letters) }
    else (ended? state).bind (begin? · c)
  | .numeral characters =>
    if isNumeralChar c then
      some { state with pending := .numeral (c :: characters) }
    else (ended? state).bind (begin? · c)
  | .string content =>
    if c = '"' then
      some ⟨.string (String.ofList content.reverse) :: state.tokens, .nothing⟩
    else (continue? state.pending c).map ({ state with pending := · })
  | pending => (continue? pending c).map ({ state with pending := · })

def tokens? (text : List Char) : Option (List JsonToken) :=
  ((text.foldlM step? {}).bind ended?).map List.reverse

end JsonScan

namespace JsonBuild

/-- An array or object of which an item or the value of a member is being
read. -/
inductive Frame where
  /-- The items before, the last one first. -/
  | array (items : List JsonValue)
  | object (members : JsonMembers) (key : String)

inductive Progress where
  | value
  /-- Behind the opening bracket of an array. -/
  | firstItem
  /-- Behind the opening brace of an object. -/
  | firstKey
  /-- Behind a comma in an object. -/
  | key (members : JsonMembers)
  | colon (members : JsonMembers) (key : String)
  | complete (value : JsonValue)

structure State where
  /-- The open arrays and objects, from the inside out. -/
  frames : List Frame := []
  progress : Progress := .value

/-- The number of arrays and objects that may be open at a time. -/
def maxDepth : Nat := 127

/-- Where a value must come. -/
def startValue? (frames : List Frame) : JsonToken → Option State
  | .atom value => some ⟨frames, .complete value⟩
  | .string value => some ⟨frames, .complete (.string value)⟩
  | .openArray =>
    if frames.length < maxDepth then some ⟨.array [] :: frames, .firstItem⟩
    else none
  | .openObject =>
    if frames.length < maxDepth then some ⟨frames, .firstKey⟩ else none
  | _ => none

/-- Where a value has come to its end within what is open around it. -/
def endValue? (value : JsonValue) : List Frame → JsonToken → Option State
  | .array items :: frames, .comma =>
    some ⟨.array (value :: items) :: frames, .value⟩
  | .array items :: frames, .closeArray =>
    some ⟨frames, .complete (.array (value :: items).reverse)⟩
  | .object members key :: frames, .comma =>
    some ⟨frames, .key (JsonMembers.insert key value members)⟩
  | .object members key :: frames, .closeObject =>
    some ⟨frames, .complete (.object (JsonMembers.insert key value members))⟩
  | _, _ => none

def step? (state : State) (token : JsonToken) : Option State :=
  match state.progress, token with
  | .value, token => startValue? state.frames token
  | .firstItem, .closeArray => some ⟨state.frames.tail, .complete (.array [])⟩
  | .firstItem, token => startValue? state.frames token
  | .firstKey, .closeObject => some ⟨state.frames, .complete (.object [])⟩
  | .firstKey, .string key => some ⟨state.frames, .colon [] key⟩
  | .key members, .string key => some ⟨state.frames, .colon members key⟩
  | .colon members key, .colon =>
    some ⟨.object members key :: state.frames, .value⟩
  | .complete value, token => endValue? value state.frames token
  | _, _ => none

def finish? (state : State) : Option JsonValue :=
  match state.progress, state.frames with
  | .complete value, [] => some value
  | _, _ => none

end JsonBuild

/-- The value of a document that is valid JSON. -/
def JsonValue.read? (text : List Char) : Option JsonValue :=
  ((JsonScan.tokens? text).bind (List.foldlM JsonBuild.step? {})).bind
    JsonBuild.finish?

end RecordFilter
