import PaletteSnap.Json

namespace PaletteSnap

namespace JsonReader

inductive Token where
  | mark (c : Char)
  | null
  | bool (value : Bool)
  | number (value : Nat)
  | text (value : String)
deriving DecidableEq, Repr

def isBlank (c : Char) : Bool :=
  c ∈ [' ', '\n', '\r', '\t']

def isMark (c : Char) : Bool :=
  c ∈ ['[', ']', '\x7b', '\x7d', ',', ':']

def words : List (String × Token) :=
  [("null", .null), ("true", .bool true), ("false", .bool false)]

-- No zero stands in front of a number.
def word? (word : List Char) : Option Token :=
  let n := Nat.ofDigitChars 10 word 0
  if n.repr.toList = word then some (.number n) else words.lookup (String.ofList word)

def unescape? : Char → Option Char
  | '"' => some '"'
  | '\\' => some '\\'
  | '/' => some '/'
  | 'b' => some '\x08'
  | 'f' => some '\x0c'
  | 'n' => some '\n'
  | 'r' => some '\r'
  | 't' => some '\t'
  | _ => none

-- What was read of a word, a text or a code, the latest character first.
inductive Mode where
  | between
  | bare (word : List Char)
  | quoted (text : List Char)
  | escaped (text : List Char)
  | coded (text : List Char) (missing value : Nat)
deriving DecidableEq, Repr

structure Lexer where
  mode : Mode
  tokens : List Token
deriving DecidableEq, Repr

namespace Lexer

def start : Lexer :=
  ⟨.between, []⟩

def outside (tokens : List Token) (c : Char) : Lexer :=
  if isBlank c then ⟨.between, tokens⟩
  else if isMark c then ⟨.between, .mark c :: tokens⟩
  else if c = '"' then ⟨.quoted [], tokens⟩
  else ⟨.bare [c], tokens⟩

def step (l : Lexer) (c : Char) : Option Lexer :=
  match l.mode with
  | .between => some (outside l.tokens c)
  | .bare word =>
    if isBlank c ∨ isMark c then (word? word.reverse).map fun t => outside (t :: l.tokens) c
    else some { l with mode := .bare (c :: word) }
  | .quoted text =>
    if c = '"' then some ⟨.between, .text (String.ofList text.reverse) :: l.tokens⟩
    else if c = '\\' then some { l with mode := .escaped text }
    else if c.toNat < 0x20 then none
    else some { l with mode := .quoted (c :: text) }
  | .escaped text =>
    if c = 'u' then some { l with mode := .coded text 4 0 }
    else (unescape? c).map fun c => { l with mode := .quoted (c :: text) }
  | .coded text missing value =>
    (Text.hexValue? c).bind fun digit =>
      let value := 16 * value + digit
      if 1 < missing then some { l with mode := .coded text (missing - 1) value }
      else if value.isValidChar then some { l with mode := .quoted (Char.ofNat value :: text) }
      else none

end Lexer

def tokens? (text : String) : Option (List Token) :=
  match (text.toList ++ ['\n']).foldlM Lexer.step .start with
  | some ⟨.between, tokens⟩ => some tokens.reverse
  | _ => none

-- A list or a record under way, the latest entry first; a record waits for the value of a name.
inductive Frame where
  | list (items : List Json)
  | record (fields : List (String × Json)) (name : String)

-- What must come next, and inside which lists and records.
inductive Parser where
  | value (outer : List Frame)
  | firstItem (outer : List Frame)
  | firstField (outer : List Frame)
  | field (fields : List (String × Json)) (outer : List Frame)
  | colon (fields : List (String × Json)) (name : String) (outer : List Frame)
  | behind (j : Json) (outer : List Frame)

namespace Parser

def begin? (outer : List Frame) : Token → Option Parser
  | .null => some (.behind .null outer)
  | .bool b => some (.behind (.bool b) outer)
  | .number n => some (.behind (.number n) outer)
  | .text s => some (.behind (.text s) outer)
  | .mark '[' => some (.firstItem outer)
  | .mark '\x7b' => some (.firstField outer)
  | .mark _ => none

def step : Parser → Token → Option Parser
  | .value outer, t => begin? outer t
  | .firstItem outer, .mark ']' => some (.behind (.list []) outer)
  | .firstItem outer, t => begin? (.list [] :: outer) t
  | .firstField outer, .mark '\x7d' => some (.behind (.record []) outer)
  | .firstField outer, .text name => some (.colon [] name outer)
  | .field fields outer, .text name => some (.colon fields name outer)
  | .colon fields name outer, .mark ':' => some (.value (.record fields name :: outer))
  | .behind j (.list items :: outer), .mark ',' => some (.value (.list (j :: items) :: outer))
  | .behind j (.list items :: outer), .mark ']' =>
    some (.behind (.list (j :: items).reverse) outer)
  | .behind j (.record fields name :: outer), .mark ',' =>
    some (.field ((name, j) :: fields) outer)
  | .behind j (.record fields name :: outer), .mark '\x7d' =>
    some (.behind (.record ((name, j) :: fields).reverse) outer)
  | _, _ => none

end Parser

def ofTokens? (tokens : List Token) : Option Json :=
  match tokens.foldlM Parser.step (.value []) with
  | some (.behind j []) => some j
  | _ => none

end JsonReader

-- A text holds one document and nothing else but blanks.
def Json.ofText? (text : String) : Option Json :=
  (JsonReader.tokens? text).bind JsonReader.ofTokens?

end PaletteSnap
