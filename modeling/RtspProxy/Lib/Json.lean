import Mathlib.Tactic.Common
import Mathlib.Data.List.Sort

/-!
# JSON texts

`dumps` writes a value the way Python's `json.dumps` does with
`separators=(",", ":")`, for both settings of `ensure_ascii`; `Json.sorted` is
`sort_keys=True`. Texts are lists of characters.
-/

namespace RtspProxy.Lib

/-- A number that is no integer is kept as the characters it was read from. -/
inductive Json
  | null
  | bool (val : Bool)
  | int (val : Int)
  | float (literal : List Char)
  | str (text : String)
  | arr (items : List Json)
  | obj (members : List (String × Json))

namespace Json

def hexDigit (val : Nat) : Char := "0123456789abcdef".toList.getD (val % 16) '0'

/-- `'{0:04x}'.format(value)` below `0x10000`. -/
def hex4 (val : Nat) : List Char :=
  [hexDigit (val / 4096), hexDigit (val / 256), hexDigit (val / 16), hexDigit val]

def unicodeEscape (val : Nat) : List Char := '\\' :: 'u' :: hex4 val

def shortEscape (c : Char) : Option Char :=
  if c = '"' then some '"'
  else if c = '\\' then some '\\'
  else if c = '\n' then some 'n'
  else if c = '\r' then some 'r'
  else if c = '\t' then some 't'
  else if c.toNat = 12 then some 'f'
  else if c.toNat = 8 then some 'b'
  else none

/-- One character of a string; with `ensureAscii` all but the printable ASCII characters are
escaped, those above `0xffff` as a surrogate pair. -/
def escape (ensureAscii : Bool) (c : Char) : List Char :=
  match shortEscape c with
  | some letter => ['\\', letter]
  | none =>
    if c.toNat < 32 ∨ (ensureAscii = true ∧ 126 < c.toNat) then
      if c.toNat < 65536 then unicodeEscape c.toNat
      else
        unicodeEscape (55296 + (c.toNat - 65536) / 1024) ++
          unicodeEscape (56320 + (c.toNat - 65536) % 1024)
    else [c]

def quoted (ensureAscii : Bool) (text : String) : List Char :=
  '"' :: text.toList.flatMap (escape ensureAscii) ++ ['"']

def decimal (val : Int) : List Char :=
  match val with
  | .ofNat magnitude => Nat.toDigits 10 magnitude
  | .negSucc less => '-' :: Nat.toDigits 10 (less + 1)

mutual

def dumps (ensureAscii : Bool) : Json → List Char
  | null => "null".toList
  | bool val => if val then "true".toList else "false".toList
  | int val => decimal val
  | float literal => literal
  | str text => quoted ensureAscii text
  | arr items => '[' :: dumpsItems ensureAscii items ++ [']']
  | obj members => '{' :: dumpsMembers ensureAscii members ++ ['}']

def dumpsItems (ensureAscii : Bool) : List Json → List Char
  | [] => []
  | [item] => dumps ensureAscii item
  | item :: rest => dumps ensureAscii item ++ ',' :: dumpsItems ensureAscii rest

def dumpsMembers (ensureAscii : Bool) : List (String × Json) → List Char
  | [] => []
  | [(key, val)] => quoted ensureAscii key ++ ':' :: dumps ensureAscii val
  | (key, val) :: rest =>
    quoted ensureAscii key ++ ':' :: dumps ensureAscii val ++ ',' ::
      dumpsMembers ensureAscii rest

end

/-- A dictionary display written with `sort_keys=True`. -/
def sorted (members : List (String × Json)) : Json :=
  obj (members.insertionSort fun left right => left.1 ≤ right.1)

example : String.ofList (dumps true (sorted [("b", .int (-12)), ("a", .str "é\n")])) =
    "\x7b\"a\":\"\\u00e9\\n\",\"b\":-12\x7d" := by decide +kernel

mutual

/-- `sort_keys=True` at every level. -/
def sortKeys : Json → Json
  | arr items => arr (sortItems items)
  | obj members =>
    obj ((sortMembers members).insertionSort fun left right => left.1 ≤ right.1)
  | scalar => scalar

def sortItems : List Json → List Json
  | [] => []
  | item :: rest => sortKeys item :: sortItems rest

def sortMembers : List (String × Json) → List (String × Json)
  | [] => []
  | (key, val) :: rest => (key, sortKeys val) :: sortMembers rest

end

end Json

/-- The members of an object, no key twice. -/
abbrev Members := List (String × Json)

def membersOf : Json → Option Members
  | .obj members => some members
  | _ => none

/-- `members.get(key)`, where an object is expected. -/
def objectAt (members : Members) (key : String) : Option Members :=
  (members.lookup key).bind membersOf

/-- `members.get(key)`, where a text is expected. -/
def textAt (members : Members) (key : String) : Option String :=
  match members.lookup key with
  | some (.str found) => some found
  | _ => none

end RtspProxy.Lib
