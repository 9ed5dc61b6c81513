import ReliableRouting.Json.Value

/-!
# Writing JSON

A value is written on one line without blanks, or indented with an item or a field a line.
Empty arrays and objects stay on one line either way.
-/

namespace ReliableRouting.Json

/-! ### Texts -/

/-- A character as it stands within a text. -/
def writeChar (c : Char) : List Char :=
  if c = '\"' ∨ c = '\\' then ['\\', c]
  else if c = '\x08' then ['\\', 'b']
  else if c = '\x0c' then ['\\', 'f']
  else if c = '\n' then ['\\', 'n']
  else if c = '\r' then ['\\', 'r']
  else if c = '\t' then ['\\', 't']
  else if c.toNat < 0x20 then
    let digits := Nat.toDigits 16 c.toNat
    ['\\', 'u'] ++ List.replicate (4 - digits.length) '0' ++ digits
  else [c]

/-- A text between quotes. -/
def writeText (s : String) : String :=
  String.ofList ('\"' :: s.toList.flatMap writeChar ++ ['\"'])

/-! ### Values -/

/-- On one line, or indented. -/
inductive Style
  | compact
  | indented

/-- What separates the items at a depth of nesting. -/
def Style.lineBreak (style : Style) (depth : Nat) : String :=
  match style with
  | .compact => ""
  | .indented => String.ofList ('\n' :: List.replicate (2 * depth) ' ')

/-- What stands between a key and its value. -/
def Style.colon : Style → String
  | .compact => ":"
  | .indented => ": "

/-- Items between brackets, each on a line of its own if the style is so. -/
def Style.enclose (style : Style) (depth : Nat) (left right : String) (items : List String) :
    String :=
  if items.isEmpty then
    left ++ right
  else
    left ++ style.lineBreak (depth + 1)
      ++ String.intercalate ("," ++ style.lineBreak (depth + 1)) items
      ++ style.lineBreak depth ++ right

mutual

/-- The text of a value that stands at a depth of nesting. -/
def render (style : Style) (depth : Nat) : Json → String
  | .null => "null"
  | .bool b => if b then "true" else "false"
  | .number literal => literal
  | .text s => writeText s
  | .array items => style.enclose depth "[" "]" (renderItems style (depth + 1) items)
  | .object fields =>
    style.enclose depth "\x7b" "\x7d" (renderFields style (depth + 1) fields)
  | .illFormed => "null"

/-- The texts of items. -/
def renderItems (style : Style) (depth : Nat) : List Json → List String
  | [] => []
  | v :: rest => render style depth v :: renderItems style depth rest

/-- The texts of fields. -/
def renderFields (style : Style) (depth : Nat) : List (String × Json) → List String
  | [] => []
  | (key, v) :: rest =>
    (writeText key ++ style.colon ++ render style depth v) :: renderFields style depth rest

end

/-- The value on one line. -/
def compact (v : Json) : String :=
  v.render .compact 0

/-- The value indented by two blanks a level. -/
def indented (v : Json) : String :=
  v.render .indented 0

end ReliableRouting.Json
