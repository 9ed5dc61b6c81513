import ReliableRouting.Json.Token
import ReliableRouting.Json.Value

/-!
# Reading JSON

The value a list of tokens denotes, found by an automaton with a stack of the arrays and
objects that are still open. Nesting is bounded by nothing but the text.
-/

namespace ReliableRouting.Json

/-- An array or object that is still open, its content latest first. An object holds the
key of the field that comes next, once that is read. -/
inductive Frame
  | array (items : List Json)
  | object (fields : List (Option String × Json)) (key : Option String)

/-- What has to come next. -/
inductive Stage
  | value
  | itemOrClose
  | key
  | keyOrClose
  | colon
  | commaOrClose
  | finished (v : Json)

/-- The open arrays and objects, innermost first, and what has to come next. -/
structure Reading where
  stack : List Frame
  stage : Stage

/-- Puts a value where it belongs: into the innermost open array or object, or at the top. -/
def Reading.deliver (v : Json) : List Frame → Reading
  | [] => ⟨[], .finished v⟩
  | .array items :: stack => ⟨.array (v :: items) :: stack, .commaOrClose⟩
  | .object fields key :: stack => ⟨.object ((key, v) :: fields) none :: stack, .commaOrClose⟩

/-- The object with the fields, ill formed if one of the keys is. -/
def ofFields (fields : List (Option String × Json)) : Json :=
  match fields.mapM fun (key, v) => key.map fun k => (k, v) with
  | some fields => .object fields
  | none => .illFormed

/-- Reads a token that starts a value. -/
def Reading.startValue? (stack : List Frame) : Token → Option Reading
  | .null => some (deliver .null stack)
  | .bool b => some (deliver (.bool b) stack)
  | .number literal => some (deliver (.number literal) stack)
  | .text (some s) => some (deliver (.text s) stack)
  | .text none => some (deliver .illFormed stack)
  | .openBracket => some ⟨.array [] :: stack, .itemOrClose⟩
  | .openBrace => some ⟨.object [] none :: stack, .keyOrClose⟩
  | _ => none

/-- Reads a token that closes the innermost array or object. -/
def Reading.close? : List Frame → Token → Option Reading
  | .array items :: stack, .closeBracket => some (deliver (.array items.reverse) stack)
  | .object fields _ :: stack, .closeBrace => some (deliver (ofFields fields.reverse) stack)
  | _, _ => none

/-- Reads the key of a field. -/
def Reading.key? : List Frame → Token → Option Reading
  | .object fields _ :: stack, .text key => some ⟨.object fields key :: stack, .colon⟩
  | _, _ => none

/-- Reads one more token. -/
def Reading.step? (r : Reading) (t : Token) : Option Reading :=
  match r.stage with
  | .value => startValue? r.stack t
  | .itemOrClose => if t = .closeBracket then close? r.stack t else startValue? r.stack t
  | .key => key? r.stack t
  | .keyOrClose => if t = .closeBrace then close? r.stack t else key? r.stack t
  | .colon => if t = .colon then some { r with stage := .value } else none
  | .commaOrClose =>
    if t = .comma then
      match r.stack with
      | .object .. :: _ => some { r with stage := .key }
      | _ => some { r with stage := .value }
    else
      close? r.stack t
  | .finished _ => none

/-- The value that tokens denote. -/
def ofTokens? (ts : List Token) : Option Json :=
  (ts.foldlM Reading.step? ⟨[], .value⟩).bind fun r =>
    match r.stage with
    | .finished v => some v
    | _ => none

/-- Reads a JSON text. -/
def read? (s : String) : Option Json :=
  (tokens? s.toList).bind ofTokens?

end ReliableRouting.Json
