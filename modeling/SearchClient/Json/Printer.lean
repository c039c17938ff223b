import SearchClient.Json.Basic

/-!
# Compact JSON text

No white space, entries in their order.  A quote, a backslash and the controls
below U+0020 are escaped, by a letter where there is one and by four lower-case
hexadecimal digits otherwise; every other character stands for itself.
-/

namespace SearchClient.Json

def hexDigit (n : Nat) : Char := if n < 10 then .ofNat (0x30 + n) else .ofNat (0x61 + (n - 10))

def escapeChar (c : Char) : List Char :=
  match c with
  | '"' => ['\\', '"']
  | '\\' => ['\\', '\\']
  | '\x08' => ['\\', 'b']
  | '\x0c' => ['\\', 'f']
  | '\n' => ['\\', 'n']
  | '\r' => ['\\', 'r']
  | '\t' => ['\\', 't']
  | c =>
    if c.toNat < 0x20 then
      ['\\', 'u', '0', '0', hexDigit (c.toNat / 16), hexDigit (c.toNat % 16)]
    else [c]

def renderString (text : String) : String :=
  "\"" ++ String.ofList (text.toList.flatMap escapeChar) ++ "\""

def renderNumber : Number → String
  | .int value _ => toString value
  | .float value _ => value.numeral

def renderBool (value : Bool) : String := if value then "true" else "false"

mutual

def render : Json → String
  | .null => "null"
  | .bool value => renderBool value
  | .number value => renderNumber value
  | .string value => renderString value
  | .array items => "[" ++ ",".intercalate (renderItems items) ++ "]"
  | .object fields => "\x7b" ++ ",".intercalate (renderFields fields) ++ "\x7d"

def renderItems : List Json → List String
  | [] => []
  | item :: items => item.render :: renderItems items

def renderFields : List (String × Json) → List String
  | [] => []
  | (key, value) :: fields =>
    (renderString key ++ ":" ++ value.render) :: renderFields fields

end

end SearchClient.Json
