import ThaiScript.Translation

/-!
# Translations as JSON

A translation is written as an object with the members `code` and `error`, one a line. In a string
the quote, the backslash and the control characters below U+0020 are escaped; all else stands as it
is.
-/

namespace ThaiScript.Json

def hexDigits : Text := "0123456789abcdef"

/-- The two low hexadecimal digits of `n`. -/
def hexPair (n : Nat) : Text :=
  [hexDigits.getD (n / 16 % 16) '0', hexDigits.getD (n % 16) '0']

/-- A character as it stands in a string. -/
def escapeChar (c : Char) : Text :=
  if c = '"' then "\\\""
  else if c = '\\' then "\\\\"
  else if c = '\x08' then "\\b"
  else if c = '\x0c' then "\\f"
  else if c = '\n' then "\\n"
  else if c = '\r' then "\\r"
  else if c = '\t' then "\\t"
  else if c.toNat < 0x20 then "\\u00" ++ hexPair c.toNat
  else [c]

def escape (t : Text) : Text := t.flatMap escapeChar

def string (t : Text) : Text := '"' :: (escape t ++ ['"'])

def stringOrNull : Option Text → Text
  | none => "null"
  | some t => string t

/-- A translation in two-space indentation, without a final line feed. -/
def ofTranslation (t : Translation) : Text :=
  "\x7b\n  \"code\": " ++ string t.code ++ ",\n  \"error\": " ++
    stringOrNull (t.error.map TranslationError.display) ++ "\n\x7d"

end ThaiScript.Json
