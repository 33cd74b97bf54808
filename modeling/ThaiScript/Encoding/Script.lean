import ThaiScript.Encoding.Utf16

/-!
# Reading scripts

The bytes of a script are UTF-8, unless they begin with the byte order mark of UTF-16. The mark that
decides on the encoding is dropped.
-/

namespace ThaiScript

/-- The text of a script. -/
def decodeScript : Bytes → Text
  | 0xEF :: 0xBB :: 0xBF :: bs => Utf8.decode bs
  | 0xFF :: 0xFE :: bs => Utf16.decode .little bs
  | 0xFE :: 0xFF :: bs => Utf16.decode .big bs
  | bs => Utf8.decode bs

/-- The name of the encoding of a script. -/
def encodingName : Bytes → Text
  | 0xFF :: 0xFE :: _ => "UTF-16LE"
  | 0xFE :: 0xFF :: _ => "UTF-16BE"
  | _ => "UTF-8"

/-- Whether some bytes of a script stand for no text. Those that do are what the text is written as. -/
def hasFaults : Bytes → Bool
  | 0xEF :: 0xBB :: 0xBF :: bs => Utf8.encode (Utf8.decode bs) ≠ bs
  | 0xFF :: 0xFE :: bs => Utf16.encode .little (Utf16.decode .little bs) ≠ bs
  | 0xFE :: 0xFF :: bs => Utf16.encode .big (Utf16.decode .big bs) ≠ bs
  | bs => Utf8.encode (Utf8.decode bs) ≠ bs

end ThaiScript
