import ThaiScript.Text.Basic

/-!
# The lexicon

Two tables pair Thai words with what stands for them in a program: keywords, which are replaced as
whole words only, and operator words, which are replaced wherever they occur. A table is tried
longest word first, so that a word is never split by a shorter one that it contains.
-/

namespace ThaiScript.Lexicon

/-- A Thai word and the text that stands for it. -/
abbrev Entry := Text × Text

def keywords : List Entry := [
  ("ฟังก์ชัน", "def"),
  ("ส่งคืน", "return"),
  ("ถ้า", "if"),
  ("ทำอีก", "else"),
  ("หรือถ้า", "elif"),
  ("สำหรับ", "for"),
  ("ใน", "in"),
  ("ขณะที่", "while"),
  ("พยายาม", "try"),
  ("จับข้อผิดพลาด", "except"),
  ("ท้ายที่สุด", "finally"),
  ("จริง", "True"),
  ("เท็จ", "False"),
  ("ไม่มี", "None"),
  ("พิมพ์", "print"),
  ("ช่วง", "range"),
  ("รายการ", "list"),
  ("พจนานุกรม", "dict"),
  ("เซต", "set"),
  ("ตัวเลข", "int"),
  ("ทศนิยม", "float"),
  ("ข้อความ", "str"),
  ("ความยาว", "len")]

def operators : List Entry := [
  ("บวก", "+"),
  ("ลบ", "-"),
  ("คูณ", "*"),
  ("หาร", "/"),
  ("และ", "and"),
  ("หรือ", "or"),
  ("ไม่", "not"),
  ("เท่ากับ", "=="),
  ("ไม่เท่ากับ", "!="),
  ("มากกว่า", ">"),
  ("น้อยกว่า", "<"),
  ("มากกว่าเท่ากับ", ">="),
  ("น้อยกว่าเท่ากับ", "<=")]

/-- What stands for a Thai keyword. -/
def keyword? (word : Text) : Option Text := keywords.lookup word

/-- What stands for a Thai operator word. -/
def operator? (word : Text) : Option Text := operators.lookup word

/-- Puts `e` in front of the first entry whose word is no longer than its own. -/
def insertByLength (e : Entry) : List Entry → List Entry
  | [] => [e]
  | f :: es =>
    if f.1.length ≤ e.1.length then e :: f :: es else f :: insertByLength e es

/-- A table ordered by falling length of its words; words of one length keep their order. -/
def longestFirst : List Entry → List Entry
  | [] => []
  | e :: es => insertByLength e (longestFirst es)

end ThaiScript.Lexicon
