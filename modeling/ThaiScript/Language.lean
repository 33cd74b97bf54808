import ThaiScript.Text.Blank

/-!
# Message languages

Messages to the user exist in Thai and in English. Thai is the source language of the catalog: a key
that another language lacks is looked up in Thai.
-/

namespace ThaiScript

inductive Language
  | thai
  | english
deriving DecidableEq, Repr

namespace Language

def all : List Language := [.thai, .english]

/-- The ISO 639-1 code. -/
def code : Language → Text
  | thai => "th"
  | english => "en"

/-- The language of a locale such as `th_TH.UTF-8`: what stands before the first `_`, `-` or `.`,
in any ASCII case, is its code. -/
def ofCode? (locale : Text) : Option Language :=
  let base := Text.asciiLower (locale.takeWhile fun c => c ≠ '_' ∧ c ≠ '-' ∧ c ≠ '.')
  all.find? fun l => l.code = base

theorem ofCode?_code (l : Language) : ofCode? l.code = some l := by
  cases l <;> decide

end Language

namespace Catalog

def thai : List (Text × Text) := [
  ("error.NameError", "ชื่อที่ระบุไม่มีอยู่ในขอบเขตนี้"),
  ("error.SyntaxError", "โครงสร้างของโค้ดไม่ถูกต้อง"),
  ("error.TypeError", "ชนิดข้อมูลไม่ถูกต้อง"),
  ("error.ValueError", "ค่าไม่ถูกต้อง"),
  ("error.IndexError", "ดัชนีเกินขอบเขต"),
  ("error.KeyError", "ไม่พบคีย์ที่ระบุ"),
  ("error.AttributeError", "ไม่พบคุณสมบัติที่ระบุ"),
  ("error.ZeroDivisionError", "หารด้วยศูนย์"),
  ("error.ImportError", "นำเข้าโมดูลไม่สำเร็จ"),
  ("error.FileNotFoundError", "ไม่พบไฟล์ที่ระบุ"),
  ("hook.prefix", "ข้อผิดพลาด")]

def english : List (Text × Text) := [
  ("error.NameError", "name is not defined in this scope"),
  ("error.SyntaxError", "invalid code structure"),
  ("error.TypeError", "invalid data type"),
  ("error.ValueError", "invalid value"),
  ("error.IndexError", "index out of range"),
  ("error.KeyError", "key not found"),
  ("error.AttributeError", "attribute not found"),
  ("error.ZeroDivisionError", "division by zero"),
  ("error.ImportError", "module import failed"),
  ("error.FileNotFoundError", "file not found"),
  ("hook.prefix", "Error")]

def messages : Language → List (Text × Text)
  | .thai => thai
  | .english => english

/-- The message under `key`, in Thai where the language has none. -/
def find? (l : Language) (key : Text) : Option Text :=
  (messages l).lookup key <|> thai.lookup key

/-- The message under `key`, or the key itself. -/
def findOrKey (l : Language) (key : Text) : Text :=
  (find? l key).getD key

end Catalog

/-- The line that announces an uncaught exception. -/
def summaryLine (l : Language) (message : Text) : Text :=
  Catalog.findOrKey l "hook.prefix" ++ ": " ++ message

end ThaiScript
