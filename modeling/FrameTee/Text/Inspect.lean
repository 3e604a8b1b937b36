import FrameTee.Text.Hidden

/-!
# Inspected values

When a structured value is shown for inspection it is written on one line: a record as its name and
its fields between braces, a variant as its name and its parts between parentheses. An open record
shows only some of its fields and ends in two dots.

Text is inspected between double quotes. A backslash, the quote itself and the common control
characters get a backslash in front, any other hidden character is written by its code point, and
everything else stands for itself. The name of a file is quoted like any other text.
-/

namespace FrameTee.Text

private def fieldTexts (fields : List (String × String)) : List String :=
  fields.map fun (label, value) => label ++ ": " ++ value

/-- A record with all of its fields. -/
def record (name : String) (fields : List (String × String)) : String :=
  name ++ " \x7b " ++ ", ".intercalate (fieldTexts fields) ++ " \x7d"

/-- A record of which only the given fields are shown. -/
def openRecord (name : String) (fields : List (String × String)) : String :=
  name ++ " \x7b " ++ ", ".intercalate (fieldTexts fields ++ [".."]) ++ " \x7d"

/-- A variant and its parts. -/
def variant (name : String) (parts : List String) : String :=
  name ++ "(" ++ ", ".intercalate parts ++ ")"

/-- An optional value. -/
def optional : Option String → String
  | none => "None"
  | some value => variant "Some" [value]

/-- Lower case hexadecimal digits of a code point. -/
private def codePoint (c : Char) : String :=
  "\\u\x7b" ++ String.ofList (Nat.toDigits 16 c.toNat) ++ "\x7d"

/-- How one character is written between quotes. -/
def quoteChar (c : Char) : String :=
  match c with
  | '\x00' => "\\0"
  | '\t' => "\\t"
  | '\r' => "\\r"
  | '\n' => "\\n"
  | '\\' => "\\\\"
  | '"' => "\\\""
  | _ => if isHidden c then codePoint c else c.toString

/-- Text between double quotes. -/
def quote (text : String) : String :=
  "\"" ++ String.join (text.toList.map quoteChar) ++ "\""

end FrameTee.Text
