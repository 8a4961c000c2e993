import StarSurvey.Text.Invisible

/-!
# Quoted text in messages

A message that shows a foreign text puts it between double quotes and spells out what would not
show: `\n`, `\"`, `\u{200b}`. Single quotes stay as they are.
-/

namespace StarSurvey.Text

/-- A number in lower-case hexadecimal digits, with no leading zero. -/
def hex (n : Nat) : List Char := Nat.toDigits 16 n

/-- One character as it stands between the quotes. -/
def quotedChar (c : Char) : List Char :=
  match c with
  | '\x00' => ['\\', '0']
  | '\t' => ['\\', 't']
  | '\r' => ['\\', 'r']
  | '\n' => ['\\', 'n']
  | '"' => ['\\', '"']
  | '\\' => ['\\', '\\']
  | _ => if isInvisible c then ['\\', 'u', '\x7b'] ++ hex c.toNat ++ ['\x7d'] else [c]

/-- The text between double quotes. -/
def quoted (s : String) : String :=
  String.ofList ('"' :: s.toList.flatMap quotedChar ++ ['"'])

/-- The text between double quotes, its single quotes spelled out as well. -/
def quotedThroughout (s : String) : String :=
  String.ofList
    ('"' :: s.toList.flatMap (fun c => if c = '\'' then ['\\', '\''] else quotedChar c) ++ ['"'])

end StarSurvey.Text
