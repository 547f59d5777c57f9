import FeatureTrials.Text.Extender
import FeatureTrials.Text.Hidden

/-!
# Quoted text

A text between quotes, in which every character can be told: quotes, backslashes and the characters
that leave no mark or blend with another are escaped.
-/

namespace FeatureTrials.Text

/-- A character of quoted text. -/
def quoteChar (c : Char) : List Char :=
  match c with
  | '"' => ['\\', '"']
  | '\\' => ['\\', '\\']
  | '\n' => ['\\', 'n']
  | '\r' => ['\\', 'r']
  | '\t' => ['\\', 't']
  | '\x00' => ['\\', '0']
  | c =>
    if isHidden c || isExtender c then
      '\\' :: 'u' :: '\x7b' :: Nat.toDigits 16 c.toNat ++ ['\x7d']
    else [c]

/-- A text between quotes. -/
def quoted (s : String) : String :=
  String.ofList ('"' :: s.toList.flatMap quoteChar ++ ['"'])

end FeatureTrials.Text
