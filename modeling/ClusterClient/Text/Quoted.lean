import ClusterClient.Text.Printable

/-!
# Text between quotes

A text is shown between double quotes with the characters that would be mistaken or not be seen
written as escapes: `\0`, `\t`, `\r`, `\n`, `\\` and `\"` by name, every unprintable character by
its code point in hexadecimal (`\u200b` with the digits in braces).

A combining character would join the quote or escape before it, so `quoted` always escapes it.
Text that is spliced into a sentence of its own (`spliced`) escapes a combining character only at
the start, where it would join the words before it, and also the single quote.

    a graphic ASCII character but a quote or backslash is written as it is     (escape_graphic)
-/

namespace ClusterClient.Text

/-! ## Algorithm -/

/-- Which of the optional escapes apply. -/
structure EscapeRule where
  combining : Bool
  singleQuote : Bool
deriving DecidableEq, Repr

/-- The lower case hexadecimal digits of `n`, without leading zeros. -/
def hexDigits (n : Nat) : List Char :=
  Nat.toDigits 16 n

def codePointEscape (c : Char) : List Char :=
  ['\\', 'u', '\x7b'] ++ hexDigits c.toNat ++ ['\x7d']

/-- How one character is written under a rule. -/
def escape (rule : EscapeRule) (c : Char) : List Char :=
  if c = '\x00' then ['\\', '0']
  else if c = '\t' then ['\\', 't']
  else if c = '\r' then ['\\', 'r']
  else if c = '\n' then ['\\', 'n']
  else if c = '\\' then ['\\', '\\']
  else if c = '"' then ['\\', '"']
  else if c = '\'' && rule.singleQuote then ['\\', '\'']
  else if rule.combining && isCombining c then codePointEscape c
  else if isPrintable c then [c]
  else codePointEscape c

/-- The text between double quotes. -/
def quoted (text : String) : String :=
  String.ofList (['"'] ++ text.toList.flatMap (escape ⟨true, false⟩) ++ ['"'])

/-- The text as it is spliced into a sentence, without quotes around it. -/
def spliced (text : String) : String :=
  match text.toList with
  | [] => ""
  | c :: cs => String.ofList (escape ⟨true, true⟩ c ++ cs.flatMap (escape ⟨false, true⟩))

/-- An optional text, `None` or `Some("…")`. -/
def quoted? : Option String → String
  | none => "None"
  | some text => "Some(" ++ quoted text ++ ")"

/-! ## Lemmas -/

theorem escape_graphic (rule : EscapeRule) {c : Char} (h : 32 ≤ c.toNat ∧ c.toNat ≤ 126)
    (hd : c ≠ '"') (hs : c ≠ '\'') (hb : c ≠ '\\') : escape rule c = [c] := by
  obtain ⟨hp, hc⟩ := isPrintable_of_graphic h
  have control : ∀ d : Char, d.toNat < 32 → c ≠ d := by
    rintro d hlt rfl
    omega
  unfold escape
  rw [if_neg (control _ (by decide)), if_neg (control _ (by decide)),
    if_neg (control _ (by decide)), if_neg (control _ (by decide)), if_neg hb, if_neg hd]
  simp [hs, hp, hc]

end ClusterClient.Text
