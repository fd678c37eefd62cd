/-!
Letter case for comparison with plain ASCII words. Beside the ASCII letters only those few
characters matter whose other case is written in ASCII; every other one maps to itself, and a text
that holds one equals no ASCII word in either case.
-/
namespace Rollup.Text

/-- The capital form of a character, where that form is ASCII. -/
def capitals (c : Char) : List Char :=
  match c with
  | 'ß' => ['S', 'S']
  | 'ı' => ['I']
  | 'ſ' => ['S']
  | 'ﬀ' => ['F', 'F']
  | 'ﬁ' => ['F', 'I']
  | 'ﬂ' => ['F', 'L']
  | 'ﬃ' => ['F', 'F', 'I']
  | 'ﬄ' => ['F', 'F', 'L']
  | 'ﬅ' => ['S', 'T']
  | 'ﬆ' => ['S', 'T']
  | _ => [c.toUpper]

/-- The small form of a character, where that form is ASCII. The Kelvin sign is a capital K. -/
def small (c : Char) : Char :=
  if c.toNat = 0x212a then 'k' else c.toLower

/-- A text in capitals, exact wherever the outcome is an ASCII word. -/
def upper (cs : List Char) : List Char :=
  cs.flatMap capitals

/-- A text in small letters, exact wherever the outcome is an ASCII word. -/
def lower (cs : List Char) : List Char :=
  cs.map small

end Rollup.Text
