/-!
White space and trimming. `isBlank` is the Unicode property `White_Space`;
`trim` removes blanks from both ends and touches nothing in between.
-/

namespace FederatedSearch.Text

/-- The characters with the Unicode property `White_Space`. The zero-width space
and the byte order mark do not have it. -/
def isBlank (c : Char) : Bool :=
  let code := c.toNat
  (0x09 ≤ code && code ≤ 0x0D) || code == 0x20 || code == 0x85 || code == 0xA0 ||
    code == 0x1680 || (0x2000 ≤ code && code ≤ 0x200A) || code == 0x2028 ||
    code == 0x2029 || code == 0x202F || code == 0x205F || code == 0x3000

def trimStart (text : List Char) : List Char := text.dropWhile isBlank

def trimEnd (text : List Char) : List Char := (trimStart text.reverse).reverse

def trim (text : List Char) : List Char := trimEnd (trimStart text)

def trimmed (s : String) : String := String.ofList (trim s.toList)

def isBlankText (s : String) : Bool := s.toList.all isBlank

theorem trimmed_to_list (s : String) : (trimmed s).toList = trim s.toList := by
  simp [trimmed]

end FederatedSearch.Text
