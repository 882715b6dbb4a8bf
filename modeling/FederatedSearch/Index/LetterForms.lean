import FederatedSearch.Text.Casing

/-!
The forms of letters that an index takes for the same letter: capitals and small
letters, variants of one letter, and Latin letters with and without an accent.
-/

namespace FederatedSearch.Index

open FederatedSearch.Text

/-- Latin letters with the letters that are written as these with one accent. -/
def accented : List (Char × String) :=
  [('a', "àáâãäåāăąǎȁȃȧḁạả"), ('b', "ḃḅḇ"), ('c', "çćĉċč"), ('d', "ďḋḍḏḑḓ"),
   ('e', "èéêëēĕėęěȅȇȩḙḛẹẻẽ"), ('f', "ḟ"), ('g', "ĝğġģǧǵḡ"), ('h', "ĥȟḣḥḧḩḫẖ"),
   ('i', "ìíîïĩīĭįǐȉȋḭỉị"), ('j', "ĵǰ"), ('k', "ķǩḱḳḵ"), ('l', "ĺļľḷḻḽ"), ('m', "ḿṁṃ"),
   ('n', "ñńņňǹṅṇṉṋ"), ('o', "òóôõöōŏőơǒǫȍȏȯọỏ"), ('p', "ṕṗ"), ('r', "ŕŗřȑȓṙṛṟ"),
   ('s', "śŝşšșṡṣ"), ('t', "ţťțṫṭṯṱẗ"), ('u', "ùúûüũūŭůűųưǔȕȗṳṵṷụủ"), ('v', "ṽṿ"),
   ('w', "ŵẁẃẅẇẉẘ"), ('x', "ẋẍ"), ('y', "ýÿŷȳẏẙỳỵỷỹ"), ('z', "źżžẑẓẕ")]

def variants : List (Char × Char) :=
  [('µ', 'μ'), ('ς', 'σ'), ('ſ', 's'), ('ϐ', 'β'), ('ϑ', 'θ'), ('ϕ', 'φ'), ('ϖ', 'π'),
   ('ϰ', 'κ'), ('ϱ', 'ρ'), ('ϵ', 'ε'), ('ẛ', 'ṡ'), ('\u1FBE', 'ι')]

/-- Capitals that an index tells from their small letters: those which the Unicode standard
has paired only after its version 6. -/
def unpairedRanges : List (Nat × Nat) :=
  [(0x37F, 0x37F), (0x528, 0x52F), (0x13A0, 0x13F5), (0x1C90, 0x1CBF), (0x2C2F, 0x2C2F),
   (0xA698, 0xA69B), (0xA796, 0xA79F), (0xA7AB, 0xA7F5), (0x104B0, 0x104D3), (0x10570, 0x10595),
   (0x10C80, 0x10CB2), (0x118A0, 0x118BF), (0x16E40, 0x16E5F), (0x1E900, 0x1E921)]

def usualForm (c : Char) : Char :=
  match variants.find? (·.1 == c) with
  | some (_, usual) => usual
  | none => if inRanges unpairedRanges c then c else (lowerChar c).headD c

def unaccented (c : Char) : Char :=
  match accented.find? fun (_, forms) => forms.contains c with
  | some (base, _) => base
  | none => c

/-- What an index knows a letter by. -/
def foldLetter (c : Char) : Char :=
  if c.toNat < 0x80 then c.toLower else unaccented (usualForm c)

end FederatedSearch.Index
