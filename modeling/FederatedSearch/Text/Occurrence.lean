/-!
Substring tests. `occursIn needle text` decides whether `needle` is a run of
consecutive characters of `text`; the empty needle occurs everywhere.
-/

namespace FederatedSearch.Text

def occursIn (needle : List Char) : List Char → Bool
  | [] => needle.isEmpty
  | c :: rest => needle.isPrefixOf (c :: rest) || occursIn needle rest

theorem occurs_in_iff_infix (needle text : List Char) :
    occursIn needle text = true ↔ needle <:+: text := by
  induction text with
  | nil => simp [occursIn]
  | cons c rest induction =>
      rw [occursIn, Bool.or_eq_true, List.isPrefixOf_iff_prefix, induction, List.infix_cons_iff]

end FederatedSearch.Text
