import ReceiptTemplate.Filter.Currency
import ReceiptTemplate.Filter.Registry
import ReceiptTemplate.Filter.Text

/-!
# Standard filters — the filters of a new registry

They come in three categories: numbers, texts and lookup.
-/

namespace ReceiptTemplate
namespace Filter

/-- A documented filter that leaves no notes. -/
def documented (name : String) (category : FilterCategory) (description : String)
    (examples : List String) (apply : FilterFunction) : Filter where
  name := name
  docs := some ⟨description, category, examples⟩
  apply := apply
  notes := fun _ _ _ => []

def standard : List Filter :=
  [documented "currency" .number
    "Formats a number with thousands grouping and two decimals"
    ["price * quantity | currency", "total | currency"] currency,
   documented "number" .number
    "Formats a number in fixed point with N decimals (default 0, max 20)"
    ["weight | number:3", "count | number"] number,
   { documented "format" .number
      ("Applies a format to a number (N2, F1, P0 or a pattern such as '#,##0.###') " ++
        "or to an ISO date string (e.g. 'dd.MM.yyyy')")
      ["amount | format:N2", "rate | format:P1", "createdAt | format:'dd.MM.yyyy HH:mm'"]
      format with
    notes := formatNotes },
   documented "upper" .text "Converts text to uppercase" ["name | upper"] upper,
   documented "lower" .text "Converts text to lowercase" ["email | lower"] lower,
   documented "trim" .text "Removes leading and trailing whitespace" ["name | trim | upper"] trim,
   documented "truncate" .text
    ("Shortens text to a maximum length (default 50). " ++
      "Options: length:N, suffix:'...', fromEnd")
    ["description | truncate:30", "sku | truncate:8 fromEnd", "title | truncate length:20 suffix:'~'"]
    truncate,
   documented "currencySymbol" .lookup
    "Converts an ISO 4217 currency code (alphabetic or numeric) to its symbol"
    ["currencyCode | currencySymbol", "'840' | currencySymbol"] currencySymbol]

end Filter

/-- The registry of the standard filters. -/
def FilterRegistry.standard : FilterRegistry :=
  .ofFilters Filter.standard

end ReceiptTemplate
