import ReceiptTemplate.Filter.Basic

/-!
# Currency symbols — from the codes of a currency to its symbol

A currency has a code of three letters and a code of digits.  `currencySymbol` accepts either; a value
that is no known code stays as it is.
-/

namespace ReceiptTemplate

structure Currency where
  letters : String
  digits : Nat
  symbol : String

namespace Currency

def all : List Currency :=
  [⟨"USD", 840, "$"⟩,
   ⟨"EUR", 978, "€"⟩,
   ⟨"GBP", 826, "£"⟩,
   ⟨"JPY", 392, "¥"⟩,
   ⟨"CNY", 156, "¥"⟩,
   ⟨"CHF", 756, "CHF"⟩,
   ⟨"RUB", 643, "₽"⟩,
   ⟨"RUR", 810, "₽"⟩,
   ⟨"UAH", 980, "₴"⟩,
   ⟨"KZT", 398, "₸"⟩,
   ⟨"BYN", 933, "Br"⟩,
   ⟨"GEL", 981, "₾"⟩,
   ⟨"AMD", 51, "֏"⟩,
   ⟨"AZN", 944, "₼"⟩,
   ⟨"UZS", 860, "сўм"⟩,
   ⟨"KGS", 417, "сом"⟩,
   ⟨"TJS", 972, "SM"⟩,
   ⟨"MDL", 498, "L"⟩,
   ⟨"TMT", 934, "T"⟩,
   ⟨"PLN", 985, "zł"⟩,
   ⟨"CZK", 203, "Kč"⟩,
   ⟨"HUF", 348, "Ft"⟩,
   ⟨"RON", 946, "lei"⟩,
   ⟨"BGN", 975, "лв"⟩,
   ⟨"HRK", 191, "kn"⟩,
   ⟨"RSD", 941, "din."⟩,
   ⟨"SEK", 752, "kr"⟩,
   ⟨"NOK", 578, "kr"⟩,
   ⟨"DKK", 208, "kr"⟩,
   ⟨"ISK", 352, "kr"⟩,
   ⟨"CAD", 124, "C$"⟩,
   ⟨"BRL", 986, "R$"⟩,
   ⟨"MXN", 484, "MX$"⟩,
   ⟨"ARS", 32, "AR$"⟩,
   ⟨"CLP", 152, "CL$"⟩,
   ⟨"COP", 170, "COL$"⟩,
   ⟨"PEN", 604, "S/"⟩,
   ⟨"INR", 356, "₹"⟩,
   ⟨"KRW", 410, "₩"⟩,
   ⟨"TWD", 901, "NT$"⟩,
   ⟨"THB", 764, "฿"⟩,
   ⟨"VND", 704, "₫"⟩,
   ⟨"PHP", 608, "₱"⟩,
   ⟨"MYR", 458, "RM"⟩,
   ⟨"SGD", 702, "S$"⟩,
   ⟨"IDR", 360, "Rp"⟩,
   ⟨"HKD", 344, "HK$"⟩,
   ⟨"AUD", 36, "A$"⟩,
   ⟨"NZD", 554, "NZ$"⟩,
   ⟨"TRY", 949, "₺"⟩,
   ⟨"ILS", 376, "₪"⟩,
   ⟨"SAR", 682, "﷼"⟩,
   ⟨"AED", 784, "د.إ"⟩,
   ⟨"QAR", 634, "﷼"⟩,
   ⟨"EGP", 818, "E£"⟩,
   ⟨"ZAR", 710, "R"⟩,
   ⟨"NGN", 566, "₦"⟩,
   ⟨"KES", 404, "KSh"⟩]

def ofLetters? (code : String) : Option Currency :=
  all.find? fun c => c.letters == code

def ofDigits? (code : Int) : Option Currency :=
  all.find? fun c => (c.digits : Int) == code

end Currency

namespace Filter

/-- Whether every character of a text looks like a digit. -/
def looksLikeNumber (s : String) : Bool :=
  s != "" && s.toList.all Unicode.isDigitLike

/-- The symbol of a currency, or the value itself where no currency was found. -/
def symbolOr (v : Value) (found : Option Currency) : Value :=
  (found.map fun c => Value.text c.symbol).getD v

/-- The symbol of a currency.  A text that looks like a number must denote one. -/
def currencySymbol : FilterFunction
  | .text s, _, _ =>
    let code := Text.upper (Text.strip s)
    if looksLikeNumber code then
      match Text.readInteger? code with
      | some n => .ok (symbolOr (.text s) (Currency.ofDigits? n))
      | Option.none => .error (.unreadableNumber (.noNumber code))
    else .ok (symbolOr (.text s) (Currency.ofLetters? code))
  | .number d, _, _ =>
    .ok (symbolOr (.number d) (if d.isWhole then Currency.ofDigits? d.whole else Option.none))
  | v, _, _ => .ok v

end Filter
end ReceiptTemplate
