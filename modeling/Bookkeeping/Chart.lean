import Bookkeeping.Account

set_option autoImplicit false

/-! # The default chart of accounts

The accounts that a company starts with: a trading company in the United Arab Emirates that charges
five per cent of value added tax. The codes named here are those to which documents are posted when
no account is given. -/

namespace Bookkeeping.Chart

/-! ## Codes with a role -/

def cash : String := "1000"
def bank : String := "1010"
def receivable : String := "1100"
def vatPayable : String := "2100"
def ownersEquity : String := "3000"
def salesRevenue : String := "4000"
def costOfGoods : String := "5000"
def rent : String := "5100"

/-! ## The chart -/

/-- The accounts of the default chart, in the order of their codes. -/
def default : List AccountDraft :=
  [ { code := cash, nameEn := "Cash", nameAr := some "نقد", type := .asset, isSystem := true },
    { code := bank, nameEn := "Bank", nameAr := some "بنك", type := .asset, isSystem := true },
    { code := receivable, nameEn := "Accounts Receivable", nameAr := some "حسابات مدينة",
      type := .asset, isSystem := true },
    { code := "1200", nameEn := "VAT Receivable", nameAr := some "ضريبة مستردة", type := .asset,
      isVat := true, isSystem := true },
    { code := "2000", nameEn := "Accounts Payable", nameAr := some "حسابات دائنة",
      type := .liability, isSystem := true },
    { code := vatPayable, nameEn := "VAT Payable", nameAr := some "ضريبة مستحقة",
      type := .liability, isVat := true, isSystem := true },
    { code := ownersEquity, nameEn := "Owner's Equity", nameAr := some "حقوق الملكية",
      type := .equity, isSystem := true },
    { code := salesRevenue, nameEn := "Sales Revenue", nameAr := some "إيرادات المبيعات",
      type := .income, isSystem := true },
    { code := "4100", nameEn := "Other Income", nameAr := some "إيرادات أخرى", type := .income },
    { code := costOfGoods, nameEn := "COGS", nameAr := some "تكلفة البضاعة المباعة",
      type := .expense },
    { code := rent, nameEn := "Rent Expense", nameAr := some "مصروف الإيجار", type := .expense },
    { code := "5200", nameEn := "Utilities Expense", nameAr := some "مصروف المرافق",
      type := .expense },
    { code := "5300", nameEn := "Marketing Expense", nameAr := some "مصروف التسويق",
      type := .expense },
    { code := "5400", nameEn := "Office Supplies", nameAr := some "مستلزمات مكتبية",
      type := .expense },
    { code := "5500", nameEn := "Travel Expenses", nameAr := some "مصروفات السفر",
      type := .expense } ]

end Bookkeeping.Chart
