import Bookkeeping.Account
import Bookkeeping.Json.Values
import Bookkeeping.Request.Reader

set_option autoImplicit false

/-! # Requests about accounts

The documents from which accounts are opened and edited, read (`accountDraft`, `accountUpdate`) and
written in their full form (`ofAccountDraft`, `ofAccountUpdate`). Reading what was written gives the
same value. -/

namespace Bookkeeping.Request

/-- Most characters of the code of an account. -/
def maxCode : Nat := 20

/-- The code of an account. -/
def accountCode : Reader String := (Reader.atMost text maxCode).atLeast 1

/-- The type of an account. -/
def accountType : Reader AccountType := word AccountType.ofText?

/-! ## Opening accounts -/

/-- An account to be opened. -/
def accountDraft : Shape AccountDraft :=
  (fun code nameEn nameAr type isVat isSystem => ⟨code, nameEn, type, nameAr, isVat, isSystem⟩)
    <$> required "code" accountCode
    <*> required "name_en" (Reader.atLeast text 1)
    <*> optional "name_ar" text
    <*> required "account_type" accountType
    <*> withDefault "is_vat_account" false flag
    <*> withDefault "is_system_account" false flag

/-- Several accounts to be opened, at least one. -/
def accountDrafts : Shape (List AccountDraft) :=
  required "accounts" (listOf 1 (object accountDraft))

/-- The document of an account to be opened. -/
def ofAccountDraft (d : AccountDraft) : Json :=
  .object
    [("code", .text d.code), ("name_en", .text d.nameEn), ("name_ar", .ofText? d.nameAr),
      ("account_type", .text d.type.toText), ("is_vat_account", .bool d.isVat),
      ("is_system_account", .bool d.isSystem)]

/-- The document of several accounts to be opened. -/
def ofAccountDrafts (ds : List AccountDraft) : Json :=
  .object [("accounts", .list (ds.map ofAccountDraft))]

/-! ## Editing accounts -/

/-- The fields of an account to be edited; other fields are refused. -/
def accountUpdate : Shape AccountUpdate :=
  closed
    [["name_en"], ["name_ar"], ["code"], ["account_type"], ["is_vat_account"], ["is_active"]]
    (AccountUpdate.mk
      <$> optional "name_en" (Reader.atLeast text 1)
      <*> optional "name_ar" text
      <*> optional "code" accountCode
      <*> optional "account_type" accountType
      <*> optional "is_vat_account" flag
      <*> optional "is_active" flag)

/-- The document of the fields of an account to be edited. -/
def ofAccountUpdate (u : AccountUpdate) : Json :=
  .object
    [("name_en", .ofText? u.nameEn), ("name_ar", .ofText? u.nameAr), ("code", .ofText? u.code),
      ("account_type", .ofText? (u.type.map AccountType.toText)),
      ("is_vat_account", .ofOption .bool u.isVat), ("is_active", .ofOption .bool u.isActive)]

end Bookkeeping.Request
