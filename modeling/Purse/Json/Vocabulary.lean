import Purse.Entry
import Purse.Json.Record
import Purse.Message
import Purse.Payment
import Purse.Wallet

/-!
# The JSON forms of the domain

Integers and truth values stand for themselves; amounts are positive integers; identifiers and points in
time are strings; methods, statuses and kinds are names. Everything else is a record. A balance is any
integer here: whether a wallet may hold it is decided where wallets are kept.
-/
namespace Purse

def Json.readIdentifier (ofText? : String → Option α) : Json.Reader α :=
  Json.readSpelled "a formatted UUID string" ofText? fun s => .identifier (Uuid.flaw s.toList)

def Json.readTime : Json.Reader Timestamp := fun cs => do
  let (s, rest) ← Json.readTextFor "an RFC 3339 formatted date and time string" cs
  match Timestamp.read s.toList with
  | .error flaw => .error (.after (.time flaw) rest)
  | .ok t => .ok (t, rest)

instance : Wire Int := ⟨Json.readInt, Json.int⟩
instance : Wire Bool := ⟨Json.readBool, Json.bool⟩
instance : Wire String := ⟨Json.readText, Json.text⟩
instance : Wire Amount := ⟨Json.readAmount, fun a => Json.int a.value⟩
instance : Wire Timestamp := ⟨Json.readTime, fun t => Json.text t.text⟩
instance : Wire UserId := ⟨Json.readIdentifier UserId.ofText?, fun id => Json.text id.text⟩
instance : Wire BookingId := ⟨Json.readIdentifier BookingId.ofText?, fun id => Json.text id.text⟩
instance : Wire WalletId := ⟨Json.readIdentifier WalletId.ofText?, fun id => Json.text id.text⟩
instance : Wire EntryId := ⟨Json.readIdentifier EntryId.ofText?, fun id => Json.text id.text⟩
instance : Wire PaymentId := ⟨Json.readIdentifier PaymentId.ofText?, fun id => Json.text id.text⟩

instance : Wire PaymentMethod :=
  ⟨Json.readName (PaymentMethod.all.map PaymentMethod.name) PaymentMethod.ofName?,
    fun m => Json.text m.name⟩

instance : Wire PaymentStatus :=
  ⟨Json.readName (PaymentStatus.all.map PaymentStatus.name) PaymentStatus.ofName?,
    fun s => Json.text s.name⟩

instance : Wire EntryKind :=
  ⟨Json.readName (EntryKind.all.map EntryKind.name) EntryKind.ofName?, fun k => Json.text k.name⟩

instance [Wire α] : Wire (List α) where
  read := Json.readList Wire.read
  write as := .array (as.map Wire.write)

open Json.Field in
instance : Record Wallet where
  name := "Wallet"
  fields := [required "id" WalletId, required "user_id" UserId, required "balance" Int,
    required "created_at" Timestamp, required "updated_at" Timestamp]
  toValues w := (w.id, w.userId, w.balance, w.createdAt, w.updatedAt, ())
  ofValues := fun (id, userId, balance, createdAt, updatedAt, _) =>
    ⟨id, userId, balance, createdAt, updatedAt⟩
  ofValues_toValues _ := rfl

open Json.Field in
instance : Record Entry where
  name := "WalletTransaction"
  fields := [required "id" EntryId, required "wallet_id" WalletId, required "kind" EntryKind,
    required "amount" Amount, required "description" String, optional "booking_id" BookingId,
    optional "payment_id" PaymentId, required "created_at" Timestamp]
  toValues e := (e.id, e.walletId, e.kind, e.amount, e.description, e.bookingId, e.paymentId,
    e.createdAt, ())
  ofValues := fun (id, walletId, kind, amount, description, bookingId, paymentId, createdAt, _) =>
    ⟨id, walletId, kind, amount, description, bookingId, paymentId, createdAt⟩
  ofValues_toValues _ := rfl

open Json.Field in
instance : Record Payment where
  name := "Payment"
  fields := [required "id" PaymentId, required "user_id" UserId, optional "booking_id" BookingId,
    required "amount" Amount, required "method" PaymentMethod, required "status" PaymentStatus,
    optional "external_id" String, optional "redirect_url" String, optional "error_message" String,
    required "created_at" Timestamp, required "updated_at" Timestamp]
  toValues p := (p.id, p.userId, p.bookingId, p.amount, p.method, p.status, p.externalId,
    p.redirectUrl, p.errorMessage, p.createdAt, p.updatedAt, ())
  ofValues := fun (id, userId, bookingId, amount, method, status, externalId, redirectUrl,
      errorMessage, createdAt, updatedAt, _) =>
    ⟨id, userId, bookingId, amount, method, status, externalId, redirectUrl, errorMessage, createdAt,
      updatedAt⟩
  ofValues_toValues _ := rfl

open Json.Field in
instance : Record Checkout where
  name := "CheckoutResponse"
  fields := [required "payment_id" PaymentId, required "method" PaymentMethod,
    required "external_id" String, required "redirect_url" String]
  toValues c := (c.paymentId, c.method, c.externalId, c.redirectUrl, ())
  ofValues := fun (paymentId, method, externalId, redirectUrl, _) =>
    ⟨paymentId, method, externalId, redirectUrl⟩
  ofValues_toValues _ := rfl

open Json.Field in
instance : Record DepositRequest where
  name := "DepositRequest"
  fields := [required "amount" Int, omitted "description" String]
  toValues r := (r.amount, r.description, ())
  ofValues := fun (amount, description, _) => ⟨amount, description⟩
  ofValues_toValues _ := rfl

open Json.Field in
instance : Record WithdrawRequest where
  name := "WithdrawRequest"
  fields := [required "amount" Int, omitted "description" String]
  toValues r := (r.amount, r.description, ())
  ofValues := fun (amount, description, _) => ⟨amount, description⟩
  ofValues_toValues _ := rfl

open Json.Field in
instance : Record PaymentRequest where
  name := "CreatePaymentRequest"
  fields := [required "user_id" UserId, required "amount" Int, required "method" PaymentMethod,
    trailing "booking_id" BookingId]
  toValues r := (r.userId, r.amount, r.method, r.bookingId, ())
  ofValues := fun (userId, amount, method, bookingId, _) => ⟨userId, amount, method, bookingId⟩
  ofValues_toValues _ := rfl

open Json.Field in
instance : Record Verdict where
  name := "GatewayCallbackRequest"
  fields := [required "external_id" String, required "success" Bool]
  toValues v := (v.externalId, v.success, ())
  ofValues := fun (externalId, success, _) => ⟨externalId, success⟩
  ofValues_toValues _ := rfl

open Json.Field in
instance : Record BalanceReport where
  name := "BalanceResponse"
  fields := [required "user_id" UserId, required "balance" Int]
  toValues b := (b.userId, b.balance, ())
  ofValues := fun (userId, balance, _) => ⟨userId, balance⟩
  ofValues_toValues _ := rfl

open Json.Field in
instance : Record Acknowledgement where
  name := "CallbackAck"
  fields := [required "received" Bool]
  toValues a := (a.received, ())
  ofValues := fun (received, _) => ⟨received⟩
  ofValues_toValues _ := rfl

open Json.Field in
instance : Record PageQuery where
  name := "PageQuery"
  fields := [optional "limit" Int, optional "offset" Int]
  toValues q := (q.limit, q.offset, ())
  ofValues := fun (limit, offset, _) => ⟨limit, offset⟩
  ofValues_toValues _ := rfl

end Purse
