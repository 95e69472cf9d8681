import Purse.Json.Vocabulary
import Purse.Proofs.Books
import Purse.Proofs.Json.Record
import Purse.Proofs.Timestamp

/-!
# The domain is read back

Everything that client and server tell each other is read as it was written. Sums that are plain integers
have to be of 64 bits for it; an amount always is.
-/
namespace Purse

open Json Json.Field

/-! ## Single values -/

theorem Json.roundTrips_int {n : Int} (h : Numeral.isWord n) : Wire.RoundTrips n := readsBack_int h

theorem Json.roundTrips_bool (b : Bool) : Wire.RoundTrips b := readsBack_bool b

theorem Json.roundTrips_string (s : String) : Wire.RoundTrips s := readsBack_text "a string" s

theorem Amount.isWord_value (a : Amount) : Numeral.isWord a.value := by
  have hpos := a.pos
  have hmax : a.value ≤ 9223372036854775807 := a.le_max
  rw [Numeral.isWord_iff]
  omega

theorem Amount.roundTrips (a : Amount) : Wire.RoundTrips a := by
  have hint := readsBack_int a.isWord_value
  refine ⟨hint.opens, fun {rest} hrest => ?_⟩
  have hread := hint.reads hrest
  simp [Wire.read, Wire.write, readAmount, hread, bind, Except.bind, Amount.ofInt_value]

theorem Timestamp.roundTrips (t : Timestamp) : Wire.RoundTrips t := by
  refine ⟨opens_text t.text, fun {rest} _ => ?_⟩
  have hread : Timestamp.read t.text.toList = .ok t := by rw [text, String.toList_ofList, t.read_chars]
  simp [Wire.read, Wire.write, readTime, readTextFor_text, hread, bind, Except.bind]

theorem Json.readsBack_identifier {α : Type} {ofText? : String → Option α} {id : α} {s : String}
    (h : ofText? s = some id) : ReadsBack (readIdentifier ofText?) id (.text s) :=
  readsBack_spelled h _ _

theorem UserId.roundTrips (id : UserId) : Wire.RoundTrips id := readsBack_identifier id.ofText?_text
theorem BookingId.roundTrips (id : BookingId) : Wire.RoundTrips id := readsBack_identifier id.ofText?_text
theorem WalletId.roundTrips (id : WalletId) : Wire.RoundTrips id := readsBack_identifier id.ofText?_text
theorem EntryId.roundTrips (id : EntryId) : Wire.RoundTrips id := readsBack_identifier id.ofText?_text
theorem PaymentId.roundTrips (id : PaymentId) : Wire.RoundTrips id := readsBack_identifier id.ofText?_text

theorem PaymentMethod.roundTrips (m : PaymentMethod) : Wire.RoundTrips m := readsBack_name m.ofName?_name _
theorem PaymentStatus.roundTrips (s : PaymentStatus) : Wire.RoundTrips s := readsBack_name s.ofName?_name _
theorem EntryKind.roundTrips (k : EntryKind) : Wire.RoundTrips k := readsBack_name k.ofName?_name _

theorem Wire.RoundTrips.list {α : Type} [Wire α] {as : List α} (h : ∀ a ∈ as, Wire.RoundTrips a) :
    Wire.RoundTrips as :=
  readsBack_list h

/-! ## Records -/

theorem Wallet.kept {w : Wallet} (h : Numeral.isWord w.balance) : Record.Kept w :=
  ⟨by decide, keeps_required _ w.id.roundTrips, keeps_required _ w.userId.roundTrips,
    keeps_required _ (roundTrips_int h), keeps_required _ w.createdAt.roundTrips,
    keeps_required _ w.updatedAt.roundTrips, trivial⟩

theorem Entry.kept (e : Entry) : Record.Kept e :=
  ⟨by decide, keeps_required _ e.id.roundTrips, keeps_required _ e.walletId.roundTrips,
    keeps_required _ e.kind.roundTrips, keeps_required _ e.amount.roundTrips,
    keeps_required _ (roundTrips_string e.description), keeps_optional _ fun id _ => id.roundTrips,
    keeps_optional _ fun id _ => id.roundTrips, keeps_required _ e.createdAt.roundTrips, trivial⟩

theorem Payment.kept (p : Payment) : Record.Kept p :=
  ⟨by decide, keeps_required _ p.id.roundTrips, keeps_required _ p.userId.roundTrips,
    keeps_optional _ fun id _ => id.roundTrips, keeps_required _ p.amount.roundTrips,
    keeps_required _ p.method.roundTrips, keeps_required _ p.status.roundTrips,
    keeps_optional _ fun s _ => roundTrips_string s, keeps_optional _ fun s _ => roundTrips_string s,
    keeps_optional _ fun s _ => roundTrips_string s, keeps_required _ p.createdAt.roundTrips,
    keeps_required _ p.updatedAt.roundTrips, trivial⟩

theorem Checkout.kept (c : Checkout) : Record.Kept c :=
  ⟨by decide, keeps_required _ c.paymentId.roundTrips, keeps_required _ c.method.roundTrips,
    keeps_required _ (roundTrips_string c.externalId), keeps_required _ (roundTrips_string c.redirectUrl),
    trivial⟩

theorem DepositRequest.kept {r : DepositRequest} (h : Numeral.isWord r.amount) : Record.Kept r :=
  ⟨by decide, keeps_required _ (roundTrips_int h), keeps_omitted _ fun s _ => roundTrips_string s,
    trivial⟩

theorem WithdrawRequest.kept {r : WithdrawRequest} (h : Numeral.isWord r.amount) : Record.Kept r :=
  ⟨by decide, keeps_required _ (roundTrips_int h), keeps_omitted _ fun s _ => roundTrips_string s,
    trivial⟩

theorem PaymentRequest.kept {r : PaymentRequest} (h : Numeral.isWord r.amount) : Record.Kept r :=
  ⟨by decide, keeps_required _ r.userId.roundTrips, keeps_required _ (roundTrips_int h),
    keeps_required _ r.method.roundTrips, keeps_trailing _ fun id _ => id.roundTrips, trivial⟩

theorem Verdict.kept (v : Verdict) : Record.Kept v :=
  ⟨by decide, keeps_required _ (roundTrips_string v.externalId),
    keeps_required _ (roundTrips_bool v.success), trivial⟩

theorem BalanceReport.kept {b : BalanceReport} (h : Numeral.isWord b.balance) : Record.Kept b :=
  ⟨by decide, keeps_required _ b.userId.roundTrips, keeps_required _ (roundTrips_int h), trivial⟩

theorem Acknowledgement.kept (a : Acknowledgement) : Record.Kept a :=
  ⟨by decide, keeps_required _ (roundTrips_bool a.received), trivial⟩

theorem PageQuery.kept {q : PageQuery} (hlimit : ∀ n, q.limit = some n → Numeral.isWord n)
    (hoffset : ∀ n, q.offset = some n → Numeral.isWord n) : Record.Kept q :=
  ⟨by decide, keeps_optional _ fun n hn => roundTrips_int (hlimit n hn),
    keeps_optional _ fun n hn => roundTrips_int (hoffset n hn), trivial⟩

end Purse
