import Purse.Proofs.Settling
import Purse.Proofs.Timestamp

/-!
# New payments

A request for a payment stores it first and settles it afterwards, a wallet payment at once: the charge is
one unit of work, and if the wallet cannot pay, the failure is recorded in another one. What is answered
in the end is the record that is stored, first of the user's payments. So a request for a positive amount
never ends in an error where no call fails, and never leaves a wallet payment pending. A payment that could
not be paid leaves the wallets and the ledger alone; it does not even open a wallet.
-/
namespace Purse
open Service

/-- A payment as it is kept, which is the payment itself where nothing of a point in time is cut off. -/
def Payment.keptAt (precision : Precision) (p : Payment) : Payment :=
  { p with createdAt := precision.cut p.createdAt, updatedAt := precision.cut p.updatedAt }

theorem Precision.cut_cut (precision : Precision) (t : Timestamp) :
    precision.cut (precision.cut t) = precision.cut t := by
  cases precision with
  | nanosecond => rfl
  | microsecond => exact t.toMicrosecond_toMicrosecond

namespace Store

/-- Nothing that is drawn for a request is in use. -/
structure CanRequest (s : Store) (draws : Draws) : Prop extends s.CanPost draws where
  payment : ∀ row ∈ s.payments, row.id ≠ draws.paymentId

/-- Whether a list is all payments of a user, newest first: what the service that lists them shows where no
call fails is the pages of it. -/
def HasPayments (s : Store) (user : UserId) (ps : List Payment) : Prop :=
  ∀ page, Settlement.list user page ⟨s, []⟩ = .ok (page.slice ps) ⟨s, []⟩

/-- The second store has one more payment than the first, which is the first that its payer is shown. -/
structure Adds (s t : Store) (p : Payment) : Prop where
  payments : t.payments = .ofPayment p :: s.payments
  found : t.findPayment p.id = .ok (some p)
  listed : ∃ ps, s.HasPayments p.userId ps ∧ t.HasPayments p.userId (p :: ps)

end Store

/-- What a payment says of the request for it, whatever has become of it since. -/
structure Payment.HasTerms (p : Payment) (id : PaymentId) (user : UserId) (amount : Int)
    (method : PaymentMethod) (booking : Option BookingId) : Prop where
  id : p.id = id
  userId : p.userId = user
  amount : p.amount.value = amount
  method : p.method = method
  bookingId : p.bookingId = booking
  externalId : p.externalId = none
  redirectUrl : p.redirectUrl = none

variable {b c : Books} {p : Payment} {draws : Draws} {precision : Precision}

namespace Books

theorem hasPayments (user : UserId) :
    (b.store precision).HasPayments user (b.payments.filter (·.userId = user)) :=
  fun page => look_of_ok (listPayments_store user page)

theorem Sound.adds (hc : c.Sound) (hpayments : c.payments = p :: b.payments) (precision : Precision) :
    (b.store precision).Adds (c.store precision) p where
  payments := by simp only [store, hpayments, List.map_cons]
  found := hc.findPayment (hpayments ▸ List.mem_cons_self)
  listed := by
    refine ⟨_, b.hasPayments p.userId, ?_⟩
    have hlisted : (c.store precision).HasPayments p.userId _ := c.hasPayments p.userId
    rwa [hpayments, List.filter_cons_of_pos (by simp)] at hlisted

/-- A payment that was added and has taken a step since is added as the new record. -/
theorem Sound.adds_putPayment {q : Payment} (hc : (c.putPayment q).Sound)
    (hpayments : c.payments = p :: b.payments) (hid : p.id = q.id)
    (hnew : ∀ r ∈ b.payments, r.id ≠ q.id) (precision : Precision) :
    (b.store precision).Adds ((c.putPayment q).store precision) q := by
  refine hc.adds ?_ precision
  rw [putPayment, hpayments]
  exact Keyed.put_cons_self hid hnew

end Books

namespace Settlement

theorem charge_refusal? (p : Payment) (balance : Int) :
    (charge p).refusal? balance =
      if balance < p.amount.value then some (.insufficientBalance balance p.amount.value) else none := by
  unfold charge Posting.refusal?
  cases p.bookingId <;> rfl

theorem charge_terms (p : Payment) :
    (charge p).kind.direction = .debit ∧
    match p.bookingId with
    | some booking => (charge p).kind = .bookingCharge ∧
        (charge p).description = "Charge for booking " ++ booking.text
    | none => (charge p).kind = .withdraw ∧ (charge p).description = "Payment " ++ p.id.text := by
  unfold charge
  cases p.bookingId <;> exact ⟨rfl, rfl, rfl⟩

/-! ## The charge of a wallet payment -/

theorem markFailed_pending (hb : b.Lawful) (hp : p ∈ b.payments) (hs : p.status = .pending)
    (reason : String) (precision : Precision) :
    markFailed draws p.id reason ⟨b.store precision, []⟩ = .ok ()
      ⟨(b.putPayment { p with
        status := .failed
        errorMessage := some reason
        updatedAt := precision.cut draws.movedAt }).store precision, []⟩ := by
  refine unitOfWork_keep (bind_eq_ok.2 ⟨p, _, locked_stored hb hp, ?_⟩)
  simp only [hs, ne_eq, not_true, if_false]
  exact fail_save_granted hb.toSound hp hs reason (fun _ => ()) precision

section Charge
variable (hb : b.Lawful) (hp : p ∈ b.payments) (hmethod : p.method = .wallet) (hs : p.status = .pending)
include hb hp hmethod hs

theorem payFromWallet_granted (hfresh : b.CanPost draws)
    (h : (charge p).refusal? ((b.store precision).userBalance p.userId) = none) :
    ∃ (e : Entry) (b' : Books), payFromWallet draws p.id ⟨b.store precision, []⟩ =
        .ok { p with status := .completed, updatedAt := draws.movedAt }
          ⟨(b'.putPayment
            { p with status := .completed, updatedAt := precision.cut draws.movedAt }).store precision, []⟩ ∧
      e = .record draws.entryId e.walletId (charge p) draws.recordedAt ∧
      b.Posted p.userId (charge p) (e.keptAt precision) b' := by
  have hsettles := Payment.Settles.charged (precision.cut draws.movedAt) hs hmethod
  obtain ⟨e, b', hpost, hsave, he, hposted⟩ := post_save_granted hb hfresh hp
    (q := { p with status := .completed, updatedAt := draws.movedAt }) hsettles h
  refine ⟨e, b', bind_eq_ok.2 ⟨.ok _, _, unitOfWork_keep ?_, rfl⟩, he, hposted⟩
  refine bind_eq_ok.2 ⟨p, _, locked_stored hb hp, ?_⟩
  simp only [not_not.2 hmethod, hs, if_false]
  refine bind_eq_ok.2 ⟨.ok e, _, observe_eq_ok.2 hpost, ?_⟩
  refine bind_eq_ok.2 ⟨_, _, liftLedger_eq_ok.2 ⟨Payment.complete_of_pending hs, rfl⟩, ?_⟩
  exact bind_eq_ok.2 ⟨(), _, hsave, rfl⟩

theorem payFromWallet_declined (hfresh : b.CanPost draws) {cause : LedgerError}
    (h : (charge p).refusal? ((b.store precision).userBalance p.userId) = some cause) :
    payFromWallet draws p.id ⟨b.store precision, []⟩ = .error (.ofLedger cause)
      ⟨(b.putPayment { p with
        status := .failed
        errorMessage := some (ServiceError.ofLedger cause).message
        updatedAt := precision.cut draws.movedAt }).store precision, []⟩ := by
  obtain ⟨t, hpost⟩ := Ledger.post_refused hb.toSound hfresh h
  have hattempt : tryCharge draws p.id ⟨b.store precision, []⟩ =
      .ok (.error (.ofLedger cause)) ⟨b.store precision, []⟩ := by
    refine unitOfWork_discard (t := t) (bind_eq_ok.2 ⟨p, _, locked_stored hb hp, ?_⟩)
    simp only [hmethod, hs, ne_eq, not_true, if_false]
    exact bind_eq_ok.2 ⟨.error _, _, observe_eq_error.2 hpost, rfl⟩
  refine bind_eq_error.2 (.inr ⟨.error _, _, hattempt, ?_⟩)
  exact bind_eq_error.2 (.inr ⟨(), _, markFailed_pending hb hp hs _ precision, rfl⟩)

end Charge

/-! ## Requests -/

/-- What a request stores first. -/
theorem insert_granted (hfresh : ∀ q ∈ b.payments, q.id ≠ p.id) (hnone : p.externalId = none)
    (precision : Precision) :
    (liftM (World.insertPayment p) : Service Unit) ⟨b.store precision, []⟩ = .ok ()
      ⟨(b.addPayment (p.keptAt precision)).store precision, []⟩ :=
  liftStore_eq_ok.2 (World.write_eq_ok (Books.insertPayment_eq precision hnone hfresh))

section Request
variable {user : UserId} {amount : Int} {a : Amount} {method : PaymentMethod} {booking : Option BookingId}

theorem request_pending (hfresh : ∀ q ∈ b.payments, q.id ≠ draws.paymentId)
    (ha : Amount.ofInt amount = .ok a) (hmethod : method ≠ .wallet) :
    request draws user amount method booking ⟨b.store precision, []⟩ =
      .ok (.requested draws.paymentId user a method booking draws.createdAt)
        ⟨(b.addPayment (.requested draws.paymentId user a method booking
          (precision.cut draws.createdAt))).store precision, []⟩ := by
  rw [request, checked_accepted ha]
  refine bind_eq_ok.2 ⟨(), _, insert_granted hfresh rfl precision, ?_⟩
  simp only [hmethod, ne_eq, not_false_eq_true, if_true]
  rfl

theorem request_paid {answer : Payment} {w : World} (hfresh : ∀ q ∈ b.payments, q.id ≠ draws.paymentId)
    (ha : Amount.ofInt amount = .ok a)
    (h : payFromWallet draws draws.paymentId ⟨(b.addPayment (.requested draws.paymentId user a .wallet
      booking (precision.cut draws.createdAt))).store precision, []⟩ =
        .ok answer w) :
    request draws user amount .wallet booking ⟨b.store precision, []⟩ = .ok answer w := by
  rw [request, checked_accepted ha]
  refine bind_eq_ok.2 ⟨(), _, insert_granted hfresh rfl precision, ?_⟩
  simp only [ne_eq, not_true, if_false]
  exact bind_eq_ok.2 ⟨.ok answer, _, observe_eq_ok.2 h, rfl⟩

theorem request_declined {error : ServiceError} (hfresh : ∀ q ∈ b.payments, q.id ≠ draws.paymentId)
    (ha : Amount.ofInt amount = .ok a) (hc : c.Sound) (hp : p ∈ c.payments) (hid : p.id = draws.paymentId)
    (hs : p.status = .failed)
    (h : payFromWallet draws draws.paymentId ⟨(b.addPayment (.requested draws.paymentId user a .wallet
      booking (precision.cut draws.createdAt))).store precision, []⟩ =
        .error error ⟨c.store precision, []⟩) :
    request draws user amount .wallet booking ⟨b.store precision, []⟩ =
      .ok p ⟨c.store precision, []⟩ := by
  have hfind : find draws.paymentId ⟨c.store precision, []⟩ = .ok p ⟨c.store precision, []⟩ := by
    rw [← hid]
    exact bind_eq_ok.2 ⟨some p, _, look_of_ok (hc.findPayment hp), rfl⟩
  rw [request, checked_accepted ha]
  refine bind_eq_ok.2 ⟨(), _, insert_granted hfresh rfl precision, ?_⟩
  simp only [ne_eq, not_true, if_false]
  refine bind_eq_ok.2 ⟨.error error, _, observe_eq_error.2 h, ?_⟩
  refine bind_eq_ok.2 ⟨p, _, hfind, ?_⟩
  simp [hs]

end Request
end Settlement

/-- What has become of a payment in the step from one store to another that did not pay for it: no wallet
and no entry has changed. -/
structure Payment.Unpaid (p : Payment) (status : PaymentStatus) (reason : Option String) (s t : Store) :
    Prop extends s.KeepsLedger t where
  status : p.status = status
  reason : p.errorMessage = reason

/-- What has become of one that was paid for out of the payer's wallet. -/
structure Payment.Paid (p : Payment) (s t : Store) : Prop where
  status : p.status = .completed
  reason : p.errorMessage = none
  balance : t.userBalance p.userId = s.userBalance p.userId - p.amount.value
  entry : ∃ e, s.Enters t p.userId e ∧
    match p.bookingId with
    | some booking => e.AccountsFor p .bookingCharge ("Charge for booking " ++ booking.text)
    | none => e.AccountsFor p .withdraw ("Payment " ++ p.id.text)

namespace Settlement

section Wallet
variable {e : Entry} {b' : Books} {user : UserId} {a : Amount} {booking : Option BookingId}

theorem paid_of_posted {q : Payment} (hb : b.Sound) (hsettles : p.Settles (charge p) q)
    (hs : q.status = .completed) (hreason : q.errorMessage = none)
    (he : e = .record draws.entryId e.walletId (charge p) draws.recordedAt)
    (hposted : b.Posted p.userId (charge p) (e.keptAt precision) b') (hc : c.Sound)
    (hwallets : c.wallets = b'.wallets) (hentries : c.entries = b'.entries) :
    q.Paid (b.store precision) (c.store precision) := by
  obtain ⟨hdirection, hwhy⟩ := charge_terms p
  have hterms := hsettles.sameTerms
  have henters := hposted.enters hb hc hwallets hentries precision
  have haccounts : (e.keptAt precision).AccountsFor p _ _ := hsettles.accountsFor he
  constructor
  case status => exact hs
  case reason => exact hreason
  case balance =>
      rw [hterms.userId, hterms.amount, henters.balance_eq haccounts, hdirection]
      rfl
  case entry =>
      rw [hterms.userId]
      refine ⟨_, henters, ?_⟩
      rw [← hterms.bookingId, ← hterms.id] at hwhy
      have haccounts := haccounts.of_sameTerms hterms
      cases hbooking : q.bookingId with
      | none =>
          rw [hbooking] at hwhy
          rwa [hwhy.1, hwhy.2] at haccounts
      | some booking =>
          rw [hbooking] at hwhy
          rwa [hwhy.1, hwhy.2] at haccounts

/-- A wallet payment as it is stored first: the charge of it is refused only if the balance does not cover
it. -/
theorem exists_requested (hb : b.Lawful) (hnew : ∀ q ∈ b.payments, q.id ≠ draws.paymentId)
    (user : UserId) (a : Amount) (booking : Option BookingId) (precision : Precision) :
    ∃ p, p = Payment.requested draws.paymentId user a .wallet booking (precision.cut draws.createdAt) ∧
      (b.addPayment p).Lawful ∧ p.status = .pending ∧ p.method = .wallet ∧
      (charge p).refusal? (((b.addPayment p).store precision).userBalance p.userId) =
        if (b.store precision).userBalance user < a.value then
          some (.insufficientBalance ((b.store precision).userBalance user) a.value)
        else none :=
  ⟨_, rfl, hb.requested hnew user a .wallet booking _, rfl, rfl, charge_refusal? _ _⟩

theorem request_covered (hb : b.Lawful) (hpost : b.CanPost draws)
    (hnew : ∀ q ∈ b.payments, q.id ≠ draws.paymentId)
    (h : a.value ≤ (b.store precision).userBalance user) :
    ∃ p t, request draws user a.value .wallet booking ⟨b.store precision, []⟩ = .ok p ⟨t, []⟩ ∧
      p.HasTerms draws.paymentId user a.value .wallet booking ∧
      (b.store precision).Adds t (p.keptAt precision) ∧ p.Paid (b.store precision) t := by
  obtain ⟨p, hp, hstored, hs, hmethod, hcharge⟩ := exists_requested hb hnew user a booking precision
  rw [if_neg (Int.not_lt.2 h)] at hcharge
  obtain ⟨e, b', hpaid, he, hposted⟩ := payFromWallet_granted hstored List.mem_cons_self hmethod hs
    ⟨hpost.wallet, hpost.entry⟩ hcharge
  have hsettles := Payment.Settles.charged (precision.cut draws.movedAt) hs hmethod
  have hc := (Books.Settled.intro List.mem_cons_self hsettles hposted).lawful hstored
  -- The payment that was added has no part in the posting.
  have hown : b.Posted p.userId (charge p) (e.keptAt precision) { b' with payments := b.payments } :=
    hposted.withPayments b.payments
  have hadds := hc.toSound.adds_putPayment hposted.payments_eq rfl (by rw [hp]; exact hnew) precision
  have hpaid' := paid_of_posted (q := { p with status := .completed, updatedAt := draws.movedAt })
    hb.toSound (.charged draws.movedAt hs hmethod) rfl (by rw [hp]; rfl) he hown hc.toSound rfl rfl
  rw [hp] at hpaid hadds hpaid'
  refine ⟨_, _, request_paid hnew a.ofInt_value hpaid, ⟨rfl, rfl, rfl, rfl, rfl, rfl, rfl⟩, ?_, hpaid'⟩
  simpa only [Payment.keptAt, Payment.requested, precision.cut_cut] using hadds

theorem request_uncovered (hb : b.Lawful) (hpost : b.CanPost draws)
    (hnew : ∀ q ∈ b.payments, q.id ≠ draws.paymentId)
    (h : (b.store precision).userBalance user < a.value) :
    ∃ p t, request draws user a.value .wallet booking ⟨b.store precision, []⟩ = .ok p ⟨t, []⟩ ∧
      p.HasTerms draws.paymentId user a.value .wallet booking ∧
      (b.store precision).Adds t (p.keptAt precision) ∧
      p.Unpaid .failed (some (LedgerError.insufficientBalance
        ((b.store precision).userBalance user) a.value).message) (b.store precision) t := by
  obtain ⟨p, hp, hstored, hs, hmethod, hcharge⟩ := exists_requested hb hnew user a booking precision
  rw [if_pos h] at hcharge
  have hdeclined := payFromWallet_declined hstored List.mem_cons_self hmethod hs
    ⟨hpost.wallet, hpost.entry⟩ hcharge
  have hfailed := Payment.Amends.failed (LedgerError.insufficientBalance
    ((b.store precision).userBalance user) a.value).message (precision.cut draws.movedAt) hs
    fun he => by simp [hmethod, PaymentMethod.isExternal] at he
  -- A wallet payment has no reference that another one could carry.
  have hc := hstored.putPayment (hfailed.wellFormed (hstored.wellFormed p List.mem_cons_self))
    fun r _ hsome => by simp [hp, Payment.requested] at hsome
  have hadds := hc.toSound.adds_putPayment rfl rfl (by rw [hp]; exact hnew) precision
  have hmem : _ ∈ ((b.addPayment p).putPayment _).payments :=
    Books.mem_putPayment.2 (.inr ⟨rfl, p, List.mem_cons_self, hfailed.sameTerms.id.symm⟩)
  rw [hp] at hdeclined hc hadds hmem
  refine ⟨_, _, request_declined hnew a.ofInt_value hc.toSound hmem rfl rfl hdeclined,
    ⟨rfl, rfl, rfl, rfl, rfl, rfl, rfl⟩, ?_, ⟨⟨rfl, rfl, rfl⟩, rfl, rfl⟩⟩
  simpa only [Payment.keptAt, Payment.requested, precision.cut_cut] using hadds

end Wallet
end Settlement

/-- After any run a request for a payment ends in one of four ways. An amount that is not positive is
refused whatever the world is like. Otherwise the answer is the payment that is now stored: a gateway
payment is pending, and a wallet payment is completed if the payer's balance covers it and has failed if
it does not. -/
theorem Operation.requests_exactly {precision : Precision} {steps : List Step} {s : Store}
    (hs : s = (Store.empty precision).after steps) (gateways : Gateways) {draws : Draws}
    (hfresh : s.CanRequest draws) (user : UserId) {amount : Int} (hword : Numeral.isWord amount)
    (method : PaymentMethod) (booking : Option BookingId) :
    (amount ≤ 0 → ∀ w, (Operation.requestPayment user amount method booking).perform gateways draws w =
      .error (.invalidAmount amount) w) ∧
    (0 < amount → ∃ p t,
      (Operation.requestPayment user amount method booking).perform gateways draws ⟨s, []⟩ =
        .ok (.payment p) ⟨t, []⟩ ∧
      p.HasTerms draws.paymentId user amount method booking ∧ s.Adds t (p.keptAt precision) ∧
      if method ≠ .wallet then p.Unpaid .pending none s t
      else if amount ≤ s.userBalance user then p.Paid s t
      else p.Unpaid .failed (some ("Insufficient balance: available " ++
        Numeral.ofInt (s.userBalance user) ++ ", requested " ++ Numeral.ofInt amount)) s t) := by
  obtain ⟨b, hb, hlawful⟩ := Books.run_lawful precision steps
  obtain rfl := hs.trans hb
  have hpost := Books.canPost_of_store hfresh.toCanPost
  have hnew (q : Payment) (hq : q ∈ b.payments) : q.id ≠ draws.paymentId :=
    hfresh.payment _ (List.mem_map_of_mem hq)
  constructor
  · intro hpos w
    exact map_eq_error.2 (checked_refused hpos _ w)
  intro hpos
  obtain ⟨a, ha, rfl⟩ := Amount.exists_of_pos hword hpos
  split_ifs with hmethod hcovered
  · have hstored := hlawful.requested hnew user a method booking (precision.cut draws.createdAt)
    exact ⟨_, _, map_eq_ok.2 ⟨_, Settlement.request_pending hnew ha hmethod, rfl⟩,
      ⟨rfl, rfl, rfl, rfl, rfl, rfl, rfl⟩, hstored.toSound.adds rfl precision, ⟨⟨rfl, rfl, rfl⟩, rfl, rfl⟩⟩
  · obtain rfl := not_not.1 hmethod
    obtain ⟨p, t, hrequest, hrest⟩ := Settlement.request_covered hlawful hpost hnew hcovered
    exact ⟨p, t, map_eq_ok.2 ⟨p, hrequest, rfl⟩, hrest⟩
  · obtain rfl := not_not.1 hmethod
    obtain ⟨p, t, hrequest, hrest⟩ :=
      Settlement.request_uncovered hlawful hpost hnew (Int.not_le.1 hcovered)
    exact ⟨p, t, map_eq_ok.2 ⟨p, hrequest, rfl⟩, hrest⟩

theorem Store.saved_canRequest : saved.CanRequest (.ofDigit 2) := ⟨saved_canPost, by decide⟩

theorem Operation.requests_exactly_beyond_savings :
    ∃ p t, (Operation.requestPayment ⟨.ofDigit 7⟩ 700 .wallet none).perform (fun _ => none) (.ofDigit 2)
        ⟨Store.saved, []⟩ = .ok (.payment p) ⟨t, []⟩ ∧
      p.HasTerms ⟨.ofDigit 2⟩ ⟨.ofDigit 7⟩ 700 .wallet none ∧
      Store.saved.Adds t (p.keptAt .microsecond) ∧
      p.Unpaid .failed (some ("Insufficient balance: available " ++ Numeral.ofInt 500 ++
        ", requested " ++ Numeral.ofInt 700)) Store.saved t :=
  (requests_exactly rfl (fun _ => none) Store.saved_canRequest ⟨.ofDigit 7⟩ (by decide) .wallet none).2
    (by decide)

end Purse
