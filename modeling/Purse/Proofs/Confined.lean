import Purse.Proofs.Scope

/-!
# Services that keep to one user

Every service on behalf of a user does in the whole store what it does in the part of that user, as long
as what is drawn for it is not in use. The proofs follow the text of the services with the rules of
`Scope.Confined`; what the store holds in between is known from the services that answered, as everywhere.
-/
namespace Purse
open Service

namespace Scope

variable {α : Type} {c : Scope} {b b' : Books}

/-! ## The ledger services -/

section Ledger
variable {posting : Posting}

/-- A posting reaches the wallet of its user, which it may open, and appends one entry to it. -/
theorem confined_post (hb : b.Sound) (hpost : b.CanPost c.step.draws) :
    c.Confined (Ledger.post c.step.draws c.user posting) b := by
  apply (confined_opening hb hpost).bind
  intro w b₀ hlock
  obtain ⟨b₀', hstore, hopen⟩ := Ledger.of_opening hb rfl hlock.ok
  obtain rfl := Books.store_injective hstore
  have h₀ := hopen.sound hb
  apply (confined_ledger _).bind
  intro moved b₁ hmove
  obtain ⟨hmoved, rfl⟩ := hmove.of_ledger
  obtain ⟨rfl, hlow, -⟩ := Wallet.of_move hmoved (h₀.balances w hopen.mem)
  refine (alike_saveWallet h₀ hopen.mem hopen.userId_eq hlow c.step.draws.balanceAt).bind ?_
  refine (alike_appendEntry ?_ ?_ rfl ?_).bind (confined_pure _)
  · rw [Books.putWallet, Keyed.map_key_put]
    exact h₀.walletIds
  · intro f hf
    rw [Books.putWallet, hopen.entries_eq] at hf
    exact hpost.entry f hf
  · exact ⟨_, Keyed.mem_put.2 (.inr ⟨rfl, w, hopen.mem, rfl⟩), hopen.userId_eq, rfl⟩

theorem Alike.posted {e : Entry} (h : c.Alike (Ledger.post c.step.draws c.user posting) b (.ok e) b')
    (hb : b.Sound) : ∃ e', b.Posted c.user posting e' b' := by
  obtain ⟨b'', hstore, hposted⟩ := Ledger.of_post hb rfl h.ok
  obtain rfl := Books.store_injective hstore
  exact ⟨_, hposted⟩

/-- The four services that post on their own account have this form. -/
theorem confined_checked {amount : Int} {posting : Amount → Posting} (hb : b.Sound)
    (hpost : b.CanPost c.step.draws) :
    c.Confined (do let a ← Amount.ofInt amount; Ledger.postAlone c.step.draws c.user (posting a)) b := by
  apply (confined_ledger _).bind
  intro a b' hamount
  obtain ⟨-, rfl⟩ := hamount.of_ledger
  exact Confined.unitOfWork ((confined_post hb hpost).bind fun e _ _ => confined_pure _)

theorem alike_findWallet (hb : b.Sound) :
    c.Alike (liftM (World.findWallet c.user)) b (.ok (b.wallets.find? (·.userId = c.user))) b := by
  have hpart : ((b.only c.user).store c.precision).findWallet c.user = _ :=
    (hb.only c.user).findWallet c.user
  rw [Books.find?_wallets_only] at hpart
  exact alike_look (hb.findWallet c.user) hpart

theorem confined_balance (hb : b.Sound) : c.Confined (Ledger.balance c.user) b := by
  refine (alike_findWallet hb).bind ?_
  cases b.wallets.find? (·.userId = c.user) with
  | none => exact confined_pure 0
  | some w => exact confined_pure w.balance

theorem confined_history (hb : b.Sound) (page : Page) : c.Confined (Ledger.history c.user page) b := by
  refine (alike_findWallet hb).bind ?_
  cases hfind : b.wallets.find? (·.userId = c.user) with
  | none => exact confined_pure []
  | some w =>
      have hw := List.mem_of_find?_eq_some hfind
      have huser : w.userId = c.user := by simpa using List.find?_some hfind
      have hpart : ((b.only c.user).store c.precision).listEntries w.id page = _ :=
        Books.listEntries_store w.id page
      rw [← huser, Books.entries_only hw, huser] at hpart
      exact (alike_look (Books.listEntries_store w.id page) hpart).confined

end Ledger

/-! ## The settlement services -/

section Settlement
variable {p : Payment} {id : PaymentId} {move : Except LedgerError Payment} {ending : Payment → Ending α}

theorem confined_locked (howner : ∀ p ∈ b.payments, p.id = id → p.userId = c.user) :
    c.Confined (Settlement.locked id) b :=
  confined_lookup .lockPayment howner

theorem Alike.of_locked (h : c.Alike (Settlement.locked id) b (.ok p) b') :
    p ∈ b.payments ∧ p.id = id ∧ b' = b := by
  obtain ⟨hp, hid, hstore⟩ := Settlement.of_locked rfl h.ok
  exact ⟨hp, hid, Books.store_injective hstore⟩

theorem confined_find (howner : ∀ p ∈ b.payments, p.id = id → p.userId = c.user) :
    c.Confined (Settlement.find id) b :=
  confined_lookup .getPayment howner

/-- A step of a stored payment and the saving of it, which ends a unit of work. -/
theorem confined_step (hb : b.Sound) (hmove : ∀ q, move = .ok q → c.Replaces b p q) :
    c.Confined (do
      let q ← move
      World.savePayment q
      return ending q : Service (Ending α)) b := by
  apply (confined_ledger move).bind
  intro q b' h
  obtain ⟨hq, rfl⟩ := h.of_ledger
  exact ((hmove q hq).alike hb).bind (confined_pure _)

/-- The same with a posting in front of it. -/
theorem confined_post_step (hb : b.Sound) (hpost : b.CanPost c.step.draws) (howner : p.userId = c.user)
    {posting : Posting} (hmove : ∀ q, move = .ok q → c.Replaces b p q) :
    c.Confined (do
      let _ ← Ledger.post c.step.draws p.userId posting
      let q ← move
      World.savePayment q
      return ending q : Service (Ending α)) b := by
  rw [howner]
  apply (confined_post hb hpost).bind
  intro e b' h
  obtain ⟨e', hposted⟩ := h.posted hb
  apply confined_step (p := p) (hposted.sound hb)
  intro q hq
  exact (hmove q hq).of_payments_eq hposted.payments_eq

theorem confined_markFailed {reason : String} (hb : b.Sound)
    (howner : ∀ p ∈ b.payments, p.id = id → p.userId = c.user) :
    c.Confined (Settlement.markFailed c.step.draws id reason) b := by
  apply Confined.unitOfWork
  apply (confined_locked howner).bind
  intro p b' hlock
  obtain ⟨hp, hid, rfl⟩ := hlock.of_locked
  split_ifs with hs
  · exact confined_pure _
  · apply confined_step (p := p) hb
    intro q hq
    rw [Payment.of_fail hq]
    exact .of_status hp (howner p hp hid) ..

theorem confined_tryCharge (hb : b.Sound) (hpost : b.CanPost c.step.draws)
    (howner : ∀ p ∈ b.payments, p.id = id → p.userId = c.user) :
    c.Confined (Settlement.tryCharge c.step.draws id) b := by
  apply Confined.unitOfWork
  apply (confined_locked howner).bind
  intro p b' hlock
  obtain ⟨hp, hid, rfl⟩ := hlock.of_locked
  split_ifs with hmethod
  · exact confined_throw_bind _
  cases hs : p.status with
  | completed => exact confined_pure _
  | failed => exact confined_throw _
  | refunded => exact confined_throw _
  | pending =>
      rw [howner p hp hid]
      apply (confined_post hb hpost).observe.bind
      intro outcome b₁ hobserve
      cases outcome with
      | error error => exact confined_pure _
      | ok e =>
          obtain ⟨e', hposted⟩ := hobserve.of_observe.posted hb
          apply confined_step (p := p) (hposted.sound hb)
          intro q hq
          rw [Payment.of_complete hq]
          exact .of_status (hposted.payments_eq ▸ hp) (howner p hp hid) ..

theorem confined_payFromWallet (hb : b.Lawful) (hpost : b.CanPost c.step.draws)
    (howner : ∀ p ∈ b.payments, p.id = id → p.userId = c.user) :
    c.Confined (Settlement.payFromWallet c.step.draws id) b := by
  apply (confined_tryCharge hb.toSound hpost howner).bind
  intro outcome b₁ htry
  cases outcome with
  | ok q => exact confined_pure q
  | error error =>
      obtain ⟨p, -, -, -, hcases⟩ := Settlement.of_tryCharge hb rfl htry.ok
      -- An attempt that was refused has given up what it wrote.
      have hstore : b₁.store c.precision = b.store c.precision := by
        rcases hcases with ⟨-, ⟨⟩, -⟩ | ⟨-, -, hstore⟩ | ⟨-, -, -, -, ⟨⟩, -⟩
        exact hstore
      obtain rfl := Books.store_injective hstore
      exact (confined_markFailed hb.toSound howner).bind fun _ _ _ => confined_throw error

theorem confined_request {amount : Int} {method : PaymentMethod} {booking : Option BookingId}
    (hb : b.Lawful) (hfresh : b.Fresh c.step) :
    c.Confined (Settlement.request c.step.draws c.user amount method booking) b := by
  apply (confined_ledger _).bind
  intro a b' hamount
  obtain ⟨-, rfl⟩ := hamount.of_ledger
  refine (alike_insertPayment rfl rfl rfl hfresh.payment).bind ?_
  have hb₁ := hb.requested hfresh.payment c.user a method booking (c.precision.cut c.step.draws.createdAt)
  split_ifs with hmethod
  · exact confined_pure _
  have howner : ∀ p ∈ (b'.addPayment (.requested c.step.draws.paymentId c.user a method booking
      (c.precision.cut c.step.draws.createdAt))).payments, p.id = c.step.draws.paymentId →
      p.userId = c.user := by
    intro p hp hid
    rcases List.mem_cons.1 hp with rfl | hp
    · rfl
    · exact absurd hid (hfresh.payment p hp)
  refine (confined_payFromWallet hb₁ ⟨hfresh.wallet, hfresh.entry⟩ howner).observe.bind
    fun outcome b₂ hobserve => ?_
  cases outcome with
  | ok settled => exact confined_pure settled
  | error error =>
      refine (confined_find fun q hq hid => hobserve.within.userId_eq howner hq hid).bind
        fun stored _ _ => ?_
      split_ifs
      · exact confined_pure stored
      · exact confined_throw error

theorem confined_checkout (hb : b.Sound) (hfresh : b.Fresh c.step)
    (hoperation : c.step.operation = .checkout id)
    (howner : ∀ p ∈ b.payments, p.id = id → p.userId = c.user) :
    c.Confined (Settlement.checkout c.step.gateways c.step.draws id) b := by
  apply Confined.unitOfWork
  apply (confined_locked howner).bind
  intro p b' hlock
  obtain ⟨hp, hid, rfl⟩ := hlock.of_locked
  by_cases hexternal : p.method.isExternal = true
  swap
  · simp only [hexternal]
    exact confined_throw_bind _
  by_cases hpending : p.status = .pending
  swap
  · simp only [hexternal, hpending, Bool.not_true, Bool.false_eq_true, ne_eq, not_false_eq_true, if_true,
      if_false]
    exact confined_throw_bind _
  simp only [hexternal, hpending, Bool.not_true, Bool.false_eq_true, ne_eq, not_true, if_false]
  cases p.checkout? with
  | some found => exact confined_pure _
  | none =>
      dsimp only
      cases hgateway : c.step.gateways p.method with
      | none => exact confined_throw_bind _
      | some gateway =>
          apply (confined_gateway _).bind
          intro redirect b₁ hredirect
          obtain ⟨hissue, rfl⟩ := hredirect.of_gateway
          apply confined_step (p := p) hb
          intro q hq
          rw [Payment.of_attachGateway hq]
          -- The one reference that comes in new is the one that the gateway has just issued.
          have hissues : c.step.MayIssue redirect.externalId :=
            ⟨p, gateway, redirect, hid ▸ hoperation, hgateway, hissue, rfl⟩
          refine ⟨hp, howner p hp hid, ⟨rfl, rfl, rfl, rfl, rfl, rfl⟩, fun e he => .inr ?_⟩
          obtain rfl := Option.some.inj he
          exact ⟨hissues, fun r hr hre => hfresh.reference r hr _ hre hissues⟩

theorem confined_applyVerdict {verdict : Verdict} (hb : b.Sound) (hpost : b.CanPost c.step.draws)
    (howner : ∀ p ∈ b.payments, p.externalId = some verdict.externalId → p.userId = c.user) :
    c.Confined (Settlement.applyVerdict c.step.draws verdict) b := by
  have hpart : ((b.only c.user).store c.precision).findPaymentOf verdict.externalId = _ :=
    Books.findPaymentOf_store verdict.externalId
  rw [Books.find?_payments_only fun p hp he => howner p hp (of_decide_eq_true he)] at hpart
  refine Confined.unitOfWork
    ((alike_look (Books.findPaymentOf_store verdict.externalId) hpart).bind ?_)
  cases hfind : b.payments.find? (·.externalId = some verdict.externalId) with
  | none => exact confined_throw_bind _
  | some p =>
      have hp := List.mem_of_find?_eq_some hfind
      have huser := howner p hp (by simpa using List.find?_some hfind)
      refine Alike.bind (.of_same rfl rfl) ?_
      dsimp only
      by_cases htarget : p.status = Settlement.target verdict.success
      · rw [if_pos htarget]
        exact confined_pure _
      rw [if_neg htarget]
      by_cases hpending : p.status = .pending
      swap
      · rw [if_pos hpending]
        exact confined_throw_bind _
      rw [if_neg (not_not.2 hpending)]
      split_ifs with hsuccess
      · apply confined_post_step hb hpost huser
        intro q hq
        rw [Payment.of_complete hq]
        exact .of_status hp huser ..
      · apply confined_step (p := p) hb
        intro q hq
        rw [Payment.of_fail hq]
        exact .of_status hp huser ..

theorem confined_refund (hb : b.Sound) (hpost : b.CanPost c.step.draws)
    (howner : ∀ p ∈ b.payments, p.id = id → p.userId = c.user) :
    c.Confined (Settlement.refund c.step.draws id) b := by
  apply Confined.unitOfWork
  apply (confined_locked howner).bind
  intro p b' hlock
  obtain ⟨hp, hid, rfl⟩ := hlock.of_locked
  cases hs : p.status with
  | refunded => exact confined_pure _
  | pending => exact confined_throw _
  | failed => exact confined_throw _
  | completed =>
      apply confined_post_step hb hpost (howner p hp hid)
      intro q hq
      rw [Payment.of_refund hq]
      exact .of_status hp (howner p hp hid) ..

theorem confined_list (page : Page) : c.Confined (Settlement.list c.user page) b := by
  have hpart : ((b.only c.user).store c.precision).listPayments c.user page = _ :=
    Books.listPayments_store c.user page
  rw [Books.payments_only] at hpart
  exact (alike_look (Books.listPayments_store c.user page) hpart).confined

end Settlement

/-! ## Every operation -/

/-- An operation that names the user, or only payments of the user, is confined to that user. -/
theorem confined_perform (hb : b.Lawful) (hfresh : b.Fresh c.step)
    (hsubject : c.step.operation.subject.BelongsTo b c.user) :
    c.Confined (c.step.operation.perform c.step.gateways c.step.draws) b := by
  have hsound := hb.toSound
  have hpost := hfresh.toCanPost
  cases hoperation : c.step.operation <;> rw [hoperation] at hsubject
  case wallet user =>
    cases hsubject
    exact (confined_opening hsound hpost).map _
  case balance user =>
    cases hsubject
    exact (confined_balance hsound).map _
  case history user page =>
    cases hsubject
    exact (confined_history hsound page).map _
  case deposit user amount description =>
    cases hsubject
    exact (confined_checked hsound hpost).map _
  case withdraw user amount description =>
    cases hsubject
    exact (confined_checked hsound hpost).map _
  case chargeBooking user amount booking =>
    cases hsubject
    exact (confined_checked hsound hpost).map _
  case refundBooking user amount booking reason =>
    cases hsubject
    exact (confined_checked hsound hpost).map _
  case requestPayment user amount method booking =>
    cases hsubject
    exact (confined_request hb hfresh).map _
  case payFromWallet id => exact (confined_payFromWallet hb hpost hsubject).map _
  case checkout id => exact (confined_checkout hsound hfresh hoperation hsubject).map _
  case applyVerdict verdict => exact (confined_applyVerdict hsound hpost hsubject).map _
  case refundPayment id => exact (confined_refund hsound hpost hsubject).map _
  case payment id => exact (confined_find hsubject).map _
  case payments user page =>
    cases hsubject
    exact (confined_list page).map _

end Scope
end Purse
