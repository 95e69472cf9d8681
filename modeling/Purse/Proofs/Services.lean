import Purse.Proofs.Effect
import Purse.Proofs.Outcome

/-!
# What the services do to the books

For each service: what it has done if it answered, and what it can have left behind if it failed. The
store that a service finds is that of lawful books, and faults may hit any of its calls. A service that
is one unit of work leaves nothing behind when it fails; only the settlement of a wallet payment, which
records a refusal in a second unit of work, and the request of one, which stores the payment first, can
fail and leave a trace.
-/
namespace Purse
open Service

variable {b : Books} {precision : Precision} {draws : Draws} {w u : World}

namespace Ledger

/-- A wallet that was asked for was found or has been opened. -/
theorem of_opening {call : StoreCall} {user : UserId} {id : WalletId} {now : Timestamp} {wallet : Wallet}
    (hb : b.Sound) (hw : w.store = b.store precision)
    (h : (liftM (World.attempt call (·.openWallet user id now)) : Service Wallet) w = .ok wallet u) :
    ∃ b', u.store = b'.store precision ∧ b.Opened user wallet b' := by
  have hopen := World.store_of_attempt_ok (liftStore_eq_ok.1 h)
  rw [hw] at hopen
  exact Books.of_openWallet hb hopen

theorem of_post {user : UserId} {posting : Posting} {e : Entry} (hb : b.Sound)
    (hw : w.store = b.store precision) (h : post draws user posting w = .ok e u) :
    ∃ b', u.store = b'.store precision ∧
      b.Posted user posting { e with createdAt := precision.cut e.createdAt } b' := by
  unfold post at h
  obtain ⟨wallet, w₁, hlock, h⟩ := bind_eq_ok.1 h
  obtain ⟨moved, w₂, hmove, h⟩ := bind_eq_ok.1 h
  obtain ⟨⟨⟩, w₃, hsave, h⟩ := bind_eq_ok.1 h
  obtain ⟨⟨⟩, w₄, happend, h⟩ := bind_eq_ok.1 h
  obtain ⟨rfl, rfl⟩ := pure_eq_ok.1 h
  obtain ⟨b₀, h₁, hopen⟩ := of_opening hb hw hlock
  have h₀ := hopen.sound hb
  obtain ⟨hmoved, rfl⟩ := liftLedger_eq_ok.1 hmove
  obtain ⟨rfl, hlow, hhigh⟩ := Wallet.of_move hmoved (h₀.balances wallet hopen.mem)
  have hsave := World.of_write_ok (liftStore_eq_ok.1 hsave)
  rw [h₁] at hsave
  obtain ⟨-, h₃⟩ := Books.of_saveWallet h₀ hopen.mem hsave
  have happend := World.of_write_ok (liftStore_eq_ok.1 happend)
  rw [h₃] at happend
  obtain ⟨hfresh, h₄⟩ := Books.of_appendEntry happend
  refine ⟨_, h₄, .intro draws.entryId _ _ hopen hlow hhigh fun f hf => hfresh f ?_⟩
  simpa only [Books.putWallet, hopen.entries_eq] using hf

theorem of_postAlone {user : UserId} {posting : Posting} {e : Entry} (hb : b.Sound)
    (hw : w.store = b.store precision) (h : postAlone draws user posting w = .ok e u) :
    ∃ b', u.store = b'.store precision ∧
      b.Posted user posting { e with createdAt := precision.cut e.createdAt } b' := by
  obtain ⟨v, ending, v', hv, hbody, hend⟩ := of_unitOfWork_ok h
  obtain ⟨f, v₁, hpost, hbody⟩ := bind_eq_ok.1 hbody
  obtain ⟨rfl, rfl⟩ := pure_eq_ok.1 hbody
  obtain ⟨rfl, hu⟩ := hend
  rw [hu]
  exact of_post hb (hv.trans hw) hpost

end Ledger

namespace Settlement

theorem of_locked {id : PaymentId} {p : Payment} (hw : w.store = b.store precision)
    (h : locked id w = .ok p u) : p ∈ b.payments ∧ p.id = id ∧ u.store = w.store := by
  unfold locked at h
  obtain ⟨found, v, hlock, h⟩ := bind_eq_ok.1 h
  obtain ⟨hfind, hv⟩ := World.of_look_ok (liftStore_eq_ok.1 hlock)
  cases found with
  | none => simp at h
  | some q =>
      obtain ⟨rfl, rfl⟩ := pure_eq_ok.1 h
      rw [hw] at hfind
      obtain ⟨hq, hid⟩ := Books.of_findPayment hfind
      exact ⟨hq, hid, hv⟩

theorem readsOnly_find (id : PaymentId) : ReadsOnly (find id) := by
  refine (readsOnly_look .getPayment _).bind fun found => ?_
  cases found with
  | none => exact readsOnly_throw _
  | some p => exact readsOnly_pure p

theorem of_find_ok {id : PaymentId} {p : Payment} (h : find id w = .ok p u) :
    w.store.findPayment id = .ok (some p) := by
  unfold find at h
  obtain ⟨found, v, hget, h⟩ := bind_eq_ok.1 h
  have hfind := (World.of_look_ok (liftStore_eq_ok.1 hget)).1
  cases found with
  | none => simp at h
  | some q =>
      obtain ⟨rfl, -⟩ := pure_eq_ok.1 h
      exact hfind

/-- A posting and the saving of the payment that it settles, one after the other. -/
theorem of_post_save {p q : Payment} {posting : Posting} {e : Entry} {v : World} (hb : b.Lawful)
    (hw : w.store = b.store precision) (hp : p ∈ b.payments)
    (hsettles : p.Settles posting { q with updatedAt := precision.cut q.updatedAt })
    (hpost : Ledger.post draws p.userId posting w = .ok e v)
    (hsave : World.savePayment q v = .ok () u) :
    ∃ b', u.store = b'.store precision ∧
      b.Settled p { q with updatedAt := precision.cut q.updatedAt } b' := by
  obtain ⟨b₁, h₁, hposted⟩ := Ledger.of_post hb.toSound hw hpost
  have hsave := World.of_write_ok hsave
  rw [h₁] at hsave
  have hp₁ : p ∈ b₁.payments := hposted.payments_eq ▸ hp
  have terms : p.SameTerms q := hsettles.sameTerms.of_redated
  obtain ⟨-, h₂⟩ := Books.of_savePayment (hposted.sound hb.toSound) hp₁ terms hsave
  exact ⟨_, h₂, .intro hp hsettles hposted⟩

/-- The saving of a payment that was amended. -/
theorem of_amend_save {p q : Payment} (hb : b.Lawful) (hw : w.store = b.store precision)
    (hp : p ∈ b.payments) (hamends : p.Amends { q with updatedAt := precision.cut q.updatedAt })
    (hsave : World.savePayment q w = .ok () u) :
    ∃ b', u.store = b'.store precision ∧
      b.Amended p { q with updatedAt := precision.cut q.updatedAt } b' := by
  have hsave := World.of_write_ok hsave
  rw [hw] at hsave
  have terms : p.SameTerms q := hamends.sameTerms.of_redated
  obtain ⟨unique, h₁⟩ := Books.of_savePayment hb.toSound hp terms hsave
  exact ⟨_, h₁, .intro hp hamends unique⟩

/-! ## Wallet payments -/

theorem of_markFailed {id : PaymentId} {reason : String} (hb : b.Lawful)
    (hw : w.store = b.store precision)
    (wallet : ∀ p ∈ b.payments, p.id = id → p.method = .wallet)
    (h : markFailed draws id reason w = .ok () u) :
    (∃ p ∈ b.payments, p.id = id ∧ p.status ≠ .pending) ∧ u.store = w.store ∨
      ∃ p b', p.id = id ∧ p.status = .pending ∧ u.store = b'.store precision ∧
        b.Amended p { p with
          status := .failed
          errorMessage := some reason
          updatedAt := precision.cut draws.movedAt } b' := by
  obtain ⟨v, ending, v', hv, hbody, hend⟩ := of_unitOfWork_ok h
  obtain ⟨p, v₁, hlock, hbody⟩ := bind_eq_ok.1 hbody
  obtain ⟨hp, hid, hv₁⟩ := of_locked (hv.trans hw) hlock
  split_ifs at hbody with hstatus
  · obtain ⟨rfl, rfl⟩ := pure_eq_ok.1 hbody
    exact .inl ⟨⟨p, hp, hid, hstatus⟩, hend.2⟩
  · obtain ⟨q, v₂, hfail, hbody⟩ := bind_eq_ok.1 hbody
    obtain ⟨⟨⟩, v₃, hsave, hbody⟩ := bind_eq_ok.1 hbody
    obtain ⟨rfl, rfl⟩ := pure_eq_ok.1 hbody
    obtain ⟨hfailed, rfl⟩ := liftLedger_eq_ok.1 hfail
    obtain rfl := Payment.of_fail hfailed
    have hpending : p.status = .pending := not_not.1 hstatus
    have hamends := Payment.Amends.failed (p := p) reason (precision.cut draws.movedAt) hpending
      fun he => by simp [wallet p hp hid, PaymentMethod.isExternal] at he
    obtain ⟨b', hb', hamended⟩ :=
      of_amend_save hb (hv₁.trans (hv.trans hw)) hp hamends (liftStore_eq_ok.1 hsave)
    exact .inr ⟨p, b', hid, hpending, hend.2.trans hb', hamended⟩

/-- An attempt to charge found the payment completed, was refused, or completed it. -/
theorem of_tryCharge {id : PaymentId} {outcome : Except ServiceError Payment} (hb : b.Lawful)
    (hw : w.store = b.store precision) (h : tryCharge draws id w = .ok outcome u) :
    ∃ p ∈ b.payments, p.id = id ∧ p.method = .wallet ∧
      (p.status = .completed ∧ outcome = .ok p ∧ u.store = w.store ∨
        p.status = .pending ∧ (∃ error, outcome = .error error) ∧ u.store = w.store ∨
        ∃ q b', p.status = .pending ∧ q.status = .completed ∧ outcome = .ok q ∧
          u.store = b'.store precision ∧
          b.Settled p { q with updatedAt := precision.cut q.updatedAt } b') := by
  obtain ⟨v, ending, v', hv, hbody, hend⟩ := of_unitOfWork_ok h
  obtain ⟨p, v₁, hlock, hbody⟩ := bind_eq_ok.1 hbody
  obtain ⟨hp, hid, hv₁⟩ := of_locked (hv.trans hw) hlock
  split_ifs at hbody with hmethod
  · simp [bind_eq_ok] at hbody
  have hwallet : p.method = .wallet := not_not.1 hmethod
  refine ⟨p, hp, hid, hwallet, ?_⟩
  cases hs : p.status with
  | completed =>
      simp only [hs] at hbody
      obtain ⟨rfl, rfl⟩ := pure_eq_ok.1 hbody
      exact .inl ⟨rfl, hend⟩
  | failed => simp [hs] at hbody
  | refunded => simp [hs] at hbody
  | pending =>
      simp only [hs] at hbody
      obtain ⟨result, v₂, hobserve, hbody⟩ := bind_eq_ok.1 hbody
      -- A refused posting ends the unit of work with an answer, and what it wrote is given up.
      rcases of_observe_ok hobserve with ⟨e, rfl, hpost⟩ | ⟨error, rfl, -⟩
      · obtain ⟨q, v₃, hcomplete, hbody⟩ := bind_eq_ok.1 hbody
        obtain ⟨⟨⟩, v₄, hsave, hbody⟩ := bind_eq_ok.1 hbody
        obtain ⟨rfl, rfl⟩ := pure_eq_ok.1 hbody
        obtain ⟨hcompleted, rfl⟩ := liftLedger_eq_ok.1 hcomplete
        obtain rfl := Payment.of_complete hcompleted
        obtain ⟨b', hb', hsettled⟩ := of_post_save hb (hv₁.trans (hv.trans hw)) hp
          (.charged (precision.cut draws.movedAt) hs hwallet) hpost (liftStore_eq_ok.1 hsave)
        exact .inr (.inr ⟨_, b', rfl, rfl, hend.1, hend.2.trans hb', hsettled⟩)
      · obtain ⟨rfl, rfl⟩ := pure_eq_ok.1 hbody
        exact .inr (.inl ⟨rfl, ⟨error, hend.1⟩, hend.2⟩)

theorem of_payFromWallet_ok {id : PaymentId} {answer : Payment} (hb : b.Lawful)
    (hw : w.store = b.store precision) (h : payFromWallet draws id w = .ok answer u) :
    ∃ p ∈ b.payments, p.id = id ∧ p.method = .wallet ∧
      (p.status = .completed ∧ answer = p ∧ u.store = w.store ∨
        ∃ b', p.status = .pending ∧ answer.status = .completed ∧ u.store = b'.store precision ∧
          b.Settled p { answer with updatedAt := precision.cut answer.updatedAt } b') := by
  obtain ⟨outcome, v, hattempt, h⟩ := bind_eq_ok.1 h
  obtain ⟨p, hp, hid, hmethod, hcases⟩ := of_tryCharge hb hw hattempt
  refine ⟨p, hp, hid, hmethod, ?_⟩
  cases outcome with
  | error error => simp [bind_eq_ok] at h
  | ok q =>
      obtain ⟨rfl, rfl⟩ := pure_eq_ok.1 h
      rcases hcases with ⟨hs, ⟨⟩, hu⟩ | ⟨-, ⟨error, ⟨⟩⟩, -⟩ | ⟨q', b', hs, hq, ⟨⟩, hb', hsettled⟩
      · exact .inl ⟨hs, rfl, hu⟩
      · exact .inr ⟨b', hs, hq, hb', hsettled⟩

/-- A settlement that failed left no trace, or the refusal that it answers with is recorded. -/
theorem of_payFromWallet_error {id : PaymentId} {error : ServiceError} (hb : b.Lawful)
    (hw : w.store = b.store precision) (h : payFromWallet draws id w = .error error u) :
    u.store = w.store ∨
      ∃ p b', p.id = id ∧ p.status = .pending ∧ u.store = b'.store precision ∧
        b.Amended p { p with
          status := .failed
          errorMessage := some error.message
          updatedAt := precision.cut draws.movedAt } b' := by
  rcases bind_eq_error.1 h with hattempt | ⟨outcome, v, hattempt, h⟩
  · exact .inl (store_of_unitOfWork_error hattempt)
  obtain ⟨p, hp, hid, hmethod, hcases⟩ := of_tryCharge hb hw hattempt
  cases outcome with
  | ok q => cases h
  | error e =>
      have hv : v.store = w.store := by
        rcases hcases with ⟨-, ⟨⟩, -⟩ | ⟨-, -, hv⟩ | ⟨-, -, -, -, ⟨⟩, -⟩
        exact hv
      have hwallet (q : Payment) (hq : q ∈ b.payments) (hqid : q.id = id) : q.method = .wallet := by
        rw [hb.eq_of_id hq hp (hqid.trans hid.symm), hmethod]
      rcases bind_eq_error.1 h with hmark | ⟨⟨⟩, v', hmark, h⟩
      · exact .inl ((store_of_unitOfWork_error hmark).trans hv)
      · obtain ⟨rfl, rfl⟩ := throw_eq_error.1 h
        rcases of_markFailed hb (hv.trans hw) hwallet hmark with ⟨-, hu⟩ | hfailed
        · exact .inl (hu.trans hv)
        · exact .inr hfailed

/-! ## Gateway payments and refunds -/

/-- A checkout was open already, or the payment was given the reference and link of its gateway. -/
theorem of_checkout {gateways : Gateways} {id : PaymentId} {answer : Checkout} (hb : b.Lawful)
    (hw : w.store = b.store precision) (h : checkout gateways draws id w = .ok answer u) :
    ∃ p ∈ b.payments, p.id = id ∧ p.status = .pending ∧ p.method.isExternal ∧
      (p.checkout? = some answer ∧ u.store = w.store ∨
        ∃ gateway q b', gateways p.method = some gateway ∧
          gateway.openCheckout p draws.reference = .ok ⟨answer.externalId, answer.redirectUrl⟩ ∧
          q.status = .pending ∧ q.checkout? = some answer ∧ u.store = b'.store precision ∧
          b.Amended p q b') := by
  obtain ⟨v, ending, v', hv, hbody, hend⟩ := of_unitOfWork_ok h
  obtain ⟨p, v₁, hlock, hbody⟩ := bind_eq_ok.1 hbody
  obtain ⟨hp, hid, hv₁⟩ := of_locked (hv.trans hw) hlock
  by_cases hexternal : p.method.isExternal = true
  swap
  · simp [hexternal, bind_eq_ok] at hbody
  by_cases hpending : p.status = .pending
  swap
  · simp [hexternal, hpending, bind_eq_ok] at hbody
  simp only [hexternal, hpending, Bool.not_true, Bool.false_eq_true, ne_eq, not_true, if_false] at hbody
  refine ⟨p, hp, hid, hpending, hexternal, ?_⟩
  cases hopen : p.checkout? with
  | some found =>
      simp only [hopen] at hbody
      obtain ⟨rfl, rfl⟩ := pure_eq_ok.1 hbody
      exact .inl ⟨by rw [hend.1], hend.2⟩
  | none =>
      have hnone : p.externalId = none := by
        have link := (hb.wellFormed p hp).link
        cases he : p.externalId <;> cases hr : p.redirectUrl <;>
          simp_all [Payment.checkout?]
      simp only [hopen] at hbody
      cases hgateway : gateways p.method with
      | none => simp [hgateway, bind_eq_ok] at hbody
      | some gateway =>
          simp only [hgateway] at hbody
          obtain ⟨redirect, v₂, hredirect, hbody⟩ := bind_eq_ok.1 hbody
          obtain ⟨q, v₃, hattach, hbody⟩ := bind_eq_ok.1 hbody
          obtain ⟨⟨⟩, v₄, hsave, hbody⟩ := bind_eq_ok.1 hbody
          obtain ⟨rfl, rfl⟩ := pure_eq_ok.1 hbody
          obtain ⟨hredirected, rfl⟩ := liftGateway_eq_ok.1 hredirect
          obtain ⟨hattached, rfl⟩ := liftLedger_eq_ok.1 hattach
          obtain rfl := Payment.of_attachGateway hattached
          obtain ⟨b', hb', hamended⟩ := of_amend_save hb (hv₁.trans (hv.trans hw)) hp
            (.attached redirect.externalId redirect.url (precision.cut draws.movedAt) hpending
              hexternal hnone) (liftStore_eq_ok.1 hsave)
          obtain ⟨rfl, hu⟩ := hend
          refine .inr ⟨gateway, _, b', rfl, hredirected, ?_, ?_, hu.trans hb', hamended⟩
          · exact hpending
          · rfl

/-- A verdict had been applied already, or the payment that carries the reference took the step. -/
theorem of_applyVerdict {verdict : Verdict} {answer : Payment} (hb : b.Lawful)
    (hw : w.store = b.store precision) (h : applyVerdict draws verdict w = .ok answer u) :
    ∃ p ∈ b.payments, p.externalId = some verdict.externalId ∧
      (p.status = target verdict.success ∧ answer = p ∧ u.store = w.store ∨
        ∃ q b', p.status = .pending ∧ q.status = target verdict.success ∧
          q = { answer with updatedAt := precision.cut answer.updatedAt } ∧
          u.store = b'.store precision ∧
          if verdict.success then b.Settled p q b' else b.Amended p q b') := by
  obtain ⟨v, ending, v', hv, hbody, hend⟩ := of_unitOfWork_ok h
  obtain ⟨found, v₁, hlock, hbody⟩ := bind_eq_ok.1 hbody
  obtain ⟨hfind, hv₁⟩ := World.of_look_ok (liftStore_eq_ok.1 hlock)
  cases found with
  | none => simp [bind_eq_ok] at hbody
  | some p =>
      rw [hv, hw] at hfind
      obtain ⟨hp, he⟩ := Books.of_findPaymentOf hfind
      refine ⟨p, hp, he, ?_⟩
      obtain ⟨r, v₂, hpure, hbody⟩ := bind_eq_ok.1 hbody
      obtain ⟨rfl, rfl⟩ := pure_eq_ok.1 hpure
      dsimp only at hbody
      by_cases htarget : p.status = target verdict.success
      · rw [if_pos htarget] at hbody
        obtain ⟨rfl, rfl⟩ := pure_eq_ok.1 hbody
        exact .inl ⟨htarget, hend⟩
      rw [if_neg htarget] at hbody
      by_cases hpending : p.status = .pending
      swap
      · simp [hpending, bind_eq_ok] at hbody
      rw [if_neg (not_not.2 hpending)] at hbody
      by_cases hsuccess : verdict.success = true
      · rw [if_pos hsuccess] at hbody
        obtain ⟨e, v₃, hpost, hbody⟩ := bind_eq_ok.1 hbody
        obtain ⟨q, v₄, hcomplete, hbody⟩ := bind_eq_ok.1 hbody
        obtain ⟨⟨⟩, v₅, hsave, hbody⟩ := bind_eq_ok.1 hbody
        obtain ⟨rfl, rfl⟩ := pure_eq_ok.1 hbody
        obtain ⟨hcompleted, rfl⟩ := liftLedger_eq_ok.1 hcomplete
        obtain rfl := Payment.of_complete hcompleted
        obtain ⟨b', hb', hsettled⟩ := of_post_save hb (hv₁.trans (hv.trans hw)) hp
          (.toppedUp (precision.cut draws.movedAt) hpending (by simp [he])) hpost
          (liftStore_eq_ok.1 hsave)
        refine .inr ⟨_, b', hpending, ?_, by rw [hend.1], hend.2.trans hb', ?_⟩
        · simp [target, hsuccess]
        · rw [if_pos hsuccess]
          exact hsettled
      · rw [if_neg hsuccess] at hbody
        obtain ⟨q, v₄, hfail, hbody⟩ := bind_eq_ok.1 hbody
        obtain ⟨⟨⟩, v₅, hsave, hbody⟩ := bind_eq_ok.1 hbody
        obtain ⟨rfl, rfl⟩ := pure_eq_ok.1 hbody
        obtain ⟨hfailed, rfl⟩ := liftLedger_eq_ok.1 hfail
        obtain rfl := Payment.of_fail hfailed
        obtain ⟨b', hb', hamended⟩ := of_amend_save hb (hv₁.trans (hv.trans hw)) hp
          (.failed _ (precision.cut draws.movedAt) hpending (fun _ => by simp [he]))
          (liftStore_eq_ok.1 hsave)
        refine .inr ⟨_, b', hpending, ?_, by rw [hend.1], hend.2.trans hb', ?_⟩
        · simp [target, hsuccess]
        · rw [if_neg hsuccess]
          exact hamended

/-- A payment had been refunded already, or it was completed and is refunded now. -/
theorem of_refund {id : PaymentId} {answer : Payment} (hb : b.Lawful)
    (hw : w.store = b.store precision) (h : refund draws id w = .ok answer u) :
    ∃ p ∈ b.payments, p.id = id ∧
      (p.status = .refunded ∧ answer = p ∧ u.store = w.store ∨
        ∃ b', p.status = .completed ∧ answer.status = .refunded ∧ u.store = b'.store precision ∧
          b.Settled p { answer with updatedAt := precision.cut answer.updatedAt } b') := by
  obtain ⟨v, ending, v', hv, hbody, hend⟩ := of_unitOfWork_ok h
  obtain ⟨p, v₁, hlock, hbody⟩ := bind_eq_ok.1 hbody
  obtain ⟨hp, hid, hv₁⟩ := of_locked (hv.trans hw) hlock
  refine ⟨p, hp, hid, ?_⟩
  cases hs : p.status with
  | pending => simp [hs] at hbody
  | failed => simp [hs] at hbody
  | refunded =>
      simp only [hs] at hbody
      obtain ⟨rfl, rfl⟩ := pure_eq_ok.1 hbody
      exact .inl ⟨rfl, hend⟩
  | completed =>
      simp only [hs] at hbody
      obtain ⟨e, v₂, hpost, hbody⟩ := bind_eq_ok.1 hbody
      obtain ⟨q, v₃, hrefund, hbody⟩ := bind_eq_ok.1 hbody
      obtain ⟨⟨⟩, v₄, hsave, hbody⟩ := bind_eq_ok.1 hbody
      obtain ⟨rfl, rfl⟩ := pure_eq_ok.1 hbody
      obtain ⟨hrefunded, rfl⟩ := liftLedger_eq_ok.1 hrefund
      obtain rfl := Payment.of_refund hrefunded
      obtain ⟨b', hb', hsettled⟩ := of_post_save hb (hv₁.trans (hv.trans hw)) hp
        (.refunded (precision.cut draws.movedAt) hs) hpost (liftStore_eq_ok.1 hsave)
      obtain ⟨rfl, hu⟩ := hend
      exact .inr ⟨b', rfl, rfl, hu.trans hb', hsettled⟩

/-! ## Requests -/

section Request
variable {user : UserId} {amount : Int} {method : PaymentMethod} {booking : Option BookingId}

/-- A request that got past its amount has stored a new pending payment, or nothing at all. -/
theorem of_insert {a : Amount} (hw : w.store = b.store precision)
    (h : World.insertPayment (.requested draws.paymentId user a method booking draws.createdAt) w =
      .ok () u) :
    (∀ q ∈ b.payments, q.id ≠ draws.paymentId) ∧
      u.store = (b.addPayment (.requested draws.paymentId user a method booking
        (precision.cut draws.createdAt))).store precision := by
  have hinsert := World.of_write_ok h
  rw [hw] at hinsert
  exact Books.of_insertPayment hinsert

theorem of_request_ok {answer : Payment} (hb : b.Lawful) (hw : w.store = b.store precision)
    (h : request draws user amount method booking w = .ok answer u) :
    ∃ a p, Amount.ofInt amount = .ok a ∧
      p = .requested draws.paymentId user a method booking (precision.cut draws.createdAt) ∧
      (∀ q ∈ b.payments, q.id ≠ draws.paymentId) ∧
      (method ≠ .wallet ∧ u.store = (b.addPayment p).store precision ∧
          answer = .requested draws.paymentId user a method booking draws.createdAt ∨
        method = .wallet ∧ ∃ b', u.store = b'.store precision ∧
          (answer.status = .completed ∧ (b.addPayment p).Settled p
              { answer with updatedAt := precision.cut answer.updatedAt } b' ∨
            answer.status = .failed ∧ (b.addPayment p).Amended p answer b')) := by
  obtain ⟨a, w₁, hamount, h⟩ := bind_eq_ok.1 h
  obtain ⟨ha, rfl⟩ := liftLedger_eq_ok.1 hamount
  obtain ⟨⟨⟩, w₂, hinsert, h⟩ := bind_eq_ok.1 h
  obtain ⟨hfresh, hw₂⟩ := of_insert hw (liftStore_eq_ok.1 hinsert)
  refine ⟨a, _, ha, rfl, hfresh, ?_⟩
  have hb₁ := hb.requested hfresh user a method booking (precision.cut draws.createdAt)
  by_cases hmethod : method = .wallet
  swap
  · rw [if_pos hmethod] at h
    obtain ⟨rfl, rfl⟩ := pure_eq_ok.1 h
    exact .inl ⟨hmethod, hw₂, rfl⟩
  rw [if_neg (not_not.2 hmethod)] at h
  refine .inr ⟨hmethod, ?_⟩
  obtain ⟨outcome, w₃, hobserve, h⟩ := bind_eq_ok.1 h
  rcases of_observe_ok hobserve with ⟨q, rfl, hpay⟩ | ⟨error, rfl, hpay⟩
  · obtain ⟨rfl, rfl⟩ := pure_eq_ok.1 h
    obtain ⟨p, hp, hid, -, hcases⟩ := of_payFromWallet_ok hb₁ hw₂ hpay
    obtain rfl := hb₁.eq_of_id hp List.mem_cons_self hid
    rcases hcases with ⟨hs, -⟩ | ⟨b', -, hq, hu, hsettled⟩
    · cases hs
    · exact ⟨b', hu, .inl ⟨hq, hsettled⟩⟩
  · obtain ⟨stored, w₄, hfind, h⟩ := bind_eq_ok.1 h
    split_ifs at h with hfailed
    · obtain ⟨rfl, rfl⟩ := pure_eq_ok.1 h
      rcases of_payFromWallet_error hb₁ hw₂ hpay with hw₃ | ⟨p, b', hid, -, hw₃, hamended⟩
      · obtain ⟨hs, hsid⟩ := Books.of_findPayment (hw₃.trans hw₂ ▸ of_find_ok hfind)
        obtain rfl := hb₁.eq_of_id hs List.mem_cons_self hsid
        cases hfailed
      · have hw₄ := (readsOnly_find _).of_ok hfind
        obtain ⟨hs, hsid⟩ := Books.of_findPayment (hw₃ ▸ of_find_ok hfind)
        obtain rfl := hb₁.eq_of_id hamended.mem_old List.mem_cons_self hid
        obtain rfl := (hamended.lawful hb₁).eq_of_id hs hamended.mem_new hsid
        exact ⟨b', hw₄.trans hw₃, .inr ⟨rfl, hamended⟩⟩
    · simp at h

/-- Only the request of a wallet payment can fail and leave something: the payment that it stored, still
pending or already refused. -/
theorem of_request_error {error : ServiceError} (hb : b.Lawful) (hw : w.store = b.store precision)
    (h : request draws user amount method booking w = .error error u) :
    u.store = w.store ∨
      method = .wallet ∧ ∃ a p, Amount.ofInt amount = .ok a ∧
        p = .requested draws.paymentId user a method booking (precision.cut draws.createdAt) ∧
        (∀ q ∈ b.payments, q.id ≠ draws.paymentId) ∧
        (u.store = (b.addPayment p).store precision ∨
          ∃ q b', q.status = .failed ∧ u.store = b'.store precision ∧
            (b.addPayment p).Amended p q b') := by
  rcases bind_eq_error.1 h with hamount | ⟨a, w₁, hamount, h⟩
  · exact .inl (by rw [(liftLedger_eq_error.1 hamount).2])
  obtain ⟨ha, rfl⟩ := liftLedger_eq_ok.1 hamount
  rcases bind_eq_error.1 h with hinsert | ⟨⟨⟩, w₂, hinsert, h⟩
  · obtain ⟨cause, hinsert, -⟩ := liftStore_eq_error.1 hinsert
    exact .inl (World.store_of_write_error hinsert)
  obtain ⟨hfresh, hw₂⟩ := of_insert hw (liftStore_eq_ok.1 hinsert)
  have hb₁ := hb.requested hfresh user a method booking (precision.cut draws.createdAt)
  by_cases hmethod : method = .wallet
  swap
  · rw [if_pos hmethod] at h
    cases h
  rw [if_neg (not_not.2 hmethod)] at h
  refine .inr ⟨hmethod, a, _, ha, rfl, hfresh, ?_⟩
  rcases bind_eq_error.1 h with hobserve | ⟨outcome, w₃, hobserve, h⟩
  · exact absurd hobserve observe_ne_error
  rcases of_observe_ok hobserve with ⟨q, rfl, -⟩ | ⟨e, rfl, hpay⟩
  · cases h
  have hu : u.store = w₃.store := by
    rcases bind_eq_error.1 h with hfind | ⟨stored, w₄, hfind, h⟩
    · exact (readsOnly_find _).of_error hfind
    · have hw₄ := (readsOnly_find _).of_ok hfind
      split_ifs at h with hfailed
      · cases h
      · obtain ⟨-, rfl⟩ := throw_eq_error.1 h
        exact hw₄
  rcases of_payFromWallet_error hb₁ hw₂ hpay with hw₃ | ⟨p, b', hid, -, hw₃, hamended⟩
  · exact .inl (hu.trans (hw₃.trans hw₂))
  · obtain rfl := hb₁.eq_of_id hamended.mem_old List.mem_cons_self hid
    exact .inr ⟨_, b', rfl, hu.trans hw₃, hamended⟩

end Request
end Settlement
end Purse
