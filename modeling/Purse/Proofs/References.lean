import Purse.Proofs.Correspondence
import Purse.Proofs.LifeCycle
import Purse.Proofs.Refusal

/-!
# Records of payments and their references

Only a checkout gives a payment a reference and a link, and both are what the gateway of its method made
of the reference that was drawn for that checkout. No later step takes them away or changes them. So
after any run, whichever calls of the store failed in it, the record of a payment tells where its
reference comes from, and the reference leads to that payment and no other.
-/
namespace Purse
open Service

/-- A step is the checkout that gave a payment the reference and link that it has. -/
structure Step.Issued (step : Step) (p : Payment) : Prop where
  operation : step.operation = .checkout p.id
  redirect : ∃ q gateway redirect, q.SameTerms p ∧ step.gateways p.method = some gateway ∧
    gateway.openCheckout q step.draws.reference = .ok redirect ∧
    p.externalId = some redirect.externalId ∧ p.redirectUrl = some redirect.url

namespace Payment

variable {p q : Payment}

theorem of_checkout? {found : Checkout} (h : p.checkout? = some found) :
    p.externalId = some found.externalId ∧ p.redirectUrl = some found.redirectUrl := by
  cases he : p.externalId with
  | none => simp [checkout?, he] at h
  | some externalId =>
      cases hr : p.redirectUrl with
      | none => simp [checkout?, he, hr] at h
      | some redirectUrl =>
          simp only [checkout?, he, hr] at h
          cases h
          exact ⟨rfl, rfl⟩

/-- Only the step that gives a pending payment its reference leaves it pending. -/
theorem Progress.attached_or (h : p.Progress q) :
    q.status = .pending ∧ p.method.isExternal ∧ p.externalId = none ∨
      q.externalId = p.externalId ∧ q.redirectUrl = p.redirectUrl ∧ q.status ≠ .pending := by
  rcases h with h | ⟨posting, h⟩
  · cases h with
    | failed reason now hs hm => exact .inr ⟨rfl, rfl, nofun⟩
    | attached externalId redirectUrl now hs hm hnone => exact .inl ⟨hs, hm, hnone⟩
  · cases h with
    | charged now hs hm => exact .inr ⟨rfl, rfl, nofun⟩
    | toppedUp now hs he => exact .inr ⟨rfl, rfl, nofun⟩
    | refunded now hs => exact .inr ⟨rfl, rfl, nofun⟩

end Payment

theorem Step.Issued.progress {step : Step} {p q : Payment} (h : step.Issued p) (hstep : p.Progress q) :
    step.Issued q := by
  obtain ⟨old, gateway, redirect, hterms, hgateway, hredirect, he, hr⟩ := h.redirect
  rcases hstep.attached_or with ⟨-, -, hnone⟩ | ⟨he', hr', -⟩
  · simp [he] at hnone
  · constructor
    · rw [h.operation, hstep.sameTerms.id]
    · refine ⟨old, gateway, redirect, hterms.trans hstep.sameTerms, ?_, hredirect, he'.trans he,
        hr'.trans hr⟩
      rw [hstep.sameTerms.method, hgateway]

variable {b b' : Books} {precision : Precision} {operation : Operation} {answered : Bool} {r : Payment}

/-! ## One step -/

/-- Where a payment comes from: it was there, it was there and has taken a step, or it is new. Only a
checkout leaves a payment pending that has taken a step, and a new wallet payment is pending only if its
request failed. -/
theorem Operation.Does.of_mem (h : operation.Does b answered b') (hr : r ∈ b'.payments) :
    r ∈ b.payments ∨
      (∃ p ∈ b.payments, p.Progress r ∧ (r.status ≠ .pending ∨ operation = .checkout r.id)) ∨
      (operation = requesting r ∧ r.externalId = none ∧
        (answered → r.method = .wallet → r.status ≠ .pending)) := by
  cases h with
  | nothing _ => exact .inl hr
  | opened _ _ hopened => exact .inl (hopened.payments_eq ▸ hr)
  | posted _ _ _ hposted => exact .inl (hposted.payments_eq ▸ hr)
  | requested hoperation hmethod hrequests =>
      rcases List.mem_cons.1 hr with rfl | hr
      · refine .inr (.inr ⟨hoperation, ?_, fun hanswered hwallet => absurd hwallet (hmethod hanswered)⟩)
        rw [hrequests.requested]
        rfl
      · exact .inl hr
  | charged hoperation _ hwallet hrequests hsettled =>
      have hprogress := hsettled.progress
      rcases hsettled.of_mem hr with rfl | ⟨hr, hid⟩
      · refine .inr (.inr ⟨hoperation.trans hprogress.sameTerms.requesting_eq.symm, ?_, fun _ _ => ?_⟩)
        · obtain ⟨-, hsettles, -⟩ := hsettled
          rw [hsettles.externalId_eq, hrequests.requested]
          rfl
        · rcases hsettled.status_cases with ⟨-, hs⟩ | ⟨-, hs⟩ <;> simp [hs]
      · rcases List.mem_cons.1 hr with rfl | hr
        · exact absurd hprogress.sameTerms.id.symm hid
        · exact .inl hr
  | declined hoperation hwallet hrequests hfailed hamended =>
      have hprogress := hamended.progress
      rcases hamended.of_mem hr with rfl | ⟨hr, hid⟩
      · refine .inr (.inr ⟨hoperation.trans hprogress.sameTerms.requesting_eq.symm, ?_, fun _ _ => ?_⟩)
        · rcases hprogress.attached_or with ⟨hs, -⟩ | ⟨he, -⟩
          · simp [hs] at hfailed
          · rw [he, hrequests.requested]
            rfl
        · simp [hfailed]
      · rcases List.mem_cons.1 hr with rfl | hr
        · exact absurd hprogress.sameTerms.id.symm hid
        · exact .inl hr
  | settled _ _ hsettled =>
      rcases hsettled.of_mem hr with rfl | ⟨hr, -⟩
      · refine .inr (.inl ⟨_, hsettled.mem_old, hsettled.progress, .inl ?_⟩)
        rcases hsettled.status_cases with ⟨-, hs⟩ | ⟨-, hs⟩ <;> simp [hs]
      · exact .inl hr
  | amended _ hcause hamended =>
      rcases hamended.of_mem hr with rfl | ⟨hr, -⟩
      · refine .inr (.inl ⟨_, hamended.mem_old, hamended.progress, ?_⟩)
        rcases hcause with hs | hcheckout
        · exact .inl (by simp [hs])
        · exact .inr (hamended.progress.sameTerms.id ▸ hcheckout)
      · exact .inl hr

theorem Books.payments_eq_of_store (h : b.store precision = b'.store precision) :
    b.payments = b'.payments :=
  congrArg payments (store_injective h)

/-- A checkout leaves every payment as it was but the one that it gives a reference and link. -/
theorem Step.issued_of_checkout {step : Step} {id : PaymentId} (hb : b.Lawful)
    (hoperation : step.operation = .checkout id)
    (hstore : step.leaves (b.store precision) = b'.store precision) (hr : r ∈ b'.payments) :
    r ∈ b.payments ∨ step.Issued r := by
  have unchanged (h : step.leaves (b.store precision) = b.store precision) :
      r ∈ b.payments ∨ step.Issued r :=
    .inl (Books.payments_eq_of_store (h.symm.trans hstore) ▸ hr)
  unfold leaves at unchanged hstore
  cases h : step.outcome (b.store precision) with
  | error error u =>
      rw [h] at unchanged
      simp only [outcome, hoperation] at h
      exact unchanged (store_of_unitOfWork_error (map_eq_error.1 h))
  | ok answer u =>
      rw [h] at unchanged hstore
      simp only [outcome, hoperation] at h
      obtain ⟨found, h, -⟩ := map_eq_ok.1 h
      obtain ⟨p, hp, hid, hs, hm, ⟨-, hu⟩ | ⟨gateway, q, c, hgateway, hredirect, -, hopen, hu, hamended⟩⟩ :=
        Settlement.of_checkout hb rfl h
      · exact unchanged hu
      · rw [← Books.payments_eq_of_store (hu.symm.trans hstore)] at hr
        have hterms := hamended.progress.sameTerms
        rcases hamended.of_mem hr with rfl | ⟨hr, -⟩
        · obtain ⟨he, hlink⟩ := Payment.of_checkout? hopen
          refine .inr ⟨?_, p, gateway, _, hterms, ?_, hredirect, he, hlink⟩
          · rw [hoperation, hterms.id, hid]
          · rw [hterms.method, hgateway]
        · exact .inl hr

/-- Without faults only the charging of a stored payment can fail and leave something. -/
theorem Step.store_of_not_answered {step : Step} (hb : b.Lawful) (hfaults : step.faults = [])
    (hanswered : step.answered (b.store precision) = false)
    (hoperation : ∀ id, step.operation ≠ .payFromWallet id) :
    step.leaves (b.store precision) = b.store precision := by
  unfold answered at hanswered
  unfold leaves
  cases h : step.outcome (b.store precision) with
  | ok answer u => simp [h] at hanswered
  | error error u => exact Operation.store_of_perform_error hb rfl hfaults hoperation h

/-- Without faults a step leaves no wallet payment pending that was not pending before. -/
theorem Step.charged {step : Step} (hb : b.Lawful)
    (hstore : step.leaves (b.store precision) = b'.store precision)
    (hdoes : step.operation.Does b (step.answered (b.store precision)) b')
    (hfaults : step.faults = []) (hr : r ∈ b'.payments) (hwallet : r.method = .wallet) :
    r ∈ b.payments ∨ r.status ≠ .pending := by
  rcases hdoes.of_mem hr with hold | ⟨p, hp, hprogress, hcause⟩ | ⟨hrequest, -, hstatus⟩
  · exact .inl hold
  · apply Or.inr
    rcases hprogress.attached_or with ⟨-, hexternal, -⟩ | ⟨-, -, hs⟩
    · rw [← hprogress.sameTerms.method, hwallet] at hexternal
      cases hexternal
    · exact hs
  · cases hanswered : step.answered (b.store precision) with
    | true => exact .inr (hstatus hanswered hwallet)
    | false =>
        have hunchanged := Step.store_of_not_answered hb hfaults hanswered (hrequest ▸ nofun)
        rw [← Books.payments_eq_of_store (hunchanged.symm.trans hstore)] at hr
        exact .inl hr

/-! ## Runs -/

/-- Books in the middle of a run: every reference comes from a step of it, and if it meets no faults, no
wallet payment is pending. -/
structure Books.Traced (run : List Step) (b : Books) : Prop where
  issued : ∀ p ∈ b.payments, p.externalId.isSome → ∃ step ∈ run, step.Issued p
  charged : (∀ step ∈ run, step.faults = []) → ∀ p ∈ b.payments, p.method = .wallet → p.status ≠ .pending

theorem Books.Traced.step {run : List Step} (hb : b.Lawful) (htraced : b.Traced run) {step : Step}
    (hstep : step ∈ run) :
    ∃ b' : Books, step.leaves (b.store precision) = b'.store precision ∧ b'.Lawful ∧ b'.Traced run := by
  obtain ⟨b', hstore, hdoes⟩ := step.does precision hb
  refine ⟨b', hstore, hdoes.reaches.lawful hb, ?_, ?_⟩
  · intro r hr hsome
    have issued_of_new : step.Issued r → ∃ step ∈ run, step.Issued r := fun h => ⟨step, hstep, h⟩
    rcases hdoes.of_mem hr with hold | ⟨p, hp, hprogress, hcause⟩ | ⟨-, hnone, -⟩
    · exact htraced.issued r hold hsome
    · rcases hprogress.attached_or with ⟨hs, -, -⟩ | ⟨he, -, -⟩
      -- What a step leaves pending was checked out by it, and that is the step that issued the reference.
      · have hcheckout := hcause.resolve_left (not_not.2 hs)
        rcases Step.issued_of_checkout hb hcheckout hstore hr with hold | hissued
        · exact htraced.issued r hold hsome
        · exact issued_of_new hissued
      · obtain ⟨origin, horigin, hissued⟩ := htraced.issued p hp (he ▸ hsome)
        exact ⟨origin, horigin, hissued.progress hprogress⟩
    · simp [hnone] at hsome
  · intro hfaults r hr hwallet
    rcases Step.charged hb hstore hdoes (hfaults step hstep) hr hwallet with hold | hs
    · exact htraced.charged hfaults r hold hwallet
    · exact hs

/-- A payment has a reference and link that one of the two hosted gateways made of a drawn reference. -/
def Payment.Bears (p : Payment) (baseA baseB : String) (drawn : Reference) (e : String) : Prop :=
  match p.method with
  | .wallet => False
  | .gatewayA => e = "ga_" ++ drawn.text ∧ p.redirectUrl = some (Gateway.linkA baseA e p.amount)
  | .gatewayB => e = "gb_" ++ drawn.text ∧ p.redirectUrl = some (Gateway.linkB baseB e p.amount)

/-- How the fields of a payment's record agree with each other and with a run that had the two hosted
gateways. -/
structure Payment.Documented (p : Payment) (baseA baseB : String) (run : List Step) : Prop where
  wallet : p.method = .wallet → p.externalId = none ∧ p.redirectUrl = none
  link : p.redirectUrl.isSome ↔ p.externalId.isSome
  unreferenced : p.method.isExternal → p.externalId = none → p.status = .pending
  reference : ∀ e, p.externalId = some e →
    ∃ step ∈ run, step.operation = .checkout p.id ∧ p.Bears baseA baseB step.draws.reference e
  reason : p.errorMessage.isSome ↔ p.status = .failed

theorem Step.Issued.bears {step : Step} {p : Payment} {baseA baseB e : String} (h : step.Issued p)
    (hgateways : step.gateways = .hosted baseA baseB) (he : p.externalId = some e) :
    p.Bears baseA baseB step.draws.reference e := by
  obtain ⟨q, gateway, redirect, hterms, hgateway, hredirect, hreference, hlink⟩ := h.redirect
  obtain rfl : e = redirect.externalId := by rwa [he, Option.some.injEq] at hreference
  rw [hgateways] at hgateway
  unfold Payment.Bears
  rw [hlink, hterms.amount]
  have hqm := hterms.method
  cases hm : p.method with
  | wallet => simp [hm, Gateways.hosted] at hgateway
  | gatewayA =>
      simp only [hm, Gateways.hosted, Option.some.injEq] at hgateway
      subst hgateway
      simp only [Gateway.a, Gateway.hosted, ← hqm, hm, if_true, Except.ok.injEq] at hredirect
      subst hredirect
      exact ⟨rfl, rfl⟩
  | gatewayB =>
      simp only [hm, Gateways.hosted, Option.some.injEq] at hgateway
      subst hgateway
      simp only [Gateway.b, Gateway.hosted, ← hqm, hm, if_true, Except.ok.injEq] at hredirect
      subst hredirect
      exact ⟨rfl, rfl⟩

theorem Books.Traced.documented {run : List Step} {baseA baseB : String} {p : Payment} (hb : b.Lawful)
    (htraced : b.Traced run) (hgateways : ∀ step ∈ run, step.gateways = .hosted baseA baseB)
    (hp : p ∈ b.payments) : p.Documented baseA baseB run := by
  have hwell := hb.wellFormed p hp
  constructor
  · intro hwallet
    have hnone := Settlement.externalId_eq_none hb hp hwallet
    exact ⟨hnone, hwell.no_link hnone⟩
  · exact hwell.link
  · exact hwell.unreferenced
  · intro e he
    obtain ⟨step, hstep, hissued⟩ := htraced.issued p hp (by simp [he])
    exact ⟨step, hstep, hissued.operation, hissued.bears (hgateways step hstep) he⟩
  · exact hwell.reason

/-- After any run with the two hosted gateways the payments have different identifiers, every record is in
order, and a reference finds the one payment that has it. If no call of the store failed, every wallet
payment has been charged or declined. -/
theorem Store.payments_documented (precision : Precision) (baseA baseB : String) (run : List Step)
    (hgateways : ∀ step ∈ run, step.gateways = .hosted baseA baseB) :
    ∃ ps, ((empty precision).after run).allPayments = .ok ps ∧
      (ps.map Payment.id).Nodup ∧
      (∀ p ∈ ps, p.Documented baseA baseB run ∧ ∀ e, p.externalId = some e →
        (∀ q ∈ ps, q.externalId = some e → q = p) ∧
          World.lockPaymentOf e ⟨(empty precision).after run, []⟩ =
            .ok (some p) ⟨(empty precision).after run, []⟩) ∧
      ((∀ step ∈ run, step.faults = []) → ∀ p ∈ ps, p.method = .wallet → p.status ≠ .pending) := by
  have hempty : Books.Traced run {} := ⟨by simp, by simp⟩
  obtain ⟨b, hb, hlawful, htraced⟩ : ∃ b : Books, (empty precision).after run = b.store precision ∧
      b.Lawful ∧ b.Traced run :=
    Books.lawful_empty.run_steps hempty (fun hc htraced step hstep => htraced.step hc hstep) run
      fun _ h => h
  rw [hb]
  refine ⟨b.payments, Books.allPayments_store, hlawful.paymentIds, fun p hp => ?_, htraced.charged⟩
  refine ⟨htraced.documented hlawful hgateways hp, fun e he => ⟨fun q hq hqe => ?_, ?_⟩⟩
  · exact hlawful.eq_of_reference hp hq he hqe
  · exact World.look_eq_ok (hlawful.findPaymentOf hp he)

/-- A gateway payment with its checkout, and a wallet payment that is declined. -/
theorem Store.documented_of_checkout :
    ∃ run p q, run = [Operation.step (.requestPayment ⟨.ofDigit 7⟩ 500 .gatewayA none) 1,
        Operation.step (.checkout ⟨.ofDigit 1⟩) 2,
        Operation.step (.requestPayment ⟨.ofDigit 7⟩ 300 .wallet none) 3] ∧
      ((empty .microsecond).after run).allPayments = .ok [q, p] ∧
      q.method = .wallet ∧ q.status = .failed ∧
      p.externalId = some ("ga_" ++ (Draws.ofDigit 2).reference.text) ∧
      p.Documented Gateway.defaultBaseA Gateway.defaultBaseB run := by
  have hstored : ∃ run p q, run = [Operation.step (.requestPayment ⟨.ofDigit 7⟩ 500 .gatewayA none) 1,
        Operation.step (.checkout ⟨.ofDigit 1⟩) 2,
        Operation.step (.requestPayment ⟨.ofDigit 7⟩ 300 .wallet none) 3] ∧
      ((empty .microsecond).after run).allPayments = .ok [q, p] ∧
      q.method = .wallet ∧ q.status = .failed ∧
      p.externalId = some ("ga_" ++ (Draws.ofDigit 2).reference.text) :=
    ⟨_, _, _, rfl, rfl, rfl, rfl, rfl⟩
  obtain ⟨run, p, q, hrun, hread, hwallet, hfailed, he⟩ := hstored
  have hgateways : ∀ step ∈ run, step.gateways = .hosted Gateway.defaultBaseA Gateway.defaultBaseB := by
    simp [hrun, Operation.step]
  obtain ⟨ps, hps, -, hdocumented, -⟩ := payments_documented .microsecond Gateway.defaultBaseA
    Gateway.defaultBaseB run hgateways
  obtain rfl := Except.ok.inj (hread.symm.trans hps)
  exact ⟨run, p, q, hrun, hread, hwallet, hfailed, he, (hdocumented p (by simp)).1⟩

end Purse
